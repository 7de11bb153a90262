import LuaBytecode.Fault
import LuaBytecode.Text.Layout

namespace LuaBytecode

inductive Dialect where
  | v51
  | v52
  | v53
  | v54
  | jit
deriving DecidableEq, Repr

inductive Detection where
  | unknownFormat
  | v51
  | v52
  | v53
  | v54
  | jit20
  | jit21
  | jitOther (version : Nat)
  | unknownVersion (version : Nat)
  | failed (fault : Fault)
deriving DecidableEq, Repr

namespace Detection

def text : Detection → String
  | unknownFormat => "未知格式"
  | v51 => "Lua 5.1"
  | v52 => "Lua 5.2"
  | v53 => "Lua 5.3"
  | v54 => "Lua 5.4"
  | jit20 => "LuaJIT 2.0"
  | jit21 => "LuaJIT 2.1"
  | jitOther version => s!"LuaJIT (未知版本: {version})"
  | unknownVersion version => "未知Lua版本: 0x" ++ Text.padZero 2 (Text.hexLower version)
  | failed fault => "检测失败: " ++ fault.message

-- The version byte of LuaJIT stands before the one that the other versions have.
def ofJitVersion (version : Nat) : Detection :=
  match version with
  | 1 => jit20
  | 2 => jit21
  | _ => jitOther version

def isJit (bytes : Bytes) : Bool := bytes.take 3 = [0x1B, 0x4C, 0x4A]

def isLua (bytes : Bytes) : Bool := bytes.take 4 = [0x1B, 0x4C, 0x75, 0x61]

-- The fifth byte is asked first, also of a file with the mark of LuaJIT.
def ofBytes (bytes : Bytes) : Detection :=
  if !isLua bytes && !isJit bytes then unknownFormat
  else
    match bytes with
    | _ :: _ :: _ :: mark :: version :: _ :: _ =>
      match version.toNat with
      | 0x51 => v51
      | 0x52 => v52
      | 0x53 => v53
      | 0x54 => v54
      | other => if isJit bytes then ofJitVersion mark.toNat else unknownVersion other
    | _ => failed .indexRange

def ofFile : Except Fault Bytes → Detection
  | .ok bytes => ofBytes bytes
  | .error fault => failed fault

def isHopeless : Detection → Bool
  | unknownFormat => true
  | unknownVersion _ => true
  | failed _ => true
  | _ => false

end Detection

def Dialect.ofText? (version : String) : Option Dialect :=
  if "LuaJIT".toList.isPrefixOf version.toList then some .jit
  else if version = "Lua 5.1" then some .v51
  else if version = "Lua 5.2" then some .v52
  else if version = "Lua 5.3" then some .v53
  else if version = "Lua 5.4" then some .v54
  else none

end LuaBytecode
