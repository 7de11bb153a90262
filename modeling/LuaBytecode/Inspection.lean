import LuaBytecode.Detection
import LuaBytecode.Jit.Listing
import LuaBytecode.Jit.Reading
import LuaBytecode.Store
import LuaBytecode.V51.Listing
import LuaBytecode.V51.Reading
import LuaBytecode.V52.Listing
import LuaBytecode.V52.Reading
import LuaBytecode.V53.Listing
import LuaBytecode.V53.Reading
import LuaBytecode.V54.Listing
import LuaBytecode.V54.Parsing

namespace LuaBytecode

open Text

structure Inspection where
  said : String
  fault : Option Fault := none
deriving DecidableEq, Repr

namespace Inspection

def ofReading {α : Type} (opening : String) (reading : Except Fault α × Input)
    (rows : α → List String) : Inspection :=
  let (result, input) := reading
  match result with
  | .ok value => { said := opening ++ input.said ++ lines (rows value) }
  | .error fault => { said := opening ++ input.said, fault := some fault }

def rule : String := times 80 "="

def ofV51 (name : String) (bytes : Bytes) : Inspection :=
  ofReading "" (V51.parse bytes) fun chunk =>
    ["Lua 5.1 Bytecode Analysis: " ++ name, rule] ++ chunk.header.listing ++ [rule] ++
      V51.listing 0 chunk.main

-- The header is listed before the function, which may fail.
def ofV52 (bytes : Bytes) : Inspection :=
  let (result, input) := V52.parse bytes
  match result with
  | .error fault => { said := input.said, fault := some fault }
  | .ok chunk =>
    let head := input.said ++ lines chunk.header.listing
    match V52.listing 0 chunk.main with
    | .ok rows => { said := head ++ lines rows }
    | .error fault => { said := head, fault := some fault }

def ofV53 (name : String) (bytes : Bytes) : Inspection :=
  let opening := lines ["正在解析 Lua 5.3 字节码文件: " ++ name, s!"文件大小: {bytes.length} 字节", ""]
  ofReading opening (V53.parse bytes) fun chunk =>
    ["主函数原型:", rule] ++ V53.listing 0 chunk.main ++ ["\n解析完成!"]

def ofV54 (bytes : Bytes) : Inspection :=
  ofReading "" (V54.parse true bytes) fun chunk => V54.listing 0 chunk.main

def ofJit (bytes : Bytes) : Inspection := ofReading "" (Jit.parse bytes) Jit.Dump.listing

def ofBytes (dialect : Dialect) (name : String) (bytes : Bytes) : Inspection :=
  match dialect with
  | .v51 => ofV51 name bytes
  | .v52 => ofV52 bytes
  | .v53 => ofV53 name bytes
  | .v54 => ofV54 bytes
  | .jit => ofJit bytes

def ofFile (dialect : Dialect) (name : String) : Except Fault Bytes → Inspection
  | .ok bytes => ofBytes dialect name bytes
  | .error fault => { said := "", fault := some fault }

end Inspection

structure Verdict where
  said : String
  verdict : Option String
deriving DecidableEq, Repr

def inspect (version name : String) (file : Except Fault Bytes) : Verdict :=
  match Dialect.ofText? version with
  | none => { said := "", verdict := some ("❌ 不支持的版本: " ++ version) }
  | some dialect =>
    let inspection := Inspection.ofFile dialect name file
    { said := inspection.said
      verdict := inspection.fault.map fun fault => "❌ 解析失败: " ++ fault.message }

end LuaBytecode
