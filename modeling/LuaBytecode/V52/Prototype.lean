import LuaBytecode.Bytes
import LuaBytecode.Constant
import LuaBytecode.Instruction
import LuaBytecode.Tree
import LuaBytecode.V52.Opcode

namespace LuaBytecode.V52

structure Instruction extends LuaBytecode.Instruction Opcode.ofNumber? where
  pc : Int := 0
deriving DecidableEq

structure Function where
  lineDefined : Int := 0
  lastLineDefined : Int := 0
  paramCount : Int := 0
  varargFlag : Int := 0
  maxStackSize : Int := 0
  code : List Instruction := []
  constants : List Constant := []
  upvalues : List Upvalue := []
  source : String := ""
  lineInfo : List Int := []
  locals : List Local := []
  upvalueNames : List String := []
deriving DecidableEq, Inhabited

abbrev Prototype := Tree Function

structure Header where
  version : Nat
  format : Nat
  order : ByteOrder
  intWidth : Nat
  sizeWidth : Nat
  instructionWidth : Nat
  numberWidth : Nat
  numberFlag : Nat
deriving DecidableEq, Repr

structure Chunk where
  header : Header
  main : Prototype
deriving DecidableEq

def signature : Bytes := [0x1B, 0x4C, 0x75, 0x61]

-- Bytes that a transfer as text would change.
def tail : Bytes := [0x19, 0x93, 0x0D, 0x0A, 0x1A, 0x0A]

-- Before a header is read, sizes are eight bytes wide.
def initialLayout : Layout := { sizeWidth := 8 }

end LuaBytecode.V52
