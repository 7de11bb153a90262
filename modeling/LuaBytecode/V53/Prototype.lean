import LuaBytecode.Bytes
import LuaBytecode.Constant
import LuaBytecode.Instruction
import LuaBytecode.Tree
import LuaBytecode.V53.Opcode

namespace LuaBytecode.V53

abbrev Instruction := LuaBytecode.Instruction Opcode.ofNumber?

structure Function where
  source : String := ""
  lineDefined : Int := 0
  lastLineDefined : Int := 0
  paramCount : Int := 0
  varargFlag : Int := 0
  maxStackSize : Int := 0
  code : List Instruction := []
  constants : List Constant := []
  upvalues : List Upvalue := []
  lineInfo : List Int := []
  locals : List Local := []
  upvalueNames : List String := []
deriving DecidableEq, Inhabited

abbrev Prototype := Tree Function

structure Header where
  signature : Bytes
  version : Nat
  format : Nat
  data : Bytes
  intWidth : Nat
  sizeWidth : Nat
  instructionWidth : Nat
  integerWidth : Nat
  numberWidth : Nat
  testInteger : Int
  testNumber : Double
  upvalueCount : Nat
deriving DecidableEq, Repr

structure Chunk where
  header : Header
  main : Prototype
deriving DecidableEq

def signature : Bytes := [0x1B, 0x4C, 0x75, 0x61]

-- Bytes that a transfer as text would change.
def data : Bytes := [0x19, 0x93, 0x0D, 0x0A, 0x1A, 0x0A]

def testInteger : Int := 0x5678

-- The number 370.5.
def testNumber : Double := ⟨0x4077280000000000⟩

end LuaBytecode.V53
