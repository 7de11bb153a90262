import LuaBytecode.Bytes
import LuaBytecode.Constant
import LuaBytecode.Instruction
import LuaBytecode.Tree
import LuaBytecode.V51.Opcode

namespace LuaBytecode.V51

abbrev Instruction := LuaBytecode.Instruction Opcode.ofNumber?

structure Function where
  source : String := ""
  lineDefined : Int := 0
  lastLineDefined : Int := 0
  upvalueCount : Int := 0
  paramCount : Int := 0
  varargFlag : Int := 0
  maxStackSize : Int := 0
  code : List Instruction := []
  constants : List Constant := []
  lineInfo : List Int := []
  locals : List Local := []
  upvalueNames : List String := []
deriving DecidableEq, Inhabited

abbrev Prototype := Tree Function

structure Header where
  signature : Bytes
  version : Nat
  format : Nat
  orderFlag : Nat
  intWidth : Nat
  sizeWidth : Nat
  instructionWidth : Nat
  numberWidth : Nat
  integralFlag : Nat
deriving DecidableEq, Repr

structure Chunk where
  header : Header
  main : Prototype
deriving DecidableEq

def signature : Bytes := [0x1B, 0x4C, 0x75, 0x61]

-- One little-endian flag; every other value means big-endian.
def orderOfFlag (flag : Nat) : ByteOrder := if flag = 1 then .little else .big

def Header.layout (header : Header) : Layout where
  order := orderOfFlag header.orderFlag
  intWidth := header.intWidth
  sizeWidth := header.sizeWidth
  instructionWidth := header.instructionWidth
  numberWidth := header.numberWidth

end LuaBytecode.V51
