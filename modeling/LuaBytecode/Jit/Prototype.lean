import LuaBytecode.Bytes
import LuaBytecode.Constant

namespace LuaBytecode.Jit

structure Table where
  array : List Constant
  hash : List (Constant × Constant)
deriving DecidableEq, Repr

inductive Collectable where
  | child
  | table (table : Table)
  | i64 (value : Int)
  | u64 (value : Int)
  | complex (real imaginary : Double)
  | str (text : String)
  -- A kind that no dump holds but a prototype may be built with.
  | other (label : String) (value : Constant)
deriving DecidableEq, Repr

inductive Number where
  | int (value : Int)
  | num (value : Double)
deriving DecidableEq, Repr

structure Prototype where
  size : Int := 0
  flags : Int := 0
  paramCount : Int := 0
  frameSize : Int := 0
  upvalueCount : Int := 0
  collectableCount : Int := 0
  numberCount : Int := 0
  codeCount : Int := 0
  debugSize : Int := 0
  firstLine : Int := 0
  lineCount : Int := 0
  code : List Int := []
  upvalueData : List Int := []
  collectables : List Collectable := []
  numbers : List Number := []
  lineInfo : List Int := []
  upvalueNames : List String := []
  variableNames : List String := []
deriving DecidableEq, Repr

structure Header where
  version : Nat
  flags : Nat
  sourceName : String
deriving DecidableEq, Repr

namespace Header

def isBigEndian (header : Header) : Bool := header.flags % 2 = 1
def isStripped (header : Header) : Bool := header.flags / 2 % 2 = 1
def hasForeign (header : Header) : Bool := header.flags / 4 % 2 = 1

end Header

structure Dump where
  header : Header
  prototypes : List Prototype
deriving DecidableEq, Repr

def signature : Bytes := [0x1B, 0x4C, 0x4A]

def version : Nat := 1

end LuaBytecode.Jit
