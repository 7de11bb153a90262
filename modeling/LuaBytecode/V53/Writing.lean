import LuaBytecode.Text.Utf8
import LuaBytecode.Tree
import LuaBytecode.V53.Prototype

namespace LuaBytecode.V53

structure Marked where
  function : Function
  isLong : Nat → Bool

namespace Write

def int (n : Int) : Bytes := Bytes.ofNat 4 (unsigned 32 n)

def number (value : Double) : Bytes := Bytes.ofNat 8 value.bits.toNat

def size (n : Nat) : Bytes := if n < 255 then [UInt8.ofNat n] else 255 :: Bytes.ofNat 8 n

def string (text : String) : Bytes :=
  let bytes := Text.Utf8.encode text
  size (bytes.length + 1) ++ bytes

def constant (isLong : Bool) : Constant → Bytes
  | .nil => [0]
  | .bool value => [1, if value then 1 else 0]
  | .num value => 3 :: number value
  | .int value => 19 :: Bytes.ofNat 8 (unsigned 64 value)
  | .str text => (if isLong then 20 else 4) :: string text
  | .emptyList => []

def countedAs {α : Type} (count : Int) (write : α → Bytes) (items : List α) : Bytes :=
  int count ++ items.flatMap write

def counted {α : Type} (write : α → Bytes) (items : List α) : Bytes :=
  countedAs items.length write items

def constants (isLong : Nat → Bool) (items : List Constant) : Bytes :=
  counted (fun (each, place) => constant (isLong place) each) items.zipIdx

def upvalue (each : Upvalue) : Bytes := Bytes.ofByte each.inStack ++ Bytes.ofByte each.index

def localVariable (each : Local) : Bytes :=
  string each.name ++ int each.startPc ++ int each.endPc

def front (each : Marked) : Bytes :=
  string each.function.source ++ int each.function.lineDefined ++
    int each.function.lastLineDefined ++ Bytes.ofByte each.function.paramCount ++
    Bytes.ofByte each.function.varargFlag ++ Bytes.ofByte each.function.maxStackSize ++
    counted (fun each : Instruction => int each.word.value) each.function.code ++
    constants each.isLong each.function.constants ++ counted upvalue each.function.upvalues

def debug (each : Marked) : Bytes :=
  counted int each.function.lineInfo ++ counted localVariable each.function.locals ++
    counted string each.function.upvalueNames

def prototype : Tree Marked → Bytes := Tree.spell front (fun count => int count) debug

def header (upvalueCount : Nat) : Bytes :=
  signature ++ [0x53, 0] ++ data ++ [4, 8, 4, 8, 8] ++ Bytes.ofNat 8 testInteger.toNat ++
    number testNumber ++ Bytes.ofByte upvalueCount

end Write

def standardHeader (upvalueCount : Nat) : Header where
  signature := signature
  version := 0x53
  format := 0
  data := data
  intWidth := 4
  sizeWidth := 8
  instructionWidth := 4
  integerWidth := 8
  numberWidth := 8
  testInteger := testInteger
  testNumber := testNumber
  upvalueCount := upvalueCount

def write (upvalueCount : Nat) (main : Tree Marked) : Bytes :=
  Write.header upvalueCount ++ Write.prototype main

end LuaBytecode.V53
