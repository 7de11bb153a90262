import LuaBytecode.Text.Utf8
import LuaBytecode.Tree
import LuaBytecode.V51.Prototype

namespace LuaBytecode.V51

namespace Write

def int (layout : Layout) (n : Int) : Bytes := layout.order.encode 4 (unsigned 32 n)

def size (layout : Layout) (n : Nat) : Bytes :=
  layout.order.encode (if layout.sizeWidth = 4 then 4 else 8) n

def number (layout : Layout) (value : Double) : Bytes := layout.order.encode 8 value.bits.toNat

def string (layout : Layout) (text : String) : Bytes :=
  let bytes := Text.Utf8.encode text
  size layout (bytes.length + 1) ++ bytes ++ [0]

def instruction (layout : Layout) (word : Word) : Bytes :=
  layout.order.encode 4 (unsigned 32 word.value)

def constant (layout : Layout) : Constant → Bytes
  | .nil => [0]
  | .bool value => [1, if value then 1 else 0]
  | .num value => 3 :: number layout value
  | .str text => 4 :: string layout text
  | .int _ => []
  | .emptyList => []

-- Items behind a count, which need not be theirs.
def countedAs {α : Type} (layout : Layout) (count : Int) (write : α → Bytes) (items : List α) :
    Bytes :=
  int layout count ++ items.flatMap write

def counted {α : Type} (layout : Layout) (write : α → Bytes) (items : List α) : Bytes :=
  countedAs layout items.length write items

def localVariable (layout : Layout) (each : Local) : Bytes :=
  string layout each.name ++ int layout each.startPc ++ int layout each.endPc

def front (layout : Layout) (function : Function) : Bytes :=
  string layout function.source ++ int layout function.lineDefined ++
    int layout function.lastLineDefined ++ Bytes.ofByte function.upvalueCount ++
    Bytes.ofByte function.paramCount ++ Bytes.ofByte function.varargFlag ++
    Bytes.ofByte function.maxStackSize ++
    counted layout (fun each : Instruction => instruction layout each.word) function.code ++
    counted layout (constant layout) function.constants

def debug (layout : Layout) (function : Function) : Bytes :=
  counted layout (int layout) function.lineInfo ++
    counted layout (localVariable layout) function.locals ++
    counted layout (string layout) function.upvalueNames

def prototype (layout : Layout) : Prototype → Bytes :=
  Tree.spell (front layout) (fun count => int layout count) (debug layout)

def header (header : Header) : Bytes :=
  header.signature ++ Bytes.ofByte header.version ++ Bytes.ofByte header.format ++
    Bytes.ofByte header.orderFlag ++ Bytes.ofByte header.intWidth ++
    Bytes.ofByte header.sizeWidth ++ Bytes.ofByte header.instructionWidth ++
    Bytes.ofByte header.numberWidth ++ Bytes.ofByte header.integralFlag

end Write

def write (chunk : Chunk) : Bytes :=
  Write.header chunk.header ++ Write.prototype chunk.header.layout chunk.main

end LuaBytecode.V51
