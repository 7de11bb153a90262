import LuaBytecode.Text.Utf8
import LuaBytecode.Tree
import LuaBytecode.V52.Prototype

namespace LuaBytecode.V52

inductive Spelling where
  | nil
  | bool (value : Bool)
  | num (value : Double)
  | whole (value : Double) (n : Int) (exact : value.equalsInt n)
  | str (isLong : Bool) (text : String)

def Spelling.constant : Spelling → Constant
  | nil => .nil
  | bool value => .bool value
  | num value => .num value
  | whole _ n _ => .int n
  | str _ text => .str text

structure Spelled where
  function : Function
  spellings : List Spelling
  agree : spellings.map Spelling.constant = function.constants

namespace Write

def word (layout : Layout) (n : Int) : Bytes := layout.order.encode 4 (unsigned 32 n)

def size (layout : Layout) (n : Nat) : Bytes := layout.order.encode layout.sizeWidth n

def number (layout : Layout) (value : Double) : Bytes := layout.order.encode 8 value.bits.toNat

def string (layout : Layout) (text : String) : Bytes :=
  let bytes := Text.Utf8.encode text
  size layout (bytes.length + 1) ++ bytes ++ [0]

def constant (layout : Layout) : Spelling → Bytes
  | .nil => [0]
  | .bool value => [1, if value then 1 else 0]
  | .num value => 3 :: number layout value
  | .whole value _ _ => 19 :: number layout value
  | .str isLong text => (if isLong then 20 else 4) :: string layout text

-- Items behind a count, which need not be theirs.
def countedAs {α : Type} (layout : Layout) (count : Int) (write : α → Bytes) (items : List α) :
    Bytes :=
  word layout count ++ items.flatMap write

def counted {α : Type} (layout : Layout) (write : α → Bytes) (items : List α) : Bytes :=
  countedAs layout items.length write items

def upvalue (each : Upvalue) : Bytes := Bytes.ofByte each.inStack ++ Bytes.ofByte each.index

def localVariable (layout : Layout) (each : Local) : Bytes :=
  string layout each.name ++ word layout each.startPc ++ word layout each.endPc

def front (layout : Layout) (each : Spelled) : Bytes :=
  word layout each.function.lineDefined ++ word layout each.function.lastLineDefined ++
    Bytes.ofByte each.function.paramCount ++ Bytes.ofByte each.function.varargFlag ++
    Bytes.ofByte each.function.maxStackSize ++
    counted layout (fun each : Instruction => word layout each.word.value) each.function.code ++
    counted layout (constant layout) each.spellings

def back (layout : Layout) (each : Spelled) : Bytes :=
  counted layout upvalue each.function.upvalues ++ string layout each.function.source ++
    counted layout (word layout) each.function.lineInfo ++
    counted layout (localVariable layout) each.function.locals ++
    counted layout (string layout) each.function.upvalueNames

def prototype (layout : Layout) : Tree Spelled → Bytes :=
  Tree.spell (front layout) (fun count => word layout count) (back layout)

def orderFlag : ByteOrder → UInt8
  | .little => 1
  | .big => 0

def header (header : Header) : Bytes :=
  signature ++ Bytes.ofByte header.version ++ Bytes.ofByte header.format ++
    [orderFlag header.order] ++ Bytes.ofByte header.intWidth ++ Bytes.ofByte header.sizeWidth ++
    Bytes.ofByte header.instructionWidth ++ Bytes.ofByte header.numberWidth ++
    Bytes.ofByte header.numberFlag ++ tail

end Write

def Header.layout (header : Header) : Layout where
  order := header.order
  intWidth := header.intWidth
  sizeWidth := header.sizeWidth
  instructionWidth := header.instructionWidth
  numberWidth := header.numberWidth

def write (header : Header) (main : Tree Spelled) : Bytes :=
  Write.header header ++ Write.prototype header.layout main

end LuaBytecode.V52
