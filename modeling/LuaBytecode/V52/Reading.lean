import LuaBytecode.Reader
import LuaBytecode.Text.Utf8
import LuaBytecode.V52.Prototype

namespace LuaBytecode.V52

namespace Read

open Reader

def bytes (count : Nat) : Reader Bytes := take count fun _ => .endOfData

def byte : Reader Nat := do
  let taken ← bytes 1
  pure (Bytes.toNat taken)

def word : Reader Nat := do
  let taken ← bytes 4
  let layout ← layout
  fixed layout.order 4 taken

def long : Reader Nat := do
  let taken ← bytes 8
  let layout ← layout
  fixed layout.order 8 taken

def number : Reader Double := do
  let n ← long
  pure ⟨UInt64.ofNat n⟩

def size : Reader Nat := do
  let layout ← layout
  if layout.sizeWidth = 4 then word
  else if layout.sizeWidth = 8 then long
  else fail (.sizeWidth layout.sizeWidth)

def withoutEnd (bytes : Bytes) : Bytes := if bytes.getLast? = some 0 then bytes.dropLast else bytes

def string : Reader String := do
  let size ← size
  if size = 0 then pure ""
  else
    let taken ← bytes size
    pure (Text.Utf8.decodeOrBytewise (withoutEnd taken))

def instruction : Reader (LuaBytecode.Instruction Opcode.ofNumber?) := do
  let layout ← layout
  require (layout.instructionWidth = 4) (.instructionWidth layout.instructionWidth)
  let n ← word
  ofExcept (Instruction.decode ⟨n⟩)

def whole (value : Double) : Except Fault Int :=
  match value.trunc? with
  | some n => .ok n
  | none => .error (if value.isNaN then .nanToInt else .infinityToInt)

-- The tags that name some type, whether a constant may have it or not.
def isTypeTag (tag : Nat) : Bool := tag ≤ 9 || tag = 19 || tag = 20 || tag = 22 || tag = 38

def constant : Reader Constant := do
  let tag ← byte
  match tag with
  | 0 => pure .nil
  | 1 => do
    let flag ← byte
    pure (.bool (flag ≠ 0))
  | 3 => do
    let value ← number
    pure (.num value)
  | 19 => do
    let value ← number
    let n ← ofExcept (whole value)
    pure (.int n)
  | 4 => do
    let text ← string
    pure (.str text)
  | 20 => do
    let text ← string
    pure (.str text)
  | _ => fail (if isTypeTag tag then .unsupportedConstant tag else .unknownType tag)

def counted {α : Type} (reader : Reader α) : Reader (List α) := do
  let count ← word
  times count reader

def place (decoded : List (LuaBytecode.Instruction Opcode.ofNumber?)) : List Instruction :=
  decoded.mapIdx fun index each => { each with pc := index + 1 }

def code : Reader (List Instruction) := do
  let decoded ← counted instruction
  pure (place decoded)

def upvalue : Reader Upvalue := do
  let inStack ← byte
  let index ← byte
  pure { inStack, index }

def line : Reader Int := do
  let n ← word
  pure n

def localVariable : Reader Local := do
  let name ← string
  let startPc ← word
  let endPc ← word
  pure { name, startPc, endPc }

def prototypeWithin : (depth : Nat) → Reader Prototype
  | 0 => fail .nesting
  | depth + 1 => do
    let lineDefined ← word
    let lastLineDefined ← word
    let paramCount ← byte
    let varargFlag ← byte
    let maxStackSize ← byte
    let code ← code
    let constants ← counted constant
    let inner ← counted (prototypeWithin depth)
    let upvalues ← counted upvalue
    let source ← string
    let lineInfo ← counted line
    let locals ← counted localVariable
    let upvalueNames ← counted string
    pure (.node
      { lineDefined, lastLineDefined, paramCount, varargFlag, maxStackSize, code, constants,
        upvalues := nameUpvalues upvalueNames upvalues, source, lineInfo, locals, upvalueNames }
      inner)

def prototype : Reader Prototype := nested prototypeWithin

def byteOrder (flag : Nat) : Except Fault ByteOrder :=
  match flag with
  | 1 => .ok .little
  | 0 => .ok .big
  | _ => .error (.badByteOrder flag)

-- The layout takes effect field by field.
def header : Reader Header := do
  let found ← bytes 4
  require (found = signature) .badLuaSignature
  let version ← byte
  require (version = 0x52) (.unsupportedLuaVersion version)
  let format ← byte
  let orderFlag ← byte
  let order ← ofExcept (byteOrder orderFlag)
  setLayout { (← layout) with order }
  let intWidth ← byte
  setLayout { (← layout) with intWidth }
  let sizeWidth ← byte
  setLayout { (← layout) with sizeWidth }
  let instructionWidth ← byte
  setLayout { (← layout) with instructionWidth }
  let numberWidth ← byte
  setLayout { (← layout) with numberWidth }
  let numberFlag ← byte
  let foundTail ← bytes 6
  require (foundTail = tail) .badTail
  pure
    { version, format, order, intWidth, sizeWidth, instructionWidth, numberWidth, numberFlag }

def chunk : Reader Chunk := do
  let header ← header
  let main ← prototype
  pure { header, main }

end Read

def parse (bytes : Bytes) : Except Fault Chunk × Input :=
  Read.chunk { rest := bytes, layout := initialLayout }

end LuaBytecode.V52
