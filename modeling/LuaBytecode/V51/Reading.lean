import LuaBytecode.Reader
import LuaBytecode.Text.Utf8
import LuaBytecode.V51.Prototype

namespace LuaBytecode.V51

namespace Read

open Reader

def int : Reader Int := do
  let layout ← layout
  let taken ← bounded layout.intWidth
  let n ← fixed layout.order 4 taken
  pure (signed 32 n)

def size : Reader Nat := do
  let layout ← layout
  let width := if layout.sizeWidth = 4 then 4 else 8
  let taken ← bounded width
  fixed layout.order width taken

def number : Reader Double := do
  let layout ← layout
  let taken ← bounded layout.numberWidth
  let n ← fixed layout.order 8 taken
  pure ⟨UInt64.ofNat n⟩

-- The size of a string counts the byte that ends it.
def string : Reader String := do
  let size ← size
  if size = 0 then pure ""
  else
    let taken ← bounded size
    pure (Text.Utf8.decodeReplacing taken.dropLast)

def instruction : Reader Instruction := do
  let layout ← layout
  let taken ← bounded layout.instructionWidth
  let n ← fixed layout.order 4 taken
  ofExcept (Instruction.decode ⟨n⟩)

def constant : Reader Constant := do
  let tag ← boundedByte
  match tag with
  | 0 => pure .nil
  | 1 => do
    let flag ← boundedByte
    pure (.bool (flag ≠ 0))
  | 3 => do
    let value ← number
    pure (.num value)
  | 4 => do
    let text ← string
    pure (.str text)
  | _ => fail (.unknownConstant tag)

def counted {α : Type} (reader : Reader α) : Reader (List α) := do
  let count ← int
  timesInt count reader

def localVariable : Reader Local := do
  let name ← string
  let startPc ← int
  let endPc ← int
  pure { name, startPc, endPc }

def prototypeWithin : (depth : Nat) → Reader Prototype
  | 0 => fail .nesting
  | depth + 1 => do
    let source ← string
    let lineDefined ← int
    let lastLineDefined ← int
    let upvalueCount ← boundedByte
    let paramCount ← boundedByte
    let varargFlag ← boundedByte
    let maxStackSize ← boundedByte
    let code ← counted instruction
    let constants ← counted constant
    let inner ← counted (prototypeWithin depth)
    let lineInfo ← counted int
    let locals ← counted localVariable
    let upvalueNames ← counted string
    pure (.node
      { source, lineDefined, lastLineDefined, upvalueCount, paramCount, varargFlag, maxStackSize,
        code, constants, lineInfo, locals, upvalueNames }
      inner)

def prototype : Reader Prototype := nested prototypeWithin

-- The layout takes effect field by field.
def header : Reader Header := do
  let found ← bounded 4
  require (found = signature) (.badSignature found)
  let version ← boundedByte
  require (version = 0x51) (.unsupportedVersionFor51 version)
  let format ← boundedByte
  require (format = 0) (.badFormat format)
  let orderFlag ← boundedByte
  setLayout { (← layout) with order := orderOfFlag orderFlag }
  let intWidth ← boundedByte
  setLayout { (← layout) with intWidth }
  let sizeWidth ← boundedByte
  setLayout { (← layout) with sizeWidth }
  let instructionWidth ← boundedByte
  setLayout { (← layout) with instructionWidth }
  let numberWidth ← boundedByte
  setLayout { (← layout) with numberWidth }
  let integralFlag ← boundedByte
  pure
    { signature := found, version, format, orderFlag, intWidth, sizeWidth, instructionWidth,
      numberWidth, integralFlag }

def chunk : Reader Chunk := do
  let header ← header
  let main ← prototype
  pure { header, main }

end Read

def parse (bytes : Bytes) : Except Fault Chunk × Input := Read.chunk { rest := bytes }

end LuaBytecode.V51
