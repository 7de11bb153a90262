import LuaBytecode.Reader
import LuaBytecode.Text.Utf8
import LuaBytecode.V54.Prototype
/-!
Reading version 5.4. Reads at the end of the input come short, which numbers of a fixed width
notice and strings do not. With `record` set, functions keep the bytes they were read from.
-/
namespace LuaBytecode.V54

namespace Read

open Reader

def fixedWidth (width : Nat) : Reader Nat := do
  let taken ← takeUpTo width
  fixed .little width taken

def byte : Reader Nat := fixedWidth 1

def integer : Reader Int := do
  let n ← fixedWidth 8
  pure (signed 64 n)

def number : Reader Double := do
  let n ← fixedWidth 8
  pure ⟨UInt64.ofNat n⟩

def sizeStep (x : Nat) (byte : UInt8) : Nat ⊕ Except Fault Nat :=
  if 2 ^ 57 ≤ x then .inr (.error .sizeOverflow)
  else
    let next := x * 128 + byte.toNat % 128
    if 128 ≤ byte.toNat then .inr (.ok next) else .inl next

def size : Reader Nat := scanning sizeStep (.width 1) 0

-- The size of a string is one more than its length; none has size zero.
def string : Reader (Option String) := do
  let size ← size
  if size = 0 then pure none
  else
    require (size - 1 < 2 ^ 63) .stringTooLong
    let taken ← takeUpTo (size - 1)
    pure (some (Text.Utf8.decodeReplacing taken))

def noted {α : Type} (record : Bool) (reader : Reader α) : Reader (α × Option Bytes) := do
  if record then
    let (value, span) ← withSpan reader
    pure (value, some span)
  else
    let value ← reader
    pure (value, none)

def counted {α : Type} (reader : Reader α) : Reader (List α) := do
  let count ← size
  times count reader

def upvalue (record : Bool) : Reader Upvalue := do
  let ((inStack, index, kind), recorded) ← noted record do
    let inStack ← byte
    let index ← byte
    let kind ← byte
    pure (inStack, index, kind)
  pure { inStack, index, kind, recorded }

def textConstant (text : Option String) : Constant :=
  match text with
  | some text => .str text
  | none => .nil

-- The low half of a tag gives the type, the high half its variant.
def constant : Reader Constant := do
  let tag ← byte
  let variant := tag / 16
  match tag % 16 with
  | 0 => pure .nil
  | 1 => pure (.bool (tag ≠ 17 ∧ variant ≠ 0))
  | 3 =>
    if tag = 19 ∨ variant = 0 then do
      let value ← number
      pure (.num value)
    else do
      let value ← integer
      pure (.int value)
  | 4 => do
    let text ← string
    pure (textConstant text)
  | _ => fail (.unknownConstant tag)

def instruction : Reader Int := do
  let n ← fixedWidth 4
  pure n

def line : Reader Int := do
  let n ← byte
  pure n

def absLine (record : Bool) : Reader AbsLine := do
  let ((pc, line), recorded) ← noted record do
    let pc ← size
    let line ← size
    pure (pc, line)
  pure { pc, line, recorded }

def localVariable (record : Bool) : Reader Local := do
  let ((name, startPc, endPc), recorded) ← noted record do
    let name ← string
    let startPc ← size
    let endPc ← size
    pure (name, startPc, endPc)
  pure { name, startPc, endPc, recorded }

structure Debug where
  lineInfo : List Int
  absLineInfo : List AbsLine
  locals : List Local
  upvalueNames : List (Option String)
deriving DecidableEq, Repr

def debug (record : Bool) : Reader Debug := do
  let lineInfo ← counted line
  let absLineInfo ← counted (absLine record)
  let locals ← counted (localVariable record)
  let upvalueNames ← counted string
  pure { lineInfo, absLineInfo, locals, upvalueNames }

-- The bytes of the debug sections are kept in four parts of about one size, wherever the
-- sections themselves begin.
def quarters (span : Bytes) : List (Section × Bytes) :=
  let n := span.length
  [(.lineInfo, span.take (n / 4)),
    (.absLineInfo, (span.take (n / 2)).drop (n / 4)),
    (.locals, (span.take (3 * n / 4)).drop (n / 2)),
    (.upvalueNames, span.drop (3 * n / 4))]

-- A function; `parent` is the source it has if it names none, `depth` bounds how deep functions
-- nest in it.
def prototypeWithin (record : Bool) : (depth : Nat) → (parent : Option String) → Reader Prototype
  | 0, _ => fail .nesting
  | depth + 1, parent => do
    let (own, sourceSpan) ← noted record string
    let source := own.orElse fun _ => parent
    let (lineDefined, lineSpan) ← noted record size
    let (lastLineDefined, lastLineSpan) ← noted record size
    let (paramCount, paramSpan) ← noted record byte
    let (varargFlag, varargSpan) ← noted record byte
    let (maxStackSize, stackSpan) ← noted record byte
    let (code, codeSpan) ← noted record (counted instruction)
    let (constants, constantSpan) ← noted record (counted constant)
    let (upvalues, upvalueSpan) ← noted record (counted (upvalue record))
    let (innerCount, innerSpan) ← noted record size
    let inner ← times innerCount (prototypeWithin record depth source)
    let (debug, debugSpan) ← noted record (debug record)
    let recorded : Recording :=
      if record then
        [(.source, sourceSpan.getD []), (.lineDefined, lineSpan.getD []),
          (.lastLineDefined, lastLineSpan.getD []), (.paramCount, paramSpan.getD []),
          (.varargFlag, varargSpan.getD []), (.maxStackSize, stackSpan.getD []),
          (.code, codeSpan.getD []), (.constants, constantSpan.getD []),
          (.upvalues, upvalueSpan.getD []), (.inner, innerSpan.getD [])] ++
          quarters (debugSpan.getD [])
      else Recording.blank
    pure (.node
      { source, lineDefined, lastLineDefined, paramCount, varargFlag, maxStackSize, code,
        constants, upvalues, lineInfo := debug.lineInfo, absLineInfo := debug.absLineInfo,
        locals := debug.locals, upvalueNames := debug.upvalueNames, recorded := some recorded }
      inner)

def prototype (record : Bool) (parent : Option String) : Reader Prototype :=
  nested fun depth => prototypeWithin record depth parent

end Read

end LuaBytecode.V54
