import LuaBytecode.V54.Reading
/-!
Reading version 5.4 with the bytes kept. Nothing here looks back at the input: every reader gives,
next to its value, the bytes it took, put together from those of its parts.
-/
namespace LuaBytecode.V54

namespace Gather

open Reader

variable {α β : Type}

def fixedWidth (width : Nat) : Reader (Nat × Bytes) := do
  let taken ← takeUpTo width
  let n ← fixed .little width taken
  pure (n, taken)

def byte : Reader (Nat × Bytes) := fixedWidth 1

def integer : Reader (Int × Bytes) := do
  let (n, taken) ← fixedWidth 8
  pure (signed 64 n, taken)

def number : Reader (Double × Bytes) := do
  let (n, taken) ← fixedWidth 8
  pure (⟨UInt64.ofNat n⟩, taken)

def sizeStep (state : Nat × Bytes) (byte : UInt8) : (Nat × Bytes) ⊕ Except Fault (Nat × Bytes) :=
  if 2 ^ 57 ≤ state.1 then .inr (.error .sizeOverflow)
  else
    let next := (state.1 * 128 + byte.toNat % 128, state.2 ++ [byte])
    if 128 ≤ byte.toNat then .inr (.ok next) else .inl next

def size : Reader (Nat × Bytes) := scanning sizeStep (.width 1) (0, [])

def string : Reader (Option String × Bytes) := do
  let (size, sizeBytes) ← size
  if size = 0 then pure (none, sizeBytes)
  else
    require (size - 1 < 2 ^ 63) .stringTooLong
    let taken ← takeUpTo (size - 1)
    pure (some (Text.Utf8.decodeReplacing taken), sizeBytes ++ taken)

def counted (reader : Reader (α × Bytes)) : Reader (List α × Bytes) := do
  let (count, countBytes) ← size
  let items ← times count reader
  pure (items.map Prod.fst, countBytes ++ items.flatMap Prod.snd)

def entry (make : β → Option Bytes → α) (fields : Reader (β × Bytes)) : Reader (α × Bytes) := do
  let (values, bytes) ← fields
  pure (make values (some bytes), bytes)

def upvalue : Reader (Upvalue × Bytes) :=
  entry (fun ((inStack, index, kind) : Nat × Nat × Nat) recorded =>
    { inStack, index, kind, recorded }) do
    let (inStack, inStackByte) ← byte
    let (index, indexByte) ← byte
    let (kind, kindByte) ← byte
    pure ((inStack, index, kind), inStackByte ++ indexByte ++ kindByte)

def constant : Reader (Constant × Bytes) := do
  let (tag, tagByte) ← byte
  let variant := tag / 16
  match tag % 16 with
  | 0 => pure (.nil, tagByte)
  | 1 => pure (.bool (tag ≠ 17 ∧ variant ≠ 0), tagByte)
  | 3 =>
    if tag = 19 ∨ variant = 0 then do
      let (value, bytes) ← number
      pure (.num value, tagByte ++ bytes)
    else do
      let (value, bytes) ← integer
      pure (.int value, tagByte ++ bytes)
  | 4 => do
    let (text, bytes) ← string
    pure (Read.textConstant text, tagByte ++ bytes)
  | _ => fail (.unknownConstant tag)

def instruction : Reader (Int × Bytes) := do
  let (n, taken) ← fixedWidth 4
  pure (n, taken)

def line : Reader (Int × Bytes) := do
  let (n, taken) ← byte
  pure (n, taken)

def absLine : Reader (AbsLine × Bytes) :=
  entry (fun ((pc, line) : Nat × Nat) recorded => { pc, line, recorded }) do
    let (pc, pcBytes) ← size
    let (line, lineBytes) ← size
    pure ((pc, line), pcBytes ++ lineBytes)

def localVariable : Reader (Local × Bytes) :=
  entry (fun ((name, startPc, endPc) : Option String × Nat × Nat) recorded =>
    { name, startPc, endPc, recorded }) do
    let (name, nameBytes) ← string
    let (startPc, startBytes) ← size
    let (endPc, endBytes) ← size
    pure ((name, startPc, endPc), nameBytes ++ startBytes ++ endBytes)

def debug : Reader (Read.Debug × Bytes) := do
  let (lineInfo, lineBytes) ← counted line
  let (absLineInfo, absLineBytes) ← counted absLine
  let (locals, localBytes) ← counted localVariable
  let (upvalueNames, nameBytes) ← counted string
  pure ({ lineInfo, absLineInfo, locals, upvalueNames },
    lineBytes ++ absLineBytes ++ localBytes ++ nameBytes)

-- A function with its sections; of the functions inside it only their number is kept here, they
-- keep their own.
def prototypeWithin : (depth : Nat) → (parent : Option String) → Reader Prototype
  | 0, _ => fail .nesting
  | depth + 1, parent => do
    let (own, sourceBytes) ← string
    let source := own.orElse fun _ => parent
    let (lineDefined, lineBytes) ← size
    let (lastLineDefined, lastLineBytes) ← size
    let (paramCount, paramByte) ← byte
    let (varargFlag, varargByte) ← byte
    let (maxStackSize, stackByte) ← byte
    let (code, codeBytes) ← counted instruction
    let (constants, constantBytes) ← counted constant
    let (upvalues, upvalueBytes) ← counted upvalue
    let (innerCount, innerBytes) ← size
    let inner ← times innerCount (prototypeWithin depth source)
    let (debug, debugBytes) ← debug
    let recorded : Recording :=
      [(.source, sourceBytes), (.lineDefined, lineBytes), (.lastLineDefined, lastLineBytes),
        (.paramCount, paramByte), (.varargFlag, varargByte), (.maxStackSize, stackByte),
        (.code, codeBytes), (.constants, constantBytes), (.upvalues, upvalueBytes),
        (.inner, innerBytes)] ++ Read.quarters debugBytes
    pure (.node
      { source, lineDefined, lastLineDefined, paramCount, varargFlag, maxStackSize, code,
        constants, upvalues, lineInfo := debug.lineInfo, absLineInfo := debug.absLineInfo,
        locals := debug.locals, upvalueNames := debug.upvalueNames, recorded := some recorded }
      inner)

def prototype (parent : Option String) : Reader Prototype :=
  nested fun depth => prototypeWithin depth parent

end Gather

end LuaBytecode.V54
