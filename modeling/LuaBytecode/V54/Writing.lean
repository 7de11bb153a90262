import LuaBytecode.Emission
import LuaBytecode.Text.Encoding
import LuaBytecode.V54.Prototype
/-!
Writing version 5.4. The code of a function is written from the bytes it keeps, if it keeps any,
and everything else from the decoded values.
-/
namespace LuaBytecode.V54

open Text

variable {τ : Type} [Encoding τ]

namespace Write

def groups : (fuel : Nat) → Nat → List Nat
  | 0, _ => []
  | fuel + 1, n => if n = 0 then [] else n % 128 :: groups fuel (n / 128)

def marked : List Nat → Bytes
  | [] => []
  | low :: high => (high.reverse.map UInt8.ofNat) ++ [UInt8.ofNat (low + 128)]

def sizeBytes (n : Nat) : Bytes := if n = 0 then [0x80] else marked (groups (n.log2 + 1) n)

def size (n : Int) : Emission := if n < 0 then .nothing else { bytes := sizeBytes n.toNat }

-- A text that cannot be spelled leaves no trace either, but nothing is written behind it.
def string : Option τ → Emission
  | none => size 0
  | some text =>
    match Encoding.encode text with
    | .ok bytes => size (bytes.length + 1) ++ { bytes }
    | .error fault => .failure fault

def counted {α : Type} (write : α → Emission) (items : List α) : Emission :=
  size items.length ++ Emission.join (items.map write)

-- Strings of more than forty characters are long ones. What is no constant leaves no trace.
def constant : Constant τ → Emission
  | .nil => .byte 0
  | .bool false => .byte 17
  | .bool true => .byte 33
  | .num value => .byte 19 ++ { bytes := Bytes.ofNat 8 value.bits.toNat }
  | .int value => .byte 35 ++ .integer value
  | .str text => .byte (if Encoding.length text ≤ 40 then 20 else 36) ++ string (some text)
  | .emptyList => .nothing

def upvalue (each : Upvalue) : Emission :=
  .byte each.inStack ++ .byte each.index ++ .byte each.kind

def absLine (each : AbsLine) : Emission := size each.pc ++ size each.line

def localVariable (each : Local τ) : Emission :=
  string each.name ++ size each.startPc ++ size each.endPc

-- An inner function has its source written only if more than one byte was kept of it.
def sourceOf (isMain : Bool) (function : Function τ) : Option τ :=
  if isMain then function.source
  else
    match function.recording? .source with
    | some kept => if kept.length ≤ 1 then none else function.source
    | none => none

def code (function : Function τ) : Emission :=
  match function.recording? .code with
  | some kept => { bytes := kept }
  | none => counted .word function.code

def front (isMain : Bool) (function : Function τ) : Emission :=
  string (sourceOf isMain function) ++ size function.lineDefined ++
    size function.lastLineDefined ++ .byte function.paramCount ++ .byte function.varargFlag ++
    .byte function.maxStackSize ++ code function ++ counted constant function.constants ++
    counted upvalue function.upvalues

def debug (function : Function τ) : Emission :=
  counted .byte function.lineInfo ++ counted absLine function.absLineInfo ++
    counted localVariable function.locals ++ counted string function.upvalueNames

mutual
def prototype (isMain : Bool) : Prototype τ → Emission
  | .node function inner =>
    front isMain function ++ size inner.length ++ forest inner ++ debug function
def forest : List (Prototype τ) → Emission
  | [] => .nothing
  | tree :: trees => prototype false tree ++ forest trees
end

def header : Bytes :=
  signature ++ [UInt8.ofNat version, 0] ++ data ++ [4, 8, 8] ++
    Bytes.ofNat 8 testInteger.toNat ++ Bytes.ofNat 8 testNumber.bits.toNat

end Write

-- A whole file. Without a main function only its header gets written.
def write (main : Option (Prototype τ)) : Emission :=
  match main with
  | none => { bytes := Write.header, fault := some (.noPrototype "upvalues") }
  | some tree =>
    { bytes := Write.header } ++ .byte tree.top.upvalues.length ++ Write.prototype true tree

end LuaBytecode.V54
