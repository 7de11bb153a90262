import LuaBytecode.Bytes
import LuaBytecode.Constant
import LuaBytecode.Tree
/-!
Chunks of version 5.4. A function may keep the bytes it was read from, section by section.
-/
namespace LuaBytecode.V54

-- The parts of a function whose bytes are kept; a tree that is built by hand may name others.
inductive Section where
  | source
  | lineDefined
  | lastLineDefined
  | paramCount
  | varargFlag
  | maxStackSize
  | code
  | constants
  | upvalues
  | inner
  | lineInfo
  | absLineInfo
  | locals
  | upvalueNames
  | named (label : String)
deriving DecidableEq, Repr

abbrev Recording := List (Section × Bytes)

namespace Recording

def get? (sect : Section) (recording : Recording) : Option Bytes := recording.lookup sect

def set (sect : Section) (bytes : Bytes) : Recording → Recording
  | [] => []
  | (each, kept) :: recording =>
    if each = sect then (each, bytes) :: recording else (each, kept) :: set sect bytes recording

-- What a function has before it is read: every section, without bytes.
def blank : Recording :=
  [(.source, []), (.lineDefined, []), (.lastLineDefined, []), (.paramCount, []),
    (.varargFlag, []), (.maxStackSize, []), (.code, []), (.constants, []), (.upvalues, []),
    (.inner, []), (.lineInfo, []), (.absLineInfo, []), (.locals, []), (.upvalueNames, [])]

end Recording

structure Upvalue where
  inStack : Int
  index : Int
  kind : Int
  recorded : Option Bytes := none
deriving DecidableEq, Repr

structure AbsLine where
  pc : Int
  line : Int
  recorded : Option Bytes := none
deriving DecidableEq, Repr

structure Local (τ : Type := String) where
  name : Option τ
  startPc : Int
  endPc : Int
  recorded : Option Bytes := none
deriving DecidableEq, Repr

structure Function (τ : Type := String) where
  source : Option τ := none
  lineDefined : Int := 0
  lastLineDefined : Int := 0
  paramCount : Int := 0
  varargFlag : Int := 0
  maxStackSize : Int := 0
  code : List Int := []
  constants : List (Constant τ) := []
  upvalues : List Upvalue := []
  lineInfo : List Int := []
  absLineInfo : List AbsLine := []
  locals : List (Local τ) := []
  upvalueNames : List (Option τ) := []
  recorded : Option Recording := some Recording.blank
deriving DecidableEq, Inhabited, Repr

def Local.mapText {τ σ : Type} (change : τ → σ) (each : Local τ) : Local σ :=
  { each with name := each.name.map change }

def Function.mapText {τ σ : Type} (change : τ → σ) (each : Function τ) : Function σ :=
  { each with
    source := each.source.map change
    constants := each.constants.map (Constant.mapText change)
    locals := each.locals.map (Local.mapText change)
    upvalueNames := each.upvalueNames.map (Option.map change) }

def Function.recording? {τ : Type} (function : Function τ) (sect : Section) : Option Bytes :=
  match function.recorded with
  | some recording => recording.get? sect
  | none => none

abbrev Prototype (τ : Type := String) := Tree (Function τ)

structure Header where
  format : Nat
  data : Bytes
  instructionWidth : Nat
  integerWidth : Nat
  numberWidth : Nat
  testInteger : Int
  testNumber : Double
deriving DecidableEq, Repr

structure Chunk where
  header : Header
  upvalueCount : Nat
  main : Prototype
deriving DecidableEq, Repr

def signature : Bytes := [0x1B, 0x4C, 0x75, 0x61]

def version : Nat := 0x54

-- Bytes that a transfer as text would change.
def data : Bytes := [0x19, 0x93, 0x0D, 0x0A, 0x1A, 0x0A]

def testInteger : Int := 0x5678

-- The number 370.5.
def testNumber : Double := ⟨0x4077280000000000⟩

end LuaBytecode.V54
