import LuaBytecode.Text.Utf8
import LuaBytecode.V54.Cipher
import LuaBytecode.V54.Prototype
/-!
How chunks of version 5.4 are spelled. Texts are the bytes in the chunk, numbers have the width the
chunk gives them, every size is as short as can be, and the code of a function is its whole section,
whose size alone may be spelled longer. `value` is the function that a spelling stands for.
-/
namespace LuaBytecode.V54

def Upvalue.bare (each : Upvalue) : Upvalue := { each with recorded := none }

def AbsLine.bare (each : AbsLine) : AbsLine := { each with recorded := none }

def Local.bare {τ : Type} (each : Local τ) : Local τ := { each with recorded := none }

def Function.bare {τ : Type} (function : Function τ) : Function τ :=
  { function with
    upvalues := function.upvalues.map Upvalue.bare
    absLineInfo := function.absLineInfo.map AbsLine.bare
    locals := function.locals.map Local.bare
    recorded := none }

def bare {τ : Type} (tree : Prototype τ) : Prototype τ := tree.map Function.bare

namespace Wire

def groups (n : Nat) : Bytes :=
  if n = 0 then [] else groups (n / 128) ++ [UInt8.ofNat (n % 128)]
termination_by n
decreasing_by omega

def size (n : Nat) : Bytes := groups (n / 128) ++ [UInt8.ofNat (n % 128 + 128)]

def string : Option Bytes → Bytes
  | none => size 0
  | some content => size (content.length + 1) ++ content

def counted {α : Type} (encode : α → Bytes) (items : List α) : Bytes :=
  size items.length ++ items.flatMap encode

def text (content : Option Bytes) : Option String := content.map Text.Utf8.decodeReplacing

inductive Constant where
  | nil
  | bool (value : Bool)
  | num (bits : UInt64)
  | int (bits : UInt64)
  | str (isLong : Bool) (content : Option Bytes)
deriving DecidableEq

namespace Constant

def tag : Constant → UInt8
  | nil => 0x00
  | bool false => 0x11
  | bool true => 0x21
  | num _ => 0x13
  | int _ => 0x23
  | str false _ => 0x14
  | str true _ => 0x24

def payload : Constant → Bytes
  | nil | bool _ => []
  | num bits | int bits => Bytes.ofNat 8 bits.toNat
  | str _ content => string content

def bytes (each : Constant) : Bytes := each.tag :: each.payload

def value : Constant → LuaBytecode.Constant
  | nil => .nil
  | bool value => .bool value
  | num bits => .num ⟨bits⟩
  | int bits => .int (signed 64 bits.toNat)
  | str _ none => .nil
  | str _ (some content) => .str (Text.Utf8.decodeReplacing content)

end Constant

structure Upvalue where
  inStack : UInt8
  index : UInt8
  kind : UInt8
deriving DecidableEq

namespace Upvalue

def bytes (each : Upvalue) : Bytes := [each.inStack, each.index, each.kind]

def value (each : Upvalue) : V54.Upvalue :=
  { inStack := each.inStack.toNat, index := each.index.toNat, kind := each.kind.toNat }

end Upvalue

structure AbsLine where
  pc : UInt64
  line : UInt64
deriving DecidableEq

namespace AbsLine

def bytes (each : AbsLine) : Bytes := size each.pc.toNat ++ size each.line.toNat

def value (each : AbsLine) : V54.AbsLine := { pc := each.pc.toNat, line := each.line.toNat }

end AbsLine

structure Local where
  name : Option Bytes
  startPc : UInt64
  endPc : UInt64
deriving DecidableEq

namespace Local

def bytes (each : Local) : Bytes :=
  string each.name ++ (size each.startPc.toNat ++ size each.endPc.toNat)

def value (each : Local) : V54.Local :=
  { name := text each.name, startPc := each.startPc.toNat, endPc := each.endPc.toNat }

end Local

def word (each : UInt32) : Bytes := Bytes.ofNat 4 each.toNat

def words : Bytes → List Int
  | a :: b :: c :: d :: rest => (Bytes.toNat [a, b, c, d] : Int) :: words rest
  | _ => []

def codeSection (padding : Nat) (code : List UInt32) : Bytes :=
  List.replicate padding 0 ++ counted word code

structure Function where
  source : Option Bytes
  lineDefined : UInt64
  lastLineDefined : UInt64
  paramCount : UInt8
  varargFlag : UInt8
  maxStackSize : UInt8
  code : Bytes
  constants : List Constant
  upvalues : List Upvalue
  lineInfo : List UInt8
  absLineInfo : List AbsLine
  locals : List Local
  upvalueNames : List (Option Bytes)
deriving DecidableEq

namespace Function

def front (each : Function) : Bytes :=
  string each.source ++ (size each.lineDefined.toNat ++ (size each.lastLineDefined.toNat ++
    ([each.paramCount] ++ ([each.varargFlag] ++ ([each.maxStackSize] ++ (each.code ++
      (counted Constant.bytes each.constants ++ counted Upvalue.bytes each.upvalues)))))))

def back (each : Function) : Bytes :=
  counted (fun line => [line]) each.lineInfo ++ (counted AbsLine.bytes each.absLineInfo ++
    (counted Local.bytes each.locals ++ counted string each.upvalueNames))

def value (parent : Option String) (each : Function) : V54.Function :=
  { source := (text each.source).orElse fun _ => parent
    lineDefined := each.lineDefined.toNat
    lastLineDefined := each.lastLineDefined.toNat
    paramCount := each.paramCount.toNat
    varargFlag := each.varargFlag.toNat
    maxStackSize := each.maxStackSize.toNat
    code := words (Cipher.splitSize each.code).2
    constants := each.constants.map Constant.value
    upvalues := each.upvalues.map Upvalue.value
    lineInfo := each.lineInfo.map fun line => (line.toNat : Int)
    absLineInfo := each.absLineInfo.map AbsLine.value
    locals := each.locals.map Local.value
    upvalueNames := each.upvalueNames.map text
    recorded := none }

end Function

abbrev Prototype := Tree Function

mutual
def bytes : Prototype → Bytes
  | .node each inner => each.front ++ (size inner.length ++ (forestBytes inner ++ each.back))
def forestBytes : List Prototype → Bytes
  | [] => []
  | tree :: forest => bytes tree ++ forestBytes forest
end

mutual
-- An inner function that names no source has that of the function around it.
def value (parent : Option String) : Prototype → V54.Prototype
  | .node each inner => .node (each.value parent) (forestValue (each.value parent).source inner)
def forestValue (parent : Option String) : List Prototype → List V54.Prototype
  | [] => []
  | tree :: forest => value parent tree :: forestValue parent forest
end

def IsCode (section_ : Bytes) : Prop :=
  ∃ padding code, code.length < 2 ^ 64 ∧ section_ = codeSection padding code

-- What the reader can count: no list has 2 ^ 64 entries and no text has 2 ^ 63 bytes.
def ContentFits (content : Option Bytes) : Prop := ∀ each ∈ content, each.length < 2 ^ 63

def Constant.Fits : Constant → Prop
  | str _ content => ContentFits content
  | _ => True

structure Function.Fits (each : Function) : Prop where
  source : ContentFits each.source
  code : IsCode each.code
  constants : each.constants.length < 2 ^ 64 ∧ ∀ constant ∈ each.constants, constant.Fits
  upvalues : each.upvalues.length < 2 ^ 64
  lineInfo : each.lineInfo.length < 2 ^ 64
  absLineInfo : each.absLineInfo.length < 2 ^ 64
  locals : each.locals.length < 2 ^ 64 ∧ ∀ entry ∈ each.locals, ContentFits entry.name
  upvalueNames : each.upvalueNames.length < 2 ^ 64 ∧ ∀ name ∈ each.upvalueNames, ContentFits name

def file (header : Bytes) (tree : Prototype) : Bytes :=
  header ++ ([UInt8.ofNat tree.top.upvalues.length] ++ bytes tree)

end Wire

end LuaBytecode.V54
