import LuaBytecode.Proofs.Utf8
import LuaBytecode.Proofs.V54.Reading
import Mathlib.Tactic.MkIffOfInductiveProp
/-!
Writing spells: what the writer puts out for a tree is the spelling `Wire.of` of the tree, and what
that spelling stands for is the tree, but for sources and code, of which the writer goes by the
bytes that were kept.
-/
namespace LuaBytecode

theorem Emission.append_bytes (first second : Bytes) :
    ({ bytes := first } : Emission) ++ ({ bytes := second } : Emission) = { bytes := first ++ second } :=
  rfl

theorem Emission.join_bytes {α : Type} {write : α → Emission} {encode : α → Bytes} (items : List α)
    (each : ∀ item ∈ items, write item = { bytes := encode item }) :
    Emission.join (items.map write) = { bytes := items.flatMap encode } := by
  induction items with
  | nil => rfl
  | cons item items ih =>
    have later := ih fun other member => each other (List.mem_cons_of_mem item member)
    rw [List.map_cons, Emission.join, later, each item List.mem_cons_self, Emission.append_bytes,
      List.flatMap_cons]

namespace V54

open Text

def IsByte (n : Int) : Prop := 0 ≤ n ∧ n < 256
deriving Decidable

def IsSize (n : Int) : Prop := 0 ≤ n ∧ n < 2 ^ 64
deriving Decidable

def IsWord (n : Int) : Prop := 0 ≤ n ∧ n < 2 ^ 32
deriving Decidable

section Ranges

variable {τ : Type} [Encoding τ]

def TextFits (text : Option τ) : Prop := ∀ each ∈ text, ∀ bytes ∈ (Encoding.encode each).toOption, bytes.length < 2 ^ 63
deriving Decidable

def IsConstant : Constant τ → Prop
  | .int value => -2 ^ 63 ≤ value ∧ value < 2 ^ 63
  | .str text => TextFits (some text)
  | .emptyList => False
  | _ => True

@[mk_iff]
structure Upvalue.InRange (each : Upvalue) : Prop where
  inStack : IsByte each.inStack
  index : IsByte each.index
  kind : IsByte each.kind

@[mk_iff]
structure AbsLine.InRange (each : AbsLine) : Prop where
  pc : IsSize each.pc
  line : IsSize each.line

@[mk_iff]
structure Local.InRange (each : Local τ) : Prop where
  name : TextFits each.name
  startPc : IsSize each.startPc
  endPc : IsSize each.endPc

@[mk_iff]
structure Function.InRange (each : Function τ) : Prop where
  source : TextFits each.source
  lineDefined : IsSize each.lineDefined
  lastLineDefined : IsSize each.lastLineDefined
  paramCount : IsByte each.paramCount
  varargFlag : IsByte each.varargFlag
  maxStackSize : IsByte each.maxStackSize
  code : each.code.length < 2 ^ 64 ∧ ∀ word ∈ each.code, IsWord word
  constants : each.constants.length < 2 ^ 64 ∧ ∀ constant ∈ each.constants, IsConstant constant
  upvalues : each.upvalues.length < 2 ^ 64 ∧ ∀ upvalue ∈ each.upvalues, upvalue.InRange
  lineInfo : each.lineInfo.length < 2 ^ 64 ∧ ∀ line ∈ each.lineInfo, IsByte line
  absLineInfo : each.absLineInfo.length < 2 ^ 64 ∧ ∀ entry ∈ each.absLineInfo, entry.InRange
  locals : each.locals.length < 2 ^ 64 ∧ ∀ entry ∈ each.locals, entry.InRange
  upvalueNames : each.upvalueNames.length < 2 ^ 64 ∧ ∀ name ∈ each.upvalueNames, TextFits name

instance : (each : Constant τ) → Decidable (IsConstant each)
  | .nil | .bool _ | .num _ => inferInstanceAs (Decidable True)
  | .int value => inferInstanceAs (Decidable (-2 ^ 63 ≤ value ∧ value < 2 ^ 63))
  | .str text => inferInstanceAs (Decidable (TextFits (some text)))
  | .emptyList => inferInstanceAs (Decidable False)

instance (each : Upvalue) : Decidable each.InRange := decidable_of_iff _ (Upvalue.inRange_iff each).symm

instance (each : AbsLine) : Decidable each.InRange := decidable_of_iff _ (AbsLine.inRange_iff each).symm

instance (each : Local τ) : Decidable each.InRange := decidable_of_iff _ (Local.inRange_iff each).symm

instance (each : Function τ) : Decidable each.InRange := decidable_of_iff _ (Function.inRange_iff each).symm

end Ranges

theorem textFits_iff (text : Option String) : TextFits text ↔ ∀ each ∈ text, (Utf8.encode each).length < 2 ^ 63 := by
  simp only [TextFits, Encoding.encode_string, Except.toOption, Option.mem_some_iff, forall_eq']

def Function.KeepsCode (each : Function) : Prop :=
  ∀ kept, each.recording? .code = some kept → Wire.IsCode kept

def Function.Writable (each : Function) : Prop := each.InRange ∧ each.KeepsCode

namespace Wire

def Constant.of : LuaBytecode.Constant → Constant
  | .nil => .nil
  | .bool value => .bool value
  | .num value => .num value.bits
  | .int value => .int (UInt64.ofNat (unsigned 64 value))
  | .str text => .str (decide (40 < text.length)) (some (Utf8.encode text))
  | .emptyList => .nil

def Upvalue.of (each : V54.Upvalue) : Upvalue :=
  { inStack := UInt8.ofNat each.inStack.toNat
    index := UInt8.ofNat each.index.toNat
    kind := UInt8.ofNat each.kind.toNat }

def AbsLine.of (each : V54.AbsLine) : AbsLine :=
  { pc := UInt64.ofNat each.pc.toNat, line := UInt64.ofNat each.line.toNat }

def Local.of (each : V54.Local) : Local :=
  { name := each.name.map Utf8.encode
    startPc := UInt64.ofNat each.startPc.toNat
    endPc := UInt64.ofNat each.endPc.toNat }

def Function.of (isMain : Bool) (each : V54.Function) : Function :=
  { source := (Write.sourceOf isMain each).map Utf8.encode
    lineDefined := UInt64.ofNat each.lineDefined.toNat
    lastLineDefined := UInt64.ofNat each.lastLineDefined.toNat
    paramCount := UInt8.ofNat each.paramCount.toNat
    varargFlag := UInt8.ofNat each.varargFlag.toNat
    maxStackSize := UInt8.ofNat each.maxStackSize.toNat
    code := (Write.code each).bytes
    constants := each.constants.map Constant.of
    upvalues := each.upvalues.map Upvalue.of
    lineInfo := each.lineInfo.map fun line => UInt8.ofNat line.toNat
    absLineInfo := each.absLineInfo.map AbsLine.of
    locals := each.locals.map Local.of
    upvalueNames := each.upvalueNames.map (·.map Utf8.encode) }

mutual
def of (isMain : Bool) : V54.Prototype → Prototype
  | .node each inner => .node (Function.of isMain each) (ofForest inner)
def ofForest : List V54.Prototype → List Prototype
  | [] => []
  | tree :: forest => of false tree :: ofForest forest
end

end Wire

namespace Write

theorem byte_eq {n : Int} (range : IsByte n) :
    Emission.byte n = { bytes := [UInt8.ofNat n.toNat] } := by
  rw [Emission.byte, if_pos (show 0 ≤ n ∧ n < 256 from range)]

theorem toNat_ofNat_byte {n : Int} (range : IsByte n) : ((UInt8.ofNat n.toNat).toNat : Int) = n := by
  obtain ⟨low, high⟩ := range
  rw [UInt8.toNat_ofNat_of_lt' (by change n.toNat < 256; omega), Int.toNat_of_nonneg low]

theorem toNat_ofNat_size {n : Int} (range : IsSize n) : ((UInt64.ofNat n.toNat).toNat : Int) = n := by
  obtain ⟨low, high⟩ := range
  rw [UInt64.toNat_ofNat_of_lt' (by change n.toNat < 2 ^ 64; omega), Int.toNat_of_nonneg low]

theorem toNat_ofNat_word {n : Int} (range : IsWord n) : ((UInt32.ofNat n.toNat).toNat : Int) = n := by
  obtain ⟨low, high⟩ := range
  rw [UInt32.toNat_ofNat_of_lt' (by change n.toNat < 2 ^ 32; omega), Int.toNat_of_nonneg low]

theorem size_of_range {n : Int} (range : IsSize n) :
    size n = { bytes := Wire.size (UInt64.ofNat n.toNat).toNat } := by
  rw [← size_eq, toNat_ofNat_size range]

theorem word_eq {n : Int} (range : IsWord n) :
    Emission.word n = { bytes := Wire.word (UInt32.ofNat n.toNat) } := by
  have same : (UInt32.ofNat n.toNat).toNat = n.toNat := by
    have := toNat_ofNat_word range
    omega
  rw [Emission.word, if_pos (show 0 ≤ n ∧ n < 2 ^ 32 from range), Wire.word, same]

theorem string_eq (text : Option String) :
    string text = { bytes := Wire.string (text.map Utf8.encode) } := by
  cases text with
  | none => exact size_eq 0
  | some text =>
    have counted := size_eq ((Utf8.encode text).length + 1)
    rw [Int.natCast_add, Int.natCast_one] at counted
    rw [string, Encoding.encode_string]
    dsimp only
    rw [counted]
    rfl

theorem counted_eq {α β : Type} {write : α → Emission} {of : α → β} {encode : β → Bytes} (items : List α)
    (each : ∀ item ∈ items, write item = { bytes := encode (of item) }) :
    counted write items = { bytes := Wire.counted encode (items.map of) } := by
  rw [counted, size_eq, Emission.join_bytes items each, Emission.append_bytes, Wire.counted,
    List.length_map, List.flatMap_map]

theorem constant_eq (each : Constant) (range : IsConstant each) :
    constant each = { bytes := (Wire.Constant.of each).bytes } := by
  cases each with
  | nil => rfl
  | bool value => cases value <;> rfl
  | num value => rfl
  | int value =>
    have whole : (UInt64.ofNat (unsigned 64 value)).toNat = unsigned 64 value :=
      UInt64.toNat_ofNat_of_lt' (unsigned_lt 64 value)
    rw [constant, Emission.integer, if_pos (show -2 ^ 63 ≤ value ∧ value < 2 ^ 63 from range),
      Wire.Constant.of, Wire.Constant.bytes, Wire.Constant.payload, whole]
    rfl
  | str text =>
    rw [constant, string_eq, Encoding.length_string]
    by_cases short : text.length ≤ 40
    · have notLong : ¬ 40 < text.length := by omega
      rw [if_pos short, Wire.Constant.of, decide_eq_false notLong]
      rfl
    · have isLong : 40 < text.length := by omega
      rw [if_neg short, Wire.Constant.of, decide_eq_true isLong]
      rfl
  | emptyList => exact range.elim

theorem upvalue_eq (each : Upvalue) (range : each.InRange) :
    upvalue each = { bytes := (Wire.Upvalue.of each).bytes } := by
  rw [upvalue, byte_eq range.inStack, byte_eq range.index, byte_eq range.kind]
  rfl

theorem absLine_eq (each : AbsLine) (range : each.InRange) :
    absLine each = { bytes := (Wire.AbsLine.of each).bytes } := by
  rw [absLine, size_of_range range.pc, size_of_range range.line]
  rfl

theorem localVariable_eq (each : Local) (range : each.InRange) :
    localVariable each = { bytes := (Wire.Local.of each).bytes } := by
  rw [localVariable, string_eq, size_of_range range.startPc, size_of_range range.endPc,
    Emission.append_assoc]
  rfl

theorem code_eq {τ : Type} [Encoding τ] (each : Function τ) (range : each.InRange) :
    code each = { bytes := (code each).bytes } := by
  unfold code
  cases kept : each.recording? .code with
  | some kept' => rfl
  | none =>
    rw [counted_eq each.code fun word member => word_eq (range.code.2 word member)]

theorem isCode_code (each : Function) (range : each.InRange) (keeps : each.KeepsCode) :
    Wire.IsCode (code each).bytes := by
  unfold code
  cases kept : each.recording? .code with
  | some kept' => exact keeps kept' kept
  | none =>
    rw [counted_eq each.code fun word member => word_eq (range.code.2 word member)]
    exact ⟨0, each.code.map fun word => UInt32.ofNat word.toNat, by
      rw [List.length_map]
      exact range.code.1, rfl⟩

theorem front_eq (isMain : Bool) (each : Function) (range : each.InRange) :
    front isMain each = { bytes := (Wire.Function.of isMain each).front } := by
  rw [front, string_eq, size_of_range range.lineDefined, size_of_range range.lastLineDefined,
    byte_eq range.paramCount, byte_eq range.varargFlag, byte_eq range.maxStackSize,
    code_eq each range,
    counted_eq each.constants fun constant member => constant_eq constant (range.constants.2 constant member),
    counted_eq each.upvalues fun upvalue member => upvalue_eq upvalue (range.upvalues.2 upvalue member)]
  simp only [Emission.append_bytes, List.append_assoc]
  rfl

theorem debug_eq (isMain : Bool) (each : Function) (range : each.InRange) :
    debug each = { bytes := (Wire.Function.of isMain each).back } := by
  have lines : counted Emission.byte each.lineInfo =
      { bytes := (Wire.counted (fun line => [line]) (each.lineInfo.map fun line => UInt8.ofNat line.toNat)) } :=
    counted_eq each.lineInfo fun line member => byte_eq (range.lineInfo.2 line member)
  rw [debug, lines,
    counted_eq each.absLineInfo fun entry member => absLine_eq entry (range.absLineInfo.2 entry member),
    counted_eq each.locals fun entry member => localVariable_eq entry (range.locals.2 entry member),
    counted_eq each.upvalueNames fun name _ => string_eq name]
  simp only [Emission.append_bytes, List.append_assoc]
  rfl

theorem mem_source (isMain : Bool) (each : Function) {text : String} (named : text ∈ sourceOf isMain each) :
    text ∈ each.source := by
  cases isMain with
  | true => exact named
  | false =>
    rw [sourceOf, if_neg Bool.false_ne_true] at named
    split at named
    · rename_i kept _
      by_cases short : kept.length ≤ 1
      · rw [if_pos short] at named
        cases named
      · rwa [if_neg short] at named
    · cases named

theorem length_ofForest (forest : List Prototype) : (Wire.ofForest forest).length = forest.length := by
  induction forest with
  | nil => rfl
  | cons tree forest ih => rw [Wire.ofForest, List.length_cons, ih, List.length_cons]

mutual
theorem prototype_eq (isMain : Bool) (tree : Prototype) (every : tree.Every Function.InRange) :
    prototype isMain tree = { bytes := Wire.bytes (Wire.of isMain tree) } := by
  cases tree with
  | node each inner =>
    obtain ⟨range, few, forest⟩ := every
    rw [prototype, front_eq isMain each range, size_eq, forest_eq inner forest,
      debug_eq isMain each range, Wire.of, Wire.bytes, length_ofForest]
    simp only [Emission.append_bytes, List.append_assoc]
theorem forest_eq (inner : List Prototype) (every : Tree.EveryForest Function.InRange inner) :
    forest inner = { bytes := Wire.forestBytes (Wire.ofForest inner) } := by
  cases inner with
  | nil => rfl
  | cons tree inner =>
    rw [forest, prototype_eq false tree every.1, forest_eq inner every.2, Wire.ofForest,
      Wire.forestBytes]
    rfl
end

end Write

-- A function as it comes back: its code is what the bytes kept of it hold.
def Function.reread (source : Option String) (each : Function) : Function :=
  { each.bare with source, code := Wire.words (Cipher.splitSize (Write.code each).bytes).2 }

mutual
-- A tree as it comes back; sources are passed on from the outside to the inside once more.
def reread (isMain : Bool) (parent : Option String) : Prototype → Prototype
  | .node each inner =>
    let source := (Write.sourceOf isMain each).orElse fun _ => parent
    .node (each.reread source) (rereadForest source inner)
def rereadForest (parent : Option String) : List Prototype → List Prototype
  | [] => []
  | tree :: forest => reread false parent tree :: rereadForest parent forest
end

namespace Wire

theorem text_encode (text : Option String) : Wire.text (text.map Utf8.encode) = text := by
  cases text with
  | none => rfl
  | some text => exact congrArg some (Utf8.decodeReplacing_encode text)

theorem Constant.value_of (each : LuaBytecode.Constant) (range : IsConstant each) :
    (Constant.of each).value = each := by
  cases each with
  | nil => rfl
  | bool value => rfl
  | num value => rfl
  | int value =>
    have whole : (UInt64.ofNat (unsigned 64 value)).toNat = unsigned 64 value :=
      UInt64.toNat_ofNat_of_lt' (unsigned_lt 64 value)
    rw [Constant.of, Constant.value, whole, signed_unsigned range.1 range.2]
  | str text => exact congrArg LuaBytecode.Constant.str (Utf8.decodeReplacing_encode text)
  | emptyList => exact range.elim

theorem Upvalue.value_of (each : V54.Upvalue) (range : each.InRange) : (Upvalue.of each).value = each.bare := by
  simp only [Upvalue.value, Upvalue.of, V54.Upvalue.bare, Write.toNat_ofNat_byte range.inStack,
    Write.toNat_ofNat_byte range.index, Write.toNat_ofNat_byte range.kind]

theorem AbsLine.value_of (each : V54.AbsLine) (range : each.InRange) : (AbsLine.of each).value = each.bare := by
  simp only [AbsLine.value, AbsLine.of, V54.AbsLine.bare, Write.toNat_ofNat_size range.pc,
    Write.toNat_ofNat_size range.line]

theorem Local.value_of (each : V54.Local) (range : each.InRange) : (Local.of each).value = each.bare := by
  simp only [Local.value, Local.of, V54.Local.bare, text_encode, Write.toNat_ofNat_size range.startPc,
    Write.toNat_ofNat_size range.endPc]

theorem map_of_value {α β γ : Type} {of : α → β} {value : β → γ} {view : α → γ} (items : List α)
    (each : ∀ item ∈ items, value (of item) = view item) : (items.map of).map value = items.map view := by
  rw [List.map_map]
  exact List.map_congr_left each

theorem Function.value_of (isMain : Bool) (parent : Option String) (each : V54.Function)
    (range : each.InRange) :
    (Function.of isMain each).value parent =
      each.reread ((Write.sourceOf isMain each).orElse fun _ => parent) := by
  have constants : (each.constants.map Constant.of).map Constant.value = each.constants.map id :=
    map_of_value _ fun constant member => Constant.value_of constant (range.constants.2 constant member)
  have upvalues : (each.upvalues.map Upvalue.of).map Upvalue.value = each.upvalues.map V54.Upvalue.bare :=
    map_of_value _ fun upvalue member => Upvalue.value_of upvalue (range.upvalues.2 upvalue member)
  have lines : (each.lineInfo.map fun line => UInt8.ofNat line.toNat).map (fun line => (line.toNat : Int)) =
      each.lineInfo.map id :=
    map_of_value _ fun line member => Write.toNat_ofNat_byte (range.lineInfo.2 line member)
  have absLines : (each.absLineInfo.map AbsLine.of).map AbsLine.value = each.absLineInfo.map V54.AbsLine.bare :=
    map_of_value _ fun entry member => AbsLine.value_of entry (range.absLineInfo.2 entry member)
  have localVariables : (each.locals.map Local.of).map Local.value = each.locals.map V54.Local.bare :=
    map_of_value _ fun entry member => Local.value_of entry (range.locals.2 entry member)
  have names : (each.upvalueNames.map (·.map Utf8.encode)).map text = each.upvalueNames.map id :=
    map_of_value _ fun name _ => text_encode name
  simp only [List.map_id] at constants lines names
  simp only [Function.value, Function.of, V54.Function.reread, V54.Function.bare, text_encode, constants,
    upvalues, lines, absLines, localVariables, names, Write.toNat_ofNat_size range.lineDefined,
    Write.toNat_ofNat_size range.lastLineDefined, Write.toNat_ofNat_byte range.paramCount,
    Write.toNat_ofNat_byte range.varargFlag, Write.toNat_ofNat_byte range.maxStackSize]

mutual
theorem value_of (isMain : Bool) (parent : Option String) (tree : V54.Prototype)
    (writable : tree.Every V54.Function.Writable) :
    value parent (of isMain tree) = reread isMain parent tree := by
  cases tree with
  | node each inner =>
    obtain ⟨⟨range, _⟩, _, forest⟩ := writable
    rw [of, value, reread, Function.value_of isMain parent each range, forestValue_of _ inner forest]
    rfl
theorem forestValue_of (parent : Option String) (forest : List V54.Prototype)
    (writable : Tree.EveryForest V54.Function.Writable forest) :
    forestValue parent (ofForest forest) = rereadForest parent forest := by
  cases forest with
  | nil => rfl
  | cons tree forest =>
    rw [ofForest, forestValue, rereadForest, value_of false parent tree writable.1,
      forestValue_of parent forest writable.2]
end

theorem contentFits_encode {text : Option String} (fits : TextFits text) :
    ContentFits (text.map Utf8.encode) := by
  intro content spelled
  obtain ⟨each, same, rfl⟩ := Option.map_eq_some_iff.mp spelled
  exact (textFits_iff text).mp fits each same

theorem Constant.fits_of (each : LuaBytecode.Constant) (range : IsConstant each) : (Constant.of each).Fits := by
  cases each with
  | str text => exact contentFits_encode range
  | _ => trivial

theorem Function.fits_of (isMain : Bool) (each : V54.Function) (range : each.InRange) (keeps : each.KeepsCode) :
    (Function.of isMain each).Fits := by
  constructor
  case source =>
    apply contentFits_encode
    intro text named
    exact range.source text (Write.mem_source isMain each named)
  case code => exact Write.isCode_code each range keeps
  case constants =>
    refine ⟨by simpa [Function.of] using range.constants.1, ?_⟩
    intro constant member
    obtain ⟨original, present, rfl⟩ := List.mem_map.mp member
    exact Constant.fits_of original (range.constants.2 original present)
  case upvalues => simpa [Function.of] using range.upvalues.1
  case lineInfo => simpa [Function.of] using range.lineInfo.1
  case absLineInfo => simpa [Function.of] using range.absLineInfo.1
  case locals =>
    refine ⟨by simpa [Function.of] using range.locals.1, ?_⟩
    intro entry member
    obtain ⟨original, present, rfl⟩ := List.mem_map.mp member
    exact contentFits_encode (range.locals.2 original present).name
  case upvalueNames =>
    refine ⟨by simpa [Function.of] using range.upvalueNames.1, ?_⟩
    intro name member
    obtain ⟨original, present, rfl⟩ := List.mem_map.mp member
    exact contentFits_encode (range.upvalueNames.2 original present)

mutual
theorem fits_of (isMain : Bool) (tree : V54.Prototype) (writable : tree.Every V54.Function.Writable) :
    (of isMain tree).Every Function.Fits := by
  cases tree with
  | node each inner =>
    obtain ⟨⟨range, keeps⟩, few, forest⟩ := writable
    refine ⟨Function.fits_of isMain each range keeps, ?_, forestFits_of inner forest⟩
    rwa [Write.length_ofForest]
theorem forestFits_of (forest : List V54.Prototype) (writable : Tree.EveryForest V54.Function.Writable forest) :
    Tree.EveryForest Function.Fits (ofForest forest) := by
  cases forest with
  | nil => trivial
  | cons tree forest => exact ⟨fits_of false tree writable.1, forestFits_of forest writable.2⟩
end

end Wire

-- Nothing is asked of the bytes that are kept: they are written as they are.
theorem write_of_range (tree : Prototype) (every : tree.Every Function.InRange)
    (few : tree.top.upvalues.length ≤ 255) :
    write (some tree) = { bytes := Wire.file Write.header (Wire.of true tree) } := by
  have counted : ((Wire.of true tree).top.upvalues.length) = tree.top.upvalues.length := by
    cases tree with
    | node each inner => simp [Wire.of, Tree.top, Wire.Function.of]
  have small : IsByte (tree.top.upvalues.length : Int) := by
    unfold IsByte
    omega
  rw [write, Write.byte_eq small, Write.prototype_eq true tree every, Int.toNat_natCast, Wire.file, counted,
    Emission.append_assoc]
  rfl

theorem write_eq (tree : Prototype) (writable : tree.Every Function.Writable)
    (few : tree.top.upvalues.length ≤ 255) :
    write (some tree) = { bytes := Wire.file Write.header (Wire.of true tree) } :=
  write_of_range tree (Tree.every_mono (fun _ own => own.1) tree writable) few

end V54

end LuaBytecode
