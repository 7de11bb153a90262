import LuaBytecode.Proofs.Layout
import LuaBytecode.Proofs.Nesting
import LuaBytecode.V52.Reading
import LuaBytecode.V52.Writing
import Mathlib.Tactic.MkIffOfInductiveProp

namespace LuaBytecode.V52

open Text

def ConstantInRange (sizeWidth : Nat) : Constant → Prop
  | .str text => FitsSize sizeWidth text
  | _ => True

@[mk_iff]
structure Function.InRange (sizeWidth : Nat) (each : Function) : Prop where
  lineDefined : FitsWord each.lineDefined
  lastLineDefined : FitsWord each.lastLineDefined
  paramCount : FitsByte each.paramCount
  varargFlag : FitsByte each.varargFlag
  maxStackSize : FitsByte each.maxStackSize
  code : each.code.length < 2 ^ 32 ∧ ∀ instruction ∈ each.code, FitsWord instruction.word.value
  constants : each.constants.length < 2 ^ 32 ∧ ∀ constant ∈ each.constants, ConstantInRange sizeWidth constant
  upvalues : each.upvalues.length < 2 ^ 32 ∧
    ∀ upvalue ∈ each.upvalues, FitsByte upvalue.inStack ∧ FitsByte upvalue.index
  source : FitsSize sizeWidth each.source
  lineInfo : each.lineInfo.length < 2 ^ 32 ∧ ∀ line ∈ each.lineInfo, FitsWord line
  locals : each.locals.length < 2 ^ 32 ∧ ∀ entry ∈ each.locals, entry.InRange FitsWord (FitsSize sizeWidth)
  upvalueNames : each.upvalueNames.length < 2 ^ 32 ∧ ∀ name ∈ each.upvalueNames, FitsSize sizeWidth name
  named : NamedBy each.upvalueNames each.upvalues

instance (sizeWidth : Nat) : (each : Constant) → Decidable (ConstantInRange sizeWidth each)
  | .str text => inferInstanceAs (Decidable (FitsSize sizeWidth text))
  | .nil | .bool _ | .num _ | .int _ | .emptyList => inferInstanceAs (Decidable True)

instance (sizeWidth : Nat) (each : Function) : Decidable (each.InRange sizeWidth) :=
  decidable_of_iff _ (Function.inRange_iff sizeWidth each).symm

def InRange (sizeWidth : Nat) (tree : Prototype) : Prop :=
  tree.top.InRange sizeWidth ∧ tree.inner.length < 2 ^ 32

instance (sizeWidth : Nat) (tree : Prototype) : Decidable (InRange sizeWidth tree) :=
  inferInstanceAs (Decidable (_ ∧ _))

def Numbered (code : List Instruction) : Prop :=
  ∀ (index : Nat) instruction, code[index]? = some instruction → instruction.pc = index + 1

theorem numbered_place (decoded : List (LuaBytecode.Instruction Opcode.ofNumber?)) : Numbered (Read.place decoded) := by
  intro index instruction found
  rw [Read.place, List.getElem?_mapIdx] at found
  obtain ⟨_, _, rfl⟩ := Option.map_eq_some_iff.mp found
  rfl

namespace Function

def placed (each : Function) : Function :=
  { each with code := Read.place (each.code.map fun instruction => instruction.toInstruction) }

def unplaced (each : Function) : Function :=
  { each with code := each.code.map fun instruction => { instruction with pc := 0 } }

theorem unplaced_placed (each : Function) : each.placed.unplaced = each.unplaced := by
  have code : each.placed.code.map (fun instruction => { instruction with pc := 0 }) =
      each.code.map fun instruction => { instruction with pc := 0 } := by
    apply List.ext_getElem?
    intro index
    simp only [placed, Read.place, List.getElem?_map, List.getElem?_mapIdx, Option.map_map]
    rfl
  rw [unplaced, code]
  rfl

end Function

def Spelled.placed (each : Spelled) : Function := each.function.placed

structure Standard (layout : Layout) : Prop where
  sizeWidth : layout.sizeWidth = 4 ∨ layout.sizeWidth = 8
  instructionWidth : layout.instructionWidth = 4

namespace Read

open Reader

variable {layout : Layout}

theorem consumes_bytes {count : Nat} {span : Bytes} (exactly : span.length = count) :
    Consumes layout (bytes count) span (fun taken => taken = span) := by
  subst exactly
  exact consumes_take span _

theorem consumes_word {n : Int} (fits : FitsWord n) :
    Consumes layout word (Write.word layout n) (fun found => (found : Int) = n) := by
  refine consumes_map (consumes_bytes (ByteOrder.length_encode ..)) ?_
  rintro _ rfl
  refine consumes_ahead consumes_layout ?_
  rintro _ rfl
  apply consumes_mono (consumes_fixed (unsigned_lt 32 n))
  rintro _ rfl
  exact unsigned_of_fitsWord fits

theorem consumes_long {n : Nat} (fits : n < 2 ^ 64) :
    Consumes layout long (layout.order.encode 8 n) (fun found => found = n) := by
  refine consumes_map (consumes_bytes (ByteOrder.length_encode ..)) ?_
  rintro _ rfl
  refine consumes_ahead consumes_layout ?_
  rintro _ rfl
  exact consumes_fixed fits

theorem consumes_number (value : Double) :
    Consumes layout number (Write.number layout value) (fun found => found = value) := by
  refine consumes_map (consumes_long value.bits.toNat_lt) ?_
  rintro _ rfl
  apply consumes_pure
  rw [UInt64.ofNat_toNat]

theorem consumes_size (standard : Standard layout) {n : Nat} (fits : n < 256 ^ layout.sizeWidth) :
    Consumes layout size (Write.size layout n) (fun found => found = n) := by
  refine consumes_ahead consumes_layout ?_
  rintro _ rfl
  rw [Write.size]
  rcases standard.sizeWidth with four | eight
  · rw [four] at fits ⊢
    rw [if_pos rfl]
    have word : FitsWord n := by
      unfold FitsWord
      omega
    have spelled : unsigned 32 n = n := by
      unfold unsigned
      omega
    have known := @consumes_word layout n word
    rw [Write.word, spelled] at known
    apply consumes_mono known
    intro found same
    omega
  · rw [eight] at fits ⊢
    rw [if_neg (by decide), if_pos rfl]
    exact consumes_long fits

theorem consumes_string (standard : Standard layout) {text : String} (fits : FitsSize layout.sizeWidth text) :
    Consumes layout string (Write.string layout text) (fun found => found = text) := by
  rw [Write.string, List.append_assoc]
  refine consumes_bind (consumes_size standard fits) ?_
  rintro _ rfl
  rw [if_neg (Nat.succ_ne_zero _)]
  refine consumes_map (consumes_bytes (by simp)) ?_
  rintro _ rfl
  apply consumes_pure
  rw [withoutEnd, List.getLast?_concat, if_pos rfl, List.dropLast_concat, Utf8.decodeOrBytewise_encode]

theorem consumes_instruction (standard : Standard layout) {each : LuaBytecode.Instruction Opcode.ofNumber?}
    (fits : FitsWord each.word.value) :
    Consumes layout instruction (Write.word layout each.word.value) (fun found => found = each) := by
  refine consumes_ahead consumes_layout ?_
  rintro _ rfl
  refine consumes_ahead (consumes_require (decide_eq_true standard.instructionWidth)) fun _ _ => ?_
  refine consumes_map (consumes_word fits) ?_
  intro found same
  apply consumes_ofExcept
  rw [same]
  exact Instruction.decode_word each

theorem consumes_constant (standard : Standard layout) {each : Spelling}
    (fits : ConstantInRange layout.sizeWidth each.constant) :
    Consumes layout constant (Write.constant layout each) (fun found => found = each.constant) := by
  cases each with
  | nil =>
    refine consumes_map (consumes_oneByte _ 0) ?_
    rintro _ rfl
    exact consumes_pure rfl
  | bool value =>
    refine consumes_bind (consumes_oneByte _ 1) ?_
    rintro _ rfl
    refine consumes_map (consumes_oneByte _ _) ?_
    rintro _ rfl
    apply consumes_pure
    cases value <;> rfl
  | num value =>
    refine consumes_bind (consumes_oneByte _ 3) ?_
    rintro _ rfl
    refine consumes_map (consumes_number value) ?_
    rintro _ rfl
    exact consumes_pure rfl
  | whole value n exact =>
    have truncated : Read.whole value = .ok n := by
      rw [Read.whole, Double.trunc?_of_equalsInt exact]
    refine consumes_bind (consumes_oneByte _ 19) ?_
    rintro _ rfl
    refine consumes_map (consumes_number value) ?_
    rintro _ rfl
    refine consumes_ahead (consumes_ofExcept truncated) ?_
    rintro _ rfl
    exact consumes_pure rfl
  | str isLong text =>
    cases isLong with
    | false =>
      refine consumes_bind (consumes_oneByte _ 4) ?_
      rintro _ rfl
      refine consumes_map (consumes_string standard fits) ?_
      rintro _ rfl
      exact consumes_pure rfl
    | true =>
      refine consumes_bind (consumes_oneByte _ 20) ?_
      rintro _ rfl
      refine consumes_map (consumes_string standard fits) ?_
      rintro _ rfl
      exact consumes_pure rfl

theorem consumes_countedAs {α β γ : Type} {reader : Reader α} {view : α → γ} {value : β → γ} {write : β → Bytes}
    {count : Int} (items : List β) (fits : FitsWord count) (many : items.length = count.toNat)
    (each : ∀ item ∈ items, Consumes layout reader (write item) (fun found => view found = value item)) :
    Consumes layout (counted reader) (Write.countedAs layout count write items)
      (fun found => found.map view = items.map value) := by
  refine consumes_bind (consumes_word fits) ?_
  intro found same
  obtain rfl : found = items.length := by omega
  exact consumes_times items each

theorem consumes_counted {α β : Type} {reader : Reader α} {value : β → α} {write : β → Bytes}
    (items : List β) (few : items.length < 2 ^ 32)
    (each : ∀ item ∈ items, Consumes layout reader (write item) (fun found => found = value item)) :
    Consumes layout (counted reader) (Write.counted layout write items) (fun found => found = items.map value) := by
  have count : FitsWord items.length := by
    unfold FitsWord
    omega
  have known := @consumes_countedAs _ α β α reader id value write _ items count rfl each
  simpa [Write.counted] using known

theorem consumes_counted_same {α : Type} {reader : Reader α} {write : α → Bytes}
    (items : List α) (few : items.length < 2 ^ 32)
    (each : ∀ item ∈ items, Consumes layout reader (write item) (fun found => found = item)) :
    Consumes layout (counted reader) (Write.counted layout write items) (fun found => found = items) := by
  have known := consumes_counted items few each
  rwa [List.map_id'] at known

theorem consumes_code (standard : Standard layout) {each : Function} (few : each.code.length < 2 ^ 32)
    (fits : ∀ instruction ∈ each.code, FitsWord instruction.word.value) :
    Consumes layout code
      (Write.counted layout (fun instruction : Instruction => Write.word layout instruction.word.value) each.code)
      (fun found => found = each.placed.code) := by
  refine consumes_map (consumes_counted each.code few fun instruction member =>
    consumes_instruction standard (fits instruction member)) ?_
  rintro _ rfl
  exact consumes_pure rfl

theorem consumes_upvalue {each : Upvalue} (fits : FitsByte each.inStack ∧ FitsByte each.index) :
    Consumes layout upvalue (Write.upvalue each) (fun found => found = { each with name := "" }) := by
  refine consumes_bind (consumes_ofByte _ fits.1) ?_
  intro inStack first
  refine consumes_map (consumes_ofByte _ fits.2) ?_
  intro index second
  apply consumes_pure
  rw [first, second]

theorem consumes_line {n : Int} (fits : FitsWord n) :
    Consumes layout line (Write.word layout n) (fun found => found = n) := by
  refine consumes_map (consumes_word fits) ?_
  intro found same
  exact consumes_pure same

theorem consumes_localVariable (standard : Standard layout) {each : Local}
    (range : each.InRange FitsWord (FitsSize layout.sizeWidth)) :
    Consumes layout localVariable (Write.localVariable layout each) (fun found => found = each) := by
  obtain ⟨name, startPc, endPc⟩ := range
  rw [Write.localVariable, List.append_assoc]
  refine consumes_bind (consumes_string standard name) ?_
  rintro _ rfl
  refine consumes_bind (consumes_word startPc) ?_
  intro start first
  refine consumes_map (consumes_word endPc) ?_
  intro stop second
  apply consumes_pure
  rw [first, second]

theorem prototype_node (each : Spelled) (inner : List (Tree Spelled)) :
    Write.prototype layout (.node each inner) =
      Write.front layout each ++ (Write.counted layout (Write.prototype layout) inner ++
        Write.back layout each) :=
  Tree.spell_node ..

theorem consumes_function (standard : Standard layout) (depth : Nat) (each : Spelled) (inner : List (Tree Spelled))
    (range : InRange layout.sizeWidth (Tree.map Spelled.function (.node each inner)))
    (within : ∀ tree ∈ inner, Consumes layout (prototypeWithin depth) (Write.prototype layout tree)
      (fun found => found = tree.map Spelled.placed)) :
    Consumes layout (prototypeWithin (depth + 1)) (Write.prototype layout (.node each inner))
      (fun found => found = Tree.map Spelled.placed (.node each inner)) := by
  obtain ⟨own, few⟩ := range
  change each.function.InRange layout.sizeWidth at own
  change (Tree.mapForest Spelled.function inner).length < 2 ^ 32 at few
  rw [Tree.length_mapForest] at few
  obtain ⟨fewConstants, constants⟩ := own.constants
  rw [← each.agree, List.length_map] at fewConstants
  rw [← each.agree] at constants
  rw [prototype_node, Write.front, Write.back]
  simp only [List.append_assoc]
  refine consumes_bind (consumes_word own.lineDefined) ?_
  intro lineDefined first
  refine consumes_bind (consumes_word own.lastLineDefined) ?_
  intro lastLineDefined last
  refine consumes_bind (consumes_ofByte _ own.paramCount) ?_
  intro paramCount params
  refine consumes_bind (consumes_ofByte _ own.varargFlag) ?_
  intro varargFlag vararg
  refine consumes_bind (consumes_ofByte _ own.maxStackSize) ?_
  intro maxStackSize stack
  refine consumes_bind (consumes_code standard own.code.1 own.code.2) ?_
  rintro _ rfl
  refine consumes_bind (consumes_counted each.spellings fewConstants fun spelling member =>
    consumes_constant standard (constants _ (List.mem_map_of_mem member))) ?_
  rintro _ rfl
  refine consumes_bind (consumes_counted inner few within) ?_
  rintro _ rfl
  refine consumes_bind (consumes_counted each.function.upvalues own.upvalues.1 fun upvalue member =>
    consumes_upvalue (own.upvalues.2 upvalue member)) ?_
  rintro _ rfl
  refine consumes_bind (consumes_string standard own.source) ?_
  rintro _ rfl
  refine consumes_bind (consumes_counted_same each.function.lineInfo own.lineInfo.1 fun line member =>
    consumes_line (own.lineInfo.2 line member)) ?_
  rintro _ rfl
  refine consumes_bind (consumes_counted_same each.function.locals own.locals.1 fun entry member =>
    consumes_localVariable standard (own.locals.2 entry member)) ?_
  rintro _ rfl
  refine consumes_map (consumes_counted_same each.function.upvalueNames own.upvalueNames.1 fun name member =>
    consumes_string standard (own.upvalueNames.2 name member)) ?_
  rintro _ rfl
  apply consumes_pure
  rw [nameUpvalues_of_named own.named, each.agree, first, last, params, vararg, stack, Tree.map, Tree.mapForest_eq]
  rfl

theorem consumes_prototype (standard : Standard layout) (tree : Tree Spelled)
    (range : ∀ each ∈ (tree.map Spelled.function).subtrees, InRange layout.sizeWidth each) :
    Consumes layout prototype (Write.prototype layout tree) (fun found => found = tree.map Spelled.placed) := by
  have counted : ∀ n : Nat, 0 < (Write.word layout n).length := by
    intro n
    rw [Write.word, ByteOrder.length_encode]
    decide
  have every : ∀ each ∈ tree.subtrees, InRange layout.sizeWidth (each.map Spelled.function) := by
    intro each member
    apply range
    rw [Tree.subtrees_map]
    exact List.mem_map_of_mem member
  exact Tree.consumes_spell counted tree every (consumes_function standard)

end Read

structure Header.Standard (header : Header) : Prop where
  version : header.version = 0x52
  format : header.format < 256
  intWidth : header.intWidth < 256
  sizeWidth : header.sizeWidth = 4 ∨ header.sizeWidth = 8
  instructionWidth : header.instructionWidth = 4
  numberWidth : header.numberWidth < 256
  numberFlag : header.numberFlag < 256

theorem Header.Standard.layout {header : Header} (standard : header.Standard) : V52.Standard header.layout :=
  ⟨standard.sizeWidth, standard.instructionWidth⟩

structure Header.Spellable (header : Header) : Prop where
  version : header.version = 0x52
  format : header.format < 256
  intWidth : header.intWidth < 256
  sizeWidth : header.sizeWidth < 256
  instructionWidth : header.instructionWidth < 256
  numberWidth : header.numberWidth < 256
  numberFlag : header.numberFlag < 256

theorem Header.Standard.spellable {header : Header} (standard : header.Standard) : header.Spellable := by
  obtain ⟨version, format, intWidth, sizeWidth, instructionWidth, numberWidth, numberFlag⟩ := standard
  exact ⟨version, format, intWidth, by omega, by omega, numberWidth, numberFlag⟩

namespace Read

open Reader

theorem byteOrder_orderFlag (order : ByteOrder) : byteOrder (Write.orderFlag order).toNat = .ok order := by
  cases order <;> rfl

theorem enters_header {each : Header} (spellable : each.Spellable) :
    Enters initialLayout each.layout header (Write.header each) (fun found => found = each) := by
  obtain ⟨version, format, intWidth, sizeWidth, instructionWidth, numberWidth, numberFlag⟩ := spellable
  simp only [Write.header, List.append_assoc]
  refine enters_bind (enters_of_consumes (consumes_bytes rfl)) ?_
  rintro _ rfl
  refine enters_ahead (consumes_require (decide_eq_true rfl)) fun _ _ => ?_
  refine enters_bind (enters_of_consumes (consumes_ofByteNat _ (by omega))) ?_
  rintro _ rfl
  refine enters_ahead (consumes_require (decide_eq_true version)) fun _ _ => ?_
  refine enters_bind (enters_of_consumes (consumes_ofByteNat _ format)) ?_
  rintro _ rfl
  refine enters_bind (enters_of_consumes (consumes_oneByte _ _)) ?_
  rintro _ rfl
  refine enters_ahead (consumes_ofExcept (byteOrder_orderFlag each.order)) ?_
  rintro _ rfl
  refine enters_change ?_
  refine enters_bind (enters_of_consumes (consumes_ofByteNat _ intWidth)) ?_
  rintro _ rfl
  refine enters_change ?_
  refine enters_bind (enters_of_consumes (consumes_ofByteNat _ (by omega))) ?_
  rintro _ rfl
  refine enters_change ?_
  refine enters_bind (enters_of_consumes (consumes_ofByteNat _ (by omega))) ?_
  rintro _ rfl
  refine enters_change ?_
  refine enters_bind (enters_of_consumes (consumes_ofByteNat _ numberWidth)) ?_
  rintro _ rfl
  refine enters_change ?_
  apply enters_of_consumes
  refine consumes_bind (consumes_ofByteNat _ numberFlag) ?_
  rintro _ rfl
  refine consumes_map (consumes_bytes rfl) ?_
  rintro _ rfl
  refine consumes_ahead (consumes_require (decide_eq_true rfl)) fun _ _ => ?_
  exact consumes_pure rfl

theorem enters_chunk {each : Header} {spelled : Tree Spelled} (standard : each.Standard)
    (range : ∀ tree ∈ (spelled.map Spelled.function).subtrees, InRange each.sizeWidth tree) :
    Enters initialLayout each.layout chunk (write each spelled)
      (fun found => found = { header := each, main := spelled.map Spelled.placed }) := by
  refine enters_bind (enters_header standard.spellable) ?_
  rintro _ rfl
  apply enters_of_consumes
  refine consumes_map (consumes_prototype standard.layout spelled range) ?_
  rintro _ rfl
  exact consumes_pure rfl

end Read

theorem parse_write_any_spelling (chunk : Chunk) (spelled : Tree Spelled) (suffix : Bytes)
    (spells : spelled.map Spelled.function = chunk.main) (standard : chunk.header.Standard)
    (range : ∀ tree ∈ chunk.main.subtrees, InRange chunk.header.sizeWidth tree) :
    ∃ found after, parse (write chunk.header spelled ++ suffix) = (.ok found, after) ∧
      found.header = chunk.header ∧ found.main.map Function.unplaced = chunk.main.map Function.unplaced ∧
      (∀ each ∈ found.main.toList, Numbered each.code) ∧
      after.pos = (write chunk.header spelled).length ∧ after.rest = suffix := by
  rw [← spells] at range
  obtain ⟨found, after, ran, _, stopped, left, same⟩ :=
    Read.enters_chunk standard range { rest := _, layout := initialLayout } suffix rfl rfl
  subst same
  refine ⟨_, after, ran, rfl, ?_, ?_, ?_, left⟩
  · rw [← spells, Tree.map_map, Tree.map_map]
    congr 1
    funext each
    exact each.function.unplaced_placed
  · intro each member
    rw [Tree.toList_map] at member
    obtain ⟨own, _, rfl⟩ := List.mem_map.mp member
    exact numbered_place _
  · rw [stopped, Nat.zero_add]

-- One text under both tags, whole numbers with either sign of zero, more upvalues than names and fewer, and
-- places that no reader gives.
def nestedSpelled : Tree Spelled :=
  .node
    { function :=
        { lineDefined := 2 ^ 32 - 1, maxStackSize := 255,
          code := [⟨⟨⟨0⟩, .move, by decide⟩, 7⟩, ⟨⟨⟨2 ^ 32 - 64 + 39⟩, .extraArg, by decide⟩, -1⟩],
          constants := [.nil, .bool true, .num ⟨0x7FF0000000000000⟩, .int (-3), .int 0, .str "é", .str "é"],
          upvalues := [{ name := "_ENV", inStack := 1, index := 0 }, { inStack := 0, index := 255 }],
          source := "@a\x00", lineInfo := [1, 2], locals := [{ name := "", startPc := 0, endPc := 2 ^ 32 - 1 }],
          upvalueNames := ["_ENV"] }
      spellings := [.nil, .bool true, .num ⟨0x7FF0000000000000⟩, .whole ⟨0xC008000000000000⟩ (-3) (by decide),
        .whole ⟨0x8000000000000000⟩ 0 (by decide +kernel), .str false "é", .str true "é"]
      agree := rfl }
    [.node { function := { upvalueNames := ["lost"] }, spellings := [], agree := rfl } []]

def nestedChunk : Chunk where
  header :=
    { version := 0x52, format := 1, order := .big, intWidth := 4, sizeWidth := 4, instructionWidth := 4,
      numberWidth := 8, numberFlag := 0 }
  main := nestedSpelled.map Spelled.function

theorem parse_write_nestedSpelled :
    ∃ found after, parse (write nestedChunk.header nestedSpelled ++ [0]) = (.ok found, after) ∧
      found.header = nestedChunk.header ∧
      found.main.map Function.unplaced = nestedChunk.main.map Function.unplaced ∧
      (∀ each ∈ found.main.toList, Numbered each.code) ∧
      after.pos = (write nestedChunk.header nestedSpelled).length ∧ after.rest = [0] :=
  parse_write_any_spelling nestedChunk nestedSpelled [0] rfl
    ⟨rfl, by decide, by decide, .inl rfl, rfl, by decide, by decide⟩ (by decide)

end LuaBytecode.V52
