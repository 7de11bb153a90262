import LuaBytecode.Proofs.Jit.Constants
import LuaBytecode.Proofs.Jit.Extent
import Mathlib.Tactic.MkIffOfInductiveProp
import Mathlib.Tactic.SplitIfs

namespace LuaBytecode.Jit

open Reader Text

variable {layout : Layout} {stripped : Bool}

def FitsBits (bits : Nat) (n : Int) : Prop := 0 ≤ n ∧ n < 2 ^ bits
deriving Decidable

theorem unsigned_of_fits {bits : Nat} {n : Int} (fits : FitsBits bits n) : (unsigned bits n : Int) = n := by
  rw [unsigned, Int.emod_eq_of_lt fits.1 fits.2, Int.toNat_of_nonneg fits.1]

def Variable.IsSpecial : Variable → Prop
  | .special kind first last => (1 ≤ kind ∧ kind ≤ 6) ∧ first < 2 ^ 35 ∧ last < 2 ^ 35
  | .named _ _ _ => False

instance : (each : Variable) → Decidable each.IsSpecial
  | .special _ _ _ => inferInstanceAs (Decidable (_ ∧ _ ∧ _))
  | .named _ _ _ => inferInstanceAs (Decidable False)

def Variable.label : Variable → String
  | .special kind _ _ => s!"<type_{kind}>"
  | .named name _ _ => name

@[mk_iff]
structure Prototype.IsStripped (each : Prototype) : Prop where
  debugSize : each.debugSize = 0
  firstLine : each.firstLine = 0
  lineCount : each.lineCount = 0
  lineInfo : each.lineInfo = []
  upvalueNames : each.upvalueNames = []
  variableNames : each.variableNames = []

-- The size of the debug sections only says whether there are any.
@[mk_iff]
structure Prototype.HasDebug (each : Prototype) (entries : List Variable) : Prop where
  debugSize : 0 < each.debugSize ∧ each.debugSize < 2 ^ 35
  firstLine : FitsVarint each.firstLine
  lineCount : FitsVarint each.lineCount
  lineInfo : each.lineInfo.length = if each.lineCount = 0 then 0 else each.code.length
  lines : ∀ line ∈ each.lineInfo, FitsBits (8 * Write.lineWidth each.lineCount) line
  upvalueNames : each.upvalueNames.length = each.upvalueData.length
  terminated : ∀ name ∈ each.upvalueNames, '\x00' ∉ name.toList
  special : ∀ entry ∈ entries, entry.IsSpecial
  variableNames : each.variableNames = entries.map Variable.label

@[mk_iff]
structure Prototype.Framed (stripped : Bool) (each : Prototype) (entries : List Variable) : Prop where
  size : each.size = (Write.body .little stripped each entries).length
  small : (Write.body .little stripped each entries).length < 2 ^ 35
  flags : FitsByte each.flags
  paramCount : FitsByte each.paramCount
  frameSize : FitsByte each.frameSize
  upvalueCount : each.upvalueCount = each.upvalueData.length ∧ each.upvalueData.length < 256
  collectableCount : each.collectableCount = each.collectables.length
  numberCount : each.numberCount = each.numbers.length
  codeCount : each.codeCount = each.code.length
  code : ∀ word ∈ each.code, FitsBits 32 word
  upvalueData : ∀ word ∈ each.upvalueData, FitsBits 16 word
  collectables : ∀ constant ∈ each.collectables, constant.InRange
  numbers : ∀ constant ∈ each.numbers, constant.InRange

@[mk_iff]
structure Prototype.InRange (stripped : Bool) (each : Prototype) (entries : List Variable) : Prop
    extends each.Framed stripped entries where
  debug : if stripped then each.IsStripped else each.HasDebug entries

-- The first byte of an entry tells its kind, and a byte that is no kind is lost to the name behind it.
def Variable.IsLegible : Variable → Prop
  | .special kind first last => (1 ≤ kind ∧ kind ≤ 6) ∧ first < 2 ^ 35 ∧ last < 2 ^ 35
  | .named name first last =>
    (∃ byte content, Utf8.encode name = byte :: content ∧ 7 ≤ byte.toNat ∧ 0 ∉ content) ∧
      first < 2 ^ 35 ∧ last < 2 ^ 35

def Variable.seen : Variable → String
  | .special kind _ _ => s!"<type_{kind}>"
  | .named name _ _ => Utf8.decodeOrBytewise (Utf8.encode name).tail

def Prototype.HasSections (each : Prototype) (entries : List Variable) : Prop :=
  ({ each with variableNames := [] } : Prototype).HasDebug [] ∧ (∀ entry ∈ entries, entry.IsLegible) ∧
    each.variableNames = entries.map Variable.seen

structure Prototype.Readable (stripped : Bool) (each : Prototype) (entries : List Variable) : Prop
    extends each.Framed stripped entries where
  debug : if stripped then each.IsStripped else each.HasSections entries

theorem Prototype.HasDebug.hasSections {each : Prototype} {entries : List Variable} (known : each.HasDebug entries) :
    each.HasSections entries := by
  refine ⟨{ known with special := nofun, variableNames := rfl }, ?_, ?_⟩
  · intro entry member
    have own := known.special entry member
    cases entry with
    | special kind first last => exact own
    | named name first last => exact own.elim
  · rw [known.variableNames]
    apply List.map_congr_left
    intro entry member
    have own := known.special entry member
    cases entry with
    | special kind first last => rfl
    | named name first last => exact own.elim

theorem Prototype.InRange.readable {each : Prototype} {entries : List Variable} (range : each.InRange stripped entries) :
    each.Readable stripped entries := by
  refine ⟨range.toFramed, ?_⟩
  have known := range.debug
  cases stripped with
  | true => exact known
  | false => exact known.hasSections

instance (each : Prototype) : Decidable each.IsStripped :=
  decidable_of_iff _ (Prototype.isStripped_iff each).symm

instance (each : Prototype) (entries : List Variable) : Decidable (each.HasDebug entries) :=
  decidable_of_iff _ (Prototype.hasDebug_iff each entries).symm

instance (stripped : Bool) (each : Prototype) (entries : List Variable) : Decidable (each.Framed stripped entries) :=
  decidable_of_iff _ (Prototype.framed_iff stripped each entries).symm

instance (stripped : Bool) (each : Prototype) (entries : List Variable) :
    Decidable (each.InRange stripped entries) :=
  decidable_of_iff _ (Prototype.inRange_iff stripped each entries).symm

@[mk_iff]
structure Header.Legible (header : Header) : Prop where
  version : header.version = Jit.version
  flags : header.flags < 2 ^ 35
  sourceName : if header.isStripped then header.sourceName = ""
    else (Utf8.encode header.sourceName).length < 2 ^ 35

@[mk_iff]
structure Header.InRange (header : Header) : Prop extends header.Legible where
  order : header.isBigEndian = false

instance (header : Header) : Decidable header.Legible :=
  decidable_of_iff _ (Header.legible_iff header).symm

instance (header : Header) : Decidable header.InRange :=
  decidable_of_iff _ (Header.inRange_iff header).symm

namespace Read

theorem consumes_fixedWidth {width n : Nat} (fits : n < 256 ^ width) :
    Consumes layout (fixedWidth width) (ByteOrder.little.encode width n) (fun found => found = n) := by
  have taken := @consumes_take layout (ByteOrder.little.encode width n) fun _ => .fixedEnd
  rw [ByteOrder.length_encode] at taken
  refine consumes_map taken ?_
  intro _ same
  subst same
  apply consumes_pure
  exact (ByteOrder.decode_encode .little width n).trans (Nat.mod_eq_of_lt fits)

theorem consumes_word {width : Nat} {word : Int} (fits : FitsBits (8 * width) word) :
    Consumes layout (asInt (fixedWidth width)) (ByteOrder.little.encode width (unsigned (8 * width) word))
      (fun found => found = word) := by
  have bound : unsigned (8 * width) word < 256 ^ width := by
    rw [show 256 = 2 ^ 8 from rfl, ← Nat.pow_mul]
    exact unsigned_lt (8 * width) word
  refine consumes_map (consumes_fixedWidth bound) ?_
  intro _ same
  subst same
  exact consumes_pure (unsigned_of_fits fits)

theorem scan_terminated (short : Fault) (content passed rest : Bytes) (pos : Nat) (free : 0 ∉ content) :
    scan terminatedStep short passed (content ++ 0 :: rest) pos =
      (.ok (passed.reverse ++ content), pos + (content.length + 1), rest) := by
  induction content generalizing passed pos with
  | nil => simp [scan, terminatedStep]
  | cons byte content ih =>
    simp only [List.mem_cons, not_or] at free
    have goes : terminatedStep passed byte = .inl (byte :: passed) := by
      rw [terminatedStep, if_neg (Ne.symm free.1)]
    rw [List.cons_append, scan, goes]
    simp only [ih (byte :: passed) (pos + 1) free.2, List.reverse_cons, List.append_assoc, List.cons_append,
      List.nil_append, List.length_cons, Prod.mk.injEq, true_and, and_true]
    omega

theorem consumes_terminated {content : Bytes} (free : 0 ∉ content) :
    Consumes layout terminatedString (content ++ [0]) (fun found => found = Utf8.decodeOrBytewise content) := by
  have taken : Consumes layout (scanning terminatedStep .terminatorEnd []) (content ++ [0])
      (fun found => found = content) := by
    intro input rest same start
    refine ⟨_, { input with pos := input.pos + (content ++ [0]).length, rest }, ?_, same, rfl, rfl, rfl⟩
    have read := scan_terminated .terminatorEnd content [] rest input.pos free
    rw [List.append_assoc] at start
    rw [scanning, start, List.singleton_append, read]
    simp
  refine consumes_map taken ?_
  intro _ same
  subst same
  exact consumes_pure rfl

theorem consumes_terminatedString {name : String} (free : '\x00' ∉ name.toList) :
    Consumes layout terminatedString (Write.terminated name) (fun found => found = name) := by
  have known := @consumes_terminated layout _ (Utf8.zero_not_mem_encode free)
  rwa [Utf8.decodeOrBytewise_encode] at known

theorem consumes_unlessAtEnd {β : Type} {next : Bool → Reader β} {span : Bytes} {holds : β → Prop}
    (some : span ≠ []) (tail : Consumes layout (next false) span holds) :
    Consumes layout (atEnd >>= next) span holds := by
  intro input rest same start
  have ahead : atEnd input = (.ok false, input) := by
    cases span with
    | nil => exact absurd rfl some
    | cons byte span => simp [atEnd, start]
  rw [bind_of_ok ahead]
  exact tail input rest same start

def IsScope (layout : Layout) (span : Bytes) : Prop :=
  ∃ first last, span = first ++ last ∧ Consumes layout varint first (fun _ => True) ∧
    Consumes layout varint last (fun _ => True)

-- How a variable is spelled, and the name that it gets. The first byte tells the kind, and a byte that is no
-- kind is lost to the name behind it.
inductive Spells (layout : Layout) : Bytes → String → Prop where
  | special {kind : UInt8} {scope : Bytes} : 1 ≤ kind.toNat → kind.toNat ≤ 6 → IsScope layout scope →
    Spells layout (kind :: scope) s!"<type_{kind.toNat}>"
  | named {byte : UInt8} {content scope : Bytes} : 7 ≤ byte.toNat → 0 ∉ content → IsScope layout scope →
    Spells layout (byte :: (content ++ [0] ++ scope)) (Utf8.decodeOrBytewise content)

theorem Spells.length_pos {span : Bytes} {name : String} (known : Spells layout span name) : 0 < span.length := by
  cases known <;> exact Nat.zero_lt_succ _

theorem consumes_names {α : Type} {entries : List α} {encode : α → Bytes} {name : α → String}
    (each : ∀ entry ∈ entries, Spells layout (encode entry) (name entry)) (fuel : Nat) (enough : entries.length < fuel) :
    Consumes layout (variableNames fuel) (entries.flatMap encode ++ [0]) (fun found => found = entries.map name) := by
  induction entries generalizing fuel with
  | nil =>
    obtain ⟨fuel, rfl⟩ := Nat.exists_eq_add_one.mpr enough
    rw [variableNames, List.flatMap_nil, List.nil_append]
    apply consumes_unlessAtEnd (List.cons_ne_nil _ _)
    refine consumes_map (consumes_oneByte _ 0) ?_
    intro _ same
    subst same
    exact consumes_pure rfl
  | cons entry entries ih =>
    obtain ⟨fuel, rfl⟩ : ∃ less, fuel = less + 1 := Nat.exists_eq_add_one.mpr (by omega)
    have later := ih (fun other member => each other (List.mem_cons_of_mem entry member)) fuel
      (Nat.lt_of_succ_lt_succ enough)
    -- What stands behind the name is the same for both kinds of entries.
    have behind : ∀ label {scope}, IsScope layout scope →
        Consumes layout
          (do
            let _ ← varint
            let _ ← varint
            let names ← variableNames fuel
            pure (label :: names))
          (scope ++ (entries.flatMap encode ++ [0])) (fun found => found = label :: entries.map name) := by
      rintro label _ ⟨first, last, rfl, one, two⟩
      rw [List.append_assoc]
      refine consumes_bind one fun _ _ => ?_
      refine consumes_bind two fun _ _ => ?_
      refine consumes_map later ?_
      intro _ same
      subst same
      exact consumes_pure rfl
    have own := each entry List.mem_cons_self
    rw [variableNames, List.flatMap_cons, List.append_assoc, List.map_cons]
    generalize encode entry = span at own ⊢
    generalize name entry = label at own ⊢
    cases own with
    | special low high scope =>
      apply consumes_unlessAtEnd (List.cons_ne_nil _ _)
      refine consumes_bind (consumes_oneByte _ _) ?_
      intro _ same
      subst same
      rw [if_neg (by omega), if_neg (by omega)]
      exact behind _ scope
    | named notKind free scope =>
      rw [List.cons_append, List.append_assoc (_ ++ [0])]
      apply consumes_unlessAtEnd (List.cons_ne_nil _ _)
      refine consumes_bind (consumes_oneByte _ _) ?_
      intro _ same
      subst same
      rw [if_neg (by omega), if_pos notKind]
      refine consumes_bind (consumes_terminated free) ?_
      intro _ same
      subst same
      exact behind _ scope

-- Every entry has a byte at least, so there are turns enough for all of them.
theorem consumes_nestedNames {α : Type} {entries : List α} {encode : α → Bytes} {name : α → String}
    (each : ∀ entry ∈ entries, Spells layout (encode entry) (name entry)) :
    Consumes layout (nested variableNames) (entries.flatMap encode ++ [0])
      (fun found => found = entries.map name) := by
  have few : entries.length ≤ (entries.flatMap encode).length :=
    length_le_flatMap fun entry member => (each entry member).length_pos
  refine consumes_nested fun fuel deep => consumes_names each fuel ?_
  rw [List.length_append] at deep
  omega

theorem spells_entry {entry : Variable} (legible : entry.IsLegible) :
    Spells layout (Write.entry entry) entry.seen := by
  have scope {first last : Nat} (firstFits : first < 2 ^ 35) (lastFits : last < 2 ^ 35) :
      IsScope layout (Write.varint first ++ Write.varint last) :=
    ⟨_, _, rfl, consumes_mono (consumes_varint firstFits) fun _ _ => trivial,
      consumes_mono (consumes_varint lastFits) fun _ _ => trivial⟩
  cases entry with
  | special kind first last =>
    obtain ⟨⟨low, high⟩, firstFits, lastFits⟩ := legible
    have value : (UInt8.ofNat kind).toNat = kind := Utf8.toNat_ofNat_small (by omega)
    have known := @Spells.special layout (UInt8.ofNat kind) _ (by omega) (by omega) (scope firstFits lastFits)
    rwa [value] at known
  | named name first last =>
    obtain ⟨⟨byte, content, spelled, notKind, free⟩, firstFits, lastFits⟩ := legible
    have known := Spells.named notKind free (scope firstFits lastFits)
    simpa [Write.entry, Write.terminated, Variable.seen, spelled] using known

theorem lineWidth_eq (lineCount : Nat) : lineWidth lineCount = Write.lineWidth lineCount := by
  unfold lineWidth Write.lineWidth
  split_ifs <;> omega

theorem consumes_lineInfo {each : Prototype} {entries : List Variable} (known : each.HasDebug entries) {lineCount : Nat}
    (same : (lineCount : Int) = each.lineCount) :
    Consumes layout
      (if lineCount = 0 then pure [] else times each.code.length (asInt (fixedWidth (lineWidth lineCount))))
      (each.lineInfo.flatMap fun line =>
        ByteOrder.little.encode (Write.lineWidth each.lineCount) (unsigned (8 * Write.lineWidth each.lineCount) line))
      (fun found => found = each.lineInfo) := by
  have count := known.lineInfo
  by_cases none : lineCount = 0
  · rw [if_pos (by omega)] at count
    rw [if_pos none, List.eq_nil_of_length_eq_zero count]
    exact consumes_pure rfl
  · rw [if_neg (by omega)] at count
    rw [if_neg none, ← count, lineWidth_eq, same]
    exact consumes_times_same each.lineInfo fun line member => consumes_word (known.lines line member)

theorem consumes_debug {each : Prototype} {entries : List Variable} (known : each.HasSections entries) {lineCount : Nat}
    (same : (lineCount : Int) = each.lineCount) :
    Consumes layout (debug each.code.length each.upvalueData.length lineCount)
      (Write.debug .little each entries)
      (fun found => found = ⟨each.lineInfo, each.upvalueNames, each.variableNames⟩) := by
  obtain ⟨known, legible, names⟩ := known
  have count : each.upvalueNames.length = each.upvalueData.length := known.upvalueNames
  simp only [Write.debug, List.append_assoc]
  refine consumes_choice (consumes_lineInfo known same) ?_
  intro _ same
  subst same
  rw [← count]
  refine consumes_bind (consumes_times_same each.upvalueNames fun name member =>
    consumes_terminatedString (known.terminated name member)) ?_
  intro _ same
  subst same
  refine consumes_map (consumes_nestedNames fun entry member => spells_entry (legible entry member)) ?_
  intro _ same
  subst same
  exact consumes_pure (by rw [names])

theorem length_number_pos (each : Number) : 0 < (Write.number each).length := by
  cases each <;> simp only [Write.number, Write.taggedVarint] <;> split <;> simp

theorem length_collectable_pos {each : Collectable} (range : each.InRange) : 0 < (Write.collectable each).length := by
  cases each with
  | str text => exact Nat.lt_of_le_of_lt (Nat.zero_le _) (length_string text)
  | other label value => exact range.elim
  | _ => simp [Write.collectable]

theorem length_body (each : Prototype) (entries : List Variable) :
    7 + each.code.length + (each.collectables.flatMap Write.collectable).length + each.numbers.length ≤
      (Write.body .little stripped each entries).length := by
  have code : each.code.length ≤
      (each.code.flatMap fun word => ByteOrder.little.encode 4 (unsigned 32 word)).length := by
    apply length_le_flatMap
    intro _ _
    rw [ByteOrder.length_encode]
    decide
  have numbers : each.numbers.length ≤ (each.numbers.flatMap Write.number).length :=
    length_le_flatMap fun number _ => length_number_pos number
  have first := Write.length_varint_pos each.collectables.length
  have second := Write.length_varint_pos each.numbers.length
  have third := Write.length_varint_pos each.code.length
  simp only [Write.body, List.length_append, Bytes.ofByte, List.length_singleton]
  omega

def Optional (stripped : Bool) (n : Int) : Prop := if stripped then n = 0 else FitsVarint n

theorem consumes_optional {n : Int} (known : Optional stripped n) :
    Consumes layout (if stripped = true then pure 0 else varint) (if stripped = true then [] else Write.varint n.toNat)
      (fun found => (found : Int) = n) := by
  cases stripped with
  | true => exact consumes_pure known.symm
  | false => exact consumes_varint_toNat known

theorem optional_fields {each : Prototype} {entries : List Variable} (range : each.Readable stripped entries) :
    Optional stripped each.debugSize ∧ Optional stripped each.firstLine ∧ Optional stripped each.lineCount := by
  have known := range.debug
  cases stripped with
  | true => exact ⟨known.debugSize, known.firstLine, known.lineCount⟩
  | false =>
    obtain ⟨known, _⟩ := known
    exact ⟨⟨Int.le_of_lt known.debugSize.1, known.debugSize.2⟩, known.firstLine, known.lineCount⟩

theorem consumes_debugSections {each : Prototype} {entries : List Variable} (range : each.Readable stripped entries)
    {debugSize lineCount : Nat} (size : (debugSize : Int) = each.debugSize)
    (lines : (lineCount : Int) = each.lineCount) :
    Consumes layout
      (if stripped = true ∨ debugSize = 0 then pure {}
      else debug each.code.length each.upvalueData.length lineCount)
      (if stripped = true then [] else Write.debug .little each entries)
      (fun found => found = ⟨each.lineInfo, each.upvalueNames, each.variableNames⟩) := by
  have known := range.debug
  cases stripped with
  | true =>
    rw [if_pos (.inl rfl), if_pos rfl, known.lineInfo, known.upvalueNames, known.variableNames]
    exact consumes_pure rfl
  | false =>
    have positive : debugSize ≠ 0 := by
      have some : 0 < each.debugSize := known.1.debugSize.1
      omega
    rw [if_neg (by simp [positive]), if_neg Bool.false_ne_true]
    exact consumes_debug known lines

theorem split_optional (one two three later : Bytes) :
    (if stripped = true then [] else one ++ two ++ three) ++ later =
      (if stripped = true then [] else one) ++ ((if stripped = true then [] else two) ++
        ((if stripped = true then [] else three) ++ later)) := by
  cases stripped <;> simp

theorem consumes_body {each : Prototype} {entries : List Variable} {size : Nat}
    (range : each.Readable stripped entries) (sized : (size : Int) = each.size) :
    Consumes { stripped } (body size) (Write.body .little stripped each entries) (fun found => found = each) := by
  obtain ⟨debugFits, firstFits, linesFit⟩ := optional_fields range
  have taken := @length_body stripped each entries
  have small := range.small
  have collectableCount : each.collectables.length ≤ (each.collectables.flatMap Write.collectable).length :=
    length_le_flatMap fun constant member => length_collectable_pos (range.collectables constant member)
  have upvalueFits : FitsByte each.upvalueCount := by
    have count := range.upvalueCount
    unfold FitsByte
    omega
  simp only [Write.body, List.append_assoc]
  refine consumes_bind (consumes_ofByte _ range.flags) ?_
  intro flags first
  refine consumes_bind (consumes_ofByte _ range.paramCount) ?_
  intro paramCount params
  refine consumes_bind (consumes_ofByte _ range.frameSize) ?_
  intro frameSize frame
  refine consumes_bind (consumes_ofByte _ upvalueFits) ?_
  intro upvalueCount upvalues
  obtain rfl : upvalueCount = each.upvalueData.length := by
    have count := range.upvalueCount.1
    omega
  refine consumes_bind (consumes_varint (by omega)) ?_
  intro _ same
  subst same
  refine consumes_bind (consumes_varint (by omega)) ?_
  intro _ same
  subst same
  refine consumes_bind (consumes_varint (by omega)) ?_
  intro _ same
  subst same
  refine consumes_ahead consumes_layout ?_
  intro _ same
  subst same
  simp only [← List.append_assoc (Write.varint each.debugSize.toNat)]
  rw [split_optional]
  refine consumes_choice (consumes_optional debugFits) ?_
  intro debugSize debugs
  refine consumes_choice (consumes_optional firstFits) ?_
  intro firstLine firsts
  refine consumes_choice (consumes_optional linesFit) ?_
  intro lineCount lines
  refine consumes_bind (consumes_times_same each.code fun word member => consumes_word (range.code word member)) ?_
  intro _ same
  subst same
  refine consumes_bind (consumes_times_same each.upvalueData fun word member =>
    consumes_word (range.upvalueData word member)) ?_
  intro _ same
  subst same
  refine consumes_bind (consumes_times_same each.collectables fun constant member =>
    consumes_collectable (range.collectables constant member) ?_) ?_
  · have within := length_le_flatMap_of_mem Write.collectable member
    unfold room
    omega
  intro _ same
  subst same
  refine consumes_bind (consumes_times_same each.numbers fun constant member =>
    consumes_number (range.numbers constant member)) ?_
  intro _ same
  subst same
  refine consumes_choice_map (consumes_debugSections range debugs lines) ?_
  intro _ same
  subst same
  apply consumes_pure
  rw [sized, first, params, frame, upvalues, debugs, firsts, lines, ← range.collectableCount, ← range.numberCount,
    ← range.codeCount]

theorem consumes_prototype {each : Prototype} {entries : List Variable} (range : each.Readable stripped entries) :
    Consumes { stripped } prototype (Write.prototype .little stripped each entries) (fun found => found = each) := by
  have taken := @length_body stripped each entries
  refine consumes_bind (consumes_varint range.small) ?_
  intro size same
  subst same
  rw [if_neg (by omega)]
  exact consumes_body range range.size.symm

theorem prototype_run {each : Prototype} {entries : List Variable} {input : Input} {rest : Bytes}
    (range : each.Readable stripped entries) (same : input.layout = { stripped })
    (start : input.rest = Write.prototype .little stripped each entries ++ rest) :
    prototype input = (.ok each,
      { input with pos := input.pos + (Write.prototype .little stripped each entries).length, rest }) :=
  run_of_quiet (consumes_prototype range) (quiet_of_composed composed_prototype) same start

theorem prototype_end {input : Input} (start : input.rest = [0]) :
    prototype input = (.ok {}, { input with pos := input.pos + 1, rest := [] }) := by
  have none : Consumes input.layout prototype [0] (fun found => found = {}) := by
    apply consumes_tag 0 (by decide)
    exact consumes_pure rfl
  exact run_of_quiet none (quiet_of_composed composed_prototype) rfl start

theorem prototypes_succ {fuel : Nat} {first : Prototype} {input after : Input} (some : input.rest ≠ [])
    (ran : prototype input = (.ok first, after)) :
    prototypes (fuel + 1) input =
      (if first.size = 0 then pure [] else prototypes fuel >>= fun later => pure (first :: later)) after := by
  have ahead : atEnd input = (.ok false, input) := by simp [atEnd, some]
  have tried : attempt prototype input = (.ok (.ok first), after) := by simp [attempt, ran]
  rw [prototypes]
  exact (bind_of_ok ahead).trans (bind_of_ok tried)

-- Every prototype takes the loop one turn, and the one of size zero ends it.
theorem prototypes_run {written : List (Prototype × List Variable)}
    (range : ∀ each ∈ written, each.1.Readable stripped each.2) {fuel : Nat} (enough : written.length < fuel)
    {input : Input} (same : input.layout = { stripped })
    (start : input.rest =
      (written.flatMap fun each => Write.prototype .little stripped each.1 each.2) ++ [0]) :
    prototypes fuel input =
      (.ok (written.map Prod.fst), { input with pos := input.pos + input.rest.length, rest := [] }) := by
  induction written generalizing fuel input with
  | nil =>
    obtain ⟨fuel, rfl⟩ := Nat.exists_eq_add_one.mpr enough
    rw [List.flatMap_nil, List.nil_append] at start
    rw [prototypes_succ (by simp [start]) (prototype_end start), start]
    rfl
  | cons each written ih =>
    obtain ⟨fuel, rfl⟩ : ∃ less, fuel = less + 1 := Nat.exists_eq_add_one.mpr (by omega)
    have own := range each List.mem_cons_self
    have taken := @length_body stripped each.1 each.2
    have nonzero : ¬ each.1.size = 0 := by
      have size := own.size
      omega
    rw [List.flatMap_cons, List.append_assoc] at start
    have ran := prototype_run own same start
    have others := fun other member => range other (List.mem_cons_of_mem each member)
    have later := @ih others fuel (Nat.lt_of_succ_lt_succ enough)
      { input with
        pos := input.pos + (Write.prototype .little stripped each.1 each.2).length
        rest := (written.flatMap fun each => Write.prototype .little stripped each.1 each.2) ++ [0] } same rfl
    rw [prototypes_succ (by simp [start]) ran, if_neg nonzero, bind_of_ok later, start]
    simp [pure_apply, Nat.add_assoc]

theorem consumes_sourceName (name : String) :
    Consumes layout (if (Utf8.encode name).length = 0 then pure "" else string (Utf8.encode name).length)
      (Utf8.encode name) (fun found => found = name) := by
  by_cases empty : (Utf8.encode name).length = 0
  · have text := Utf8.decodeReplacing_encode name
    rw [List.eq_nil_of_length_eq_zero empty] at text
    rw [if_pos empty, List.eq_nil_of_length_eq_zero empty, ← text]
    exact consumes_pure rfl
  · rw [if_neg empty]
    exact consumes_string name

theorem sourceName_run {header : Header} (range : header.Legible) {input : Input} {rest : Bytes}
    (start : input.rest =
      (if header.isStripped then [] else Write.sized (Utf8.encode header.sourceName)) ++ rest) :
    (do
      let length ← if header.flags / 2 % 2 = 1 then pure 0 else varint
      let sourceName ← if length = 0 then pure "" else string length
      pure { version := header.version, flags := header.flags, sourceName : Header } : Reader Header) input =
      (.ok header, { input with
        pos := input.pos + (if header.isStripped then [] else Write.sized (Utf8.encode header.sourceName)).length
        rest }) := by
  have fits := range.sourceName
  refine run_of_quiet ?_ ?_ rfl start
  · by_cases stripped : header.flags / 2 % 2 = 1
    · have flag : header.isStripped = true := decide_eq_true stripped
      rw [if_pos flag] at fits ⊢
      rw [if_pos stripped]
      apply consumes_pure
      rw [← fits]
    · have flag : ¬ header.isStripped = true := by simp [Header.isStripped, stripped]
      rw [if_neg flag] at fits ⊢
      rw [if_neg stripped]
      refine consumes_bind (consumes_varint fits) ?_
      intro _ same
      subst same
      refine consumes_choice_map (consumes_sourceName header.sourceName) ?_
      intro _ same
      subst same
      exact consumes_pure rfl
  · apply quiet_of_composed
    exact composed.choice .pure composed_varint fun length => composed.choice .pure composed_string fun _ => .pure

theorem header_run {header : Header} (range : header.Legible) (rest : Bytes) :
    Read.header { rest := Write.header header ++ rest } =
      (.ok header, { pos := (Write.header header).length, rest, layout := { stripped := header.isStripped } }) := by
  have one : header.version < 256 := by
    rw [range.version]
    decide
  simp only [Write.header, List.append_assoc]
  refine (bind_of_ok (show peek 3 .signatureEnd _ = (.ok signature, _) from rfl)).trans ?_
  refine (bind_of_ok (show require _ _ _ = (.ok (), _) from rfl)).trans ?_
  refine (bind_of_ok (run_of_quiet (consumes_take signature _) quiet_take rfl rfl)).trans ?_
  refine (bind_of_ok (run_of_quiet (consumes_ofByteNat _ one) (quiet_of_composed composed_fixedWidth) rfl rfl)).trans ?_
  rw [if_neg (not_not_intro range.version)]
  refine (bind_of_ok (run_of_quiet (consumes_varint range.flags) (quiet_of_composed composed_varint) rfl rfl)).trans ?_
  refine (bind_of_ok (show Reader.layout _ = (.ok {}, _) from rfl)).trans ?_
  refine (bind_of_ok (show setLayout _ _ = (.ok (), _) from rfl)).trans ?_
  refine (sourceName_run range rfl).trans ?_
  simp [Header.isStripped, Nat.add_assoc]

end Read

theorem dump_little {header : Header} (range : header.InRange) (written : List (Prototype × List Variable)) :
    Write.dump header written = Write.header header ++
      ((written.flatMap fun each => Write.prototype .little header.isStripped each.1 each.2) ++ [0]) := by
  simp only [Write.dump, range.order, Bool.false_eq_true, ↓reduceIte, List.append_assoc]

theorem length_le_prototypes (stripped : Bool) (written : List (Prototype × List Variable)) :
    written.length ≤ (written.flatMap fun each => Write.prototype .little stripped each.1 each.2).length := by
  apply length_le_flatMap
  intro each _
  have positive := Write.length_varint_pos (Write.body .little stripped each.1 each.2).length
  rw [Write.prototype, Write.sized, List.length_append]
  omega

theorem parse_run {header : Header} {written : List (Prototype × List Variable)} (legible : header.Legible)
    (each : ∀ prototype ∈ written, prototype.1.Readable header.isStripped prototype.2) {bytes : Bytes}
    (spelled : bytes = Write.header header ++
      ((written.flatMap fun each => Write.prototype .little header.isStripped each.1 each.2) ++ [0])) :
    parse bytes = (.ok { header, prototypes := written.map Prod.fst },
      { pos := bytes.length, rest := [], layout := { stripped := header.isStripped } }) := by
  have few := length_le_prototypes header.isStripped written
  have headed := Read.header_run legible
    ((written.flatMap fun each => Write.prototype .little header.isStripped each.1 each.2) ++ [0])
  rw [spelled]
  refine (bind_of_ok headed).trans ((bind_of_ok (Read.prototypes_run each ?_ rfl rfl)).trans ?_)
  · simp only [List.length_append]
    omega
  · simp [pure_apply]

theorem parse_readable {header : Header} {written : List (Prototype × List Variable)} (range : header.InRange)
    (each : ∀ prototype ∈ written, prototype.1.Readable header.isStripped prototype.2) :
    parse (Write.dump header written) =
      (.ok { header, prototypes := written.map Prod.fst },
        { pos := (Write.dump header written).length, rest := [], layout := { stripped := header.isStripped } }) :=
  parse_run range.toLegible each (dump_little range written)

theorem parse_dump (header : Header) (written : List (Prototype × List Variable)) (range : header.InRange)
    (each : ∀ prototype ∈ written, prototype.1.InRange header.isStripped prototype.2) :
    ∃ after, parse (Write.dump header written) = (.ok { header, prototypes := written.map Prod.fst }, after) ∧
      after.said = "" ∧ after.rest = [] ∧ after.pos = (Write.dump header written).length :=
  ⟨_, parse_readable range fun prototype member => (each prototype member).readable, rfl, rfl, rfl⟩

def measured (stripped : Bool) (each : Prototype) (entries : List Variable) : Prototype × List Variable :=
  ({ each with
      size := (Write.body .little stripped each entries).length
      upvalueCount := each.upvalueData.length
      collectableCount := each.collectables.length
      numberCount := each.numbers.length
      codeCount := each.code.length }, entries)

-- Constants of every kind, at the ends of their ranges, and lines of two bytes each.
def everyKind : Prototype where
  flags := 3
  paramCount := 2
  frameSize := 255
  debugSize := 1
  firstLine := 7
  lineCount := 300
  code := [0xFFFFFFFF, 0]
  upvalueData := [0x8000, 1]
  collectables := [.child, .str "", .i64 (-2 ^ 63), .u64 (2 ^ 64 - 1), .complex ⟨1⟩ ⟨0xFFF0000000000000⟩,
    .table { array := [.nil, .int 2147483647, .num ⟨0x7FF8000000000001⟩], hash := [(.str "é", .bool false)] }]
  numbers := [.int (-1), .int 2147483647, .num ⟨0xFFFFFFFFFFFFFFFF⟩]
  lineInfo := [0, 65535]
  upvalueNames := ["a", "é"]
  variableNames := ["<type_1>", "<type_6>"]

-- The second prototype has debug sections without lines.
def mixedDump : List (Prototype × List Variable) :=
  [measured false everyKind [.special 1 0 200, .special 6 3 4], measured false { debugSize := 9, code := [5] } []]

def mixedHeader : Header := { version, flags := 4, sourceName := "@é.lua" }

theorem parse_dump_mixed :
    mixedHeader.InRange ∧ (∀ prototype ∈ mixedDump, prototype.1.InRange mixedHeader.isStripped prototype.2) ∧
      ∃ after, parse (Write.dump mixedHeader mixedDump) =
          (.ok { header := mixedHeader, prototypes := mixedDump.map Prod.fst }, after) ∧
        after.said = "" ∧ after.rest = [] ∧ after.pos = (Write.dump mixedHeader mixedDump).length := by
  have header : mixedHeader.InRange := by decide
  have prototypes : ∀ prototype ∈ mixedDump, prototype.1.InRange mixedHeader.isStripped prototype.2 := by
    decide +kernel
  exact ⟨header, prototypes, parse_dump mixedHeader mixedDump header prototypes⟩

end LuaBytecode.Jit
