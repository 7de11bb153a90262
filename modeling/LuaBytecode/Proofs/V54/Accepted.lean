import LuaBytecode.Proofs.V54.Writing

namespace LuaBytecode.V54

open Text

def Function.InStep (each : Function) : Prop :=
  ∃ padding code, code.length < 2 ^ 64 ∧ each.recording? .code = some (Wire.codeSection padding code) ∧
    each.code = code.map fun word => (word.toNat : Int)

def Function.KeepsSource (parent : Option String) (each : Function) : Prop :=
  ∃ kept, each.recording? .source = some kept ∧
    (kept.length ≤ 1 → each.source = parent ∨ each.source = some "")

mutual
def KeepsSources (parent : Option String) : Prototype → Prop
  | .node each inner => each.KeepsSource parent ∧ KeepsForestSources each.source inner
def KeepsForestSources (parent : Option String) : List Prototype → Prop
  | [] => True
  | tree :: forest => KeepsSources parent tree ∧ KeepsForestSources parent forest
end

theorem keepsForestSources_of_forall (parent : Option String) (forest : List Prototype)
    (each : ∀ tree ∈ forest, KeepsSources parent tree) : KeepsForestSources parent forest := by
  induction forest with
  | nil => trivial
  | cons tree forest ih =>
    exact ⟨each tree List.mem_cons_self, ih fun other member => each other (List.mem_cons_of_mem tree member)⟩

structure Function.Accepted (each : Function) : Prop where
  range : each.InRange
  named : each.source ≠ none
  inStep : each.InStep

theorem Function.keepsCode_of_inStep {each : Function} (inStep : each.InStep) : each.KeepsCode := by
  obtain ⟨padding, code, bound, found, _⟩ := inStep
  intro kept same
  rw [found] at same
  cases same
  exact ⟨padding, code, bound, rfl⟩

namespace Read

open Reader

variable {limit : Nat}

theorem yields_fixedWidth (width : Nat) :
    Yields limit (fixedWidth width) (fun n span => span.length = width ∧ n = span.toNat) := by
  refine yields_bind (yields_takeUpTo width) ?_
  rintro taken _ ⟨rfl, _, _⟩
  unfold fixed
  split
  · rename_i exactly
    exact yields_pure ⟨by rwa [List.append_nil], by rw [List.append_nil]; rfl⟩
  · exact yields_fail

theorem yields_byte : Yields limit byte (fun n _ => n < 256) := by
  apply yields_mono (yields_fixedWidth 1)
  rintro n span ⟨exactly, rfl⟩
  have bound := Bytes.toNat_lt span
  rwa [exactly, Nat.pow_one] at bound

theorem yields_integer :
    Yields limit integer (fun n span => (-2 ^ 63 ≤ n ∧ n < 2 ^ 63) ∧ span.length = 8) := by
  refine yields_bind (yields_fixedWidth 8) ?_
  rintro n span ⟨exactly, rfl⟩
  apply yields_pure
  rw [List.append_nil]
  exact ⟨(Bytes.ofNat_signed exactly).1, exactly⟩

theorem yields_number : Yields limit number (fun _ span => span.length = 8) := by
  refine yields_bind (yields_fixedWidth 8) ?_
  rintro n span ⟨exactly, _⟩
  apply yields_pure
  rw [List.append_nil, exactly]

theorem yields_instruction :
    Yields limit instruction (fun n span => ∃ each : UInt32, n = each.toNat ∧ span = Wire.word each) := by
  refine yields_bind (yields_fixedWidth 4) ?_
  rintro n span ⟨exactly, rfl⟩
  have spelled := word_toNat exactly
  apply yields_pure
  refine ⟨UInt32.ofNat span.toNat, ?_, ?_⟩
  · rw [← toNat_word, spelled]
  · rw [spelled, List.append_nil]

theorem yields_counted {α : Type} {reader : Reader α} {holds : α → Prop}
    (known : Yields limit reader (fun value _ => holds value)) :
    Yields limit (counted reader) (fun found _ => found.length < 2 ^ 64 ∧ ∀ value ∈ found, holds value) := by
  refine yields_bind yields_size ?_
  rintro count _ ⟨bound, _⟩
  apply yields_mono (yields_times known count)
  rintro found _ ⟨rfl, every⟩
  exact ⟨bound, every⟩

theorem yields_code :
    Yields limit (counted instruction) (fun found span =>
      ∃ padding code, code.length < 2 ^ 64 ∧ span = Wire.codeSection padding code ∧
        found = code.map fun word => (word.toNat : Int)) := by
  refine yields_bind yields_size ?_
  rintro count _ ⟨bound, padding, rfl⟩
  apply yields_mono (yields_times_spelled yields_instruction count)
  rintro _ _ ⟨code, rfl, rfl, rfl⟩
  exact ⟨padding, code, bound, by rw [Wire.codeSection, Wire.counted, List.append_assoc], rfl⟩

theorem yields_noted {α : Type} {reader : Reader α} {holds : α → Bytes → Prop} (record : Bool)
    (known : Yields limit reader holds) :
    Yields limit (noted record reader)
      (fun found span => holds found.1 span ∧ (record = true → found.2 = some span)) := by
  cases record with
  | false =>
    refine yields_bind known ?_
    intro value span held
    exact yields_pure ⟨by rwa [List.append_nil], nofun⟩
  | true =>
    refine yields_bind (yields_withSpan known) ?_
    rintro ⟨value, found⟩ span ⟨held, same⟩
    refine yields_pure ⟨by rwa [List.append_nil], fun _ => ?_⟩
    rw [List.append_nil]
    exact congrArg some same

theorem yields_string (small : 3 * limit < 2 ^ 63) :
    Yields limit string (fun found span =>
      TextFits found ∧ (span.length ≤ 1 → found = none ∨ found = some "")) := by
  refine yields_bind yields_size ?_
  rintro count _ ⟨_, padding, rfl⟩
  have spelled := Wire.length_size_pos count
  split
  · exact yields_pure ⟨nofun, fun _ => .inl rfl⟩
  · refine yields_bind yields_require ?_
    rintro _ _ ⟨_, rfl⟩
    refine yields_bind (yields_takeUpTo (count - 1)) ?_
    rintro taken _ ⟨rfl, _, bound⟩
    apply yields_pure
    constructor
    · rw [textFits_iff]
      rintro _ ⟨rfl⟩
      have grown := Utf8.length_encode_decodeReplacing_le taken
      omega
    · intro short
      simp only [List.length_append, List.nil_append, List.length_nil] at short
      have empty : taken = [] := List.eq_nil_of_length_eq_zero (by omega)
      rw [empty]
      exact .inr rfl

theorem yields_constant (small : 3 * limit < 2 ^ 63) :
    Yields limit constant (fun found _ => IsConstant found) := by
  refine yields_bind yields_byte ?_
  intro tag _ _
  dsimp only
  split
  · exact yields_pure trivial
  · exact yields_pure trivial
  · split
    · refine yields_bind yields_number ?_
      intro value _ _
      exact yields_pure trivial
    · refine yields_bind yields_integer ?_
      rintro value _ ⟨range, _⟩
      exact yields_pure range
  · refine yields_bind (yields_string small) ?_
    rintro found _ ⟨fits, _⟩
    apply yields_pure
    cases found with
    | none => trivial
    | some text => exact fits
  · exact yields_fail

theorem isByte_of_lt {n : Nat} (bound : n < 256) : IsByte n := by
  unfold IsByte
  omega

theorem isSize_of_lt {n : Nat} (bound : n < 2 ^ 64) : IsSize n := by
  unfold IsSize
  omega

theorem yields_upvalue (record : Bool) : Yields limit (upvalue record) (fun found _ => found.InRange) := by
  have fields : Yields limit (do
      let inStack ← byte
      let index ← byte
      let kind ← byte
      pure (inStack, index, kind)) (fun found _ => found.1 < 256 ∧ found.2.1 < 256 ∧ found.2.2 < 256) := by
    refine yields_bind yields_byte ?_
    intro inStack _ first
    refine yields_bind yields_byte ?_
    intro index _ second
    refine yields_bind yields_byte ?_
    intro kind _ third
    exact yields_pure ⟨first, second, third⟩
  refine yields_bind (yields_noted record fields) ?_
  rintro ⟨⟨inStack, index, kind⟩, recorded⟩ _ ⟨⟨first, second, third⟩, _⟩
  exact yields_pure ⟨isByte_of_lt first, isByte_of_lt second, isByte_of_lt third⟩

theorem yields_line : Yields limit line (fun found _ => IsByte found) := by
  refine yields_bind yields_byte ?_
  intro n _ bound
  exact yields_pure (isByte_of_lt bound)

theorem yields_absLine (record : Bool) : Yields limit (absLine record) (fun found _ => found.InRange) := by
  have fields : Yields limit (do
      let pc ← size
      let line ← size
      pure (pc, line)) (fun found _ => found.1 < 2 ^ 64 ∧ found.2 < 2 ^ 64) := by
    refine yields_bind yields_size ?_
    rintro pc _ ⟨first, _⟩
    refine yields_bind yields_size ?_
    rintro line _ ⟨second, _⟩
    exact yields_pure ⟨first, second⟩
  refine yields_bind (yields_noted record fields) ?_
  rintro ⟨⟨pc, line⟩, recorded⟩ _ ⟨⟨first, second⟩, _⟩
  exact yields_pure ⟨isSize_of_lt first, isSize_of_lt second⟩

theorem yields_localVariable (small : 3 * limit < 2 ^ 63) (record : Bool) :
    Yields limit (localVariable record) (fun found _ => found.InRange) := by
  have fields : Yields limit (do
      let name ← string
      let startPc ← size
      let endPc ← size
      pure (name, startPc, endPc))
        (fun found _ => TextFits found.1 ∧ found.2.1 < 2 ^ 64 ∧ found.2.2 < 2 ^ 64) := by
    refine yields_bind (yields_string small) ?_
    rintro name _ ⟨fits, _⟩
    refine yields_bind yields_size ?_
    rintro startPc _ ⟨first, _⟩
    refine yields_bind yields_size ?_
    rintro endPc _ ⟨second, _⟩
    exact yields_pure ⟨fits, first, second⟩
  refine yields_bind (yields_noted record fields) ?_
  rintro ⟨⟨name, startPc, endPc⟩, recorded⟩ _ ⟨⟨fits, first, second⟩, _⟩
  exact yields_pure ⟨fits, isSize_of_lt first, isSize_of_lt second⟩

theorem yields_name (small : 3 * limit < 2 ^ 63) : Yields limit string (fun found _ => TextFits found) := by
  apply yields_mono (yields_string small)
  rintro found _ ⟨fits, _⟩
  exact fits

theorem yields_debug (small : 3 * limit < 2 ^ 63) (record : Bool) :
    Yields limit (debug record) (fun found _ =>
      (found.lineInfo.length < 2 ^ 64 ∧ ∀ line ∈ found.lineInfo, IsByte line) ∧
        (found.absLineInfo.length < 2 ^ 64 ∧ ∀ entry ∈ found.absLineInfo, entry.InRange) ∧
        (found.locals.length < 2 ^ 64 ∧ ∀ entry ∈ found.locals, entry.InRange) ∧
        (found.upvalueNames.length < 2 ^ 64 ∧ ∀ name ∈ found.upvalueNames, TextFits name)) := by
  refine yields_bind (yields_counted yields_line) ?_
  intro lineInfo _ lines
  refine yields_bind (yields_counted (yields_absLine record)) ?_
  intro absLineInfo _ absLines
  refine yields_bind (yields_counted (yields_localVariable small record)) ?_
  intro locals _ localVariables
  refine yields_bind (yields_counted (yields_name small)) ?_
  intro upvalueNames _ names
  exact yields_pure ⟨lines, absLines, localVariables, names⟩

theorem words_range {words : List Int} {code : List UInt32} (bound : code.length < 2 ^ 64)
    (spelled : words = code.map fun word => (word.toNat : Int)) :
    words.length < 2 ^ 64 ∧ ∀ word ∈ words, IsWord word := by
  subst spelled
  refine ⟨by rwa [List.length_map], ?_⟩
  intro _ member
  obtain ⟨word, _, rfl⟩ := List.mem_map.mp member
  have := word.toNat_lt
  unfold IsWord
  omega

theorem yields_prototype (small : 3 * limit < 2 ^ 63) (depth : Nat) (parent : Option String)
    (named : parent ≠ none) (fits : TextFits parent) :
    Yields limit (prototypeWithin true depth parent) (fun found _ =>
      found.Every Function.Accepted ∧ KeepsSources parent found) := by
  -- The source handed down changes with every function, so it stays general in the induction.
  induction depth generalizing parent with
  | zero => exact yields_fail
  | succ depth ih =>
    refine yields_bind (yields_noted true (yields_string small)) ?_
    rintro ⟨own, sourceSpan⟩ sourceBytes ⟨⟨ownFits, ownShort⟩, sourceKept⟩
    refine yields_bind (yields_noted true yields_size) ?_
    rintro ⟨lineDefined, lineSpan⟩ _ ⟨⟨lineBound, _⟩, _⟩
    refine yields_bind (yields_noted true yields_size) ?_
    rintro ⟨lastLineDefined, lastLineSpan⟩ _ ⟨⟨lastLineBound, _⟩, _⟩
    refine yields_bind (yields_noted true yields_byte) ?_
    rintro ⟨paramCount, paramSpan⟩ _ ⟨paramBound, _⟩
    refine yields_bind (yields_noted true yields_byte) ?_
    rintro ⟨varargFlag, varargSpan⟩ _ ⟨varargBound, _⟩
    refine yields_bind (yields_noted true yields_byte) ?_
    rintro ⟨maxStackSize, stackSpan⟩ _ ⟨stackBound, _⟩
    refine yields_bind (yields_noted true yields_code) ?_
    rintro ⟨words, codeSpan⟩ _ ⟨⟨padding, code, codeBound, rfl, spelled⟩, codeKept⟩
    refine yields_bind (yields_noted true (yields_counted (yields_constant small))) ?_
    rintro ⟨constants, constantSpan⟩ _ ⟨constantsRange, _⟩
    refine yields_bind (yields_noted true (yields_counted (yields_upvalue true))) ?_
    rintro ⟨upvalues, upvalueSpan⟩ _ ⟨upvaluesRange, _⟩
    refine yields_bind (yields_noted true yields_size) ?_
    rintro ⟨innerCount, innerSpan⟩ _ ⟨⟨innerBound, _⟩, _⟩
    have sourceNamed : (own.orElse fun _ => parent) ≠ none := by
      cases own <;> simp [named]
    have sourceFits : TextFits (own.orElse fun _ => parent) := by
      cases own with
      | none => exact fits
      | some text => exact ownFits
    refine yields_bind (yields_times (ih _ sourceNamed sourceFits) innerCount) ?_
    rintro inner _ ⟨rfl, every⟩
    refine yields_bind (yields_noted true (yields_debug small true)) ?_
    rintro ⟨found, debugSpan⟩ _ ⟨⟨linesRange, absLinesRange, localsRange, namesRange⟩, _⟩
    dsimp only at *
    obtain rfl := sourceKept rfl
    obtain rfl := codeKept rfl
    apply yields_pure
    constructor
    · refine ⟨?_, innerBound, Tree.everyForest_of_forall inner fun tree member => (every tree member).1⟩
      refine ⟨?_, sourceNamed, padding, code, codeBound, rfl, spelled⟩
      exact
        { source := sourceFits
          lineDefined := isSize_of_lt lineBound
          lastLineDefined := isSize_of_lt lastLineBound
          paramCount := isByte_of_lt paramBound
          varargFlag := isByte_of_lt varargBound
          maxStackSize := isByte_of_lt stackBound
          code := words_range codeBound spelled
          constants := constantsRange
          upvalues := upvaluesRange
          lineInfo := linesRange
          absLineInfo := absLinesRange
          locals := localsRange
          upvalueNames := namesRange }
    · refine ⟨⟨sourceBytes, rfl, ?_⟩,
        keepsForestSources_of_forall _ inner fun tree member => (every tree member).2⟩
      intro short
      rcases ownShort short with rfl | rfl
      · exact .inl rfl
      · exact .inr rfl

theorem yields_sayLine {text : String} : Yields limit (sayLine text) (fun _ span => span = []) :=
  yields_say

theorem starves_fixedWidth {width : Nat} (some : 0 < width) : Starves (fixedWidth width) := by
  intro input nothing
  refine ⟨.width width, { input with pos := input.pos + 0, rest := [] }, ?_⟩
  simp [fixedWidth, takeUpTo, nothing, fixed, fail, bind, Reader.bind, Nat.ne_of_lt some]

theorem starves_byte : Starves byte := starves_fixedWidth Nat.one_pos

theorem yields_spelledByte : Yields limit byte (fun n span => n < 256 ∧ span = Bytes.ofByte n) := by
  apply yields_mono (yields_fixedWidth 1)
  rintro n span ⟨exactly, rfl⟩
  have bound := Bytes.toNat_lt span
  rw [exactly, Nat.pow_one] at bound
  exact ⟨bound, (Bytes.ofByte_toNat exactly).symm⟩

theorem yields_spelledInteger :
    Yields limit integer (fun n span => (-2 ^ 63 ≤ n ∧ n < 2 ^ 63) ∧ span = Bytes.ofNat 8 (unsigned 64 n)) := by
  refine yields_bind (yields_fixedWidth 8) ?_
  rintro n span ⟨exactly, rfl⟩
  obtain ⟨range, spelled⟩ := Bytes.ofNat_signed exactly
  apply yields_pure
  rw [spelled, List.append_nil]
  exact ⟨range, rfl⟩

theorem yields_spelledNumber :
    Yields limit number (fun value span => span = Bytes.ofNat 8 value.bits.toNat) := by
  refine yields_bind (yields_fixedWidth 8) ?_
  rintro n span ⟨exactly, rfl⟩
  apply yields_pure
  rw [Bytes.ofNat_bits exactly, List.append_nil]

theorem yields_spelledHeader : Yields limit header (fun found span => found.Spellable ∧ span = found.spelled) := by
  refine yields_bind yields_sayLine ?_
  rintro _ _ rfl
  refine yields_bind yields_sayLine ?_
  rintro _ _ rfl
  refine yields_bind yields_sayLine ?_
  rintro _ _ rfl
  refine yields_bind (yields_takeUpTo 4) ?_
  rintro found _ ⟨rfl, _⟩
  refine yields_bind yields_require ?_
  rintro _ _ ⟨signed, rfl⟩
  obtain rfl : found = signature := of_decide_eq_true signed
  refine yields_bind yields_sayLine ?_
  rintro _ _ rfl
  refine yields_bind yields_spelledByte ?_
  rintro foundVersion _ ⟨_, rfl⟩
  refine yields_bind yields_require ?_
  rintro _ _ ⟨known, rfl⟩
  obtain rfl : foundVersion = version := of_decide_eq_true known
  refine yields_bind yields_sayLine ?_
  rintro _ _ rfl
  refine yields_bind yields_spelledByte ?_
  rintro format _ ⟨formatSmall, rfl⟩
  -- Nothing checks these six bytes, but there is a byte to read behind them.
  refine yields_takeUpTo_bind ?_ ?_
  · intro data
    exact starves_say (starves_bind starves_byte)
  intro data dataSix
  refine yields_bind yields_sayLine ?_
  rintro _ _ rfl
  refine yields_bind yields_spelledByte ?_
  rintro instructionWidth _ ⟨instructionSmall, rfl⟩
  refine yields_bind yields_spelledByte ?_
  rintro integerWidth _ ⟨integerSmall, rfl⟩
  refine yields_bind yields_spelledByte ?_
  rintro numberWidth _ ⟨numberSmall, rfl⟩
  refine yields_bind yields_sayLine ?_
  rintro _ _ rfl
  refine yields_bind yields_spelledInteger ?_
  rintro testInteger _ ⟨integerFits, rfl⟩
  refine yields_bind yields_spelledNumber ?_
  rintro testNumber _ rfl
  refine yields_bind yields_sayLine ?_
  rintro _ _ rfl
  refine yields_bind yields_sayLine ?_
  rintro _ _ rfl
  apply yields_pure
  refine ⟨⟨formatSmall, dataSix, instructionSmall, integerSmall, numberSmall, integerFits⟩, ?_⟩
  simp only [Header.spelled, List.nil_append, List.append_nil]
  rfl

theorem yields_header : Yields limit header (fun _ span => span.length = 31) := by
  apply yields_mono yields_spelledHeader
  rintro found _ ⟨spellable, rfl⟩
  simp [Header.spelled, signature, Bytes.ofByte, spellable.data]

theorem yields_chunk (small : 3 * limit < 2 ^ 63) :
    Yields limit (chunk true) (fun found _ =>
      found.main.Every Function.Accepted ∧ KeepsSources (some "") found.main) := by
  have empty : TextFits (some "") := by decide
  rw [chunk_eq]
  refine yields_bind yields_header fun header _ _ => ?_
  refine yields_bind yields_byte fun count _ _ => ?_
  refine yields_bind yields_sayLine fun _ _ _ => ?_
  refine yields_bind (yields_nested fun depth => yields_prototype small depth (some "") nofun empty) ?_
  intro main _ known
  exact yields_pure known

end Read

-- A file of so few bytes that no text in it grows beyond what can be read again: what is malformed
-- in a text is replaced, and takes up to three times as many bytes.
def Small (file : Bytes) : Prop := 3 * file.length < 2 ^ 63
deriving Decidable

theorem parse_accepted {file : Bytes} {chunk : Chunk} {after : Input} (small : Small file)
    (accepted : parse true file = (.ok chunk, after)) :
    chunk.main.Every Function.Accepted ∧ KeepsSources (some "") chunk.main := by
  obtain ⟨_, _, _, known⟩ := Read.yields_chunk small { rest := file } chunk after (Nat.le_refl _) accepted
  exact known

def seen {β : Type} (view : Chunk → β) (file : Bytes) : Option β :=
  match parse true file with
  | (.ok chunk, _) => some (view chunk)
  | (.error _, _) => none

theorem parse_of_seen {β : Type} {view : Chunk → β} {file : Bytes} {found : β}
    (same : seen view file = some found) :
    ∃ chunk after, parse true file = (.ok chunk, after) ∧ view chunk = found := by
  rw [seen] at same
  split at same
  · rename_i chunk after ran
    exact ⟨chunk, after, ran, Option.some.inj same⟩
  · cases same

end LuaBytecode.V54
