import LuaBytecode.Proofs.V54.Unrecorded

namespace LuaBytecode.V54

open Reader Text

theorem fault_write_chars {tree : Prototype} (every : tree.Every Function.Encodable)
    (few : tree.top.upvalues.length ≤ 255) : (write (some tree)).fault = none := by
  rw [fault_write every few]
  exact List.findSome?_eq_none_iff.mpr fun _ _ => rfl

namespace Read

theorem ensures_noted {α : Type} {reader : Reader α} {holds : α → Prop} (record : Bool) (known : Ensures reader holds) :
    Ensures (noted record reader) (fun found => holds found.1) := by
  cases record with
  | false => exact ensures_bind known fun value held => ensures_pure held
  | true => exact ensures_bind (ensures_withSpan known) fun value held => ensures_pure held

theorem ensures_counted {α : Type} {reader : Reader α} {holds : α → Prop} (known : Ensures reader holds) :
    Ensures (counted reader) (fun found => ∀ value ∈ found, holds value) := by
  apply ensures_skip
  intro count
  exact ⟨fun input found after ran => ((ensures_times known count).found input found after ran).2⟩

theorem ensures_byte : Ensures byte (· < 256) := ensures_of_yields fun _ => yields_byte

theorem ensures_constant :
    Ensures constant (fun found => (Write.constant found).fault = (textOf found).bind Encoding.fault?) := by
  apply ensures_skip
  intro tag
  dsimp only
  split
  · exact ensures_pure rfl
  · apply ensures_pure
    cases decide (tag ≠ 17 ∧ tag / 16 ≠ 0) <;> rfl
  · split
    · exact ensures_skip fun value => ensures_pure rfl
    · apply ensures_bind (ensures_of_yields fun _ => yields_mono yields_integer fun _ _ known => known.1)
      intro value range
      apply ensures_pure
      exact Write.fault_constant (show IsConstant (.int value : Constant) from range)
  · apply ensures_skip
    intro text
    apply ensures_pure
    cases text with
    | none => rfl
    | some text => exact Write.fault_str text
  · exact ensures_fail

theorem ensures_code (record : Bool) :
    Ensures (noted record (counted instruction)) (fun found =>
      record = true → ∃ padding code, code.length < 2 ^ 64 ∧ found.2 = some (Wire.codeSection padding code) ∧
        found.1 = code.map fun word => (word.toNat : Int)) := by
  apply ensures_of_yields
  intro limit
  apply yields_mono (yields_noted record yields_code)
  rintro found span ⟨⟨padding, code, bound, rfl, spelled⟩, kept⟩ recording
  exact ⟨padding, code, bound, kept recording, spelled⟩

theorem ensures_lines (record : Bool) : Ensures (debug record) (fun found => ∀ line ∈ found.lineInfo, IsByte line) := by
  apply ensures_bind (ensures_counted (ensures_of_yields fun _ => yields_line))
  intro lineInfo lines
  apply ensures_skip
  intro absLineInfo
  apply ensures_skip
  intro locals
  apply ensures_skip
  intro upvalueNames
  exact ensures_pure lines

theorem ensures_encodable (record : Bool) (depth : Nat) (parent : Option String) :
    Ensures (prototypeWithin record depth parent) (fun tree =>
      tree.Every fun each => each.Encodable ∧ (record = true → each.InStep)) := by
  induction depth generalizing parent with
  | zero => exact ensures_fail
  | succ depth ih =>
    apply ensures_skip
    intro source
    apply ensures_skip
    intro lineDefined
    apply ensures_skip
    intro lastLineDefined
    apply ensures_bind (ensures_noted record ensures_byte)
    intro paramCount paramSmall
    apply ensures_bind (ensures_noted record ensures_byte)
    intro varargFlag varargSmall
    apply ensures_bind (ensures_noted record ensures_byte)
    intro maxStackSize stackSmall
    apply ensures_bind (ensures_code record)
    intro code inStep
    apply ensures_bind (ensures_noted record (ensures_counted ensures_constant))
    intro constants constantsFit
    apply ensures_bind (ensures_noted record (ensures_counted (ensures_of_yields fun _ => yields_upvalue record)))
    intro upvalues upvaluesFit
    apply ensures_bind (ensures_noted record
      (ensures_of_yields fun _ => yields_mono yields_size fun _ _ known => known.1))
    intro innerCount few
    apply ensures_bind (ensures_times (ih _) innerCount.1)
    intro inner every
    apply ensures_bind (ensures_noted record (ensures_lines record))
    intro debug linesFit
    apply ensures_pure
    refine ⟨⟨?_, ?_⟩, every.1 ▸ few, Tree.everyForest_of_forall inner every.2⟩
    · exact
        { paramCount := isByte_of_lt paramSmall
          varargFlag := isByte_of_lt varargSmall
          maxStackSize := isByte_of_lt stackSmall
          -- Bytes are there either way, if only none at all.
          code := by cases record <;> rfl
          constants := constantsFit
          upvalues := upvaluesFit
          lineInfo := linesFit }
    · rintro rfl
      obtain ⟨padding, words, bound, kept, spelled⟩ := inStep rfl
      refine ⟨padding, words, bound, ?_, spelled⟩
      change some (code.2.getD []) = _
      rw [kept, Option.getD_some]

end Read

theorem encodable_of_parse {record : Bool} {file : Bytes} {chunk : Chunk} {after : Input}
    (accepted : parse record file = (.ok chunk, after)) :
    chunk.main.Every fun each => each.Encodable ∧ (record = true → each.InStep) := by
  have known : Ensures (Read.chunk record) (fun chunk =>
      chunk.main.Every fun each => each.Encodable ∧ (record = true → each.InStep)) := by
    rw [Read.chunk_eq]
    apply ensures_skip
    intro header
    apply ensures_skip
    intro upvalueCount
    apply ensures_skip
    intro _
    apply ensures_bind (ensures_nested fun depth => Read.ensures_encodable record depth (some ""))
    intro main every
    exact ensures_pure every
  exact known.found { rest := file } chunk after accepted

end LuaBytecode.V54
