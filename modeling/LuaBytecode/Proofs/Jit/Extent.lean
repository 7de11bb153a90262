import LuaBytecode.Jit.Reading
import LuaBytecode.Proofs.Cursor
import LuaBytecode.Proofs.Placement
import LuaBytecode.Proofs.Quiet

namespace LuaBytecode.Jit

open Reader

variable {α : Type} {watches : Bool}

-- No fault of this format names a place, and every kind of value has its own.
def EndOfData (_total : Nat) : Fault → Prop
  | .fixedEnd | .varintEnd | .taggedVarintEnd | .stringEnd | .terminatorEnd | .signatureEnd => True
  | _ => False

namespace Read

inductive Part (watches : Bool) : {α : Type} → Reader α → Prop
  | take {count : Nat} {fault : Fault} : (∀ total, EndOfData total fault) →
      Part watches (Reader.take count fun _ => fault)
  | scanning {α σ : Type} {step : σ → UInt8 → σ ⊕ Except Fault α} {fault : Fault} {state : σ} :
      (∀ total, EndOfData total fault) → Part watches (Reader.scanning step fault state)
  | layout : Part watches Reader.layout
  | atEnd : watches = true → Part watches Reader.atEnd

section laws

variable {reader : Reader α}

theorem settled_of_composed (known : Composed (Part false) reader) : Settled EndOfData reader := by
  apply known.satisfies settledLaw
  intro β each part
  cases part with
  | take told => exact settled_take fun _ _ => told _
  | scanning told => exact settled_scanning told
  | layout => exact settled_layout
  | atEnd impossible => cases impossible

theorem advances_of_composed (known : Composed (Part true) reader) : Advances reader := by
  apply known.satisfies advancesLaw
  intro β each part
  cases part with
  | take => exact advances_take
  | scanning => exact advances_scanning
  | layout => exact advances_layout
  | atEnd => exact advances_atEnd

theorem quiet_of_composed (known : Composed (Part true) reader) : Quiet reader := by
  apply known.satisfies quietLaw
  intro β each part
  cases part with
  | take => exact quiet_take
  | scanning => exact quiet_scanning
  | layout => exact quiet_layout
  | atEnd => exact quiet_atEnd

theorem placeless_of_composed (known : Composed (Part true) reader) : Placeless reader := by
  apply known.satisfies placelessLaw
  intro β each part
  cases part with
  | take => exact placeless_take
  | scanning => exact placeless_scanning
  | layout => exact placeless_layout
  | atEnd => exact placeless_atEnd

theorem yields_of_composed {limit : Nat} (known : Composed (Part true) reader) :
    Yields limit reader (fun _ _ => True) :=
  yields_of_advances (advances_of_composed known)

end laws

theorem composed_fixedWidth {width : Nat} : Composed (Part watches) (fixedWidth width) :=
  .bind (.part (.take fun _ => trivial)) fun _ => .pure

theorem composed_word {width : Nat} : Composed (Part watches) (asInt (fixedWidth width)) :=
  .bind composed_fixedWidth fun _ => .pure

theorem composed_varint : Composed (Part watches) varint := .part (.scanning fun _ => trivial)

theorem composed_string {length : Nat} : Composed (Part watches) (string length) :=
  .bind (.part (.take fun _ => trivial)) fun _ => .pure

theorem composed_terminatedString : Composed (Part watches) terminatedString :=
  .bind (.part (.scanning fun _ => trivial)) fun _ => .pure

theorem composed_double : Composed (Part watches) double :=
  .bind composed_varint fun _ => .bind composed_varint fun _ => composed.ofExcept

theorem composed_tableItem : Composed (Part watches) tableItem := by
  refine .bind composed_varint fun tag => ?_
  split
  · exact .pure
  · exact .pure
  · exact .pure
  · exact .bind composed_varint fun _ => .pure
  · exact .bind composed_double fun _ => .pure
  · exact .bind composed_string fun _ => .pure

theorem composed_table : Composed (Part watches) table := by
  have pair : Composed (Part watches) tablePair :=
    .bind composed_tableItem fun _ => .bind composed_tableItem fun _ => .pure
  refine .bind composed_varint fun arrayCount => .bind composed_varint fun hashCount => ?_
  refine .bind (composed.times composed_tableItem arrayCount) fun array => ?_
  exact .bind (composed.times pair hashCount) fun hash => .pure

theorem composed_collectable : Composed (Part watches) collectable := by
  refine .bind composed_varint fun tag => ?_
  split
  · exact .pure
  · exact .bind composed_table fun _ => .pure
  · exact .bind composed_varint fun _ => .bind composed_varint fun _ => .pure
  · exact .bind composed_varint fun _ => .bind composed_varint fun _ => .pure
  · refine .bind composed_varint fun realLow => .bind composed_varint fun realHigh => ?_
    refine .bind composed_varint fun imaginaryLow => .bind composed_varint fun imaginaryHigh => ?_
    exact .bind composed.ofExcept fun _ => .bind composed.ofExcept fun _ => .pure
  · exact .bind composed_string fun _ => .pure

theorem composed_taggedVarint : Composed (Part watches) taggedVarint := by
  refine .bind (.part (.take fun _ => trivial)) fun taken => ?_
  refine composed.choice (.part (.scanning fun _ => trivial)) .pure fun low => ?_
  exact composed.choice composed_varint .pure fun high => .pure

theorem composed_number : Composed (Part watches) number := by
  refine .bind composed_taggedVarint fun found => ?_
  exact composed.ite (.bind composed.ofExcept fun _ => .pure) .pure

theorem composed_variableNames (fuel : Nat) : Composed (Part true) (variableNames fuel) := by
  induction fuel with
  | zero => exact .pure
  | succ fuel ih =>
    refine .bind (.part (.atEnd rfl)) fun ended => composed.ite .pure ?_
    refine .bind composed_fixedWidth fun kind => composed.ite .pure ?_
    refine composed.choice composed_terminatedString .pure fun name => ?_
    refine .bind composed_varint fun _ => .bind composed_varint fun _ => ?_
    exact .bind ih fun names => .pure

theorem starves_fixedWidth {width : Nat} (some : 0 < width) : Starves (fixedWidth width) :=
  starves_bind (starves_take some)

theorem starves_varint : Starves varint := by
  intro input nothing
  exact ⟨.varintEnd, { input with pos := input.pos, rest := [] }, by simp [varint, scanning, nothing, scan]⟩

theorem yields_varint_nonempty {limit : Nat} : Yields limit varint (fun _ span => span ≠ []) :=
  yields_nonempty (settled_of_composed composed_varint) starves_varint

-- Every variable takes a byte, so there are no more of them than bytes.
theorem agree_variableNames (fuel : Nat) : Agree fuel (variableNames fuel) (variableNames (fuel + 1)) := by
  induction fuel with
  | zero =>
    intro input short
    exact absurd short (Nat.not_lt_zero _)
  | succ fuel ih =>
    apply agree_after (yields_of_composed (.part (.atEnd rfl)))
    intro ended
    apply agree_ite (agree_refl _)
    apply agree_step (yields_nonempty (settled_of_composed composed_fixedWidth) (starves_fixedWidth Nat.one_pos))
    intro kind
    have later : ∀ name : String, Agree fuel
        (varint >>= fun _ => varint >>= fun _ => variableNames fuel >>= fun names => pure (name :: names))
        (varint >>= fun _ => varint >>= fun _ => variableNames (fuel + 1) >>= fun names => pure (name :: names)) := by
      intro name
      apply agree_after (yields_of_composed composed_varint)
      intro _
      apply agree_after (yields_of_composed composed_varint)
      intro _
      exact agree_bind ih (yields_of_composed (composed_variableNames fuel)) fun _ _ _ => agree_refl _
    apply agree_ite (agree_refl _)
    apply agree_ite
    · exact agree_after (yields_of_composed composed_terminatedString) later
    · exact agree_after (yields_of_advances advances_pure) later

theorem composed_nestedNames : Composed (Part true) (nested variableNames) :=
  .nested agree_variableNames composed_variableNames

theorem composed_debug {codeCount upvalueCount lineCount : Nat} :
    Composed (Part true) (debug codeCount upvalueCount lineCount) := by
  refine composed.choice .pure (composed.times composed_word codeCount) fun lineInfo => ?_
  refine .bind (composed.times composed_terminatedString upvalueCount) fun upvalueNames => ?_
  exact .bind composed_nestedNames fun names => .pure

theorem composed_body (size : Nat) : Composed (Part true) (body size) := by
  refine .bind composed_fixedWidth fun flags => .bind composed_fixedWidth fun paramCount => ?_
  refine .bind composed_fixedWidth fun frameSize => .bind composed_fixedWidth fun upvalueCount => ?_
  refine .bind composed_varint fun collectableCount => .bind composed_varint fun numberCount => ?_
  refine .bind composed_varint fun codeCount => .bind (.part .layout) fun found => ?_
  refine composed.choice .pure composed_varint fun debugSize => ?_
  refine composed.choice .pure composed_varint fun firstLine => ?_
  refine composed.choice .pure composed_varint fun lineCount => ?_
  refine .bind (composed.times composed_word codeCount) fun code => ?_
  refine .bind (composed.times composed_word upvalueCount) fun upvalueData => ?_
  refine .bind (composed.times composed_collectable collectableCount) fun collectables => ?_
  refine .bind (composed.times composed_number numberCount) fun numbers => ?_
  exact composed.choice .pure composed_debug fun debug => .pure

theorem composed_prototype : Composed (Part true) prototype :=
  .bind composed_varint fun size => composed.ite .pure (composed_body size)

-- The mark of the format is looked at before it is passed over, so that a wrong one can be named.
def marked (next : Reader α) : Reader α := do
  let found ← peek 3 .signatureEnd
  require (found = signature) (.badJitSignature found)
  let _ ← take 3 fun _ => .signatureEnd
  next

theorem marked_signature (next : Reader α) (input : Input) (rest : Bytes) :
    marked next { input with rest := signature ++ rest } = next { input with pos := input.pos + 3, rest } :=
  rfl

theorem signature_of_marked {next : Reader α} {input after : Input} {value : α}
    (ran : marked next input = (.ok value, after)) : ∃ rest, input.rest = signature ++ rest := by
  obtain ⟨found, between, looked, ran'⟩ := ok_of_bind ran
  obtain ⟨_, _, checked, _⟩ := ok_of_bind ran'
  cases cut : Bytes.split? 3 input.rest with
  | none => simp [peek, cut] at looked
  | some parts =>
    obtain ⟨start, _⟩ := Bytes.eq_append_of_split? cut
    simp only [peek, cut, Prod.mk.injEq, Except.ok.injEq] at looked
    obtain ⟨rfl, rfl⟩ := looked
    by_cases same : parts.1 = signature
    · exact ⟨parts.2, by rw [start, same]⟩
    · simp [require, same, fail] at checked

theorem settled_marked {next : Reader α} (known : Settled EndOfData next) : Settled EndOfData (marked next) := by
  intro input value after ran
  obtain ⟨left, start⟩ := signature_of_marked ran
  have here : input = { input with rest := signature ++ left } := by rw [← start]
  rw [here, marked_signature] at ran
  obtain ⟨span, start', pos, alike, short⟩ := known _ value after ran
  refine ⟨signature ++ span, ?_, ?_, ?_, ?_⟩
  · rw [start, List.append_assoc, ← start']
  · rw [pos, List.length_append, ← Nat.add_assoc]
    rfl
  · intro rest
    rw [List.append_assoc, marked_signature]
    exact alike rest
  · intro cut more joined missing
    cases cut_cases joined with
    | inl inside =>
      obtain ⟨extra, signatureEq, whole⟩ := inside
      have fewer : cut.length < 3 := by
        have positive := List.length_pos_iff.mpr whole
        have size : (cut ++ extra).length = 3 := by rw [← signatureEq]; rfl
        rw [List.length_append] at size
        omega
      have looked : peek 3 .signatureEnd { input with rest := cut } =
          (.error .signatureEnd, { input with rest := cut }) := by
        simp [peek, Bytes.split?_eq_none_iff.mpr fewer]
      exact ⟨.signatureEnd, _, bind_of_error looked, trivial⟩
    | inr outside =>
      obtain ⟨part, cutEq, spanEq⟩ := outside
      obtain ⟨fault, later, failed, told⟩ := short part more spanEq missing
      refine ⟨fault, later, ?_, told⟩
      rw [cutEq, marked_signature]
      exact failed

theorem settled_header : Settled EndOfData header := by
  apply settled_marked
  apply settled_bind (settled_of_composed composed_fixedWidth)
  intro version
  apply settledLaw.aside settled_say
  apply settled_bind (settled_of_composed composed_varint)
  intro flags
  apply settled_bind settled_layout
  intro found
  apply settled_bind settled_setLayout
  intro _
  apply settledLaw.choice settled_pure (settled_of_composed composed_varint)
  intro length
  exact settledLaw.choice settled_pure (settled_of_composed composed_string) fun _ => settled_pure

end Read

end LuaBytecode.Jit
