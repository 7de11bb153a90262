import LuaBytecode.Proofs.Shortening
import LuaBytecode.Proofs.Jit.Extent
import LuaBytecode.Proofs.Jit.RoundTrip

namespace LuaBytecode.Jit

open Reader

def Prototype.IsCropOf (part whole : Prototype) : Prop :=
  part = { whole with variableNames := part.variableNames } ∧ part.variableNames <+: whole.variableNames

structure Cropped (parts wholes : List Prototype) : Prop where
  few : parts.length ≤ wholes.length
  same : ∀ index, index + 1 < parts.length → parts[index]? = wholes[index]?
  last : ∀ part, parts.getLast? = some part →
    ∃ whole, wholes[parts.length - 1]? = some whole ∧ part.IsCropOf whole

theorem cropped_nil (wholes : List Prototype) : Cropped [] wholes where
  few := Nat.zero_le _
  same index less := by simp at less
  last part found := by simp at found

theorem cropped_single {part whole : Prototype} (wholes : List Prototype) (crop : part.IsCropOf whole) :
    Cropped [part] (whole :: wholes) where
  few := by simp
  same index less := by simp at less
  last found same := by
    obtain rfl : part = found := by simpa using same
    exact ⟨whole, rfl, crop⟩

theorem cropped_cons {parts wholes : List Prototype} (whole : Prototype) (crop : Cropped parts wholes) :
    Cropped (whole :: parts) (whole :: wholes) where
  few := Nat.succ_le_succ crop.few
  same index less := by
    cases index with
    | zero => rfl
    | succ index => exact crop.same index (Nat.lt_of_succ_lt_succ less)
  last part found := by
    cases parts with
    | nil =>
      obtain rfl : whole = part := by simpa using found
      exact ⟨whole, rfl, rfl, List.prefix_refl _⟩
    | cons first parts =>
      rw [List.getLast?_cons_cons] at found
      exact crop.last part found

namespace Read

theorem failsOrShortens_variableNames (fuel : Nat) :
    FailsOrShortens (variableNames fuel) (fun names shorter => shorter <+: names) := by
  induction fuel with
  | zero => exact failsOrShortens_pure
  | succ fuel ih =>
    apply failsOrShortens_unlessAtEnd
    · apply failsOrShortens_bind (settled_of_composed composed_fixedWidth)
      intro kind
      apply failsOrShortens_ite failsOrShortens_pure
      apply failsOrShortens_choice (settled_of_composed composed_terminatedString) settled_pure
      intro name
      apply failsOrShortens_bind (settled_of_composed composed_varint)
      intro _
      apply failsOrShortens_bind (settled_of_composed composed_varint)
      intro _
      apply failsOrShortens_map ih
      intro names shorter less
      exact (List.prefix_cons_inj name).mpr less
    · exact starves_bind (starves_fixedWidth Nat.one_pos)
    · intro names
      exact List.nil_prefix

theorem failsOrShortens_debug {codeCount upvalueCount lineCount : Nat} :
    FailsOrShortens (debug codeCount upvalueCount lineCount) (fun sections shorter =>
      shorter = { sections with variableNames := shorter.variableNames } ∧
        shorter.variableNames <+: sections.variableNames) := by
  apply failsOrShortens_choice settled_pure (settled_of_composed (composed.times composed_word codeCount))
  intro lineInfo
  apply failsOrShortens_bind (settled_of_composed (composed.times composed_terminatedString upvalueCount))
  intro upvalueNames
  apply failsOrShortens_map (failsOrShortens_nested agree_variableNames failsOrShortens_variableNames)
  intro names shorter less
  exact ⟨rfl, less⟩

theorem failsOrShortens_body (size : Nat) : FailsOrShortens (body size) (fun whole part => part.IsCropOf whole) := by
  apply failsOrShortens_bind (settled_of_composed composed_fixedWidth)
  intro flags
  apply failsOrShortens_bind (settled_of_composed composed_fixedWidth)
  intro paramCount
  apply failsOrShortens_bind (settled_of_composed composed_fixedWidth)
  intro frameSize
  apply failsOrShortens_bind (settled_of_composed composed_fixedWidth)
  intro upvalueCount
  apply failsOrShortens_bind (settled_of_composed composed_varint)
  intro collectableCount
  apply failsOrShortens_bind (settled_of_composed composed_varint)
  intro numberCount
  apply failsOrShortens_bind (settled_of_composed composed_varint)
  intro codeCount
  apply failsOrShortens_bind (settled_layout : Settled EndOfData _)
  intro found
  apply failsOrShortens_choice settled_pure (settled_of_composed composed_varint)
  intro debugSize
  apply failsOrShortens_choice settled_pure (settled_of_composed composed_varint)
  intro firstLine
  apply failsOrShortens_choice settled_pure (settled_of_composed composed_varint)
  intro lineCount
  apply failsOrShortens_bind (settled_of_composed (composed.times composed_word codeCount))
  intro code
  apply failsOrShortens_bind (settled_of_composed (composed.times composed_word upvalueCount))
  intro upvalueData
  apply failsOrShortens_bind (settled_of_composed (composed.times composed_collectable collectableCount))
  intro collectables
  apply failsOrShortens_bind (settled_of_composed (composed.times composed_number numberCount))
  intro numbers
  apply failsOrShortens_ite
  · exact failsOrShortens_bind (settled_pure : Settled EndOfData _) fun _ => failsOrShortens_pure
  · apply failsOrShortens_map failsOrShortens_debug
    intro sections shorter crop
    obtain ⟨same, less⟩ := crop
    exact ⟨by rw [same], less⟩

theorem failsOrShortens_prototype : FailsOrShortens prototype (fun whole part => part.IsCropOf whole) := by
  apply failsOrShortens_bind (settled_of_composed composed_varint)
  intro size
  exact failsOrShortens_ite failsOrShortens_pure (failsOrShortens_body size)

theorem prototypes_of_nil {input : Input} (nothing : input.rest = []) (fuel : Nat) :
    prototypes fuel input = (.ok [], input) := by
  cases fuel with
  | zero => rfl
  | succ fuel => exact bind_of_ok (atEnd_of_nil nothing)

theorem prototypes_of_error {fuel : Nat} {input after : Input} {fault : Fault} (some : input.rest ≠ [])
    (failed : prototype input = (.error fault, after)) :
    prototypes (fuel + 1) input =
      (.ok [], { after with said := after.said ++ ("警告: 读取 Proto 时出错: " ++ fault.message ++ "\n") }) := by
  have tried : attempt prototype input = (.ok (.error fault), after) := by simp [attempt, failed]
  rw [prototypes]
  exact (bind_of_ok (atEnd_of_ne_nil some)).trans (bind_of_ok tried)

theorem append_ne_self {said text : String} (some : text ≠ "") : said ++ text ≠ said := by
  intro same
  exact some (by simpa using same)

-- A turn without a warning has read a prototype, of size zero or followed by more turns.
theorem prototypes_of_unwarned {fuel : Nat} {input after : Input} {found : List Prototype} (some : input.rest ≠ [])
    (ran : prototypes (fuel + 1) input = (.ok found, after)) (unwarned : after.said = input.said) :
    ∃ first between, prototype input = (.ok first, between) ∧
      (first.size = 0 ∧ found = [] ∨ first.size ≠ 0 ∧ ∃ others, prototypes fuel between = (.ok others, after) ∧
        found = first :: others ∧ after.said = between.said) := by
  have quiet := (quiet_of_composed composed_prototype) input
  cases outcome : prototype input with
  | mk result between =>
    rw [outcome] at quiet
    cases result with
    | error fault =>
      rw [prototypes_of_error some outcome] at ran
      cases ran
      rw [← quiet] at unwarned
      exact absurd unwarned (append_ne_self (by simp))
    | ok first =>
      refine ⟨first, between, rfl, ?_⟩
      rw [prototypes_succ some outcome] at ran
      by_cases blank : first.size = 0
      · rw [if_pos blank] at ran
        cases ran
        exact .inl ⟨blank, rfl⟩
      · rw [if_neg blank] at ran
        obtain ⟨others, last, later, done⟩ := ok_of_bind ran
        cases done
        exact .inr ⟨blank, others, later, rfl, unwarned.trans quiet.symm⟩

theorem prototypes_cut {fuel : Nat} {input after : Input} {found : List Prototype} {cut more : Bytes}
    (ran : prototypes fuel input = (.ok found, after)) (unwarned : after.said = input.said)
    (joined : input.rest = cut ++ more) :
    ∃ parts later, prototypes fuel { input with rest := cut } = (.ok parts, later) ∧ Cropped parts found := by
  induction fuel generalizing input found cut with
  | zero => exact ⟨[], _, rfl, cropped_nil found⟩
  | succ fuel ih =>
    by_cases none : cut = []
    · subst none
      exact ⟨[], _, prototypes_of_nil rfl _, cropped_nil found⟩
    have some : input.rest ≠ [] := by simp [joined, none]
    obtain ⟨first, between, outcome, turn⟩ := prototypes_of_unwarned some ran unwarned
    obtain ⟨span, start, _, behind, within⟩ := failsOrShortens_prototype input first between outcome
    cases cut_cases (start.symm.trans joined) with
    | inl inside =>
      -- The prototype is cut: it fails, or it is the last that is read.
      obtain ⟨extra, spanEq, whole⟩ := inside
      cases within cut extra spanEq whole with
      | inl fails =>
        obtain ⟨fault, later, failed⟩ := fails
        exact ⟨[], _, prototypes_of_error none failed, cropped_nil found⟩
      | inr gives =>
        obtain ⟨part, later, done, nothing, crop⟩ := gives
        have size : part.size = first.size := by rw [crop.1]
        rw [prototypes_succ none done, size]
        cases turn with
        | inl blank => exact ⟨[], later, by rw [if_pos blank.1]; rfl, cropped_nil found⟩
        | inr goes =>
          obtain ⟨nonzero, others, _, rfl, _⟩ := goes
          refine ⟨[part], later, ?_, cropped_single others crop⟩
          rw [if_neg nonzero]
          exact bind_of_ok (prototypes_of_nil nothing fuel)
    | inr outside =>
      obtain ⟨part, cutEq, restEq⟩ := outside
      have done := behind part more restEq
      rw [← cutEq] at done
      rw [prototypes_succ none done]
      cases turn with
      | inl blank => exact ⟨[], _, by rw [if_pos blank.1]; rfl, cropped_nil found⟩
      | inr goes =>
        obtain ⟨nonzero, others, later, rfl, quiet⟩ := goes
        obtain ⟨parts, last, read, crop⟩ := ih later quiet restEq
        refine ⟨first :: parts, last, ?_, cropped_cons first crop⟩
        rw [if_neg nonzero]
        exact bind_of_ok read

theorem agree_prototypes (fuel : Nat) : Agree fuel (prototypes fuel) (prototypes (fuel + 1)) := by
  induction fuel with
  | zero =>
    intro input short
    exact absurd short (Nat.not_lt_zero _)
  | succ fuel ih =>
    intro input short
    by_cases none : input.rest = []
    · rw [prototypes_of_nil none, prototypes_of_nil none]
    cases outcome : prototype input with
    | mk result between =>
      cases result with
      | error fault => rw [prototypes_of_error none outcome, prototypes_of_error none outcome]
      | ok first =>
        rw [prototypes_succ none outcome, prototypes_succ none outcome]
        by_cases blank : first.size = 0
        · rw [if_pos blank, if_pos blank]
        · have passes : Yields (fuel + 1) prototype (fun _ span => span ≠ []) :=
            yields_nonempty_of_failsOrShortens failsOrShortens_prototype (starves_bind starves_varint)
          obtain ⟨span, start, _, nonempty⟩ := passes input first between (Nat.le_of_lt short) outcome
          have left : between.rest.length < fuel := by
            have positive := List.length_pos_iff.mpr nonempty
            rw [start, List.length_append] at short
            omega
          rw [if_neg blank, if_neg blank, bind_of_eq (ih between left)]

end Read

theorem parse_take_cropped {data : Bytes} {header : Header} {headed : Input} {dump : Dump} {after : Input} {size : Nat}
    (start : Read.header { rest := data } = (.ok header, headed)) (ran : parse data = (.ok dump, after))
    (unwarned : after.said = headed.said) (behind : headed.pos ≤ size) :
    ∃ part later, parse (data.take size) = (.ok part, later) ∧ part.header = dump.header ∧
      Cropped part.prototypes dump.prototypes := by
  obtain ⟨span, whole, pos, alike, _⟩ := Read.settled_header _ header headed start
  change data = span ++ headed.rest at whole
  change headed.pos = 0 + span.length at pos
  -- The cut is behind the header, so that the header is read as before.
  have front : data.take size = span ++ headed.rest.take (size - span.length) := by
    rw [whole, List.take_append, List.take_of_length_le (by omega)]
  have startToo := alike (headed.rest.take (size - span.length))
  rw [← front] at startToo
  rw [parse, Read.dump, bind_of_ok start] at ran
  obtain ⟨found, last, read, done⟩ := ok_of_bind ran
  cases done
  obtain ⟨parts, later, readToo, crop⟩ :=
    Read.prototypes_cut read unwarned (List.take_append_drop (size - span.length) headed.rest).symm
  refine ⟨{ header, prototypes := parts }, later, (bind_of_ok startToo).trans (bind_of_ok ?_), rfl, crop⟩
  rw [← readToo]
  apply nested_eq Read.agree_prototypes
  exact Nat.lt_succ_of_le (List.length_take_le' _ headed.rest)

-- Two prototypes with two variables each, one of a kind of the compiler's own and one with a name.
def twiceNamed : Bytes :=
  let prototype := [0x18, 0, 0, 2, 0, 0, 0, 1, 0x0A, 0, 1, 0x47, 0, 1, 0, 1, 1, 0, 2, 0x61, 0x62, 0, 0, 1, 0]
  signature ++ [1, 0, 1, 0x78] ++ prototype ++ prototype ++ [0]

def namesWithin (size : Nat) (data : Bytes) : Option (List (List String)) :=
  match Read.header { rest := data }, parse data with
  | (.ok _, headed), (.ok dump, after) =>
    if after.said = headed.said ∧ headed.pos ≤ size then some (dump.prototypes.map Prototype.variableNames) else none
  | _, _ => none

theorem parse_of_namesWithin {size : Nat} {data : Bytes} {names : List (List String)}
    (known : namesWithin size data = some names) :
    ∃ header headed dump after, Read.header { rest := data } = (.ok header, headed) ∧
      parse data = (.ok dump, after) ∧ after.said = headed.said ∧ headed.pos ≤ size ∧
      dump.prototypes.map Prototype.variableNames = names := by
  unfold namesWithin at known
  split at known
  · rename_i header headed dump after start ran
    split at known
    · rename_i met
      exact ⟨header, headed, dump, after, start, ran, met.1, met.2, Option.some.inj known⟩
    · cases known
  · cases known

-- The cut is behind the first variable of the second prototype.
theorem parse_take_cropped_twiceNamed :
    ∃ header headed dump after, Read.header { rest := twiceNamed } = (.ok header, headed) ∧
      parse twiceNamed = (.ok dump, after) ∧ after.said = headed.said ∧ headed.pos ≤ 51 ∧
      dump.prototypes.map Prototype.variableNames = [["<type_1>", "b"], ["<type_1>", "b"]] ∧
      ∃ part later, parse (twiceNamed.take 51) = (.ok part, later) ∧ part.header = dump.header ∧
        Cropped part.prototypes dump.prototypes := by
  have names : namesWithin 51 twiceNamed = some [["<type_1>", "b"], ["<type_1>", "b"]] := by decide +kernel
  obtain ⟨header, headed, dump, after, start, ran, unwarned, behind, read⟩ := parse_of_namesWithin names
  exact ⟨header, headed, dump, after, start, ran, unwarned, behind, read,
    parse_take_cropped start ran unwarned behind⟩

example : namesWithin 51 (twiceNamed.take 51) = some [["<type_1>", "b"], ["<type_1>"]] := by
  decide +kernel

end LuaBytecode.Jit
