import LuaBytecode.Proofs.References

namespace LuaBytecode.Constant

def Alike (first second : Constant) : Prop :=
  first.kind = .number ∧ second.kind = .number ∨ first.kind = .string ∧ second.kind = .string ∨ first = second
deriving Decidable

theorem Alike.symm {first second : Constant} (alike : first.Alike second) : second.Alike first := by
  rcases alike with ⟨one, other⟩ | ⟨one, other⟩ | same
  · exact .inl ⟨other, one⟩
  · exact .inr (.inl ⟨other, one⟩)
  · exact .inr (.inr same.symm)

theorem Alike.trans {first second third : Constant} (alike : first.Alike second) (alike' : second.Alike third) :
    first.Alike third := by
  unfold Alike at *
  grind

theorem alike_of_kind {first second : Constant} (same : first.kind = second.kind) (ordered : first.kind ≠ .other) :
    first.Alike second := by
  cases kind : first.kind with
  | number => exact .inl ⟨kind, same ▸ kind⟩
  | string => exact .inr (.inl ⟨kind, same ▸ kind⟩)
  | other => exact absurd kind ordered

theorem alike_of_same {references : List Reference} (coherent : Coherent references) {first second : Reference}
    (member : first ∈ references) (member' : second ∈ references) (same : first.Same second) :
    first.constant.Alike second.constant := by
  rcases same with ⟨function, slot⟩ | ⟨meaning, one, other⟩
  · exact .inr (.inr (coherent first member second member' function slot))
  · by_cases plain : first.constant.kind = .number
    · by_cases plain' : second.constant.kind = .number
      · exact .inl ⟨plain, plain'⟩
      · exact .inr (.inr (eq_of_meaning plain' other one).symm)
    · exact .inr (.inr (eq_of_meaning plain one other))

theorem comparable_of_alike {constants : List Constant}
    (apart : constants.Pairwise fun first second => first.kind = .other → first ≠ second)
    (alike : ∀ first ∈ constants, ∀ second ∈ constants, first.Alike second) : comparable constants = true := by
  cases constants with
  | nil => rfl
  | cons first rest =>
    have others (second : Constant) (member : second ∈ first :: rest) := alike first List.mem_cons_self second member
    simp only [comparable, Bool.or_eq_true, decide_eq_true_eq, List.all_eq_true]
    cases kind : first.kind with
    | number =>
      refine .inl (.inr fun second member => ?_)
      rcases others second member with ⟨_, number⟩ | ⟨string, _⟩ | rfl
      · exact number
      · rw [kind] at string
        cases string
      · exact kind
    | string =>
      refine .inr fun second member => ?_
      rcases others second member with ⟨number, _⟩ | ⟨_, string⟩ | rfl
      · rw [kind] at number
        cases number
      · exact string
      · exact kind
    | other =>
      refine .inl (.inl ?_)
      cases rest with
      | nil => exact Nat.le_refl 1
      | cons second rest =>
        rcases others second (by simp) with ⟨number, _⟩ | ⟨string, _⟩ | same
        · rw [kind] at number
          cases number
        · rw [kind] at string
          cases string
        · exact absurd same ((List.pairwise_cons.mp apart).1 second List.mem_cons_self kind)

theorem alike_of_comparable {constants : List Constant} (orderly : comparable constants = true) :
    ∀ first ∈ constants, ∀ second ∈ constants, first.Alike second := by
  simp only [comparable, Bool.or_eq_true, decide_eq_true_eq, List.all_eq_true] at orderly
  intro first member second member'
  rcases orderly with (few | numbers) | strings
  · cases constants with
    | nil => cases member
    | cons only rest =>
      obtain rfl : rest = [] := List.length_eq_zero_iff.mp (by simpa using few)
      exact .inr (.inr ((List.mem_singleton.mp member).trans (List.mem_singleton.mp member').symm))
  · exact .inl ⟨numbers first member, numbers second member'⟩
  · exact .inr (.inl ⟨strings first member, strings second member'⟩)

theorem sort_cases {constants : List Constant}
    (apart : constants.Pairwise fun first second => first.kind = .other → first ≠ second) :
    (∀ first ∈ constants, ∀ second ∈ constants, first.Alike second) ∧
        sort constants = .ok (constants.mergeSort atMost) ∨
      ∃ first ∈ constants, ∃ second ∈ constants, ¬ first.Alike second ∧
        sort constants = .error (second.typeName, first.typeName) := by
  by_cases orderly : comparable constants
  · exact .inl ⟨alike_of_comparable orderly, if_pos orderly⟩
  · cases constants with
    | nil => exact absurd rfl orderly
    | cons first rest =>
      have failed : sort (first :: rest) = .error
          (((rest.find? fun each => each.kind ≠ first.kind || each.kind = .other).getD first).typeName,
            first.typeName) := if_neg orderly
      cases found : rest.find? fun each => each.kind ≠ first.kind || each.kind = .other with
      | none =>
        -- All are of the first one's kind, which has an order unless the first one is alone.
        have kinds : ∀ each ∈ rest, each.kind = first.kind ∧ each.kind ≠ .other := by simpa using found
        cases rest with
        | nil => exact absurd rfl orderly
        | cons second rest =>
          obtain ⟨same, ordered⟩ := kinds second List.mem_cons_self
          have all : ∀ each ∈ first :: second :: rest, each.kind = second.kind :=
            List.forall_mem_cons.mpr ⟨same.symm, fun each member => (kinds each member).1.trans same.symm⟩
          refine absurd (comparable_of_alike apart fun one member other member' => ?_) orderly
          exact alike_of_kind ((all one member).trans (all other member').symm) (all one member ▸ ordered)
      | some second =>
        rw [found] at failed
        have member := List.mem_of_find?_eq_some found
        have differ : second.kind ≠ first.kind ∨ second.kind = .other := by simpa using List.find?_some found
        refine .inr ⟨first, List.mem_cons_self, second, List.mem_cons_of_mem first member, ?_, failed⟩
        have unequal := (List.pairwise_cons.mp apart).1 second member
        rintro (⟨one, other⟩ | ⟨one, other⟩ | rfl)
        · rw [one, other] at differ
          simp at differ
        · rw [one, other] at differ
          simp at differ
        · simp at differ
          exact unequal differ rfl

theorem sort_distinct {references : List Reference} (coherent : Coherent references) :
    (∀ first ∈ references, ∀ second ∈ references, first.constant.Alike second.constant) ∧
        sort ((distinct references).map (·.constant)) =
          .ok (((distinct references).map (·.constant)).mergeSort atMost) ∨
      ∃ first ∈ references, ∃ second ∈ references, ¬ first.constant.Alike second.constant ∧
        sort ((distinct references).map (·.constant)) =
          .error (second.constant.typeName, first.constant.typeName) := by
  have apart : ((distinct references).map (·.constant)).Pairwise fun first second =>
      first.kind = .other → first ≠ second := by
    refine List.pairwise_map.mpr ((pairwise_union List.Pairwise.nil references).imp ?_)
    intro first second others kind same
    obtain ⟨meaning, meant⟩ := @meaning_of_plain first.constant (by simp [kind])
    exact others (.inr ⟨meaning, meant, same ▸ meant⟩)
  rcases sort_cases apart with ⟨alike, sorted⟩ | ⟨_, one, _, other, differ, failed⟩
  · refine .inl ⟨fun first member second member' => ?_, sorted⟩
    obtain ⟨kept, held, same⟩ := @union_covers [] _ _ member
    obtain ⟨kept', held', same'⟩ := @union_covers [] _ _ member'
    have between := alike _ (List.mem_map_of_mem held) _ (List.mem_map_of_mem held')
    have start := alike_of_same coherent (distinct_subset references held) member same
    have finish := alike_of_same coherent (distinct_subset references held') member' same'
    exact start.symm.trans (between.trans finish)
  · obtain ⟨first, held, rfl⟩ := List.mem_map.mp one
    obtain ⟨second, held', rfl⟩ := List.mem_map.mp other
    exact .inr ⟨first, distinct_subset references held, second, distinct_subset references held', differ, failed⟩

end LuaBytecode.Constant
