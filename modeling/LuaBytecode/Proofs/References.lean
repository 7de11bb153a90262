import LuaBytecode.Proofs.Meaning
import Mathlib.Data.List.Induction
/-!
Classes of references. References are put together one after another, and of each class the first one stays:
none is lost, none comes twice, and it makes no difference whether they are put together at once or in parts.
-/
namespace LuaBytecode

namespace Constant

namespace Reference

def Same (first second : Reference) : Prop :=
  first.function = second.function ∧ first.slot = second.slot ∨
    ∃ meaning, first.constant.meaning? = some meaning ∧ second.constant.meaning? = some meaning

theorem same_iff (first second : Reference) : first.same second = true ↔ first.Same second := by
  rw [same, Bool.or_eq_true, Bool.and_eq_true, decide_eq_true_iff, decide_eq_true_iff, equal_iff]
  rfl

end Reference

def Coherent (references : List Reference) : Prop :=
  ∀ first ∈ references, ∀ second ∈ references, first.function = second.function → first.slot = second.slot →
    first.constant = second.constant

theorem Coherent.subset {references fewer : List Reference} (coherent : Coherent references)
    (within : fewer ⊆ references) : Coherent fewer :=
  fun first member second member' => coherent first (within member) second (within member')

theorem Coherent.trans {references : List Reference} (coherent : Coherent references) {first second third : Reference}
    (member : first ∈ references) (member' : second ∈ references) (member'' : third ∈ references)
    (same : first.Same second) (same' : second.Same third) : first.Same third := by
  rcases same with ⟨function, slot⟩ | ⟨meaning, one, other⟩
  · rcases same' with ⟨function', slot'⟩ | ⟨meaning, other, third⟩
    · exact .inl ⟨function.trans function', slot.trans slot'⟩
    · rw [← coherent first member second member' function slot] at other
      exact .inr ⟨meaning, other, third⟩
  · rcases same' with ⟨function', slot'⟩ | ⟨meaning', other', third⟩
    · rw [coherent second member' third member'' function' slot'] at other
      exact .inr ⟨meaning, one, other⟩
    · obtain rfl := Option.some.inj (other.symm.trans other')
      exact .inr ⟨meaning, one, third⟩

theorem insert_cases (known : List Reference) (each : Reference) :
    (∃ before ∈ known, before.Same each) ∧ insert known each = known ∨
      (∀ before ∈ known, ¬ before.Same each) ∧ insert known each = known ++ [each] := by
  by_cases present : known.any (·.same each)
  · obtain ⟨before, member, same⟩ := List.any_eq_true.mp present
    exact .inl ⟨⟨before, member, (Reference.same_iff before each).mp same⟩, if_pos present⟩
  · refine .inr ⟨fun before member same => present ?_, if_neg present⟩
    exact List.any_eq_true.mpr ⟨before, member, (Reference.same_iff before each).mpr same⟩

theorem union_append (known more further : List Reference) :
    union known (more ++ further) = union (union known more) further := List.foldl_append

theorem union_concat (known more : List Reference) (each : Reference) :
    union known (more ++ [each]) = insert (union known more) each := union_append known more [each]

theorem mem_insert {known : List Reference} {each member : Reference} (inserted : member ∈ insert known each) :
    member ∈ known ∨ member = each := by
  rcases insert_cases known each with ⟨_, same⟩ | ⟨_, same⟩ <;> rw [same] at inserted
  · exact .inl inserted
  · exact (List.mem_append.mp inserted).imp_right List.mem_singleton.mp

theorem union_subset (known more : List Reference) : union known more ⊆ known ++ more := by
  induction more using List.reverseRecOn with
  | nil => simp [union]
  | append_singleton more each ih =>
    intro member inserted
    rw [union_concat] at inserted
    rcases mem_insert inserted with earlier | rfl
    · rw [← List.append_assoc]
      exact List.mem_append_left _ (ih earlier)
    · simp

theorem distinct_subset (references : List Reference) : distinct references ⊆ references := union_subset [] references

theorem Coherent.union {known more rest : List Reference} (coherent : Coherent (known ++ more ++ rest)) :
    Coherent (union known more ++ rest) := by
  refine coherent.subset (List.append_subset.mpr ⟨?_, List.subset_append_right _ rest⟩)
  exact List.Subset.trans (union_subset known more) (List.subset_append_left _ rest)

theorem subset_insert (known : List Reference) (each : Reference) : known ⊆ insert known each := by
  rcases insert_cases known each with ⟨_, same⟩ | ⟨_, same⟩ <;> rw [same]
  · exact List.Subset.refl known
  · exact List.subset_append_left known [each]

theorem union_covers {known more : List Reference} {each : Reference} (member : each ∈ more) :
    ∃ kept ∈ union known more, kept.Same each := by
  induction more using List.reverseRecOn with
  | nil => cases member
  | append_singleton more last ih =>
    rw [union_concat]
    rcases List.mem_append.mp member with earlier | final
    · obtain ⟨kept, held, same⟩ := ih earlier
      exact ⟨kept, subset_insert _ last held, same⟩
    · obtain rfl := List.mem_singleton.mp final
      rcases insert_cases (union known more) each with ⟨⟨kept, held, same⟩, rest⟩ | ⟨_, rest⟩ <;> rw [rest]
      · exact ⟨kept, held, same⟩
      · exact ⟨each, by simp, .inl ⟨rfl, rfl⟩⟩

theorem pairwise_union {known : List Reference} (apart : known.Pairwise fun first second => ¬ first.Same second)
    (more : List Reference) : (union known more).Pairwise fun first second => ¬ first.Same second := by
  induction more using List.reverseRecOn with
  | nil => exact apart
  | append_singleton more each ih =>
    rw [union_concat]
    rcases insert_cases (union known more) each with ⟨_, rest⟩ | ⟨others, rest⟩ <;> rw [rest]
    · exact ih
    · refine List.pairwise_append.mpr ⟨ih, List.pairwise_singleton _ each, ?_⟩
      intro before member last final
      rw [List.mem_singleton.mp final]
      exact others before member

theorem first_of_distinct {references : List Reference} (coherent : Coherent references) {kept : Reference}
    (member : kept ∈ distinct references) :
    ∃ before behind, references = before ++ kept :: behind ∧ ∀ each ∈ before, ¬ each.Same kept := by
  induction references using List.reverseRecOn with
  | nil => cases member
  | append_singleton references last ih =>
    rw [distinct, union_concat, ← distinct] at member
    have earlier (held : kept ∈ distinct references) :
        ∃ before behind, references ++ [last] = before ++ kept :: behind ∧ ∀ each ∈ before, ¬ each.Same kept := by
      obtain ⟨before, behind, split, others⟩ := ih (coherent.subset (List.subset_append_left _ _)) held
      exact ⟨before, behind ++ [last], by rw [split, List.append_assoc, List.cons_append], others⟩
    rcases insert_cases (distinct references) last with ⟨_, rest⟩ | ⟨others, rest⟩ <;> rw [rest] at member
    · exact earlier member
    · rcases List.mem_append.mp member with held | final
      · exact earlier held
      · obtain rfl := List.mem_singleton.mp final
        refine ⟨references, [], rfl, fun each mentioned same => ?_⟩
        -- What represents the earlier one would represent the last one, too.
        obtain ⟨first, held, alike⟩ := union_covers mentioned
        have through : first.Same kept := coherent.trans (List.mem_append_left _ (distinct_subset references held))
          (List.mem_append_left _ mentioned) (List.mem_append_right _ final) alike same
        exact others first held through

theorem union_distinct {known more : List Reference} (coherent : Coherent (known ++ more)) :
    union known (distinct more) = union known more := by
  induction more using List.reverseRecOn with
  | nil => rfl
  | append_singleton more last ih =>
    rw [← List.append_assoc] at coherent
    have same := ih (coherent.subset (List.subset_append_left _ _))
    rw [distinct, union_concat, ← distinct, union_concat, ← same]
    rcases insert_cases (distinct more) last with ⟨⟨first, held, alike⟩, rest⟩ | ⟨_, rest⟩ <;> rw [rest]
    · -- What represents the last one among those added is represented itself.
      obtain ⟨kept, present, alike'⟩ := @union_covers known _ _ held
      have mentioned : first ∈ more := distinct_subset more held
      have within : kept ∈ known ++ more := union_subset known more (same ▸ present)
      have through : kept.Same last := coherent.trans (List.mem_append_left _ within)
        (List.mem_append_left _ (List.mem_append_right _ mentioned)) (by simp) alike' alike
      rcases insert_cases (union known (distinct more)) last with ⟨_, kept'⟩ | ⟨others, _⟩
      · exact kept'.symm
      · exact absurd through (others kept present)
    · exact union_concat known _ last

end Constant

end LuaBytecode
