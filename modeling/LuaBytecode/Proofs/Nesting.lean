import LuaBytecode.Proofs.Reader
import LuaBytecode.Proofs.Tree
import LuaBytecode.Tree

namespace LuaBytecode.Tree

open Reader

variable {α β : Type} {layout : Layout} {front back : α → Bytes} {count : Nat → Bytes}

theorem length_spell_lt (counted : ∀ n, 0 < (count n).length) {top : α} {inner : List (Tree α)} {tree : Tree α}
    (member : tree ∈ inner) :
    (spell front count back tree).length < (spell front count back (node top inner)).length := by
  have part : (spell front count back tree).length ≤ (inner.flatMap (spell front count back)).length :=
    (List.sublist_flatten_of_mem (List.mem_map_of_mem member)).length_le
  have number := counted inner.length
  rw [spell_node]
  simp only [List.length_append]
  omega

-- The bytes bound the depth: a function is spelled in more bytes than one inside it.
theorem consumes_spell {reader : (depth : Nat) → Reader β} {value : Tree α → β} {holds : Tree α → Prop}
    (counted : ∀ n, 0 < (count n).length) (tree : Tree α) (all : ∀ each ∈ tree.subtrees, holds each)
    (step : ∀ depth top inner, holds (node top inner) →
      (∀ tree ∈ inner,
        Consumes layout (reader depth) (spell front count back tree) (fun found => found = value tree)) →
      Consumes layout (reader (depth + 1)) (spell front count back (node top inner))
        (fun found => found = value (node top inner))) :
    Consumes layout (nested reader) (spell front count back tree) (fun found => found = value tree) := by
  apply consumes_nested
  intro depth deep
  induction depth generalizing tree with
  | zero => omega
  | succ depth ih =>
    cases tree with
    | node top inner =>
      apply step depth top inner (all _ (mem_subtrees_self _))
      intro tree member
      have shorter : (spell front count back tree).length < (spell front count back (node top inner)).length :=
        length_spell_lt counted member
      apply ih tree
      · intro each nested
        exact all each (subtrees_subset_of_mem member nested)
      · omega

end LuaBytecode.Tree
