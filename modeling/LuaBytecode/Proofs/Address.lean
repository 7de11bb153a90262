import LuaBytecode.Proofs.Tree
/-!
Addresses of the functions in a tree. An address says at every level which inner function to take; in the
order of the tree, outer functions first, every function has one and no two have the same. What a walk
through the tree does depends on the levels only.
-/
namespace LuaBytecode.Tree

variable {α : Type}

def follow : List Nat → Tree α → Option (Tree α)
  | [], tree => some tree
  | index :: address, tree => (tree.inner[index]?).bind (follow address)

mutual
def addresses : Tree α → List (List Nat)
  | node _ inner => [] :: forestAddresses 0 inner
def forestAddresses (index : Nat) : List (Tree α) → List (List Nat)
  | [] => []
  | tree :: forest => (addresses tree).map (index :: ·) ++ forestAddresses (index + 1) forest
end

theorem follow_cons_append (top : α) (before : List (Tree α)) (tree : Tree α) (forest : List (Tree α))
    (address : List Nat) :
    follow (before.length :: address) (node top (before ++ tree :: forest)) = follow address tree := by
  rw [follow, inner, List.getElem?_append_right (Nat.le_refl _), Nat.sub_self, List.getElem?_cons_zero,
    Option.bind_some]

mutual
theorem map_follow_addresses (tree : Tree α) :
    tree.addresses.map (follow · tree) = tree.subtrees.map some := by
  cases tree with
  | node top inner =>
    rw [addresses, subtrees, List.map_cons, List.map_cons]
    exact congrArg _ (map_follow_forestAddresses top [] inner)
theorem map_follow_forestAddresses (top : α) (before forest : List (Tree α)) :
    (forestAddresses before.length forest).map (follow · (node top (before ++ forest))) =
      (forestSubtrees forest).map some := by
  cases forest with
  | nil => rfl
  | cons tree forest =>
    have first : ((addresses tree).map (before.length :: ·)).map (follow · (node top (before ++ tree :: forest))) =
        tree.subtrees.map some := by
      rw [List.map_map, ← map_follow_addresses tree]
      exact List.map_congr_left fun address _ => follow_cons_append top before tree forest address
    have later := map_follow_forestAddresses top (before ++ [tree]) forest
    rw [List.length_append, List.length_singleton, List.append_assoc, List.singleton_append] at later
    rw [forestAddresses, forestSubtrees, List.map_append, List.map_append, first, later]
end

theorem length_addresses (tree : Tree α) : tree.addresses.length = tree.subtrees.length := by
  have lengths := congrArg List.length tree.map_follow_addresses
  rwa [List.length_map, List.length_map] at lengths

theorem follow_getElem?_addresses {tree : Tree α} {index : Nat} {address : List Nat}
    (listed : tree.addresses[index]? = some address) :
    ∃ reached, tree.subtrees[index]? = some reached ∧ follow address tree = some reached := by
  have same := congrArg (·[index]?) tree.map_follow_addresses
  simp only [List.getElem?_map, listed, Option.map_some] at same
  obtain ⟨reached, found, leads⟩ := Option.map_eq_some_iff.mp same.symm
  exact ⟨reached, found, leads.symm⟩

mutual
theorem map_top_subtrees (tree : Tree α) : tree.subtrees.map top = tree.toList := by
  cases tree with
  | node top inner => rw [subtrees, toList, List.map_cons, map_top_forestSubtrees inner, Tree.top]
theorem map_top_forestSubtrees (forest : List (Tree α)) : (forestSubtrees forest).map top = listOfForest forest := by
  cases forest with
  | nil => rfl
  | cons tree forest =>
    rw [forestSubtrees, listOfForest, List.map_append, map_top_subtrees tree, map_top_forestSubtrees forest]
end

theorem mem_forestAddresses {start : Nat} {forest : List (Tree α)} {address : List Nat} :
    address ∈ forestAddresses start forest ↔
      ∃ index tree rest, forest[index]? = some tree ∧ rest ∈ tree.addresses ∧ address = (start + index) :: rest := by
  induction forest generalizing start with
  | nil => simp [forestAddresses]
  | cons first forest ih =>
    rw [forestAddresses, List.mem_append, List.mem_map, ih]
    constructor
    · rintro (⟨rest, member, rfl⟩ | ⟨index, tree, rest, found, member, rfl⟩)
      · exact ⟨0, first, rest, rfl, member, rfl⟩
      · exact ⟨index + 1, tree, rest, found, member, by rw [Nat.add_assoc, Nat.add_comm 1 index]⟩
    · rintro ⟨index, tree, rest, found, member, rfl⟩
      cases index with
      | zero =>
        obtain rfl := Option.some.inj found
        exact .inl ⟨rest, member, rfl⟩
      | succ index => exact .inr ⟨index, tree, rest, found, member, by rw [Nat.add_assoc, Nat.add_comm 1 index]⟩

theorem mem_addresses_of_follow {address : List Nat} {tree reached : Tree α}
    (found : follow address tree = some reached) :
    address ∈ tree.addresses := by
  induction address generalizing tree with
  | nil =>
    cases tree with
    | node top inner => exact List.mem_cons_self
  | cons index address ih =>
    cases tree with
    | node top inner =>
      obtain ⟨child, taken, further⟩ := Option.bind_eq_some_iff.mp found
      refine List.mem_cons_of_mem _ (mem_forestAddresses.mpr ⟨index, child, address, taken, ih further, ?_⟩)
      rw [Nat.zero_add]

mutual
theorem nodup_addresses (tree : Tree α) : tree.addresses.Nodup := by
  cases tree with
  | node top inner =>
    refine List.nodup_cons.mpr ⟨?_, nodup_forestAddresses 0 inner⟩
    intro member
    obtain ⟨_, _, _, _, _, empty⟩ := mem_forestAddresses.mp member
    cases empty
theorem nodup_forestAddresses (start : Nat) (forest : List (Tree α)) : (forestAddresses start forest).Nodup := by
  cases forest with
  | nil => exact List.nodup_nil
  | cons tree forest =>
    refine List.nodup_append.mpr ⟨?_, nodup_forestAddresses (start + 1) forest, ?_⟩
    · exact List.pairwise_map.mpr ((nodup_addresses tree).imp fun differ same => differ (List.cons.inj same).2)
    · rintro _ member other later rfl
      obtain ⟨rest, _, rfl⟩ := List.mem_map.mp member
      obtain ⟨index, _, _, _, _, same⟩ := mem_forestAddresses.mp later
      have := (List.cons.inj same).1
      omega
end

mutual
def levels (level : Int) : Tree α → List (Int × α)
  | node top inner => (level, top) :: forestLevels (level + 1) inner
def forestLevels (level : Int) : List (Tree α) → List (Int × α)
  | [] => []
  | tree :: forest => levels level tree ++ forestLevels level forest
end

mutual
theorem map_levels (level : Int) (tree : Tree α) : (tree.levels level).map (·.2) = tree.toList := by
  cases tree with
  | node top inner => rw [levels, toList, List.map_cons, map_forestLevels (level + 1) inner]
theorem map_forestLevels (level : Int) (forest : List (Tree α)) :
    (forestLevels level forest).map (·.2) = listOfForest forest := by
  cases forest with
  | nil => rfl
  | cons tree forest =>
    rw [forestLevels, listOfForest, List.map_append, map_levels level tree, map_forestLevels level forest]
end

theorem mem_toList_of_levels {level depth : Int} {tree : Tree α} {each : α} (member : (depth, each) ∈ tree.levels level) :
    each ∈ tree.toList := by
  rw [← map_levels level tree]
  exact List.mem_map_of_mem member

end LuaBytecode.Tree
