import LuaBytecode.Tree

namespace LuaBytecode.Tree

variable {α β γ : Type}

mutual
-- Every function has the property, and none has more functions inside it than can be counted.
def Every (holds : α → Prop) : Tree α → Prop
  | node top inner => holds top ∧ inner.length < 2 ^ 64 ∧ EveryForest holds inner
def EveryForest (holds : α → Prop) : List (Tree α) → Prop
  | [] => True
  | tree :: forest => Every holds tree ∧ EveryForest holds forest
end

theorem everyForest_of_forall {holds : α → Prop} (forest : List (Tree α))
    (each : ∀ tree ∈ forest, Every holds tree) : EveryForest holds forest := by
  induction forest with
  | nil => trivial
  | cons tree forest ih =>
    exact ⟨each tree List.mem_cons_self, ih fun other member => each other (List.mem_cons_of_mem tree member)⟩

mutual
theorem every_mono {strong weak : α → Prop} (follows : ∀ each, strong each → weak each) (tree : Tree α)
    (every : Every strong tree) : Every weak tree := by
  cases tree with
  | node top inner => exact ⟨follows top every.1, every.2.1, everyForest_mono follows inner every.2.2⟩
theorem everyForest_mono {strong weak : α → Prop} (follows : ∀ each, strong each → weak each)
    (forest : List (Tree α)) (every : EveryForest strong forest) : EveryForest weak forest := by
  cases forest with
  | nil => trivial
  | cons tree forest => exact ⟨every_mono follows tree every.1, everyForest_mono follows forest every.2⟩
end

mutual
theorem forall_of_every {holds : α → Prop} (tree : Tree α) (every : Every holds tree) :
    ∀ each ∈ tree.toList, holds each := by
  cases tree with
  | node top inner =>
    intro each member
    cases List.mem_cons.mp member with
    | inl same => exact same ▸ every.1
    | inr inside => exact forall_of_everyForest inner every.2.2 each inside
theorem forall_of_everyForest {holds : α → Prop} (forest : List (Tree α)) (every : EveryForest holds forest) :
    ∀ each ∈ listOfForest forest, holds each := by
  cases forest with
  | nil => exact nofun
  | cons tree forest =>
    intro each member
    cases List.mem_append.mp member with
    | inl first => exact forall_of_every tree every.1 each first
    | inr rest => exact forall_of_everyForest forest every.2 each rest
end

mutual
theorem every_of_forall {known holds : α → Prop} (tree : Tree α) (every : Every known tree)
    (each : ∀ member ∈ tree.toList, holds member) : Every holds tree := by
  cases tree with
  | node top inner =>
    rw [toList] at each
    exact ⟨each top List.mem_cons_self, every.2.1, everyForest_of_counted inner every.2.2 fun other member =>
      each other (List.mem_cons_of_mem top member)⟩
theorem everyForest_of_counted {known holds : α → Prop} (forest : List (Tree α)) (every : EveryForest known forest)
    (each : ∀ member ∈ listOfForest forest, holds member) : EveryForest holds forest := by
  cases forest with
  | nil => trivial
  | cons tree forest =>
    rw [listOfForest] at each
    constructor
    · exact every_of_forall tree every.1 fun other member => each other (List.mem_append_left _ member)
    · exact everyForest_of_counted forest every.2 fun other member => each other (List.mem_append_right _ member)
end

theorem every_and {holds also : α → Prop} (tree : Tree α) (one : Every holds tree) (other : Every also tree) :
    Every (fun each => holds each ∧ also each) tree := by
  apply every_of_forall tree one
  intro each member
  exact ⟨forall_of_every tree one each member, forall_of_every tree other each member⟩

theorem top_mem_toList (tree : Tree α) : tree.top ∈ tree.toList := by
  cases tree with
  | node top inner => exact List.mem_cons_self

theorem top_map (f : α → β) (tree : Tree α) : (tree.map f).top = f tree.top := by
  cases tree with
  | node top inner => rfl

theorem mapForest_eq (f : α → β) (forest : List (Tree α)) : mapForest f forest = forest.map (map f) := by
  induction forest with
  | nil => rfl
  | cons tree forest ih => rw [mapForest, ih, List.map_cons]

theorem length_mapForest (f : α → β) (forest : List (Tree α)) :
    (mapForest f forest).length = forest.length := by
  induction forest with
  | nil => rfl
  | cons tree forest ih => rw [mapForest, List.length_cons, List.length_cons, ih]

mutual
theorem every_map {holds : β → Prop} {f : α → β} (tree : Tree α) :
    Every holds (tree.map f) ↔ Every (fun each => holds (f each)) tree := by
  cases tree with
  | node top inner => rw [map, Every, Every, length_mapForest, everyForest_map inner]
theorem everyForest_map {holds : β → Prop} {f : α → β} (forest : List (Tree α)) :
    EveryForest holds (mapForest f forest) ↔ EveryForest (fun each => holds (f each)) forest := by
  cases forest with
  | nil => rfl
  | cons tree forest => rw [mapForest, EveryForest, EveryForest, every_map tree, everyForest_map forest]
end

mutual
theorem map_map (g : β → γ) (f : α → β) (tree : Tree α) :
    (tree.map f).map g = tree.map fun each => g (f each) := by
  cases tree with
  | node top inner => rw [map, map, map, mapForest_map g f inner]
theorem mapForest_map (g : β → γ) (f : α → β) (forest : List (Tree α)) :
    mapForest g (mapForest f forest) = mapForest (fun each => g (f each)) forest := by
  cases forest with
  | nil => rfl
  | cons tree forest => rw [mapForest, mapForest, mapForest, map_map g f tree, mapForest_map g f forest]
end

mutual
theorem map_congr {f g : α → β} (tree : Tree α) (same : Every (fun each => f each = g each) tree) :
    tree.map f = tree.map g := by
  cases tree with
  | node top inner => rw [map, map, same.1, mapForest_congr inner same.2.2]
theorem mapForest_congr {f g : α → β} (forest : List (Tree α))
    (same : EveryForest (fun each => f each = g each) forest) :
    mapForest f forest = mapForest g forest := by
  cases forest with
  | nil => rfl
  | cons tree forest => rw [mapForest, mapForest, map_congr tree same.1, mapForest_congr forest same.2]
end

mutual
theorem map_eq_self {f : α → α} (same : ∀ each, f each = each) (tree : Tree α) : tree.map f = tree := by
  cases tree with
  | node top inner => rw [map, same, mapForest_eq_self same inner]
theorem mapForest_eq_self {f : α → α} (same : ∀ each, f each = each) (forest : List (Tree α)) :
    mapForest f forest = forest := by
  cases forest with
  | nil => rfl
  | cons tree forest => rw [mapForest, map_eq_self same tree, mapForest_eq_self same forest]
end

theorem mem_listOfForest {member : α} (forest : List (Tree α)) :
    member ∈ listOfForest forest ↔ ∃ tree ∈ forest, member ∈ tree.toList := by
  induction forest with
  | nil => simp [listOfForest]
  | cons tree forest ih => simp [listOfForest, ih]

theorem length_forest_le (forest : List (Tree α)) : forest.length ≤ (listOfForest forest).length := by
  induction forest with
  | nil => exact Nat.le_refl 0
  | cons tree forest ih =>
    cases tree with
    | node top inner =>
      simp only [listOfForest, toList, List.length_cons, List.length_append]
      omega

mutual
theorem every_of_toList {holds : α → Prop} (tree : Tree α) (held : tree.toList.length < 2 ^ 64)
    (each : ∀ member ∈ tree.toList, holds member) : Every holds tree := by
  cases tree with
  | node top inner =>
    rw [toList] at each held
    have few := length_forest_le inner
    rw [List.length_cons] at held
    refine ⟨each top List.mem_cons_self, by omega, everyForest_of_toList inner (by omega) ?_⟩
    intro other member
    exact each other (List.mem_cons_of_mem top member)
theorem everyForest_of_toList {holds : α → Prop} (forest : List (Tree α))
    (held : (listOfForest forest).length < 2 ^ 64)
    (each : ∀ member ∈ listOfForest forest, holds member) : EveryForest holds forest := by
  cases forest with
  | nil => trivial
  | cons tree forest =>
    rw [listOfForest] at each held
    rw [List.length_append] at held
    constructor
    · exact every_of_toList tree (by omega) fun other member =>
        each other (List.mem_append_left _ member)
    · exact everyForest_of_toList forest (by omega) fun other member =>
        each other (List.mem_append_right _ member)
end

mutual
def subtrees : Tree α → List (Tree α)
  | node top inner => node top inner :: forestSubtrees inner
def forestSubtrees : List (Tree α) → List (Tree α)
  | [] => []
  | tree :: forest => subtrees tree ++ forestSubtrees forest
end

theorem subtrees_subset_forest {tree : Tree α} {forest : List (Tree α)} (member : tree ∈ forest) :
    tree.subtrees ⊆ forestSubtrees forest := by
  induction forest with
  | nil => cases member
  | cons head forest ih =>
    intro each within
    rw [forestSubtrees]
    rcases List.mem_cons.mp member with rfl | later
    · exact List.mem_append_left _ within
    · exact List.mem_append_right _ (ih later within)

theorem mem_subtrees_self (tree : Tree α) : tree ∈ tree.subtrees := by
  cases tree with
  | node top inner => exact List.mem_cons_self

theorem subtrees_subset_of_mem {top : α} {inner : List (Tree α)} {tree : Tree α} (member : tree ∈ inner) :
    tree.subtrees ⊆ (node top inner).subtrees := by
  intro each within
  exact List.mem_cons_of_mem _ (subtrees_subset_forest member within)

mutual
theorem subtrees_map (f : α → β) (tree : Tree α) : (tree.map f).subtrees = tree.subtrees.map (map f) := by
  cases tree with
  | node top inner => rw [map, subtrees, subtrees, forestSubtrees_map f inner, List.map_cons, map]
theorem forestSubtrees_map (f : α → β) (forest : List (Tree α)) :
    forestSubtrees (mapForest f forest) = (forestSubtrees forest).map (map f) := by
  cases forest with
  | nil => rfl
  | cons tree forest =>
    rw [mapForest, forestSubtrees, forestSubtrees, subtrees_map f tree, forestSubtrees_map f forest, List.map_append]
end

end LuaBytecode.Tree
