import LuaBytecode.Bytes

namespace LuaBytecode

inductive Tree (α : Type) where
  | node (top : α) (inner : List (Tree α))
deriving Repr, Inhabited

namespace Tree

variable {α β : Type}

def top : Tree α → α
  | node top _ => top

def inner : Tree α → List (Tree α)
  | node _ inner => inner

mutual
def toList : Tree α → List α
  | node top inner => top :: listOfForest inner
def listOfForest : List (Tree α) → List α
  | [] => []
  | tree :: forest => toList tree ++ listOfForest forest
end

mutual
def map (f : α → β) : Tree α → Tree β
  | node top inner => node (f top) (mapForest f inner)
def mapForest (f : α → β) : List (Tree α) → List (Tree β)
  | [] => []
  | tree :: forest => map f tree :: mapForest f forest
end

mutual
def decEq [DecidableEq α] : (a b : Tree α) → Decidable (a = b)
  | node top inner, node top' inner' =>
    match decEqTop : decide (top = top'), decEqForest inner inner' with
    | true, isTrue forests => isTrue (by rw [of_decide_eq_true decEqTop, forests])
    | true, isFalse differ => isFalse fun same => differ (by cases same; rfl)
    | false, _ => isFalse fun same => of_decide_eq_false decEqTop (by cases same; rfl)
def decEqForest [DecidableEq α] : (a b : List (Tree α)) → Decidable (a = b)
  | [], [] => isTrue rfl
  | [], _ :: _ => isFalse nofun
  | _ :: _, [] => isFalse nofun
  | tree :: forest, tree' :: forest' =>
    match decEq tree tree', decEqForest forest forest' with
    | isTrue heads, isTrue tails => isTrue (by rw [heads, tails])
    | isTrue _, isFalse differ => isFalse fun same => differ (by cases same; rfl)
    | isFalse differ, _ => isFalse fun same => differ (by cases same; rfl)
end

instance [DecidableEq α] : DecidableEq (Tree α) := decEq

mutual
theorem toList_map (f : α → β) : (tree : Tree α) → (tree.map f).toList = tree.toList.map f
  | node top inner => by simp [map, toList, listOfForest_map f inner]
theorem listOfForest_map (f : α → β) :
    (forest : List (Tree α)) → listOfForest (mapForest f forest) = (listOfForest forest).map f
  | [] => rfl
  | tree :: forest => by
    simp [mapForest, listOfForest, toList_map f tree, listOfForest_map f forest]
end

section spelling

variable (front : α → Bytes) (count : Nat → Bytes) (back : α → Bytes)

mutual
def spell : Tree α → Bytes
  | node top inner => front top ++ (count inner.length ++ spellForest inner ++ back top)
def spellForest : List (Tree α) → Bytes
  | [] => []
  | tree :: forest => spell tree ++ spellForest forest
end

theorem spellForest_eq (forest : List (Tree α)) :
    spellForest front count back forest = forest.flatMap (spell front count back) := by
  induction forest with
  | nil => rfl
  | cons tree forest ih => rw [spellForest, ih, List.flatMap_cons]

theorem spell_node (top : α) (inner : List (Tree α)) :
    spell front count back (node top inner) =
      front top ++ (count inner.length ++ inner.flatMap (spell front count back) ++ back top) := by
  rw [spell, spellForest_eq]

end spelling

end Tree

end LuaBytecode
