import LuaBytecode.Proofs.Address
import LuaBytecode.Proofs.Text
import LuaBytecode.V51.Analysis

namespace LuaBytecode.V51

open Text LuaBytecode.Tree

def spelled : List Nat → String
  | [] => ""
  | index :: address => s!".func{index}" ++ spelled address

def indices (start path : String) : List Nat :=
  ((path.toList.drop start.length).splitOn '.').tail.map fun part => Nat.ofDigitChars 10 (part.drop 4) 0

def indexPart (index : Nat) : List Char := 'f' :: 'u' :: 'n' :: 'c' :: Nat.toDigits 10 index

theorem toList_spelled (address : List Nat) :
    (spelled address).toList = ['.'].intercalate ([] :: address.map indexPart) := by
  have behind (part : List Char) (parts : List (List Char)) :
      ['.'].intercalate (part :: parts) = part ++ ['.'].intercalate ([] :: parts) := by
    cases parts <;> simp
  induction address with
  | nil => rfl
  | cons index address ih =>
    have joined : (spelled (index :: address)).toList = '.' :: (indexPart index ++ (spelled address).toList) := by
      simp [spelled, indexPart, toString_text]
    rw [joined, ih, List.map_cons, ← behind]
    simp

theorem dot_not_mem_indexPart (index : Nat) : '.' ∉ indexPart index := by
  intro dot
  simp only [indexPart, List.mem_cons, Char.reduceEq, false_or] at dot
  exact absurd (mem_toDigits dot) (by decide)

theorem indices_spelled (start : String) (address : List Nat) : indices start (start ++ spelled address) = address := by
  have parts : ∀ part ∈ [] :: address.map indexPart, '.' ∉ part := by
    intro part member
    rcases List.mem_cons.mp member with rfl | member
    · exact List.not_mem_nil
    · obtain ⟨index, _, rfl⟩ := List.mem_map.mp member
      exact dot_not_mem_indexPart index
  have read (index : Nat) : Nat.ofDigitChars 10 ((indexPart index).drop 4) 0 = index := Nat.ofDigitChars_ten_toDigits
  rw [indices, String.toList_append, ← String.length_toList, List.drop_left, toList_spelled,
    List.splitOn_intercalate '.' parts (List.cons_ne_nil _ _), List.tail_cons, List.map_map]
  exact (List.map_congr_left fun index _ => read index).trans (List.map_id address)

def entryAt (path : String) (place : List Nat × Function) : FunctionEntry :=
  place.2.entry (path ++ spelled place.1)

theorem entryAt_cons (path : String) (index : Nat) (place : List Nat × Function) :
    entryAt path (index :: place.1, place.2) = entryAt (path ++ s!".func{index}") place := by
  simp only [entryAt, spelled, String.append_assoc]

mutual
theorem functions_eq (path : String) (tree : Prototype) :
    functions path tree = (tree.addresses.zip tree.toList).map (entryAt path) := by
  cases tree with
  | node function inner =>
    rw [functions, addresses, toList, List.zip_cons_cons, List.map_cons, forestFunctions_eq path 0 inner, entryAt,
      spelled,
      String.append_empty]
theorem forestFunctions_eq (path : String) (index : Nat) (forest : List Prototype) :
    forestFunctions path index forest =
      ((forestAddresses index forest).zip (listOfForest forest)).map (entryAt path) := by
  cases forest with
  | nil => rfl
  | cons tree forest =>
    have lengths : ((addresses tree).map (index :: ·)).length = tree.toList.length := by
      rw [List.length_map, length_addresses, ← map_top_subtrees, List.length_map]
    rw [forestFunctions, forestAddresses, listOfForest, List.zip_append lengths, List.map_append, functions_eq _ tree,
      forestFunctions_eq path (index + 1) forest, List.zip_map_left, List.map_map]
    congr 1
    exact List.map_congr_left fun place _ => (entryAt_cons path index place).symm
end

structure FunctionEntry.Describes (entry : FunctionEntry) (function : Function) : Prop where
  source : entry.source = function.source
  lines : entry.lines = decimal function.lineDefined ++ "-" ++ decimal function.lastLineDefined
  params : entry.params = function.paramCount
  vararg : entry.vararg = true ↔ function.varargFlag ≠ 0
  stack : entry.stack = function.maxStackSize
  instructions : entry.instructions = function.code.length
  constants : entry.constants = function.constants.length
  upvalues : entry.upvalues = function.upvalueCount

theorem describes_entry (function : Function) (path : String) : (function.entry path).Describes function where
  source := rfl
  lines := rfl
  params := rfl
  vararg := decide_eq_true_iff
  stack := rfl
  instructions := rfl
  constants := rfl
  upvalues := rfl

theorem length_addresses_toList (main : Prototype) : main.addresses.length = main.toList.length := by
  rw [length_addresses, ← map_top_subtrees, List.length_map]

theorem map_indices_functions (start : String) (main : Prototype) :
    (functions start main).map (fun entry => indices start entry.path) = main.addresses := by
  have read (place : List Nat × Function) : indices start (entryAt start place).path = place.1 :=
    indices_spelled start place.1
  rw [functions_eq, List.map_map]
  calc (main.addresses.zip main.toList).map ((fun entry => indices start entry.path) ∘ entryAt start)
      = (main.addresses.zip main.toList).map Prod.fst := List.map_congr_left fun place _ => read place
    _ = main.addresses := List.map_fst_zip (Nat.le_of_eq (length_addresses_toList main))

theorem path_of_mem {start : String} {main : Prototype} {entry : FunctionEntry}
    (member : entry ∈ functions start main) :
    entry.path = start ++ spelled (indices start entry.path) := by
  rw [functions_eq] at member
  obtain ⟨place, _, rfl⟩ := List.mem_map.mp member
  exact (congrArg (start ++ spelled ·) (indices_spelled start place.1)).symm

theorem entries_address_functions (start : String) (main : Prototype) :
    (functions start main).length = main.toList.length ∧
    ((functions start main).map (·.path)).Nodup ∧
    (∀ (index : Nat) (entry : FunctionEntry), (functions start main)[index]? = some entry →
      ∃ reached, main.subtrees[index]? = some reached ∧ main.follow (indices start entry.path) = some reached ∧
        entry.path = start ++ spelled (indices start entry.path) ∧ entry.Describes reached.top) ∧
    ∀ address reached, main.follow address = some reached →
      ∃ entry ∈ functions start main, entry.path = start ++ spelled address := by
  refine ⟨?_, ?_, ?_, ?_⟩
  · rw [functions_eq, List.length_map, List.length_zip, length_addresses_toList, Nat.min_self]
  · have addressed : (((functions start main).map (·.path)).map (indices start)).Nodup := by
      rw [List.map_map]
      exact (map_indices_functions start main).symm ▸ nodup_addresses main
    exact List.Pairwise.of_map (indices start) (fun _ _ differ same => differ (congrArg _ same)) addressed
  · intro index entry listed
    rw [functions_eq, List.getElem?_map] at listed
    obtain ⟨⟨address, function⟩, place, rfl⟩ := Option.map_eq_some_iff.mp listed
    obtain ⟨addressed, held⟩ := List.getElem?_zip_eq_some.mp place
    obtain ⟨reached, found, leads⟩ := follow_getElem?_addresses addressed
    have top : reached.top = function := by
      rw [← map_top_subtrees, List.getElem?_map, found] at held
      exact Option.some.inj held
    have read : indices start (entryAt start (address, function)).path = address := indices_spelled start address
    rw [read]
    exact ⟨reached, found, leads, rfl, top ▸ describes_entry function _⟩
  · intro address reached leads
    have listed := mem_addresses_of_follow leads
    rw [← map_indices_functions start main] at listed
    obtain ⟨entry, member, rfl⟩ := List.mem_map.mp listed
    exact ⟨entry, member, path_of_mem member⟩

-- Eleven inner functions, a further one in the second of them: func1.func0 and func10 are told apart.
def wideTree : Prototype :=
  .node {} (.node {} [] :: .node {} [.node { source := "deep" } []] :: List.replicate 9 (.node {} []))

theorem entries_address_wideTree :
    ∃ entry reached, (functions "main.func1" wideTree)[3]? = some entry ∧ entry.path = "main.func1.func1.func0" ∧
      wideTree.follow (indices "main.func1" entry.path) = some reached ∧ entry.Describes reached.top ∧
      wideTree.follow [10] = some (.node {} []) ∧
      ∃ other ∈ functions "main.func1" wideTree, other.path = "main.func1" ++ spelled [10] :=
  have listed : (functions "main.func1" wideTree)[3]? =
      some ⟨"main.func1.func1.func0", "deep", "0-0", 0, false, 0, 0, 0, 0⟩ := by rfl
  have result := entries_address_functions "main.func1" wideTree
  have ⟨reached, _, leads, _, describes⟩ := result.2.2.1 3 _ listed
  ⟨_, reached, listed, rfl, leads, describes, rfl, result.2.2.2 [10] _ rfl⟩

end LuaBytecode.V51
