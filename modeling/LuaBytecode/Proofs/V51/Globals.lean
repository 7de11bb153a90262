import LuaBytecode.Proofs.References
import LuaBytecode.V51.Analysis
/-!
The globals of a chunk. A global is mentioned by an instruction of a function, through a slot of that
function's constants. The walk through the tree joins what it finds in the parts of the tree; this comes to
the same as listing all mentions, outer functions first, and keeping the first one of each class.
-/
namespace LuaBytecode.V51

open Constant (Reference Coherent union distinct)

def Names (main : Prototype) (index : Nat) (reference : Reference) : Prop :=
  ∃ function instruction, main.toList[reference.function]? = some function ∧ function.code[index]? = some instruction ∧
    (instruction.opcode = .getGlobal ∨ instruction.opcode = .setGlobal) ∧ instruction.word.bx = reference.slot ∧
    function.constants[reference.slot]? = some reference.constant

theorem Function.globalReference?_eq_some {position : Nat} {function : Function} {instruction : Instruction}
    {reference : Reference} :
    function.globalReference? position instruction = some reference ↔
      (instruction.opcode = .getGlobal ∨ instruction.opcode = .setGlobal) ∧ instruction.word.bx = reference.slot ∧
      function.constants[reference.slot]? = some reference.constant ∧ reference.function = position := by
  unfold globalReference?
  split
  · rename_i named
    rw [Option.map_eq_some_iff]
    constructor
    · rintro ⟨constant, held, rfl⟩
      exact ⟨named, rfl, held, rfl⟩
    · rintro ⟨_, slot, held, rfl⟩
      exact ⟨reference.constant, slot ▸ held, by rw [slot]⟩
  · rename_i other
    exact ⟨nofun, fun named => absurd named.1 other⟩

def references (position : Nat) (functions : List Function) : List Reference :=
  (functions.zipIdx position).flatMap fun placed => placed.1.globalReferences placed.2

theorem references_cons (position : Nat) (function : Function) (functions : List Function) :
    references position (function :: functions) =
      function.globalReferences position ++ references (position + 1) functions := rfl

theorem references_append (position : Nat) (functions others : List Function) :
    references position (functions ++ others) =
      references position functions ++ references (position + functions.length) others := by
  rw [references, List.zipIdx_append, List.flatMap_append]
  rfl

theorem coherent_references (position : Nat) (functions : List Function) :
    Coherent (references position functions) := by
  have source {reference : Reference} (member : reference ∈ references position functions) :
      ∃ function, functions[reference.function - position]? = some function ∧
        function.constants[reference.slot]? = some reference.constant := by
    obtain ⟨⟨function, place⟩, placed, within⟩ := List.mem_flatMap.mp member
    obtain ⟨instruction, _, named⟩ := List.mem_filterMap.mp within
    obtain ⟨_, _, held, rfl⟩ := Function.globalReference?_eq_some.mp named
    exact ⟨function, (List.mk_mem_zipIdx_iff_le_and_getElem?_sub.mp placed).2, held⟩
  intro first member second member' sameFunction sameSlot
  obtain ⟨function, found, held⟩ := source member
  obtain ⟨function', found', held'⟩ := source member'
  rw [sameFunction, found'] at found
  rw [sameSlot, ← Option.some.inj found, held'] at held
  exact (Option.some.inj held).symm

mutual
theorem gatherGlobals_eq (position : Nat) (tree : Prototype) :
    gatherGlobals position tree = distinct (references position tree.toList) := by
  cases tree with
  | node function inner =>
    have coherent := coherent_references position (function :: Tree.listOfForest inner)
    rw [references_cons, ← List.nil_append (function.globalReferences position)] at coherent
    rw [gatherGlobals, distinct, gatherForestGlobals_eq (position + 1) _ inner coherent.union, Tree.toList,
      references_cons, distinct, Constant.union_append]
-- What is known already must not have another constant in a slot than the trees have.
theorem gatherForestGlobals_eq (position : Nat) (known : List Reference) (forest : List Prototype)
    (coherent : Coherent (known ++ references position (Tree.listOfForest forest))) :
    gatherForestGlobals position known forest = union known (references position (Tree.listOfForest forest)) := by
  cases forest with
  | nil => rfl
  | cons tree forest =>
    rw [Tree.listOfForest, references_append, ← List.append_assoc] at coherent
    have joined := Constant.union_distinct (coherent.subset (List.subset_append_left _ _))
    rw [gatherForestGlobals, gatherGlobals_eq position tree, joined,
      gatherForestGlobals_eq _ _ forest coherent.union, Tree.listOfForest, references_append, Constant.union_append]
end

def Function.mentions (position : Nat) (function : Function) : List (Nat × Reference) :=
  function.code.zipIdx.filterMap fun placed => (function.globalReference? position placed.1).map (placed.2, ·)

def mentions (functions : List Function) : List (Nat × Reference) :=
  functions.zipIdx.flatMap fun placed => placed.1.mentions placed.2

theorem Function.map_mentions (position : Nat) (function : Function) :
    (function.mentions position).map (·.2) = function.globalReferences position := by
  rw [mentions, List.map_filterMap, globalReferences]
  nth_rewrite 2 [← List.zipIdx_map_fst 0 function.code]
  rw [List.filterMap_map]
  congr
  funext placed
  rw [Option.map_map]
  exact Option.map_id'

theorem map_mentions (functions : List Function) : (mentions functions).map (·.2) = references 0 functions := by
  rw [mentions, references, List.map_flatMap]
  congr
  funext placed
  exact placed.1.map_mentions placed.2

theorem Function.mem_mentions {position index : Nat} {function : Function} {reference : Reference} :
    (index, reference) ∈ function.mentions position ↔
      ∃ instruction, function.code[index]? = some instruction ∧
        function.globalReference? position instruction = some reference := by
  rw [mentions, List.mem_filterMap]
  constructor
  · rintro ⟨⟨instruction, place⟩, placed, named⟩
    obtain ⟨found, held, same⟩ := Option.map_eq_some_iff.mp named
    obtain ⟨rfl, rfl⟩ := Prod.mk.inj same
    exact ⟨instruction, List.mk_mem_zipIdx_iff_getElem?.mp placed, held⟩
  · rintro ⟨instruction, placed, named⟩
    exact ⟨(instruction, index), List.mk_mem_zipIdx_iff_getElem?.mpr placed, by rw [named, Option.map_some]⟩

theorem mem_mentions {main : Prototype} {index : Nat} {reference : Reference} :
    (index, reference) ∈ mentions main.toList ↔ Names main index reference := by
  rw [mentions, List.mem_flatMap]
  constructor
  · rintro ⟨⟨function, place⟩, placed, within⟩
    obtain ⟨instruction, found, named⟩ := Function.mem_mentions.mp within
    obtain ⟨opcode, slot, held, rfl⟩ := Function.globalReference?_eq_some.mp named
    exact ⟨function, instruction, List.mk_mem_zipIdx_iff_getElem?.mp placed, found, opcode, slot, held⟩
  · rintro ⟨function, instruction, placed, found, opcode, slot, held⟩
    refine ⟨(function, reference.function), List.mk_mem_zipIdx_iff_getElem?.mpr placed, ?_⟩
    have named := Function.globalReference?_eq_some.mpr ⟨opcode, slot, held, rfl⟩
    exact Function.mem_mentions.mpr ⟨instruction, found, named⟩

def Precedes (first second : Nat × Reference) : Prop :=
  first.2.function < second.2.function ∨ first.2.function = second.2.function ∧ first.1 < second.1

theorem pairwise_zipIdx {α : Type} (members : List α) :
    members.zipIdx.Pairwise fun first second => first.2 < second.2 := by
  apply List.pairwise_map.mp
  rw [List.zipIdx_map_snd]
  exact List.pairwise_lt_range'

theorem pairwise_mentions (functions : List Function) : (mentions functions).Pairwise Precedes := by
  have function_of_mem {function : Function} {position : Nat} {mention : Nat × Reference}
      (member : mention ∈ function.mentions position) : mention.2.function = position := by
    obtain ⟨instruction, _, named⟩ := Function.mem_mentions.mp member
    exact (Function.globalReference?_eq_some.mp named).2.2.2
  rw [mentions, List.pairwise_flatMap]
  constructor
  · rintro ⟨function, place⟩ _
    refine (pairwise_zipIdx function.code).filterMap _ fun first second less mention named mention' named' => .inr ?_
    obtain ⟨reference, held, rfl⟩ := Option.map_eq_some_iff.mp named
    obtain ⟨reference', held', rfl⟩ := Option.map_eq_some_iff.mp named'
    have place := (Function.globalReference?_eq_some.mp held).2.2.2
    have place' := (Function.globalReference?_eq_some.mp held').2.2.2
    exact ⟨place.trans place'.symm, less⟩
  · refine (pairwise_zipIdx functions).imp fun {first second} less mention member mention' member' => .inl ?_
    rw [function_of_mem member, function_of_mem member']
    exact less

theorem first_mention {main : Prototype} {kept : Reference} (member : kept ∈ gatherGlobals 0 main) :
    ∃ index, Names main index kept ∧ ∀ index' other, Names main index' other → other.Same kept →
      (index', other) = (index, kept) ∨ Precedes (index, kept) (index', other) := by
  rw [gatherGlobals_eq] at member
  obtain ⟨before, behind, split, others⟩ := Constant.first_of_distinct (coherent_references 0 _) member
  rw [← map_mentions] at split
  obtain ⟨early, late, whole, rfl, rest⟩ := List.map_eq_append_iff.mp split
  obtain ⟨⟨index, reference⟩, later, rfl, rfl, rfl⟩ := List.map_eq_cons_iff.mp rest
  have order := pairwise_mentions main.toList
  rw [whole, List.pairwise_append, List.pairwise_cons] at order
  refine ⟨index, mem_mentions.mp (by simp [whole]), fun index' other named same => ?_⟩
  have mentioned := mem_mentions.mpr named
  rw [whole, List.mem_append, List.mem_cons] at mentioned
  rcases mentioned with early' | same' | later'
  · exact absurd same (others other (List.mem_map_of_mem early'))
  · exact .inl same'
  · exact .inr (order.2.1.1 _ later')

theorem globals_represent_classes (main : Prototype) :
    ∃ kept : List Reference, globals main = kept.map (·.constant) ∧
      kept.Pairwise (fun first second => ¬ first.Same second) ∧
      (∀ each ∈ kept, ∃ index, Names main index each ∧ ∀ index' other, Names main index' other → other.Same each →
        each.function < other.function ∨ each.function = other.function ∧ index ≤ index') ∧
      ∀ index other, Names main index other → ∃ each ∈ kept, each.Same other := by
  refine ⟨gatherGlobals 0 main, rfl, ?_, ?_, ?_⟩
  · rw [gatherGlobals_eq]
    exact Constant.pairwise_union List.Pairwise.nil _
  · intro each member
    obtain ⟨index, named, first⟩ := first_mention member
    refine ⟨index, named, fun index' other named' same => ?_⟩
    rcases first index' other named' same with same | earlier | ⟨function, instruction⟩
    · obtain ⟨rfl, rfl⟩ := Prod.mk.inj same
      exact .inr ⟨rfl, Nat.le_refl _⟩
    · exact .inl earlier
    · exact .inr ⟨function, Nat.le_of_lt instruction⟩
  · intro index other named
    rw [gatherGlobals_eq, ← map_mentions]
    exact Constant.union_covers (List.mem_map_of_mem (mem_mentions.mpr named))

-- A truth value and the number it counts as; a slot of what is not a number, named twice, and another one; zeros of
-- both signs; a slot out of range; a constant that no instruction names.
def mixedTree : Prototype :=
  .node
    { code := [⟨⟨5⟩, .getGlobal, rfl⟩, ⟨⟨16391⟩, .setGlobal, rfl⟩, ⟨⟨32773⟩, .getGlobal, rfl⟩,
        ⟨⟨32775⟩, .setGlobal, rfl⟩, ⟨⟨147461⟩, .getGlobal, rfl⟩]
      constants := [.bool true, .num ⟨0x3FF0000000000000⟩, .num ⟨0x7FF8000000000000⟩, .str "unused"] }
    [.node
      { code := [⟨⟨7⟩, .setGlobal, rfl⟩, ⟨⟨16389⟩, .getGlobal, rfl⟩, ⟨⟨32773⟩, .getGlobal, rfl⟩,
          ⟨⟨49157⟩, .getGlobal, rfl⟩]
        constants := [.num ⟨0x8000000000000000⟩, .bool false, .num ⟨0x7FF8000000000000⟩, .str "print"] } []]

theorem globals_represent_mixedTree :
    globals mixedTree = [.bool true, .num ⟨0x7FF8000000000000⟩, .num ⟨0x8000000000000000⟩, .num ⟨0x7FF8000000000000⟩,
      .str "print"] ∧
    Names mixedTree 1 ⟨1, 1, .bool false⟩ ∧
    ∃ each, each.constant ∈ globals mixedTree ∧ each.Same ⟨1, 1, .bool false⟩ ∧ ∃ index, Names mixedTree index each :=
  have named : Names mixedTree 1 ⟨1, 1, .bool false⟩ := ⟨_, _, rfl, rfl, .inl rfl, by decide, rfl⟩
  have ⟨_, listed, _, first, covers⟩ := globals_represent_classes mixedTree
  have ⟨each, member, same⟩ := covers 1 _ named
  have ⟨index, mentioned, _⟩ := first each member
  ⟨by decide +kernel, named, each, listed ▸ List.mem_map_of_mem member, same, index, mentioned⟩

end LuaBytecode.V51
