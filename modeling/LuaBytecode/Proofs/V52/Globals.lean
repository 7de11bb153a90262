import LuaBytecode.Proofs.Order
import LuaBytecode.V52.Analysis

namespace LuaBytecode.V52

open Constant (Reference Coherent distinct)

def access? (instruction : Instruction) : Option (Nat × Nat) :=
  match instruction.opcode with
  | .getTabUp => some ((parts instruction.word).b, (parts instruction.word).c)
  | .setTabUp => some ((parts instruction.word).a, (parts instruction.word).b)
  | _ => none

namespace Function

def Holds (function : Function) (key : Reference) : Prop :=
  key.function = 0 ∧ function.constants[key.slot]? = some key.constant

def Uses (function : Function) (upvalue : Nat) (key : Reference) : Prop :=
  function.Holds key ∧ ∃ instruction ∈ function.code, ∃ operand,
    access? instruction = some (upvalue, operand) ∧ (Operand.mk operand).isConstant = true ∧
      (Operand.mk operand).index = key.slot

def reference? (function : Function) (operand : Operand) : Option Reference :=
  if operand.isConstant then
    (function.constants[operand.index.toNat]?).map fun constant =>
      { function := 0, slot := operand.index.toNat, constant }
  else none

theorem reference?_eq_some {function : Function} {operand : Nat} {key : Reference} :
    function.reference? ⟨operand⟩ = some key ↔
      function.Holds key ∧ (Operand.mk operand).isConstant = true ∧ (Operand.mk operand).index = key.slot := by
  unfold reference?
  split
  · rename_i marked
    have nonneg : 0 ≤ (Operand.mk operand).index := by
      have bit : (operand : Int) / 256 % 2 = 1 := by simpa [Operand.isConstant] using marked
      rw [Operand.index, if_pos marked]
      dsimp only
      omega
    rw [Option.map_eq_some_iff]
    constructor
    · rintro ⟨constant, held, rfl⟩
      exact ⟨⟨rfl, held⟩, marked, (Int.toNat_of_nonneg nonneg).symm⟩
    · rintro ⟨⟨zero, held⟩, _, index⟩
      have slot : (Operand.mk operand).index.toNat = key.slot := by rw [index, Int.toNat_natCast]
      exact ⟨key.constant, by rw [slot, held], by rw [slot, ← zero]⟩
  · rename_i plain
    exact ⟨nofun, fun known => absurd known.2.1 plain⟩

def keys (function : Function) (upvalue : Nat) : List Reference :=
  function.code.filterMap fun instruction =>
    (access? instruction).bind fun entry => if entry.1 = upvalue then function.reference? ⟨entry.2⟩ else none

theorem mem_keys {function : Function} {upvalue : Nat} {key : Reference} :
    key ∈ function.keys upvalue ↔ function.Uses upvalue key := by
  rw [keys, List.mem_filterMap]
  constructor
  · rintro ⟨instruction, member, taken⟩
    obtain ⟨⟨_, operand⟩, entry, named⟩ := Option.bind_eq_some_iff.mp taken
    obtain ⟨rfl, found⟩ := Option.ite_none_right_eq_some.mp named
    obtain ⟨held, marked, index⟩ := reference?_eq_some.mp found
    exact ⟨held, instruction, member, operand, entry, marked, index⟩
  · rintro ⟨held, instruction, member, operand, entry, marked, index⟩
    refine ⟨instruction, member, ?_⟩
    rw [entry, Option.bind_some, if_pos rfl]
    exact reference?_eq_some.mpr ⟨held, marked, index⟩

theorem globalReferences_eq (function : Function) : function.globalReferences = function.keys 0 := by
  rw [globalReferences, keys]
  congr
  funext instruction
  simp only [access?, reference?]
  cases instruction.opcode <;> rfl

theorem mem_globalReferences {function : Function} {key : Reference} :
    key ∈ function.globalReferences ↔ function.Uses 0 key := by
  rw [globalReferences_eq, mem_keys]

theorem coherent_of_holds {function : Function} {references : List Reference}
    (held : ∀ key ∈ references, function.Holds key) : Coherent references := by
  intro first member second member' _ slot
  have one := (held first member).2
  rw [slot, (held second member').2] at one
  exact (Option.some.inj one).symm

theorem holds_of_mem {function : Function} {key : Reference} (member : key ∈ function.globalReferences) :
    function.Holds key := (mem_globalReferences.mp member).1

def Lists (function : Function) (key : Reference) : Prop := ∃ kept ∈ distinct function.globalReferences, kept.Same key

theorem lists_iff {function : Function} {key : Reference} (held : function.Holds key) :
    function.Lists key ↔ ∃ used, function.Uses 0 used ∧ used.Same key := by
  constructor
  · rintro ⟨kept, member, same⟩
    exact ⟨kept, mem_globalReferences.mp (Constant.distinct_subset _ member), same⟩
  · rintro ⟨used, uses, same⟩
    have member := mem_globalReferences.mpr uses
    obtain ⟨kept, listed, alike⟩ := @Constant.union_covers [] _ _ member
    have coherent : Coherent (key :: function.globalReferences) :=
      coherent_of_holds (List.forall_mem_cons.mpr ⟨held, fun _ => holds_of_mem⟩)
    refine ⟨kept, listed, coherent.trans ?_ (List.mem_cons_of_mem key member) List.mem_cons_self alike same⟩
    exact List.mem_cons_of_mem key (Constant.distinct_subset _ listed)

def Orderly (function : Function) : Prop :=
  ∀ key key', function.Uses 0 key → function.Uses 0 key' → key.constant.Alike key'.constant

def globalRows (function : Function) (margin : String) : List String :=
  if function.globals.isEmpty then []
  else
    [margin ++ "Global variables used: " ++
      String.intercalate ", " ((function.globals.mergeSort Constant.atMost).map Constant.text)]

theorem globalLine_cases (function : Function) (margin : String) :
    function.Orderly ∧ function.globalLine margin = .ok (function.globalRows margin) ∨
      ¬ function.Orderly ∧ ∃ first second, function.globalLine margin = .error (.incomparable first second) := by
  have coherent : Coherent function.globalReferences := coherent_of_holds fun _ => holds_of_mem
  rcases Constant.sort_distinct coherent with ⟨alike, sorted⟩ | ⟨key, member, key', member', differ, failed⟩
  · refine .inl ⟨fun key key' uses uses' => ?_, ?_⟩
    · exact alike key (mem_globalReferences.mpr uses) key' (mem_globalReferences.mpr uses')
    · rw [globalLine, globalRows, globals, sorted]
      split <;> rfl
  · refine .inr ⟨fun orderly => ?_, key'.constant.typeName, key.constant.typeName, ?_⟩
    · exact differ (orderly key key' (mem_globalReferences.mp member) (mem_globalReferences.mp member'))
    · obtain ⟨kept, listed, _⟩ := @Constant.union_covers [] _ _ member
      have filled : function.globals.isEmpty = false := by
        rw [List.isEmpty_eq_false_iff_exists_mem]
        exact ⟨kept.constant, List.mem_map_of_mem listed⟩
      rw [globalLine, filled, globals, failed]
      rfl

end Function

end LuaBytecode.V52
