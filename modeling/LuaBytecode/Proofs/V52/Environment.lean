import LuaBytecode.Proofs.Fields
import LuaBytecode.Proofs.V52.Content
import LuaBytecode.Proofs.V52.Report
/-!
Whether globals of version 5.2 are entries of the environment. What a function uses with its first upvalue is listed,
but inner functions number their upvalues as they come, so that the first one may be any variable.
-/
namespace LuaBytecode.V52

open Constant (Reference distinct)
open Text

namespace Function

def IsEnvironment (function : Function) (index : Nat) : Prop :=
  ∃ upvalue, function.upvalues[index]? = some upvalue ∧ upvalue.name = "_ENV"

def ListsEnvironment (function : Function) : Prop :=
  ∀ key, function.Holds key → (function.Lists key ↔
    ∃ index used, function.IsEnvironment index ∧ function.Uses index used ∧ used.Same key)

theorem upvalue_lt {instruction : Instruction} {upvalue operand : Nat}
    (entry : access? instruction = some (upvalue, operand)) : upvalue < 512 := by
  have a : (parts instruction.word).a < 256 := instruction.word.field_lt 6 8
  have b : (parts instruction.word).b < 512 := instruction.word.field_lt 23 9
  unfold access? at entry
  split at entry
  · obtain ⟨rfl, _⟩ := Prod.mk.inj (Option.some.inj entry)
    exact b
  · obtain ⟨rfl, _⟩ := Prod.mk.inj (Option.some.inj entry)
    omega
  · cases entry

theorem listsEnvironment_of_first {function : Function}
    (first : ∀ index < 512, function.IsEnvironment index ↔ index = 0) : function.ListsEnvironment := by
  intro key held
  rw [lists_iff held]
  constructor
  · rintro ⟨used, uses, same⟩
    exact ⟨0, used, (first 0 (by decide)).mpr rfl, uses, same⟩
  · rintro ⟨index, used, named, uses, same⟩
    have ⟨_, instruction, _, operand, entry, _⟩ := uses
    obtain rfl := (first index (upvalue_lt entry)).mp named
    exact ⟨used, uses, same⟩

theorem exists_entry {upvalue : Nat} (bound : upvalue < 512) :
    ∃ instruction : Instruction, access? instruction = some (upvalue, 256) := by
  obtain ⟨word, value⟩ : ∃ word : Word, word.value = 6 + 4194304 + upvalue * 8388608 := ⟨⟨_⟩, rfl⟩
  have number : word.number = 6 := by
    have cast := word.field_cast 0 6
    rw [value, ← Word.number] at cast
    omega
  have b : word.field 23 9 = upvalue := by
    have cast := word.field_cast 23 9
    rw [value] at cast
    omega
  have c : word.field 14 9 = 256 := by
    have cast := word.field_cast 14 9
    rw [value] at cast
    omega
  refine ⟨⟨⟨word, .getTabUp, by rw [number]; rfl⟩, 0⟩, ?_⟩
  change some (word.field 23 9, word.field 14 9) = _
  rw [b, c]

theorem first_of_listsEnvironment {function : Function} (filled : function.constants ≠ [])
    (always : ∀ code, ListsEnvironment { function with code }) {index : Nat} (bound : index < 512) :
    function.IsEnvironment index ↔ index = 0 := by
  obtain ⟨instruction, entry⟩ := exists_entry bound
  obtain ⟨constant, rest, constants⟩ := List.exists_cons_of_ne_nil filled
  have held : Holds { function with code := [instruction] } ⟨0, 0, constant⟩ := ⟨rfl, by simp [constants]⟩
  have uses : Uses { function with code := [instruction] } index ⟨0, 0, constant⟩ :=
    ⟨held, instruction, List.mem_cons_self, 256, entry, rfl, rfl⟩
  have only {other : Nat} {key : Reference} (used : Uses { function with code := [instruction] } other key) :
      other = index := by
    obtain ⟨_, instruction', member, operand, entry', _⟩ := used
    obtain rfl := List.mem_singleton.mp member
    exact (Prod.mk.inj (Option.some.inj (entry'.symm.trans entry))).1
  have listed := always [instruction] ⟨0, 0, constant⟩ held
  rw [lists_iff held] at listed
  constructor
  · intro named
    obtain ⟨used, first, _⟩ := listed.mpr ⟨index, _, named, uses, .inl ⟨rfl, rfl⟩⟩
    exact (only first).symm
  · rintro rfl
    obtain ⟨other, used, named, used', _⟩ := listed.mp ⟨_, uses, .inl ⟨rfl, rfl⟩⟩
    exact only used' ▸ named

end Function

theorem globals_of_first_upvalue {bytes : Bytes} {chunk : Chunk} {after : Input}
    (accepted : parse bytes = (.ok chunk, after)) {function : Function} (member : function ∈ chunk.main.toList) :
    NamedBy function.upvalueNames function.upvalues ∧
    (∀ key, function.Holds key → (function.Lists key ↔ ∃ used, function.Uses 0 used ∧ used.Same key)) ∧
    (∀ level depth, (depth, function) ∈ chunk.main.levels level → (globalReport level chunk.main).fault = none →
      function.globalRows (times depth "  ") ⊆ (globalReport level chunk.main).lines) ∧
    ((∀ index < 512, function.IsEnvironment index ↔ index = 0) → function.ListsEnvironment) ∧
    (function.constants ≠ [] → (∀ code, Function.ListsEnvironment { function with code }) →
      ∀ index < 512, function.IsEnvironment index ↔ index = 0) := by
  refine ⟨(isRead_of_parse accepted function member).named, fun key held => Function.lists_iff held, ?_,
    Function.listsEnvironment_of_first, fun filled always index => Function.first_of_listsEnvironment filled always⟩
  intro level depth placed faultless
  rcases globalReport_cases level chunk.main with ⟨_, report⟩ | ⟨_, _, _, _, _, _, _, _, _, report⟩
  · rw [report]
    exact fun row shown => List.mem_flatMap.mpr ⟨_, placed, shown⟩
  · rw [report] at faultless
    cases faultless

-- A function that takes an entry of a variable of the outer one, and `print` from the environment.
def capturing : Spelled where
  function :=
    { lineDefined := 2, lastLineDefined := 2, maxStackSize := 2,
      code := Read.place [⟨⟨0x400006⟩, .getTabUp, rfl⟩, ⟨⟨0xC04046⟩, .getTabUp, rfl⟩, ⟨⟨0x180001F⟩, .ret, rfl⟩,
        ⟨⟨0x80001F⟩, .ret, rfl⟩],
      constants := [.str "field", .str "print"],
      upvalues := [{ name := "x", inStack := 1, index := 0 }, { name := "_ENV", inStack := 0, index := 0 }],
      upvalueNames := ["x", "_ENV"] }
  spellings := [.str false "field", .str false "print"]
  agree := rfl

def captured : Tree Spelled :=
  .node
    { function :=
        { maxStackSize := 2,
          code := Read.place [⟨⟨0xB⟩, .newTable, rfl⟩, ⟨⟨0x65⟩, .closure, rfl⟩, ⟨⟨0x80004008⟩, .setTabUp, rfl⟩,
            ⟨⟨0x80001F⟩, .ret, rfl⟩],
          constants := [.str "f"], upvalues := [{ name := "_ENV", inStack := 1, index := 0 }],
          upvalueNames := ["_ENV"] }
      spellings := [.str false "f"]
      agree := rfl }
    [.node capturing []]

theorem accepted_captured :
    ∃ chunk after, parse (write usualHeader captured) = (.ok chunk, after) ∧
      chunk.main = captured.map Spelled.function := by
  have seen : Reader.seenIn Chunk.main (parse (write usualHeader captured)) =
      some (captured.map Spelled.function) := by decide +kernel
  exact Reader.accepted_of_seenIn seen

theorem globals_of_captured :
    ∃ chunk after, parse (write usualHeader captured) = (.ok chunk, after) ∧
      chunk.main.top.globals = [.str "f"] ∧ chunk.main.top.ListsEnvironment := by
  obtain ⟨chunk, after, accepted, main⟩ := accepted_captured
  have member : chunk.main.top ∈ chunk.main.toList := by
    rw [main]
    exact List.mem_cons_self
  have ⟨_, _, _, right, _⟩ := globals_of_first_upvalue accepted member
  refine ⟨chunk, after, accepted, by rw [main]; decide +kernel, right fun index _ => ?_⟩
  rw [main]
  constructor
  · rintro ⟨upvalue, found, _⟩
    obtain ⟨bound, _⟩ := List.getElem?_eq_some_iff.mp found
    exact Nat.lt_one_iff.mp bound
  · rintro rfl
    exact ⟨_, rfl, rfl⟩

-- The inner function lists what it takes from the variable, and not what it takes from its environment.
theorem globals_miss_environment :
    ∃ chunk after, parse (write usualHeader captured) = (.ok chunk, after) ∧
      capturing.function ∈ chunk.main.toList ∧ capturing.function.Lists ⟨0, 0, .str "field"⟩ ∧
      (¬ ∃ index used, capturing.function.IsEnvironment index ∧ capturing.function.Uses index used ∧
        used.Same ⟨0, 0, .str "field"⟩) ∧
      ¬ capturing.function.Lists ⟨0, 1, .str "print"⟩ ∧
      ∃ index used, capturing.function.IsEnvironment index ∧ capturing.function.Uses index used ∧
        used.Same ⟨0, 1, .str "print"⟩ := by
  obtain ⟨chunk, after, accepted, main⟩ := accepted_captured
  have listed : distinct capturing.function.globalReferences = [⟨0, 0, .str "field"⟩] := by decide +kernel
  have environment : capturing.function.keys 1 = [⟨0, 1, .str "print"⟩] := by decide +kernel
  have apart : ¬ Reference.Same ⟨0, 0, .str "field"⟩ ⟨0, 1, .str "print"⟩ ∧
      ¬ Reference.Same ⟨0, 1, .str "print"⟩ ⟨0, 0, .str "field"⟩ := by
    rw [← Reference.same_iff, ← Reference.same_iff]
    decide +kernel
  refine ⟨chunk, after, accepted, ?_, ⟨_, by rw [listed]; exact List.mem_cons_self, .inl ⟨rfl, rfl⟩⟩, ?_, ?_, ?_⟩
  · rw [main]
    exact List.mem_cons_of_mem _ List.mem_cons_self
  · rintro ⟨index, used, ⟨upvalue, found, named⟩, uses, same⟩
    have second : index = 1 := by
      rcases index with _ | _ | index
      · cases found
        exact absurd named (by decide)
      · rfl
      · cases found
    rw [second, ← Function.mem_keys, environment, List.mem_singleton] at uses
    exact apart.2 (uses ▸ same)
  · rintro ⟨kept, member, same⟩
    rw [listed, List.mem_singleton] at member
    exact apart.1 (member ▸ same)
  · refine ⟨1, ⟨0, 1, .str "print"⟩, ⟨_, rfl, rfl⟩, ?_, .inl ⟨rfl, rfl⟩⟩
    rw [← Function.mem_keys, environment]
    exact List.mem_cons_self

end LuaBytecode.V52
