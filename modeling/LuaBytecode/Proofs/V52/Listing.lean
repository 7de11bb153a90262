import LuaBytecode.Proofs.Address
import LuaBytecode.Proofs.Double
import LuaBytecode.Proofs.V52.Content
import LuaBytecode.Proofs.V52.Disassembly
import LuaBytecode.V52.Listing
/-!
Listings of version 5.2 of accepted chunks. A whole number can have a text only if it has a nearest double; what a
chunk holds comes from a double and is one, so that a listing of what was read always succeeds.
-/
namespace LuaBytecode.V52

open Reader Text

theorem int_shown {n : Int} (held : IsHeld (.int n)) :
    ∃ x, Double.ofInt? n = some x ∧ x.equalsInt n = true ∧ constantText (.int n) = .ok (x.general 14) := by
  obtain ⟨value, whole⟩ := held
  obtain ⟨x, nearest, same⟩ := Double.ofInt?_of_trunc? whole
  exact ⟨x, nearest, same, by rw [constantText, nearest]⟩

example : constantText (.int (2 ^ 1024)) = .error .intToFloat := by decide +kernel

theorem constant_shown {constant : Constant} (held : IsHeld constant) : ∃ text, constantText constant = .ok text := by
  cases constant with
  | int n =>
    obtain ⟨x, _, _, shown⟩ := int_shown held
    exact ⟨_, shown⟩
  | emptyList => exact held.elim
  | nil => exact ⟨_, rfl⟩
  | bool value => exact ⟨_, rfl⟩
  | num value => exact ⟨_, rfl⟩
  | str text => exact ⟨_, rfl⟩

def loaded (constants : List Constant) (slot : Nat) : Except Fault String :=
  ((constants[slot]?).map constantText).getD (.ok "?")

theorem operands_loadK (constants : List Constant) {instruction : Instruction} (loads : instruction.opcode = .loadK) :
    operands constants instruction =
      let word := parts instruction.word
      (loaded constants word.bx).map (s!"{r word.a} K({word.bx})               ; {r word.a} := " ++ ·) := by
  simp only [operands, loads, loaded]
  cases constants[(parts instruction.word).bx]? with
  | none => rfl
  | some constant =>
    simp only [Option.map_some, Option.getD_some]
    cases constantText constant <;> rfl

theorem loaded_total {constants : List Constant} (held : ∀ constant ∈ constants, IsHeld constant) (slot : Nat) :
    ∃ text, loaded constants slot = .ok text := by
  cases found : constants[slot]? with
  | none => exact ⟨"?", by simp [loaded, found]⟩
  | some constant =>
    obtain ⟨text, shown⟩ := constant_shown (held constant (List.mem_of_getElem? found))
    exact ⟨text, by simp [loaded, found, shown]⟩

theorem disassemble_total {constants : List Constant} (held : ∀ constant ∈ constants, IsHeld constant)
    (instruction : Instruction) : ∃ text, disassemble constants instruction = .ok text := by
  by_cases loads : instruction.opcode = .loadK
  · obtain ⟨shown, found⟩ := loaded_total held (parts instruction.word).bx
    simp only [disassemble, operands_loadK constants loads, found]
    exact ⟨_, rfl⟩
  · obtain ⟨⟨word, opcode, known⟩, pc⟩ := instruction
    cases opcode
    case loadK => exact absurd rfl loads
    all_goals exact ⟨_, rfl⟩

theorem loaded_suffix {constants : List Constant} {instruction : Instruction} {text : String}
    (loads : instruction.opcode = .loadK) (returned : disassemble constants instruction = .ok text) :
    ∃ shown, loaded constants (parts instruction.word).bx = .ok shown ∧ shown.toList <:+ text.toList := by
  simp only [disassemble, operands_loadK constants loads] at returned
  cases found : loaded constants (parts instruction.word).bx with
  | error fault =>
    rw [found] at returned
    cases returned
  | ok shown =>
    rw [found] at returned
    obtain rfl := Except.ok.inj returned
    refine ⟨shown, rfl, ?_⟩
    rw [String.toList_append, @String.toList_append _ shown]
    exact (List.suffix_append _ _).trans (List.suffix_append _ _)

structure Function.ShownIn (function : Function) (margin : String) (rows : List String) : Prop where
  constants : ∀ (index : Nat) constant, function.constants[index]? = some constant → ∃ text,
    constantText constant = .ok text ∧ margin ++ (s!"  {index}: " ++ text) ∈ rows
  code : ∀ (index : Nat) instruction, function.code[index]? = some instruction → ∃ text,
    disassemble function.constants { instruction with pc := index + 1 } = .ok text ∧
      margin ++ ("  " ++ padLeft 4 (toString index) ++ ": " ++ text) ∈ rows

theorem Function.ShownIn.mono {function : Function} {margin : String} {rows more : List String}
    (shown : function.ShownIn margin rows) (within : rows ⊆ more) : function.ShownIn margin more where
  constants index constant found := by
    obtain ⟨text, known, row⟩ := shown.constants index constant found
    exact ⟨text, known, within row⟩
  code index instruction found := by
    obtain ⟨text, known, row⟩ := shown.code index instruction found
    exact ⟨text, known, within row⟩

theorem mapM_each {α β : Type} {f : α → Except Fault β} (items : List α)
    (each : ∀ item ∈ items, ∃ value, f item = .ok value) :
    ∃ values, items.mapM f = .ok values ∧
      ∀ (index : Nat) item value, items[index]? = some item → f item = .ok value → values[index]? = some value := by
  induction items with
  | nil => exact ⟨[], rfl, by simp⟩
  | cons first items ih =>
    obtain ⟨value, known⟩ := each first List.mem_cons_self
    obtain ⟨values, later, placed⟩ := ih fun item member => each item (List.mem_cons_of_mem first member)
    refine ⟨value :: values, by rw [List.mapM_cons, known, later]; rfl, ?_⟩
    intro index item other found shown
    cases index with
    | zero =>
      cases found
      rw [known] at shown
      cases shown
      rfl
    | succ index => exact placed index item other found shown

theorem mem_block {margin row : String} {rows : List String} (member : row ∈ rows) :
    margin ++ row ∈ block margin rows := by
  cases rows with
  | nil => cases member
  | cons first rows => exact List.mem_append_left _ (List.mem_map_of_mem member)

theorem constantLines_total {function : Function} (held : ∀ constant ∈ function.constants, IsHeld constant) :
    ∃ rows, function.constantLines = .ok rows ∧
      ∀ (index : Nat) constant, function.constants[index]? = some constant → ∃ text,
        constantText constant = .ok text ∧ s!"  {index}: " ++ text ∈ rows := by
  obtain ⟨texts, shown, placed⟩ := mapM_each function.constants fun constant member =>
    constant_shown (held constant member)
  by_cases none : function.constants = []
  · refine ⟨[], by simp [Function.constantLines, none], ?_⟩
    simp [none]
  · refine ⟨_, by simp only [Function.constantLines, List.isEmpty_iff, none, if_false, shown]; rfl, ?_⟩
    intro index constant found
    obtain ⟨text, known⟩ := constant_shown (held constant (List.mem_of_getElem? found))
    refine ⟨text, known, List.mem_cons_of_mem _ (@List.mem_of_getElem? _ _ index _ ?_)⟩
    rw [List.getElem?_mapIdx, placed index constant text found known]
    rfl

theorem codeLines_total {function : Function} (held : ∀ constant ∈ function.constants, IsHeld constant)
    (numbered : Numbered function.code) :
    ∃ rows, function.codeLines = .ok rows ∧
      ∀ (index : Nat) instruction, function.code[index]? = some instruction → ∃ text,
        disassemble function.constants { instruction with pc := index + 1 } = .ok text ∧
          "  " ++ padLeft 4 (toString index) ++ ": " ++ text ∈ rows := by
  obtain ⟨texts, shown, placed⟩ := mapM_each function.code fun instruction _ => disassemble_total held instruction
  refine ⟨_, by simp only [Function.codeLines, shown]; rfl, ?_⟩
  intro index instruction found
  obtain ⟨text, known⟩ := disassemble_total held instruction
  rw [← numbered index instruction found]
  refine ⟨text, known, List.mem_cons_of_mem _ (@List.mem_of_getElem? _ _ index _ ?_)⟩
  rw [List.getElem?_mapIdx, placed index instruction text found known]
  rfl

mutual
theorem listing_shows (indent : Int) (tree : Prototype)
    (read : ∀ function ∈ tree.toList, function.IsRead) :
    ∃ rows, listing indent tree = .ok rows ∧
      ∀ level function, (level, function) ∈ tree.levels indent → function.ShownIn (times level "  ") rows := by
  cases tree with
  | node own inner =>
    obtain ⟨constants, constantRows, constantsShown⟩ := constantLines_total (read own List.mem_cons_self).constants
    obtain ⟨code, codeRows, codeShown⟩ := codeLines_total (read own List.mem_cons_self).constants
      (read own List.mem_cons_self).numbered
    obtain ⟨rest, innerRows, innerShown⟩ := forestListing_shows indent 0 inner fun function member =>
      read function (List.mem_cons_of_mem own member)
    refine ⟨_, by rw [listing, constantRows, codeRows, innerRows]; rfl, ?_⟩
    intro level function member
    rcases List.mem_cons.mp member with same | below
    · cases same
      constructor
      · intro index constant found
        obtain ⟨text, known, row⟩ := constantsShown index constant found
        have printed := @mem_block (times indent "  ") _ _ row
        exact ⟨text, known, by simp only [List.mem_append, printed, true_or, or_true]⟩
      · intro index instruction found
        obtain ⟨text, known, row⟩ := codeShown index instruction found
        have printed := @mem_block (times indent "  ") _ _ row
        exact ⟨text, known, by simp only [List.mem_append, printed, true_or, or_true]⟩
    · exact (innerShown level function below).mono (List.subset_append_right _ rest)
theorem forestListing_shows (indent : Int) (index : Nat) (forest : List Prototype)
    (read : ∀ function ∈ Tree.listOfForest forest, function.IsRead) :
    ∃ rows, forestListing indent index forest = .ok rows ∧
      ∀ level function, (level, function) ∈ Tree.forestLevels (indent + 1) forest →
        function.ShownIn (times level "  ") rows := by
  cases forest with
  | nil => exact ⟨[], rfl, by simp [Tree.forestLevels]⟩
  | cons tree forest =>
    obtain ⟨first, firstRows, firstShown⟩ := listing_shows (indent + 1) tree fun function member =>
      read function (List.mem_append_left _ member)
    obtain ⟨rest, restRows, restShown⟩ := forestListing_shows indent (index + 1) forest fun function member =>
      read function (List.mem_append_right _ member)
    refine ⟨_, by rw [forestListing, firstRows, restRows]; rfl, ?_⟩
    intro level function member
    rcases List.mem_append.mp member with here | later
    · exact (firstShown level function here).mono fun row known => by simp [known]
    · exact (restShown level function later).mono fun row known => by simp [known]
end

theorem listing_total {bytes : Bytes} {chunk : Chunk} {after : Input} (accepted : parse bytes = (.ok chunk, after))
    (indent : Int) :
    ∃ rows, listing indent chunk.main = .ok rows ∧
      ∀ level function, (level, function) ∈ chunk.main.levels indent →
        function.ShownIn (times level "  ") rows ∧
        (∀ n, .int n ∈ function.constants →
          ∃ x, Double.ofInt? n = some x ∧ x.equalsInt n = true ∧ constantText (.int n) = .ok (x.general 14)) ∧
        ∀ instruction ∈ function.code, ∀ place, ∃ text rest,
          disassemble function.constants { instruction with pc := place } = .ok text ∧
          text.toList = (padRight 12 instruction.opcode.name).toList ++ ' ' :: (spaced (words instruction) ++ rest) ∧
          (instruction.opcode = .loadK →
            ∃ shown, loaded function.constants (parts instruction.word).bx = .ok shown ∧
              shown.toList <:+ text.toList) := by
  have read := isRead_of_parse accepted
  obtain ⟨rows, listed, shown⟩ := listing_shows indent chunk.main read
  refine ⟨rows, listed, ?_⟩
  intro level function member
  have held := (read function (Tree.mem_toList_of_levels member)).constants
  refine ⟨shown level function member, fun n constant => int_shown (held _ constant), ?_⟩
  intro instruction _ place
  obtain ⟨text, returned⟩ := disassemble_total held { instruction with pc := place }
  obtain ⟨rest, begins⟩ := disassemble_begins returned
  exact ⟨text, rest, returned, begins, fun loads => @loaded_suffix _ { instruction with pc := place } _ loads returned⟩

-- The largest double as a whole number, a slot without a constant, and an inner function that loads a truth value.
def loading : Tree Spelled :=
  .node
    { function :=
        { maxStackSize := 2, code := Read.place [⟨⟨1⟩, .loadK, rfl⟩, ⟨⟨0x1C041⟩, .loadK, rfl⟩],
          constants := [.int (2 ^ 1024 - 2 ^ 971)] }
      spellings := [.whole ⟨0x7FEFFFFFFFFFFFFF⟩ (2 ^ 1024 - 2 ^ 971) (by decide +kernel)]
      agree := rfl }
    [.node
      { function := { maxStackSize := 1, code := Read.place [⟨⟨1⟩, .loadK, rfl⟩], constants := [.bool true] }
        spellings := [.bool true]
        agree := rfl } []]

theorem listing_total_loading :
    ∃ chunk after rows, parse (write usualHeader loading) = (.ok chunk, after) ∧
      chunk.main = loading.map Spelled.function ∧ listing 1 chunk.main = .ok rows ∧
      "    0: 1.7976931348623e+308" ∈ rows ∧
      "       1: LOADK        R(1) K(7)               ; R(1) := ?" ∈ rows ∧
      "         0: LOADK        R(0) K(0)               ; R(0) := true" ∈ rows := by
  have seen : seenIn Chunk.main (parse (write usualHeader loading)) = some (loading.map Spelled.function) := by
    decide +kernel
  obtain ⟨chunk, after, accepted, main⟩ := accepted_of_seenIn seen
  obtain ⟨rows, listed, shown⟩ := listing_total accepted 1
  rw [main] at shown
  have outer := (shown 1 _ List.mem_cons_self).1
  have inner := (shown 2 _ (List.mem_cons_of_mem _ List.mem_cons_self)).1
  refine ⟨chunk, after, rows, accepted, main, listed, ?_, ?_, ?_⟩
  · obtain ⟨text, known, row⟩ := outer.constants 0 (.int (2 ^ 1024 - 2 ^ 971)) rfl
    have largest : constantText (.int (2 ^ 1024 - 2 ^ 971)) = .ok "1.7976931348623e+308" := by decide +kernel
    obtain rfl := Except.ok.inj (known.symm.trans largest)
    exact row
  · obtain ⟨text, known, row⟩ := outer.code 1 ⟨⟨⟨0x1C041⟩, .loadK, rfl⟩, 2⟩ rfl
    obtain rfl := Except.ok.inj known
    exact row
  · obtain ⟨text, known, row⟩ := inner.code 0 ⟨⟨⟨1⟩, .loadK, rfl⟩, 1⟩ rfl
    obtain rfl := Except.ok.inj known
    exact row

end LuaBytecode.V52
