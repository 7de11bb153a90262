import LuaBytecode.Proofs.Address
import LuaBytecode.Proofs.V52.Globals

namespace LuaBytecode.V52

open Text

namespace Report

def sequence : List (Except Fault (List String)) → Report
  | [] => { lines := [] }
  | .error fault :: _ => { lines := [], fault := some fault }
  | .ok lines :: rest => append { lines } (sequence rest)

theorem append_assoc (first second third : Report) :
    (first.append second).append third = first.append (second.append third) := by
  obtain ⟨lines, fault⟩ := first
  obtain ⟨lines', fault'⟩ := second
  cases fault <;> cases fault' <;> simp [append]

theorem sequence_append (parts more : List (Except Fault (List String))) :
    sequence (parts ++ more) = (sequence parts).append (sequence more) := by
  induction parts with
  | nil => rfl
  | cons part parts ih =>
    cases part with
    | error fault => rfl
    | ok lines => rw [List.cons_append, sequence, ih, sequence, append_assoc]

variable {α : Type} {part : α → Except Fault (List String)} {rows : α → List String}

theorem sequence_map {items : List α} (whole : ∀ item ∈ items, part item = .ok (rows item)) :
    sequence (items.map part) = { lines := items.flatMap rows } := by
  induction items with
  | nil => rfl
  | cons item items ih =>
    obtain ⟨first, rest⟩ := List.forall_mem_cons.mp whole
    rw [List.map_cons, first, sequence, ih rest]
    rfl

theorem sequence_cut {before behind : List α} {item : α} {fault : Fault}
    (whole : ∀ item ∈ before, part item = .ok (rows item)) (failed : part item = .error fault) :
    sequence ((before ++ item :: behind).map part) = { lines := before.flatMap rows, fault := some fault } := by
  rw [List.map_append, sequence_append, sequence_map whole, List.map_cons, failed]
  simp [sequence, append]

end Report

mutual
theorem globalReport_eq (level : Int) (tree : Prototype) :
    globalReport level tree =
      .sequence ((tree.levels level).map fun placed => placed.2.globalLine (times placed.1 "  ")) := by
  cases tree with
  | node function inner =>
    rw [globalReport, Tree.levels, List.map_cons, globalForest_eq (level + 1) inner]
    cases function.globalLine (times level "  ") <;> rfl
theorem globalForest_eq (level : Int) (forest : List Prototype) :
    globalForest level forest =
      .sequence ((Tree.forestLevels level forest).map fun placed => placed.2.globalLine (times placed.1 "  ")) := by
  cases forest with
  | nil => rfl
  | cons tree forest =>
    rw [globalForest, Tree.forestLevels, List.map_append, Report.sequence_append, globalReport_eq level tree,
      globalForest_eq level forest]
end

theorem exists_first_exception {α : Type} (holds : α → Prop) (items : List α) :
    (∀ item ∈ items, holds item) ∨
      ∃ before item behind, items = before ++ item :: behind ∧ (∀ earlier ∈ before, holds earlier) ∧ ¬ holds item := by
  classical
  cases found : items.find? fun item => ¬ holds item with
  | none => exact .inl (by simpa using found)
  | some item =>
    obtain ⟨fails, before, behind, split, earlier⟩ := List.find?_eq_some_iff_append.mp found
    exact .inr ⟨before, item, behind, split, by simpa using earlier, by simpa using fails⟩

def globalRows (placed : List (Int × Function)) : List String :=
  placed.flatMap fun each => each.2.globalRows (times each.1 "  ")

theorem globalReport_cases (level : Int) (main : Prototype) :
    (∀ function ∈ main.toList, function.Orderly) ∧
        globalReport level main = { lines := globalRows (main.levels level) } ∨
      ∃ before depth function behind, main.levels level = before ++ (depth, function) :: behind ∧
        (∀ placed ∈ before, placed.2.Orderly) ∧ ¬ function.Orderly ∧ ∃ first second,
          globalReport level main = { lines := globalRows before, fault := some (.incomparable first second) } := by
  have whole (placed : Int × Function) (orderly : placed.2.Orderly) :
      placed.2.globalLine (times placed.1 "  ") = .ok (placed.2.globalRows (times placed.1 "  ")) := by
    rcases placed.2.globalLine_cases (times placed.1 "  ") with ⟨_, shown⟩ | ⟨mixed, _⟩
    · exact shown
    · exact absurd orderly mixed
  rw [globalReport_eq]
  rcases exists_first_exception (fun placed => placed.2.Orderly) (main.levels level) with
    all | ⟨before, ⟨depth, function⟩, behind, split, earlier, mixed⟩
  · refine .inl ⟨?_, Report.sequence_map fun placed member => whole placed (all placed member)⟩
    rw [← Tree.map_levels level main]
    exact List.forall_mem_map.mpr all
  · rcases function.globalLine_cases (times depth "  ") with ⟨orderly, _⟩ | ⟨_, first, second, failed⟩
    · exact absurd orderly mixed
    · refine .inr ⟨before, depth, function, behind, split, earlier, mixed, first, second, ?_⟩
      rw [split]
      exact Report.sequence_cut (fun placed member => whole placed (earlier placed member)) failed

end LuaBytecode.V52
