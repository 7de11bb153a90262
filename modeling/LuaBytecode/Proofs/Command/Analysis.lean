import LuaBytecode.Command.Direct
import LuaBytecode.Command.Lua52
import LuaBytecode.Proofs.V51.Globals
import LuaBytecode.Proofs.V52.Content
import LuaBytecode.Proofs.V52.Report
import LuaBytecode.V51.Writing
/-!
Which analyses are complete. Globals are named by constants of any type, and they are sorted before they are shown.
An analysis of version 5.1 sorts the globals of all functions together, one of version 5.2 those of each function on
its own; either ends early if what it sorts has no order.
-/
namespace LuaBytecode

namespace V51

def Orderly (main : Prototype) : Prop :=
  ∀ index key index' key', Names main index key → Names main index' key' → key.constant.Alike key'.constant

theorem mem_references {main : Prototype} {key : Constant.Reference} :
    key ∈ references 0 main.toList ↔ ∃ index, Names main index key := by
  rw [← map_mentions, List.mem_map]
  constructor
  · rintro ⟨⟨index, _⟩, mentioned, rfl⟩
    exact ⟨index, mem_mentions.mp mentioned⟩
  · rintro ⟨index, named⟩
    exact ⟨(index, key), mem_mentions.mpr named, rfl⟩

theorem sort_globals (main : Prototype) :
    Orderly main ∧ Constant.sort (globals main) = .ok ((globals main).mergeSort Constant.atMost) ∨
      ¬ Orderly main ∧ ∃ first second, Constant.sort (globals main) = .error (first, second) := by
  rw [globals, gatherGlobals_eq]
  rcases Constant.sort_distinct (coherent_references 0 main.toList) with
    ⟨alike, sorted⟩ | ⟨key, member, key', member', differ, failed⟩
  · refine .inl ⟨fun index key index' key' named named' => ?_, sorted⟩
    exact alike key (mem_references.mpr ⟨index, named⟩) key' (mem_references.mpr ⟨index', named'⟩)
  · refine .inr ⟨fun orderly => ?_, _, _, failed⟩
    obtain ⟨index, named⟩ := mem_references.mp member
    obtain ⟨index', named'⟩ := mem_references.mp member'
    exact differ (orderly index key index' key' named named')

end V51

namespace Command

open Text

namespace Lua51

def heading (name : String) (chunk : V51.Chunk) (said : String) : String :=
  said ++ lines (["Lua 5.1 Bytecode Analysis: " ++ name, times 80 "="] ++ chunk.header.listing)

def globalHeading (main : V51.Prototype) : List String :=
  ["ANALYSIS RESULTS", times 80 "=", s!"\nGLOBAL VARIABLES USED ({(V51.globals main).length}):", times 40 "-"]

def report (main : V51.Prototype) : List String :=
  globalHeading main ++ ((V51.globals main).mergeSort Constant.atMost).map ("  - " ++ Constant.text ·) ++
    stringLines (V51.strings main) ++ functionLines (V51.functions "main" main)

theorem analysis_cases (main : V51.Prototype) :
    V51.Orderly main ∧ analysis main = (lines (report main), none) ∨
      ¬ V51.Orderly main ∧ ∃ first second,
        analysis main = (lines (globalHeading main), some (.incomparable first second)) := by
  rcases V51.sort_globals main with ⟨orderly, sorted⟩ | ⟨mixed, first, second, failed⟩
  · exact .inl ⟨orderly, by simp only [analysis, sorted]; rfl⟩
  · exact .inr ⟨mixed, first, second, by simp only [analysis, failed]; rfl⟩

section

variable {program name said : String} {words : List String} {store : Store Bytes} {bytes : Bytes} {chunk : V51.Chunk}
  {after : Input}

theorem run_complete (analyzes : "--analyze" ∈ name :: words) (found : store.read name = .ok bytes)
    (accepted : V51.parse bytes = (.ok chunk, after)) (analyzed : analysis chunk.main = (said, none)) :
    run program (name :: words) store = { said := heading name chunk after.said ++ said, store } := by
  have asked : (name :: words).contains "--analyze" = true := List.contains_iff_mem.mpr analyzes
  simp only [run, found, accepted, asked, if_true, analyzed]
  rfl

theorem run_cut {fault : Fault} (analyzes : "--analyze" ∈ name :: words) (found : store.read name = .ok bytes)
    (accepted : V51.parse bytes = (.ok chunk, after)) (analyzed : analysis chunk.main = (said, some fault)) :
    run program (name :: words) store = .traced store (heading name chunk after.said ++ said) "Error: " fault := by
  have asked : (name :: words).contains "--analyze" = true := List.contains_iff_mem.mpr analyzes
  simp only [run, found, accepted, asked, if_true, analyzed]
  rfl

end

end Lua51

namespace Lua52

def report (main : V52.Prototype) : List String :=
  ["ANALYSIS RESULTS", times 60 "-"] ++ V52.globalRows (main.levels 0) ++ V52.stringReport 0 main ++
    V52.functionReport 0 main

theorem analysis_cases (main : V52.Prototype) :
    (∀ function ∈ main.toList, function.Orderly) ∧ analysis main = (lines (report main), none) ∨
      (∃ function ∈ main.toList, ¬ function.Orderly) ∧ (analysis main).2 ≠ none := by
  rcases V52.globalReport_cases 0 main with
    ⟨orderly, complete⟩ | ⟨before, depth, function, behind, split, _, mixed, first, second, cut⟩
  · exact .inl ⟨orderly, by simp only [analysis, complete]; rfl⟩
  · have member : function ∈ main.toList := @Tree.mem_toList_of_levels _ 0 depth _ _ (by simp [split])
    exact .inr ⟨⟨function, member, mixed⟩, by simp [analysis, cut]⟩

end Lua52

theorem analysis_complete_iff_orderly (program : String) (store : Store Bytes) (level : Int) (main : V52.Prototype) :
    (∀ name words bytes chunk after, "--analyze" ∈ name :: words → store.read name = .ok bytes →
      V51.parse bytes = (.ok chunk, after) →
      V51.Orderly chunk.main ∧
          Lua51.run program (name :: words) store =
            { said := Lua51.heading name chunk after.said ++ lines (Lua51.report chunk.main), store } ∨
        ¬ V51.Orderly chunk.main ∧ ∃ first second,
          Lua51.run program (name :: words) store =
            .traced store (Lua51.heading name chunk after.said ++ lines (Lua51.globalHeading chunk.main)) "Error: "
              (.incomparable first second)) ∧
    ((∀ function ∈ main.toList, function.Orderly) ∧
        V52.globalReport level main = { lines := V52.globalRows (main.levels level) } ∨
      ∃ before depth function behind, main.levels level = before ++ (depth, function) :: behind ∧
        (∀ placed ∈ before, placed.2.Orderly) ∧ ¬ function.Orderly ∧ ∃ first second,
          V52.globalReport level main =
            { lines := V52.globalRows before, fault := some (.incomparable first second) }) ∧
    ((∀ function ∈ main.toList, function.Orderly) ∧ Lua52.analysis main = (lines (Lua52.report main), none) ∨
      (∃ function ∈ main.toList, ¬ function.Orderly) ∧ (Lua52.analysis main).2 ≠ none) := by
  refine ⟨?_, V52.globalReport_cases level main, Lua52.analysis_cases main⟩
  intro name words bytes chunk after analyzes found accepted
  rcases Lua51.analysis_cases chunk.main with ⟨orderly, analyzed⟩ | ⟨mixed, first, second, analyzed⟩
  · exact .inl ⟨orderly, Lua51.run_complete analyzes found accepted analyzed⟩
  · exact .inr ⟨mixed, first, second, Lua51.run_cut analyzes found accepted analyzed⟩

-- Two functions, each of which names one global, by a text and by a number.
def numbered : V51.Chunk where
  header :=
    { signature := V51.signature, version := 0x51, format := 0, orderFlag := 1, intWidth := 4, sizeWidth := 4,
      instructionWidth := 4, numberWidth := 8, integralFlag := 0 }
  main := .node { code := [⟨⟨0x45⟩, .getGlobal, rfl⟩], constants := [.str "print"] }
    [.node { code := [⟨⟨0x47⟩, .setGlobal, rfl⟩], constants := [.num ⟨0x3FF0000000000000⟩] } []]

def numberedStore : Store Bytes := { files := [("a.luac", V51.write numbered)] }

theorem accepted_numbered : ∃ after, V51.parse (V51.write numbered) = (.ok numbered, after) := by
  have seen : Reader.seenIn id (V51.parse (V51.write numbered)) = some numbered := by decide +kernel
  obtain ⟨chunk, after, accepted, rfl⟩ := Reader.accepted_of_seenIn seen
  exact ⟨after, accepted⟩

theorem analysis_numbered_cut :
    ¬ V51.Orderly numbered.main ∧ numberedStore.read "a.luac" = .ok (V51.write numbered) ∧
      ∃ after, V51.parse (V51.write numbered) = (.ok numbered, after) ∧ ∃ first second,
        Lua51.run "prog" ["a.luac", "--analyze"] numberedStore =
          .traced numberedStore
            (Lua51.heading "a.luac" numbered after.said ++ lines (Lua51.globalHeading numbered.main)) "Error: "
            (.incomparable first second) := by
  obtain ⟨after, accepted⟩ := accepted_numbered
  have mixed : ¬ V51.Orderly numbered.main := by
    intro orderly
    have alike := orderly 0 ⟨0, 0, .str "print"⟩ 0 ⟨1, 0, .num ⟨0x3FF0000000000000⟩⟩
      ⟨_, _, rfl, rfl, .inl rfl, by decide, rfl⟩ ⟨_, _, rfl, rfl, .inr rfl, by decide, rfl⟩
    exact absurd alike (by decide)
  rcases (analysis_complete_iff_orderly "prog" numberedStore 0 (.node {} [])).1 "a.luac" ["--analyze"] _ numbered after
    (by simp) rfl accepted with ⟨orderly, _⟩ | ⟨_, first, second, cut⟩
  · exact absurd orderly mixed
  · exact ⟨mixed, rfl, after, accepted, first, second, cut⟩

-- The outer function sets one global; the inner one takes two entries of its environment, under a number and a text.
def indexed : Tree V52.Spelled :=
  .node
    { function :=
        { maxStackSize := 2, code := V52.Read.place [⟨⟨0x25⟩, .closure, rfl⟩, ⟨⟨0x80000008⟩, .setTabUp, rfl⟩],
          constants := [.str "g"], upvalues := [{ name := "_ENV", inStack := 1, index := 0 }],
          upvalueNames := ["_ENV"] }
      spellings := [.str false "g"]
      agree := rfl }
    [.node
      { function :=
          { maxStackSize := 2, code := V52.Read.place [⟨⟨0x400046⟩, .getTabUp, rfl⟩, ⟨⟨0x404006⟩, .getTabUp, rfl⟩],
            constants := [.num ⟨0x3FF0000000000000⟩, .str "print"],
            upvalues := [{ name := "_ENV", inStack := 0, index := 0 }], upvalueNames := ["_ENV"] }
        spellings := [.num ⟨0x3FF0000000000000⟩, .str false "print"]
        agree := rfl } []]

theorem analysis_indexed_cut :
    ∃ chunk after, V52.parse (V52.write V52.usualHeader indexed) = (.ok chunk, after) ∧
      V52.globalReport 0 chunk.main =
        { lines := ["Global variables used: g"], fault := some (.incomparable "str" "float") } := by
  have seen : Reader.seenIn (fun chunk => V52.globalReport 0 chunk.main)
      (V52.parse (V52.write V52.usualHeader indexed)) =
        some { lines := ["Global variables used: g"], fault := some (.incomparable "str" "float") } := by
    decide +kernel
  exact Reader.accepted_of_seenIn seen

end Command

end LuaBytecode
