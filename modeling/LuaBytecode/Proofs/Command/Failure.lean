import LuaBytecode.Command.Selection
import LuaBytecode.Proofs.Command.Cipher
import LuaBytecode.Proofs.Recognition
/-!
How a command ends when a file that it hands to a reader is rejected. The commands for versions 5.1 to 5.4
leave with status 1; the one for LuaJIT leaves by an exit that is not bound, and the one for all versions
ends as if nothing had happened. None of them changes a file then.
-/
namespace LuaBytecode.Command

theorem error_of_rejected {α : Type} {reading : Except Fault α × Input}
    (rejected : ¬ ∃ value after, reading = (.ok value, after)) : ∃ fault after, reading = (.error fault, after) := by
  obtain ⟨result, after⟩ := reading
  cases result with
  | error fault => exact ⟨fault, after, rfl⟩
  | ok value => exact absurd ⟨value, after, rfl⟩ rejected

abbrev Reading := Dialect × String

-- The readings that words lead to; a call for help and words that cannot be understood lead to none.
def Grammar.readings (grammar : Grammar) (words : List String) (asked : Arguments → List Reading) : List Reading :=
  match grammar.request words with
  | .run arguments => asked arguments
  | .help | .misuse _ => []

theorem Grammar.request_of_reading {grammar : Grammar} {words : List String} {asked : Arguments → List Reading}
    {reading : Reading} (handed : reading ∈ grammar.readings words asked) :
    ∃ arguments, grammar.request words = .run arguments ∧ reading ∈ asked arguments := by
  unfold readings at handed
  cases request : grammar.request words with
  | help => simp [request] at handed
  | misuse misuse => simp [request] at handed
  | run arguments =>
    rw [request] at handed
    exact ⟨arguments, rfl, handed⟩

def Lua54.readings (arguments : Arguments) : List Reading :=
  match arguments.values? "compare" with
  | some [file, other] => [(.v54, file), (.v54, other)]
  | _ =>
    match arguments.argument.filter (· ≠ "") with
    | none => []
    | some path =>
      if arguments.has "decrypt" && arguments.has "encrypt" then []
      else if (arguments.has "decrypt" || arguments.has "encrypt") && (arguments.value? "key").isNone then []
      else [(.v54, path)]

-- A version alone is told without reading the file.
def Unified.readings (store : Store Bytes) (arguments : Arguments) : List Reading :=
  let task := taskOf arguments
  if task.decrypt && task.encrypt then []
  else if !task.compare.isEmpty then
    match task.compare with
    | [file, other] => [(.v54, file), (.v54, other)]
    | _ => []
  else if task.decrypt || task.encrypt then
    match nonempty task.key, nonempty task.input with
    | some _, some path => [(.v54, path)]
    | _, _ => []
  else
    match nonempty arguments.argument with
    | none => []
    | some path =>
      if arguments.has "version-only" then []
      else
        match (Detection.ofFile (store.read path)).dialect? with
        | none => []
        | some dialect => [(dialect, path)]

inductive Tool where
  | lua51
  | lua52
  | lua53
  | lua54
  | jit
  | unified
deriving DecidableEq, Repr

namespace Tool

def run : Tool → (program : String) → (words : List String) → Store Bytes → Outcome
  | lua51 => Lua51.run
  | lua52 => Lua52.run
  | lua53 => Lua53.run
  | lua54 => Lua54.run
  | jit => Jit.run
  | unified => Unified.run

def readings (words : List String) (store : Store Bytes) : Tool → List Reading
  | lua51 => (words.head?.map fun name => (Dialect.v51, name)).toList
  | lua52 => Lua52.grammar.readings words fun arguments => [(.v52, arguments.argument.getD "")]
  | lua53 => (words.head?.map fun name => (Dialect.v53, name)).toList
  | lua54 => Lua54.grammar.readings words Lua54.readings
  | jit => Jit.grammar.readings words fun arguments => [(.jit, arguments.argument.getD "")]
  | unified => Unified.grammar.readings words (Unified.readings store)

def endingOnRejection : Tool → Except Fault Nat
  | lua51 | lua52 | lua53 | lua54 => .ok 1
  | jit => .error (.unbound "sys")
  | unified => .ok 0

end Tool

variable {path program : String} {words : List String} {store : Store Bytes} {bytes : Bytes} {dialect : Dialect}

theorem Lua51.run_of_rejected (handed : (dialect, path) ∈ Tool.lua51.readings words store)
    (found : store.read path = .ok bytes) (rejected : ¬ dialect.Accepts true bytes) :
    ∃ said message fault, run program words store = .traced store said message fault := by
  cases words with
  | nil => cases handed
  | cons name more =>
    obtain ⟨rfl, rfl⟩ : dialect = .v51 ∧ path = name := by simpa [Tool.readings] using handed
    obtain ⟨fault, after, ran⟩ := error_of_rejected rejected
    exact ⟨after.said, "Error: ", fault, by simp only [run, found, ran]⟩

theorem Lua52.run_of_rejected (handed : (dialect, path) ∈ Tool.lua52.readings words store)
    (found : store.read path = .ok bytes) (rejected : ¬ dialect.Accepts true bytes) :
    ∃ said fault, run program words store = complain store said fault := by
  obtain ⟨arguments, request, named⟩ := Grammar.request_of_reading handed
  obtain ⟨rfl, rfl⟩ : dialect = .v52 ∧ path = arguments.argument.getD "" := by simpa using named
  obtain ⟨fault, after, ran⟩ := error_of_rejected rejected
  exact ⟨after.said, fault, by simp only [run, withArguments, request, process, found, ran]⟩

theorem Lua53.run_of_rejected (handed : (dialect, path) ∈ Tool.lua53.readings words store)
    (found : store.read path = .ok bytes) (rejected : ¬ dialect.Accepts true bytes) :
    ∃ said message fault, run program words store = .traced store said message fault := by
  cases words with
  | nil => cases handed
  | cons name more =>
    obtain ⟨rfl, rfl⟩ : dialect = .v53 ∧ path = name := by simpa [Tool.readings] using handed
    obtain ⟨fault, after, ran⟩ := error_of_rejected rejected
    refine ⟨(Inspection.ofV53 path bytes).said, "错误: ", fault, ?_⟩
    simp only [run, Inspection.ofFile, found, Inspection.ofBytes, Inspection.ofV53, Inspection.ofReading, ran]

theorem compareFiles_of_rejected {file other : String} (chosen : path = file ∨ path = other)
    (found : store.read path = .ok bytes) (rejected : ¬ Dialect.v54.Accepts true bytes) :
    ∃ fault, (V54.compareFiles file other (store.read file) (store.read other)).result = .error fault := by
  obtain ⟨fault, after, ran⟩ := error_of_rejected rejected
  cases chosen with
  | inl first =>
    subst first
    exact ⟨fault, by simp only [V54.compareFiles, found, ran]⟩
  | inr second =>
    subst second
    unfold V54.compareFiles
    dsimp only
    split
    · exact ⟨_, rfl⟩
    · split
      · exact ⟨_, rfl⟩
      · exact ⟨fault, by simp only [found, ran]⟩

namespace Lua54

theorem cases_of_reading {arguments : Arguments} (named : (dialect, path) ∈ readings arguments) :
    dialect = .v54 ∧
      ((∃ file other, arguments.values? "compare" = some [file, other] ∧ (path = file ∨ path = other)) ∨
        ((∀ file other, arguments.values? "compare" ≠ some [file, other]) ∧
          arguments.argument.filter (· ≠ "") = some path ∧
          ¬ (arguments.has "decrypt" && arguments.has "encrypt") = true ∧
          ¬ ((arguments.has "decrypt" || arguments.has "encrypt") && (arguments.value? "key").isNone) = true)) := by
  unfold readings at named
  split at named
  · rename_i file other compared
    obtain ⟨known, chosen⟩ : dialect = .v54 ∧ (path = file ∨ path = other) := by
      simpa [← and_or_left] using named
    exact ⟨known, .inl ⟨file, other, compared, chosen⟩⟩
  · rename_i alone
    split at named
    · cases named
    · rename_i given
      split at named
      · cases named
      · rename_i single
        split at named
        · cases named
        · rename_i keyed
          obtain ⟨rfl, rfl⟩ : dialect = .v54 ∧ path = _ := by simpa using named
          exact ⟨rfl, .inr ⟨alone, given, single, keyed⟩⟩

theorem run_of_rejected (handed : (dialect, path) ∈ Tool.lua54.readings words store)
    (found : store.read path = .ok bytes) (rejected : ¬ dialect.Accepts true bytes) :
    ∃ said message fault, run program words store = .traced store said message fault := by
  obtain ⟨arguments, request, named⟩ := Grammar.request_of_reading handed
  obtain ⟨rfl, used⟩ := cases_of_reading named
  simp only [run, withArguments, request]
  cases used with
  | inl pair =>
    obtain ⟨file, other, compared, chosen⟩ := pair
    obtain ⟨fault, failed⟩ := compareFiles_of_rejected chosen found rejected
    refine ⟨(V54.compareFiles file other (store.read file) (store.read other)).said, "对比过程中发生错误: ", fault, ?_⟩
    simp only [compared, compare, failed]
  | inr one =>
    obtain ⟨alone, given, single, keyed⟩ := one
    obtain ⟨fault, after, ran⟩ := error_of_rejected rejected
    refine ⟨after.said, "错误: ", fault, ?_⟩
    split
    · rename_i file other compared
      exact absurd compared (alone file other)
    · rw [given]
      simp only [if_neg single, if_neg keyed, process, found, ran]

end Lua54

theorem Jit.run_of_rejected (handed : (dialect, path) ∈ Tool.jit.readings words store)
    (found : store.read path = .ok bytes) (rejected : ¬ dialect.Accepts true bytes) :
    ∃ verbose said fault, run program words store = fail verbose false store said fault := by
  obtain ⟨arguments, request, named⟩ := Grammar.request_of_reading handed
  obtain ⟨rfl, rfl⟩ : dialect = .jit ∧ path = arguments.argument.getD "" := by simpa using named
  obtain ⟨fault, after, ran⟩ := error_of_rejected rejected
  exact ⟨arguments.has "verbose", after.said, fault, by
    simp only [run, withArguments, request, process, found, ran]⟩

namespace Unified

theorem isThere_of_read (found : store.read path = .ok bytes) : store.isThere path = true := by
  unfold Store.read at found
  unfold Store.isThere
  cases place : store.locate path with
  | file reached => rfl
  | _ => simp [place] at found

theorem not_isHopeless_of_dialect {detection : Detection} (known : detection.dialect? = some dialect) :
    detection.isHopeless = false := by
  cases detection <;> first | rfl | cases known

theorem idle_of_run_eq_none {task : Task} (none : task.run store = none) :
    task.compare.isEmpty = true ∧ (task.decrypt || task.encrypt) = false := by
  unfold Task.run at none
  split at none
  · cases none
  · rename_i empty
    split at none
    · split at none <;> cases none
    · rename_i neither
      exact ⟨by simpa using empty, by simpa using neither⟩

-- A task has no status to give, and the verdict of an inspection is not looked at.
theorem ending_of_reading (handed : (dialect, path) ∈ Tool.unified.readings words store)
    (found : store.read path = .ok bytes) : (run program words store).ending = .ok 0 := by
  obtain ⟨arguments, request, named⟩ := Grammar.request_of_reading handed
  simp only [run, withArguments, request]
  unfold readings at named
  dsimp only at named
  by_cases both : ((taskOf arguments).decrypt && (taskOf arguments).encrypt) = true
  · rw [if_pos both] at named
    cases named
  · rw [if_neg both] at named ⊢
    cases asked : (taskOf arguments).run store with
    | some done => rfl
    | none =>
      obtain ⟨uncompared, neither⟩ := idle_of_run_eq_none asked
      simp only [uncompared, neither, Bool.not_true, Bool.false_eq_true, if_false] at named
      cases given : nonempty arguments.argument with
      | none => simp [given] at named
      | some file =>
        by_cases versionOnly : arguments.has "version-only" = true
        · simp [given, versionOnly] at named
        · rw [given] at named
          simp only [if_neg versionOnly] at named
          cases known : (Detection.ofFile (store.read file)).dialect? with
          | none => simp [known] at named
          | some other =>
            obtain ⟨rfl, rfl⟩ : dialect = other ∧ path = file := by simpa [known] using named
            simp [isThere_of_read found, list, versionOnly, not_isHopeless_of_dialect known]

end Unified

theorem rejection_fails_run_iff (tool : Tool) {dialect : Dialect} {program path : String} {words : List String}
    {store : Store Bytes} {bytes : Bytes} (handed : (dialect, path) ∈ tool.readings words store)
    (found : store.read path = .ok bytes) (rejected : ¬ dialect.Accepts true bytes) :
    ((tool.run program words store).ending = .ok 1 ↔ tool ≠ .jit ∧ tool ≠ .unified) ∧
      (tool.run program words store).ending = tool.endingOnRejection ∧
      (tool.run program words store).store = store := by
  have ends : (tool.run program words store).ending = tool.endingOnRejection ∧
      (tool.run program words store).store = store := by
    cases tool with
    | lua51 =>
      obtain ⟨said, message, fault, ran⟩ := @Lua51.run_of_rejected _ program _ _ _ _ handed found rejected
      exact ⟨congrArg Outcome.ending ran, congrArg Outcome.store ran⟩
    | lua52 =>
      obtain ⟨said, fault, ran⟩ := @Lua52.run_of_rejected _ program _ _ _ _ handed found rejected
      exact ⟨congrArg Outcome.ending ran, congrArg Outcome.store ran⟩
    | lua53 =>
      obtain ⟨said, message, fault, ran⟩ := @Lua53.run_of_rejected _ program _ _ _ _ handed found rejected
      exact ⟨congrArg Outcome.ending ran, congrArg Outcome.store ran⟩
    | lua54 =>
      obtain ⟨said, message, fault, ran⟩ := @Lua54.run_of_rejected _ program _ _ _ _ handed found rejected
      exact ⟨congrArg Outcome.ending ran, congrArg Outcome.store ran⟩
    | jit =>
      obtain ⟨verbose, said, fault, ran⟩ := @Jit.run_of_rejected _ program _ _ _ _ handed found rejected
      exact ⟨congrArg Outcome.ending ran, congrArg Outcome.store ran⟩
    | unified => exact ⟨Unified.ending_of_reading handed found, Unified.run_store program words store⟩
  refine ⟨?_, ends⟩
  rw [ends.1]
  cases tool <;> simp [Tool.endingOnRejection]

-- The mark and the version of a file that ends there.
def cutHeader : Bytes := [0x1B, 0x4C, 0x75, 0x61, 0x51, 0]

def cutStore : Store Bytes := { files := [("a.luac", cutHeader)] }

theorem cutHeader_rejected : ¬ Dialect.v51.Accepts true cutHeader := by
  have fails : endOf (V51.parse cutHeader) = none := by decide +kernel
  intro accepted
  obtain ⟨chunk, after, ran⟩ := accepted
  simp [ran, endOf] at fails

theorem rejection_fails_run_cutHeader :
    (Dialect.v51, "a.luac") ∈ Tool.lua51.readings ["a.luac", "--analyze"] cutStore ∧
      cutStore.read "a.luac" = .ok cutHeader ∧ ¬ Dialect.v51.Accepts true cutHeader ∧
      (Tool.lua51.run "prog" ["a.luac", "--analyze"] cutStore).ending = .ok 1 ∧
      (Tool.lua51.run "prog" ["a.luac", "--analyze"] cutStore).store = cutStore := by
  have handed : (Dialect.v51, "a.luac") ∈ Tool.lua51.readings ["a.luac", "--analyze"] cutStore := by decide
  have found : cutStore.read "a.luac" = .ok cutHeader := rfl
  have known := @rejection_fails_run_iff .lua51 _ "prog" _ _ _ _ handed found cutHeader_rejected
  exact ⟨handed, found, cutHeader_rejected, known.1.mpr (by decide), known.2.2⟩

theorem rejection_passes_cutHeader :
    (Dialect.v51, "a.luac") ∈ Tool.unified.readings ["a.luac"] cutStore ∧
      cutStore.read "a.luac" = .ok cutHeader ∧ ¬ Dialect.v51.Accepts true cutHeader ∧
      (Tool.unified.run "prog" ["a.luac"] cutStore).ending = .ok 0 := by
  have handed : (Dialect.v51, "a.luac") ∈ Tool.unified.readings ["a.luac"] cutStore := by decide +kernel
  exact ⟨handed, rfl, cutHeader_rejected, Unified.ending_of_reading handed rfl⟩

end LuaBytecode.Command
