import LuaBytecode.Command.Direct
import LuaBytecode.Command.Jit
import LuaBytecode.Command.Lua52
import LuaBytecode.Command.Unified
import LuaBytecode.Sample.Jit
import LuaBytecode.Sample.V51
import LuaBytecode.Sample.V52
import LuaBytecode.Sample.V53
import LuaBytecode.Sample.V54
import LuaBytecode.Workload.Listing

namespace LuaBytecode.Workload

open Command

def path (name : String) : String := "bench/" ++ name

def sampleFiles (length : Int) : Except Fault (Store Bytes) := do
  let files := [
    ("a51.luac", ← Sample.V51.chunk length 1 4 1),
    ("a52.luac", ← Sample.V52.chunk length 1 8),
    ("a53.luac", ← Sample.V53.chunk length 1),
    ("a54.luac", ← Sample.V54.chunk length 1 0),
    ("jit.luac", ← Sample.Jit.dump length.toNat 1 false 100),
    ("stripped.luac", ← Sample.Jit.dump length.toNat 1 true 100),
    ("shuffled.luac", ← Sample.V54.chunk length 1 7),
    ("future.luac", V54.signature ++ [0x99, 0]),
    ("unknown.luac", [0, 1, 2, 3, 4, 5]),
    ("jit21.luac", Jit.signature ++ [2, 0, 0]),
    ("jit9.luac", Jit.signature ++ [9, 0, 0])]
  pure { files := files.map fun (name, bytes) => (path name, bytes) }

def missing : String := "/nonexistent/path/xyz"

def detected : List String :=
  ["a51.luac", "a52.luac", "a53.luac", "a54.luac", "stripped.luac", "future.luac", "unknown.luac",
    "jit21.luac", "jit9.luac"].map path ++ [missing]

def tasks : List Unified.Task :=
  let file := path "a54.luac"
  [{ compare := [file, file], output := .ok (some (path "opcode.txt")) },
    { compare := [file, "/nope"] },
    { encrypt := true, input := some file },
    { encrypt := true, key := some "key" },
    { encrypt := true, key := some "key", input := some file },
    { decrypt := true, key := some "key", input := some file },
    { decrypt := true, key := some "key", input := some "/nope" },
    {}]

def runTasks : List Unified.Task → Store Bytes → String
  | [], _ => ""
  | task :: rest, store =>
    match task.run store with
    | some done => done.said ++ runTasks rest done.store
    | none => runTasks rest store

def dispatch (length : Int) : Except Fault Summary := do
  let store ← sampleFiles length
  let versions := detected.map fun name => (Detection.ofFile (store.read name)).text
  let listings := (detected.zip versions).take 5 |>.map fun (name, version) =>
    (inspect version name (store.read name)).said
  pure (.group [.group (versions.map .text),
    .count (total (listings.map String.length) + (runTasks tasks store).length)])

structure Invocation where
  run : (program : String) → List String → Store Bytes → Outcome
  words : List String

def invocations51 : List Invocation :=
  [[path "a51.luac"], [path "a51.luac", "--analyze"], [], [path "unknown.luac"]].map
    (⟨Lua51.run, ·⟩)

def invocations52 : List Invocation :=
  [[path "a52.luac"], [path "a52.luac", "--analyze"], [path "unknown.luac"]].map (⟨Lua52.run, ·⟩)

def invocations53 : List Invocation :=
  [[path "a53.luac"], [], [path "unknown.luac"]].map (⟨Lua53.run, ·⟩)

def invocationsJit : List Invocation :=
  [[path "jit.luac"], [path "jit.luac", "-j"],
    [path "jit.luac", "-j", "-o", path "exported.json"], [path "stripped.luac"],
    [path "stripped.luac", "-o", path "listing.txt"], [path "unknown.luac", "-v"]].map
    (⟨Command.Jit.run, ·⟩)

def invocations54 : List Invocation :=
  let file := path "a54.luac"
  [[file], [], [file, "-d", "-e"], [file, "-e"],
    [file, "-e", "-k", "key", "-o", path "encrypted.luac"],
    [path "encrypted.luac", "-d", "-k", "key", "-o", path "decrypted.luac"],
    ["-c", file, path "shuffled.luac", "-o", path "relabelling.txt"],
    ["-c", file, path "unknown.luac"], [path "unknown.luac"]].map (⟨Lua54.run, ·⟩)

def invocationsUnified : List Invocation :=
  let file := path "a54.luac"
  [[], [missing], [file, "-d", "-e"], [file, "-e"], [path "jit.luac", "-v"], [file],
    [path "future.luac"], [file, "-e", "-k", "key"]].map (⟨Unified.run, ·⟩)

def invocations : List Invocation :=
  invocations51 ++ invocations52 ++ invocations53 ++ invocationsJit ++ invocations54 ++
    invocationsUnified

def runAll : List Invocation → Store Bytes → String
  | [], _ => ""
  | invocation :: rest, store =>
    let outcome := invocation.run "prog" invocation.words store
    outcome.said ++ runAll rest outcome.store

def commands (length : Int) : Except Fault Summary := do
  let store ← sampleFiles length
  pure (.lengths [invocations.length, (runAll invocations store).length])

end LuaBytecode.Workload
