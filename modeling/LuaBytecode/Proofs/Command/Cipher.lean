import LuaBytecode.Command.Unified
import LuaBytecode.Proofs.Command.Arguments
import LuaBytecode.Proofs.V54.Encryption
/-!
Encryption and decryption by two commands. The command for version 5.4 writes a file; the command for all
versions has no option for an output and never writes anything.
-/
namespace LuaBytecode.Command

def cipherWords (decrypt : Bool) (path key : String) : List String :=
  [path, if decrypt then "-d" else "-e", "-k", key]

def afterWrite (store : Store Bytes) (path : String) (bytes : Bytes) : Store Bytes :=
  match store.write path bytes with
  | .ok written => written
  | .error _ => store

theorem afterWrite_of_ok {store written : Store Bytes} {path : String} {bytes : Bytes}
    (wrote : store.write path bytes = .ok written) : afterWrite store path bytes = written := by
  simp only [afterWrite, wrote]

namespace Lua54

def modeFlag (decrypt : Bool) : Flag :=
  if decrypt then { short := some 'd', long := "decrypt" } else { short := some 'e', long := "encrypt" }

def keyFlag : Flag := { short := some 'k', long := "key", valueCount := 1 }

def ciphering (decrypt : Bool) (path key : String) : Arguments where
  found := [(modeFlag decrypt, []), (keyFlag, [key])]
  argument := some path

theorem token_mode (decrypt : Bool) :
    grammar.token (if decrypt then "-d" else "-e") = .ok (.flag (modeFlag decrypt) true none) := by
  cases decrypt <;> rfl

theorem token_key : grammar.token "-k" = .ok (.flag keyFlag true none) := rfl

theorem tokens_options (decrypt : Bool) (key : String) :
    grammar.tokens [if decrypt then "-d" else "-e", "-k", key] =
      (grammar.tokens [key]).map fun last => .flag (modeFlag decrypt) true none :: .flag keyFlag true none :: last := by
  have other : (if decrypt then "-d" else "-e") ≠ "--" := by cases decrypt <;> decide
  rw [Grammar.tokens, if_neg other, token_mode, Grammar.tokens, if_neg (by decide), token_key]
  cases grammar.tokens [key] <;> rfl

theorem tokens_single {key : String} {tokens : List Token} (known : grammar.tokens [key] = .ok tokens) :
    ∃ last, tokens = [last] ∧ (last = .separator ∨ grammar.token key = .ok last) := by
  rw [Grammar.tokens] at known
  split at known
  · cases known
    exact ⟨.separator, rfl, .inl rfl⟩
  · cases word : grammar.token key with
    | error misuse => simp [word] at known
    | ok last =>
      simp only [word, Grammar.tokens, Except.ok.injEq] at known
      exact ⟨last, known.symm, .inr rfl⟩

theorem collect_options (decrypt : Bool) (progress : Progress) (last : Token) :
    grammar.collect 0 progress [.flag (modeFlag decrypt) true none, .flag keyFlag true none, last] =
      match last with
      | .plain key => grammar.finish { progress with
          arguments := { progress.arguments with
            found := progress.arguments.found ++ [(modeFlag decrypt, []), (keyFlag, [key])] } }
      | _ => .misuse (.missingValues "-k" 1) := by
  cases decrypt <;> cases last <;>
    simp [Grammar.collect, Grammar.groupOf, Flag.takeValues, takePlain, modeFlag, keyFlag, Flag.help, Flag.spelled]

theorem eq_of_finish {progress : Progress} {arguments : Arguments} (done : grammar.finish progress = .run arguments) :
    progress.extras = [] ∧ arguments = progress.arguments := by
  cases left : progress.extras with
  | nil => simpa [Grammar.finish, grammar, left, eq_comm] using done
  | cons extra extras => simp [Grammar.finish, grammar, left] at done

theorem run_of_options {decrypt : Bool} {progress : Progress} {last : Token} {arguments : Arguments}
    (done : grammar.collect 0 progress [.flag (modeFlag decrypt) true none, .flag keyFlag true none, last] =
      .run arguments) :
    progress.extras = [] ∧ ∃ key, last = .plain key ∧ arguments = { progress.arguments with
      found := progress.arguments.found ++ [(modeFlag decrypt, []), (keyFlag, [key])] } := by
  rw [collect_options] at done
  cases last with
  | plain key =>
    obtain ⟨none, same⟩ := eq_of_finish done
    exact ⟨none, key, rfl, same⟩
  | separator => cases done
  | flag flag isShort attached => cases done
  | unknown text => cases done

theorem request_cases {decrypt : Bool} {path key : String} {arguments : Arguments}
    (asked : grammar.request (cipherWords decrypt path key) = .run arguments) :
    (grammar.IsPlain path ∧ grammar.IsPlain key ∧ arguments = ciphering decrypt path key) ∨
      arguments.argument = none ∧ ∀ each ∈ arguments.found, each.2.length ≤ 1 := by
  unfold Grammar.request cipherWords at asked
  rw [Grammar.tokens] at asked
  by_cases dashes : path = "--"
  · simp [dashes, Grammar.collect, Grammar.afterSeparator, Grammar.finish, Progress.fill] at asked
  rw [if_neg dashes, tokens_options] at asked
  cases front : grammar.token path with
  | error misuse => simp [front] at asked
  | ok first =>
    cases back : grammar.tokens [key] with
    | error misuse => simp [front, back, Except.map] at asked
    | ok tokens =>
      obtain ⟨last, rfl, known⟩ := tokens_single back
      simp only [front, back, Except.map] at asked
      rcases Grammar.token_cases front with rfl | rfl | ⟨flag, isShort, attached, rfl⟩
      · left
        obtain ⟨_, word, rfl, rfl⟩ := run_of_options asked
        have plain : grammar.token key = .ok (.plain word) := known.resolve_left nofun
        obtain rfl : word = key := by simpa using Grammar.token_cases plain
        exact ⟨front, plain, rfl⟩
      · obtain ⟨impossible, _⟩ := run_of_options asked
        simp at impossible
      · right
        rw [Grammar.collect] at asked
        cases taken : grammar.groupOf flag isShort attached
            [.flag (modeFlag decrypt) true none, .flag keyFlag true none, last] with
        | error misuse => simp [taken] at asked
        | ok group =>
          have modest := Grammar.groupOf_modest taken
          simp only [taken, modest.taken] at asked
          split at asked
          · cases asked
          · obtain ⟨_, word, _, rfl⟩ := run_of_options asked
            refine ⟨rfl, ?_⟩
            intro each member
            simp only [List.nil_append, List.mem_append, List.mem_cons, List.not_mem_nil, or_false] at member
            rcases member with early | rfl | rfl
            · exact modest.single each early
            · exact Nat.zero_le 1
            · exact Nat.le_refl 1

theorem request_plain {decrypt : Bool} {path key : String} (pathPlain : grammar.IsPlain path)
    (keyPlain : grammar.IsPlain key) :
    grammar.request (cipherWords decrypt path key) = .run (ciphering decrypt path key) := by
  have word : ∀ {text : String}, grammar.IsPlain text → text ≠ "--" := by
    intro text plain dashes
    subst dashes
    cases (show grammar.token "--" = .error (.ambiguous "--") from rfl).symm.trans plain
  rw [Grammar.request, cipherWords, Grammar.tokens, if_neg (word pathPlain), tokens_options, Grammar.tokens,
    if_neg (word keyPlain), pathPlain, keyPlain]
  show grammar.collect 0 (Progress.fill {} path) _ = _
  rw [collect_options]
  rfl

def target (decrypt : Bool) (path : String) : String :=
  baseName path ++ if decrypt then "_decrypt.luac" else "_encrypt.luac"

theorem run_store_of_no_argument {words : List String} {arguments : Arguments} (program : String) (store : Store Bytes)
    (asked : grammar.request words = .run arguments) (none : arguments.argument = none)
    (single : ∀ each ∈ arguments.found, each.2.length ≤ 1) : (run program words store).store = store := by
  have alone : ∀ file other, arguments.values? "compare" ≠ some [file, other] := by
    intro file other same
    obtain ⟨each, found, values⟩ := Option.map_eq_some_iff.mp same
    have short := single each (List.mem_reverse.mp (List.mem_of_find?_eq_some found))
    rw [values] at short
    exact absurd short (by simp)
  -- Without two files to compare, the other arm of the match is taken.
  simp only [run, withArguments, asked, none, Option.filter_none]
  rfl

-- A path or a key that looks like an option leaves the command without a file to read.
theorem run_store_of_not_plain {decrypt : Bool} {path key : String} (program : String) (store : Store Bytes)
    (other : ¬ (grammar.IsPlain path ∧ grammar.IsPlain key)) :
    (run program (cipherWords decrypt path key) store).store = store := by
  cases asked : grammar.request (cipherWords decrypt path key) with
  | help => simp [run, withArguments, asked]
  | misuse misuse => simp [run, withArguments, asked]
  | run arguments =>
    cases request_cases asked with
    | inl plain => exact absurd ⟨plain.1, plain.2.1⟩ other
    | inr unfilled => exact run_store_of_no_argument program store asked unfilled.1 unfilled.2

theorem value?_ciphering {decrypt : Bool} {path key : String} (keyed : key ≠ "") :
    (ciphering decrypt path key).value? "key" = some key := by
  have values : (ciphering decrypt path key).values? "key" = some [key] := by cases decrypt <;> rfl
  rw [Arguments.value?, values]
  exact if_neg keyed

theorem save_of_recoded {key bytes : Bytes} {tree : V54.Prototype} (path : String) (store : Store Bytes)
    (made : V54.recoded key tree = .ok bytes) :
    (save (({ main := some tree } : V54.Session).writeEncrypted key).2 path store).1 = afterWrite store path bytes := by
  unfold V54.recoded Emission.toExcept at made
  split at made
  · rw [save, afterWrite, Except.ok.inj made]
    cases store.write path bytes <;> rfl
  · cases made

theorem process_store {decrypt : Bool} {path key : String} {store : Store Bytes} {file bytes : Bytes}
    {chunk : V54.Chunk} {after : Input} (found : store.read path = .ok file)
    (accepted : V54.parse true file = (.ok chunk, after))
    (made : V54.recoded (Text.Utf8.encode key) chunk.main = .ok bytes) :
    (process decrypt (some key) none path store).store = afterWrite store (target decrypt path) bytes := by
  rw [← save_of_recoded (target decrypt path) store made]
  simp only [process, found, accepted, Option.getD_none, target]
  split
  · rename_i saved
    rw [saved]
    rfl
  · rename_i saved
    rw [saved]

theorem run_store_of_plain {decrypt : Bool} {path key : String} {store : Store Bytes} {file bytes : Bytes}
    {chunk : V54.Chunk} {after : Input} (program : String) (pathPlain : grammar.IsPlain path)
    (keyPlain : grammar.IsPlain key) (found : store.read path = .ok file)
    (accepted : V54.parse true file = (.ok chunk, after)) (keyed : key ≠ "")
    (made : V54.recoded (Text.Utf8.encode key) chunk.main = .ok bytes) :
    (run program (cipherWords decrypt path key) store).store = afterWrite store (target decrypt path) bytes := by
  have named : path ≠ "" := by
    intro none
    subst none
    cases found
  have compared : (ciphering decrypt path key).values? "compare" = none := by cases decrypt <;> rfl
  have output : (ciphering decrypt path key).value? "output" = none := by cases decrypt <;> rfl
  have decrypts : (ciphering decrypt path key).has "decrypt" = decrypt := by cases decrypt <;> rfl
  have encrypts : (ciphering decrypt path key).has "encrypt" = !decrypt := by cases decrypt <;> rfl
  have argument : (ciphering decrypt path key).argument.filter (· ≠ "") = some path := by
    simp [ciphering, named]
  rw [← process_store found accepted made]
  simp only [run, withArguments, request_plain pathPlain keyPlain, compared, output, decrypts, encrypts, argument,
    value?_ciphering keyed]
  cases decrypt <;> rfl

end Lua54

namespace Unified

theorem runCompare_store (arguments : Arguments) (store : Store Bytes) :
    ((taskOf arguments).runCompare store).store = store := by
  unfold Task.runCompare
  dsimp only
  split
  · rfl
  · split
    · rfl
    · rfl
    · rename_i missing
      cases missing

theorem runCipher_store (arguments : Arguments) (key path : String) (store : Store Bytes) :
    ((taskOf arguments).runCipher key path store).store = store := by
  unfold Task.runCipher
  dsimp only
  split
  · rfl
  · split
    · rfl
    · rfl
    · rename_i missing
      cases missing

theorem task_store {arguments : Arguments} {store : Store Bytes} {done : Done}
    (asked : (taskOf arguments).run store = some done) : done.store = store := by
  unfold Task.run at asked
  split at asked
  · cases asked
    exact runCompare_store arguments store
  · split at asked
    · split at asked
      · cases asked
        rfl
      · cases asked
        rfl
      · cases asked
        exact runCipher_store arguments _ _ store
    · cases asked

theorem list_store (versionOnly : Bool) (path : String) (store : Store Bytes) :
    (list versionOnly path store).store = store := by
  unfold list
  dsimp only
  split
  · rfl
  · split <;> rfl

theorem run_store (program : String) (words : List String) (store : Store Bytes) :
    (run program words store).store = store := by
  unfold run withArguments
  cases grammar.request words with
  | help => rfl
  | misuse misuse => rfl
  | run arguments =>
    dsimp only
    split
    · rfl
    · cases asked : (taskOf arguments).run store with
      | some done => exact task_store asked
      | none =>
        dsimp only
        split
        · rfl
        · split
          · exact list_store _ _ store
          · rfl

end Unified

theorem encode_ne_nil {key : String} (keyed : key ≠ "") : Text.Utf8.encode key ≠ [] := by
  intro empty
  have text := Text.Utf8.decodeReplacing_encode key
  rw [empty] at text
  exact keyed text.symm

theorem cipher_stores_agree_iff {program other path key : String} (decrypt : Bool) {store : Store Bytes} {file : Bytes}
    {chunk : V54.Chunk} {after : Input} (found : store.read path = .ok file) (small : V54.Small file)
    (accepted : V54.parse true file = (.ok chunk, after)) (few : chunk.main.top.upvalues.length ≤ 255)
    (keyed : key ≠ "") :
    ∃ bytes, V54.recoded (Text.Utf8.encode key) chunk.main = .ok bytes ∧
      (Unified.run program (cipherWords decrypt path key) store).store = store ∧
      (Lua54.grammar.IsPlain path → Lua54.grammar.IsPlain key →
        ∀ written, store.write (Lua54.target decrypt path) bytes = .ok written →
          (Lua54.run other (cipherWords decrypt path key) store).store = written) ∧
      ((Unified.run program (cipherWords decrypt path key) store).store =
          (Lua54.run other (cipherWords decrypt path key) store).store ↔
        (Lua54.grammar.IsPlain path → Lua54.grammar.IsPlain key →
          ∀ written, store.write (Lua54.target decrypt path) bytes = .ok written → written = store)) := by
  obtain ⟨every, _⟩ := V54.parse_accepted small accepted
  obtain ⟨bytes, made⟩ : ∃ bytes, V54.recoded (Text.Utf8.encode key) chunk.main = .ok bytes :=
    ⟨_, V54.recoded_eq _ (encode_ne_nil keyed) chunk.main every few⟩
  have writes : ∀ written, Lua54.grammar.IsPlain path → Lua54.grammar.IsPlain key →
      store.write (Lua54.target decrypt path) bytes = .ok written →
        (Lua54.run other (cipherWords decrypt path key) store).store = written := by
    intro written pathPlain keyPlain wrote
    rw [Lua54.run_store_of_plain other pathPlain keyPlain found accepted keyed made, afterWrite_of_ok wrote]
  refine ⟨bytes, made, Unified.run_store _ _ _, fun pathPlain keyPlain written => writes written pathPlain keyPlain, ?_⟩
  rw [Unified.run_store]
  constructor
  · intro same pathPlain keyPlain written wrote
    rw [same, writes written pathPlain keyPlain wrote]
  · intro idle
    by_cases plain : Lua54.grammar.IsPlain path ∧ Lua54.grammar.IsPlain key
    · rw [Lua54.run_store_of_plain other plain.1 plain.2 found accepted keyed made]
      cases wrote : store.write (Lua54.target decrypt path) bytes with
      | error fault => simp only [afterWrite, wrote]
      | ok written => rw [afterWrite_of_ok wrote, idle plain.1 plain.2 written wrote]
    · exact (Lua54.run_store_of_not_plain other store plain).symm

def paddedStore : Store Bytes := { files := [("a.luac", V54.paddedCode)] }

theorem cipher_stores_agree_iff_padded :
    ∃ chunk after, paddedStore.read "a.luac" = .ok V54.paddedCode ∧
      V54.parse true V54.paddedCode = (.ok chunk, after) ∧ chunk.main.top.upvalues.length = 0 ∧
      ∃ bytes, V54.recoded (Text.Utf8.encode "Key") chunk.main = .ok bytes ∧
        (Unified.run "prog" (cipherWords false "a.luac" "Key") paddedStore).store = paddedStore ∧
        (Lua54.grammar.IsPlain "a.luac" → Lua54.grammar.IsPlain "Key" →
          ∀ written, paddedStore.write (Lua54.target false "a.luac") bytes = .ok written →
            (Lua54.run "prog" (cipherWords false "a.luac" "Key") paddedStore).store = written) ∧
        ((Unified.run "prog" (cipherWords false "a.luac" "Key") paddedStore).store =
            (Lua54.run "prog" (cipherWords false "a.luac" "Key") paddedStore).store ↔
          (Lua54.grammar.IsPlain "a.luac" → Lua54.grammar.IsPlain "Key" →
            ∀ written, paddedStore.write (Lua54.target false "a.luac") bytes = .ok written →
              written = paddedStore)) := by
  have found : paddedStore.read "a.luac" = .ok V54.paddedCode := rfl
  have upvalues : V54.seen (fun chunk => chunk.main.top.upvalues.length) V54.paddedCode = some 0 := by
    decide +kernel
  obtain ⟨chunk, after, accepted, none⟩ := V54.parse_of_seen upvalues
  exact ⟨chunk, after, found, accepted, none,
    cipher_stores_agree_iff false found (by decide) accepted (by omega) (by decide)⟩

theorem cipher_writes_nothing :
    (Unified.run "prog" (cipherWords false "a.luac" "Key") paddedStore).store.files.map Prod.fst = ["a.luac"] ∧
      (Lua54.run "prog" (cipherWords false "a.luac" "Key") paddedStore).store.files.map Prod.fst =
        ["a.luac", "a_encrypt.luac"] := by
  decide +kernel

end LuaBytecode.Command
