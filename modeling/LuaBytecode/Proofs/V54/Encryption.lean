import LuaBytecode.Proofs.V54.Rewriting

namespace LuaBytecode.V54

namespace Cipher

def applyFrom (offset : Nat) (key payload : Bytes) : Bytes :=
  payload.mapIdx fun index byte => byte ^^^ (key[(offset + index) % key.length]?).getD 0

def onWord (offset : Nat) (key : Bytes) (word : UInt32) : UInt32 :=
  UInt32.ofNat (Bytes.toNat (applyFrom offset key (Wire.word word)))

def onWords (key : Bytes) (words : List Int) : List Int :=
  words.mapIdx fun index word => (Bytes.toNat (applyFrom (4 * index) key (Bytes.ofNat 4 word.toNat)) : Int)

theorem onBytes_eq (key : Bytes) (index : Nat) (bytes : Bytes) : onBytes key index bytes = applyFrom index key bytes := by
  induction bytes generalizing index with
  | nil => rfl
  | cons byte bytes ih =>
    simp only [onBytes, applyFrom, List.mapIdx_cons, ih, Nat.add_zero, Nat.add_assoc, Nat.add_comm 1]

theorem length_applyFrom (offset : Nat) (key payload : Bytes) :
    (applyFrom offset key payload).length = payload.length :=
  List.length_mapIdx

theorem applyFrom_append (offset : Nat) (key first second : Bytes) :
    applyFrom offset key (first ++ second) =
      applyFrom offset key first ++ applyFrom (offset + first.length) key second := by
  simp only [applyFrom, List.mapIdx_append, Nat.add_assoc, Nat.add_comm first.length]

theorem applyFrom_applyFrom (offset : Nat) (key payload : Bytes) :
    applyFrom offset key (applyFrom offset key payload) = payload := by
  apply List.ext_getElem
  · simp [applyFrom]
  · intro index _ _
    simp only [applyFrom, List.getElem_mapIdx]
    rw [UInt8.xor_assoc, UInt8.xor_self, UInt8.xor_zero]

-- Four bytes at a time or one at a time, the key goes on where it was.
theorem onInstructions_eq (key : Bytes) (index : Nat) (bytes : Bytes) :
    onInstructions key index bytes = applyFrom index key bytes := by
  fun_induction onInstructions key index bytes with
  | case1 index first second third fourth bytes ih =>
    rw [ih, onBytes_eq]
    exact (applyFrom_append index key [first, second, third, fourth] bytes).symm
  | case2 index short => exact onBytes_eq key index short

theorem apply_eq (key payload : Bytes) : apply key payload = applyFrom 0 key payload := onInstructions_eq key 0 payload

theorem word_onWord (offset : Nat) (key : Bytes) (word : UInt32) :
    Wire.word (onWord offset key word) = applyFrom offset key (Wire.word word) := by
  apply Read.word_toNat
  rw [length_applyFrom, Wire.word, Bytes.length_ofNat]

theorem onWord_onWord (offset : Nat) (key : Bytes) (word : UInt32) :
    onWord offset key (onWord offset key word) = word := by
  rw [onWord, word_onWord, applyFrom_applyFrom, Read.toNat_word, UInt32.ofNat_toNat]

def onSection (key : Bytes) (code : List UInt32) : List UInt32 :=
  code.mapIdx fun index word => onWord (4 * index) key word

theorem onSection_onSection (key : Bytes) (code : List UInt32) : onSection key (onSection key code) = code := by
  apply List.ext_getElem
  · simp [onSection]
  · intro index _ _
    simp [onSection, onWord_onWord]

theorem applyFrom_words (offset : Nat) (key : Bytes) (code : List UInt32) :
    applyFrom offset key (code.flatMap Wire.word) =
      (code.mapIdx fun index word => onWord (offset + 4 * index) key word).flatMap Wire.word := by
  -- The key does not start over at a word, so the offset grows by four along the list.
  induction code generalizing offset with
  | nil => rfl
  | cons word code ih =>
    have width : (Wire.word word).length = 4 := Bytes.length_ofNat 4 _
    rw [List.flatMap_cons, applyFrom_append, width, ih, List.mapIdx_cons, List.flatMap_cons, word_onWord]
    simp only [Nat.mul_add, Nat.mul_zero, Nat.add_zero, Nat.add_assoc, Nat.add_comm 4]

theorem splitSize_front (kept payload : Bytes) (equal : payload.length = (splitSize kept).2.length) :
    splitSize ((splitSize kept).1 ++ payload) = ((splitSize kept).1, payload) := by
  induction kept with
  | nil =>
    obtain rfl : payload = [] := List.eq_nil_of_length_eq_zero equal
    rfl
  | cons byte kept ih =>
    by_cases marked : 128 ≤ byte.toNat
    · simp [splitSize, marked]
    · simp only [splitSize, if_neg marked] at equal ⊢
      rw [List.cons_append, splitSize, if_neg marked, ih equal]

theorem append_splitSize (kept : Bytes) : (splitSize kept).1 ++ (splitSize kept).2 = kept := by
  induction kept with
  | nil => rfl
  | cons byte kept ih =>
    by_cases marked : 128 ≤ byte.toNat
    · simp [splitSize, marked]
    · simp only [splitSize, if_neg marked, List.cons_append, ih]

theorem onCode_onCode (key kept : Bytes) : onCode key (onCode key kept) = kept := by
  -- The key leaves the bytes of the size alone, so the second split is at the same place.
  have again := splitSize_front kept (apply key (splitSize kept).2) (by rw [apply_eq, length_applyFrom])
  rw [onCode, onCode, again]
  dsimp only
  rw [apply_eq, apply_eq, applyFrom_applyFrom, append_splitSize]

theorem onCode_codeSection (key : Bytes) (padding : Nat) (code : List UInt32) :
    onCode key (Wire.codeSection padding code) = Wire.codeSection padding (onSection key code) := by
  have words := applyFrom_words 0 key code
  simp only [Nat.zero_add] at words
  rw [onCode, Read.splitSize_codeSection]
  dsimp only
  rw [apply_eq, words, Wire.codeSection, Wire.counted, onSection, List.length_mapIdx, List.append_assoc]

theorem map_onSection (key : Bytes) (code : List UInt32) :
    (onSection key code).map (fun word => (word.toNat : Int)) =
      onWords key (code.map fun word => (word.toNat : Int)) := by
  apply List.ext_getElem
  · simp [onSection, onWords]
  · intro index _ _
    simp only [onSection, onWords, List.getElem_map, List.getElem_mapIdx, Int.toNat_natCast]
    rw [← Read.toNat_word, word_onWord, Wire.word]

example : onWords [1, 2, 3] [0, 0] = [0x01030201, 0x02010302] := by
  decide

theorem get?_set (sect other : Section) (bytes : Bytes) (recording : Recording) :
    (recording.set sect bytes).get? other =
      if other = sect then (recording.get? other).map fun _ => bytes else recording.get? other := by
  induction recording with
  | nil => simp [Recording.set, Recording.get?]
  | cons entry recording ih =>
    obtain ⟨label, kept⟩ := entry
    rw [Recording.get?, Recording.get?] at ih
    rw [Recording.set, Recording.get?, Recording.get?]
    by_cases same : label = sect
    · subst same
      rw [if_pos rfl, List.lookup_cons, List.lookup_cons]
      by_cases found : other = label
      · simp [found]
      · simp [found, beq_eq_false_iff_ne.mpr found]
    · rw [if_neg same, List.lookup_cons, List.lookup_cons]
      by_cases found : other = label
      · subst found
        simp [same]
      · simp [beq_eq_false_iff_ne.mpr found, ih]

theorem recording?_onFunction (key : Bytes) (sect : Section) (each : Function) :
    (onFunction key each).recording? sect =
      if sect = .code then (each.recording? .code).map (onCode key) else each.recording? sect := by
  rw [Function.recording?, Function.recording?, Function.recording?, onFunction]
  cases each.recorded with
  | none => simp
  | some recording =>
    dsimp only [Option.map, onRecording]
    cases kept : recording.get? .code with
    | none =>
      by_cases same : sect = .code <;> simp [same, kept]
    | some bytes =>
      rw [get?_set]
      by_cases same : sect = .code <;> simp [same, kept]

theorem recording?_code (key : Bytes) (each : Function) :
    (onFunction key each).recording? .code = (each.recording? .code).map (onCode key) := by
  rw [recording?_onFunction, if_pos rfl]

theorem recording?_source (key : Bytes) (each : Function) :
    (onFunction key each).recording? .source = each.recording? .source := by
  rw [recording?_onFunction, if_neg (by decide)]

theorem sourceOf_onFunction (isMain : Bool) (key : Bytes) (each : Function) :
    Write.sourceOf isMain (onFunction key each) = Write.sourceOf isMain each := by
  rw [Write.sourceOf, recording?_source]
  rfl

theorem onWords_onWords (key : Bytes) {each : Function} (inStep : each.InStep) :
    onWords key (onWords key each.code) = each.code := by
  obtain ⟨padding, code, _, _, same⟩ := inStep
  rw [same, ← map_onSection, ← map_onSection, onSection_onSection]

end Cipher

def Function.enciphered (key : Bytes) (each : Function) : Function :=
  { each with code := Cipher.onWords key each.code }

theorem inStep_enciphered (key : Bytes) {each : Function} (inStep : each.InStep) :
    ((Cipher.onFunction key each).enciphered key).InStep := by
  obtain ⟨padding, code, bound, kept, same⟩ := inStep
  refine ⟨padding, Cipher.onSection key code, ?_, ?_, ?_⟩
  · rwa [Cipher.onSection, List.length_mapIdx]
  · change (Cipher.onFunction key each).recording? .code = _
    rw [Cipher.recording?_code, kept, Option.map_some, Cipher.onCode_codeSection]
  · change Cipher.onWords key each.code = _
    rw [Cipher.map_onSection, same]

theorem writable_onFunction (key : Bytes) {each : Function} (accepted : each.Accepted) :
    (Cipher.onFunction key each).Writable := by
  constructor
  · exact (Function.inRange_iff _).mpr ((Function.inRange_iff each).mp accepted.range)
  · have keeps := Function.keepsCode_of_inStep (inStep_enciphered key accepted.inStep)
    exact keeps

theorem writable_onTree (key : Bytes) {tree : Prototype} (accepted : tree.Every Function.Accepted) :
    (Cipher.onTree key tree).Every Function.Writable :=
  (Tree.every_map tree).mpr (Tree.every_mono (fun _ own => writable_onFunction key own) tree accepted)

theorem reread_onFunction (key : Bytes) {each : Function} (inStep : each.InStep) :
    (Cipher.onFunction key each).reread none = each.unsourced.enciphered key := by
  obtain ⟨padding, code, _, kept, same⟩ := inStep_enciphered key inStep
  have spelled : (Write.code (Cipher.onFunction key each)).bytes = Wire.codeSection padding code := by
    rw [Write.code]
    change (Cipher.onFunction key each).recording? .code = _ at kept
    rw [kept]
  rw [Function.reread, spelled, Read.words_codeSection, ← same]
  rfl

def recoded (key : Bytes) (tree : Prototype) : Except Fault Bytes :=
  (({ main := some tree } : Session).writeEncrypted key).2.toExcept

theorem recoded_eq (key : Bytes) (keyed : key ≠ []) (tree : Prototype)
    (accepted : tree.Every Function.Accepted) (few : tree.top.upvalues.length ≤ 255) :
    recoded key tree = .ok (Wire.file Write.header (Wire.of true (Cipher.onTree key tree))) := by
  have ciphered : recoded key tree = (write (some (Cipher.onTree key tree))).toExcept := by
    cases key with
    | nil => exact absurd rfl keyed
    | cons byte key => rfl
  have fewStill : (Cipher.onTree key tree).top.upvalues.length ≤ 255 := by
    rw [Cipher.onTree, Tree.top_map]
    exact few
  rw [ciphered, write_eq _ (writable_onTree key accepted) fewStill, toExcept_bytes]

theorem unsourced_recoded {key : Bytes} {tree hidden : Prototype} (accepted : tree.Every Function.Accepted)
    (main : bare hidden = Wire.value (some "") (Wire.of true (Cipher.onTree key tree))) :
    unsourced hidden = (unsourced tree).map (Function.enciphered key) := by
  rw [← unsourced_bare, main, Wire.value_of true (some "") _ (writable_onTree key accepted), unsourced_reread,
    unsourced, Cipher.onTree, Tree.map_map, Tree.map_map]
  exact Tree.map_congr tree (Tree.every_mono (fun _ own => reread_onFunction key own.inStep) tree accepted)

theorem upvalues_recoded {key : Bytes} {tree hidden : Prototype}
    (same : unsourced hidden = (unsourced tree).map (Function.enciphered key)) :
    hidden.top.upvalues.length = tree.top.upvalues.length := by
  have counts := congrArg (fun tree => tree.top.upvalues.length) same
  simpa only [unsourced, Tree.top_map, Function.enciphered, Function.unsourced, Function.bare,
    List.length_map] using counts

theorem enciphered_enciphered (key : Bytes) {each : Function} (inStep : each.InStep) :
    (each.unsourced.enciphered key).enciphered key = each.unsourced := by
  have back := Cipher.onWords_onWords key inStep
  change { each.unsourced with code := Cipher.onWords key (Cipher.onWords key each.code) } = each.unsourced
  rw [back]
  rfl

theorem encryption_keeps_structure (file key : Bytes) (chunk : Chunk) (after : Input) (small : Small file)
    (accepted : parse true file = (.ok chunk, after)) (few : chunk.main.top.upvalues.length ≤ 255)
    (keyed : key ≠ []) :
    ∃ encrypted hidden hiddenAfter decrypted plain plainAfter,
      recoded key chunk.main = .ok encrypted ∧ parse true encrypted = (.ok hidden, hiddenAfter) ∧
      unsourced hidden.main = (unsourced chunk.main).map (Function.enciphered key) ∧
      recoded key hidden.main = .ok decrypted ∧ parse true decrypted = (.ok plain, plainAfter) ∧
      unsourced plain.main = unsourced chunk.main := by
  obtain ⟨every, _⟩ := parse_accepted small accepted
  obtain ⟨hidden, hiddenAfter, ran, hiddenEvery, spelled, _⟩ := parse_written _ (writable_onTree key every)
  have hiddenMain := unsourced_recoded every spelled
  have fewStill : hidden.main.top.upvalues.length ≤ 255 := by rwa [upvalues_recoded hiddenMain]
  obtain ⟨plain, plainAfter, ranBack, _, spelledBack, _⟩ := parse_written _ (writable_onTree key hiddenEvery)
  refine ⟨_, hidden, hiddenAfter, _, plain, plainAfter, recoded_eq key keyed chunk.main every few, ran,
    hiddenMain, recoded_eq key keyed hidden.main hiddenEvery fewStill, ranBack, ?_⟩
  -- Function by function, the key is applied to the same words twice.
  rw [unsourced_recoded hiddenEvery spelledBack, hiddenMain, unsourced, Tree.map_map, Tree.map_map]
  apply Tree.map_congr
  exact Tree.every_mono (fun _ own => enciphered_enciphered key own.inStep) chunk.main every

-- A function of two words whose count is spelled in two bytes.
def paddedCode : Bytes :=
  Write.header ++ [0, 0x81, 0x80, 0x80, 0, 0, 2, 0x00, 0x82, 0x51, 0, 0, 0, 0x46, 0, 1, 1,
    0x80, 0x80, 0x80, 0x80, 0x80, 0x80, 0x80]

theorem encryption_keeps_structure_paddedCode :
    ∃ chunk after, parse true paddedCode = (.ok chunk, after) ∧
      ∃ encrypted hidden hiddenAfter decrypted plain plainAfter,
        recoded [0x4B, 0x65, 0x79] chunk.main = .ok encrypted ∧
        parse true encrypted = (.ok hidden, hiddenAfter) ∧
        unsourced hidden.main = (unsourced chunk.main).map (Function.enciphered [0x4B, 0x65, 0x79]) ∧
        recoded [0x4B, 0x65, 0x79] hidden.main = .ok decrypted ∧
        parse true decrypted = (.ok plain, plainAfter) ∧
        unsourced plain.main = unsourced chunk.main := by
  have upvalues : seen (fun chunk => chunk.main.top.upvalues.length) paddedCode = some 0 := by
    decide +kernel
  obtain ⟨chunk, after, accepted, none⟩ := parse_of_seen upvalues
  have few : chunk.main.top.upvalues.length ≤ 255 := by omega
  exact ⟨chunk, after, accepted,
    encryption_keeps_structure paddedCode _ chunk after (by decide) accepted few (by decide)⟩

end LuaBytecode.V54
