import LuaBytecode.Proofs.V54.Encryption

namespace LuaBytecode.V54

namespace Recording

theorem labels_set (sect : Section) (bytes : Bytes) (recording : Recording) :
    (recording.set sect bytes).map Prod.fst = recording.map Prod.fst := by
  induction recording with
  | nil => rfl
  | cons entry recording ih =>
    obtain ⟨label, kept⟩ := entry
    by_cases same : label = sect
    · simp [set, same]
    · simp [set, same, ih]

theorem set_set (sect : Section) (first second : Bytes) (recording : Recording) :
    (recording.set sect first).set sect second = recording.set sect second := by
  induction recording with
  | nil => rfl
  | cons entry recording ih =>
    obtain ⟨label, kept⟩ := entry
    by_cases same : label = sect
    · simp [set, same]
    · simp [set, same, ih]

theorem set_of_get? {sect : Section} {bytes : Bytes} {recording : Recording} (kept : recording.get? sect = some bytes) :
    recording.set sect bytes = recording := by
  induction recording with
  | nil => rfl
  | cons entry recording ih =>
    obtain ⟨label, found⟩ := entry
    rw [get?, List.lookup_cons] at kept
    by_cases same : label = sect
    · subst same
      simp_all [set]
    · have other : (sect == label) = false := beq_eq_false_iff_ne.mpr (Ne.symm same)
      rw [other] at kept
      simp [set, same, ih kept]

end Recording

namespace Cipher

-- Behind the first byte whose high bit is set; there may be none.
def payloadStart (kept : Bytes) : Nat := kept.findIdx (fun byte => 128 ≤ byte.toNat) + 1

theorem splitSize_eq (kept : Bytes) : splitSize kept = (kept.take (payloadStart kept), kept.drop (payloadStart kept)) := by
  induction kept with
  | nil => rfl
  | cons byte kept ih =>
    by_cases marked : 128 ≤ byte.toNat
    · simp [splitSize, payloadStart, List.findIdx_cons, marked]
    · rw [splitSize, if_neg marked, ih]
      simp [payloadStart, List.findIdx_cons, marked]

structure Changes (key kept changed : Bytes) : Prop where
  length : changed.length = kept.length
  size : changed.take (payloadStart kept) = kept.take (payloadStart kept)
  payload : ∀ index byte, kept[payloadStart kept + index]? = some byte →
    ∃ own, key[index % key.length]? = some own ∧ changed[payloadStart kept + index]? = some (byte ^^^ own)

theorem onCode_eq (key kept : Bytes) :
    onCode key kept = kept.take (payloadStart kept) ++ applyFrom 0 key (kept.drop (payloadStart kept)) := by
  rw [onCode, splitSize_eq]
  dsimp only
  rw [apply_eq]

theorem getElem?_applyFrom {key payload : Bytes} {index : Nat} {byte : UInt8} (keyed : key ≠ [])
    (found : payload[index]? = some byte) :
    ∃ own, key[index % key.length]? = some own ∧ (applyFrom 0 key payload)[index]? = some (byte ^^^ own) := by
  have within : index % key.length < key.length := Nat.mod_lt _ (List.length_pos_iff.mpr keyed)
  refine ⟨key[index % key.length], List.getElem?_eq_getElem within, ?_⟩
  simp [applyFrom, List.getElem?_mapIdx, found, within]

theorem changes_onCode {key : Bytes} (keyed : key ≠ []) (kept : Bytes) : Changes key kept (onCode key kept) := by
  rw [onCode_eq]
  constructor
  · simp only [List.length_append, length_applyFrom, List.length_take, List.length_drop]
    omega
  · by_cases short : kept.length ≤ payloadStart kept
    · simp [List.take_of_length_le short, List.drop_eq_nil_of_le short, applyFrom]
    · have exactly : (kept.take (payloadStart kept)).length = payloadStart kept := List.length_take_of_le (by omega)
      rw [List.take_append_of_le_length (by omega), List.take_take, Nat.min_self]
  · intro index byte found
    have within : payloadStart kept + index < kept.length := (List.getElem?_eq_some_iff.mp found).1
    have exactly : (kept.take (payloadStart kept)).length = payloadStart kept := List.length_take_of_le (by omega)
    rw [List.getElem?_append_right (by omega), exactly, Nat.add_sub_cancel_left]
    exact getElem?_applyFrom keyed (by rw [List.getElem?_drop, found])

structure Footprint (key : Bytes) (before after : Function) : Prop where
  fields : { after with recorded := before.recorded } = before
  labels : after.recorded.map (List.map Prod.fst) = before.recorded.map (List.map Prod.fst)
  sections : ∀ sect, sect ≠ .code → after.recording? sect = before.recording? sect
  code : ∀ kept, before.recording? .code = some kept →
    ∃ changed, after.recording? .code = some changed ∧ Changes key kept changed

theorem labels_onRecording (key : Bytes) (recording : Recording) :
    (onRecording key recording).map Prod.fst = recording.map Prod.fst := by
  unfold onRecording
  split
  · exact Recording.labels_set _ _ recording
  · rfl

theorem footprint_onFunction {key : Bytes} (keyed : key ≠ []) (each : Function) :
    Footprint key each (onFunction key each) where
  fields := rfl
  labels := by
    cases kept : each.recorded with
    | none => simp [onFunction, kept]
    | some recording => simp [onFunction, kept, labels_onRecording]
  sections sect other := by rw [recording?_onFunction, if_neg other]
  code kept found := ⟨onCode key kept, by rw [recording?_code, found, Option.map_some], changes_onCode keyed kept⟩

theorem onRecording_onRecording (key : Bytes) (recording : Recording) :
    onRecording key (onRecording key recording) = recording := by
  cases kept : recording.get? .code with
  | none => simp only [onRecording, kept]
  | some bytes =>
    have once : onRecording key recording = recording.set .code (onCode key bytes) := by simp only [onRecording, kept]
    have found : (recording.set .code (onCode key bytes)).get? .code = some (onCode key bytes) := by
      rw [get?_set, if_pos rfl, kept, Option.map_some]
    rw [once, onRecording, found]
    dsimp only
    rw [onCode_onCode, Recording.set_set, Recording.set_of_get? kept]

theorem onFunction_onFunction (key : Bytes) (each : Function) : onFunction key (onFunction key each) = each := by
  cases each with
  | mk source lineDefined lastLineDefined paramCount varargFlag maxStackSize code constants upvalues lineInfo
      absLineInfo locals upvalueNames recorded =>
    cases recorded with
    | none => rfl
    | some recording => simp [onFunction, onRecording_onRecording]

theorem onTree_onTree (key : Bytes) (tree : Prototype) : onTree key (onTree key tree) = tree := by
  rw [onTree, onTree, Tree.map_map]
  exact Tree.map_eq_self (onFunction_onFunction key) tree

end Cipher

theorem Session.cipher_setKey (session : Session) {key : Bytes} (keyed : key ≠ []) :
    (session.setKey key).cipher = { session.setKey key with main := session.main.map (Cipher.onTree key) } := by
  cases key with
  | nil => exact absurd rfl keyed
  | cons byte key => rfl

-- Encrypting and decrypting are one and the same step, so both in either order is this step twice.
theorem cipher_reaches_code_and_undoes_itself (session : Session) (key : Bytes) (keyed : key ≠ []) :
    (∃ change : Function → Function,
      (session.setKey key).cipher = { session.setKey key with main := session.main.map (Tree.map change) } ∧
        ∀ each, Cipher.Footprint key each (change each)) ∧
    (session.setKey key).cipher.cipher = session.setKey key := by
  have once := session.cipher_setKey keyed
  constructor
  · exact ⟨Cipher.onFunction key, once, Cipher.footprint_onFunction keyed⟩
  · have again := Session.cipher_setKey { session with main := session.main.map (Cipher.onTree key) } keyed
    have same : (session.setKey key).cipher =
        ({ session with main := session.main.map (Cipher.onTree key) } : Session).setKey key := once
    rw [same, again]
    cases main : session.main with
    | none => simp [Session.setKey, main]
    | some tree => simp [Session.setKey, main, Cipher.onTree_onTree]

-- Code whose length four does not divide, a function that keeps nothing, and code whose size never ends.
def keepers : Prototype :=
  .node { recorded := some [(.source, [0x81]), (.code, [0x00, 0x82, 0x10, 0x20, 0x30, 0x40, 0x50, 0x60])] }
    [.node { recorded := none } [.node { recorded := some [(.code, [0x01, 0x02, 0x03])] } []]]

theorem keepers_ciphered :
    ([1, 2, 4] : Bytes) ≠ [] ∧
    (({ main := some keepers } : Session).setKey [1, 2, 4]).cipher.main = some
      (.node { recorded := some [(.source, [0x81]), (.code, [0x00, 0x82, 0x11, 0x22, 0x34, 0x41, 0x52, 0x64])] }
        [.node { recorded := none } [.node { recorded := some [(.code, [0x01, 0x02, 0x03])] } []]]) ∧
    (({ main := some keepers } : Session).setKey [1, 2, 4]).cipher.cipher =
      ({ main := some keepers } : Session).setKey [1, 2, 4] :=
  ⟨by decide, by decide +kernel,
    (cipher_reaches_code_and_undoes_itself { main := some keepers } [1, 2, 4] (by decide)).2⟩

end LuaBytecode.V54
