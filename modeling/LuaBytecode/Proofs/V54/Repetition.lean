import LuaBytecode.Proofs.V54.Lockstep
/-!
Writing one tree encrypted time after time. Each time the key is applied to the tree that is held, so every
other file has the code as it was read: the files alternate, and are the same only if the key changes nothing.
-/
namespace LuaBytecode

namespace Emission

structure Alike (first second : Emission) : Prop where
  fault : first.fault = second.fault
  length : first.bytes.length = second.bytes.length

theorem alike_refl (emission : Emission) : Alike emission emission := ⟨rfl, rfl⟩

theorem Alike.append {head head' tail tail' : Emission} (heads : Alike head head') (tails : Alike tail tail') :
    Alike (head ++ tail) (head' ++ tail') := by
  obtain ⟨bytes, fault⟩ := head
  obtain ⟨bytes', fault'⟩ := head'
  obtain ⟨rfl, length⟩ := heads
  cases fault with
  | some fault => exact ⟨rfl, length⟩
  | none =>
    refine ⟨tails.fault, ?_⟩
    have before : bytes.length = bytes'.length := length
    change (bytes ++ tail.bytes).length = (bytes' ++ tail'.bytes).length
    rw [List.length_append, List.length_append, before, tails.length]

theorem append_eq_iff {head head' tail tail' : Emission} (heads : Alike head head') (clean : head'.fault = none) :
    head ++ tail = head' ++ tail' ↔ head = head' ∧ tail = tail' := by
  obtain ⟨bytes, fault⟩ := head
  obtain ⟨bytes', fault'⟩ := head'
  obtain ⟨rfl, length⟩ := heads
  obtain rfl : fault = none := clean
  constructor
  · intro same
    obtain ⟨spelled, ended⟩ := Emission.mk.inj same
    obtain ⟨rfl, later⟩ := List.append_inj spelled length
    exact ⟨rfl, by cases tail; cases tail'; exact congr (congrArg Emission.mk later) ended⟩
  · rintro ⟨same, rfl⟩
    rw [same]

end Emission

namespace V54

structure Recodes (change : Function → Function) : Prop where
  fields : KeepsFields change
  source : ∀ each, (change each).recording? .source = each.recording? .source
  code : ∀ each, Emission.Alike (Write.code (change each)) (Write.code each)

namespace Write

def lead (isMain : Bool) (each : Function) : Emission :=
  string (sourceOf isMain each) ++ size each.lineDefined ++ size each.lastLineDefined ++ .byte each.paramCount ++
    .byte each.varargFlag ++ .byte each.maxStackSize

def pools (each : Function) : Emission := counted constant each.constants ++ counted upvalue each.upvalues

theorem front_parts (isMain : Bool) (each : Function) :
    front isMain each = lead isMain each ++ code each ++ pools each := by
  rw [front, lead, pools, Emission.append_assoc]

end Write

section Recoded

variable {change : Function → Function}

theorem front_change (recodes : Recodes change) (isMain : Bool) (each : Function) :
    Write.front isMain (change each) = Write.lead isMain each ++ Write.code (change each) ++ Write.pools each := by
  obtain ⟨_, same⟩ := recodes.fields each
  have source : Write.sourceOf isMain (change each) = Write.sourceOf isMain each := by
    rw [Write.sourceOf, recodes.source, same]
    rfl
  rw [Write.front_parts, Write.lead, source, same]
  rfl

theorem debug_change (recodes : Recodes change) (each : Function) : Write.debug (change each) = Write.debug each := by
  obtain ⟨_, same⟩ := recodes.fields each
  rw [same]
  rfl

theorem alike_front (recodes : Recodes change) (isMain : Bool) (each : Function) :
    Emission.Alike (Write.front isMain (change each)) (Write.front isMain each) := by
  rw [front_change recodes, Write.front_parts]
  exact ((Emission.alike_refl _).append (recodes.code each)).append (Emission.alike_refl _)

theorem front_eq_iff (recodes : Recodes change) (isMain : Bool) (each : Function)
    (clean : (Write.front isMain each).fault = none) :
    Write.front isMain (change each) = Write.front isMain each ↔ Write.code (change each) = Write.code each := by
  rw [Write.front_parts, Emission.fault_append_eq_none, Emission.fault_append_eq_none] at clean
  have lead := Emission.alike_refl (Write.lead isMain each)
  rw [front_change recodes, Write.front_parts,
    Emission.append_eq_iff (lead.append (recodes.code each)) (Emission.fault_append_eq_none.mpr clean.1),
    Emission.append_eq_iff lead clean.1.1]
  simp only [true_and, and_true]

mutual
theorem alike_prototype (recodes : Recodes change) (isMain : Bool) (tree : Prototype) :
    Emission.Alike (Write.prototype isMain (tree.map change)) (Write.prototype isMain tree) := by
  cases tree with
  | node each inner =>
    rw [Tree.map, Write.prototype, Write.prototype, Tree.length_mapForest, debug_change recodes]
    exact (((alike_front recodes isMain each).append (Emission.alike_refl _)).append (alike_forest recodes inner)).append
      (Emission.alike_refl _)
theorem alike_forest (recodes : Recodes change) (forest : List Prototype) :
    Emission.Alike (Write.forest (Tree.mapForest change forest)) (Write.forest forest) := by
  cases forest with
  | nil => exact Emission.alike_refl _
  | cons tree forest => exact (alike_prototype recodes false tree).append (alike_forest recodes forest)
end

mutual
-- Before anything differs both are as long, so one part can make up for no other.
theorem prototype_map_eq_iff (recodes : Recodes change) (isMain : Bool) (tree : Prototype)
    (clean : (Write.prototype isMain tree).fault = none) :
    Write.prototype isMain (tree.map change) = Write.prototype isMain tree ↔
      ∀ each ∈ tree.toList, Write.code (change each) = Write.code each := by
  cases tree with
  | node each inner =>
    have front := alike_front recodes isMain each
    have count := Emission.alike_refl (Write.size inner.length)
    rw [Write.prototype, Emission.fault_append_eq_none, Emission.fault_append_eq_none,
      Emission.fault_append_eq_none] at clean
    rw [Tree.map, Write.prototype, Write.prototype, Tree.length_mapForest, debug_change recodes,
      Emission.append_eq_iff ((front.append count).append (alike_forest recodes inner))
        (by simp only [Emission.fault_append_eq_none, clean, and_self]),
      Emission.append_eq_iff (front.append count) (Emission.fault_append_eq_none.mpr clean.1.1),
      Emission.append_eq_iff front clean.1.1.1, front_eq_iff recodes isMain each clean.1.1.1,
      forest_map_eq_iff recodes inner clean.1.2, Tree.toList, List.forall_mem_cons]
    simp only [and_true]
theorem forest_map_eq_iff (recodes : Recodes change) (forest : List Prototype)
    (clean : (Write.forest forest).fault = none) :
    Write.forest (Tree.mapForest change forest) = Write.forest forest ↔
      ∀ each ∈ Tree.listOfForest forest, Write.code (change each) = Write.code each := by
  cases forest with
  | nil => exact ⟨fun _ => nofun, fun _ => rfl⟩
  | cons tree forest =>
    rw [Write.forest, Emission.fault_append_eq_none] at clean
    rw [Tree.mapForest, Write.forest, Write.forest,
      Emission.append_eq_iff (alike_prototype recodes false tree) clean.1,
      prototype_map_eq_iff recodes false tree clean.1, forest_map_eq_iff recodes forest clean.2, Tree.listOfForest,
      List.forall_mem_append]
end

theorem upvalues_change (recodes : Recodes change) (each : Function) : (change each).upvalues = each.upvalues := by
  obtain ⟨_, same⟩ := recodes.fields each
  rw [same]

theorem alike_write (recodes : Recodes change) (tree : Prototype) :
    Emission.Alike (write (some (tree.map change))) (write (some tree)) := by
  rw [write, write, Tree.top_map, upvalues_change recodes]
  exact (Emission.alike_refl _).append (alike_prototype recodes true tree)

theorem write_map_eq_iff (recodes : Recodes change) (tree : Prototype) (clean : (write (some tree)).fault = none) :
    write (some (tree.map change)) = write (some tree) ↔
      ∀ each ∈ tree.toList, Write.code (change each) = Write.code each := by
  rw [write, Emission.fault_append_eq_none] at clean
  rw [write, write, Tree.top_map, upvalues_change recodes, Emission.append_eq_iff (Emission.alike_refl _) clean.1,
    prototype_map_eq_iff recodes true tree clean.2]
  simp only [true_and]

end Recoded

theorem Cipher.onCode_eq_self_iff (key kept : Bytes) :
    onCode key kept = kept ↔ ∀ index < (splitSize kept).2.length, own key index = 0 := by
  have split := splitSize_onCode key kept
  rw [← combine_eq_self_iff]
  constructor
  · intro same
    rw [same] at split
    exact (congrArg Prod.snd split).symm
  · intro same
    rw [← append_splitSize (onCode key kept), split]
    dsimp only
    rw [same, append_splitSize]

theorem code_onFunction_eq_iff (key : Bytes) (each : Function) :
    Write.code (Cipher.onFunction key each) = Write.code each ↔
      ∀ payload, each.payload? = some payload → ∀ index < payload.length, Cipher.own key index = 0 := by
  cases kept : each.recording? .code with
  | none =>
    have still : Write.code (Cipher.onFunction key each) = Write.code each := by
      rw [Write.code, Write.code, Cipher.recording?_code, kept]
      rfl
    simp [still, Function.payload?, kept]
  | some bytes =>
    have before : Write.code each = { bytes } := by rw [Write.code, kept]
    have behind : Write.code (Cipher.onFunction key each) = { bytes := Cipher.onCode key bytes } := by
      rw [Write.code, Cipher.recording?_code, kept]
      rfl
    simp [before, behind, Function.payload?, kept, Cipher.onCode_eq_self_iff]

theorem recodes_onFunction {key : Bytes} (keyed : key ≠ []) : Recodes (Cipher.onFunction key) where
  fields each := ⟨_, rfl⟩
  source := Cipher.recording?_source key
  code each := by
    rw [Write.code, Write.code, Cipher.recording?_code]
    cases each.recording? .code with
    | none => exact Emission.alike_refl _
    | some kept => exact ⟨rfl, (Cipher.changes_onCode keyed kept).length⟩

namespace Session

def exports (key : Bytes) : (count : Nat) → Session → List (Except Fault Bytes)
  | 0, _ => []
  | count + 1, session => (session.writeEncrypted key).2.toExcept :: exports key count (session.writeEncrypted key).1

theorem writeEncrypted_eq {session : Session} {tree : Prototype} {key : Bytes} (keyed : key ≠ [])
    (loaded : session.main = some tree) :
    (session.writeEncrypted key).1.main = some (Cipher.onTree key tree) ∧
      (session.writeEncrypted key).2 = write (some (Cipher.onTree key tree)) := by
  have step := session.cipher_setKey keyed
  rw [loaded] at step
  rw [writeEncrypted, step]
  exact ⟨rfl, rfl⟩

theorem exports_eq {session : Session} {tree : Prototype} {key : Bytes} (keyed : key ≠ [])
    (loaded : session.main = some tree) (count : Nat) :
    session.exports key count = (List.range count).map fun index =>
      (write (some (if index % 2 = 0 then Cipher.onTree key tree else tree))).toExcept := by
  -- What is held after one call is what the next one starts from, so the tree stays general.
  induction count generalizing session tree with
  | zero => rfl
  | succ count ih =>
    obtain ⟨held, written⟩ := writeEncrypted_eq keyed loaded
    rw [exports, written, ih held, Cipher.onTree_onTree, List.range_succ_eq_map, List.map_cons, List.map_map]
    refine List.cons_eq_cons.mpr ⟨by rw [if_pos rfl], List.map_congr_left ?_⟩
    intro index _
    dsimp only [Function.comp]
    by_cases even : index % 2 = 0
    · rw [if_pos even, if_neg (by omega)]
    · rw [if_neg even, if_pos (by omega)]

end Session

-- Without recording there is nothing behind the size; with it, there are four bytes for each word.
theorem reached_iff {record : Bool} {file : Bytes} {chunk : Chunk} {after : Input}
    (accepted : parse record file = (.ok chunk, after)) (holds : Nat → Prop) :
    (∀ each ∈ chunk.main.toList, ∀ payload, each.payload? = some payload → ∀ index < payload.length, holds index) ↔
      record = false ∨ ∀ each ∈ chunk.main.toList, ∀ index < 4 * each.code.length, holds index := by
  cases record with
  | false =>
    refine iff_of_true ?_ (.inl rfl)
    intro each member payload found index within
    have blank := Tree.forall_of_every chunk.main (blank_of_parse accepted) each member
    rw [Function.payload?, Function.recording?, blank] at found
    cases found
    cases within
  | true =>
    rw [or_iff_right (show ¬ true = false by decide)]
    apply forall₂_congr
    intro each member
    obtain ⟨payload, kept, length, _⟩ := agrees_of_parse accepted each member
    simp only [kept, Option.some.injEq, forall_eq', length]

theorem toExcept_of_clean {emission : Emission} (clean : emission.fault = none) :
    emission.toExcept = .ok emission.bytes := by
  rw [Emission.toExcept, clean]

theorem encrypted_files_alternate {record : Bool} {file key : Bytes} {chunk : Chunk} {after : Input} {session : Session}
    (accepted : parse record file = (.ok chunk, after)) (few : chunk.main.top.upvalues.length ≤ 255)
    (loaded : session.main = some chunk.main) (keyed : key ≠ []) :
    ∃ encrypted plain : Bytes,
      (∀ count, session.exports key count =
        (List.range count).map fun index => .ok (if index % 2 = 0 then encrypted else plain)) ∧
      (write (some chunk.main)).toExcept = .ok plain ∧ encrypted.length = plain.length ∧
      (encrypted = plain ↔
        record = false ∨ ∀ each ∈ chunk.main.toList, ∀ index < 4 * each.code.length, Cipher.own key index = 0) := by
  have every := encodable_of_parse accepted
  have clean := fault_write_chars (Tree.every_mono (fun _ known => known.1) chunk.main every) few
  have recodes := recodes_onFunction keyed
  have alike : Emission.Alike (write (some (Cipher.onTree key chunk.main))) (write (some chunk.main)) :=
    alike_write recodes chunk.main
  refine ⟨(write (some (Cipher.onTree key chunk.main))).bytes, (write (some chunk.main)).bytes, ?_,
    toExcept_of_clean clean, alike.length, ?_⟩
  · intro count
    rw [Session.exports_eq keyed loaded]
    apply List.map_congr_left
    intro index _
    by_cases even : index % 2 = 0
    · rw [if_pos even, if_pos even, toExcept_of_clean (alike.fault.trans clean)]
    · rw [if_neg even, if_neg even, toExcept_of_clean clean]
  · have same : (write (some (Cipher.onTree key chunk.main))).bytes = (write (some chunk.main)).bytes ↔
        write (some (Cipher.onTree key chunk.main)) = write (some chunk.main) := by
      rw [Emission.mk.injEq, and_iff_left alike.fault]
    rw [same, Cipher.onTree, write_map_eq_iff recodes chunk.main clean]
    simp only [code_onFunction_eq_iff]
    exact reached_iff accepted fun index => Cipher.own key index = 0

theorem encrypted_files_alternate_paddedCode :
    ∃ chunk after encrypted plain, parse true paddedCode = (.ok chunk, after) ∧
      ({ main := some chunk.main } : Session).exports [0x4B, 0x65, 0x79] 3 = [.ok encrypted, .ok plain, .ok encrypted] ∧
      encrypted.length = plain.length ∧ encrypted ≠ plain := by
  have view : seen (fun chunk => (chunk.main.top.upvalues.length, chunk.main.top.code.length)) paddedCode =
      some (0, 2) := by
    decide +kernel
  obtain ⟨chunk, after, accepted, found⟩ := parse_of_seen view
  obtain ⟨none, two⟩ := Prod.mk.inj found
  obtain ⟨encrypted, plain, files, _, equal, iff⟩ := encrypted_files_alternate accepted (by omega)
    (show ({ main := some chunk.main } : Session).main = some chunk.main from rfl)
    (show ([0x4B, 0x65, 0x79] : Bytes) ≠ [] by decide)
  refine ⟨chunk, after, encrypted, plain, accepted, files 3, equal, ?_⟩
  intro same
  rcases iff.mp same with unrecorded | zero
  · cases unrecorded
  · exact absurd (zero chunk.main.top (Tree.top_mem_toList chunk.main) 0 (by omega)) (by decide)

theorem second_encrypted_file_plain :
    seen (fun chunk => (({ main := some chunk.main } : Session).exports [0x4B] 2).map Except.toOption) singleWord =
      some [some hiddenWord, some singleWord] ∧ hiddenWord ≠ singleWord := by
  decide +kernel

end V54

end LuaBytecode
