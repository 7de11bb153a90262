import LuaBytecode.Proofs.V54.Encodable
import LuaBytecode.Proofs.V54.Involution
import LuaBytecode.V54.Listing
import LuaBytecode.V54.Relabelling
/-!
A function has its words twice, decoded and in the code that it keeps, and reading makes the two agree.
The cipher reaches the kept code alone. Listings and comparisons go by the decoded words, so they show
what was read, whatever keys are applied; the two agree again only where the keys cancel out.
-/
namespace LuaBytecode.V54

namespace Wire

theorem spell_words (payload : Bytes) (whole : payload.length % 4 = 0) :
    (words payload).flatMap (fun word => Bytes.ofNat 4 word.toNat) = payload := by
  fun_induction words payload with
  | case1 a b c d rest ih =>
    have four : Bytes.ofNat 4 (Bytes.toNat [a, b, c, d]) = [a, b, c, d] := Bytes.ofNat_toNat [a, b, c, d]
    rw [List.flatMap_cons, Int.toNat_natCast, four, ih (by simp only [List.length_cons] at whole; omega)]
    rfl
  | case2 payload short =>
    match payload with
    | [] => rfl
    | [_] | [_, _] | [_, _, _] => cases whole
    | a :: b :: c :: d :: rest => exact absurd rfl (short a b c d rest)

theorem words_injective {first second : Bytes} (whole : first.length % 4 = 0) (also : second.length % 4 = 0)
    (same : words first = words second) : first = second := by
  rw [← spell_words first whole, same, spell_words second also]

end Wire

namespace Cipher

def own (key : Bytes) (index : Nat) : UInt8 := (key[index % key.length]?).getD 0

def stream (keys : List Bytes) (index : Nat) : UInt8 := keys.foldr (fun key rest => own key index ^^^ rest) 0

def combine (stream : Nat → UInt8) (payload : Bytes) : Bytes := payload.mapIdx fun index byte => byte ^^^ stream index

theorem apply_eq_combine (key payload : Bytes) : apply key payload = combine (own key) payload := by
  simp only [apply_eq, applyFrom, combine, own, Nat.zero_add]

theorem length_combine (stream : Nat → UInt8) (payload : Bytes) : (combine stream payload).length = payload.length :=
  List.length_mapIdx

theorem combine_combine (first second : Nat → UInt8) (payload : Bytes) :
    combine second (combine first payload) = combine (fun index => first index ^^^ second index) payload := by
  apply List.ext_getElem
  · simp [combine]
  · intro index _ _
    simp [combine, UInt8.xor_assoc]

theorem combine_eq_self_iff (stream : Nat → UInt8) (payload : Bytes) :
    combine stream payload = payload ↔ ∀ index < payload.length, stream index = 0 := by
  constructor
  · intro same index within
    have byte := List.getElem_of_eq same (by rwa [length_combine])
    simp only [combine, List.getElem_mapIdx] at byte
    exact (UInt8.xor_right_inj payload[index]).mp (by rw [byte, UInt8.xor_zero])
  · intro zero
    apply List.ext_getElem (length_combine stream payload)
    intro index _ within
    simp [combine, zero index within]

theorem splitSize_onCode (key kept : Bytes) :
    splitSize (onCode key kept) = ((splitSize kept).1, combine (own key) (splitSize kept).2) := by
  have equal : (apply key (splitSize kept).2).length = (splitSize kept).2.length := by rw [apply_eq, length_applyFrom]
  rw [onCode, splitSize_front kept _ equal, apply_eq_combine]

end Cipher

namespace Function

def payload? (each : Function) : Option Bytes := (each.recording? .code).map fun kept => (Cipher.splitSize kept).2

def Agrees (each : Function) : Prop :=
  ∃ payload, each.payload? = some payload ∧ payload.length = 4 * each.code.length ∧ Wire.words payload = each.code

theorem agrees_of_inStep {each : Function} (inStep : each.InStep) : each.Agrees := by
  obtain ⟨padding, code, _, kept, same⟩ := inStep
  refine ⟨code.flatMap Wire.word, ?_, ?_, ?_⟩
  · rw [payload?, kept, Option.map_some, Read.splitSize_codeSection]
  · simp only [List.length_flatMap, Wire.word, Bytes.length_ofNat, List.map_const', List.sum_replicate_nat, same,
      List.length_map, Nat.mul_comm]
  · rw [Read.words_flatMap_word, same]

structure Ciphered (stream : Nat → UInt8) (before after : Function) : Prop where
  fields : ∃ recorded, after = { before with recorded }
  payload : after.payload? = before.payload?.map (Cipher.combine stream)

theorem ciphered_onFunction (key : Bytes) (each : Function) :
    Ciphered (Cipher.own key) each (Cipher.onFunction key each) where
  fields := ⟨_, rfl⟩
  payload := by
    rw [payload?, payload?, Cipher.recording?_code]
    cases each.recording? .code with
    | none => rfl
    | some kept => simp [Cipher.splitSize_onCode]

theorem ciphered_self (each : Function) : Ciphered (Cipher.stream []) each each where
  fields := ⟨each.recorded, rfl⟩
  payload := by
    cases each.payload? with
    | none => rfl
    | some payload =>
      have same := (Cipher.combine_eq_self_iff (Cipher.stream []) payload).mpr fun _ _ => rfl
      rw [Option.map_some, same]

theorem Ciphered.trans {first second : Nat → UInt8} {before between after : Function}
    (early : Ciphered first before between) (late : Ciphered second between after) :
    Ciphered (fun index => first index ^^^ second index) before after where
  fields := by
    obtain ⟨_, rfl⟩ := early.fields
    obtain ⟨recorded, rfl⟩ := late.fields
    exact ⟨recorded, rfl⟩
  payload := by
    rw [late.payload, early.payload, Option.map_map]
    congr 1
    funext payload
    exact Cipher.combine_combine first second payload

theorem Ciphered.code {stream : Nat → UInt8} {before after : Function} (ciphered : Ciphered stream before after) :
    after.code = before.code := by
  obtain ⟨_, rfl⟩ := ciphered.fields
  rfl

theorem Ciphered.agrees_iff {stream : Nat → UInt8} {before after : Function}
    (ciphered : Ciphered stream before after) (agrees : before.Agrees) :
    after.Agrees ↔ ∀ index < 4 * before.code.length, stream index = 0 := by
  obtain ⟨payload, kept, length, words⟩ := agrees
  have keptAfter : after.payload? = some (Cipher.combine stream payload) := by rw [ciphered.payload, kept, Option.map_some]
  rw [← length, ← Cipher.combine_eq_self_iff, Agrees, keptAfter, ciphered.code]
  constructor
  · rintro ⟨_, ⟨rfl⟩, _, wordsAfter⟩
    have whole : payload.length % 4 = 0 := by omega
    exact Wire.words_injective (by rwa [Cipher.length_combine]) whole (by rw [wordsAfter, words])
  · intro same
    exact ⟨payload, by rw [same], length, words⟩

end Function

def Session.cipherAll (session : Session) (keys : List Bytes) : Session :=
  keys.foldl (fun session key => (session.setKey key).cipher) session

theorem Session.main_cipherAll (session : Session) (keys : List Bytes) (keyed : ∀ key ∈ keys, key ≠ []) :
    ∃ change : Function → Function, (session.cipherAll keys).main = session.main.map (Tree.map change) ∧
      ∀ each, Function.Ciphered (Cipher.stream keys) each (change each) := by
  induction keys generalizing session with
  | nil =>
    refine ⟨id, ?_, Function.ciphered_self⟩
    change session.main = session.main.map (Tree.map id)
    cases session.main with
    | none => rfl
    | some tree => exact congrArg some (Tree.map_eq_self (fun _ => rfl) tree).symm
  | cons key keys ih =>
    have step := session.cipher_setKey (keyed key List.mem_cons_self)
    obtain ⟨change, run, ciphered⟩ :=
      ih (session.setKey key).cipher fun other member => keyed other (List.mem_cons_of_mem key member)
    refine ⟨fun each => change (Cipher.onFunction key each), ?_, ?_⟩
    · change ((session.setKey key).cipher.cipherAll keys).main = _
      rw [run, step]
      dsimp only
      rw [Option.map_map]
      congr 1
      funext tree
      exact Tree.map_map change (Cipher.onFunction key) tree
    · intro each
      exact (Function.ciphered_onFunction key each).trans (ciphered (Cipher.onFunction key each))

def KeepsFields (change : Function → Function) : Prop := ∀ each, ∃ recorded, change each = { each with recorded }

theorem instructions_map {change : Function → Function} (fields : KeepsFields change) (tree : Prototype) :
    instructions (tree.map change) = instructions tree := by
  have codes : ∀ each, (change each).code = each.code := by
    intro each
    obtain ⟨_, same⟩ := fields each
    rw [same]
  simp only [instructions, Tree.toList_map, List.flatMap_map, codes]

theorem factRows_change {change : Function → Function} (fields : KeepsFields change) (each : Function) (count : Nat) :
    (change each).factRows count = each.factRows count := by
  obtain ⟨_, same⟩ := fields each
  rw [same]
  rfl

theorem boxes_change {change : Function → Function} (fields : KeepsFields change) (each : Function) (margin : String) :
    (change each).boxes margin = each.boxes margin := by
  obtain ⟨_, same⟩ := fields each
  rw [same]
  rfl

mutual
theorem listing_map {change : Function → Function} (fields : KeepsFields change) (level : Int) (tree : Prototype) :
    listing level (tree.map change) = listing level tree := by
  cases tree with
  | node each inner =>
    have count := Tree.length_mapForest change inner
    have empty : (Tree.mapForest change inner).isEmpty = inner.isEmpty := by
      rw [Tree.mapForest_eq, List.isEmpty_map]
    rw [Tree.map, listing, listing, factRows_change fields each, boxes_change fields each, count, empty,
      forestListing_map fields level 0 inner]
theorem forestListing_map {change : Function → Function} (fields : KeepsFields change) (level : Int) (index : Nat)
    (forest : List Prototype) :
    forestListing level index (Tree.mapForest change forest) = forestListing level index forest := by
  cases forest with
  | nil => rfl
  | cons tree forest =>
    rw [Tree.mapForest, forestListing, forestListing, listing_map fields (level + 1) tree,
      forestListing_map fields level (index + 1) forest]
end

theorem agrees_of_parse {file : Bytes} {chunk : Chunk} {after : Input} (accepted : parse true file = (.ok chunk, after)) :
    ∀ each ∈ chunk.main.toList, each.Agrees := by
  intro each member
  have known := Tree.forall_of_every chunk.main (encodable_of_parse accepted) each member
  exact Function.agrees_of_inStep (known.2 rfl)

theorem words_agree_iff_keys_cancel (file : Bytes) (chunk : Chunk) (after : Input) (session : Session)
    (keys : List Bytes) (accepted : parse true file = (.ok chunk, after)) (loaded : session.main = some chunk.main)
    (keyed : ∀ key ∈ keys, key ≠ []) :
    (∀ each ∈ chunk.main.toList, each.Agrees) ∧
    ∃ change : Function → Function, (session.cipherAll keys).main = some (chunk.main.map change) ∧
      (∀ each, Function.Ciphered (Cipher.stream keys) each (change each)) ∧
      (∀ level, listing level (chunk.main.map change) = listing level chunk.main) ∧
      instructions (chunk.main.map change) = instructions chunk.main ∧
      ((∀ each ∈ (chunk.main.map change).toList, each.Agrees) ↔
        ∀ each ∈ chunk.main.toList, ∀ index < 4 * each.code.length, Cipher.stream keys index = 0) := by
  have agrees := agrees_of_parse accepted
  obtain ⟨change, run, ciphered⟩ := session.main_cipherAll keys keyed
  have fields : KeepsFields change := fun each => (ciphered each).fields
  refine ⟨agrees, change, by rw [run, loaded, Option.map_some], ciphered,
    fun level => listing_map fields level chunk.main, instructions_map fields chunk.main, ?_⟩
  rw [Tree.toList_map, List.forall_mem_map]
  constructor
  · intro after each member
    exact ((ciphered each).agrees_iff (agrees each member)).mp (after each member)
  · intro cancel each member
    exact ((ciphered each).agrees_iff (agrees each member)).mpr (cancel each member)

-- A function of one instruction, encrypted with a key of one byte.
def hiddenWord : Bytes :=
  Write.header ++ [0, 0x81, 0x80, 0x80, 0, 0, 2, 0x81, 0x0D, 0x4B, 0x4A, 0x4A, 0x80, 0x80, 0x80, 0x80, 0x80, 0x80, 0x80]

theorem words_agree_iff_keys_cancel_hiddenWord :
    ∃ chunk after, parse true hiddenWord = (.ok chunk, after) ∧ (∀ each ∈ chunk.main.toList, each.Agrees) ∧
      ∃ change : Function → Function,
        (({ main := some chunk.main } : Session).cipherAll [[0x4B]]).main = some (chunk.main.map change) ∧
        instructions (chunk.main.map change) = [0x4A4A4B0D] ∧
        ¬ ∀ each ∈ (chunk.main.map change).toList, each.Agrees := by
  have words : seen (fun chunk => (instructions chunk.main, chunk.main.top.code.length)) hiddenWord =
      some ([0x4A4A4B0D], 1) := by
    decide +kernel
  obtain ⟨chunk, after, accepted, found⟩ := parse_of_seen words
  obtain ⟨shown, single⟩ := Prod.mk.inj found
  obtain ⟨agrees, change, run, _, _, same, iff⟩ := words_agree_iff_keys_cancel hiddenWord chunk after
    { main := some chunk.main } [[0x4B]] accepted rfl (by decide)
  refine ⟨chunk, after, accepted, agrees, change, run, same.trans shown, ?_⟩
  intro still
  have zero := iff.mp still chunk.main.top (Tree.top_mem_toList chunk.main) 0 (by omega)
  exact absurd zero (by decide)

-- After decryption the tree is written as the plain file, and shows the words of the encrypted one.
theorem decrypted_word_not_shown :
    seen (fun chunk => (({ main := some chunk.main } : Session).setKey [0x4B]).cipher.main.map instructions) hiddenWord =
        some (some [0x4A4A4B0D]) ∧
      seen (fun chunk => write (({ main := some chunk.main } : Session).setKey [0x4B]).cipher.main) hiddenWord =
        some { bytes := singleWord } ∧
      seen (fun chunk => instructions chunk.main) singleWord = some [0x01010046] := by
  decide +kernel

end LuaBytecode.V54
