import LuaBytecode.Proofs.Fields
import LuaBytecode.V51.Prototype
import LuaBytecode.V52.Parts
import LuaBytecode.V52.Prototype
import LuaBytecode.V53.Prototype

namespace LuaBytecode

theorem Word.fields_side_by_side (word : Word) :
    word.value % 2 ^ 32 = word.number + 2 ^ 6 * (word.a + 2 ^ 8 * (word.c + 2 ^ 9 * word.b)) ∧
      word.bx = word.c + 2 ^ 9 * word.b ∧ word.ax = word.a + 2 ^ 8 * word.bx := by
  have whole : (word.field 0 32 : Int) = word.value % 2 ^ 32 := word.field_zero 32
  have number : word.field 0 32 = word.number + 2 ^ 6 * word.ax := word.field_add 0 6 26
  have a : word.ax = word.a + 2 ^ 8 * word.bx := word.field_add 6 8 18
  have c : word.bx = word.c + 2 ^ 9 * word.b := word.field_add 14 9 9
  refine ⟨?_, c, a⟩
  rw [← whole, number, a, c]
  omega

structure Decoding where
  opcode : Nat
  a : Nat
  b : Nat
  c : Nat
  bx : Nat
  sbx : Int
  ax : Option Nat
deriving DecidableEq

namespace Decoding

structure Of (found : Decoding) (word : UInt32) (hasAx : Bool) : Prop where
  opcode : found.opcode < 2 ^ 6
  a : found.a < 2 ^ 8
  b : found.b < 2 ^ 9
  c : found.c < 2 ^ 9
  word : word.toNat = found.opcode + found.a * 2 ^ 6 + found.c * 2 ^ 14 + found.b * 2 ^ 23
  bx : found.bx = found.b * 2 ^ 9 + found.c
  sbx : found.sbx = found.bx - 131071
  ax : found.ax = if hasAx then some (found.bx * 2 ^ 8 + found.a) else none

theorem Of.unique {word : UInt32} {hasAx hasAx' : Bool} {first second : Decoding} (one : first.Of word hasAx)
    (other : second.Of word hasAx') :
    first.a = second.a ∧ first.b = second.b ∧ first.c = second.c ∧ first.bx = second.bx ∧ first.sbx = second.sbx := by
  obtain ⟨opcode, a, b, c, word, bx, sbx, _⟩ := one
  obtain ⟨opcode', a', b', c', word', bx', sbx', _⟩ := other
  omega

end Decoding

-- Every word whose number is below the count is taken apart, and no other.
structure Decodes (count : Nat) (hasAx : Bool) (word : UInt32) (result : Except Fault Decoding) : Prop where
  rejects : result = .error (.unknownOpcode (word.toNat % 64)) ↔ count ≤ word.toNat % 64
  accepts : (∃ found, result = .ok found) ↔ word.toNat % 64 < count
  found : ∀ found, result = .ok found → found.Of word hasAx

theorem Word.number_ofNat (n : Nat) : (Word.mk n).number = n % 64 := by
  have cast : ((Word.mk n).number : Int) = (n : Int) % 2 ^ 6 := (Word.mk n).field_zero 6
  omega

namespace Instruction

variable {Opcode : Type} {ofNumber? : Nat → Option Opcode} {count : Nat}

theorem decode_of_none {word : Word} (unknown : ofNumber? word.number = none) :
    (decode word : Except Fault (Instruction ofNumber?)) = .error (.unknownOpcode word.number) := by
  unfold decode
  split
  · rename_i opcode known
    rw [unknown] at known
    cases known
  · rfl

theorem decode_of_some {word : Word} {opcode : Opcode} (known : ofNumber? word.number = some opcode) :
    (decode word : Except Fault (Instruction ofNumber?)) = .ok ⟨word, opcode, known⟩ :=
  decode_word ⟨word, opcode, known⟩

theorem lt_of_known (listed : ∀ n, ofNumber? n = none ↔ count ≤ n) {n : Nat} {opcode : Opcode}
    (known : ofNumber? n = some opcode) : n < count := by
  apply Nat.lt_of_not_le
  intro above
  rw [(listed n).mpr above] at known
  cases known

theorem decodes_of {hasAx : Bool} (listed : ∀ n, ofNumber? n = none ↔ count ≤ n)
    (view : Instruction ofNumber? → Decoding) (word : UInt32)
    (apart : ∀ each : Instruction ofNumber?, each.word = ⟨word.toNat⟩ → (view each).Of word hasAx) :
    Decodes count hasAx word ((decode ⟨word.toNat⟩).map view) := by
  have number := Word.number_ofNat word.toNat
  cases known : ofNumber? (Word.mk word.toNat).number with
  | none =>
    have above : count ≤ word.toNat % 64 := by rw [← number]; exact (listed _).mp known
    rw [decode_of_none known, number]
    exact ⟨⟨fun _ => above, fun _ => rfl⟩, ⟨nofun, fun below => absurd above (by omega)⟩, nofun⟩
  | some opcode =>
    have below : word.toNat % 64 < count := number ▸ lt_of_known listed known
    rw [decode_of_some known]
    refine ⟨⟨nofun, fun above => absurd above (by omega)⟩, ⟨fun _ => below, fun _ => ⟨_, rfl⟩⟩, ?_⟩
    rintro found same
    obtain rfl := Except.ok.inj same
    exact apart _ rfl

theorem number_opcode {number : Opcode → Nat} (listed : ∀ n, ofNumber? n = none ↔ count ≤ n)
    (numbered : ∀ n < count, (ofNumber? n).map number = some n) (each : Instruction ofNumber?) :
    number each.opcode = each.word.number := by
  have back := numbered _ (lt_of_known listed each.known)
  rw [each.known] at back
  exact Option.some.inj back

end Instruction

theorem Word.of_decoding (hasAx : Bool) {word : Word} {bits : UInt32} (same : word = ⟨bits.toNat⟩) :
    Decoding.Of ⟨word.number, word.a, word.b, word.c, word.bx, word.sbx, if hasAx then some word.ax else none⟩
      bits hasAx := by
  obtain ⟨whole, bx, ax⟩ := word.fields_side_by_side
  have bound := bits.toNat_lt
  have value : word.value = bits.toNat := by rw [same]
  constructor
  case opcode => exact word.field_lt 0 6
  case a => exact word.field_lt 6 8
  case b => exact word.field_lt 23 9
  case c => exact word.field_lt 14 9
  case word => dsimp only; omega
  case bx => dsimp only; omega
  case sbx => rfl
  case ax =>
    have joined : word.ax = word.bx * 2 ^ 8 + word.a := by omega
    rw [joined]

namespace V51

def decoding (each : Instruction) : Decoding :=
  let word := each.word
  ⟨each.opcode.number, word.a, word.b, word.c, word.bx, word.sbx, none⟩

def decoded (word : UInt32) : Except Fault Decoding := (Instruction.decode ⟨word.toNat⟩).map decoding

theorem decodes (word : UInt32) : Decodes 38 false word (decoded word) := by
  have listed (n : Nat) : Opcode.ofNumber? n = none ↔ 38 ≤ n := List.getElem?_eq_none_iff
  apply Instruction.decodes_of listed
  intro each same
  have number : each.opcode.number = each.word.number := Instruction.number_opcode listed (by decide) each
  rw [decoding, number]
  exact Word.of_decoding false same

end V51

namespace V52

def decoding (each : LuaBytecode.Instruction Opcode.ofNumber?) : Decoding :=
  let word := parts each.word
  ⟨each.opcode.number, word.a, word.b, word.c, word.bx, word.sbx, some word.ax⟩

def decoded (word : UInt32) : Except Fault Decoding := (Instruction.decode ⟨word.toNat⟩).map decoding

theorem parts_eq (word : Word) :
    parts word = ⟨word.value, word.number, word.a, word.b, word.c, word.bx, word.sbx, word.ax⟩ := rfl

theorem ofNumber?_eq_none (n : Nat) : Opcode.ofNumber? n = none ↔ 40 ≤ n := List.getElem?_eq_none_iff

theorem number_opcode (each : LuaBytecode.Instruction Opcode.ofNumber?) : each.opcode.number = each.word.number :=
  Instruction.number_opcode ofNumber?_eq_none (by decide) each

theorem decodes (word : UInt32) : Decodes 40 true word (decoded word) := by
  apply Instruction.decodes_of ofNumber?_eq_none
  intro each same
  rw [decoding, number_opcode, parts_eq]
  exact Word.of_decoding true same

end V52

namespace V53

def decoding (each : Instruction) : Decoding :=
  let word := each.word
  ⟨each.opcode.number, word.a, word.b, word.c, word.bx, word.sbx, some word.ax⟩

def decoded (word : UInt32) : Except Fault Decoding := (Instruction.decode ⟨word.toNat⟩).map decoding

theorem decodes (word : UInt32) : Decodes 47 true word (decoded word) := by
  have listed (n : Nat) : Opcode.ofNumber? n = none ↔ 47 ≤ n := List.getElem?_eq_none_iff
  apply Instruction.decodes_of listed
  intro each same
  have number : each.opcode.number = each.word.number := Instruction.number_opcode listed (by decide) each
  rw [decoding, number]
  exact Word.of_decoding true same

end V53

theorem decoders_agree (word : UInt32) :
    Decodes 38 false word (V51.decoded word) ∧ Decodes 40 true word (V52.decoded word) ∧
    Decodes 47 true word (V53.decoded word) ∧
    ∀ first ∈ [V51.decoded word, V52.decoded word, V53.decoded word],
      ∀ second ∈ [V51.decoded word, V52.decoded word, V53.decoded word], ∀ one other,
        first = .ok one → second = .ok other →
          one.a = other.a ∧ one.b = other.b ∧ one.c = other.c ∧ one.bx = other.bx ∧ one.sbx = other.sbx := by
  have lua51 := V51.decodes word
  have lua52 := V52.decodes word
  have lua53 := V53.decodes word
  refine ⟨lua51, lua52, lua53, ?_⟩
  have apart : ∀ result ∈ [V51.decoded word, V52.decoded word, V53.decoded word], ∀ found,
      result = .ok found → ∃ hasAx, found.Of word hasAx := by
    intro result member found accepted
    simp only [List.mem_cons, List.not_mem_nil, or_false] at member
    rcases member with rfl | rfl | rfl
    · exact ⟨false, lua51.found found accepted⟩
    · exact ⟨true, lua52.found found accepted⟩
    · exact ⟨true, lua53.found found accepted⟩
  intro first firstMember second secondMember one other accepted otherAccepted
  obtain ⟨_, own⟩ := apart first firstMember one accepted
  obtain ⟨_, others⟩ := apart second secondMember other otherAccepted
  exact own.unique others

-- Opcode 1 with A = 5, B = 3 and C = 258; version 5.3 has Ax, too.
theorem decoders_agree_opcodeOne :
    ∃ one other, V51.decoded 0x01C08141 = .ok one ∧ V53.decoded 0x01C08141 = .ok other ∧
      one = ⟨1, 5, 3, 258, 1794, -129277, none⟩ ∧ other.ax = some 459269 ∧
      one.a = other.a ∧ one.b = other.b ∧ one.c = other.c ∧ one.bx = other.bx ∧ one.sbx = other.sbx :=
  ⟨⟨1, 5, 3, 258, 1794, -129277, none⟩, ⟨1, 5, 3, 258, 1794, -129277, some 459269⟩, by decide, by decide, rfl, rfl,
    (decoders_agree 0x01C08141).2.2.2 (V51.decoded 0x01C08141) (by simp) (V53.decoded 0x01C08141) (by simp) _ _
      (by decide) (by decide)⟩

end LuaBytecode
