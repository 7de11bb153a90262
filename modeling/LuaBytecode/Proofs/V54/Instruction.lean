import LuaBytecode.Proofs.Fields
import LuaBytecode.V54.Instruction

namespace LuaBytecode.V54

theorem field_emod (word : Int) {start width bits : Nat} (within : start + width ≤ bits) :
    field (word % 2 ^ bits) start width = field word start width :=
  (Word.mk word).field_emod start width within

theorem field_lt (word : Int) (start width : Nat) : field word start width < 2 ^ width :=
  (Word.mk word).field_lt start width

theorem fields_side_by_side (word : Int) :
    word % 2 ^ 32 = field word 0 7 + 2 ^ 7 * field word 7 25 ∧
      field word 7 25 = field word 7 8 + 2 ^ 8 * field word 15 17 ∧
      field word 15 17 = field word 15 1 + 2 ^ 1 * (field word 16 8 + 2 ^ 8 * field word 24 8) := by
  have whole : (field word 0 32 : Int) = word % 2 ^ 32 := (Word.mk word).field_zero 32
  have opcode : field word 0 32 = field word 0 7 + 2 ^ 7 * field word 7 25 := (Word.mk word).field_add 0 7 25
  have a : field word 7 25 = field word 7 8 + 2 ^ 8 * field word 15 17 := (Word.mk word).field_add 7 8 17
  have k : field word 15 17 = field word 15 1 + 2 ^ 1 * field word 16 16 := (Word.mk word).field_add 15 1 16
  have b : field word 16 16 = field word 16 8 + 2 ^ 8 * field word 24 8 := (Word.mk word).field_add 16 8 8
  refine ⟨?_, a, ?_⟩
  · rw [← whole, opcode]
    omega
  · rw [k, b]

-- What there is room for in a word; a signed operand has one number more above zero than below.
def Operands.Fits : Operands → Prop
  | .abc a b k c => a < 2 ^ 8 ∧ b < 2 ^ 8 ∧ k < 2 ∧ c < 2 ^ 8
  | .abx a bx => a < 2 ^ 8 ∧ bx < 2 ^ 17
  | .asbx a sbx => a < 2 ^ 8 ∧ -65535 ≤ sbx ∧ sbx ≤ 65536
  | .ax n => n < 2 ^ 25
  | .sj jump => -16777215 ≤ jump ∧ jump ≤ 16777216

def Operands.pack (opcode : Nat) : Operands → Int
  | .abc a b k c => opcode + a * 2 ^ 7 + k * 2 ^ 15 + b * 2 ^ 16 + c * 2 ^ 24
  | .abx a bx => opcode + a * 2 ^ 7 + bx * 2 ^ 15
  | .asbx a sbx => opcode + a * 2 ^ 7 + (sbx + 65535) * 2 ^ 15
  | .ax n => opcode + n * 2 ^ 7
  | .sj jump => opcode + (jump + 16777215) * 2 ^ 7

theorem mode_operandsOf (word : Int) (mode : Mode) : (operandsOf word mode).mode = mode := by
  cases mode <;> rfl

theorem fits_operandsOf (word : Int) (mode : Mode) : (operandsOf word mode).Fits := by
  have a := field_lt word 7 8
  have bx := field_lt word 15 17
  have ax := field_lt word 7 25
  cases mode with
  | abc => exact ⟨a, field_lt word 16 8, field_lt word 15 1, field_lt word 24 8⟩
  | abx => exact ⟨a, bx⟩
  | asbx =>
    simp only [operandsOf, Operands.Fits]
    omega
  | ax => exact ax
  | sj =>
    simp only [operandsOf, Operands.Fits]
    omega

theorem pack_operandsOf (word : Int) (mode : Mode) : (operandsOf word mode).pack (field word 0 7) = word % 2 ^ 32 := by
  obtain ⟨whole, ax, bx⟩ := fields_side_by_side word
  rw [whole]
  cases mode <;> simp only [operandsOf, Operands.pack] <;> omega

theorem operandsOf_emod (word : Int) (mode : Mode) : operandsOf (word % 2 ^ 32) mode = operandsOf word mode := by
  have a : field (word % 2 ^ 32) 7 8 = field word 7 8 := field_emod word (by decide)
  have k : field (word % 2 ^ 32) 15 1 = field word 15 1 := field_emod word (by decide)
  have b : field (word % 2 ^ 32) 16 8 = field word 16 8 := field_emod word (by decide)
  have c : field (word % 2 ^ 32) 24 8 = field word 24 8 := field_emod word (by decide)
  have bx : field (word % 2 ^ 32) 15 17 = field word 15 17 := field_emod word (by decide)
  have ax : field (word % 2 ^ 32) 7 25 = field word 7 25 := field_emod word (by decide)
  cases mode <;> simp only [operandsOf, a, k, b, c, bx, ax]

theorem decode_emod (word : Int) : decode (word % 2 ^ 32) = { decode word with raw := word % 2 ^ 32 } := by
  have opcode : field (word % 2 ^ 32) 0 7 = field word 0 7 := field_emod word (by decide)
  simp only [decode, opcode, operandsOf_emod]

theorem operands_decode {word : Int} (known : (decode word).opcode ≤ 82) :
    ∃ mode, opcodes[(decode word).opcode]? = some ((decode word).name, mode) ∧
      (decode word).operands = some (operandsOf word mode) := by
  have within : (decode word).opcode < opcodes.length := Nat.lt_of_le_of_lt known (by decide)
  have found : opcodes[(decode word).opcode]? = some opcodes[(decode word).opcode] := List.getElem?_eq_getElem within
  refine ⟨opcodes[(decode word).opcode].2, ?_, ?_⟩
  · rw [found]
    change _ = some (((opcodes[(decode word).opcode]?).map Prod.fst).getD "UNKNOWN", _)
    rw [found]
    rfl
  · change (opcodes[(decode word).opcode]?).map (fun entry => operandsOf word entry.2) = _
    rw [found]
    rfl

theorem decode_exact (word : Int) :
    (∀ start width, (field word start width : Int) = Int.land (word >>> start) (2 ^ width - 1)) ∧
    decode (word % 2 ^ 32) = { decode word with raw := word % 2 ^ 32 } ∧
    ((decode word).opcode ≤ 82 → ∃ operands, (decode word).operands = some operands ∧
      opcodes[(decode word).opcode]? = some ((decode word).name, operands.mode) ∧
      operands.Fits ∧ operands.pack (decode word).opcode = word % 2 ^ 32) := by
  refine ⟨(Word.mk word).field_eq_land, decode_emod word, ?_⟩
  intro known
  obtain ⟨mode, listed, found⟩ := operands_decode known
  refine ⟨operandsOf word mode, found, ?_, fits_operandsOf word mode, pack_operandsOf word mode⟩
  rw [mode_operandsOf, listed]

-- A jump back by seven, in a word that is negative and wider than 64 bits.
theorem decode_exact_wide :
    (decode (-2 ^ 70 + 0x7FFFFC38)).opcode ≤ 82 ∧
    (decode (-2 ^ 70 + 0x7FFFFC38)).operands = some (.sj (-7)) ∧
    ∃ operands, (decode (-2 ^ 70 + 0x7FFFFC38)).operands = some operands ∧
      opcodes[(decode (-2 ^ 70 + 0x7FFFFC38)).opcode]? = some ("JMP", operands.mode) ∧ operands.Fits ∧
      operands.pack (decode (-2 ^ 70 + 0x7FFFFC38)).opcode = (-2 ^ 70 + 0x7FFFFC38) % 2 ^ 32 :=
  ⟨by decide, by decide, (decode_exact (-2 ^ 70 + 0x7FFFFC38)).2.2 (by decide)⟩

end LuaBytecode.V54
