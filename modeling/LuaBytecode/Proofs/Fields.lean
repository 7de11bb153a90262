import LuaBytecode.Instruction
import Mathlib.Data.Int.Bitwise
import Mathlib.Tactic.Ring
/-!
Fields of instruction words. Words have no width of their own, so a field is said three ways: by shift
and mask in two's complement, by division and remainder, and by what it adds to the fields below it.
-/
namespace LuaBytecode

-- Among the bits of a negative number, those below a place are its residue, too.
theorem land_mask (n : Int) (width : Nat) : Int.land n (2 ^ width - 1) = n % 2 ^ width := by
  have power : ((2 ^ width : Nat) : Int) = 2 ^ width := by simp
  have positive : 0 < 2 ^ width := Nat.two_pow_pos width
  have mask : (2 : Int) ^ width - 1 = ((2 ^ width - 1 : Nat) : Int) := by omega
  rw [mask, ← power]
  cases n with
  | ofNat n =>
    change ((n &&& (2 ^ width - 1) : Nat) : Int) = ((n % 2 ^ width : Nat) : Int)
    rw [Nat.and_two_pow_sub_one_eq_mod]
  | negSucc n =>
    have low : n % 2 ^ width < 2 ^ width := Nat.mod_lt n positive
    have flipped : Nat.ldiff (2 ^ width - 1) n = 2 ^ width - (n % 2 ^ width + 1) := by
      apply Nat.eq_of_testBit_eq
      intro index
      rw [Nat.testBit_ldiff, Nat.testBit_two_pow_sub_one, Nat.testBit_two_pow_sub_succ low, Nat.testBit_mod_two_pow]
      cases decide (index < width) <;> simp
    change ((Nat.ldiff (2 ^ width - 1) n : Nat) : Int) = _
    rw [flipped, Int.negSucc_emod n (by omega), ← Int.natCast_emod]
    omega

namespace Word

variable (word : Word) (start width : Nat)

theorem field_cast : (word.field start width : Int) = word.value / 2 ^ start % 2 ^ width :=
  Int.toNat_of_nonneg (Int.emod_nonneg _ (Int.ne_of_gt (Int.pow_pos (by decide))))

theorem field_lt : word.field start width < 2 ^ width := by
  have power : ((2 ^ width : Nat) : Int) = 2 ^ width := by simp
  have positive : (0 : Int) < 2 ^ width := Int.pow_pos (by decide)
  have bound := Int.emod_lt_of_pos (word.value / 2 ^ start) positive
  rw [← field_cast] at bound
  omega

theorem field_zero : (word.field 0 width : Int) = word.value % 2 ^ width := by
  rw [field_cast, Int.pow_zero, Int.ediv_one]

theorem field_eq_land : (word.field start width : Int) = Int.land (word.value >>> start) (2 ^ width - 1) := by
  have power : ((2 ^ start : Nat) : Int) = 2 ^ start := by simp
  rw [land_mask, Int.shiftRight_eq_div_pow, power, field_cast]

theorem field_add (low high : Nat) :
    word.field start (low + high) = word.field start low + 2 ^ low * word.field (start + low) high := by
  have nonneg (n : Nat) : (0 : Int) ≤ 2 ^ n := Int.le_of_lt (Int.pow_pos (by decide))
  have sum : (word.field start (low + high) : Int) = word.field start low + 2 ^ low * word.field (start + low) high := by
    rw [field_cast, field_cast, field_cast, Int.pow_add, Int.pow_add, Int.ediv_mul_of_nonneg (nonneg start)]
    generalize word.value / 2 ^ start = upper
    simp only [Int.emod_def, Int.ediv_mul_of_nonneg (nonneg low)]
    ring
  have power : ((2 ^ low : Nat) : Int) = 2 ^ low := by simp
  rw [← power] at sum
  exact_mod_cast sum

theorem field_emod {bits : Nat} (within : start + width ≤ bits) :
    (Word.mk (word.value % 2 ^ bits)).field start width = word.field start width := by
  obtain ⟨above, rfl⟩ := Nat.exists_eq_add_of_le within
  have nonzero : (2 : Int) ^ start ≠ 0 := Int.ne_of_gt (Int.pow_pos (by decide))
  have residue : word.value % 2 ^ (start + width + above) =
      word.value + 2 ^ start * (2 ^ width * (-(2 ^ above * (word.value / 2 ^ (start + width + above))))) := by
    rw [Int.emod_def, Int.pow_add, Int.pow_add]
    ring
  rw [field, field, residue, Int.add_mul_ediv_left _ _ nonzero, Int.add_mul_emod_self_left]

end Word

end LuaBytecode
