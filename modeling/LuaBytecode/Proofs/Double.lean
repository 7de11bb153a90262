import LuaBytecode.Double

namespace LuaBytecode.Double

def Representable (n : Nat) : Prop :=
  ∃ significand exponent, significand < 2 ^ 53 ∧ exponent ≤ 971 ∧ n = significand * 2 ^ exponent

theorem view_cases (x : Double) :
    x.view = .nan ∨ x.view = .infinite x.negative ∨
      ∃ significand exponent, x.view = .finite x.negative significand exponent ∧ significand < 2 ^ 53 ∧
        exponent ≤ 971 := by
  have fraction : x.bits.toNat % 2 ^ 52 < 2 ^ 52 := Nat.mod_lt _ (by decide)
  have exponent : x.bits.toNat / 2 ^ 52 % 2 ^ 11 < 2048 := Nat.mod_lt _ (by decide)
  by_cases special : x.bits.toNat / 2 ^ 52 % 2 ^ 11 = 2047
  · by_cases zero : x.bits.toNat % 2 ^ 52 = 0
    · exact .inr (.inl (by simp only [view, if_pos special, if_pos zero]))
    · exact .inl (by simp only [view, if_pos special, if_neg zero])
  · by_cases least : x.bits.toNat / 2 ^ 52 % 2 ^ 11 = 0
    · refine .inr (.inr ⟨x.bits.toNat % 2 ^ 52, -1074, ?_, by omega, by decide⟩)
      simp only [view, if_neg special, if_pos least]
    · refine .inr (.inr ⟨x.bits.toNat % 2 ^ 52 + 2 ^ 52, (x.bits.toNat / 2 ^ 52 % 2 ^ 11 : Nat) - 1075, ?_, ?_, ?_⟩)
      · simp only [view, if_neg special, if_neg least]
      · omega
      · omega

theorem representable_of_trunc? {x : Double} {n : Int} (whole : x.trunc? = some n) : Representable n.natAbs := by
  obtain nan | infinite | ⟨significand, exponent, finite, small, low⟩ := x.view_cases
  · simp [trunc?, nan] at whole
  · simp [trunc?, infinite] at whole
  · have magnitude : n.natAbs = significand * 2 ^ exponent.toNat / 2 ^ (-exponent).toNat := by
      simp only [trunc?, finite, ratio, Option.some.injEq] at whole
      generalize significand * 2 ^ exponent.toNat / 2 ^ (-exponent).toNat = quotient at whole ⊢
      split at whole <;> omega
    by_cases nonneg : 0 ≤ exponent
    · have unit : (-exponent).toNat = 0 := by omega
      rw [unit, Nat.pow_zero, Nat.div_one] at magnitude
      exact ⟨significand, exponent.toNat, small, by omega, magnitude⟩
    · have unit : exponent.toNat = 0 := by omega
      rw [unit, Nat.pow_zero, Nat.mul_one] at magnitude
      have less := Nat.div_le_self significand (2 ^ (-exponent).toNat)
      exact ⟨n.natAbs, 0, by omega, by decide, by rw [Nat.pow_zero, Nat.mul_one]⟩

theorem roundDiv_mul {divisor : Nat} (positive : 0 < divisor) (n : Nat) : roundDiv (n * divisor) divisor = n := by
  simp [roundDiv, Nat.mul_mod_left, positive, Nat.mul_div_cancel n positive]

-- The 53 bits from the highest one on: below them there are only zeros.
theorem exists_significand {n : Nat} (nonzero : n ≠ 0) (representable : Representable n) :
    n.log2 ≤ 1023 ∧ ∃ significand, 2 ^ 52 ≤ significand ∧ significand < 2 ^ 53 ∧
      n * 2 ^ (52 - n.log2) = significand * 2 ^ (n.log2 - 52) := by
  obtain ⟨own, exponent, small, low, rfl⟩ := representable
  have least := Nat.log2_self_le nonzero
  have most := @Nat.lt_log2_self (own * 2 ^ exponent)
  generalize (own * 2 ^ exponent).log2 = log at least most
  have bound : own * 2 ^ exponent < 2 ^ (53 + exponent) := by
    rw [Nat.pow_add]
    exact Nat.mul_lt_mul_of_pos_right small (Nat.two_pow_pos exponent)
  have reach : log < 53 + exponent := (Nat.pow_lt_pow_iff_right (by decide)).mp (Nat.lt_of_le_of_lt least bound)
  refine ⟨by omega, ?_⟩
  by_cases short : log ≤ 52
  · have unit : log - 52 = 0 := by omega
    have split : 2 ^ log * 2 ^ (52 - log) = 2 ^ 52 := by rw [← Nat.pow_add, Nat.add_sub_cancel' short]
    refine ⟨own * 2 ^ exponent * 2 ^ (52 - log), ?_, ?_, by rw [unit, Nat.pow_zero, Nat.mul_one]⟩
    · rw [← split]
      exact Nat.mul_le_mul_right _ least
    · calc own * 2 ^ exponent * 2 ^ (52 - log)
          < 2 ^ (log + 1) * 2 ^ (52 - log) := Nat.mul_lt_mul_of_pos_right most (Nat.two_pow_pos _)
        _ = 2 ^ 53 := by rw [← Nat.pow_add]; congr 1; omega
  · have unit : 52 - log = 0 := by omega
    have whole : exponent = exponent - (log - 52) + (log - 52) := by omega
    have split : own * 2 ^ exponent = own * 2 ^ (exponent - (log - 52)) * 2 ^ (log - 52) := by
      rw [Nat.mul_assoc, ← Nat.pow_add, ← whole]
    have positive := Nat.two_pow_pos (log - 52)
    have lowest : 2 ^ log = 2 ^ 52 * 2 ^ (log - 52) := by rw [← Nat.pow_add]; congr 1; omega
    have highest : 2 ^ (log + 1) = 2 ^ 53 * 2 ^ (log - 52) := by rw [← Nat.pow_add]; congr 1; omega
    rw [split, lowest] at least
    rw [split, highest] at most
    refine ⟨own * 2 ^ (exponent - (log - 52)), ?_, ?_, by rw [unit, Nat.pow_zero, Nat.mul_one, split]⟩
    · exact Nat.le_of_mul_le_mul_right least positive
    · exact Nat.lt_of_mul_lt_mul_right most

theorem view_of_fields (negative : Bool) {exponent fraction : Nat} (low : 0 < exponent) (high : exponent < 2047)
    (small : fraction < 2 ^ 52) :
    view ⟨UInt64.ofNat ((if negative then 2 ^ 63 else 0) + (exponent * 2 ^ 52 + fraction))⟩ =
      .finite negative (fraction + 2 ^ 52) ((exponent : Int) - 1075) := by
  have sign : (if negative then 2 ^ 63 else 0 : Nat) = 2 ^ 63 ∨ (if negative then 2 ^ 63 else 0 : Nat) = 0 := by
    cases negative <;> simp
  generalize bits : (if negative then 2 ^ 63 else 0) + (exponent * 2 ^ 52 + fraction) = n
  have value : (UInt64.ofNat n).toNat = n := UInt64.toNat_ofNat_of_lt' (by unfold UInt64.size; omega)
  have exponentField : n / 2 ^ 52 % 2 ^ 11 = exponent := by omega
  have fractionField : n % 2 ^ 52 = fraction := by omega
  have signField : decide (n / 2 ^ 63 = 1) = negative := by
    cases negative <;> simp at bits ⊢ <;> omega
  simp only [view, Double.negative, value, exponentField, fractionField, signField]
  rw [if_neg (by omega), if_neg (by omega)]

-- The first guess at the exponent leaves 54 bits, so that the one above it is taken.
theorem le_first_guess {n : Nat} (nonzero : n ≠ 0) : 2 ^ 53 ≤ n * 2 ^ (53 - n.log2) / 2 ^ (n.log2 - 53) := by
  have least := Nat.log2_self_le nonzero
  generalize n.log2 = log at *
  rw [Nat.le_div_iff_mul_le (Nat.two_pow_pos _)]
  calc 2 ^ 53 * 2 ^ (log - 53) = 2 ^ log * 2 ^ (53 - log) := by
        rw [← Nat.pow_add, ← Nat.pow_add]
        congr 1
        omega
    _ ≤ n * 2 ^ (53 - log) := Nat.mul_le_mul_right _ least

theorem ofRatio?_whole (negative : Bool) {n significand : Nat} (nonzero : n ≠ 0) (reach : n.log2 ≤ 1023)
    (low : 2 ^ 52 ≤ significand) (high : significand < 2 ^ 53)
    (aligned : n * 2 ^ (52 - n.log2) = significand * 2 ^ (n.log2 - 52)) :
    ofRatio? negative n 1 = some ⟨UInt64.ofNat
      ((if negative then 2 ^ 63 else 0) + ((n.log2 + 1023) * 2 ^ 52 + (significand - 2 ^ 52)))⟩ := by
  have guess := le_first_guess nonzero
  have unit : Nat.log2 1 = 0 := by decide
  have up : (-((n.log2 : Int) - (0 : Nat) - 53)).toNat = 53 - n.log2 := by omega
  have down : ((n.log2 : Int) - (0 : Nat) - 53).toNat = n.log2 - 53 := by omega
  have fitted : max ((n.log2 : Int) - (0 : Nat) - 53 + 1) (-1074) = n.log2 - 52 := by omega
  have up' : (-((n.log2 : Int) - 52)).toNat = 52 - n.log2 := by omega
  have down' : ((n.log2 : Int) - 52).toNat = n.log2 - 52 := by omega
  have biased : ((n.log2 : Int) - 52 + 1075).toNat = n.log2 + 1023 := by omega
  have exact := roundDiv_mul (Nat.two_pow_pos (n.log2 - 52)) significand
  have normal : ¬ significand < 2 ^ 52 := by omega
  have within : ¬ 2047 * 2 ^ 52 ≤ (n.log2 + 1023) * 2 ^ 52 + (significand - 2 ^ 52) := by omega
  simp only [ofRatio?, if_neg nonzero, unit, up, down, Nat.one_mul, if_pos guess, fitted, up', down', aligned, exact,
    biased, if_neg normal, if_neg within]

theorem equalsInt_of_view {x : Double} {n : Int} {significand : Nat} {exponent : Int}
    (view : x.view = .finite (decide (n < 0)) significand exponent)
    (aligned : n.natAbs * 2 ^ (-exponent).toNat = significand * 2 ^ exponent.toNat) : x.equalsInt n = true := by
  simp only [equalsInt, fraction?, view, ratio, ← aligned]
  by_cases sign : n < 0
  · have magnitude : (n.natAbs : Int) = -n := by omega
    simp only [sign, decide_true, ↓reduceIte, Int.natCast_mul, magnitude, Int.natCast_pow, Int.cast_ofNat_Int, Int.neg_mul,
      Int.neg_neg]
  · have magnitude : (n.natAbs : Int) = n := by omega
    simp [sign, magnitude]

theorem ofInt?_of_representable {n : Int} (representable : Representable n.natAbs) :
    ∃ x, ofInt? n = some x ∧ x.equalsInt n = true := by
  by_cases zero : n = 0
  · subst zero
    have view : view ⟨0⟩ = .finite false 0 (-1074) := by decide
    exact ⟨⟨0⟩, by decide, equalsInt_of_view view (by rw [Int.natAbs_zero, Nat.zero_mul, Nat.zero_mul])⟩
  · have nonzero : n.natAbs ≠ 0 := by omega
    obtain ⟨reach, significand, low, high, aligned⟩ := exists_significand nonzero representable
    have view := view_of_fields (decide (n < 0)) (show 0 < n.natAbs.log2 + 1023 by omega) (by omega)
      (show significand - 2 ^ 52 < 2 ^ 52 by omega)
    have up : (-(((n.natAbs.log2 + 1023 : Nat) : Int) - 1075)).toNat = 52 - n.natAbs.log2 := by omega
    have down : (((n.natAbs.log2 + 1023 : Nat) : Int) - 1075).toNat = n.natAbs.log2 - 52 := by omega
    have whole : significand - 2 ^ 52 + 2 ^ 52 = significand := by omega
    refine ⟨_, ofRatio?_whole (decide (n < 0)) nonzero reach low high aligned, equalsInt_of_view view ?_⟩
    rw [up, down, whole, aligned]

theorem ofInt?_of_trunc? {x : Double} {n : Int} (whole : x.trunc? = some n) :
    ∃ y, ofInt? n = some y ∧ y.equalsInt n = true :=
  ofInt?_of_representable (representable_of_trunc? whole)

end LuaBytecode.Double
