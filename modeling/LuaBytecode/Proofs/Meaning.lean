import LuaBytecode.Constant.Order
import Mathlib.Algebra.Field.Rat

namespace LuaBytecode

inductive Meaning where
  | nothing
  | number (value : ℚ)
  | infinite (negative : Bool)
  | text (content : String)
  | emptyList
deriving DecidableEq

def Double.meaning? (x : Double) : Option Meaning :=
  match x.view with
  | .finite negative significand exponent =>
    some (.number ((if negative then -1 else 1) * significand * 2 ^ exponent))
  | .infinite negative => some (.infinite negative)
  | .nan => none

namespace Constant

def meaning? : Constant → Option Meaning
  | nil => some .nothing
  | bool value => some (.number (if value then 1 else 0))
  | int value => some (.number value)
  | num value => value.meaning?
  | str text => some (.text text)
  | emptyList => some .emptyList

inductive Point.Means : Point → Meaning → Prop
  | below : Means .below (.infinite true)
  | above : Means .above (.infinite false)
  | at (numerator : Int) (denominator : Nat) (positive : 0 < denominator) :
    Means (.at numerator denominator) (.number (numerator / denominator))

theorem Point.compare_eq_iff {first second : Point} {meaning other : Meaning} (means : first.Means meaning)
    (means' : second.Means other) : first.compare second = .eq ↔ meaning = other := by
  cases means with
  | below => cases means' <;> simp [compare]
  | above => cases means' <;> simp [compare]
  | «at» n d positive =>
    cases means' with
    | below => simp [compare]
    | above => simp [compare]
    | «at» n' d' positive' =>
      have nonzero : (d : ℚ) ≠ 0 := Nat.cast_ne_zero.mpr (by omega)
      have nonzero' : (d' : ℚ) ≠ 0 := Nat.cast_ne_zero.mpr (by omega)
      rw [compare, Int.compare_eq_eq, Meaning.number.injEq, div_eq_div_iff nonzero nonzero']
      norm_cast

theorem ratio_eq (significand : Nat) (exponent : Int) :
    ((Double.ratio significand exponent).1 : ℚ) / (Double.ratio significand exponent).2 =
      significand * 2 ^ exponent := by
  simp only [Double.ratio]
  rcases Int.le_total 0 exponent with nonneg | nonpos
  · obtain ⟨k, rfl⟩ := Int.eq_ofNat_of_zero_le nonneg
    simp
  · obtain ⟨k, opposite⟩ := Int.eq_ofNat_of_zero_le (Int.neg_nonneg_of_nonpos nonpos)
    obtain rfl : exponent = -k := by omega
    simp [div_eq_mul_inv]

theorem finite_means (negative : Bool) (significand : Nat) (exponent : Int) :
    Point.Means
      (.at (if negative then -((Double.ratio significand exponent).1 : Int) else (Double.ratio significand exponent).1)
        (Double.ratio significand exponent).2)
      (.number ((if negative then -1 else 1) * significand * 2 ^ exponent)) := by
  have positive : 0 < (Double.ratio significand exponent).2 := Nat.pow_pos (by decide)
  have value := ratio_eq significand exponent
  cases negative with
  | false =>
    have means := Point.Means.at (Double.ratio significand exponent).1 _ positive
    rw [Int.cast_natCast, value] at means
    simpa using means
  | true =>
    have means := Point.Means.at (-((Double.ratio significand exponent).1 : Int)) _ positive
    rw [Int.cast_neg, Int.cast_natCast, neg_div, value] at means
    simpa using means

theorem point?_num (x : Double) :
    (num x).point? = none ∧ x.meaning? = none ∨
      ∃ point meaning, (num x).point? = some point ∧ x.meaning? = some meaning ∧ point.Means meaning := by
  cases view : x.view with
  | nan => simp [point?, Double.meaning?, view]
  | infinite negative =>
    refine .inr ⟨if negative then .below else .above, .infinite negative, ?_, ?_, ?_⟩
    · simp only [point?, view]
    · simp only [Double.meaning?, view]
    · cases negative with
      | false => exact .above
      | true => exact .below
  | finite negative significand exponent =>
    refine .inr ⟨_, _, ?_, ?_, finite_means negative significand exponent⟩
    · simp only [point?, Double.fraction?, view, Option.map_some]
    · simp only [Double.meaning?, view]

theorem point?_means {constant : Constant} (isNumber : constant.kind = .number) :
    constant.point? = none ∧ constant.meaning? = none ∨
      ∃ point meaning, constant.point? = some point ∧ constant.meaning? = some meaning ∧ point.Means meaning := by
  have whole (n : Int) : Point.Means (.at n 1) (.number n) := by
    have means := Point.Means.at n 1 Nat.one_pos
    rwa [Nat.cast_one, div_one] at means
  cases constant with
  | bool value =>
    refine .inr ⟨_, _, rfl, rfl, ?_⟩
    cases value with
    | false => exact_mod_cast whole 0
    | true => exact_mod_cast whole 1
  | int value => exact .inr ⟨_, _, rfl, rfl, whole value⟩
  | num value => exact point?_num value
  | nil => cases isNumber
  | str text => cases isNumber
  | emptyList => cases isNumber

theorem equal_of_number {first second : Constant} (one : first.kind = .number) (other : second.kind = .number) :
    first.equal second = true ↔ ∃ meaning, first.meaning? = some meaning ∧ second.meaning? = some meaning := by
  simp only [equal, one, other]
  rcases point?_means one with ⟨nowhere, void⟩ | ⟨point, meaning, placed, meant, means⟩
  · simp [nowhere, void]
  · rcases point?_means other with ⟨nowhere, void⟩ | ⟨point', meaning', placed', meant', means'⟩
    · simp [placed, nowhere, void]
    · simp only [placed, placed', meant, meant', decide_eq_true_eq, Option.some.injEq]
      rw [Point.compare_eq_iff means means']
      exact ⟨fun same => ⟨meaning, rfl, same.symm⟩, fun ⟨_, one, other⟩ => one.trans other.symm⟩

theorem number_of_meaning {constant : Constant} {meaning : Meaning} (isNumber : constant.kind = .number)
    (meant : constant.meaning? = some meaning) :
    meaning ≠ .nothing ∧ (∀ text, meaning ≠ .text text) ∧ meaning ≠ .emptyList := by
  rcases point?_means isNumber with ⟨_, void⟩ | ⟨point, found, _, same, means⟩
  · rw [void] at meant
    cases meant
  · rw [same] at meant
    obtain rfl := Option.some.inj meant
    cases means <;> simp

theorem eq_of_meaning {first second : Constant} {meaning : Meaning} (plain : first.kind ≠ .number)
    (meant : first.meaning? = some meaning) (meant' : second.meaning? = some meaning) : first = second := by
  by_cases other : second.kind = .number
  · obtain ⟨nothing, text, list⟩ := number_of_meaning other meant'
    cases first with
    | nil => exact absurd (Option.some.inj meant).symm nothing
    | str content => exact absurd (Option.some.inj meant).symm (text content)
    | emptyList => exact absurd (Option.some.inj meant).symm list
    | bool value => exact absurd rfl plain
    | int value => exact absurd rfl plain
    | num value => exact absurd rfl plain
  · have same : first.meaning? = second.meaning? := meant.trans meant'.symm
    clear meant meant'
    cases first <;> cases second <;> simp_all [meaning?, kind]

theorem equal_of_plain {first second : Constant} (plain : first.kind ≠ .number ∨ second.kind ≠ .number) :
    first.equal second = true ↔ first = second := by
  unfold equal
  split
  · rename_i one other
    rcases plain with plain | plain
    · exact absurd one plain
    · exact absurd other plain
  · exact decide_eq_true_iff

theorem meaning_of_plain {constant : Constant} (plain : constant.kind ≠ .number) :
    ∃ meaning, constant.meaning? = some meaning := by
  cases constant <;> simp_all [meaning?, kind]

theorem equal_iff (first second : Constant) :
    first.equal second = true ↔ ∃ meaning, first.meaning? = some meaning ∧ second.meaning? = some meaning := by
  by_cases numbers : first.kind = .number ∧ second.kind = .number
  · exact equal_of_number numbers.1 numbers.2
  · have plain : first.kind ≠ .number ∨ second.kind ≠ .number := not_and_or.mp numbers
    rw [equal_of_plain plain]
    constructor
    · rintro rfl
      obtain ⟨meaning, meant⟩ := meaning_of_plain (or_self_iff.mp plain)
      exact ⟨meaning, meant, meant⟩
    · rintro ⟨meaning, meant, meant'⟩
      rcases plain with one | other
      · exact eq_of_meaning one meant meant'
      · exact (eq_of_meaning other meant' meant).symm

example :
    (bool true).equal (num ⟨0x3FF0000000000000⟩) ∧ (bool false).equal (num ⟨0⟩) ∧
      (bool false).equal (num ⟨0x8000000000000000⟩) ∧
      ¬ (num ⟨0x7FF8000000000000⟩).equal (num ⟨0x7FF8000000000000⟩) := by
  decide +kernel

end Constant

end LuaBytecode
