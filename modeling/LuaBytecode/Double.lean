import LuaBytecode.Bytes

namespace LuaBytecode

structure Double where
  bits : UInt64
deriving DecidableEq, Repr

namespace Double

-- What the bits stand for: `significand * 2 ^ exponent` with a sign, or no finite number.
inductive View where
  | finite (negative : Bool) (significand : Nat) (exponent : Int)
  | infinite (negative : Bool)
  | nan
deriving DecidableEq, Repr

def negative (x : Double) : Bool := x.bits.toNat / 2 ^ 63 = 1

def view (x : Double) : View :=
  let exponent : Nat := x.bits.toNat / 2 ^ 52 % 2 ^ 11
  let fraction : Nat := x.bits.toNat % 2 ^ 52
  if exponent = 2047 then if fraction = 0 then .infinite x.negative else .nan
  else if exponent = 0 then .finite x.negative fraction (-1074)
  else .finite x.negative (fraction + 2 ^ 52) ((exponent : Int) - 1075)

def isNaN (x : Double) : Bool := x.view = .nan

-- A quotient rounded to the nearest whole number, a half to the even one.
def roundDiv (numerator denominator : Nat) : Nat :=
  let quotient := numerator / denominator
  let twice := 2 * (numerator % denominator)
  if twice < denominator then quotient
  else if twice = denominator then quotient + quotient % 2
  else quotient + 1

def ratio (significand : Nat) (exponent : Int) : Nat × Nat :=
  (significand * 2 ^ exponent.toNat, 2 ^ (-exponent).toNat)

def infinity (negative : Bool) : Double :=
  ⟨UInt64.ofNat ((if negative then 2 ^ 63 else 0) + 2047 * 2 ^ 52)⟩

-- The double nearest to a fraction, the even one of two; `none` beyond the largest.
def ofRatio? (negative : Bool) (numerator denominator : Nat) : Option Double :=
  let sign := if negative then 2 ^ 63 else 0
  if numerator = 0 then some ⟨UInt64.ofNat sign⟩
  else
    let guess : Int := (numerator.log2 : Int) - denominator.log2 - 53
    let scaled (exponent : Int) : Nat × Nat :=
      (numerator * 2 ^ (-exponent).toNat, denominator * 2 ^ exponent.toNat)
    let wide := scaled guess
    let fitted := if 2 ^ 53 ≤ wide.1 / wide.2 then guess + 1 else guess
    let exponent := max fitted (-1074)
    let exact := scaled exponent
    let significand := roundDiv exact.1 exact.2
    let magnitude :=
      if significand < 2 ^ 52 then significand
      else (exponent + 1075).toNat * 2 ^ 52 + (significand - 2 ^ 52)
    if 2047 * 2 ^ 52 ≤ magnitude then none else some ⟨UInt64.ofNat (sign + magnitude)⟩

def ofRatio (negative : Bool) (numerator denominator : Nat) : Double :=
  (ofRatio? negative numerator denominator).getD (infinity negative)

def ofInt? (n : Int) : Option Double := ofRatio? (n < 0) n.natAbs 1

def ofDecimal (negative : Bool) (coefficient : Nat) (exponent : Int) : Double :=
  ofRatio negative (coefficient * 10 ^ exponent.toNat) (10 ^ (-exponent).toNat)

def trunc? (x : Double) : Option Int :=
  match x.view with
  | .finite negative significand exponent =>
    let (numerator, denominator) := ratio significand exponent
    let whole : Int := (numerator / denominator : Nat)
    some (if negative then -whole else whole)
  | _ => none

def fraction? (x : Double) : Option (Int × Nat) :=
  match x.view with
  | .finite negative significand exponent =>
    let (numerator, denominator) := ratio significand exponent
    some (if negative then -(numerator : Int) else numerator, denominator)
  | _ => none

def equalsInt (x : Double) (n : Int) : Bool :=
  match x.fraction? with
  | some (numerator, denominator) => numerator = n * denominator
  | none => false

theorem trunc?_of_equalsInt {x : Double} {n : Int} (same : x.equalsInt n) : x.trunc? = some n := by
  unfold equalsInt fraction? at same
  unfold trunc?
  cases view : x.view with
  | finite negative significand exponent =>
    have positive : 0 < (ratio significand exponent).2 := Nat.pow_pos (by decide)
    simp only [view, decide_eq_true_eq] at same ⊢
    generalize ratio significand exponent = parts at same positive
    have nonzero : (parts.2 : Int) ≠ 0 := by omega
    cases negative with
    | false =>
      simp only [Bool.false_eq_true, if_false] at same ⊢
      rw [Int.natCast_ediv, same, Int.mul_ediv_cancel n nonzero]
    | true =>
      have opposite : (parts.1 : Int) = -n * parts.2 := by
        rw [Int.neg_mul, ← same, if_pos rfl, Int.neg_neg]
      rw [if_pos rfl, Int.natCast_ediv, opposite, Int.mul_ediv_cancel (-n) nonzero, Int.neg_neg]
  | infinite negative => simp [view] at same
  | nan => simp [view] at same

def ofFraction (numerator : Int) (denominator : Nat) : Double :=
  ofRatio (numerator < 0) numerator.natAbs denominator

end Double

end LuaBytecode
