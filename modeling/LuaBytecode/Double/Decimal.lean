import LuaBytecode.Double

namespace LuaBytecode.Double

structure Decimal where
  coefficient : Nat
  exponent : Int
deriving DecidableEq, Repr

-- How a decimal is laid out: up to which number of digits before the point it is written
-- without an exponent, and whether a whole number keeps `.0`.
structure Style where
  wholeDigits : Int
  keepsPoint : Bool

namespace Decimal

def strip : (fuel : Nat) → Decimal → Decimal
  | 0, d => d
  | fuel + 1, d =>
    if d.coefficient ≠ 0 ∧ d.coefficient % 10 = 0 then
      strip fuel ⟨d.coefficient / 10, d.exponent + 1⟩
    else d

def zeros (count : Int) : List Char := List.replicate count.toNat '0'

def digits (n : Nat) : List Char := Nat.toDigits 10 n

def exponentText (n : Int) : List Char :=
  let text := digits n.natAbs
  (if n < 0 then '-' else '+') :: (if text.length < 2 then '0' :: text else text)

-- Text of a decimal whose coefficient has no trailing zero. Numbers below 0.0001 get an exponent.
def write (style : Style) (d : Decimal) : List Char :=
  let text := digits d.coefficient
  let whole : Int := text.length + d.exponent
  if d.coefficient = 0 then if style.keepsPoint then ['0', '.', '0'] else ['0']
  else if whole ≤ -4 ∨ style.wholeDigits < whole then
    let mantissa :=
      match text with
      | first :: second :: more => first :: '.' :: second :: more
      | short => short
    mantissa ++ 'e' :: exponentText (whole - 1)
  else if whole ≤ 0 then '0' :: '.' :: zeros (-whole) ++ text
  else if (text.length : Int) ≤ whole then
    text ++ zeros d.exponent ++ (if style.keepsPoint then ['.', '0'] else [])
  else text.take whole.toNat ++ '.' :: text.drop whole.toNat

end Decimal

def wholeDigits : (fuel : Nat) → (numerator denominator : Nat) → Int
  | 0, _, _ => 0
  | fuel + 1, numerator, denominator =>
    if denominator ≤ numerator then ((Decimal.digits (numerator / denominator)).length : Int)
    else if denominator ≤ 10 * numerator then 0
    else wholeDigits fuel (10 * numerator) denominator - 1

def overPower (numerator denominator : Nat) (exponent : Int) : Nat × Nat :=
  (numerator * 10 ^ (-exponent).toNat, denominator * 10 ^ exponent.toNat)

def significant (count : Nat) (numerator denominator : Nat) : Decimal :=
  let exponent := wholeDigits 400 numerator denominator - count
  let scaled := overPower numerator denominator exponent
  Decimal.strip 400 ⟨roundDiv scaled.1 scaled.2, exponent⟩

-- The fractions that round to `significand * 2 ^ exponent`: the ends over one denominator, and
-- whether they belong to it. The gap below a power of two is half as wide.
def rounding (significand : Nat) (exponent : Int) : Nat × Nat × Nat × Bool :=
  let narrow := significand = 2 ^ 52 ∧ -1074 < exponent
  let fine : Int := exponent - 2
  let scale := 2 ^ fine.toNat
  ((4 * significand - if narrow then 1 else 2) * scale, (4 * significand + 2) * scale,
    2 ^ (-fine).toNat, significand % 2 = 0)

-- Of the two neighbours on the grid of so many digits the nearer one that reads back.
def onGrid (significand : Nat) (exponent : Int) (count : Nat) : Option Decimal :=
  let (numerator, denominator) := ratio significand exponent
  let (least, greatest, unit, closed) := rounding significand exponent
  let grid := wholeDigits 400 numerator denominator - count
  let scaled := overPower numerator denominator grid
  let below := scaled.1 / scaled.2
  let reads (coefficient : Nat) : Bool :=
    let value := (coefficient * 10 ^ grid.toNat * unit, 10 ^ (-grid).toNat)
    if closed then least * value.2 ≤ value.1 ∧ value.1 ≤ greatest * value.2
    else least * value.2 < value.1 ∧ value.1 < greatest * value.2
  let nearest := roundDiv scaled.1 scaled.2
  let other := if nearest = below then below + 1 else below
  if reads nearest then some ⟨nearest, grid⟩
  else if reads other then some ⟨other, grid⟩
  else none

def shortest (significand : Nat) (exponent : Int) : Decimal :=
  if significand = 0 then ⟨0, 0⟩
  else
    match (List.range 17).findSome? fun count => onGrid significand exponent (count + 1) with
    | some found => Decimal.strip 400 found
    | none => ⟨0, 0⟩

def signText (negative : Bool) : List Char := if negative then ['-'] else []

def text (x : Double) : String :=
  match x.view with
  | .finite negative significand exponent =>
    String.ofList (signText negative ++ (shortest significand exponent).write ⟨16, true⟩)
  | .infinite negative => String.ofList (signText negative ++ ['i', 'n', 'f'])
  | .nan => "nan"

def general (count : Nat) (x : Double) : String :=
  match x.view with
  | .finite negative significand exponent =>
    let (numerator, denominator) := ratio significand exponent
    let decimal := if significand = 0 then ⟨0, 0⟩ else significant count numerator denominator
    String.ofList (signText negative ++ decimal.write ⟨count, false⟩)
  | .infinite negative => String.ofList (signText negative ++ ['i', 'n', 'f'])
  | .nan => "nan"

def countOf (places : Nat) (significand : Nat) (exponent : Int) : Nat :=
  let (numerator, denominator) := ratio significand exponent
  roundDiv (numerator * 10 ^ places) denominator

def fixed (places : Nat) (x : Double) : String :=
  match x.view with
  | .finite negative significand exponent =>
    let count := countOf places significand exponent
    let whole := Decimal.digits (count / 10 ^ places)
    let part := Decimal.digits (count % 10 ^ places)
    let point := if places = 0 then [] else '.' :: Decimal.zeros (places - part.length) ++ part
    String.ofList (signText negative ++ whole ++ point)
  | .infinite negative => String.ofList (signText negative ++ ['i', 'n', 'f'])
  | .nan => "nan"

def roundTo (places : Nat) (x : Double) : Double :=
  match x.view with
  | .finite negative significand exponent =>
    ofRatio negative (countOf places significand exponent) (10 ^ places)
  | _ => x

end LuaBytecode.Double
