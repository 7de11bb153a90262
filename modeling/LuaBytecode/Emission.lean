import LuaBytecode.Fault
/-!
Bytes being written. Once a part fails nothing more is written, but what is written stays.
-/
namespace LuaBytecode

structure Emission where
  bytes : Bytes
  fault : Option Fault := none
deriving DecidableEq, Repr

namespace Emission

def nothing : Emission := { bytes := [] }

def failure (fault : Fault) : Emission := { bytes := [], fault := some fault }

protected def append (first second : Emission) : Emission :=
  match first.fault with
  | some _ => first
  | none => { bytes := first.bytes ++ second.bytes, fault := second.fault }

instance : Append Emission := ⟨Emission.append⟩

def join : List Emission → Emission
  | [] => nothing
  | first :: rest => first ++ join rest

def toExcept (emission : Emission) : Except Fault Bytes :=
  match emission.fault with
  | none => .ok emission.bytes
  | some fault => .error fault

def byte (n : Int) : Emission :=
  if 0 ≤ n ∧ n < 256 then { bytes := [UInt8.ofNat n.toNat] }
  else failure (if -2 ^ 63 ≤ n ∧ n < 2 ^ 63 then .byteRange else .longRange)

def word (n : Int) : Emission :=
  if 0 ≤ n ∧ n < 2 ^ 32 then { bytes := Bytes.ofNat 4 n.toNat }
  else failure (if 0 ≤ n ∧ n < 2 ^ 64 then .wordRange else .longRange)

def integer (n : Int) : Emission :=
  if -2 ^ 63 ≤ n ∧ n < 2 ^ 63 then { bytes := Bytes.ofNat 8 (unsigned 64 n) }
  else failure .longRange

theorem append_assoc (first second third : Emission) :
    first ++ second ++ third = first ++ (second ++ third) := by
  show Emission.append (Emission.append first second) third =
    Emission.append first (Emission.append second third)
  cases first with
  | mk bytes fault =>
    cases fault with
    | some fault => rfl
    | none =>
      cases second with
      | mk bytes' fault' => cases fault' <;> simp [Emission.append]

end Emission

end LuaBytecode
