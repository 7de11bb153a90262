-- Powers are those of the core library, whatever algebra is in scope.
attribute [default_instance 10001] instPowNat

namespace LuaBytecode

instance (priority := 1100) corePower {α : Type} [NatPow α] : Pow α Nat := instPowNat

abbrev Bytes := List UInt8

namespace Bytes

def split? : Nat → Bytes → Option (Bytes × Bytes)
  | 0, bytes => some ([], bytes)
  | _ + 1, [] => none
  | count + 1, byte :: bytes =>
    match split? count bytes with
    | none => none
    | some (taken, left) => some (byte :: taken, left)

theorem split?_append (taken left : Bytes) :
    split? taken.length (taken ++ left) = some (taken, left) := by
  induction taken with
  | nil => rfl
  | cons byte taken ih => simp [split?, ih]

theorem eq_append_of_split? {count : Nat} {bytes taken left : Bytes}
    (cut : split? count bytes = some (taken, left)) :
    bytes = taken ++ left ∧ taken.length = count := by
  induction count generalizing bytes taken left with
  | zero => simp_all [split?]
  | succ count ih =>
    cases bytes with
    | nil => simp [split?] at cut
    | cons byte bytes =>
      simp only [split?] at cut
      split at cut
      · cases cut
      · rename_i inner found
        obtain ⟨joined, size⟩ := ih found
        cases cut
        simp [joined, size]

theorem split?_eq_none_iff {count : Nat} {bytes : Bytes} :
    split? count bytes = none ↔ bytes.length < count := by
  induction count generalizing bytes with
  | zero => simp [split?]
  | succ count ih =>
    cases bytes with
    | nil => simp [split?]
    | cons byte bytes =>
      simp only [split?, List.length_cons, Nat.add_lt_add_iff_right, ← ih]
      split <;> simp_all

def toNat : Bytes → Nat
  | [] => 0
  | byte :: bytes => byte.toNat + 256 * toNat bytes

def ofNat : (width : Nat) → Nat → Bytes
  | 0, _ => []
  | width + 1, n => UInt8.ofNat (n % 256) :: ofNat width (n / 256)

@[simp] theorem length_ofNat (width n : Nat) : (ofNat width n).length = width := by
  induction width generalizing n with
  | zero => rfl
  | succ width ih => simp [ofNat, ih]

theorem toNat_ofNat (width n : Nat) : toNat (ofNat width n) = n % 256 ^ width := by
  induction width generalizing n with
  | zero => simp [ofNat, toNat, Nat.mod_one]
  | succ width ih =>
    have low : (UInt8.ofNat (n % 256)).toNat = n % 256 :=
      UInt8.toNat_ofNat_of_lt' (Nat.mod_lt _ (by decide))
    rw [ofNat, toNat, ih, low, Nat.pow_succ, Nat.mul_comm (256 ^ width), Nat.mod_mul]

theorem toNat_lt (bytes : Bytes) : toNat bytes < 256 ^ bytes.length := by
  induction bytes with
  | nil => simp [toNat]
  | cons byte bytes ih =>
    have small : byte.toNat < 256 := UInt8.toNat_lt byte
    simp only [toNat, List.length_cons, Nat.pow_succ]
    omega

theorem ofNat_toNat (bytes : Bytes) : ofNat bytes.length (toNat bytes) = bytes := by
  induction bytes with
  | nil => rfl
  | cons byte bytes ih =>
    have small : byte.toNat < 256 := UInt8.toNat_lt byte
    have low : (byte.toNat + 256 * toNat bytes) % 256 = byte.toNat := by omega
    have high : (byte.toNat + 256 * toNat bytes) / 256 = toNat bytes := by omega
    simp [toNat, ofNat, low, high, ih]

def hexDigit (n : Nat) : Char :=
  if n < 10 then Char.ofNat (48 + n) else Char.ofNat (87 + n)

def toHex (bytes : Bytes) : String :=
  String.ofList (bytes.flatMap fun byte => [hexDigit (byte.toNat / 16), hexDigit (byte.toNat % 16)])

def hexItems (bytes : Bytes) : List String := bytes.map fun byte => "0x" ++ toHex [byte]

end Bytes

inductive ByteOrder where
  | little
  | big
deriving DecidableEq, Repr

namespace ByteOrder

def arrange : ByteOrder → Bytes → Bytes
  | little, bytes => bytes
  | big, bytes => bytes.reverse

def decode (order : ByteOrder) (bytes : Bytes) : Nat := (order.arrange bytes).toNat

def encode (order : ByteOrder) (width n : Nat) : Bytes := order.arrange (Bytes.ofNat width n)

@[simp] theorem length_encode (order : ByteOrder) (width n : Nat) :
    (order.encode width n).length = width := by
  cases order <;> simp [encode, arrange]

theorem decode_encode (order : ByteOrder) (width n : Nat) :
    order.decode (order.encode width n) = n % 256 ^ width := by
  cases order <;> simp [decode, encode, arrange, Bytes.toNat_ofNat]

end ByteOrder

def signed (bits n : Nat) : Int :=
  if n < 2 ^ (bits - 1) then n else (n : Int) - 2 ^ bits

def unsigned (bits : Nat) (n : Int) : Nat := (n % 2 ^ bits).toNat

theorem unsigned_lt (bits : Nat) (n : Int) : unsigned bits n < 2 ^ bits := by
  have positive : (0 : Int) < 2 ^ bits := Int.pow_pos (by decide)
  have low := Int.emod_nonneg n (Int.ne_of_gt positive)
  have high := Int.emod_lt_of_pos n positive
  have cast : ((2 ^ bits : Nat) : Int) = 2 ^ bits := by simp
  unfold unsigned
  omega

theorem signed_unsigned {bits : Nat} {n : Int} (low : -2 ^ bits ≤ n) (high : n < 2 ^ bits) :
    signed (bits + 1) (unsigned (bits + 1) n) = n := by
  have twice : (2 : Int) ^ (bits + 1) = 2 ^ bits * 2 := Int.pow_succ ..
  have cast : ((2 ^ bits : Nat) : Int) = 2 ^ bits := by simp
  unfold signed unsigned
  rw [Nat.add_sub_cancel]
  by_cases sign : 0 ≤ n
  · have residue : n % 2 ^ (bits + 1) = n := Int.emod_eq_of_lt sign (by omega)
    rw [residue]
    split <;> omega
  · have residue : n % 2 ^ (bits + 1) = n + 2 ^ (bits + 1) := by
      rw [← Int.add_emod_right, Int.emod_eq_of_lt (by omega) (by omega)]
    rw [residue]
    split <;> omega

def Bytes.ofByte (n : Int) : Bytes := [UInt8.ofNat (unsigned 8 n)]

structure Layout where
  order : ByteOrder := .little
  intWidth : Nat := 4
  sizeWidth : Nat := 4
  instructionWidth : Nat := 4
  numberWidth : Nat := 8
  stripped : Bool := false
deriving DecidableEq, Repr

end LuaBytecode
