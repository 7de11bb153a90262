import LuaBytecode.Jit.Reading
import LuaBytecode.Jit.Writing
import LuaBytecode.Proofs.Layout

namespace LuaBytecode.Jit

open Reader

variable {layout : Layout}

def FitsVarint (n : Int) : Prop := 0 ≤ n ∧ n < 2 ^ 35
deriving Decidable

def IsVarint (span : Bytes) : Prop :=
  ∃ front last, span = front ++ [last] ∧ front.length ≤ 4 ∧ (∀ byte ∈ front, 128 ≤ byte.toNat) ∧ last.toNat < 128

theorem Write.length_varint_pos (n : Nat) : 0 < (Write.varint n).length := by
  rw [Write.varint]
  split <;> simp

namespace Read

-- A step that takes seven bits into the number, and goes on as long as there is room for more. Shifts go up by seven
-- from the first, so that between the last of them and the limit that the step tests there may be a gap.
structure Groups (step : Nat × Nat → UInt8 → (Nat × Nat) ⊕ Except Fault Nat) (first bits : Nat) : Prop where
  last : ∀ value shift byte, byte.toNat < 128 →
    step (value, shift) byte = .inr (.ok (value + byte.toNat % 128 * 2 ^ shift))
  more : ∀ value shift byte, 128 ≤ byte.toNat → shift % 7 = first → shift + 7 < bits →
    step (value, shift) byte = .inl (value + byte.toNat % 128 * 2 ^ shift, shift + 7)

theorem groups_varintStep : Groups varintStep 0 35 where
  last value shift byte final := by simp [varintStep, final]
  more value shift byte goes _ room := by
    simp [varintStep, Nat.not_lt.mpr goes, Nat.not_le.mpr room]

-- Shifts of 6, 13, 20 and 27: the test is for 32 bits, and the last group has seven bits for the five that are left.
theorem groups_lowStep : Groups lowStep 6 34 where
  last value shift byte final := by simp [lowStep, final]
  more value shift byte goes aligned room := by
    have below : shift + 7 < 32 := by omega
    simp [lowStep, Nat.not_lt.mpr goes, Nat.not_le.mpr below]

theorem shift_lt {n shift bits : Nat} (large : 128 ≤ n) (fits : n * 2 ^ shift < 2 ^ bits) : shift + 7 < bits := by
  have low : 2 ^ (shift + 7) < 2 ^ bits := by
    calc 2 ^ (shift + 7) = 128 * 2 ^ shift := by rw [Nat.pow_add, Nat.mul_comm]
      _ ≤ n * 2 ^ shift := Nat.mul_le_mul_right _ large
      _ < 2 ^ bits := fits
  exact (Nat.pow_lt_pow_iff_right (by decide)).mp low

theorem split_groups (n shift : Nat) : n % 128 * 2 ^ shift + n / 128 * 2 ^ (shift + 7) = n * 2 ^ shift := by
  have power : 2 ^ (shift + 7) = 128 * 2 ^ shift := by rw [Nat.pow_add, Nat.mul_comm]
  have parts : n % 128 + n / 128 * 128 = n := by omega
  calc n % 128 * 2 ^ shift + n / 128 * 2 ^ (shift + 7)
      = (n % 128 + n / 128 * 128) * 2 ^ shift := by rw [power, Nat.add_mul, Nat.mul_assoc]
    _ = n * 2 ^ shift := by rw [parts]

theorem scan_groups {step : Nat × Nat → UInt8 → (Nat × Nat) ⊕ Except Fault Nat} {first bits : Nat}
    (groups : Groups step first bits) (short : Fault) (n value shift pos : Nat) (rest : Bytes)
    (aligned : shift % 7 = first) (fits : n * 2 ^ shift < 2 ^ bits) :
    scan step short (value, shift) (Write.varint n ++ rest) pos =
      (.ok (value + n * 2 ^ shift), pos + (Write.varint n).length, rest) := by
  induction n using Nat.strongRecOn generalizing value shift pos with
  | ind n ih =>
    rw [Write.varint]
    by_cases small : n < 128
    · have byte : (UInt8.ofNat n).toNat = n := Text.Utf8.toNat_ofNat_small (by omega)
      have last := groups.last value shift (UInt8.ofNat n) (by omega)
      rw [if_pos small, List.cons_append, scan, last, byte, Nat.mod_eq_of_lt small]
      rfl
    · have byte : (UInt8.ofNat (n % 128 + 128)).toNat = n % 128 + 128 := Text.Utf8.toNat_ofNat_small (by omega)
      have room := shift_lt (Nat.not_lt.mp small) fits
      have more := groups.more value shift (UInt8.ofNat (n % 128 + 128)) (by omega) aligned room
      have payload : (n % 128 + 128) % 128 = n % 128 := by omega
      have parts := split_groups n shift
      have later := ih (n / 128) (by omega) (value + n % 128 * 2 ^ shift) (shift + 7) (pos + 1) (by omega) (by omega)
      rw [if_neg small, List.cons_append, scan, more, byte, payload]
      simp only [later, List.length_cons, Prod.mk.injEq, Except.ok.injEq, and_true]
      omega

theorem consumes_groups {step : Nat × Nat → UInt8 → (Nat × Nat) ⊕ Except Fault Nat} {first bits : Nat}
    (groups : Groups step first bits) (short : Fault) {n value shift : Nat} (aligned : shift % 7 = first)
    (fits : n * 2 ^ shift < 2 ^ bits) :
    Consumes layout (scanning step short (value, shift)) (Write.varint n)
      (fun found => found = value + n * 2 ^ shift) := by
  intro input rest same start
  refine ⟨_, { input with pos := input.pos + (Write.varint n).length, rest }, ?_, same, rfl, rfl, rfl⟩
  rw [scanning, start, scan_groups groups short n value shift input.pos rest aligned fits]

theorem consumes_varint {n : Nat} (fits : n < 2 ^ 35) :
    Consumes layout varint (Write.varint n) (fun found => found = n) := by
  have known : Consumes layout varint (Write.varint n) (fun found => found = 0 + n * 2 ^ 0) :=
    consumes_groups groups_varintStep .varintEnd rfl (by omega)
  rwa [Nat.zero_add, Nat.pow_zero, Nat.mul_one] at known

theorem scan_spelled_groups {step : Nat × Nat → UInt8 → (Nat × Nat) ⊕ Except Fault Nat} {first bits : Nat}
    (groups : Groups step first bits) (short : Fault) {front : Bytes} {last : UInt8}
    (marked : ∀ byte ∈ front, 128 ≤ byte.toNat) (final : last.toNat < 128) (value shift pos : Nat) (rest : Bytes)
    (aligned : shift % 7 = first) (room : shift + 7 * front.length < bits) :
    ∃ n, scan step short (value, shift) (front ++ last :: rest) pos = (.ok n, pos + (front.length + 1), rest) := by
  induction front generalizing value shift pos with
  | nil => exact ⟨_, by rw [List.nil_append, scan, groups.last value shift last final]; rfl⟩
  | cons byte front ih =>
    rw [List.length_cons] at room
    have more := groups.more value shift byte (marked byte List.mem_cons_self) aligned (by omega)
    obtain ⟨n, later⟩ := ih (fun other member => marked other (List.mem_cons_of_mem byte member))
      (value + byte.toNat % 128 * 2 ^ shift) (shift + 7) (pos + 1) (by omega) (by omega)
    refine ⟨n, ?_⟩
    rw [List.cons_append, scan, more]
    simp only [later, List.length_cons, Prod.mk.injEq, true_and, and_true]
    omega

theorem consumes_isVarint {span : Bytes} (spelled : IsVarint span) : Consumes layout varint span (fun _ => True) := by
  obtain ⟨front, last, rfl, short, marked, final⟩ := spelled
  intro input rest same start
  obtain ⟨n, ran⟩ := scan_spelled_groups groups_varintStep .varintEnd marked final 0 0 input.pos rest rfl (by omega)
  refine ⟨n, { input with pos := input.pos + (front ++ [last]).length, rest }, ?_, same, rfl, rfl, trivial⟩
  rw [List.append_assoc, List.singleton_append] at start
  rw [varint, scanning, start, ran, List.length_append, List.length_singleton]

theorem consumes_varint_toNat {n : Int} (fits : FitsVarint n) :
    Consumes layout varint (Write.varint n.toNat) (fun found => (found : Int) = n) := by
  obtain ⟨low, high⟩ := fits
  apply consumes_mono (consumes_varint (by omega))
  intro _ same
  omega

theorem consumes_varint_byte {n : Nat} (small : n < 128) :
    Consumes layout varint [UInt8.ofNat n] (fun found => found = n) := by
  have known := @consumes_varint layout n (by omega)
  rwa [Write.varint, if_pos small] at known

theorem consumes_tag {β : Type} {next : Nat → Reader β} {span : Bytes} {holds : β → Prop} (tag : Nat)
    (small : tag < 128) (tail : Consumes layout (next tag) span holds) :
    Consumes layout (varint >>= next) (UInt8.ofNat tag :: span) holds := by
  refine consumes_bind (consumes_varint_byte small) ?_
  intro _ same
  subst same
  exact tail

theorem consumes_low {low bit : Nat} (fits : low < 2 ^ 34) (isBit : bit < 2) :
    ∃ byte groups, (if low < 64 then [UInt8.ofNat (low % 64 * 2 + bit)]
        else UInt8.ofNat (low % 64 * 2 + bit + 128) :: Write.varint (low / 64)) = byte :: groups ∧
      byte.toNat % 2 = bit ∧
      Consumes layout (if 128 ≤ byte.toNat then scanning lowStep .taggedVarintEnd (byte.toNat / 2 % 64, 6)
        else pure (byte.toNat / 2 % 64)) groups (fun found => found = low) := by
  by_cases small : low < 64
  · have byte : (UInt8.ofNat (low % 64 * 2 + bit)).toNat = low % 64 * 2 + bit :=
      Text.Utf8.toNat_ofNat_small (by omega)
    refine ⟨_, [], if_pos small, by omega, ?_⟩
    rw [byte, if_neg (by omega)]
    exact consumes_pure (by omega)
  · have byte : (UInt8.ofNat (low % 64 * 2 + bit + 128)).toNat = low % 64 * 2 + bit + 128 :=
      Text.Utf8.toNat_ofNat_small (by omega)
    refine ⟨_, Write.varint (low / 64), if_neg small, by omega, ?_⟩
    rw [byte, if_pos (by omega)]
    apply consumes_mono (consumes_groups groups_lowStep .taggedVarintEnd rfl (by omega))
    intro _ found
    omega

theorem consumes_taggedVarint {low high : Nat} (isNumber : Bool) (lowFits : low < 2 ^ 34)
    (highFits : isNumber = true → high < 2 ^ 35) :
    Consumes layout taggedVarint (Write.taggedVarint low high isNumber)
      (fun found => found = ((low, if isNumber then high else 0), isNumber)) := by
  obtain ⟨byte, groups, spelled, bit, known⟩ := @consumes_low layout low (if isNumber then 1 else 0) lowFits
    (by split <;> decide)
  have value : Bytes.toNat [byte] = byte.toNat := by simp [Bytes.toNat]
  simp only [Write.taggedVarint, spelled, List.cons_append]
  refine consumes_bind (consumes_take [byte] _) ?_
  intro _ same
  subst same
  rw [value]
  refine consumes_choice known ?_
  intro _ same
  subst same
  cases isNumber with
  | true =>
    simp only [↓reduceIte] at bit ⊢
    simp only [bit, ↓reduceIte, decide_true]
    refine consumes_map (consumes_varint (highFits rfl)) ?_
    intro _ same
    subst same
    exact consumes_pure rfl
  | false =>
    simp only [Bool.false_eq_true, ↓reduceIte] at bit ⊢
    simp only [bit, Nat.zero_ne_one, ↓reduceIte, decide_false]
    exact consumes_pure rfl

theorem joinHalves_eq {low : Nat} (high : Nat) (fits : low < 2 ^ 32) : joinHalves low high = low + high * 2 ^ 32 := by
  rw [joinHalves, Nat.or_comm, Nat.mul_comm, ← Nat.two_pow_add_eq_or_of_lt fits, Nat.add_comm]

theorem joinHalves_halves (n : Nat) : joinHalves (n % 2 ^ 32) (n / 2 ^ 32) = n := by
  rw [joinHalves_eq _ (Nat.mod_lt _ (by decide))]
  omega

theorem doubleOfHalves_bits (value : Double) :
    doubleOfHalves (value.bits.toNat % 2 ^ 32) (value.bits.toNat / 2 ^ 32) = .ok value := by
  have bound : value.bits.toNat < 2 ^ 64 := value.bits.toNat_lt
  simp only [doubleOfHalves, joinHalves_halves, if_pos bound, UInt64.ofNat_toNat]

theorem consumes_halves {α : Type} {next : Nat → Nat → Reader α} {n : Nat} {span : Bytes} {holds : α → Prop}
    (fits : n < 2 ^ 64) (tail : Consumes layout (next (n % 2 ^ 32) (n / 2 ^ 32)) span holds) :
    Consumes layout (varint >>= fun low => varint >>= fun high => next low high) (Write.halves n ++ span) holds := by
  rw [Write.halves, List.append_assoc]
  refine consumes_bind (consumes_varint (by omega)) ?_
  intro _ same
  subst same
  refine consumes_bind (consumes_varint (by omega)) ?_
  intro _ same
  subst same
  exact tail

theorem consumes_halves_last {α : Type} {next : Nat → Nat → Reader α} {n : Nat} {holds : α → Prop}
    (fits : n < 2 ^ 64) (tail : Consumes layout (next (n % 2 ^ 32) (n / 2 ^ 32)) [] holds) :
    Consumes layout (varint >>= fun low => varint >>= fun high => next low high) (Write.halves n) holds := by
  have known := consumes_halves fits tail
  rwa [List.append_nil] at known

theorem consumes_double (value : Double) : Consumes layout double (Write.double value) (fun found => found = value) :=
  consumes_halves_last value.bits.toNat_lt (consumes_ofExcept (doubleOfHalves_bits value))

end Read

end LuaBytecode.Jit
