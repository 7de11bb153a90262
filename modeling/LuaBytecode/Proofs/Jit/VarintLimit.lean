import LuaBytecode.Proofs.Jit.Extent
import LuaBytecode.Proofs.Jit.Varint
/-!
The limits of numbers in groups of seven bits. Five groups hold 35 bits, and a number that needs more is refused. A tagged
number has 34 bits, six in its first byte and seven in each of four groups; what is beyond them is not refused but left
unread.
-/
namespace LuaBytecode.Jit

open Reader

theorem Write.varint_marked {n : Nat} (large : 128 ≤ n) :
    ∃ byte : UInt8, Write.varint n = byte :: Write.varint (n / 128) ∧ 128 ≤ byte.toNat ∧ byte.toNat % 128 = n % 128 := by
  have byte : (UInt8.ofNat (n % 128 + 128)).toNat = n % 128 + 128 := Text.Utf8.toNat_ofNat_small (by omega)
  refine ⟨UInt8.ofNat (n % 128 + 128), ?_, by omega, by omega⟩
  rw [Write.varint, if_neg (by omega)]

namespace Read

theorem scan_front {step : Nat × Nat → UInt8 → (Nat × Nat) ⊕ Except Fault Nat} {first bits : Nat}
    (groups : Groups step first bits) (short : Fault) (count n value shift pos : Nat) (rest : Bytes)
    (aligned : shift % 7 = first) (room : shift + 7 * count < bits) (large : 128 ^ count ≤ n) :
    scan step short (value, shift) (Write.varint n ++ rest) pos =
      scan step short (value + n % 128 ^ count * 2 ^ shift, shift + 7 * count) (Write.varint (n / 128 ^ count) ++ rest)
        (pos + count) := by
  induction count generalizing n value shift pos with
  | zero => simp [Nat.mod_one]
  | succ count ih =>
    rw [Nat.pow_succ'] at large ⊢
    have positive : 0 < 128 ^ count := Nat.pow_pos (by decide)
    obtain ⟨byte, spelled, marked, payload⟩ := @Write.varint_marked n (by omega)
    have more := groups.more value shift byte marked aligned (by omega)
    have later := ih (n / 128) (value + n % 128 * 2 ^ shift) (shift + 7) (pos + 1) (by omega) (by omega) (by omega)
    have joined : value + n % (128 * 128 ^ count) * 2 ^ shift =
        value + n % 128 * 2 ^ shift + n / 128 % 128 ^ count * 2 ^ (shift + 7) := by
      rw [Nat.mod_mul, Nat.add_mul, Nat.pow_add, Nat.mul_comm 128, Nat.mul_assoc, Nat.mul_comm (2 ^ shift), Nat.add_assoc]
    have shifted : shift + 7 * (count + 1) = shift + 7 + 7 * count := by omega
    have placed : pos + (count + 1) = pos + 1 + count := by omega
    rw [spelled, List.cons_append, scan, more, payload, joined, shifted, placed, ← Nat.div_div_eq_div_mul]
    exact later

-- The fifth group says that a sixth follows.
theorem varint_error {n : Nat} (large : 2 ^ 35 ≤ n) {input : Input} {rest : Bytes}
    (start : input.rest = Write.varint n ++ rest) :
    varint input =
      (.error .varintTooLong, { input with pos := input.pos + 5, rest := Write.varint (n / 2 ^ 35) ++ rest }) := by
  have front := scan_front groups_varintStep .varintEnd 4 n 0 0 input.pos rest rfl (by decide) (by omega)
  obtain ⟨byte, spelled, marked, _⟩ := @Write.varint_marked (n / 128 ^ 4) (by omega)
  have above : n / 128 ^ 4 / 128 = n / 2 ^ 35 := Nat.div_div_eq_div_mul n (128 ^ 4) 128
  have fifth : ∀ value, varintStep (value, 0 + 7 * 4) byte = .inr (.error .varintTooLong) := by
    intro value
    simp [varintStep, Nat.not_lt.mpr marked]
  rw [varint, scanning, start, front, spelled, List.cons_append, scan, fifth, above]

-- The groups of a tagged number end with the fourth, whatever it says.
theorem scan_low {n : Nat} (large : 2 ^ 28 ≤ n) (value pos : Nat) (rest : Bytes) :
    scan lowStep .taggedVarintEnd (value, 6) (Write.varint n ++ rest) pos =
      (.ok (value + n % 2 ^ 28 * 2 ^ 6), pos + 4, Write.varint (n / 2 ^ 28) ++ rest) := by
  have front := scan_front groups_lowStep .taggedVarintEnd 3 n value 6 pos rest rfl (by decide) (by omega)
  obtain ⟨byte, spelled, _, payload⟩ := @Write.varint_marked (n / 128 ^ 3) (by omega)
  have above : n / 128 ^ 3 / 128 = n / 2 ^ 28 := Nat.div_div_eq_div_mul n (128 ^ 3) 128
  have fourth : ∀ value, lowStep (value, 6 + 7 * 3) byte = .inr (.ok (value + byte.toNat % 128 * 2 ^ 27)) := by
    intro value
    simp [lowStep]
  rw [front, spelled, List.cons_append, scan, fourth, payload, above]
  simp only [Prod.mk.injEq, Except.ok.injEq, and_true]
  omega

theorem taggedVarint_cut {low : Nat} (large : 2 ^ 34 ≤ low) (high : Nat) {input : Input} {rest : Bytes}
    (start : input.rest = Write.taggedVarint low high false ++ rest) :
    taggedVarint input = (.ok ((low % 2 ^ 34, 0), false),
      { input with pos := input.pos + 5, rest := Write.varint (low / 2 ^ 34) ++ rest }) := by
  have byte : (UInt8.ofNat (low % 64 * 2 + 128)).toNat = low % 64 * 2 + 128 := Text.Utf8.toNat_ofNat_small (by omega)
  have spelled : input.rest = [UInt8.ofNat (low % 64 * 2 + 128)] ++ (Write.varint (low / 64) ++ rest) := by
    rw [start, Write.taggedVarint, if_neg (by omega)]
    simp
  have taken := run_of_quiet (consumes_take [UInt8.ofNat (low % 64 * 2 + 128)] fun _ => .taggedVarintEnd) quiet_take rfl
    spelled
  have value : Bytes.toNat [UInt8.ofNat (low % 64 * 2 + 128)] = low % 64 * 2 + 128 := by
    simpa [Bytes.toNat] using byte
  have six : (low % 64 * 2 + 128) / 2 % 64 = low % 64 := by omega
  have even : ¬ (low % 64 * 2 + 128) % 2 = 1 := by omega
  have parts : low % 64 + low / 64 % 2 ^ 28 * 2 ^ 6 = low % 2 ^ 34 ∧ low / 64 / 2 ^ 28 = low / 2 ^ 34 := by omega
  have ran : scanning lowStep .taggedVarintEnd (low % 64, 6)
      { input with pos := input.pos + 1, rest := Write.varint (low / 64) ++ rest } =
      (.ok (low % 2 ^ 34), { input with pos := input.pos + 5, rest := Write.varint (low / 2 ^ 34) ++ rest }) := by
    simp only [scanning, scan_low (show 2 ^ 28 ≤ low / 64 by omega), parts]
  refine (bind_of_ok taken).trans ?_
  rw [value, if_pos (by omega), six]
  refine (bind_of_ok ran).trans ?_
  simp only [if_neg even, decide_eq_false even]
  rfl

end Read

theorem varints_exact_up_to_limits (input : Input) (rest : Bytes) :
    (∀ n, input.rest = Write.varint n ++ rest →
      (n < 2 ^ 35 →
        Read.varint input = (.ok n, { input with pos := input.pos + (Write.varint n).length, rest })) ∧
      (2 ^ 35 ≤ n → Read.varint input =
        (.error .varintTooLong, { input with pos := input.pos + 5, rest := Write.varint (n / 2 ^ 35) ++ rest }))) ∧
    ∀ low high isNumber, input.rest = Write.taggedVarint low high isNumber ++ rest →
      (low < 2 ^ 34 → (isNumber = true → high < 2 ^ 35) →
        Read.taggedVarint input = (.ok ((low, if isNumber then high else 0), isNumber),
          { input with pos := input.pos + (Write.taggedVarint low high isNumber).length, rest })) ∧
      (2 ^ 34 ≤ low → isNumber = false →
        Read.taggedVarint input = (.ok ((low % 2 ^ 34, 0), false),
          { input with pos := input.pos + 5, rest := Write.varint (low / 2 ^ 34) ++ rest })) := by
  refine ⟨?_, ?_⟩
  · intro n start
    refine ⟨?_, fun large => Read.varint_error large start⟩
    intro small
    exact run_of_quiet (Read.consumes_varint small) (Read.quiet_of_composed Read.composed_varint) rfl start
  · intro low high isNumber start
    refine ⟨?_, ?_⟩
    · intro lowFits highFits
      exact run_of_quiet (Read.consumes_taggedVarint isNumber lowFits highFits)
        (Read.quiet_of_composed Read.composed_taggedVarint) rfl start
    · rintro large rfl
      exact Read.taggedVarint_cut large high start

theorem varints_exact_at_limits :
    Read.varint { rest := [255, 255, 255, 255, 127] ++ [7] } = (.ok (2 ^ 35 - 1), { pos := 5, rest := [7] }) ∧
      Read.varint { rest := [128, 128, 128, 128, 128, 1] ++ [7] } = (.error .varintTooLong, { pos := 5, rest := [1, 7] }) ∧
      Read.taggedVarint { rest := [255, 255, 255, 255, 127, 255, 255, 255, 255, 127] ++ [7] } =
        (.ok ((2 ^ 34 - 1, 2 ^ 35 - 1), true), { pos := 10, rest := [7] }) ∧
      Read.taggedVarint { rest := [254, 255, 255, 255, 127] ++ [7] } =
        (.ok ((2 ^ 34 - 1, 0), false), { pos := 5, rest := [7] }) ∧
      Read.taggedVarint { rest := [128, 128, 128, 128, 128, 1] ++ [7] } =
        (.ok ((0, 0), false), { pos := 5, rest := [1, 7] }) := by
  have last : Write.varint (2 ^ 35 - 1) = [255, 255, 255, 255, 127] := by decide +kernel
  have next : Write.varint (2 ^ 35) = [128, 128, 128, 128, 128, 1] := by decide +kernel
  have flagged : Write.taggedVarint (2 ^ 34 - 1) (2 ^ 35 - 1) true =
      [255, 255, 255, 255, 127, 255, 255, 255, 255, 127] := by decide +kernel
  have unflagged : Write.taggedVarint (2 ^ 34 - 1) (2 ^ 35) false = [254, 255, 255, 255, 127] := by decide +kernel
  have beyond : Write.taggedVarint (2 ^ 34) 0 false = [128, 128, 128, 128, 128, 1] := by decide +kernel
  have one : Write.varint 1 = [1] := by decide +kernel
  refine ⟨?_, ?_, ?_, ?_, ?_⟩
  · have ran := ((varints_exact_up_to_limits { rest := Write.varint (2 ^ 35 - 1) ++ [7] } [7]).1 _ rfl).1 (by decide)
    rw [last] at ran
    exact ran
  · have ran := ((varints_exact_up_to_limits { rest := Write.varint (2 ^ 35) ++ [7] } [7]).1 _ rfl).2 (by decide)
    rw [next, Nat.div_self (by decide), one] at ran
    exact ran
  · have ran := ((varints_exact_up_to_limits
      { rest := Write.taggedVarint (2 ^ 34 - 1) (2 ^ 35 - 1) true ++ [7] } [7]).2 _ _ _ rfl).1 (by decide) (by decide)
    rw [flagged] at ran
    exact ran
  · have ran := ((varints_exact_up_to_limits
      { rest := Write.taggedVarint (2 ^ 34 - 1) (2 ^ 35) false ++ [7] } [7]).2 _ _ _ rfl).1 (by decide) (by decide)
    rw [unflagged] at ran
    exact ran
  · have ran := ((varints_exact_up_to_limits
      { rest := Write.taggedVarint (2 ^ 34) 0 false ++ [7] } [7]).2 _ _ _ rfl).2 (by decide) rfl
    rw [beyond, Nat.div_self (by decide), one] at ran
    exact ran

end LuaBytecode.Jit
