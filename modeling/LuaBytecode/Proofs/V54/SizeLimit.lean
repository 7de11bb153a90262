import LuaBytecode.Proofs.Quiet
import LuaBytecode.Proofs.Sample.V54
import LuaBytecode.Proofs.V54.Gathering
import LuaBytecode.Proofs.V54.Size

namespace LuaBytecode.V54

open Reader

namespace Read

theorem size_error {n : Nat} (large : 2 ^ 64 ≤ n) {input : Input} {rest : Bytes}
    (start : input.rest = Wire.size n ++ rest) : ∃ after, size input = (.error .sizeOverflow, after) := by
  obtain ⟨⟨pos, left⟩, ran⟩ :=
    scan_overflow (n / 128) (by omega) (UInt8.ofNat (n % 128 + 128)) rest input.pos
  rw [Wire.size, List.append_assoc, List.singleton_append] at start
  exact ⟨{ input with pos, rest := left }, by rw [size, scanning, start, ran]⟩

theorem size_eq_ok_iff {input after : Input} {n : Nat} :
    size input = (.ok n, after) ↔ n < 2 ^ 64 ∧ ∃ padding rest,
      input.rest = List.replicate padding 0 ++ Wire.size n ++ rest ∧
      after = { input with pos := input.pos + (List.replicate padding 0 ++ Wire.size n).length, rest } := by
  constructor
  · intro ran
    obtain ⟨span, start, pos, bound, padding, rfl⟩ := yields_size input n after (Nat.le_refl _) ran
    refine ⟨bound, padding, after.rest, start, ?_⟩
    have layout : (size input).2.layout = input.layout := rfl
    have said : (size input).2.said = input.said := rfl
    rw [ran] at layout said
    cases after
    simp_all
  · rintro ⟨bound, padding, rest, start, rfl⟩
    exact run_of_quiet (consumes_padded_size padding n bound) quiet_scanning rfl start

end Read

namespace Gather

theorem size_eq_ok_iff {input after : Input} {n : Nat} {span : Bytes} :
    size input = (.ok (n, span), after) ↔ Read.size input = (.ok n, after) ∧ input.rest = span ++ after.rest := by
  rcases abreast_size input with ⟨_, m, span', after', ran, ran', start, _, rfl⟩ | ⟨fault, after', ran, ran'⟩
  · rw [ran, ran']
    constructor
    · rintro ⟨⟩
      exact ⟨rfl, start⟩
    · rintro ⟨⟨⟩, start'⟩
      rw [List.append_cancel_right (start.symm.trans start')]
  · rw [ran, ran']
    constructor
    · intro failed
      cases failed
    · rintro ⟨failed, _⟩
      cases failed

theorem size_error {n : Nat} (large : 2 ^ 64 ≤ n) {input : Input} {rest : Bytes}
    (start : input.rest = Wire.size n ++ rest) : ∃ after, size input = (.error .sizeOverflow, after) := by
  obtain ⟨after, failed⟩ := Read.size_error large start
  rcases abreast_size input with ⟨_, _, _, _, _, ran, _⟩ | ⟨fault, after', ran, ran'⟩
  · rw [failed] at ran
    cases ran
  · rw [failed] at ran'
    cases ran'
    exact ⟨after, ran⟩

end Gather

theorem sizes_exact_up_to_limit (n : Nat) :
    (Write.size n).fault = none ∧ Sample.V54.size n = .ok (Write.size n).bytes ∧
    (∀ (input : Input) (rest : Bytes), input.rest = (Write.size n).bytes ++ rest →
      (n < 2 ^ 64 →
        Read.size input = (.ok n, { input with pos := input.pos + (Write.size n).bytes.length, rest }) ∧
        Gather.size input =
          (.ok (n, (Write.size n).bytes), { input with pos := input.pos + (Write.size n).bytes.length, rest })) ∧
      (2 ^ 64 ≤ n → (∃ after, Read.size input = (.error .sizeOverflow, after)) ∧
        ∃ after, Gather.size input = (.error .sizeOverflow, after))) ∧
    ∀ input after : Input,
      (Read.size input = (.ok n, after) ↔ n < 2 ^ 64 ∧ ∃ padding rest,
        input.rest = List.replicate padding 0 ++ (Write.size n).bytes ++ rest ∧
        after = { input with pos := input.pos + (List.replicate padding 0 ++ (Write.size n).bytes).length, rest }) ∧
      ∀ span, Gather.size input = (.ok (n, span), after) ↔
        Read.size input = (.ok n, after) ∧ input.rest = span ++ after.rest := by
  rw [Write.size_eq]
  have sampled : Sample.V54.size n = .ok (Wire.size n) := by
    rw [Sample.V54.size, if_neg (by omega), Int.toNat_natCast, Sample.V54.sizeBytes_eq]
  refine ⟨rfl, sampled, ?_, fun input after => ⟨Read.size_eq_ok_iff, fun span => Gather.size_eq_ok_iff⟩⟩
  intro input rest start
  refine ⟨?_, fun large => ⟨Read.size_error large start, Gather.size_error large start⟩⟩
  intro small
  have ran := run_of_quiet (Read.consumes_size n small) quiet_scanning rfl start
  exact ⟨ran, Gather.size_eq_ok_iff.mpr ⟨ran, start⟩⟩

-- The last number within the limit and the first beyond it, both of ten groups.
theorem sizes_exact_at_limit :
    (Write.size (2 ^ 64 - 1 : Nat)).bytes = [1, 127, 127, 127, 127, 127, 127, 127, 127, 255] ∧
      Read.size { rest := (Write.size (2 ^ 64 - 1 : Nat)).bytes ++ [7] } = (.ok (2 ^ 64 - 1), { pos := 10, rest := [7] }) ∧
      (Write.size (2 ^ 64 : Nat)).bytes = [2, 0, 0, 0, 0, 0, 0, 0, 0, 128] ∧
      ∃ after, Gather.size { rest := (Write.size (2 ^ 64 : Nat)).bytes ++ [7] } = (.error .sizeOverflow, after) := by
  have last : (Write.size (2 ^ 64 - 1 : Nat)).bytes = [1, 127, 127, 127, 127, 127, 127, 127, 127, 255] := by decide +kernel
  have next : (Write.size (2 ^ 64 : Nat)).bytes = [2, 0, 0, 0, 0, 0, 0, 0, 0, 128] := by decide +kernel
  have within := ((sizes_exact_up_to_limit (2 ^ 64 - 1)).2.2.1
    { rest := (Write.size (2 ^ 64 - 1 : Nat)).bytes ++ [7] } [7] rfl).1 (by decide)
  have beyond := ((sizes_exact_up_to_limit (2 ^ 64)).2.2.1
    { rest := (Write.size (2 ^ 64 : Nat)).bytes ++ [7] } [7] rfl).2 (by decide)
  refine ⟨last, ?_, next, beyond.2⟩
  rw [within.1, last]
  rfl

end LuaBytecode.V54
