import LuaBytecode.Proofs.Jit.Spelling

namespace LuaBytecode.Jit

open Reader

-- The lowest three bits of the high half are all that a low half can change.
theorem joinHalves_lt_iff {low high bound : Nat} (fits : low < 2 ^ 35) (whole : bound % 8 = 0) :
    Read.joinHalves low high < bound * 2 ^ 32 ↔ high < bound := by
  have upper : Read.joinHalves low high / 2 ^ 35 = high / 8 := by
    rw [Read.joinHalves, ← Nat.shiftRight_eq_div_pow, Nat.shiftRight_or_distrib, Nat.shiftRight_eq_div_pow,
      Nat.shiftRight_eq_div_pow, Nat.div_eq_of_lt fits, Nat.zero_or]
    omega
  omega

theorem groups_lt_of_length {span : Bytes} {count : Nat} (short : span.length ≤ count) : groups span < 128 ^ count :=
  Nat.lt_of_lt_of_le (groups_lt span) (Nat.pow_le_pow_right (by decide) short)

theorem signed_range {bits n limit : Nat} (small : n < limit) (wide : 3 * 2 ^ bits ≤ limit) :
    -2 ^ bits ≤ signed (bits + 1) n ∧ signed (bits + 1) n < limit - 2 ^ (bits + 1) ∧
      (signed (bits + 1) n < 2 ^ bits ↔ n < 3 * 2 ^ bits) := by
  have twice : (2 : Int) ^ (bits + 1) = 2 ^ bits * 2 := Int.pow_succ ..
  have cast : ((2 ^ bits : Nat) : Int) = 2 ^ bits := by simp
  rw [signed, Nat.add_sub_cancel]
  generalize (2 : Int) ^ (bits + 1) = whole at *
  generalize (2 : Int) ^ bits = half at *
  generalize 2 ^ bits = natural at *
  split <;> omega

theorem Number.SpelledBy.int {n : Int} {span : Bytes} (spelled : Number.SpelledBy (.int n) span) :
    ∃ first rest, span = first :: rest ∧ n = signed 32 (tagged first rest) ∧ -2 ^ 31 ≤ n ∧ n < 3 * 2 ^ 32 ∧
      (n < 2 ^ 31 ↔ tagged first rest < 3 * 2 ^ 31) := by
  obtain ⟨first, rest, rfl, short, rfl⟩ := spelled n rfl
  have bound := groups_lt_of_length short
  have small : tagged first rest < 2 ^ 34 := by
    unfold tagged
    omega
  obtain ⟨low, high, exact⟩ := @signed_range 31 _ _ small (by decide)
  exact ⟨first, rest, rfl, rfl, low, high, exact⟩

theorem joinHalves_lt {low high : Bytes} (short : low.length ≤ 5) (short' : high.length ≤ 5) :
    Read.joinHalves (groups low) (groups high) < 2 ^ 67 := by
  have bound := groups_lt_of_length short
  have bound' := groups_lt_of_length short'
  exact (@joinHalves_lt_iff _ _ (2 ^ 35) bound (by decide)).mpr bound'

theorem Collectable.SpelledBy.i64_range {n : Int} {span : Bytes} (spelled : Collectable.SpelledBy (.i64 n) span) :
    ∃ tag low high, span = tag ++ (low ++ high) ∧ groups tag = 2 ∧
      n = signed 64 (Read.joinHalves (groups low) (groups high)) ∧ -2 ^ 63 ≤ n ∧ n < 7 * 2 ^ 64 ∧
      (n < 2 ^ 63 ↔ groups high < 3 * 2 ^ 31) := by
  obtain ⟨tag, low, high, rfl, kind, short, short', rfl⟩ := spelled.i64 n rfl
  obtain ⟨least, most, exact⟩ := @signed_range 63 _ _ (joinHalves_lt short short') (by decide)
  have upper := @joinHalves_lt_iff _ (groups high) (3 * 2 ^ 31) (groups_lt_of_length short) (by decide)
  exact ⟨tag, low, high, rfl, kind, rfl, least, most, exact.trans (by omega)⟩

theorem Collectable.SpelledBy.u64_range {n : Int} {span : Bytes} (spelled : Collectable.SpelledBy (.u64 n) span) :
    ∃ tag low high, span = tag ++ (low ++ high) ∧ groups tag = 3 ∧
      n = Read.joinHalves (groups low) (groups high) ∧ 0 ≤ n ∧ n < 2 ^ 67 ∧ (n < 2 ^ 64 ↔ groups high < 2 ^ 32) := by
  obtain ⟨tag, low, high, rfl, kind, short, short', rfl⟩ := spelled.u64 n rfl
  have most := joinHalves_lt short short'
  have exact := @joinHalves_lt_iff _ (groups high) (2 ^ 32) (groups_lt_of_length short) (by decide)
  exact ⟨tag, low, high, rfl, kind, rfl, Int.natCast_nonneg _, by omega, by omega⟩

theorem integers_of_spelling {data : Bytes} {dump : Dump} (accepted : (parse data).1 = .ok dump) :
    ∃ front tail, data = front ++ ((frames data).flatMap Frame.bytes ++ tail) ∧
      dump.prototypes = (frames data).map Frame.prototype ∧
      ∀ frame ∈ frames data, ∃ (before behind : Bytes) (collectables : List (Collectable × Bytes))
        (numbers : List (Number × Bytes)),
        frame.body = before ++ (collectables.flatMap (·.2) ++ (numbers.flatMap (·.2) ++ behind)) ∧
        frame.prototype.collectables = collectables.map (·.1) ∧ frame.prototype.numbers = numbers.map (·.1) ∧
        (∀ n span, (.int n, span) ∈ numbers → ∃ first rest, span = first :: rest ∧
          n = signed 32 (tagged first rest) ∧ -2 ^ 31 ≤ n ∧ n < 3 * 2 ^ 32 ∧
          (n < 2 ^ 31 ↔ tagged first rest < 3 * 2 ^ 31)) ∧
        (∀ n span, (.i64 n, span) ∈ collectables → ∃ tag low high, span = tag ++ (low ++ high) ∧ groups tag = 2 ∧
          n = signed 64 (Read.joinHalves (groups low) (groups high)) ∧ -2 ^ 63 ≤ n ∧ n < 7 * 2 ^ 64 ∧
          (n < 2 ^ 63 ↔ groups high < 3 * 2 ^ 31)) ∧
        ∀ (n : Int) span, (.u64 n, span) ∈ collectables → ∃ tag low high, span = tag ++ (low ++ high) ∧ groups tag = 3 ∧
          n = Read.joinHalves (groups low) (groups high) ∧ 0 ≤ n ∧ n < 2 ^ 67 ∧
          (n < 2 ^ 64 ↔ groups high < 2 ^ 32) := by
  obtain ⟨front, tail, whole, same, spelled⟩ := spelledBy_of_parse accepted
  refine ⟨front, tail, whole, same, ?_⟩
  intro frame member
  obtain ⟨before, behind, collectables, numbers, body, one, other, collected, numbered⟩ := spelled frame member
  refine ⟨before, behind, collectables, numbers, body, one, other, ?_, ?_, ?_⟩
  · exact fun n span within => (numbered _ within).int
  · exact fun n span within => (collected _ within).i64_range
  · exact fun n span within => (collected _ within).u64_range

-- Groups that are as wide as they can be, beside the least numbers that a type has.
def wideConstants : Bytes :=
  signature ++ [1, 2, 49] ++ [0, 0, 0, 0, 4, 2, 0] ++
    [2, 0xFF, 0xFF, 0xFF, 0xFF, 0x7F, 0xFF, 0xFF, 0xFF, 0xFF, 0x7F] ++ [2, 0, 0x80, 0x80, 0x80, 0x80, 8] ++
    [3, 0xFF, 0xFF, 0xFF, 0xFF, 0x7F, 0xFF, 0xFF, 0xFF, 0xFF, 0x7F] ++ [3, 0, 0] ++
    [0xFE, 0xFF, 0xFF, 0xFF, 0x7F] ++ [0x80, 0x80, 0x80, 0x80, 0x10] ++ [0]

theorem integers_of_wideConstants :
    ∃ dump, (parse wideConstants).1 = .ok dump ∧ ∀ prototype ∈ dump.prototypes, ∀ n, .int n ∈ prototype.numbers →
      -2 ^ 31 ≤ n ∧ n < 3 * 2 ^ 32 := by
  have ends : (seenIn (fun dump => dump.prototypes.length) (parse wideConstants)) = some 1 := by decide +kernel
  obtain ⟨dump, after, accepted, _⟩ := accepted_of_seenIn ends
  have read : (parse wideConstants).1 = .ok dump := by rw [accepted]
  refine ⟨dump, read, ?_⟩
  obtain ⟨_, _, _, same, spelled⟩ := integers_of_spelling read
  intro prototype member n held
  rw [same] at member
  obtain ⟨frame, within, rfl⟩ := List.mem_map.mp member
  obtain ⟨_, _, _, numbers, _, _, listed, int, _⟩ := spelled frame within
  rw [listed] at held
  obtain ⟨⟨number, span⟩, pair, rfl⟩ := List.mem_map.mp held
  obtain ⟨_, _, _, _, low, high, _⟩ := int n span pair
  exact ⟨low, high⟩

theorem wideConstants_out_of_range :
    ∃ dump prototype, (parse wideConstants).1 = .ok dump ∧ dump.prototypes = [prototype] ∧
      prototype.numbers = [.int (3 * 2 ^ 32 - 1), .int (-2 ^ 31)] ∧
      prototype.collectables = [.i64 (7 * 2 ^ 64 - 1), .i64 (-2 ^ 63), .u64 (2 ^ 67 - 1), .u64 0] ∧
      ¬ Number.InRange (.int (3 * 2 ^ 32 - 1)) ∧ ¬ Collectable.InRange (.i64 (7 * 2 ^ 64 - 1)) ∧
      ¬ Collectable.InRange (.u64 (2 ^ 67 - 1)) := by
  have seen : seenIn (fun dump => dump.prototypes.map fun each => (each.numbers, each.collectables))
      (parse wideConstants) = some [([.int (3 * 2 ^ 32 - 1), .int (-2 ^ 31)],
        [.i64 (7 * 2 ^ 64 - 1), .i64 (-2 ^ 63), .u64 (2 ^ 67 - 1), .u64 0])] := by decide +kernel
  obtain ⟨dump, after, accepted, shown⟩ := accepted_of_seenIn seen
  obtain ⟨prototype, listed, same⟩ := List.map_eq_singleton_iff.mp shown
  obtain ⟨numbers, collectables⟩ := Prod.mk.inj same
  exact ⟨dump, prototype, by rw [accepted], listed, numbers, collectables, by decide, by decide, by decide⟩

end LuaBytecode.Jit
