import LuaBytecode.Proofs.Reader
import LuaBytecode.Proofs.V54.Wire
import LuaBytecode.V54.Reading
import LuaBytecode.V54.Writing

namespace LuaBytecode.V54

open Reader

namespace Wire

theorem groups_zero : groups 0 = [] := by
  rw [groups, if_pos rfl]

theorem groups_step (n group : Nat) (small : group < 128) (positive : n * 128 + group ≠ 0) :
    groups (n * 128 + group) = groups n ++ [UInt8.ofNat group] := by
  have high : (n * 128 + group) / 128 = n := by omega
  have low : (n * 128 + group) % 128 = group := by omega
  rw [groups, if_neg positive, high, low]

theorem groups_small (n : Nat) : ∀ byte ∈ groups n, byte.toNat < 128 := by
  fun_induction groups n with
  | case1 => simp
  | case2 n positive ih =>
    intro byte member
    rcases List.mem_append.mp member with high | low
    · exact ih byte high
    · rw [List.mem_singleton.mp low, UInt8.toNat_ofNat']
      omega

theorem length_size_pos (n : Nat) : 0 < (size n).length := by
  simp [size]

theorem length_groups_mono {m n : Nat} (less : m ≤ n) : (groups m).length ≤ (groups n).length := by
  fun_induction groups n generalizing m with
  | case1 => simp [Nat.le_zero.mp less, groups_zero]
  | case2 n positive ih =>
    rw [groups]
    split
    · exact Nat.zero_le _
    · simp only [List.length_append, List.length_singleton]
      exact Nat.succ_le_succ (ih (Nat.div_le_div_right less))

theorem length_size_mono {m n : Nat} (less : m ≤ n) : (size m).length ≤ (size n).length := by
  simp only [size, List.length_append, List.length_singleton]
  exact Nat.succ_le_succ (length_groups_mono (Nat.div_le_div_right less))

theorem splitSize_size (padding n : Nat) (payload : Bytes) :
    Cipher.splitSize (List.replicate padding 0 ++ (size n ++ payload)) =
      (List.replicate padding 0 ++ size n, payload) := by
  have unmarked : ∀ (front : Bytes) (last : UInt8), (∀ byte ∈ front, byte.toNat < 128) →
      128 ≤ last.toNat →
        Cipher.splitSize (front ++ last :: payload) = (front ++ [last], payload) := by
    intro front last small marked
    induction front with
    | nil => simp [Cipher.splitSize, marked]
    | cons byte front ih =>
      have below : ¬ 128 ≤ byte.toNat := by
        have := small byte List.mem_cons_self
        omega
      have later := ih fun other member => small other (List.mem_cons_of_mem byte member)
      simp [Cipher.splitSize, below, later]
  have marked : 128 ≤ (UInt8.ofNat (n % 128 + 128)).toNat := by
    rw [UInt8.toNat_ofNat']
    omega
  have small : ∀ byte ∈ List.replicate padding 0 ++ groups (n / 128), byte.toNat < 128 := by
    intro byte member
    rcases List.mem_append.mp member with zero | high
    · simp [List.eq_of_mem_replicate zero]
    · exact groups_small (n / 128) byte high
  have whole := unmarked _ _ small marked
  simpa [size] using whole

end Wire

namespace Write

theorem reverse_groups (fuel n : Nat) (enough : n < 2 ^ fuel) :
    (groups fuel n).reverse.map UInt8.ofNat = Wire.groups n := by
  induction fuel generalizing n with
  | zero =>
    have zero : n = 0 := by simpa using enough
    rw [zero, Wire.groups_zero, groups]
    rfl
  | succ fuel ih =>
    by_cases zero : n = 0
    · rw [zero, Wire.groups_zero, groups, if_pos rfl]
      rfl
    · have less : n / 128 < 2 ^ fuel := by
        rw [Nat.pow_succ] at enough
        omega
      rw [groups, if_neg zero, Wire.groups, if_neg zero, ← ih (n / 128) less]
      simp

theorem sizeBytes_eq (n : Nat) : sizeBytes n = Wire.size n := by
  unfold sizeBytes Wire.size
  by_cases zero : n = 0
  · rw [if_pos zero, zero, Nat.zero_div, Wire.groups_zero]
    rfl
  · have enough : n / 128 < 2 ^ n.log2 := by
      have := Nat.lt_log2_self (n := n)
      rw [Nat.pow_succ] at this
      omega
    rw [if_neg zero, groups, if_neg zero, marked, ← reverse_groups n.log2 (n / 128) enough,
      List.map_reverse]

theorem size_eq (n : Nat) : size n = { bytes := Wire.size n } := by
  have natural : ¬ (n : Int) < 0 := by omega
  rw [size, if_neg natural, Int.toNat_natCast, sizeBytes_eq]

end Write

namespace Read

variable {layout : Layout} {limit : Nat}

theorem sizeStep_unmarked (x : Nat) (byte : UInt8) (room : x < 2 ^ 57) (small : byte.toNat < 128) :
    sizeStep x byte = .inl (x * 128 + byte.toNat) := by
  rw [sizeStep, if_neg (by omega)]
  dsimp only
  rw [if_neg (by omega), Nat.mod_eq_of_lt small]

theorem sizeStep_marked (x : Nat) (byte : UInt8) (room : x < 2 ^ 57) (marked : 128 ≤ byte.toNat) :
    sizeStep x byte = .inr (.ok (x * 128 + byte.toNat % 128)) := by
  rw [sizeStep, if_neg (by omega)]
  dsimp only
  rw [if_pos marked]

theorem scan_padding (padding : Nat) (bytes : Bytes) (pos : Nat) :
    scan sizeStep (.width 1) 0 (List.replicate padding 0 ++ bytes) pos =
      scan sizeStep (.width 1) 0 bytes (pos + padding) := by
  induction padding generalizing pos with
  | zero => rfl
  | succ padding ih =>
    have zero : sizeStep 0 0 = .inl 0 := sizeStep_unmarked 0 0 (by decide) (by decide)
    rw [List.replicate_succ, List.cons_append, scan, zero]
    dsimp only
    rw [ih, Nat.add_assoc, Nat.add_comm 1]

theorem sizeStep_group (n : Nat) (bound : n < 2 ^ 64) : sizeStep (n / 128) (UInt8.ofNat (n % 128)) = .inl n := by
  have group : (UInt8.ofNat (n % 128)).toNat = n % 128 := UInt8.toNat_ofNat_of_lt' (by
    change n % 128 < 256
    omega)
  rw [sizeStep_unmarked _ _ (by omega) (by omega), group]
  congr 1
  omega

theorem scan_groups (n : Nat) (bound : n < 2 ^ 64) (bytes : Bytes) (pos : Nat) :
    scan sizeStep (.width 1) 0 (Wire.groups n ++ bytes) pos =
      scan sizeStep (.width 1) n bytes (pos + (Wire.groups n).length) := by
  fun_induction Wire.groups n generalizing bytes pos with
  | case1 => rfl
  | case2 n positive ih =>
    rw [List.append_assoc, ih (by omega), List.singleton_append, scan, sizeStep_group n bound, List.length_append]
    rfl

-- The guard looks at the number so far: it lets the group through that makes the number too large, and
-- stops at the one behind it.
theorem scan_overflow (n : Nat) (large : 2 ^ 57 ≤ n) (byte : UInt8) (bytes : Bytes) (pos : Nat) :
    ∃ place, scan sizeStep (.width 1) 0 (Wire.groups n ++ byte :: bytes) pos = (.error .sizeOverflow, place) := by
  fun_induction Wire.groups n generalizing byte bytes with
  | case1 => exact absurd large (by decide)
  | case2 n positive ih =>
    rw [List.append_assoc, List.singleton_append]
    by_cases earlier : 2 ^ 57 ≤ n / 128
    · exact ih earlier _ _
    · have stops : sizeStep n byte = .inr (.error .sizeOverflow) := by rw [sizeStep, if_pos large]
      refine ⟨(pos + (Wire.groups (n / 128)).length + 2, bytes), ?_⟩
      rw [scan_groups (n / 128) (by omega), scan, sizeStep_group n (by omega)]
      simp only [scan, stops]

theorem consumes_padded_size (padding n : Nat) (bound : n < 2 ^ 64) :
    Consumes layout size (List.replicate padding 0 ++ Wire.size n) (fun found => found = n) := by
  intro input rest same start
  have last : (UInt8.ofNat (n % 128 + 128)).toNat = n % 128 + 128 := UInt8.toNat_ofNat_of_lt' (by
    change n % 128 + 128 < 256
    omega)
  have step : sizeStep (n / 128) (UInt8.ofNat (n % 128 + 128)) = .inr (.ok n) := by
    rw [sizeStep_marked _ _ (by omega) (by omega), last]
    congr 2
    omega
  have ran : scan sizeStep (.width 1) 0 input.rest input.pos =
      (.ok n, input.pos + (List.replicate padding 0 ++ Wire.size n).length, rest) := by
    rw [start, Wire.size, List.append_assoc, List.append_assoc, scan_padding,
      scan_groups (n / 128) (by omega), List.singleton_append, scan, step]
    simp [Nat.add_assoc]
  refine ⟨n, { input with pos := _, rest := rest }, ?_, same, rfl, rfl, rfl⟩
  rw [size, scanning, ran]

theorem consumes_size (n : Nat) (bound : n < 2 ^ 64) :
    Consumes layout size (Wire.size n) (fun found => found = n) :=
  consumes_padded_size 0 n bound

-- The invariant of the scan: what has been passed over spells the number reached so far.
theorem scan_size {x pos end_ n : Nat} {front bytes rest : Bytes} {padding : Nat}
    (passed : front = List.replicate padding 0 ++ Wire.groups x)
    (ran : scan sizeStep (.width 1) x bytes pos = (.ok n, end_, rest)) :
    n < 2 ^ 64 ∧ ∃ span padding, bytes = span ++ rest ∧ end_ = pos + span.length ∧
      front ++ span = List.replicate padding 0 ++ Wire.size n := by
  induction bytes generalizing x pos front padding with
  | nil => simp [scan] at ran
  | cons byte bytes ih =>
    -- The guard on the number so far is what keeps sizes below 2 ^ 64.
    by_cases room : x < 2 ^ 57
    · by_cases marked : 128 ≤ byte.toNat
      · rw [scan, sizeStep_marked x byte room marked] at ran
        obtain ⟨rfl, rfl, rfl⟩ : x * 128 + byte.toNat % 128 = n ∧ pos + 1 = end_ ∧ bytes = rest := by
          simpa using ran
        have small : byte.toNat < 256 := byte.toNat_lt
        have high : (x * 128 + byte.toNat % 128) / 128 = x := by omega
        have low : (x * 128 + byte.toNat % 128) % 128 + 128 = byte.toNat := by omega
        refine ⟨by omega, [byte], padding, rfl, rfl, ?_⟩
        rw [passed, Wire.size, high, low, UInt8.ofNat_toNat, List.append_assoc]
      · have small : byte.toNat < 128 := by omega
        rw [scan, sizeStep_unmarked x byte room small] at ran
        dsimp only at ran
        have further : ∃ padding,
            front ++ [byte] = List.replicate padding 0 ++ Wire.groups (x * 128 + byte.toNat) := by
          -- As long as the number is zero, a byte only pads it.
          by_cases positive : x * 128 + byte.toNat = 0
          · have zero : byte = 0 := UInt8.toNat_inj.mp (by simp; omega)
            have none : x = 0 := by omega
            refine ⟨padding + 1, ?_⟩
            rw [passed, positive, none, Wire.groups_zero, zero, List.append_nil, List.append_nil,
              List.replicate_succ']
          · refine ⟨padding, ?_⟩
            rw [Wire.groups_step x byte.toNat small positive, passed, UInt8.ofNat_toNat,
              List.append_assoc]
        obtain ⟨padding, longer⟩ := further
        obtain ⟨bound, span, padding, start, done, spelled⟩ := ih longer ran
        refine ⟨bound, byte :: span, padding, ?_, ?_, ?_⟩
        · rw [start, List.cons_append]
        · rw [done, List.length_cons]
          omega
        · simpa using spelled
    · rw [scan, sizeStep, if_pos (by omega)] at ran
      simp at ran

theorem yields_size :
    Yields limit size (fun n span =>
      n < 2 ^ 64 ∧ ∃ padding, span = List.replicate padding 0 ++ Wire.size n) := by
  intro input n after _ ran
  cases outcome : scan sizeStep (.width 1) 0 input.rest input.pos with
  | mk result place =>
    obtain ⟨end_, rest⟩ := place
    rw [size, scanning, outcome] at ran
    obtain ⟨rfl, rfl⟩ : result = .ok n ∧ { input with pos := end_, rest } = after := by
      simpa using ran
    have begun : ([] : Bytes) = List.replicate 0 0 ++ Wire.groups 0 := by
      rw [Wire.groups_zero]
      rfl
    obtain ⟨bound, span, padding, start, done, spelled⟩ := scan_size begun outcome
    exact ⟨span, start, done, bound, padding, spelled⟩

end Read

end LuaBytecode.V54
