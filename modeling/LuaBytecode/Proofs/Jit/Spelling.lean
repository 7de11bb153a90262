import LuaBytecode.Proofs.Jit.Framing

namespace LuaBytecode.Jit

open Reader

-- The number in groups of seven bits, the lowest first. The high bit of a byte is no part of it.
def groups : Bytes → Nat
  | [] => 0
  | byte :: rest => byte.toNat % 128 + groups rest * 128

theorem groups_lt (span : Bytes) : groups span < 128 ^ span.length := by
  induction span with
  | nil => decide
  | cons byte rest ih =>
    rw [groups, List.length_cons, Nat.pow_succ]
    omega

def tagged (first : UInt8) (rest : Bytes) : Nat := first.toNat / 2 % 64 + groups rest * 64

def Number.SpelledBy (number : Number) (span : Bytes) : Prop :=
  ∀ n, number = .int n → ∃ first rest, span = first :: rest ∧ rest.length ≤ 4 ∧ n = signed 32 (tagged first rest)

structure Collectable.SpelledBy (collectable : Collectable) (span : Bytes) : Prop where
  i64 : ∀ n, collectable = .i64 n → ∃ tag low high, span = tag ++ (low ++ high) ∧ groups tag = 2 ∧
    low.length ≤ 5 ∧ high.length ≤ 5 ∧ n = signed 64 (Read.joinHalves (groups low) (groups high))
  u64 : ∀ n, collectable = .u64 n → ∃ tag low high, span = tag ++ (low ++ high) ∧ groups tag = 3 ∧
    low.length ≤ 5 ∧ high.length ≤ 5 ∧ n = Read.joinHalves (groups low) (groups high)

def Prototype.SpelledBy (prototype : Prototype) (span : Bytes) : Prop :=
  ∃ (before behind : Bytes) (collectables : List (Collectable × Bytes)) (numbers : List (Number × Bytes)),
    span = before ++ (collectables.flatMap (·.2) ++ (numbers.flatMap (·.2) ++ behind)) ∧
    prototype.collectables = collectables.map (·.1) ∧ prototype.numbers = numbers.map (·.1) ∧
    (∀ each ∈ collectables, each.1.SpelledBy each.2) ∧ ∀ each ∈ numbers, each.1.SpelledBy each.2

namespace Read

variable {limit : Nat}

-- All that a step can do: it takes seven bits into the number and ends or goes on, or it fails.
def Takes (step : Nat × Nat → UInt8 → (Nat × Nat) ⊕ Except Fault Nat) (bits : Nat) : Prop :=
  ∀ value shift byte,
    step (value, shift) byte = .inl (value + byte.toNat % 128 * 2 ^ shift, shift + 7) ∧ shift + 7 < bits ∨
      step (value, shift) byte = .inr (.ok (value + byte.toNat % 128 * 2 ^ shift)) ∨
      ∃ fault, step (value, shift) byte = .inr (.error fault)

theorem takes_varintStep : Takes varintStep 35 := by
  intro value shift byte
  simp only [varintStep]
  split
  · exact .inr (.inl rfl)
  · split
    · exact .inr (.inr ⟨_, rfl⟩)
    · exact .inl ⟨rfl, by omega⟩

theorem takes_lowStep : Takes lowStep 32 := by
  intro value shift byte
  simp only [lowStep]
  split
  · exact .inr (.inl rfl)
  · exact .inl ⟨rfl, by omega⟩

theorem scan_spelled {step : Nat × Nat → UInt8 → (Nat × Nat) ⊕ Except Fault Nat} {bits : Nat} (takes : Takes step bits)
    {short : Fault} {value shift found pos place : Nat} {bytes rest : Bytes} (inside : shift < bits)
    (ran : scan step short (value, shift) bytes pos = (.ok found, place, rest)) :
    ∃ span, bytes = span ++ rest ∧ place = pos + span.length ∧ found = value + groups span * 2 ^ shift ∧
      shift + 7 * span.length < bits + 7 := by
  induction bytes generalizing value shift pos with
  | nil => cases ran
  | cons byte bytes ih =>
    rw [scan] at ran
    rcases takes value shift byte with ⟨goes, room⟩ | ends | ⟨fault, fails⟩
    · rw [goes] at ran
      obtain ⟨span, rfl, placed, same, short⟩ := ih room ran
      refine ⟨byte :: span, rfl, ?_, ?_, ?_⟩
      · rw [List.length_cons, placed]
        omega
      · rw [same, groups, Nat.add_mul, Nat.pow_add, Nat.mul_assoc, Nat.mul_comm 128, Nat.add_assoc]
      · rw [List.length_cons]
        omega
    · rw [ends] at ran
      obtain ⟨same, rfl, rfl⟩ : value + byte.toNat % 128 * 2 ^ shift = found ∧ pos + 1 = place ∧ bytes = rest := by
        simpa using ran
      refine ⟨[byte], rfl, rfl, ?_, ?_⟩
      · rw [← same]
        simp [groups]
      · simp only [List.length_singleton]
        omega
    · rw [fails] at ran
      cases ran

theorem yields_scanning {step : Nat × Nat → UInt8 → (Nat × Nat) ⊕ Except Fault Nat} {bits : Nat}
    (takes : Takes step bits) {short : Fault} {value shift : Nat} (inside : shift < bits) :
    Yields limit (scanning step short (value, shift)) (fun found span =>
      found = value + groups span * 2 ^ shift ∧ shift + 7 * span.length < bits + 7) := by
  intro input found after _ ran
  cases outcome : scan step short (value, shift) input.rest input.pos with
  | mk result reached =>
    obtain ⟨place, rest⟩ := reached
    rw [scanning, outcome] at ran
    cases ran
    obtain ⟨span, start, placed, same, short⟩ := scan_spelled takes inside outcome
    exact ⟨span, start, placed, same, short⟩

theorem yields_varint : Yields limit varint (fun found span => found = groups span ∧ span.length ≤ 5) := by
  refine yields_mono (yields_scanning takes_varintStep (by decide)) ?_
  rintro found span ⟨same, short⟩
  exact ⟨by rw [same, Nat.zero_add, Nat.pow_zero, Nat.mul_one], by omega⟩

theorem yields_taggedVarint :
    Yields limit taggedVarint (fun found span => found.2 = false → ∃ first rest, span = first :: rest ∧
      rest.length ≤ 4 ∧ found.1.1 = tagged first rest) := by
  refine yields_bind yields_take ?_
  rintro _ span ⟨rfl, one⟩
  obtain ⟨first, rfl⟩ := List.length_eq_one_iff.mp one
  have value : Bytes.toNat [first] = first.toNat := by simp [Bytes.toNat]
  rw [value]
  have behind (low : Nat) (rest : Bytes) (short : rest.length ≤ 4)
      (same : low = first.toNat / 2 % 64 + groups rest * 64) :
      Yields limit (if first.toNat % 2 = 1 then varint >>= fun high => pure ((low, high), decide (first.toNat % 2 = 1))
        else pure 0 >>= fun high => pure ((low, high), decide (first.toNat % 2 = 1)))
        (fun found later => found.2 = false → ∃ first' rest', [first] ++ (rest ++ later) = first' :: rest' ∧
          rest'.length ≤ 4 ∧ found.1.1 = tagged first' rest') := by
    apply yields_ite
    · intro odd
      refine yields_bind yields_varint ?_
      intro high _ _
      exact yields_pure fun even => absurd odd (of_decide_eq_false even)
    · intro _
      exact yields_pure fun _ => ⟨first, rest, by simp, short, same⟩
  apply yields_ite
  · intro _
    refine yields_bind (yields_scanning takes_lowStep (by decide)) ?_
    rintro low rest ⟨same, short⟩
    exact behind low rest (by omega) same
  · intro _
    exact behind _ [] (by simp) (by simp [groups])

theorem yields_number : Yields limit number Number.SpelledBy := by
  refine yields_bind yields_taggedVarint ?_
  rintro ⟨⟨low, high⟩, isNumber⟩ span known
  cases isNumber with
  | true =>
    refine yields_bind yields_ofExcept ?_
    intro value _ _
    exact yields_pure nofun
  | false =>
    apply yields_pure
    rintro n ⟨⟩
    obtain ⟨first, rest, rfl, short, rfl⟩ := known rfl
    exact ⟨first, rest, by simp, short, rfl⟩

theorem yields_halves {α : Type} {next : Nat → Nat → Reader α} {holds : α → Bytes → Prop}
    (tail : ∀ low high : Bytes, low.length ≤ 5 → high.length ≤ 5 → Yields limit (next (groups low) (groups high))
      (fun result later => holds result (low ++ (high ++ later)))) :
    Yields limit (varint >>= fun low => varint >>= fun high => next low high) holds := by
  refine yields_bind yields_varint ?_
  rintro _ low ⟨rfl, short⟩
  refine yields_bind yields_varint ?_
  rintro _ high ⟨rfl, short'⟩
  exact tail low high short short'

theorem yields_collectable : Yields limit collectable Collectable.SpelledBy := by
  refine yields_bind yields_varint ?_
  rintro _ tag ⟨rfl, _⟩
  split
  · exact yields_pure ⟨nofun, nofun⟩
  · refine yields_bind (yields_of_settled (settled_of_composed composed_table)) ?_
    intro table _ _
    exact yields_pure ⟨nofun, nofun⟩
  · rename_i kind
    apply yields_halves
    intro low high short short'
    apply yields_pure
    refine ⟨?_, nofun⟩
    rintro n ⟨⟩
    exact ⟨tag, low, high, by simp, kind, short, short', rfl⟩
  · rename_i kind
    apply yields_halves
    intro low high short short'
    apply yields_pure
    refine ⟨nofun, ?_⟩
    rintro n ⟨⟩
    exact ⟨tag, low, high, by simp, kind, short, short', rfl⟩
  · apply yields_halves
    intro _ _ _ _
    apply yields_halves
    intro _ _ _ _
    refine yields_bind yields_ofExcept ?_
    intro real _ _
    refine yields_bind yields_ofExcept ?_
    intro imaginary _ _
    exact yields_pure ⟨nofun, nofun⟩
  · refine yields_bind (yields_of_settled (settled_of_composed composed_string)) ?_
    intro text _ _
    exact yields_pure ⟨nofun, nofun⟩

theorem spelledBy_append {prototype : Prototype} {span : Bytes} (front : Bytes) (known : prototype.SpelledBy span) :
    prototype.SpelledBy (front ++ span) := by
  obtain ⟨before, behind, collectables, numbers, rfl, rest⟩ := known
  exact ⟨front ++ before, behind, collectables, numbers, by rw [List.append_assoc], rest⟩

theorem yields_past {α : Type} {first : Reader α} {next : α → Reader Prototype} (head : Placeless first)
    (tail : ∀ value, Yields limit (next value) Prototype.SpelledBy) :
    Yields limit (first >>= next) Prototype.SpelledBy := by
  refine yields_bind (yields_of_placeless head) ?_
  intro value span _
  exact yields_mono (tail value) fun _ _ known => spelledBy_append span known

theorem yields_past_choice {α : Type} {condition : Prop} [Decidable condition] {one other : Reader α}
    {next : α → Reader Prototype} (met : Placeless one) (unmet : Placeless other)
    (tail : ∀ value, Yields limit (next value) Prototype.SpelledBy) :
    Yields limit (if condition then one >>= next else other >>= next) Prototype.SpelledBy :=
  yields_ite (fun _ => yields_past met tail) (fun _ => yields_past unmet tail)

theorem yields_body (size : Nat) : Yields limit (body size) Prototype.SpelledBy := by
  apply yields_past (placeless_of_composed composed_fixedWidth)
  intro flags
  apply yields_past (placeless_of_composed composed_fixedWidth)
  intro paramCount
  apply yields_past (placeless_of_composed composed_fixedWidth)
  intro frameSize
  apply yields_past (placeless_of_composed composed_fixedWidth)
  intro upvalueCount
  apply yields_past (placeless_of_composed composed_varint)
  intro collectableCount
  apply yields_past (placeless_of_composed composed_varint)
  intro numberCount
  apply yields_past (placeless_of_composed composed_varint)
  intro codeCount
  apply yields_past placeless_layout
  intro found
  apply yields_past_choice placeless_pure (placeless_of_composed composed_varint)
  intro debugSize
  apply yields_past_choice placeless_pure (placeless_of_composed composed_varint)
  intro firstLine
  apply yields_past_choice placeless_pure (placeless_of_composed composed_varint)
  intro lineCount
  apply yields_past (placeless_of_composed (composed.times composed_word codeCount))
  intro code
  apply yields_past (placeless_of_composed (composed.times composed_word upvalueCount))
  intro upvalueData
  refine yields_bind (yields_times_pairs yields_collectable collectableCount) ?_
  rintro _ _ ⟨collectables, rfl, rfl, spelled⟩
  refine yields_bind (yields_times_pairs yields_number numberCount) ?_
  rintro _ _ ⟨numbers, rfl, rfl, spelled'⟩
  apply yields_ite
  · intro _
    exact yields_pure ⟨[], [], collectables, numbers, by simp, rfl, rfl, spelled, spelled'⟩
  · intro _
    refine yields_bind (yields_of_placeless (placeless_of_composed composed_debug)) ?_
    intro sections behind _
    apply yields_pure
    exact ⟨[], behind, collectables, numbers, by simp, rfl, rfl, spelled, spelled'⟩

theorem spelledBy_of_mem_frames {fuel : Nat} {input : Input} {each : Frame} (member : each ∈ frames fuel input) :
    each.prototype.SpelledBy each.body := by
  obtain ⟨_, _, ran, nonzero, _⟩ := run_of_mem_frames member
  obtain ⟨size, between, read, _⟩ := body_of_frame ran nonzero
  obtain ⟨_, _, _, known, rfl⟩ := yields_withSpan (yields_body size) between _ _ (Nat.le_refl _) read
  exact known

end Read

theorem spelledBy_of_parse {data : Bytes} {dump : Dump} (accepted : (parse data).1 = .ok dump) :
    ∃ front tail, data = front ++ ((frames data).flatMap Frame.bytes ++ tail) ∧
      dump.prototypes = (frames data).map Frame.prototype ∧
      ∀ frame ∈ frames data, frame.prototype.SpelledBy frame.body := by
  obtain ⟨headed, front, tail, _, known, same, whole⟩ := header_of_parse accepted
  refine ⟨front, tail, whole, same, ?_⟩
  intro frame member
  rw [known] at member
  exact Read.spelledBy_of_mem_frames member

end LuaBytecode.Jit
