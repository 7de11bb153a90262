import LuaBytecode.Proofs.Extent
/-!
Readers that take what is left. At the end of the input such a reader is content with fewer bytes
than it asks for, so that of the bytes it passes over only the first are needed: without one of them
it fails, while of the others any number may be missing.
-/
namespace LuaBytecode.Reader

variable {α β : Type} {limit : Nat}

-- `becomes value slack cut shorter`: what was read as `value` with `slack` behind the needed bytes is
-- read as `shorter` if the input ends with `cut` in the place of `slack`.
def OptionalTail (reader : Reader α) (becomes : α → Bytes → Bytes → α → Prop) : Prop :=
  ∀ (input : Input) (value : α) (after : Input), reader input = (.ok value, after) →
    ∃ needed slack, input.rest = needed ++ (slack ++ after.rest) ∧
      after.pos = input.pos + (needed ++ slack).length ∧
      (∀ rest, (after.rest = [] → rest = []) →
        reader { input with rest := needed ++ (slack ++ rest) } = (.ok value, { after with rest })) ∧
      (∀ cut more, needed = cut ++ more → more ≠ [] →
        ∃ fault later, reader { input with rest := cut } = (.error fault, later)) ∧
      ∀ cut more, slack = cut ++ more → ∃ shorter later,
        reader { input with rest := needed ++ cut } = (.ok shorter, later) ∧ later.rest = [] ∧
          becomes value slack cut shorter

def MayEndEarly (reader : Reader α) : Prop := OptionalTail reader fun _ _ _ _ => True

def NeedsAll (reader : Reader α) : Prop :=
  OptionalTail reader fun value slack cut shorter => slack = [] ∧ cut = [] ∧ shorter = value

theorem optionalTail_mono {reader : Reader α} {strong weak : α → Bytes → Bytes → α → Prop}
    (known : OptionalTail reader strong)
    (follows : ∀ value slack cut shorter, strong value slack cut shorter → weak value slack cut shorter) :
    OptionalTail reader weak := by
  intro input value after ran
  obtain ⟨needed, slack, start, pos, alike, short, loose⟩ := known input value after ran
  refine ⟨needed, slack, start, pos, alike, short, ?_⟩
  intro cut more joined
  obtain ⟨shorter, later, done, nothing, became⟩ := loose cut more joined
  exact ⟨shorter, later, done, nothing, follows value slack cut shorter became⟩

theorem mayEndEarly_of_optionalTail {reader : Reader α} {becomes : α → Bytes → Bytes → α → Prop}
    (known : OptionalTail reader becomes) : MayEndEarly reader :=
  optionalTail_mono known fun _ _ _ _ _ => trivial

theorem needsAll_of_settled {reader : Reader α} (known : Settled (fun _ _ => True) reader) : NeedsAll reader := by
  intro input value after ran
  obtain ⟨span, start, pos, alike, short⟩ := known input value after ran
  refine ⟨span, [], start, by rw [pos, List.append_nil], fun rest _ => alike rest, ?_, ?_⟩
  · intro cut more joined missing
    obtain ⟨fault, later, failed, _⟩ := short cut more joined missing
    exact ⟨fault, later, failed⟩
  · intro cut more joined
    obtain ⟨rfl, rfl⟩ : cut = [] ∧ more = [] := by simpa using joined
    exact ⟨value, { after with rest := [] }, alike [], rfl, rfl, rfl, rfl⟩

theorem optionalTail_pure {value : α} {becomes : α → Bytes → Bytes → α → Prop} (held : becomes value [] [] value) :
    OptionalTail (pure value) becomes := by
  intro input found after ran
  obtain ⟨rfl, rfl⟩ : value = found ∧ input = after := by simpa [pure_apply] using ran
  refine ⟨[], [], rfl, rfl, fun rest _ => rfl, ?_, ?_⟩
  · intro cut more joined missing
    have empty : cut = [] ∧ more = [] := by simpa using joined
    exact absurd empty.2 missing
  · intro cut more joined
    obtain ⟨rfl, rfl⟩ : cut = [] ∧ more = [] := by simpa using joined
    exact ⟨value, { input with rest := [] }, rfl, rfl, held⟩

theorem needsAll_pure {value : α} : NeedsAll (pure value) := optionalTail_pure ⟨rfl, rfl, rfl⟩

theorem optionalTail_fail {fault : Fault} {becomes : α → Bytes → Bytes → α → Prop} :
    OptionalTail (fail fault) becomes := by
  intro input found after ran
  simp [fail] at ran

theorem yields_of_optionalTail {reader : Reader α} {becomes : α → Bytes → Bytes → α → Prop}
    (known : OptionalTail reader becomes) : Yields limit reader (fun _ _ => True) := by
  intro input value after _ ran
  obtain ⟨needed, slack, start, pos, _⟩ := known input value after ran
  exact ⟨needed ++ slack, by rw [start, List.append_assoc], pos, trivial⟩

theorem yields_nonempty_of_optionalTail {reader : Reader α} {becomes : α → Bytes → Bytes → α → Prop}
    (known : OptionalTail reader becomes) (starves : Starves reader) :
    Yields limit reader (fun _ span => span ≠ []) := by
  intro input value after _ ran
  obtain ⟨needed, slack, start, pos, _, _, loose⟩ := known input value after ran
  refine ⟨needed ++ slack, by rw [start, List.append_assoc], pos, ?_⟩
  intro empty
  obtain ⟨rfl, rfl⟩ := List.append_eq_nil_iff.mp empty
  obtain ⟨_, _, done, _⟩ := loose [] [] rfl
  obtain ⟨_, _, failed⟩ := starves { input with rest := [] } rfl
  rw [List.append_nil, failed] at done
  cases done

theorem optionalTail_map {first : Reader α} {result : α → β} {before : α → Bytes → Bytes → α → Prop}
    {becomes : β → Bytes → Bytes → β → Prop} (known : OptionalTail first before)
    (follows : ∀ value slack cut shorter, before value slack cut shorter →
      becomes (result value) slack cut (result shorter)) :
    OptionalTail (first >>= fun value => pure (result value)) becomes := by
  intro input found after ran
  obtain ⟨value, between, outcome, ran'⟩ := ok_of_bind ran
  cases ran'
  obtain ⟨needed, slack, start, pos, alike, short, loose⟩ := known input value after outcome
  refine ⟨needed, slack, start, pos, ?_, ?_, ?_⟩
  · intro rest ended
    exact bind_of_ok (alike rest ended)
  · intro cut more joined missing
    obtain ⟨fault, later, failed⟩ := short cut more joined missing
    exact ⟨fault, later, bind_of_error failed⟩
  · intro cut more joined
    obtain ⟨shorter, later, done, nothing, became⟩ := loose cut more joined
    exact ⟨result shorter, later, bind_of_ok done, nothing, follows value slack cut shorter became⟩

-- If the first reader comes away with less than it asked for, the next one has to fail.
theorem optionalTail_bind {first : Reader α} {next : α → Reader β} {before : α → Bytes → Bytes → α → Prop}
    {becomes : β → Bytes → Bytes → β → Prop} (head : OptionalTail first before)
    (starves : ∀ value slack cut shorter, before value slack cut shorter → cut.length < slack.length →
      Starves (next shorter))
    (tail : ∀ value, OptionalTail (next value) becomes) : OptionalTail (first >>= next) becomes := by
  intro input result after ran
  obtain ⟨value, between, outcome, ran'⟩ := ok_of_bind ran
  obtain ⟨needed, slack, start, pos, alike, short, loose⟩ := head input value between outcome
  obtain ⟨needed', slack', start', pos', alike', short', loose'⟩ := tail value between result after ran'
  have reaches : ∀ rest, (between.rest = [] → rest = []) →
      (first >>= next) { input with rest := needed ++ slack ++ rest } = next value { between with rest } := by
    intro rest ended
    have firstly := alike rest ended
    rw [← List.append_assoc] at firstly
    exact bind_of_ok firstly
  refine ⟨needed ++ slack ++ needed', slack', ?_, ?_, ?_, ?_, ?_⟩
  · rw [start, start']
    simp only [List.append_assoc]
  · rw [pos', pos]
    simp only [List.length_append]
    omega
  · intro rest ended
    have later : between.rest = [] → needed' ++ (slack' ++ rest) = [] := by
      intro nothing
      rw [start'] at nothing
      simp only [List.append_eq_nil_iff] at nothing ⊢
      exact ⟨nothing.1, nothing.2.1, ended nothing.2.2⟩
    rw [List.append_assoc, reaches _ later]
    exact alike' rest ended
  · -- The cut is among the needed bytes of the first reader, in its slack, or behind both.
    intro cut more joined missing
    rcases cut_cases joined with ⟨extra, spanEq, whole⟩ | ⟨part, cutEq, neededEq⟩
    · rcases cut_cases spanEq with ⟨extra, neededEq, whole⟩ | ⟨part, cutEq, slackEq⟩
      · obtain ⟨fault, later, failed⟩ := short cut extra neededEq whole
        exact ⟨fault, later, bind_of_error failed⟩
      · obtain ⟨shorter, reached, done, nothing, became⟩ := loose part extra slackEq
        have less : part.length < slack.length := by
          have positive := List.length_pos_iff.mpr whole
          rw [slackEq, List.length_append]
          omega
        obtain ⟨fault, later, failed⟩ := starves value slack part shorter became less reached nothing
        rw [cutEq]
        exact ⟨fault, later, (bind_of_ok done).trans failed⟩
    · have ended : between.rest = [] → part = [] := by
        intro nothing
        rw [start', neededEq] at nothing
        simp only [List.append_eq_nil_iff] at nothing
        exact nothing.1.1
      obtain ⟨fault, later, failed⟩ := short' part more neededEq missing
      rw [cutEq]
      exact ⟨fault, later, (reaches part ended).trans failed⟩
  · intro cut more joined
    have later : between.rest = [] → needed' ++ cut = [] := by
      intro nothing
      rw [start', joined] at nothing
      simp only [List.append_eq_nil_iff] at nothing ⊢
      exact ⟨nothing.1, nothing.2.1.1⟩
    rw [List.append_assoc, reaches _ later]
    exact loose' cut more joined

theorem optionalTail_after {first : Reader α} {next : α → Reader β} {becomes : β → Bytes → Bytes → β → Prop}
    (head : NeedsAll first) (tail : ∀ value, OptionalTail (next value) becomes) :
    OptionalTail (first >>= next) becomes := by
  refine optionalTail_bind head ?_ tail
  intro _ slack cut _ whole less
  rw [whole.1] at less
  exact absurd less (Nat.not_lt_zero _)

theorem starves_times {reader : Reader α} (starves : Starves reader) (count : Nat) :
    Starves (times (count + 1) reader) :=
  starves_bind starves

-- Only the last item can come short, since there is a byte to read for every one.
theorem optionalTail_times {reader : Reader α} {each : α → Bytes → Bytes → α → Prop}
    {all : List α → Bytes → Bytes → List α → Prop} (known : OptionalTail reader each) (starves : Starves reader)
    (none : all [] [] [] [])
    (last : ∀ value slack cut shorter, each value slack cut shorter → all [value] slack cut [shorter])
    (more : ∀ head first tail slack cut shorter, all (first :: tail) slack cut shorter →
      all (head :: first :: tail) slack cut (head :: shorter))
    (count : Nat) : OptionalTail (times count reader) (fun values slack cut shorter =>
      values.length = count ∧ all values slack cut shorter) := by
  induction count with
  | zero => exact optionalTail_pure ⟨rfl, none⟩
  | succ count ih =>
    cases count with
    | zero =>
      apply @optionalTail_map _ _ reader (fun head => [head]) each _ known
      intro value slack cut shorter became
      exact ⟨rfl, last value slack cut shorter became⟩
    | succ count =>
      refine optionalTail_bind known ?_ ?_
      · intro _ _ _ shorter _ _
        exact starves_bind (starves_times starves count)
      · intro head
        apply optionalTail_map ih
        intro values slack cut shorter became
        obtain ⟨size, built⟩ := became
        cases values with
        | nil => cases size
        | cons first tail => exact ⟨by rw [List.length_cons, size], more head first tail slack cut shorter built⟩

theorem mayEndEarly_times {reader : Reader α} (known : MayEndEarly reader) (starves : Starves reader) (count : Nat) :
    MayEndEarly (times count reader) :=
  mayEndEarly_of_optionalTail (@optionalTail_times α reader _ (fun _ _ _ _ => True) known starves trivial
    (fun _ _ _ _ _ => trivial) (fun _ _ _ _ _ _ _ => trivial) count)

theorem optionalTail_nested {reader : (depth : Nat) → Reader α} {becomes : α → Bytes → Bytes → α → Prop}
    (deeper : ∀ depth, Agree depth (reader depth) (reader (depth + 1)))
    (known : ∀ depth, OptionalTail (reader depth) becomes) : OptionalTail (nested reader) becomes := by
  intro input value after ran
  obtain ⟨needed, slack, start, pos, _, short, loose⟩ := known (input.rest.length + 1) input value after ran
  -- A part of the input needs no more depth than the whole.
  have shallow : ∀ part : Bytes, part.length ≤ input.rest.length →
      nested reader { input with rest := part } = reader (input.rest.length + 1) { input with rest := part } :=
    fun part fewer => nested_eq deeper { input with rest := part } (Nat.lt_succ_of_le fewer)
  refine ⟨needed, slack, start, pos, ?_, ?_, ?_⟩
  · intro rest ended
    obtain ⟨depth, deep, deep'⟩ : ∃ depth, input.rest.length < depth ∧ (needed ++ (slack ++ rest)).length < depth :=
      ⟨input.rest.length + (needed ++ (slack ++ rest)).length + 1, by omega, by omega⟩
    have here : reader depth input = (.ok value, after) := by
      rw [← ran, nested_eq deeper input deep]
    obtain ⟨needed', slack', start', _, alike, _⟩ := known depth input value after here
    -- At another depth the needed bytes may be others, but together with the slack they are the same.
    have same : needed' ++ slack' = needed ++ slack := by
      rw [start, ← List.append_assoc, ← List.append_assoc] at start'
      exact (List.append_cancel_right start').symm
    have again := alike rest ended
    rw [← List.append_assoc, same, List.append_assoc] at again
    rw [nested_eq deeper { input with rest := needed ++ (slack ++ rest) } deep']
    exact again
  · intro cut more joined missing
    obtain ⟨fault, later, failed⟩ := short cut more joined missing
    have fewer : cut.length ≤ input.rest.length := by
      rw [start, joined]
      simp only [List.length_append]
      omega
    exact ⟨fault, later, (shallow cut fewer).trans failed⟩
  · intro cut more joined
    obtain ⟨shorter, later, done, nothing, became⟩ := loose cut more joined
    have fewer : (needed ++ cut).length ≤ input.rest.length := by
      rw [start, joined]
      simp only [List.length_append]
      omega
    exact ⟨shorter, later, (shallow (needed ++ cut) fewer).trans done, nothing, became⟩

theorem optionalTail_takeUpTo (count : Nat) :
    OptionalTail (takeUpTo count) (fun taken slack cut shorter =>
      taken = slack ∧ shorter = cut ∧ slack.length ≤ count) := by
  intro input taken after ran
  simp only [takeUpTo, Prod.mk.injEq, Except.ok.injEq] at ran
  obtain ⟨rfl, rfl⟩ := ran
  refine ⟨[], input.rest.take count, by simp, by simp, ?_, ?_, ?_⟩
  · intro rest ended
    have taken : (input.rest.take count ++ rest).take count = input.rest.take count ∧
        (input.rest.take count ++ rest).drop count = rest := by
      by_cases enough : count ≤ input.rest.length
      · have exactly : (input.rest.take count).length = count := List.length_take_of_le enough
        exact ⟨List.take_left' exactly, List.drop_left' exactly⟩
      · obtain rfl : rest = [] := ended (List.drop_eq_nil_of_le (by omega))
        rw [List.append_nil, List.take_take, Nat.min_self]
        exact ⟨rfl, List.drop_eq_nil_of_le (List.length_take_le count input.rest)⟩
    simp [takeUpTo, taken.1, taken.2]
  · intro cut more joined missing
    have empty : cut = [] ∧ more = [] := by simpa using joined
    exact absurd empty.2 missing
  · intro cut more joined
    have bound := List.length_take_le count input.rest
    have fewer : cut.length ≤ count := by
      rw [joined, List.length_append] at bound
      omega
    refine ⟨cut, { input with pos := input.pos + cut.length, rest := [] }, ?_, rfl, rfl, rfl, bound⟩
    simp [takeUpTo, List.take_of_length_le fewer, List.drop_eq_nil_of_le fewer]

end LuaBytecode.Reader
