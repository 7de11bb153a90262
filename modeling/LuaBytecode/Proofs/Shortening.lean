import LuaBytecode.Proofs.Extent
/-!
Readers that make do with less. Where the bytes that such a reader passes over are cut off, it either
fails or gives a smaller value and comes to the end of the input; where the cut is behind them, it
does not notice.
-/
namespace LuaBytecode.Reader

variable {α β : Type} {tells : Nat → Fault → Prop}

-- `becomes value shorter`: what was read as `value` may be read as `shorter` from a part of its bytes.
def FailsOrShortens (reader : Reader α) (becomes : α → α → Prop) : Prop :=
  ∀ (input : Input) (value : α) (after : Input), reader input = (.ok value, after) →
    ∃ span, input.rest = span ++ after.rest ∧ after.pos = input.pos + span.length ∧
      (∀ cut more, after.rest = cut ++ more →
        reader { input with rest := span ++ cut } = (.ok value, { after with rest := cut })) ∧
      ∀ cut more, span = cut ++ more → more ≠ [] →
        (∃ fault later, reader { input with rest := cut } = (.error fault, later)) ∨
        ∃ shorter later, reader { input with rest := cut } = (.ok shorter, later) ∧ later.rest = [] ∧
          becomes value shorter

theorem failsOrShortens_of_settled {reader : Reader α} {becomes : α → α → Prop} (known : Settled tells reader) :
    FailsOrShortens reader becomes := by
  intro input value after ran
  obtain ⟨span, start, pos, alike, short⟩ := known input value after ran
  refine ⟨span, start, pos, fun cut _ _ => alike cut, ?_⟩
  intro cut more joined missing
  obtain ⟨fault, later, failed, _⟩ := short cut more joined missing
  exact .inl ⟨fault, later, failed⟩

theorem failsOrShortens_pure {value : α} {becomes : α → α → Prop} : FailsOrShortens (pure value) becomes :=
  failsOrShortens_of_settled (settled_pure : Settled (fun _ _ => True) (pure value))

theorem failsOrShortens_ite {condition : Prop} [Decidable condition] {one other : Reader α} {becomes : α → α → Prop}
    (met : FailsOrShortens one becomes) (unmet : FailsOrShortens other becomes) :
    FailsOrShortens (if condition then one else other) becomes := by
  by_cases decided : condition
  · simpa only [if_pos decided] using met
  · simpa only [if_neg decided] using unmet

-- Only the last reader of a row may make do with less, since it leaves nothing for another.
theorem failsOrShortens_bind {first : Reader α} {next : α → Reader β} {becomes : β → β → Prop}
    (head : Settled tells first) (tail : ∀ value, FailsOrShortens (next value) becomes) :
    FailsOrShortens (first >>= next) becomes := by
  intro input result after ran
  obtain ⟨value, between, outcome, ran'⟩ := ok_of_bind ran
  obtain ⟨span, start, pos, alike, short⟩ := head input value between outcome
  obtain ⟨later, start', pos', behind, within⟩ := tail value between result after ran'
  have reaches : ∀ rest, (first >>= next) { input with rest := span ++ rest } = next value { between with rest } :=
    fun rest => bind_of_ok (alike rest)
  refine ⟨span ++ later, by rw [start, start', List.append_assoc], ?_, ?_, ?_⟩
  · rw [pos', pos, List.length_append, Nat.add_assoc]
  · intro cut more joined
    rw [List.append_assoc, reaches]
    exact behind cut more joined
  · intro cut more joined missing
    cases cut_cases joined with
    | inl inside =>
      obtain ⟨extra, spanEq, whole⟩ := inside
      obtain ⟨fault, last, failed, _⟩ := short cut extra spanEq whole
      exact .inl ⟨fault, last, bind_of_error failed⟩
    | inr outside =>
      obtain ⟨part, cutEq, laterEq⟩ := outside
      rw [cutEq, reaches]
      exact within part more laterEq missing

theorem failsOrShortens_map {first : Reader α} {result : α → β} {before : α → α → Prop} {becomes : β → β → Prop}
    (known : FailsOrShortens first before)
    (follows : ∀ value shorter, before value shorter → becomes (result value) (result shorter)) :
    FailsOrShortens (first >>= fun value => pure (result value)) becomes := by
  intro input found after ran
  obtain ⟨value, between, outcome, ran'⟩ := ok_of_bind ran
  cases ran'
  obtain ⟨span, start, pos, behind, within⟩ := known input value after outcome
  refine ⟨span, start, pos, fun cut more joined => bind_of_ok (behind cut more joined), ?_⟩
  intro cut more joined missing
  cases within cut more joined missing with
  | inl fails =>
    obtain ⟨fault, later, failed⟩ := fails
    exact .inl ⟨fault, later, bind_of_error failed⟩
  | inr gives =>
    obtain ⟨shorter, later, done, nothing, became⟩ := gives
    exact .inr ⟨result shorter, later, bind_of_ok done, nothing, follows value shorter became⟩

theorem failsOrShortens_choice {condition : Prop} [Decidable condition] {one other : Reader α} {next : α → Reader β}
    {becomes : β → β → Prop} (met : Settled tells one) (unmet : Settled tells other)
    (tail : ∀ value, FailsOrShortens (next value) becomes) :
    FailsOrShortens (if condition then one >>= next else other >>= next) becomes :=
  failsOrShortens_ite (failsOrShortens_bind met tail) (failsOrShortens_bind unmet tail)

theorem ne_nil_of_starves {reader : Reader α} {input after : Input} {span : Bytes} {value : α}
    (starves : Starves reader) (done : reader { input with rest := span ++ [] } = (.ok value, after)) :
    span ≠ [] := by
  intro empty
  subst empty
  obtain ⟨fault, later, failed⟩ := starves { input with rest := [] } rfl
  rw [List.append_nil, failed] at done
  cases done

theorem yields_nonempty_of_failsOrShortens {reader : Reader α} {becomes : α → α → Prop} {limit : Nat}
    (known : FailsOrShortens reader becomes) (starves : Starves reader) :
    Yields limit reader (fun _ span => span ≠ []) := by
  intro input value after _ ran
  obtain ⟨span, start, pos, behind, _⟩ := known input value after ran
  exact ⟨span, start, pos, ne_nil_of_starves starves (behind [] after.rest rfl)⟩

theorem atEnd_of_nil {input : Input} (nothing : input.rest = []) : atEnd input = (.ok true, input) := by
  simp [atEnd, nothing]

theorem atEnd_of_ne_nil {input : Input} (some : input.rest ≠ []) : atEnd input = (.ok false, input) := by
  simp [atEnd, some]

theorem yields_atEnd {limit : Nat} : Yields limit atEnd (fun _ span => span = []) := by
  intro input ended after _ ran
  cases ran
  exact ⟨[], rfl, rfl, rfl⟩

theorem failsOrShortens_unlessAtEnd {reader : Reader α} {least : α} {becomes : α → α → Prop}
    (known : FailsOrShortens reader becomes) (starves : Starves reader) (less : ∀ value, becomes value least) :
    FailsOrShortens (atEnd >>= fun ended => if ended = true then pure least else reader) becomes := by
  have stops : ∀ input : Input, input.rest = [] →
      (atEnd >>= fun ended => if ended = true then pure least else reader) input = (.ok least, input) :=
    fun input nothing => bind_of_ok (atEnd_of_nil nothing)
  have goes : ∀ input : Input, input.rest ≠ [] →
      (atEnd >>= fun ended => if ended = true then pure least else reader) input = reader input :=
    fun input some => bind_of_ok (atEnd_of_ne_nil some)
  intro input value after ran
  by_cases ended : input.rest = []
  · rw [stops input ended] at ran
    cases ran
    refine ⟨[], rfl, rfl, ?_, ?_⟩
    · intro cut more joined
      have none : cut = [] := by simp_all
      subst none
      exact stops { input with rest := [] } rfl
    · intro cut more joined missing
      simp_all
  · rw [goes input ended] at ran
    obtain ⟨span, start, pos, behind, within⟩ := known input value after ran
    have nonempty : span ≠ [] := ne_nil_of_starves starves (behind [] after.rest rfl)
    refine ⟨span, start, pos, ?_, ?_⟩
    · intro cut more joined
      rw [goes { input with rest := span ++ cut } (by simp [nonempty])]
      exact behind cut more joined
    · intro cut more joined missing
      by_cases none : cut = []
      · subst none
        exact .inr ⟨least, { input with rest := [] }, stops { input with rest := [] } rfl, rfl, less value⟩
      · rw [goes { input with rest := cut } none]
        exact within cut more joined missing

theorem failsOrShortens_nested {reader : (depth : Nat) → Reader α} {becomes : α → α → Prop}
    (deeper : ∀ depth, Agree depth (reader depth) (reader (depth + 1)))
    (known : ∀ depth, FailsOrShortens (reader depth) becomes) : FailsOrShortens (nested reader) becomes := by
  intro input value after ran
  obtain ⟨span, start, pos, behind, within⟩ := known (input.rest.length + 1) input value after ran
  have shallow : ∀ part : Bytes, part.length ≤ input.rest.length →
      nested reader { input with rest := part } = reader (input.rest.length + 1) { input with rest := part } :=
    fun part fewer => nested_eq deeper { input with rest := part } (Nat.lt_succ_of_le fewer)
  refine ⟨span, start, pos, ?_, ?_⟩
  · intro cut more joined
    rw [shallow (span ++ cut) (by simp [start, joined])]
    exact behind cut more joined
  · intro cut more joined missing
    rw [shallow cut (by simp [start, joined])]
    exact within cut more joined missing

end LuaBytecode.Reader
