import LuaBytecode.Proofs.Reader
/-!
Two readers side by side. They are abreast if no input tells them apart but by what they give: both
fail alike and at the same place, or both succeed and have passed over the same bytes.
-/
namespace LuaBytecode.Reader

variable {α β γ δ : Type}

def Abreast (one : Reader α) (other : Reader β) (holds : α → β → Bytes → Prop) : Prop :=
  ∀ input : Input,
    (∃ first second span after, one input = (.ok first, after) ∧ other input = (.ok second, after) ∧
      input.rest = span ++ after.rest ∧ after.pos = input.pos + span.length ∧ holds first second span) ∨
    ∃ fault after, one input = (.error fault, after) ∧ other input = (.error fault, after)

theorem abreast_pure {first : α} {second : β} {holds : α → β → Bytes → Prop} (held : holds first second []) :
    Abreast (pure first) (pure second) holds := by
  intro input
  exact .inl ⟨first, second, [], input, rfl, rfl, rfl, rfl, held⟩

theorem abreast_fail {fault : Fault} {holds : α → β → Bytes → Prop} :
    Abreast (fail fault) (fail fault) holds := by
  intro input
  exact .inr ⟨fault, input, rfl, rfl⟩

theorem abreast_bind {one : Reader α} {other : Reader β} {next : α → Reader γ} {otherNext : β → Reader δ}
    {middle : α → β → Bytes → Prop} {holds : γ → δ → Bytes → Prop} (head : Abreast one other middle)
    (tail : ∀ first second span, middle first second span →
      Abreast (next first) (otherNext second) (fun result otherResult later =>
        holds result otherResult (span ++ later))) :
    Abreast (one >>= next) (other >>= otherNext) holds := by
  intro input
  rcases head input with ⟨first, second, span, between, ran, otherRan, start, pos, reached⟩ | failed
  · rw [bind_of_ok ran, bind_of_ok otherRan]
    rcases tail first second span reached between with
      ⟨result, otherResult, later, after, ran', otherRan', start', pos', held⟩ | failed
    · refine .inl ⟨result, otherResult, span ++ later, after, ran', otherRan', ?_, ?_, held⟩
      · rw [start, start', List.append_assoc]
      · rw [pos', pos, List.length_append, Nat.add_assoc]
    · exact .inr failed
  · obtain ⟨fault, after, ran, otherRan⟩ := failed
    exact .inr ⟨fault, after, bind_of_error ran, bind_of_error otherRan⟩

theorem abreast_ite {condition : Prop} [Decidable condition] {one no : Reader α} {other otherNo : Reader β}
    {holds : α → β → Bytes → Prop} (met : Abreast one other holds) (unmet : Abreast no otherNo holds) :
    Abreast (if condition then one else no) (if condition then other else otherNo) holds := by
  by_cases decided : condition
  · rwa [if_pos decided, if_pos decided]
  · rwa [if_neg decided, if_neg decided]

theorem abreast_mono {one : Reader α} {other : Reader β} {strong weak : α → β → Bytes → Prop}
    (known : Abreast one other strong)
    (follows : ∀ first second span, strong first second span → weak first second span) :
    Abreast one other weak := by
  intro input
  rcases known input with ⟨first, second, span, after, ran, otherRan, start, pos, held⟩ | failed
  · exact .inl ⟨first, second, span, after, ran, otherRan, start, pos, follows first second span held⟩
  · exact .inr failed

theorem abreast_symm {one : Reader α} {other : Reader β} {holds : α → β → Bytes → Prop}
    (known : Abreast one other holds) : Abreast other one (fun second first span => holds first second span) := by
  intro input
  rcases known input with ⟨first, second, span, after, ran, otherRan, start, pos, held⟩ | failed
  · exact .inl ⟨second, first, span, after, otherRan, ran, start, pos, held⟩
  · obtain ⟨fault, after, ran, otherRan⟩ := failed
    exact .inr ⟨fault, after, otherRan, ran⟩

theorem abreast_map {one : Reader α} {other : Reader β} {result : α → γ} {middle : α → β → Bytes → Prop}
    {holds : γ → β → Bytes → Prop} (known : Abreast one other middle)
    (follows : ∀ first second span, middle first second span → holds (result first) second span) :
    Abreast (one >>= fun first => pure (result first)) other holds := by
  intro input
  rcases known input with ⟨first, second, span, after, ran, otherRan, start, pos, reached⟩ | failed
  · exact .inl ⟨result first, second, span, after, bind_of_ok ran, otherRan, start, pos,
      follows first second span reached⟩
  · obtain ⟨fault, after, ran, otherRan⟩ := failed
    exact .inr ⟨fault, after, bind_of_error ran, otherRan⟩

theorem abreast_self {reader : Reader α} {holds : α → Bytes → Prop} (known : ∀ limit, Yields limit reader holds) :
    Abreast reader reader (fun first second span => first = second ∧ holds first span) := by
  intro input
  cases outcome : reader input with
  | mk found after =>
    cases found with
    | error fault => exact .inr ⟨fault, after, rfl, rfl⟩
    | ok value =>
      obtain ⟨span, start, pos, held⟩ := known input.rest.length input value after (Nat.le_refl _) outcome
      exact .inl ⟨value, value, span, after, rfl, rfl, start, pos, rfl, held⟩

theorem abreast_takeUpTo (count : Nat) :
    Abreast (takeUpTo count) (takeUpTo count) (fun first second span => first = second ∧ first = span) := by
  apply abreast_self
  intro limit
  exact yields_mono (yields_takeUpTo count) fun _ _ held => held.1

theorem abreast_withSpan {one : Reader α} {other : Reader β} {holds : α → β → Bytes → Prop}
    (known : Abreast one other holds) :
    Abreast one (withSpan other) (fun first noted span => holds first noted.1 span ∧ noted.2 = span) := by
  intro input
  rcases known input with ⟨first, second, span, after, ran, otherRan, start, pos, held⟩ | failed
  · refine .inl ⟨first, (second, span), span, after, ran, ?_, start, pos, held, rfl⟩
    simp [withSpan, otherRan, pos, start]
  · obtain ⟨fault, after, ran, otherRan⟩ := failed
    exact .inr ⟨fault, after, ran, by simp [withSpan, otherRan]⟩

theorem abreast_times {one : Reader α} {other : Reader β} {each : α → β → Bytes → Prop}
    {all : List α → List β → Bytes → Prop} (known : Abreast one other each) (none : all [] [] [])
    (more : ∀ first second span firsts seconds later, each first second span →
      all firsts seconds later → all (first :: firsts) (second :: seconds) (span ++ later))
    (count : Nat) : Abreast (times count one) (times count other) all := by
  induction count with
  | zero => exact abreast_pure none
  | succ count ih =>
    rw [times, times]
    refine abreast_bind known ?_
    intro first second span held
    refine abreast_bind ih ?_
    intro firsts seconds later heldLater
    apply abreast_pure
    rw [List.append_nil]
    exact more first second span firsts seconds later held heldLater

theorem abreast_nested {one : (depth : Nat) → Reader α} {other : (depth : Nat) → Reader β}
    {holds : α → β → Bytes → Prop} (known : ∀ depth, Abreast (one depth) (other depth) holds) :
    Abreast (nested one) (nested other) holds := by
  intro input
  exact known (input.rest.length + 1) input

theorem eq_of_abreast {one other : Reader α} {holds : α → α → Bytes → Prop} (known : Abreast one other holds)
    (same : ∀ first second span, holds first second span → first = second) : one = other := by
  funext input
  rcases known input with ⟨first, second, span, after, ran, otherRan, _, _, held⟩ | failed
  · rw [ran, otherRan, same first second span held]
  · obtain ⟨fault, after, ran, otherRan⟩ := failed
    rw [ran, otherRan]

-- The second gives what the first gives, changed, and leaves the same input.
def Renders (change : α → β) (one : Reader α) (other : Reader β) : Prop :=
  ∀ input : Input, other input = ((one input).1.map change, (one input).2)

theorem renders_pure {change : α → β} {value : α} : Renders change (pure value) (pure (change value)) := fun _ => rfl

theorem renders_bind {first : Reader α} {otherFirst : Reader β} {next : α → Reader γ} {otherNext : β → Reader δ}
    {before : α → β} {change : γ → δ} (head : Renders before first otherFirst)
    (tail : ∀ value, Renders change (next value) (otherNext (before value))) :
    Renders change (first >>= next) (otherFirst >>= otherNext) := by
  intro input
  have same := head input
  cases outcome : first input with
  | mk found between =>
    rw [outcome] at same
    cases found with
    | error fault =>
      rw [bind_of_error outcome, bind_of_error same]
      rfl
    | ok value =>
      rw [bind_of_ok outcome, bind_of_ok same]
      exact tail value between

theorem renders_after {first : Reader α} {next : α → Reader γ} {otherNext : α → Reader δ} {change : γ → δ}
    (tail : ∀ value, Renders change (next value) (otherNext value)) :
    Renders change (first >>= next) (first >>= otherNext) := by
  have itself : Renders id first first := by
    intro input
    cases outcome : first input with
    | mk found between => cases found <;> rfl
  exact renders_bind itself tail

theorem renders_ite {condition : Prop} [Decidable condition] {one no : Reader α} {other otherNo : Reader β}
    {change : α → β} (met : Renders change one other) (unmet : Renders change no otherNo) :
    Renders change (if condition then one else no) (if condition then other else otherNo) := by
  by_cases decided : condition
  · rwa [if_pos decided, if_pos decided]
  · rwa [if_neg decided, if_neg decided]

theorem renders_choice {condition : Prop} [Decidable condition] {one other : Reader α} {next : α → Reader γ}
    {otherNext : α → Reader δ} {change : γ → δ} (tail : ∀ value, Renders change (next value) (otherNext value)) :
    Renders change (if condition then one >>= next else other >>= next)
      (if condition then one >>= otherNext else other >>= otherNext) :=
  renders_ite (renders_after tail) (renders_after tail)

theorem renders_withSpan {reader : Reader α} : Renders Prod.fst (withSpan reader) reader := by
  intro input
  cases outcome : reader input with
  | mk found between => cases found <;> simp [withSpan, outcome, Except.map]

end LuaBytecode.Reader
