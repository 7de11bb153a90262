import LuaBytecode.Proofs.Composition
/-!
Readers that do not know where they are. Such a reader does the same at every place, and where it
succeeds it does so whatever stands behind the bytes that it passes over; it may notice only whether
anything stands there at all.
-/
namespace LuaBytecode.Reader

variable {α β : Type}

structure Placeless (reader : Reader α) : Prop where
  ok : ∀ (input : Input) (value : α) (after : Input), reader input = (.ok value, after) →
    ∃ span, input.rest = span ++ after.rest ∧ ∀ pos rest, (rest = [] ↔ after.rest = []) →
      reader { input with pos, rest := span ++ rest } = (.ok value, { input with pos := pos + span.length, rest })
  error : ∀ (input : Input) (fault : Fault) (after : Input), reader input = (.error fault, after) →
    ∀ pos, ∃ later, reader { input with pos } = (.error fault, later)

theorem Placeless.after_eq {reader : Reader α} {input after : Input} {value : α} {span : Bytes}
    (start : input.rest = span ++ after.rest) (ran : reader input = (.ok value, after))
    (alike : ∀ pos rest, (rest = [] ↔ after.rest = []) →
      reader { input with pos, rest := span ++ rest } = (.ok value, { input with pos := pos + span.length, rest })) :
    after = { input with pos := input.pos + span.length, rest := after.rest } := by
  have here := alike input.pos after.rest Iff.rfl
  rw [← start, ran] at here
  exact congrArg Prod.snd here

theorem placeless_still {reader : Reader α} (still : ∀ layout, ∃ value, ∀ input : Input, input.layout = layout →
    reader input = (.ok value, input)) : Placeless reader where
  ok input found after ran := by
    obtain ⟨value, always⟩ := still input.layout
    rw [always input rfl] at ran
    cases ran
    exact ⟨[], rfl, fun _ _ _ => always _ rfl⟩
  error input fault after ran := by
    obtain ⟨value, always⟩ := still input.layout
    rw [always input rfl] at ran
    cases ran

theorem placeless_pure {value : α} : Placeless (pure value) := placeless_still fun _ => ⟨value, fun _ _ => rfl⟩

theorem placeless_layout : Placeless layout :=
  placeless_still fun found => ⟨found, fun input same => by rw [Reader.layout, same]⟩

theorem placeless_fail {fault : Fault} : Placeless (fail fault : Reader α) where
  ok input value after ran := by cases ran
  error input found after ran pos := by
    cases ran
    exact ⟨_, rfl⟩

theorem placeless_atEnd : Placeless atEnd where
  ok input ended after ran := by
    cases ran
    refine ⟨[], rfl, ?_⟩
    intro pos rest same
    have known : rest.isEmpty = input.rest.isEmpty := by
      rw [Bool.eq_iff_iff, List.isEmpty_iff, List.isEmpty_iff]
      exact same
    simp only [atEnd, List.nil_append, List.length_nil, Nat.add_zero, known]
  error input fault after ran := by cases ran

theorem placeless_bind {first : Reader α} {next : α → Reader β} (head : Placeless first)
    (tail : ∀ value, Placeless (next value)) : Placeless (first >>= next) where
  ok input result after ran := by
    obtain ⟨value, between, outcome, ran'⟩ := ok_of_bind ran
    obtain ⟨span, start, alike⟩ := head.ok input value between outcome
    obtain ⟨later, start', alike'⟩ := (tail value).ok between result after ran'
    have reached := Placeless.after_eq start outcome alike
    refine ⟨span ++ later, by rw [start, start', List.append_assoc], ?_⟩
    intro pos rest same
    have middle : later ++ rest = [] ↔ between.rest = [] := by
      rw [start', List.append_eq_nil_iff, List.append_eq_nil_iff, same]
    have done := alike' (pos + span.length) rest same
    rw [reached] at done
    rw [List.append_assoc, bind_of_ok (alike pos (later ++ rest) middle), done, List.length_append, Nat.add_assoc]
  error input fault after ran pos := by
    cases outcome : first input with
    | mk found between =>
      cases found with
      | error fault' =>
        rw [bind_of_error outcome] at ran
        cases ran
        obtain ⟨later, failed⟩ := head.error input fault after outcome pos
        exact ⟨later, bind_of_error failed⟩
      | ok value =>
        rw [bind_of_ok outcome] at ran
        obtain ⟨span, start, alike⟩ := head.ok input value between outcome
        have reached := Placeless.after_eq start outcome alike
        have before := alike pos between.rest Iff.rfl
        rw [← start] at before
        obtain ⟨later, failed⟩ := (tail value).error between fault after ran (pos + span.length)
        rw [reached] at failed
        exact ⟨later, (bind_of_ok before).trans failed⟩

theorem placeless_take {count : Nat} {fault : Fault} : Placeless (take count fun _ => fault) where
  ok input taken after ran := by
    obtain ⟨start, exactly, _⟩ := take_of_ok ran
    refine ⟨taken, start, ?_⟩
    intro pos rest _
    subst exactly
    simp [take, Bytes.split?_append]
  error input found after ran pos := by
    cases cut : Bytes.split? count input.rest with
    | none =>
      simp only [take, cut, Prod.mk.injEq, Except.error.injEq] at ran
      exact ⟨{ input with pos }, by simp [take, cut, ran.1]⟩
    | some parts => simp [take, cut] at ran

theorem scan_span {σ : Type} {step : σ → UInt8 → σ ⊕ Except Fault α} {short : Fault} {state : σ} {bytes rest : Bytes}
    {pos stop : Nat} {value : α} (ran : scan step short state bytes pos = (.ok value, stop, rest)) :
    ∃ span, bytes = span ++ rest ∧
      ∀ place other, scan step short state (span ++ other) place = (.ok value, place + span.length, other) := by
  induction bytes generalizing state pos with
  | nil => simp [scan] at ran
  | cons byte bytes ih =>
    rw [scan] at ran
    cases stepped : step state byte with
    | inr result =>
      rw [stepped] at ran
      cases ran
      exact ⟨[byte], rfl, fun place other => by simp [scan, stepped]⟩
    | inl next =>
      rw [stepped] at ran
      obtain ⟨span, start, alike⟩ := ih ran
      refine ⟨byte :: span, by rw [start, List.cons_append], ?_⟩
      intro place other
      simp only [List.cons_append, scan, stepped, alike, List.length_cons]
      rw [Nat.add_assoc, Nat.add_comm 1]

theorem placeless_scanning {σ : Type} {step : σ → UInt8 → σ ⊕ Except Fault α} {short : Fault} {state : σ} :
    Placeless (scanning step short state) where
  ok input value after ran := by
    simp only [scanning, Prod.mk.injEq] at ran
    obtain ⟨result, reached⟩ := ran
    obtain ⟨span, start, alike⟩ :=
      scan_span (Prod.ext result (Prod.ext rfl rfl) : scan step short state input.rest input.pos = (.ok value, _, _))
    subst reached
    exact ⟨span, start, fun pos rest _ => by simp only [scanning, alike]⟩
  error input fault after ran pos := by
    obtain ⟨result, count, left, always⟩ := scan_shift step short state input.rest
    simp only [scanning, always, Prod.mk.injEq] at ran
    exact ⟨{ input with pos := pos + count, rest := left }, by simp only [scanning, always, ran.1]⟩

theorem placeless_nested {reader : (depth : Nat) → Reader α}
    (deeper : ∀ depth, Agree depth (reader depth) (reader (depth + 1))) (known : ∀ depth, Placeless (reader depth)) :
    Placeless (nested reader) where
  ok input value after ran := by
    obtain ⟨span, start, _⟩ := (known (input.rest.length + 1)).ok input value after ran
    refine ⟨span, start, ?_⟩
    intro pos rest same
    obtain ⟨depth, deep, deep'⟩ : ∃ depth, input.rest.length < depth ∧ (span ++ rest).length < depth :=
      ⟨input.rest.length + (span ++ rest).length + 1, by omega, by omega⟩
    have here : reader depth input = (.ok value, after) := by
      rw [← ran, nested_eq deeper input deep]
    obtain ⟨again, start', alike⟩ := (known depth).ok input value after here
    have equal : again = span := List.append_cancel_right (start'.symm.trans start)
    subst equal
    rw [nested_eq deeper { input with pos, rest := again ++ rest } deep']
    exact alike pos rest same
  error input fault after ran pos := (known (input.rest.length + 1)).error input fault after ran pos

theorem placelessLaw : Law Placeless := ⟨placeless_pure, placeless_fail, placeless_bind, placeless_nested⟩

theorem withSpan_of_run {reader : Reader α} {input : Input} {pos : Nat} {span rest : Bytes} {value : α}
    (ran : reader { input with pos, rest := span ++ rest } = (.ok value, { input with pos := pos + span.length, rest })) :
    withSpan reader { input with pos, rest := span ++ rest } =
      (.ok (value, span), { input with pos := pos + span.length, rest }) := by
  simp [withSpan, ran]

theorem Placeless.noted {reader : Reader α} (known : Placeless reader) {input after : Input} {noted : α × Bytes}
    (ran : withSpan reader input = (.ok noted, after)) :
    input.rest = noted.2 ++ after.rest ∧ after = { input with pos := input.pos + noted.2.length, rest := after.rest } ∧
      ∀ pos rest, (rest = [] ↔ after.rest = []) →
        reader { input with pos, rest := noted.2 ++ rest } =
          (.ok noted.1, { input with pos := pos + noted.2.length, rest }) := by
  cases outcome : reader input with
  | mk found between =>
    cases found with
    | error fault => simp [withSpan, outcome] at ran
    | ok value =>
      obtain ⟨span, start, alike⟩ := known.ok input value between outcome
      have reached := Placeless.after_eq start outcome alike
      have place : between.pos = input.pos + span.length := by rw [reached]
      have passed : input.rest.take (between.pos - input.pos) = span := by simp [place, start]
      simp only [withSpan, outcome, passed, Prod.mk.injEq, Except.ok.injEq] at ran
      obtain ⟨rfl, rfl⟩ := ran
      exact ⟨start, reached, alike⟩

theorem placeless_withSpan {reader : Reader α} (known : Placeless reader) : Placeless (withSpan reader) where
  ok input noted after ran := by
    obtain ⟨start, _, alike⟩ := known.noted ran
    exact ⟨noted.2, start, fun pos rest same => withSpan_of_run (alike pos rest same)⟩
  error input fault after ran pos := by
    cases outcome : reader input with
    | mk found between =>
      cases found with
      | ok value => simp [withSpan, outcome] at ran
      | error fault' =>
        simp only [withSpan, outcome, Prod.mk.injEq, Except.error.injEq] at ran
        obtain ⟨later, failed⟩ := known.error input fault' between outcome pos
        exact ⟨later, by simp [withSpan, failed, ran.1]⟩

theorem yields_of_placeless {reader : Reader α} {limit : Nat} (known : Placeless reader) :
    Yields limit reader (fun _ _ => True) := by
  intro input value after _ ran
  obtain ⟨span, start, alike⟩ := known.ok input value after ran
  refine ⟨span, start, ?_, trivial⟩
  rw [Placeless.after_eq start ran alike]

end LuaBytecode.Reader
