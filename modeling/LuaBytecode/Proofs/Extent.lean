import LuaBytecode.Proofs.Layout
/-!
How far a reader looks. A reader is settled if its success rests on the bytes it passes over and on
nothing behind them: with other bytes behind it ends alike, and on a part of them it runs out.
-/
namespace LuaBytecode.Reader

variable {α β : Type} {tells : Nat → Fault → Prop} {limit : Nat}

-- `tells total fault` says that the fault reports the end of an input of `total` bytes.
def Settled (tells : Nat → Fault → Prop) (reader : Reader α) : Prop :=
  ∀ (input : Input) (value : α) (after : Input), reader input = (.ok value, after) →
    ∃ span, input.rest = span ++ after.rest ∧ after.pos = input.pos + span.length ∧
      (∀ rest, reader { input with rest := span ++ rest } = (.ok value, { after with rest })) ∧
      ∀ cut more, span = cut ++ more → more ≠ [] → ∃ fault later,
        reader { input with rest := cut } = (.error fault, later) ∧ tells (input.pos + cut.length) fault

theorem cut_cases {front back cut more : Bytes} (joined : front ++ back = cut ++ more) :
    (∃ extra, front = cut ++ extra ∧ extra ≠ []) ∨ ∃ part, cut = front ++ part ∧ back = part ++ more := by
  rcases List.append_eq_append_iff.mp joined with ⟨part, cutEq, backEq⟩ | ⟨extra, frontEq, moreEq⟩
  · exact .inr ⟨part, cutEq, backEq⟩
  · by_cases whole : extra = []
    · subst whole
      exact .inr ⟨[], by simpa using frontEq.symm, by simpa using moreEq.symm⟩
    · exact .inl ⟨extra, frontEq, whole⟩

theorem settled_still {reader : Reader α}
    (still : ∀ input : Input, ∃ value layout said, ∀ rest,
      reader { input with rest } = (.ok value, { input with rest, layout, said })) : Settled tells reader := by
  intro input found after ran
  obtain ⟨value, layout, said, always⟩ := still input
  have now := always input.rest
  rw [ran] at now
  cases now
  refine ⟨[], rfl, rfl, always, ?_⟩
  intro cut more joined missing
  have empty : cut = [] ∧ more = [] := by simpa using joined
  exact absurd empty.2 missing

theorem settled_pure {value : α} : Settled tells (pure value) :=
  settled_still fun input => ⟨value, input.layout, input.said, fun _ => rfl⟩

theorem settled_say {text : String} : Settled tells (say text) :=
  settled_still fun input => ⟨(), input.layout, input.said ++ text, fun _ => rfl⟩

theorem settled_layout : Settled tells layout :=
  settled_still fun input => ⟨input.layout, input.layout, input.said, fun _ => rfl⟩

theorem settled_setLayout {found : Layout} : Settled tells (setLayout found) :=
  settled_still fun input => ⟨(), found, input.said, fun _ => rfl⟩

theorem settled_fail {fault : Fault} : Settled tells (fail fault : Reader α) := by
  intro input found after ran
  simp [fail] at ran

theorem ok_of_bind {first : Reader α} {next : α → Reader β} {input after : Input} {result : β}
    (ran : (first >>= next) input = (.ok result, after)) :
    ∃ value between, first input = (.ok value, between) ∧ next value between = (.ok result, after) := by
  cases outcome : first input with
  | mk found between =>
    cases found with
    | error fault =>
      rw [bind_of_error outcome] at ran
      cases ran
    | ok value =>
      rw [bind_of_ok outcome] at ran
      exact ⟨value, between, rfl, ran⟩

def seenIn (view : α → β) (outcome : Except Fault α × Input) : Option β := outcome.1.toOption.map view

theorem accepted_of_seenIn {view : α → β} {outcome : Except Fault α × Input} {found : β}
    (seen : seenIn view outcome = some found) : ∃ value after, outcome = (.ok value, after) ∧ view value = found := by
  obtain ⟨result, after⟩ := outcome
  cases result with
  | error fault => cases seen
  | ok value => exact ⟨value, after, rfl, Option.some.inj seen⟩

theorem bind_of_eq {one other : Reader α} {next : α → Reader β} {input : Input} (same : one input = other input) :
    (one >>= next) input = (other >>= next) input := by
  show Reader.bind one next input = Reader.bind other next input
  simp only [Reader.bind, same]

theorem settled_bind {first : Reader α} {next : α → Reader β} (head : Settled tells first)
    (tail : ∀ value, Settled tells (next value)) : Settled tells (first >>= next) := by
  intro input result after ran
  obtain ⟨value, between, outcome, ran'⟩ := ok_of_bind ran
  obtain ⟨span, start, pos, alike, short⟩ := head input value between outcome
  obtain ⟨later, start', pos', alike', short'⟩ := tail value between result after ran'
  refine ⟨span ++ later, ?_, ?_, ?_, ?_⟩
  · rw [start, start', List.append_assoc]
  · rw [pos', pos, List.length_append, Nat.add_assoc]
  · intro rest
    have firstly := alike (later ++ rest)
    rw [← List.append_assoc] at firstly
    rw [bind_of_ok firstly]
    exact alike' rest
  · intro cut more joined missing
    rcases cut_cases joined with ⟨extra, spanEq, whole⟩ | ⟨part, cutEq, laterEq⟩
    · obtain ⟨fault, last, failed, told⟩ := short cut extra spanEq whole
      exact ⟨fault, last, bind_of_error failed, told⟩
    · subst cutEq
      obtain ⟨fault, last, failed, told⟩ := short' part more laterEq missing
      refine ⟨fault, last, (bind_of_ok (alike part)).trans failed, ?_⟩
      rwa [pos, Nat.add_assoc, ← List.length_append] at told

theorem take_of_ok {count : Nat} {short : Input → Fault} {input after : Input} {taken : Bytes}
    (ran : take count short input = (.ok taken, after)) :
    input.rest = taken ++ after.rest ∧ taken.length = count ∧
      after = { input with pos := input.pos + count, rest := after.rest } := by
  cases found : Bytes.split? count input.rest with
  | none => simp [take, found] at ran
  | some parts =>
    obtain ⟨start, exactly⟩ := Bytes.eq_append_of_split? found
    simp only [take, found, Prod.mk.injEq, Except.ok.injEq] at ran
    obtain ⟨rfl, rfl⟩ := ran
    exact ⟨start, exactly, rfl⟩

theorem yields_take {count : Nat} {short : Input → Fault} :
    Yields limit (take count short) (fun taken span => taken = span ∧ span.length = count) := by
  intro input taken after _ ran
  obtain ⟨start, exactly, moved⟩ := take_of_ok ran
  refine ⟨taken, start, ?_, rfl, exactly⟩
  rw [moved, exactly]

def Single (n : Nat) (span : Bytes) : Prop := ∃ byte : UInt8, span = [byte] ∧ n = byte.toNat

theorem single_of_length {span : Bytes} (one : span.length = 1) : Single span.toNat span := by
  obtain ⟨byte, rfl⟩ := List.length_eq_one_iff.mp one
  exact ⟨byte, rfl, by simp [Bytes.toNat]⟩

theorem Single.spelled {n : Nat} {span : Bytes} (single : Single n span) : n < 256 ∧ span = Bytes.ofByte n := by
  obtain ⟨byte, rfl, rfl⟩ := single
  have same := @Bytes.ofByte_toNat [byte] rfl
  simp only [Bytes.toNat, Nat.mul_zero, Nat.add_zero] at same
  exact ⟨UInt8.toNat_lt byte, same.symm⟩

theorem yields_single {short : Input → Fault} :
    Yields limit (take 1 short >>= fun taken => pure (Bytes.toNat taken)) Single := by
  apply yields_bind yields_take
  intro taken span same
  obtain ⟨rfl, one⟩ := same
  apply yields_pure
  rw [List.append_nil]
  exact single_of_length one

theorem settled_take {count : Nat} {short : Input → Fault}
    (told : ∀ input : Input, input.rest.length < count → tells input.total (short input)) :
    Settled tells (take count short) := by
  intro input taken after ran
  obtain ⟨start, exactly, reached⟩ := take_of_ok ran
  refine ⟨taken, start, by rw [reached, exactly], ?_, ?_⟩
  · intro rest
    rw [reached]
    subst exactly
    simp [take, Bytes.split?_append]
  · intro cut more joined missing
    have fewer : cut.length < count := by
      have positive := List.length_pos_iff.mpr missing
      rw [joined, List.length_append] at exactly
      omega
    refine ⟨short { input with rest := cut }, { input with rest := cut }, ?_, told { input with rest := cut } fewer⟩
    simp [take, Bytes.split?_eq_none_iff.mpr fewer]

theorem scan_shift {σ : Type} (step : σ → UInt8 → σ ⊕ Except Fault α) (short : Fault) (state : σ) (bytes : Bytes) :
    ∃ result count left, ∀ pos, scan step short state bytes pos = (result, pos + count, left) := by
  induction bytes generalizing state with
  | nil => exact ⟨.error short, 0, [], fun _ => rfl⟩
  | cons byte bytes ih =>
    cases stepped : step state byte with
    | inr result => exact ⟨result, 1, bytes, fun _ => by rw [scan, stepped]⟩
    | inl next =>
      obtain ⟨result, count, left, always⟩ := ih next
      refine ⟨result, 1 + count, left, ?_⟩
      intro pos
      simp only [scan, stepped, always, Nat.add_assoc]

theorem scan_of_ok {σ : Type} {step : σ → UInt8 → σ ⊕ Except Fault α} {short : Fault} {state : σ} {bytes rest : Bytes}
    {pos stop : Nat} {value : α} (ran : scan step short state bytes pos = (.ok value, stop, rest)) :
    ∃ span, bytes = span ++ rest ∧ stop = pos + span.length ∧
      (∀ other, scan step short state (span ++ other) pos = (.ok value, stop, other)) ∧
      ∀ cut more, span = cut ++ more → more ≠ [] →
        ∃ reached left, scan step short state cut pos = (.error short, reached, left) := by
  induction bytes generalizing state pos with
  | nil => simp [scan] at ran
  | cons byte bytes ih =>
    rw [scan] at ran
    cases stepped : step state byte with
    | inr result =>
      rw [stepped] at ran
      simp only [Prod.mk.injEq] at ran
      obtain ⟨rfl, rfl, rfl⟩ := ran
      refine ⟨[byte], rfl, rfl, ?_, ?_⟩
      · intro other
        simp [scan, stepped]
      · intro cut more joined missing
        have none : cut = [] := by
          rcases List.singleton_eq_append_iff.mp joined with ⟨empty, _⟩ | ⟨_, empty⟩
          · exact empty
          · exact absurd empty missing
        subst none
        exact ⟨pos, [], rfl⟩
    | inl next =>
      rw [stepped] at ran
      obtain ⟨span, start, reached, alike, runsOut⟩ := ih ran
      refine ⟨byte :: span, by rw [start, List.cons_append], ?_, ?_, ?_⟩
      · rw [reached, List.length_cons]
        omega
      · intro other
        rw [List.cons_append, scan, stepped]
        exact alike other
      · intro cut more joined missing
        cases cut with
        | nil => exact ⟨pos, [], rfl⟩
        | cons head cut =>
          rw [List.cons_append, List.cons.injEq] at joined
          rw [← joined.1, scan, stepped]
          exact runsOut cut more joined.2 missing

theorem settled_scanning {σ : Type} {step : σ → UInt8 → σ ⊕ Except Fault α} {short : Fault} {state : σ}
    (told : ∀ total, tells total short) : Settled tells (scanning step short state) := by
  intro input value after ran
  simp only [scanning, Prod.mk.injEq] at ran
  obtain ⟨result, reached⟩ := ran
  obtain ⟨span, start, stop, alike, runsOut⟩ :=
    scan_of_ok (Prod.ext result (Prod.ext rfl rfl) : scan step short state input.rest input.pos = (.ok value, _, _))
  subst reached
  refine ⟨span, start, stop, ?_, ?_⟩
  · intro rest
    simp only [scanning, alike]
  · intro cut more joined missing
    obtain ⟨pos, left, failed⟩ := runsOut cut more joined missing
    refine ⟨short, { input with pos, rest := left }, ?_, told _⟩
    simp only [scanning, failed]

theorem yields_of_settled {reader : Reader α} (known : Settled tells reader) :
    Yields limit reader (fun _ _ => True) := by
  intro input value after _ ran
  obtain ⟨span, start, pos, _, _⟩ := known input value after ran
  exact ⟨span, start, pos, trivial⟩

theorem yields_less {reader : Reader α} {holds : α → Bytes → Prop} {fewer : Nat} (known : Yields limit reader holds)
    (less : fewer ≤ limit) : Yields fewer reader holds :=
  fun input value after bound => known input value after (Nat.le_trans bound less)

-- Success that rests on no byte would be success at the end of the input.
theorem yields_nonempty {reader : Reader α} (known : Settled tells reader) (starves : Starves reader) :
    Yields limit reader (fun _ span => span ≠ []) := by
  intro input value after _ ran
  obtain ⟨span, start, pos, alike, _⟩ := known input value after ran
  refine ⟨span, start, pos, ?_⟩
  intro empty
  subst empty
  obtain ⟨fault, later, failed⟩ := starves { input with rest := [] } rfl
  have done : reader { input with rest := [] } = (.ok value, { after with rest := [] }) := alike []
  rw [failed] at done
  cases done

theorem starves_layout {next : Layout → Reader α} (later : ∀ found, Starves (next found)) :
    Starves (layout >>= next) :=
  fun input nothing => later input.layout input nothing

theorem starves_take {count : Nat} {short : Input → Fault} (some : 0 < count) : Starves (take count short) := by
  intro input nothing
  have fewer : input.rest.length < count := by rwa [nothing]
  exact ⟨short input, input, by simp [take, Bytes.split?_eq_none_iff.mpr fewer]⟩

def Agree (limit : Nat) (one other : Reader α) : Prop :=
  ∀ input : Input, input.rest.length < limit → one input = other input

theorem agree_refl (reader : Reader α) : Agree limit reader reader := fun _ _ => rfl

theorem agree_mono {one other : Reader α} {fewer : Nat} (known : Agree limit one other) (less : fewer ≤ limit) :
    Agree fewer one other :=
  fun input short => known input (Nat.lt_of_lt_of_le short less)

theorem agree_bind {one other : Reader α} {next otherNext : α → Reader β} {middle : α → Bytes → Prop}
    (heads : Agree limit one other) (passes : Yields limit one middle)
    (tails : ∀ value span, middle value span → Agree (limit - span.length) (next value) (otherNext value)) :
    Agree limit (one >>= next) (other >>= otherNext) := by
  intro input short
  have same := heads input short
  cases outcome : one input with
  | mk found between =>
    rw [outcome] at same
    cases found with
    | error fault => rw [bind_of_error outcome, bind_of_error same.symm]
    | ok value =>
      obtain ⟨span, start, _, reached⟩ := passes input value between (Nat.le_of_lt short) outcome
      have left : between.rest.length < limit - span.length := by
        rw [start, List.length_append] at short
        omega
      rw [bind_of_ok outcome, bind_of_ok same.symm]
      exact tails value span reached between left

theorem agree_after {first : Reader α} {next otherNext : α → Reader β} {middle : α → Bytes → Prop}
    (passes : Yields limit first middle) (tails : ∀ value, Agree limit (next value) (otherNext value)) :
    Agree limit (first >>= next) (first >>= otherNext) := by
  refine agree_bind (agree_refl first) passes ?_
  intro value span _
  exact agree_mono (tails value) (Nat.sub_le limit span.length)

-- Where the first reader needs a byte, the next ones have one less.
theorem agree_step {first : Reader α} {next otherNext : α → Reader β}
    (passes : Yields (limit + 1) first (fun _ span => span ≠ []))
    (tails : ∀ value, Agree limit (next value) (otherNext value)) :
    Agree (limit + 1) (first >>= next) (first >>= otherNext) := by
  refine agree_bind (agree_refl first) passes ?_
  intro value span nonempty
  have positive := List.length_pos_iff.mpr nonempty
  exact agree_mono (tails value) (by omega)

theorem agree_ite {condition : Prop} [Decidable condition] {one other no otherNo : Reader α}
    (met : Agree limit one other) (unmet : Agree limit no otherNo) :
    Agree limit (if condition then one else no) (if condition then other else otherNo) := by
  by_cases decided : condition
  · simpa only [if_pos decided] using met
  · simpa only [if_neg decided] using unmet

theorem agree_times {one other : Reader α} (each : Agree limit one other)
    (passes : Yields limit one (fun _ _ => True)) (count : Nat) :
    Agree limit (times count one) (times count other) := by
  induction count with
  | zero => exact agree_refl _
  | succ count ih =>
    refine agree_bind each passes ?_
    intro head span _
    have later := agree_mono ih (Nat.sub_le limit span.length)
    have passed := yields_less (yields_times passes count) (Nat.sub_le limit span.length)
    exact agree_bind later passed fun tail _ _ => agree_refl _

-- Past the number of bytes, a reader that nests no longer depends on how deep it may go.
theorem nested_eq {reader : (depth : Nat) → Reader α}
    (deeper : ∀ depth, Agree depth (reader depth) (reader (depth + 1))) (input : Input) {depth : Nat}
    (deep : input.rest.length < depth) : nested reader input = reader depth input := by
  induction depth with
  | zero => omega
  | succ depth ih =>
    by_cases last : input.rest.length = depth
    · rw [nested, last]
    · have within : input.rest.length < depth := by omega
      rw [ih within, deeper depth input within]

theorem settled_nested {reader : (depth : Nat) → Reader α}
    (deeper : ∀ depth, Agree depth (reader depth) (reader (depth + 1)))
    (known : ∀ depth, Settled tells (reader depth)) : Settled tells (nested reader) := by
  intro input value after ran
  obtain ⟨span, start, pos, _, short⟩ := known (input.rest.length + 1) input value after ran
  refine ⟨span, start, pos, ?_, ?_⟩
  · intro rest
    obtain ⟨depth, deep, deep'⟩ : ∃ depth, input.rest.length < depth ∧ (span ++ rest).length < depth :=
      ⟨input.rest.length + (span ++ rest).length + 1, by omega, by omega⟩
    have here : reader depth input = (.ok value, after) := by
      rw [← ran, nested_eq deeper input deep]
    obtain ⟨again, start', _, alike, _⟩ := known depth input value after here
    have same : again = span := List.append_cancel_right (start'.symm.trans start)
    subst same
    rw [nested_eq deeper { input with rest := again ++ rest } deep']
    exact alike rest
  · intro cut more joined missing
    obtain ⟨fault, later, failed, told⟩ := short cut more joined missing
    have fewer : cut.length < input.rest.length + 1 := by
      rw [start, joined]
      simp only [List.length_append]
      omega
    refine ⟨fault, later, ?_, told⟩
    rw [nested_eq deeper { input with rest := cut } fewer]
    exact failed

theorem starves_boundedByte : Starves boundedByte := starves_bind (starves_take Nat.one_pos)

def BeyondEnd (total : Nat) (fault : Fault) : Prop :=
  ∃ pos size, fault = .outOfBounds pos size total ∧ pos ≤ total ∧ total < pos + size

end LuaBytecode.Reader
