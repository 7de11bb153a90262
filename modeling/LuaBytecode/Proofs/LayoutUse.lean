import LuaBytecode.Proofs.Extent
/-!
What readers learn from the layout. A reader uses only a view of the layout if its success rests on the
unread bytes and that view alone, whatever the place, the rest of the layout and the reports are; and
it leaves all of these as they are. What success under a layout ensures goes the other way.
-/
namespace LuaBytecode.Reader

variable {α β γ : Type} {view : Layout → γ}

def UsesOnly (view : Layout → γ) (reader : Reader α) : Prop :=
  ∀ (input : Input) (value : α) (after : Input), reader input = (.ok value, after) →
    ∃ span, input.rest = span ++ after.rest ∧
      ∀ other : Input, other.rest = input.rest → view other.layout = view input.layout →
        reader other = (.ok value, { other with pos := other.pos + span.length, rest := after.rest })

theorem usesOnly_pure {value : α} : UsesOnly view (pure value) := by
  intro input found after ran
  cases ran
  exact ⟨[], rfl, fun other same _ => by rw [← same]; rfl⟩

theorem usesOnly_fail {fault : Fault} : UsesOnly view (fail fault : Reader α) := by
  intro input found after ran
  cases ran

theorem UsesOnly.moves {reader : Reader α} (known : UsesOnly view reader) {input after : Input} {value : α}
    (ran : reader input = (.ok value, after)) :
    ∃ span, input.rest = span ++ after.rest ∧
      after = { input with pos := input.pos + span.length, rest := after.rest } := by
  obtain ⟨span, start, alike⟩ := known input value after ran
  have here := alike input rfl rfl
  rw [ran] at here
  exact ⟨span, start, congrArg Prod.snd here⟩

theorem usesOnly_bind {first : Reader α} {next : α → Reader β} (head : UsesOnly view first)
    (tail : ∀ value, UsesOnly view (next value)) : UsesOnly view (first >>= next) := by
  intro input result after ran
  obtain ⟨value, between, outcome, ran'⟩ := ok_of_bind ran
  obtain ⟨span, start, alike⟩ := head input value between outcome
  obtain ⟨later, start', alike'⟩ := tail value between result after ran'
  obtain ⟨_, _, moved⟩ := head.moves outcome
  have kept : between.layout = input.layout := by rw [moved]
  refine ⟨span ++ later, by rw [start, start', List.append_assoc], ?_⟩
  intro other same seen
  rw [bind_of_ok (alike other same seen)]
  have done := alike' { other with pos := other.pos + span.length, rest := between.rest } rfl (by rw [kept, ← seen])
  rw [done, List.length_append, Nat.add_assoc]

theorem usesOnly_ite {condition : Prop} [Decidable condition] {one other : Reader α} (met : UsesOnly view one)
    (unmet : UsesOnly view other) : UsesOnly view (if condition then one else other) := by
  by_cases decided : condition
  · rwa [if_pos decided]
  · rwa [if_neg decided]

theorem usesOnly_choice {condition : Prop} [Decidable condition] {one other : Reader α} {next : α → Reader β}
    (met : UsesOnly view one) (unmet : UsesOnly view other) (tail : ∀ value, UsesOnly view (next value)) :
    UsesOnly view (if condition then one >>= next else other >>= next) :=
  usesOnly_ite (usesOnly_bind met tail) (usesOnly_bind unmet tail)

theorem usesOnly_require {condition : Bool} {fault : Fault} : UsesOnly view (require condition fault) :=
  usesOnly_ite usesOnly_pure usesOnly_fail

theorem usesOnly_ofExcept {result : Except Fault α} : UsesOnly view (ofExcept result) := by
  cases result with
  | ok value => exact usesOnly_pure
  | error fault => exact usesOnly_fail

theorem usesOnly_fixed {order : ByteOrder} {width : Nat} {bytes : Bytes} : UsesOnly view (fixed order width bytes) :=
  usesOnly_ite usesOnly_pure usesOnly_fail

theorem usesOnly_layout {next : Layout → Reader α} (tail : ∀ found, UsesOnly view (next found))
    (same : ∀ one other, view one = view other → next one = next other) : UsesOnly view (layout >>= next) := by
  intro input value after ran
  have ran' : next input.layout input = (.ok value, after) := ran
  obtain ⟨span, start, alike⟩ := tail input.layout input value after ran'
  refine ⟨span, start, ?_⟩
  intro other rest seen
  have there := alike other rest seen
  rw [← same other.layout input.layout seen] at there
  exact there

theorem usesOnly_take {count : Nat} {short : Input → Fault} : UsesOnly view (take count short) := by
  intro input taken after ran
  obtain ⟨start, exactly, _⟩ := take_of_ok ran
  refine ⟨taken, start, ?_⟩
  intro other same _
  subst exactly
  rw [take, same, start, Bytes.split?_append]

theorem usesOnly_ordered {width : Nat} {short : Input → Fault}
    (ordered : ∀ one other, view one = view other → one.order = other.order) :
    UsesOnly view (take width short >>= fun taken => layout >>= fun found => fixed found.order width taken) := by
  apply usesOnly_bind usesOnly_take
  intro taken
  apply usesOnly_layout fun _ => usesOnly_fixed
  intro one other same
  rw [ordered one other same]

theorem usesOnly_takeUpTo {count : Nat} : UsesOnly view (takeUpTo count) := by
  intro input taken after ran
  simp only [takeUpTo, Prod.mk.injEq, Except.ok.injEq] at ran
  obtain ⟨rfl, rfl⟩ := ran
  exact ⟨input.rest.take count, (List.take_append_drop count input.rest).symm,
    fun other same _ => by simp only [takeUpTo, same]⟩

theorem usesOnly_scanning {σ : Type} {step : σ → UInt8 → σ ⊕ Except Fault α} {short : Fault} {state : σ} :
    UsesOnly view (scanning step short state) := by
  intro input value after ran
  obtain ⟨result, count, left, always⟩ := scan_shift step short state input.rest
  simp only [scanning, always, Prod.mk.injEq] at ran
  obtain ⟨rfl, rfl⟩ := ran
  obtain ⟨span, start, stop, _⟩ := scan_of_ok (always input.pos)
  have length : span.length = count := by omega
  exact ⟨span, start, fun other same _ => by simp only [scanning, same, always, length]⟩

theorem usesOnly_withSpan {reader : Reader α} (known : UsesOnly view reader) : UsesOnly view (withSpan reader) := by
  intro input noted after ran
  cases outcome : reader input with
  | mk found between =>
    cases found with
    | error fault => simp [withSpan, outcome] at ran
    | ok value =>
      obtain ⟨span, start, alike⟩ := known input value between outcome
      have here := alike input rfl rfl
      simp only [withSpan, here, Prod.mk.injEq, Except.ok.injEq] at ran
      obtain ⟨rfl, rfl⟩ := ran
      exact ⟨span, start, fun other same seen => by simp [withSpan, alike other same seen, same]⟩

theorem usesOnly_times {reader : Reader α} (each : UsesOnly view reader) (count : Nat) :
    UsesOnly view (times count reader) := by
  induction count with
  | zero => exact usesOnly_pure
  | succ count ih => exact usesOnly_bind each fun _ => usesOnly_bind ih fun _ => usesOnly_pure

theorem usesOnly_timesInt {reader : Reader α} (each : UsesOnly view reader) (count : Int) :
    UsesOnly view (timesInt count reader) :=
  usesOnly_times each count.toNat

theorem usesOnly_nested {reader : (depth : Nat) → Reader α} (each : ∀ depth, UsesOnly view (reader depth)) :
    UsesOnly view (nested reader) := by
  intro input value after ran
  obtain ⟨span, start, alike⟩ := each (input.rest.length + 1) input value after ran
  refine ⟨span, start, ?_⟩
  intro other same seen
  rw [nested, same]
  exact alike other same seen

abbrev IgnoresLayout (reader : Reader α) : Prop := UsesOnly (fun _ => ()) reader

theorem UsesOnly.again {reader : Reader α} (known : UsesOnly view reader) {input after other : Input} {value : α}
    (ran : reader input = (.ok value, after)) (place : other.pos = input.pos) (rest : other.rest = input.rest)
    (seen : view other.layout = view input.layout) :
    ∃ later, reader other = (.ok value, later) ∧ later.pos = after.pos ∧ later.rest = after.rest := by
  obtain ⟨span, _, alike⟩ := known input value after ran
  have here := alike input rfl rfl
  rw [ran] at here
  have stop : after.pos = input.pos + span.length := congrArg (fun reached => reached.2.pos) here
  exact ⟨_, alike other rest seen, by rw [stop, ← place], rfl⟩

-- What success under a layout ensures of the value and of the bytes passed over. The layout stays.
def EnsuresUnder (layout : Layout) (reader : Reader α) (holds : α → Bytes → Prop) : Prop :=
  ∀ (input : Input) (value : α) (after : Input), input.layout = layout → reader input = (.ok value, after) →
    after.layout = layout ∧
      ∃ span, input.rest = span ++ after.rest ∧ after.pos = input.pos + span.length ∧ holds value span

section EnsuresUnder

variable {layout : Layout}

theorem ensuresUnder_mono {reader : Reader α} {strong weak : α → Bytes → Prop}
    (known : EnsuresUnder layout reader strong)
    (follows : ∀ value span, strong value span → weak value span) : EnsuresUnder layout reader weak := by
  intro input value after found ran
  obtain ⟨kept, span, start, pos, held⟩ := known input value after found ran
  exact ⟨kept, span, start, pos, follows value span held⟩

theorem ensuresUnder_of_usesOnly {reader : Reader α} (known : UsesOnly view reader) :
    EnsuresUnder layout reader (fun _ _ => True) := by
  intro input value after found ran
  obtain ⟨span, start, moved⟩ := known.moves ran
  refine ⟨?_, span, start, ?_, trivial⟩
  · rw [moved]
    exact found
  · rw [moved]

theorem ensuresUnder_of_yields {reader : Reader α} {holds : α → Bytes → Prop} (kept : UsesOnly view reader)
    (known : ∀ limit, Yields limit reader holds) : EnsuresUnder layout reader holds := by
  intro input value after found ran
  obtain ⟨stays, _⟩ := ensuresUnder_of_usesOnly kept input value after found ran
  exact ⟨stays, known input.rest.length input value after (Nat.le_refl _) ran⟩

theorem ensuresUnder_pure {value : α} {holds : α → Bytes → Prop} (held : holds value []) :
    EnsuresUnder layout (pure value) holds := by
  intro input found after same ran
  cases ran
  exact ⟨same, [], rfl, rfl, held⟩

theorem ensuresUnder_fail {fault : Fault} {holds : α → Bytes → Prop} : EnsuresUnder layout (fail fault) holds := by
  intro input found after _ ran
  cases ran

theorem ensuresUnder_bind {first : Reader α} {next : α → Reader β} {middle : α → Bytes → Prop}
    {holds : β → Bytes → Prop} (head : EnsuresUnder layout first middle)
    (tail : ∀ value span, middle value span →
      EnsuresUnder layout (next value) (fun result later => holds result (span ++ later))) :
    EnsuresUnder layout (first >>= next) holds := by
  intro input result after found ran
  obtain ⟨value, between, outcome, ran'⟩ := ok_of_bind ran
  obtain ⟨kept, span, start, pos, reached⟩ := head input value between found outcome
  obtain ⟨kept', later, start', pos', held⟩ := tail value span reached between result after kept ran'
  refine ⟨kept', span ++ later, ?_, ?_, held⟩
  · rw [start, start', List.append_assoc]
  · rw [pos', pos, List.length_append, Nat.add_assoc]

theorem ensuresUnder_after {first : Reader α} {next : α → Reader β} {holds : β → Prop} (head : UsesOnly view first)
    (tail : ∀ value, EnsuresUnder layout (next value) (fun result _ => holds result)) :
    EnsuresUnder layout (first >>= next) (fun result _ => holds result) :=
  ensuresUnder_bind (ensuresUnder_of_usesOnly head) fun value _ _ => tail value

theorem ensuresUnder_first {first : Reader α} {next : α → Reader β} {known : Prop}
    (head : EnsuresUnder layout first (fun _ _ => known)) (tail : ∀ value, UsesOnly view (next value)) :
    EnsuresUnder layout (first >>= next) (fun _ _ => known) := by
  apply ensuresUnder_bind head
  intro value span held
  exact ensuresUnder_mono (ensuresUnder_of_usesOnly (tail value)) fun _ _ _ => held

theorem ensuresUnder_layout {next : Layout → Reader α} {holds : α → Bytes → Prop}
    (tail : EnsuresUnder layout (next layout) holds) : EnsuresUnder layout (Reader.layout >>= next) holds := by
  intro input value after found ran
  have ran' : next input.layout input = (.ok value, after) := ran
  rw [found] at ran'
  exact tail input value after found ran'

theorem ensuresUnder_saying {text : String} {next : Unit → Reader β} {holds : β → Bytes → Prop}
    (tail : EnsuresUnder layout (next ()) holds) : EnsuresUnder layout (say text >>= next) holds :=
  fun input value after found ran => tail { input with said := input.said ++ text } value after found ran

theorem ensuresUnder_checking {condition : Bool} {fault : Fault} {next : Unit → Reader β} {holds : β → Bytes → Prop}
    (tail : condition = true → EnsuresUnder layout (next ()) holds) :
    EnsuresUnder layout (require condition fault >>= next) holds := by
  intro input value after found ran
  cases condition with
  | false => cases ran
  | true => exact tail rfl input value after found ran

theorem ensuresUnder_ofExcept {result : Except Fault α} :
    EnsuresUnder layout (ofExcept result) (fun value span => result = .ok value ∧ span = []) := by
  cases result with
  | error fault => exact ensuresUnder_fail
  | ok value => exact ensuresUnder_pure ⟨rfl, rfl⟩

theorem ensuresUnder_take {count : Nat} {short : Input → Fault} :
    EnsuresUnder layout (take count short) (fun taken span => taken = span ∧ span.length = count) := by
  intro input taken after found ran
  obtain ⟨start, exactly, moved⟩ := take_of_ok ran
  refine ⟨?_, taken, start, ?_, rfl, exactly⟩
  · rw [moved]
    exact found
  · rw [moved, exactly]

theorem ensuresUnder_single {short : Input → Fault} :
    EnsuresUnder layout (take 1 short >>= fun taken => pure (Bytes.toNat taken)) Single := by
  apply ensuresUnder_bind ensuresUnder_take
  rintro taken _ ⟨rfl, one⟩
  apply ensuresUnder_pure
  rw [List.append_nil]
  exact single_of_length one

theorem ensuresUnder_times {reader : Reader α} {holds : α → Prop}
    (each : EnsuresUnder layout reader (fun value _ => holds value)) (count : Nat) :
    EnsuresUnder layout (times count reader) (fun found _ => ∀ value ∈ found, holds value) := by
  induction count with
  | zero => exact ensuresUnder_pure (by simp)
  | succ count ih =>
    apply ensuresUnder_bind each
    intro head _ headHeld
    apply ensuresUnder_bind ih
    intro tail _ tailHeld
    apply ensuresUnder_pure
    exact List.forall_mem_cons.mpr ⟨headHeld, tailHeld⟩

theorem ensuresUnder_nested {reader : (depth : Nat) → Reader α} {holds : α → Bytes → Prop}
    (each : ∀ depth, EnsuresUnder layout (reader depth) holds) : EnsuresUnder layout (nested reader) holds :=
  fun input value after found ran => each (input.rest.length + 1) input value after found ran

theorem ensuresUnder_ordered {width : Nat} {short : Input → Fault} :
    EnsuresUnder layout (take width short >>= fun taken => Reader.layout >>= fun found => fixed found.order width taken)
      (fun n span => span.length = width ∧ n = layout.order.decode span) := by
  apply ensuresUnder_bind ensuresUnder_take
  rintro taken _ ⟨rfl, exactly⟩
  apply ensuresUnder_layout
  rw [fixed, if_pos exactly]
  apply ensuresUnder_pure
  rw [List.append_nil]
  exact ⟨exactly, rfl⟩

end EnsuresUnder

-- Under this layout the reader can succeed, and always passes over so many bytes.
structure Wide (layout : Layout) (reader : Reader α) (width : Nat) : Prop where
  reads : ∃ (input : Input) (value : α) (after : Input), input.layout = layout ∧ reader input = (.ok value, after)
  exactly : ∀ (input : Input) (value : α) (after : Input), input.layout = layout →
    reader input = (.ok value, after) → after.pos = input.pos + width

theorem wide_layout {layout : Layout} {next : Layout → Reader α} {width : Nat} :
    Wide layout (Reader.layout >>= next) width ↔ Wide layout (next layout) width := by
  have same : ∀ input : Input, input.layout = layout → (Reader.layout >>= next) input = next layout input := by
    intro input found
    subst found
    rfl
  constructor
  · intro wide
    obtain ⟨input, value, after, found, ran⟩ := wide.reads
    refine ⟨⟨input, value, after, found, by rw [← same input found, ran]⟩, ?_⟩
    intro input value after found ran
    exact wide.exactly input value after found (by rw [same input found, ran])
  · intro wide
    obtain ⟨input, value, after, found, ran⟩ := wide.reads
    refine ⟨⟨input, value, after, found, by rw [same input found, ran]⟩, ?_⟩
    intro input value after found ran
    exact wide.exactly input value after found (by rw [← same input found, ran])

theorem wide_iff {layout : Layout} {reader : Reader α} {count width : Nat}
    (passes : EnsuresUnder layout reader (fun _ span => span.length = count)) {sample : Bytes} {holds : α → Prop}
    (known : Consumes layout reader sample holds) : Wide layout reader width ↔ width = count := by
  have moves : ∀ (input : Input) (value : α) (after : Input), input.layout = layout →
      reader input = (.ok value, after) → after.pos = input.pos + count := by
    intro input value after found ran
    obtain ⟨_, span, _, pos, length⟩ := passes input value after found ran
    rw [pos, length]
  obtain ⟨value, after, ran, _⟩ := known { rest := sample, layout } [] rfl (List.append_nil _).symm
  constructor
  · intro wide
    have one := wide.exactly _ value after rfl ran
    have two := moves _ value after rfl ran
    omega
  · intro same
    subst same
    exact ⟨⟨_, value, after, rfl, ran⟩, moves⟩

end LuaBytecode.Reader
