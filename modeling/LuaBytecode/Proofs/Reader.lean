import LuaBytecode.Reader
/-!
Laws of readers, in two directions. `Consumes` says what a reader makes of an input that is known
to begin with certain bytes, `Yields` what must have been there when a reader succeeds. Both follow
the way readers are put together, so that a section of a chunk needs one law for each direction.
-/
namespace LuaBytecode.Reader

variable {α β γ : Type} {layout before between after : Layout} {limit : Nat}

def Consumes (layout : Layout) (reader : Reader α) (span : Bytes) (holds : α → Prop) : Prop :=
  ∀ (input : Input) (rest : Bytes), input.layout = layout → input.rest = span ++ rest →
    ∃ value after, reader input = (.ok value, after) ∧ after.layout = layout ∧
      after.pos = input.pos + span.length ∧ after.rest = rest ∧ holds value

theorem consumes_pure {value : α} {holds : α → Prop} (held : holds value) :
    Consumes layout (pure value) [] holds := by
  intro input rest same start
  exact ⟨value, input, rfl, same, rfl, start, held⟩

-- As `Consumes`, with the layout that the reader finds and the one that it leaves.
def Enters (before after : Layout) (reader : Reader α) (span : Bytes) (holds : α → Prop) : Prop :=
  ∀ (input : Input) (rest : Bytes), input.layout = before → input.rest = span ++ rest →
    ∃ value left, reader input = (.ok value, left) ∧ left.layout = after ∧
      left.pos = input.pos + span.length ∧ left.rest = rest ∧ holds value

theorem enters_of_consumes {reader : Reader α} {span : Bytes} {holds : α → Prop}
    (known : Consumes layout reader span holds) : Enters layout layout reader span holds :=
  known

theorem enters_bind {first : Reader α} {next : α → Reader β} {span later : Bytes} {middle : α → Prop}
    {holds : β → Prop} (head : Enters before between first span middle)
    (tail : ∀ value, middle value → Enters between after (next value) later holds) :
    Enters before after (first >>= next) (span ++ later) holds := by
  intro input rest same start
  rw [List.append_assoc] at start
  obtain ⟨value, reached, ran, kept, pos, left, known⟩ := head input (later ++ rest) same start
  obtain ⟨result, last, ran', kept', pos', left', held⟩ := tail value known reached rest kept left
  refine ⟨result, last, (bind_of_ok ran).trans ran', kept', ?_, left', held⟩
  rw [pos', pos, List.length_append, Nat.add_assoc]

theorem consumes_bind {first : Reader α} {next : α → Reader β} {span later : Bytes}
    {middle : α → Prop} {holds : β → Prop} (head : Consumes layout first span middle)
    (tail : ∀ value, middle value → Consumes layout (next value) later holds) :
    Consumes layout (first >>= next) (span ++ later) holds :=
  enters_bind head tail

theorem consumes_map {first : Reader α} {next : α → Reader β} {span : Bytes} {middle : α → Prop}
    {holds : β → Prop} (head : Consumes layout first span middle)
    (tail : ∀ value, middle value → Consumes layout (next value) [] holds) :
    Consumes layout (first >>= next) span holds := by
  have whole := consumes_bind head tail
  rwa [List.append_nil] at whole

theorem consumes_ahead {first : Reader α} {next : α → Reader β} {span : Bytes} {middle : α → Prop}
    {holds : β → Prop} (head : Consumes layout first [] middle)
    (tail : ∀ value, middle value → Consumes layout (next value) span holds) :
    Consumes layout (first >>= next) span holds :=
  consumes_bind head tail

theorem consumes_choice {condition : Prop} [Decidable condition] {one other : Reader α} {next : α → Reader β}
    {span later : Bytes} {middle : α → Prop} {holds : β → Prop}
    (head : Consumes layout (if condition then one else other) span middle)
    (tail : ∀ value, middle value → Consumes layout (next value) later holds) :
    Consumes layout (if condition then one >>= next else other >>= next) (span ++ later) holds := by
  by_cases met : condition
  · rw [if_pos met] at head ⊢
    exact consumes_bind head tail
  · rw [if_neg met] at head ⊢
    exact consumes_bind head tail

theorem consumes_choice_map {condition : Prop} [Decidable condition] {one other : Reader α} {next : α → Reader β}
    {span : Bytes} {middle : α → Prop} {holds : β → Prop}
    (head : Consumes layout (if condition then one else other) span middle)
    (tail : ∀ value, middle value → Consumes layout (next value) [] holds) :
    Consumes layout (if condition then one >>= next else other >>= next) span holds := by
  have whole := consumes_choice head tail
  rwa [List.append_nil] at whole

theorem consumes_mono {reader : Reader α} {span : Bytes} {strong weak : α → Prop}
    (known : Consumes layout reader span strong) (follows : ∀ value, strong value → weak value) :
    Consumes layout reader span weak := by
  intro input rest same start
  obtain ⟨value, after, ran, kept, pos, left, held⟩ := known input rest same start
  exact ⟨value, after, ran, kept, pos, left, follows value held⟩

theorem consumes_require {condition : Bool} {fault : Fault} (met : condition = true) :
    Consumes layout (require condition fault) [] (fun _ => True) := by
  rw [require, if_pos met]
  exact consumes_pure trivial

theorem consumes_say (text : String) : Consumes layout (say text) [] (fun _ => True) := by
  intro input rest same start
  exact ⟨(), _, rfl, same, rfl, start, trivial⟩

theorem consumes_takeUpTo (span : Bytes) :
    Consumes layout (takeUpTo span.length) span (fun taken => taken = span) := by
  intro input rest same start
  refine ⟨_, _, rfl, same, ?_, ?_, ?_⟩ <;> simp [start]

theorem consumes_withSpan {reader : Reader α} {span : Bytes} {holds : α → Prop}
    (known : Consumes layout reader span holds) :
    Consumes layout (withSpan reader) span (fun noted => holds noted.1 ∧ noted.2 = span) := by
  intro input rest same start
  obtain ⟨value, after, ran, kept, pos, left, held⟩ := known input rest same start
  refine ⟨(value, span), after, ?_, kept, pos, left, held, rfl⟩
  simp [withSpan, ran, pos, start]

-- The values are known through a view, which may leave out what the reader notes in passing.
theorem consumes_times {reader : Reader α} {view : α → γ} {value : β → γ} {encode : β → Bytes}
    (items : List β)
    (each : ∀ item ∈ items, Consumes layout reader (encode item) (fun found => view found = value item)) :
    Consumes layout (times items.length reader) (items.flatMap encode)
      (fun found => found.map view = items.map value) := by
  induction items with
  | nil => exact consumes_pure rfl
  | cons item items ih =>
    rw [List.length_cons, times, List.flatMap_cons]
    refine consumes_bind (each item List.mem_cons_self) ?_
    intro head headView
    have later := ih fun other member => each other (List.mem_cons_of_mem item member)
    refine consumes_map later ?_
    intro tail tailView
    apply consumes_pure
    rw [List.map_cons, List.map_cons, headView, tailView]

theorem consumes_times_exactly {reader : Reader α} {value : β → α} {encode : β → Bytes} (items : List β)
    (each : ∀ item ∈ items, Consumes layout reader (encode item) (fun found => found = value item)) :
    Consumes layout (times items.length reader) (items.flatMap encode) (fun found => found = items.map value) := by
  have known := @consumes_times α β α layout reader id value encode items each
  simpa using known

theorem consumes_nested {reader : (depth : Nat) → Reader α} {span : Bytes} {holds : α → Prop}
    (known : ∀ depth, span.length < depth → Consumes layout (reader depth) span holds) :
    Consumes layout (nested reader) span holds := by
  intro input rest same start
  apply known (input.rest.length + 1) _ input rest same start
  rw [start, List.length_append]
  omega

theorem consumes_unique {reader : Reader α} {span other rest later : Bytes} {holds meets : α → Prop}
    (one : Consumes layout reader span holds) (two : Consumes layout reader other meets)
    (same : span ++ rest = other ++ later) :
    span = other ∧ rest = later ∧ ∃ value, holds value ∧ meets value := by
  let input : Input := { rest := span ++ rest, layout := layout }
  obtain ⟨value, after, ran, _, _, left, held⟩ := one input rest rfl rfl
  obtain ⟨found, after', ran', _, _, left', met⟩ := two input later rfl same
  rw [ran] at ran'
  cases ran'
  rw [left] at left'
  subst left'
  exact ⟨List.append_cancel_right same, rfl, value, held, met⟩

def Yields (limit : Nat) (reader : Reader α) (holds : α → Bytes → Prop) : Prop :=
  ∀ (input : Input) (value : α) (after : Input), input.rest.length ≤ limit →
    reader input = (.ok value, after) →
      ∃ span, input.rest = span ++ after.rest ∧ after.pos = input.pos + span.length ∧ holds value span

theorem yields_pure {value : α} {holds : α → Bytes → Prop} (held : holds value []) :
    Yields limit (pure value) holds := by
  intro input found after _ ran
  obtain ⟨rfl, rfl⟩ : value = found ∧ input = after := by simpa [pure_apply] using ran
  exact ⟨[], rfl, rfl, held⟩

theorem yields_fail {fault : Fault} {holds : α → Bytes → Prop} : Yields limit (fail fault) holds := by
  intro input found after _ ran
  simp [fail] at ran

theorem yields_bind {first : Reader α} {next : α → Reader β} {middle : α → Bytes → Prop}
    {holds : β → Bytes → Prop} (head : Yields limit first middle)
    (tail : ∀ value span, middle value span →
      Yields limit (next value) (fun result later => holds result (span ++ later))) :
    Yields limit (first >>= next) holds := by
  intro input result after bound ran
  cases outcome : first input with
  | mk found between =>
    cases found with
    | error fault =>
      rw [bind_of_error outcome] at ran
      simp at ran
    | ok value =>
      rw [bind_of_ok outcome] at ran
      obtain ⟨span, start, pos, reached⟩ := head input value between bound outcome
      have shorter : between.rest.length ≤ limit := by
        rw [start, List.length_append] at bound
        omega
      obtain ⟨later, start', pos', held⟩ := tail value span reached between result after shorter ran
      refine ⟨span ++ later, ?_, ?_, held⟩
      · rw [start, start', List.append_assoc]
      · rw [pos', pos, List.length_append, Nat.add_assoc]

theorem yields_mono {reader : Reader α} {strong weak : α → Bytes → Prop}
    (known : Yields limit reader strong) (follows : ∀ value span, strong value span → weak value span) :
    Yields limit reader weak := by
  intro input value after bound ran
  obtain ⟨span, start, pos, held⟩ := known input value after bound ran
  exact ⟨span, start, pos, follows value span held⟩

theorem yields_ite {condition : Prop} [Decidable condition] {one other : Reader α} {holds : α → Bytes → Prop}
    (met : condition → Yields limit one holds) (unmet : ¬ condition → Yields limit other holds) :
    Yields limit (if condition then one else other) holds := by
  split
  · exact met ‹_›
  · exact unmet ‹_›

theorem yields_require {condition : Bool} {fault : Fault} :
    Yields limit (require condition fault) (fun _ span => condition = true ∧ span = []) := by
  unfold require
  split
  · rename_i met
    exact yields_pure ⟨met, rfl⟩
  · exact yields_fail

theorem yields_say {text : String} : Yields limit (say text) (fun _ span => span = []) := by
  intro input value after _ ran
  obtain ⟨_, rfl⟩ : () = value ∧ { input with said := input.said ++ text } = after := by
    simpa [say] using ran
  exact ⟨[], rfl, rfl, rfl⟩

theorem yields_change {change : Layout → Layout} {next : Unit → Reader β} {holds : β → Bytes → Prop}
    (tail : Yields limit (next ()) holds) :
    Yields limit (Reader.layout >>= fun found => setLayout (change found) >>= next) holds :=
  fun input value after bound ran => tail { input with layout := change input.layout } value after bound ran

theorem yields_ofExcept {result : Except Fault α} :
    Yields limit (ofExcept result) (fun value span => result = .ok value ∧ span = []) := by
  cases result with
  | ok value => exact yields_pure ⟨rfl, rfl⟩
  | error fault => exact yields_fail

theorem yields_fixed {order : ByteOrder} {width : Nat} {bytes : Bytes} :
    Yields limit (fixed order width bytes) (fun _ span => span = []) := by
  unfold fixed
  split
  · exact yields_pure rfl
  · exact yields_fail

theorem yields_takeUpTo (count : Nat) :
    Yields limit (takeUpTo count)
      (fun taken span => taken = span ∧ span.length ≤ count ∧ span.length ≤ limit) := by
  intro input taken after bound ran
  simp only [takeUpTo, Prod.mk.injEq, Except.ok.injEq] at ran
  obtain ⟨rfl, rfl⟩ := ran
  refine ⟨input.rest.take count, (List.take_append_drop ..).symm, rfl, rfl, ?_, ?_⟩
  · exact List.length_take_le ..
  · exact Nat.le_trans (List.length_take_le' ..) bound

def Starves (reader : Reader α) : Prop :=
  ∀ input : Input, input.rest = [] → ∃ fault after, reader input = (.error fault, after)

theorem starves_bind {first : Reader α} {next : α → Reader β} (head : Starves first) : Starves (first >>= next) := by
  intro input nothing
  obtain ⟨fault, after, ran⟩ := head input nothing
  exact ⟨fault, after, bind_of_error ran⟩

theorem starves_say {text : String} {next : Unit → Reader α} (later : Starves (next ())) :
    Starves (say text >>= next) := by
  intro input nothing
  exact later { input with said := input.said ++ text } nothing

-- A short read leaves nothing behind, so what comes next fails.
theorem yields_takeUpTo_bind {count : Nat} {next : Bytes → Reader β} {holds : β → Bytes → Prop}
    (starves : ∀ taken, Starves (next taken))
    (tail : ∀ taken, taken.length = count →
      Yields limit (next taken) (fun result later => holds result (taken ++ later))) :
    Yields limit (takeUpTo count >>= next) holds := by
  intro input result after bound ran
  by_cases enough : count ≤ input.rest.length
  · have exactly : (input.rest.take count).length = count := List.length_take_of_le enough
    have shorter : (input.rest.drop count).length ≤ limit := by
      rw [List.length_drop]
      omega
    obtain ⟨later, start, pos, held⟩ := tail _ exactly _ result after shorter ran
    refine ⟨input.rest.take count ++ later, ?_, ?_, held⟩
    · rw [List.append_assoc, ← start, List.take_append_drop]
    · rw [pos, List.length_append, Nat.add_assoc]
  · have nothing : input.rest.drop count = [] := List.drop_eq_nil_of_le (by omega)
    obtain ⟨fault, failed, error⟩ := starves (input.rest.take count)
      { input with pos := input.pos + (input.rest.take count).length, rest := input.rest.drop count } nothing
    have failedToo : (takeUpTo count >>= next) input = (.error fault, failed) := error
    rw [failedToo] at ran
    cases ran

theorem yields_withSpan {reader : Reader α} {holds : α → Bytes → Prop} (known : Yields limit reader holds) :
    Yields limit (withSpan reader) (fun noted span => holds noted.1 span ∧ noted.2 = span) := by
  intro input noted after bound ran
  unfold withSpan at ran
  split at ran
  · rename_i value between outcome
    simp only [Prod.mk.injEq, Except.ok.injEq] at ran
    obtain ⟨rfl, rfl⟩ := ran
    obtain ⟨span, start, pos, held⟩ := known input value between bound outcome
    refine ⟨span, start, pos, held, ?_⟩
    simp [pos, start]
  · simp at ran

theorem yields_nested {reader : (depth : Nat) → Reader α} {holds : α → Bytes → Prop}
    (known : ∀ depth, Yields limit (reader depth) holds) : Yields limit (nested reader) holds := by
  intro input value after bound ran
  exact known (input.rest.length + 1) input value after bound ran

theorem yields_times {reader : Reader α} {holds : α → Prop}
    (known : Yields limit reader (fun value _ => holds value))
    (count : Nat) :
    Yields limit (times count reader) (fun found _ => found.length = count ∧ ∀ value ∈ found, holds value) := by
  induction count with
  | zero => exact yields_pure ⟨rfl, by simp⟩
  | succ count ih =>
    rw [times]
    refine yields_bind known ?_
    intro head _ headHeld
    refine yields_bind ih ?_
    intro tail _ tailHeld
    apply yields_pure
    refine ⟨by rw [List.length_cons, tailHeld.1], ?_⟩
    intro value member
    rcases List.mem_cons.mp member with rfl | later
    · exact headHeld
    · exact tailHeld.2 value later

theorem yields_times_spelled {reader : Reader α} {value : β → α} {encode : β → Bytes}
    (known : Yields limit reader (fun found span => ∃ item, found = value item ∧ span = encode item))
    (count : Nat) :
    Yields limit (times count reader) (fun found span =>
      ∃ items : List β, items.length = count ∧ found = items.map value ∧ span = items.flatMap encode) := by
  induction count with
  | zero => exact yields_pure ⟨[], rfl, rfl, rfl⟩
  | succ count ih =>
    rw [times]
    refine yields_bind known ?_
    rintro _ _ ⟨item, rfl, rfl⟩
    refine yields_bind ih ?_
    rintro _ _ ⟨items, size, rfl, rfl⟩
    apply yields_pure
    exact ⟨item :: items, by rw [List.length_cons, size], by simp, by simp⟩

theorem yields_times_pairs {reader : Reader α} {holds : α → Bytes → Prop} (known : Yields limit reader holds)
    (count : Nat) :
    Yields limit (times count reader) (fun found span => ∃ pairs : List (α × Bytes),
      found = pairs.map (·.1) ∧ span = pairs.flatMap (·.2) ∧ ∀ each ∈ pairs, holds each.1 each.2) := by
  have paired : Yields limit reader (fun found span => ∃ pair : { pair : α × Bytes // holds pair.1 pair.2 },
      found = pair.1.1 ∧ span = pair.1.2) :=
    yields_mono known fun found span held => ⟨⟨(found, span), held⟩, rfl, rfl⟩
  refine yields_mono (yields_times_spelled paired count) ?_
  rintro found span ⟨items, _, rfl, rfl⟩
  refine ⟨items.map Subtype.val, by simp, by simp [List.flatMap_map], ?_⟩
  intro each member
  obtain ⟨item, _, rfl⟩ := List.mem_map.mp member
  exact item.2

end LuaBytecode.Reader
