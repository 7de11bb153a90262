import LuaBytecode.Instruction
import LuaBytecode.Proofs.Composition

namespace LuaBytecode

open Reader

variable {α β : Type} {tells : Nat → Fault → Prop} {layout : Layout} {width : Nat}

namespace Reader

def Advances (reader : Reader α) : Prop :=
  ∀ input : Input, ∃ span, input.rest = span ++ (reader input).2.rest ∧ (reader input).2.pos = input.pos + span.length

theorem advances_still {reader : Reader α}
    (still : ∀ input : Input, (reader input).2.rest = input.rest ∧ (reader input).2.pos = input.pos) : Advances reader :=
  fun input => ⟨[], (still input).1.symm, (still input).2⟩

theorem advances_pure {value : α} : Advances (pure value) := advances_still fun _ => ⟨rfl, rfl⟩

theorem advances_fail {fault : Fault} : Advances (fail fault : Reader α) := advances_still fun _ => ⟨rfl, rfl⟩

theorem advances_say {text : String} : Advances (say text) := advances_still fun _ => ⟨rfl, rfl⟩

theorem advances_layout : Advances Reader.layout := advances_still fun _ => ⟨rfl, rfl⟩

theorem advances_setLayout {found : Layout} : Advances (setLayout found) := advances_still fun _ => ⟨rfl, rfl⟩

theorem advances_atEnd : Advances atEnd := advances_still fun _ => ⟨rfl, rfl⟩

theorem advances_peek {count : Nat} {short : Fault} : Advances (peek count short) := by
  apply advances_still
  intro input
  rw [peek]
  split <;> exact ⟨rfl, rfl⟩

theorem advances_bind {first : Reader α} {next : α → Reader β} (head : Advances first)
    (tail : ∀ value, Advances (next value)) : Advances (first >>= next) := by
  intro input
  obtain ⟨span, start, pos⟩ := head input
  cases outcome : first input with
  | mk found between =>
    rw [outcome] at start pos
    cases found with
    | error fault =>
      rw [bind_of_error outcome]
      exact ⟨span, start, pos⟩
    | ok value =>
      obtain ⟨later, start', pos'⟩ := tail value between
      rw [bind_of_ok outcome]
      refine ⟨span ++ later, ?_, ?_⟩
      · rw [start, start', List.append_assoc]
      · rw [pos', pos, List.length_append, Nat.add_assoc]

theorem advances_take {count : Nat} {short : Input → Fault} : Advances (take count short) := by
  intro input
  cases cut : Bytes.split? count input.rest with
  | none => exact ⟨[], by simp [take, cut], by simp [take, cut]⟩
  | some parts =>
    obtain ⟨start, exactly⟩ := Bytes.eq_append_of_split? cut
    exact ⟨parts.1, by simp [take, cut, ← start], by simp [take, cut, exactly]⟩

theorem scan_advances {σ : Type} (step : σ → UInt8 → σ ⊕ Except Fault α) (short : Fault) (state : σ) (bytes : Bytes)
    (pos : Nat) : ∃ span, bytes = span ++ (scan step short state bytes pos).2.2 ∧
      (scan step short state bytes pos).2.1 = pos + span.length := by
  induction bytes generalizing state pos with
  | nil => exact ⟨[], rfl, rfl⟩
  | cons byte bytes ih =>
    rw [scan]
    cases step state byte with
    | inr result => exact ⟨[byte], rfl, rfl⟩
    | inl next =>
      obtain ⟨span, start, stop⟩ := ih next (pos + 1)
      refine ⟨byte :: span, ?_, ?_⟩
      · rw [List.cons_append]
        exact congrArg (byte :: ·) start
      · refine stop.trans ?_
        rw [List.length_cons]
        omega

theorem advances_scanning {σ : Type} {step : σ → UInt8 → σ ⊕ Except Fault α} {short : Fault} {state : σ} :
    Advances (scanning step short state) :=
  fun input => scan_advances step short state input.rest input.pos

theorem advances_nested {reader : (depth : Nat) → Reader α} (each : ∀ depth, Advances (reader depth)) :
    Advances (nested reader) :=
  fun input => each (input.rest.length + 1) input

theorem advancesLaw : Law Advances := ⟨advances_pure, advances_fail, advances_bind, fun _ => advances_nested⟩

theorem Composed.advances {reader : Reader α} (known : Composed (Basic tells) reader) : Advances reader := by
  apply known.satisfies advancesLaw
  intro β each part
  cases part with
  | take => exact advances_take
  | layout => exact advances_layout
  | setLayout => exact advances_setLayout
  | say => exact advances_say

theorem yields_of_advances {reader : Reader α} {limit : Nat} (known : Advances reader) :
    Yields limit reader (fun _ _ => True) := by
  intro input value after _ ran
  obtain ⟨span, start, pos⟩ := known input
  rw [ran] at start pos
  exact ⟨span, start, pos, trivial⟩

theorem advances_attempt {reader : Reader α} (known : Advances reader) : Advances (attempt reader) := known

-- A number of a fixed width. It is missing exactly if the input is too short for it, which leaves the input as it is;
-- else its bytes are passed over, even if they stand for nothing.
structure Whole (tells : Nat → Fault → Prop) (layout : Layout) (width : Nat) (reader : Reader α) : Prop where
  short : ∀ input : Input, input.layout = layout → input.rest.length < width →
    ∃ fault, reader input = (.error fault, input) ∧ tells input.total fault
  enough : ∀ input : Input, input.layout = layout → width ≤ input.rest.length →
    (reader input).2.pos = input.pos + width ∧ ∀ fault, (reader input).1 = .error fault → ¬ tells input.total fault

def Still (tells : Nat → Fault → Prop) (reader : Reader α) : Prop :=
  ∀ input : Input, (reader input).2.pos = input.pos ∧ ∀ total fault, (reader input).1 = .error fault → ¬ tells total fault

theorem still_pure {value : α} : Still tells (pure value) := fun _ => ⟨rfl, nofun⟩

theorem still_fail {fault : Fault} (other : ∀ total, ¬ tells total fault) : Still tells (fail fault : Reader α) := by
  refine fun _ => ⟨rfl, ?_⟩
  rintro total _ ⟨⟩
  exact other total

theorem still_layout {next : Layout → Reader α} (known : ∀ found, Still tells (next found)) :
    Still tells (Reader.layout >>= next) :=
  fun input => known input.layout input

theorem still_fixed {order : ByteOrder} {bytes : Bytes} (other : ∀ total, ¬ tells total (.width width)) :
    Still tells (fixed order width bytes) := by
  rw [fixed]
  split
  · exact still_pure
  · exact still_fail other

theorem still_bind {first : Reader α} {next : α → Reader β} (head : Still tells first)
    (tail : ∀ value, Still tells (next value)) : Still tells (first >>= next) := by
  intro input
  obtain ⟨pos, others⟩ := head input
  cases outcome : first input with
  | mk found between =>
    rw [outcome] at pos others
    cases found with
    | error fault =>
      rw [bind_of_error outcome]
      refine ⟨pos, ?_⟩
      rintro total _ ⟨⟩
      exact others total fault rfl
    | ok value =>
      obtain ⟨pos', others'⟩ := tail value between
      rw [bind_of_ok outcome]
      exact ⟨pos'.trans pos, others'⟩

theorem still_decode {Opcode : Type} {ofNumber? : Nat → Option Opcode} {word : Word}
    (other : ∀ total number, ¬ tells total (.unknownOpcode number)) :
    Still tells (ofExcept (Instruction.decode word : Except Fault (Instruction ofNumber?))) := by
  unfold Instruction.decode
  split
  · exact still_pure
  · exact still_fail fun total => other total _

theorem whole_take {short : Input → Fault}
    (told : ∀ input : Input, input.rest.length < width → tells input.total (short input)) :
    Whole tells layout width (take width short) where
  short input _ fewer :=
    ⟨short input, by simp [take, Bytes.split?_eq_none_iff.mpr fewer], told input fewer⟩
  enough input _ enough := by
    cases cut : Bytes.split? width input.rest with
    | none => exact absurd (Bytes.split?_eq_none_iff.mp cut) (Nat.not_lt.mpr enough)
    | some parts => exact ⟨by simp [take, cut], by simp [take, cut]⟩

theorem whole_bind {first : Reader α} {next : α → Reader β} (head : Whole tells layout width first)
    (tail : ∀ value, Still tells (next value)) : Whole tells layout width (first >>= next) where
  short input same fewer := by
    obtain ⟨fault, failed, told⟩ := head.short input same fewer
    exact ⟨fault, bind_of_error failed, told⟩
  enough input same enough := by
    obtain ⟨pos, others⟩ := head.enough input same enough
    cases outcome : first input with
    | mk found between =>
      rw [outcome] at pos others
      cases found with
      | error fault =>
        rw [bind_of_error outcome]
        refine ⟨pos, ?_⟩
        rintro _ ⟨⟩
        exact others fault rfl
      | ok value =>
        obtain ⟨pos', others'⟩ := tail value between
        rw [bind_of_ok outcome]
        exact ⟨pos'.trans pos, others' input.total⟩

theorem whole_layout {next : Layout → Reader α} (known : Whole tells layout width (next layout)) :
    Whole tells layout width (Reader.layout >>= next) where
  short input same fewer := by
    have ran := known.short input same fewer
    rwa [← same] at ran
  enough input same enough := by
    have ran := known.enough input same enough
    rwa [← same] at ran

theorem whole_of_still {reader : Reader α} (still : Still tells reader) : Whole tells layout 0 reader where
  short _ _ fewer := absurd fewer (Nat.not_lt_zero _)
  enough input _ _ := ⟨(still input).1, (still input).2 input.total⟩

theorem not_beyondEnd_width {expected total : Nat} : ¬ BeyondEnd total (.width expected) := by
  rintro ⟨_, _, same, _⟩
  cases same

theorem not_beyondEnd_opcode {total number : Nat} : ¬ BeyondEnd total (.unknownOpcode number) := by
  rintro ⟨_, _, same, _⟩
  cases same

theorem whole_bounded : Whole BeyondEnd layout width (bounded width) := by
  apply whole_take
  intro input fewer
  refine ⟨input.pos, width, rfl, Nat.le_add_right .., ?_⟩
  unfold Input.total
  omega

theorem whole_boundedByte : Whole BeyondEnd layout 1 boundedByte := whole_bind whole_bounded fun _ => still_pure

end Reader

structure Input.Over (data : Bytes) (input : Input) : Prop where
  within : input.pos ≤ data.length
  rest : input.rest = data.drop input.pos

theorem Input.Over.total {data : Bytes} {input : Input} (placed : input.Over data) : input.total = data.length := by
  have within := placed.within
  rw [Input.total, placed.rest, List.length_drop]
  omega

theorem Input.Over.fewer_iff {data : Bytes} {input : Input} (placed : input.Over data) :
    input.rest.length < width ↔ data.length < input.pos + width := by
  have within := placed.within
  rw [placed.rest, List.length_drop]
  omega

theorem over_of_advances {reader : Reader α} (known : Advances reader) {data : Bytes} {input : Input}
    (placed : input.Over data) : (reader input).2.Over data ∧ input.pos ≤ (reader input).2.pos := by
  obtain ⟨span, start, pos⟩ := known input
  have size : span.length + (reader input).2.rest.length = data.length - input.pos := by
    rw [← List.length_drop, ← placed.rest, start, List.length_append]
  have within := placed.within
  refine ⟨⟨by omega, ?_⟩, by omega⟩
  rw [pos, ← List.drop_drop, ← placed.rest, start, List.drop_left]

structure Interface where
  Request : Type
  Answer : Request → Type
  reader : (request : Request) → Reader (Answer request)
  -- The width that a number has under a layout, if it is fixed.
  width? : Layout → Request → Option Nat
  -- The faults that report the end of an input of so many bytes.
  tells : Nat → Fault → Prop

namespace Interface

variable {interface : Interface}

-- The inputs that a row of requests leads through. A request that fails leaves its input to the next one.
def passes (interface : Interface) (input : Input) : List interface.Request → List Input
  | [] => [input]
  | request :: requests => input :: passes interface (interface.reader request input).2 requests

theorem over_of_mem_passes (each : ∀ request, Advances (interface.reader request)) {data : Bytes} {start input : Input}
    (placed : start.Over data) {requests : List interface.Request} (member : input ∈ interface.passes start requests) :
    input.Over data ∧ start.pos ≤ input.pos := by
  induction requests generalizing start with
  | nil =>
    obtain rfl := List.mem_singleton.mp member
    exact ⟨placed, Nat.le_refl _⟩
  | cons request requests ih =>
    rcases List.mem_cons.mp member with rfl | later
    · exact ⟨placed, Nat.le_refl _⟩
    · obtain ⟨next, forward⟩ := over_of_advances (each request) placed
      obtain ⟨reached, onward⟩ := ih next later
      exact ⟨reached, Nat.le_trans forward onward⟩

theorem pairwise_passes (each : ∀ request, Advances (interface.reader request)) {data : Bytes} {start : Input}
    (placed : start.Over data) (requests : List interface.Request) :
    (interface.passes start requests).Pairwise (fun earlier later => earlier.pos ≤ later.pos) := by
  induction requests generalizing start with
  | nil => exact List.pairwise_singleton _ _
  | cons request requests ih =>
    obtain ⟨next, forward⟩ := over_of_advances (each request) placed
    refine List.pairwise_cons.mpr ⟨?_, ih next⟩
    intro later member
    exact Nat.le_trans forward (over_of_mem_passes each next member).2

end Interface

end LuaBytecode
