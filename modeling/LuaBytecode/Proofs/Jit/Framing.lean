import LuaBytecode.Proofs.Abreast
import LuaBytecode.Proofs.Placement
import LuaBytecode.Proofs.Jit.Truncation
/-!
The sizes in front of the prototypes of a dump. Reading hands them on and goes by what the
prototypes hold: with any other sizes the file is read in the same places, so that there is only one
list of sizes with which every prototype ends where its size says.
-/
namespace LuaBytecode.Jit

open Reader

namespace Read

theorem renders_body (size other : Nat) :
    Renders (fun found : Prototype => { found with size := other }) (body size) (body other) := by
  apply renders_after
  intro flags
  apply renders_after
  intro paramCount
  apply renders_after
  intro frameSize
  apply renders_after
  intro upvalueCount
  apply renders_after
  intro collectableCount
  apply renders_after
  intro numberCount
  apply renders_after
  intro codeCount
  apply renders_after
  intro found
  apply renders_choice
  intro debugSize
  apply renders_choice
  intro firstLine
  apply renders_choice
  intro lineCount
  apply renders_after
  intro code
  apply renders_after
  intro upvalueData
  apply renders_after
  intro collectables
  apply renders_after
  intro numbers
  apply renders_choice
  intro sections
  exact renders_pure

end Read

-- A prototype and the bytes it was read from: its size as it is spelled, and all that was passed
-- over behind that.
structure Frame where
  sizeField : Bytes
  body : Bytes
  prototype : Prototype
deriving DecidableEq, Repr

namespace Frame

def bytes (frame : Frame) : Bytes := frame.sizeField ++ frame.body

def IsContained (frame : Frame) : Prop := frame.body.length = frame.prototype.size
deriving Decidable

def resized (size : Nat) (frame : Frame) : Frame :=
  { sizeField := Write.varint size, body := frame.body, prototype := { frame.prototype with size := size } }

end Frame

namespace Read

def frame : Reader Frame := do
  let sized ← withSpan varint
  if sized.1 = 0 then pure { sizeField := sized.2, body := [], prototype := {} }
  else do
    let noted ← withSpan (body sized.1)
    pure { sizeField := sized.2, body := noted.2, prototype := noted.1 }

def frames : (fuel : Nat) → Input → List Frame
  | 0, _ => []
  | fuel + 1, input =>
    match frame input with
    | (.error _, _) => []
    | (.ok first, after) => if first.prototype.size = 0 then [] else first :: frames fuel after

theorem renders_frame : Renders Frame.prototype frame prototype := by
  apply renders_bind renders_withSpan
  intro noted
  apply renders_ite
  · exact renders_pure
  · intro input
    refine (@renders_withSpan _ (Read.body noted.1) input).trans ?_
    cases outcome : withSpan (Read.body noted.1) input with
    | mk found between =>
      cases found with
      | error fault =>
        rw [bind_of_error outcome]
        rfl
      | ok value =>
        rw [bind_of_ok outcome]
        rfl

theorem placeless_frame : Placeless frame := by
  apply placeless_bind (placeless_withSpan (placeless_of_composed composed_varint))
  intro noted
  apply placelessLaw.ite placeless_pure
  exact placeless_bind (placeless_withSpan (placeless_of_composed (composed_body noted.1))) fun _ => placeless_pure

theorem starves_frame : Starves frame := by
  apply starves_bind
  intro input nothing
  obtain ⟨fault, after, failed⟩ := starves_varint input nothing
  exact ⟨fault, after, by simp [withSpan, failed]⟩

theorem prototypes_eq_frames (fuel : Nat) (input : Input) :
    (prototypes fuel input).1 = .ok ((frames fuel input).map Frame.prototype) := by
  induction fuel generalizing input with
  | zero => rfl
  | succ fuel ih =>
    by_cases none : input.rest = []
    · obtain ⟨fault, after, failed⟩ := starves_frame input none
      rw [prototypes_of_nil none, frames, failed]
      rfl
    have known := renders_frame input
    cases outcome : frame input with
    | mk found after =>
      rw [outcome] at known
      rw [frames, outcome]
      cases found with
      | error fault =>
        rw [prototypes_of_error none known]
        rfl
      | ok first =>
        rw [prototypes_succ none known]
        by_cases blank : first.prototype.size = 0
        · simp only [if_pos blank]
          rfl
        · have later := ih after
          cases rest : prototypes fuel after with
          | mk result last =>
            rw [rest] at later
            change result = _ at later
            subst later
            simp only [if_neg blank, bind_of_ok rest]
            rfl

theorem frame_resized {input after : Input} {first : Frame} (ran : frame input = (.ok first, after))
    (nonzero : first.prototype.size ≠ 0) :
    first.sizeField ≠ [] ∧ input.rest = first.bytes ++ after.rest ∧
    after.layout = input.layout ∧ after.said = input.said ∧
    ∀ size pos rest, 0 < size → size < 2 ^ 35 → (rest = [] ↔ after.rest = []) →
      frame { input with pos, rest := (first.resized size).bytes ++ rest } =
        (.ok (first.resized size), { input with pos := pos + (first.resized size).bytes.length, rest }) := by
  obtain ⟨sized, between, taken, ran'⟩ := ok_of_bind ran
  by_cases none : sized.1 = 0
  · rw [if_pos none] at ran'
    cases ran'
    exact absurd rfl nonzero
  rw [if_neg none] at ran'
  obtain ⟨noted, last, read, done⟩ := ok_of_bind ran'
  cases done
  obtain ⟨start, reached, _⟩ := (placeless_of_composed composed_varint).noted taken
  obtain ⟨start', reached', alike⟩ := (placeless_of_composed (composed_body sized.1)).noted read
  obtain ⟨span, _, _, nonempty, spelling⟩ :=
    yields_withSpan yields_varint_nonempty input sized between (Nat.le_refl _) taken
  refine ⟨spelling ▸ nonempty, ?_, ?_, ?_, ?_⟩
  · rw [start, start', Frame.bytes, List.append_assoc]
  · rw [reached', reached]
  · rw [reached', reached]
  · intro size pos rest positive fits same
    have spelled := run_of_quiet (consumes_varint fits) (quiet_of_composed composed_varint) rfl
      (rfl : ({ input with pos, rest := Write.varint size ++ (noted.2 ++ rest) } : Input).rest = _)
    have sizedToo := withSpan_of_run spelled
    have here := alike (pos + (Write.varint size).length) rest same
    rw [reached] at here
    have other := renders_body sized.1 size { input with pos := pos + (Write.varint size).length, rest := noted.2 ++ rest }
    rw [here] at other
    have notedToo := withSpan_of_run other
    rw [Frame.bytes, Frame.resized, List.append_assoc]
    refine (bind_of_ok sizedToo).trans ?_
    rw [if_neg (Nat.ne_of_gt positive)]
    refine (bind_of_ok notedToo).trans ?_
    simp [pure_apply, Nat.add_assoc]

theorem run_of_mem_frames {fuel : Nat} {input : Input} {each : Frame} (member : each ∈ frames fuel input) :
    ∃ start after, frame start = (.ok each, after) ∧ each.prototype.size ≠ 0 ∧ start.layout = input.layout := by
  induction fuel generalizing input with
  | zero => cases member
  | succ fuel ih =>
    rw [frames] at member
    cases outcome : frame input with
    | mk found after =>
      rw [outcome] at member
      cases found with
      | error fault => cases member
      | ok first =>
        by_cases blank : first.prototype.size = 0
        · simp [blank] at member
        simp only [if_neg blank, List.mem_cons] at member
        rcases member with rfl | later
        · exact ⟨input, after, outcome, blank, rfl⟩
        · obtain ⟨start, last, ran, nonzero, same⟩ := ih later
          exact ⟨start, last, ran, nonzero, same.trans (frame_resized outcome blank).2.2.1⟩

theorem body_of_frame {start after : Input} {each : Frame} (ran : frame start = (.ok each, after))
    (nonzero : each.prototype.size ≠ 0) :
    ∃ size between, withSpan (body size) between = (.ok (each.prototype, each.body), after) ∧
      between.layout = start.layout := by
  obtain ⟨sized, between, taken, later⟩ := ok_of_bind ran
  by_cases none : sized.1 = 0
  · rw [if_pos none] at later
    cases later
    exact absurd rfl nonzero
  · rw [if_neg none] at later
    obtain ⟨noted, last, read, done⟩ := ok_of_bind later
    cases done
    obtain ⟨_, reached, _⟩ := (placeless_of_composed composed_varint).noted taken
    exact ⟨sized.1, between, read, by rw [reached]⟩

theorem sizeField_of_mem_frames {fuel : Nat} {input : Input} {each : Frame} (member : each ∈ frames fuel input) :
    each.sizeField ≠ [] := by
  obtain ⟨_, _, ran, nonzero, _⟩ := run_of_mem_frames member
  exact (frame_resized ran nonzero).1

theorem resized_eq_nil_iff {sizes : List Nat} {found : List Frame} (tail : Bytes) (count : sizes.length = found.length)
    (spelled : ∀ each ∈ found, each.sizeField ≠ []) :
    (List.zipWith Frame.resized sizes found).flatMap Frame.bytes ++ tail = [] ↔
      found.flatMap Frame.bytes ++ tail = [] := by
  cases found with
  | nil => simp
  | cons first found =>
    cases sizes with
    | nil => cases count
    | cons size sizes =>
      have some := List.length_pos_iff.mp (Write.length_varint_pos size)
      simp [Frame.bytes, Frame.resized, some, spelled first List.mem_cons_self]

def Resizable (input : Input) (found : List Frame) : Prop :=
  ∃ tail, input.rest = found.flatMap Frame.bytes ++ tail ∧
    ∀ (sizes : List Nat) (pos fuel : Nat), sizes.length = found.length →
      (∀ size ∈ sizes, 0 < size ∧ size < 2 ^ 35) →
      ((List.zipWith Frame.resized sizes found).flatMap Frame.bytes ++ tail).length < fuel →
      frames fuel { input with pos, rest := (List.zipWith Frame.resized sizes found).flatMap Frame.bytes ++ tail } =
        List.zipWith Frame.resized sizes found

theorem resizable_nil {input : Input} (always : ∀ pos fuel, frames (fuel + 1) { input with pos } = []) :
    Resizable input [] := by
  refine ⟨input.rest, rfl, ?_⟩
  intro sizes pos fuel count _ room
  obtain ⟨less, rfl⟩ := Nat.exists_eq_add_one.mpr (Nat.zero_lt_of_lt room)
  rw [List.zipWith_nil_right]
  exact always pos less

theorem resizable_cons {input after : Input} {first : Frame} {found : List Frame}
    (ran : frame input = (.ok first, after)) (nonzero : first.prototype.size ≠ 0) (later : Resizable after found)
    (spelled : ∀ each ∈ found, each.sizeField ≠ []) : Resizable input (first :: found) := by
  obtain ⟨_, start, layout, said, alike⟩ := frame_resized ran nonzero
  obtain ⟨tail, start', again⟩ := later
  refine ⟨tail, by rw [start, start', List.flatMap_cons, List.append_assoc], ?_⟩
  intro sizes pos fuel count valid room
  cases sizes with
  | nil => cases count
  | cons size sizes =>
    have own := valid size List.mem_cons_self
    have others : ∀ other ∈ sizes, 0 < other ∧ other < 2 ^ 35 :=
      fun other member => valid other (List.mem_cons_of_mem size member)
    have fewer : sizes.length = found.length := Nat.succ.inj count
    have behind := resized_eq_nil_iff tail fewer spelled
    rw [← start'] at behind
    rw [List.zipWith_cons_cons, List.flatMap_cons, List.append_assoc] at room ⊢
    obtain ⟨less, rfl⟩ := Nat.exists_eq_add_one.mpr (Nat.zero_lt_of_lt room)
    have left : ((List.zipWith Frame.resized sizes found).flatMap Frame.bytes ++ tail).length < less := by
      have some := Write.length_varint_pos size
      rw [List.length_append, Frame.bytes, List.length_append] at room
      simp only [Frame.resized] at room
      omega
    have positive : ¬ (first.resized size).prototype.size = 0 := by
      simp only [Frame.resized]
      omega
    have rest := again sizes (pos + (first.resized size).bytes.length) less fewer others left
    rw [layout, said] at rest
    rw [frames, alike size pos _ own.1 own.2 behind]
    simp only [if_neg positive, rest]

theorem resizable_frames {fuel : Nat} {input : Input} (enough : input.rest.length < fuel) :
    Resizable input (frames fuel input) := by
  induction fuel generalizing input with
  | zero => exact absurd enough (Nat.not_lt_zero _)
  | succ fuel ih =>
    cases outcome : frame input with
    | mk found after =>
      cases found with
      | error fault =>
        rw [frames, outcome]
        apply resizable_nil
        intro pos more
        obtain ⟨later, failed⟩ := placeless_frame.error input fault after outcome pos
        rw [frames, failed]
      | ok first =>
        simp only [frames, outcome]
        by_cases blank : first.prototype.size = 0
        · rw [if_pos blank]
          apply resizable_nil
          intro pos more
          obtain ⟨span, start, alike⟩ := placeless_frame.ok input first after outcome
          have there := alike pos after.rest Iff.rfl
          rw [← start] at there
          simp only [frames, there, if_pos blank]
        · obtain ⟨spelled, start, _⟩ := frame_resized outcome blank
          have shorter : after.rest.length < fuel := by
            have positive := List.length_pos_iff.mpr spelled
            rw [start, Frame.bytes, List.length_append, List.length_append] at enough
            omega
          rw [if_neg blank]
          exact resizable_cons outcome blank (ih shorter) fun each member => sizeField_of_mem_frames member

end Read

def frames (data : Bytes) : List Frame :=
  match Read.header { rest := data } with
  | (.ok _, headed) => Read.frames (headed.rest.length + 1) headed
  | (.error _, _) => []

theorem parse_of_header {data : Bytes} {header : Header} {headed : Input}
    (start : Read.header { rest := data } = (.ok header, headed)) :
    (parse data).1 = .ok { header, prototypes := (frames data).map Frame.prototype } := by
  have known : (nested Read.prototypes headed).1 =
      .ok ((Read.frames (headed.rest.length + 1) headed).map Frame.prototype) :=
    Read.prototypes_eq_frames (headed.rest.length + 1) headed
  rw [parse, Read.dump, bind_of_ok start]
  cases outcome : nested Read.prototypes headed with
  | mk found after =>
    rw [outcome] at known
    change found = _ at known
    subst known
    rw [bind_of_ok outcome, frames, start]
    rfl

theorem header_of_parse {data : Bytes} {dump : Dump} (accepted : (parse data).1 = .ok dump) :
    ∃ headed front tail, Read.header { rest := data } = (.ok dump.header, headed) ∧
      frames data = Read.frames (headed.rest.length + 1) headed ∧
      dump.prototypes = (frames data).map Frame.prototype ∧
      data = front ++ ((frames data).flatMap Frame.bytes ++ tail) := by
  cases start : Read.header { rest := data } with
  | mk found headed =>
    cases found with
    | error fault =>
      rw [parse, Read.dump, bind_of_error start] at accepted
      cases accepted
    | ok header =>
      rw [parse_of_header start] at accepted
      cases accepted
      have known : frames data = Read.frames (headed.rest.length + 1) headed := by rw [frames, start]
      obtain ⟨front, whole, _⟩ := Read.settled_header _ header headed start
      obtain ⟨tail, rest, _⟩ := Read.resizable_frames (Nat.lt_succ_self headed.rest.length)
      change data = front ++ headed.rest at whole
      rw [← known] at rest
      exact ⟨headed, front, tail, rfl, known, rfl, by rw [← rest]; exact whole⟩

theorem contained_iff {sizes : List Nat} {found : List Frame} (count : sizes.length = found.length) :
    (∀ frame ∈ List.zipWith Frame.resized sizes found, frame.IsContained) ↔
      sizes = found.map fun frame => frame.body.length := by
  induction sizes generalizing found with
  | nil =>
    cases found with
    | nil => simp
    | cons first found => cases count
  | cons size sizes ih =>
    cases found with
    | nil => cases count
    | cons first found =>
      have own : (first.resized size).IsContained ↔ size = first.body.length := by
        simp only [Frame.IsContained, Frame.resized]
        omega
      rw [List.zipWith_cons_cons, List.forall_mem_cons, own, ih (Nat.succ.inj count), List.map_cons, List.cons.injEq]

theorem sizes_say_nothing (data : Bytes) (dump : Dump) (accepted : (parse data).1 = .ok dump) :
    ∃ front tail, data = front ++ ((frames data).flatMap Frame.bytes ++ tail) ∧
      dump.prototypes = (frames data).map Frame.prototype ∧
      ∀ sizes : List Nat, sizes.length = (frames data).length → (∀ size ∈ sizes, 0 < size ∧ size < 2 ^ 35) →
        let resized := List.zipWith Frame.resized sizes (frames data)
        let other := front ++ (resized.flatMap Frame.bytes ++ tail)
        (parse other).1 = .ok { dump with prototypes := resized.map Frame.prototype } ∧ frames other = resized ∧
          ((∀ frame ∈ frames other, frame.IsContained) ↔
            sizes = (frames data).map fun frame => frame.body.length) := by
  cases start : Read.header { rest := data } with
  | mk found headed =>
    cases found with
    | error fault =>
      rw [parse, Read.dump, bind_of_error start] at accepted
      cases accepted
    | ok header =>
      rw [parse_of_header start] at accepted
      cases accepted
      have known : frames data = Read.frames (headed.rest.length + 1) headed := by rw [frames, start]
      obtain ⟨front, whole, _, alike, _⟩ := Read.settled_header _ header headed start
      obtain ⟨tail, rest, again⟩ := Read.resizable_frames (Nat.lt_succ_self headed.rest.length)
      change data = front ++ headed.rest at whole
      rw [← known] at rest again
      refine ⟨front, tail, by rw [← rest]; exact whole, rfl, ?_⟩
      intro sizes count valid
      have startToo := alike ((List.zipWith Frame.resized sizes (frames data)).flatMap Frame.bytes ++ tail)
      have read := again sizes headed.pos _ count valid (Nat.lt_succ_self _)
      have knownToo : frames (front ++ ((List.zipWith Frame.resized sizes (frames data)).flatMap Frame.bytes ++ tail)) =
          List.zipWith Frame.resized sizes (frames data) := by
        rw [frames, startToo]
        exact read
      refine ⟨?_, knownToo, ?_⟩
      · rw [parse_of_header startToo, knownToo]
      · rw [knownToo]
        exact contained_iff count

-- Two prototypes of 24 bytes each, declared as short and as long as a size can say.
theorem sizes_say_nothing_twiceNamed :
    ∃ dump front tail, (parse twiceNamed).1 = .ok dump ∧
      twiceNamed = front ++ ((frames twiceNamed).flatMap Frame.bytes ++ tail) ∧
      let resized := List.zipWith Frame.resized [1, 2 ^ 35 - 1] (frames twiceNamed)
      let other := front ++ (resized.flatMap Frame.bytes ++ tail)
      (parse other).1 = .ok { dump with prototypes := resized.map Frame.prototype } ∧ frames other = resized ∧
        ¬ ∀ frame ∈ frames other, frame.IsContained := by
  obtain ⟨dump, accepted⟩ : ∃ dump, (parse twiceNamed).1 = .ok dump := by
    have names : namesWithin 51 twiceNamed = some [["<type_1>", "b"], ["<type_1>", "b"]] := by decide +kernel
    obtain ⟨_, _, dump, after, _, ran, _⟩ := parse_of_namesWithin names
    exact ⟨dump, by rw [ran]⟩
  have lengths : (frames twiceNamed).map (fun frame => frame.body.length) = [24, 24] := by decide +kernel
  have count : (frames twiceNamed).length = 2 := by decide +kernel
  obtain ⟨front, tail, whole, _, any⟩ := sizes_say_nothing twiceNamed dump accepted
  obtain ⟨read, again, contained⟩ := any [1, 2 ^ 35 - 1] count.symm (by decide)
  refine ⟨dump, front, tail, accepted, whole, read, again, ?_⟩
  rw [contained, lengths]
  decide

-- A function on one line, inside another: its debug sections hold a line for its instruction, but
-- the count of lines is zero, and a byte that belongs to it is taken for the end of the list.
def oneLine : Bytes :=
  signature ++ [1, 0, 1, 0x78] ++ Write.sized [0, 0, 1, 0, 0, 0, 1, 2, 1, 0, 0x47, 0, 1, 0, 0, 0] ++
    Write.sized [3, 0, 2, 0, 1, 0, 2, 3, 0, 1, 0x31, 0, 0, 0, 0x47, 0, 1, 0, 0, 1, 1, 0] ++ [0]

theorem oneLine_ends_early :
    (frames oneLine).map (fun frame => (frame.prototype.size, frame.body.length)) = [(16, 15)] ∧
      (¬ ∀ frame ∈ frames oneLine, frame.IsContained) ∧
      (parse oneLine).1.toOption.map (fun dump => dump.prototypes.length) = some 1 := by
  decide +kernel

end LuaBytecode.Jit
