import LuaBytecode.Proofs.LayoutUse
import LuaBytecode.Proofs.V53.RoundTrip

namespace LuaBytecode.V53

open Reader

namespace Read

theorem usesOnly_fixedWidth {width : Nat} : UsesOnly Layout.order (fixedWidth width) :=
  usesOnly_ordered fun _ _ same => same

theorem usesOnly_boundedByte : UsesOnly Layout.order boundedByte := usesOnly_bind usesOnly_take fun _ => usesOnly_pure

theorem usesOnly_int : UsesOnly Layout.order int := usesOnly_bind usesOnly_fixedWidth fun _ => usesOnly_pure

theorem usesOnly_integer : UsesOnly Layout.order integer := usesOnly_bind usesOnly_fixedWidth fun _ => usesOnly_pure

theorem usesOnly_number : UsesOnly Layout.order number := usesOnly_bind usesOnly_fixedWidth fun _ => usesOnly_pure

theorem usesOnly_string : UsesOnly Layout.order string := by
  have content : ∀ size : Nat, UsesOnly Layout.order
      (if size = 0 then pure ""
      else do
        let taken ← bounded (size - 1)
        pure (Text.Utf8.decodeReplacing taken)) := fun size =>
    usesOnly_ite usesOnly_pure (usesOnly_bind usesOnly_take fun _ => usesOnly_pure)
  apply usesOnly_bind usesOnly_boundedByte
  intro short
  exact usesOnly_choice usesOnly_fixedWidth usesOnly_pure content

theorem usesOnly_instruction : UsesOnly Layout.order instruction :=
  usesOnly_bind usesOnly_fixedWidth fun _ => usesOnly_ofExcept

theorem usesOnly_constant : UsesOnly Layout.order constant := by
  apply usesOnly_bind usesOnly_boundedByte
  intro tag
  split
  · exact usesOnly_pure
  · exact usesOnly_bind usesOnly_boundedByte fun _ => usesOnly_pure
  · exact usesOnly_bind usesOnly_number fun _ => usesOnly_pure
  · exact usesOnly_bind usesOnly_integer fun _ => usesOnly_pure
  · exact usesOnly_bind usesOnly_string fun _ => usesOnly_pure
  · exact usesOnly_bind usesOnly_string fun _ => usesOnly_pure
  · exact usesOnly_fail

theorem usesOnly_counted {α : Type} {reader : Reader α} (each : UsesOnly Layout.order reader) :
    UsesOnly Layout.order (counted reader) :=
  usesOnly_bind usesOnly_int fun count => usesOnly_timesInt each count

theorem usesOnly_upvalue : UsesOnly Layout.order upvalue :=
  usesOnly_bind usesOnly_boundedByte fun _ => usesOnly_bind usesOnly_boundedByte fun _ => usesOnly_pure

theorem usesOnly_localVariable : UsesOnly Layout.order localVariable :=
  usesOnly_bind usesOnly_string fun _ => usesOnly_bind usesOnly_int fun _ =>
    usesOnly_bind usesOnly_int fun _ => usesOnly_pure

theorem usesOnly_prototypeWithin (depth : Nat) : UsesOnly Layout.order (prototypeWithin depth) := by
  induction depth with
  | zero => exact usesOnly_fail
  | succ depth ih =>
    apply usesOnly_bind usesOnly_string
    intro source
    apply usesOnly_bind usesOnly_int
    intro lineDefined
    apply usesOnly_bind usesOnly_int
    intro lastLineDefined
    apply usesOnly_bind usesOnly_boundedByte
    intro paramCount
    apply usesOnly_bind usesOnly_boundedByte
    intro varargFlag
    apply usesOnly_bind usesOnly_boundedByte
    intro maxStackSize
    apply usesOnly_bind (usesOnly_counted usesOnly_instruction)
    intro code
    apply usesOnly_bind (usesOnly_counted usesOnly_constant)
    intro constants
    apply usesOnly_bind (usesOnly_counted usesOnly_upvalue)
    intro upvalues
    apply usesOnly_bind (usesOnly_counted ih)
    intro inner
    apply usesOnly_bind (usesOnly_counted usesOnly_int)
    intro lineInfo
    apply usesOnly_bind (usesOnly_counted usesOnly_localVariable)
    intro locals
    exact usesOnly_bind (usesOnly_counted usesOnly_string) fun _ => usesOnly_pure

theorem usesOnly_prototype : UsesOnly Layout.order prototype := usesOnly_nested usesOnly_prototypeWithin

variable {layout : Layout} {width : Nat}

theorem ensuresUnder_fixedWidth : EnsuresUnder layout (fixedWidth width) (fun _ span => span.length = width) :=
  ensuresUnder_mono ensuresUnder_ordered fun _ _ known => known.1

theorem ensuresUnder_int : EnsuresUnder layout int (fun _ span => span.length = 4) := by
  apply ensuresUnder_bind ensuresUnder_fixedWidth
  intro n span four
  apply ensuresUnder_pure
  rw [List.append_nil, four]

theorem ensuresUnder_instruction : EnsuresUnder layout instruction (fun _ span => span.length = 4) := by
  apply ensuresUnder_bind ensuresUnder_fixedWidth
  intro n span four
  apply ensuresUnder_mono ensuresUnder_ofExcept
  rintro each _ ⟨_, rfl⟩
  rw [List.append_nil, four]

theorem ensuresUnder_integer :
    EnsuresUnder {} integer (fun n span => span.length = 8 ∧ span = Bytes.ofNat 8 (unsigned 64 n)) := by
  apply ensuresUnder_bind ensuresUnder_ordered
  rintro n span ⟨eight, rfl⟩
  apply ensuresUnder_pure
  rw [List.append_nil]
  exact ⟨eight, (Bytes.ofNat_signed eight).2.symm⟩

theorem ensuresUnder_number :
    EnsuresUnder {} number (fun value span => span.length = 8 ∧ span = Write.number value) := by
  apply ensuresUnder_bind ensuresUnder_ordered
  rintro n span ⟨eight, rfl⟩
  apply ensuresUnder_pure
  rw [List.append_nil]
  exact ⟨eight, (Bytes.ofNat_bits eight).symm⟩

theorem ensuresUnder_header : EnsuresUnder {} header (fun found span => found.Spellable ∧ span = found.spelled) := by
  apply ensuresUnder_saying
  apply ensuresUnder_saying
  apply ensuresUnder_saying
  apply ensuresUnder_bind ensuresUnder_take
  rintro mark _ ⟨rfl, _⟩
  apply ensuresUnder_saying
  apply ensuresUnder_checking
  intro signed
  obtain rfl : mark = signature := of_decide_eq_true signed
  apply ensuresUnder_bind ensuresUnder_single
  intro version _ single
  obtain ⟨_, rfl⟩ := single.spelled
  apply ensuresUnder_saying
  apply ensuresUnder_checking
  intro known
  obtain rfl : version = 0x53 := of_decide_eq_true known
  apply ensuresUnder_bind ensuresUnder_single
  intro format _ single
  obtain ⟨_, rfl⟩ := single.spelled
  apply ensuresUnder_saying
  apply ensuresUnder_checking
  intro official
  obtain rfl : format = 0 := of_decide_eq_true official
  apply ensuresUnder_bind ensuresUnder_take
  rintro check _ ⟨rfl, _⟩
  apply ensuresUnder_saying
  apply ensuresUnder_checking
  intro intact
  obtain rfl : check = data := of_decide_eq_true intact
  apply ensuresUnder_bind ensuresUnder_single
  intro intWidth _ single
  obtain ⟨smallInt, rfl⟩ := single.spelled
  apply ensuresUnder_bind ensuresUnder_single
  intro sizeWidth _ single
  obtain ⟨smallSize, rfl⟩ := single.spelled
  apply ensuresUnder_bind ensuresUnder_single
  intro instructionWidth _ single
  obtain ⟨smallInstruction, rfl⟩ := single.spelled
  apply ensuresUnder_bind ensuresUnder_single
  intro integerWidth _ single
  obtain ⟨smallInteger, rfl⟩ := single.spelled
  apply ensuresUnder_bind ensuresUnder_single
  intro numberWidth _ single
  obtain ⟨smallNumber, rfl⟩ := single.spelled
  apply ensuresUnder_saying
  apply ensuresUnder_saying
  apply ensuresUnder_saying
  apply ensuresUnder_saying
  apply ensuresUnder_saying
  apply ensuresUnder_bind ensuresUnder_integer
  rintro foundInteger _ ⟨_, rfl⟩
  apply ensuresUnder_bind ensuresUnder_number
  rintro foundNumber _ ⟨_, rfl⟩
  apply ensuresUnder_saying
  apply ensuresUnder_saying
  apply ensuresUnder_checking
  intro sameInteger
  obtain rfl : foundInteger = testInteger := of_decide_eq_true sameInteger
  apply ensuresUnder_checking
  intro sameNumber
  obtain rfl : foundNumber = testNumber := of_decide_eq_true sameNumber
  apply ensuresUnder_bind ensuresUnder_single
  intro upvalueCount _ single
  obtain ⟨smallCount, rfl⟩ := single.spelled
  apply ensuresUnder_saying
  apply ensuresUnder_saying
  apply ensuresUnder_saying
  apply ensuresUnder_pure
  refine ⟨⟨rfl, smallInt, smallSize, smallInstruction, smallInteger, smallNumber, smallCount⟩, ?_⟩
  have version : Bytes.ofByte ((0x53 : Nat) : Int) = [0x53] := by decide
  have official : Bytes.ofByte ((0 : Nat) : Int) = [0] := by decide
  have integer : unsigned 64 testInteger = testInteger.toNat := by decide
  rw [Header.spelled, version, official, integer, List.append_nil]

end Read

structure Chunk.Described (chunk : Chunk) : Prop where
  int : Wide {} Read.int chunk.header.intWidth
  size : Wide {} Read.size chunk.header.sizeWidth
  instruction : Wide {} Read.instruction chunk.header.instructionWidth
  integer : Wide {} Read.integer chunk.header.integerWidth
  number : Wide {} Read.number chunk.header.numberWidth
  upvalueCount : chunk.header.upvalueCount = chunk.main.top.upvalues.length

theorem Chunk.described_iff {chunk : Chunk} (spellable : chunk.header.Spellable) :
    chunk.Described ↔ chunk.header = standardHeader chunk.main.top.upvalues.length := by
  have int : Wide {} Read.int chunk.header.intWidth ↔ chunk.header.intWidth = 4 :=
    wide_iff Read.ensuresUnder_int (@Read.consumes_int 0 (by decide))
  have size : Wide {} Read.size chunk.header.sizeWidth ↔ chunk.header.sizeWidth = 8 :=
    wide_iff Read.ensuresUnder_fixedWidth (@Read.consumes_fixedWidth 8 0 (by decide))
  have instruction : Wide {} Read.instruction chunk.header.instructionWidth ↔ chunk.header.instructionWidth = 4 :=
    wide_iff Read.ensuresUnder_instruction (@Read.consumes_instruction ⟨⟨0⟩, .move, by decide⟩ (by decide))
  have integer : Wide {} Read.integer chunk.header.integerWidth ↔ chunk.header.integerWidth = 8 :=
    wide_iff (ensuresUnder_mono Read.ensuresUnder_integer fun _ _ known => known.1)
      (@Read.consumes_integer 0 (by decide))
  have number : Wide {} Read.number chunk.header.numberWidth ↔ chunk.header.numberWidth = 8 :=
    wide_iff (ensuresUnder_mono Read.ensuresUnder_number fun _ _ known => known.1) (Read.consumes_number ⟨0⟩)
  constructor
  · intro described
    rw [spellable.checked, int.mp described.int, size.mp described.size, instruction.mp described.instruction,
      integer.mp described.integer, number.mp described.number, described.upvalueCount]
    rfl
  · intro same
    exact ⟨int.mpr (by rw [same]; rfl), size.mpr (by rw [same]; rfl), instruction.mpr (by rw [same]; rfl),
      integer.mpr (by rw [same]; rfl), number.mpr (by rw [same]; rfl), by rw [same]; rfl⟩

structure Declared (data : Bytes) (chunk : Chunk) (after : Input) : Prop where
  spelled : data = chunk.header.spelled ++ data.drop 34
  spellable : chunk.header.Spellable
  described : chunk.Described ↔ chunk.header = standardHeader chunk.main.top.upvalues.length
  free : ∀ other : Header, other.Spellable →
    ∃ later, parse (other.spelled ++ data.drop 34) = (.ok { chunk with header := other }, later) ∧
      later.pos = after.pos ∧ later.rest = after.rest

theorem length_spelled (header : Header) : header.spelled.length = 34 := by
  simp [Header.spelled, Bytes.ofByte, signature, data, Write.number]

theorem header_run {header : Header} (spellable : header.Spellable) (rest : Bytes) : ∃ left : Input,
    Read.header { rest := header.spelled ++ rest } = (.ok header, left) ∧
      left.layout = {} ∧ left.pos = 34 ∧ left.rest = rest := by
  obtain ⟨found, left, read, layout, pos, unread, rfl⟩ := Read.consumes_spelledHeader spellable
    { rest := header.spelled ++ rest } rest rfl rfl
  refine ⟨left, read, layout, ?_, unread⟩
  rw [pos, length_spelled, Nat.zero_add]

theorem declared_of_parse {data : Bytes} {chunk : Chunk} {after : Input} (ran : parse data = (.ok chunk, after)) :
    Declared data chunk after := by
  obtain ⟨header, between, first, ran⟩ := ok_of_bind ran
  obtain ⟨main, last, second, ran⟩ := ok_of_bind ran
  cases ran
  obtain ⟨layout, _, start, pos, spellable, rfl⟩ := Read.ensuresUnder_header _ header between rfl first
  have start : data = header.spelled ++ between.rest := start
  have rest : data.drop 34 = between.rest := by rw [start, List.drop_left' (length_spelled header)]
  refine ⟨rest ▸ start, spellable, Chunk.described_iff spellable, ?_⟩
  intro other allowed
  obtain ⟨left, read, layout', pos', rest'⟩ := header_run allowed between.rest
  rw [length_spelled, Nat.zero_add] at pos
  obtain ⟨later, done, stop, unread⟩ :=
    Read.usesOnly_prototype.again second (by rw [pos', pos]) rest' (by rw [layout', layout])
  refine ⟨later, ?_, stop, unread⟩
  unfold parse Read.chunk
  rw [rest, bind_of_ok read, bind_of_ok done]
  rfl

end LuaBytecode.V53
