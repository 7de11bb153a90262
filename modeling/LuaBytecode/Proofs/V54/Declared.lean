import LuaBytecode.Proofs.LayoutUse
import LuaBytecode.Proofs.V54.Accepted

namespace LuaBytecode.V54

open Reader

namespace Read

theorem ignoresLayout_fixedWidth {width : Nat} : IgnoresLayout (fixedWidth width) :=
  usesOnly_bind usesOnly_takeUpTo fun _ => usesOnly_fixed

theorem ignoresLayout_byte : IgnoresLayout byte := ignoresLayout_fixedWidth

theorem ignoresLayout_integer : IgnoresLayout integer := usesOnly_bind ignoresLayout_fixedWidth fun _ => usesOnly_pure

theorem ignoresLayout_number : IgnoresLayout number := usesOnly_bind ignoresLayout_fixedWidth fun _ => usesOnly_pure

theorem ignoresLayout_instruction : IgnoresLayout instruction :=
  usesOnly_bind ignoresLayout_fixedWidth fun _ => usesOnly_pure

theorem ignoresLayout_line : IgnoresLayout line := usesOnly_bind ignoresLayout_byte fun _ => usesOnly_pure

theorem ignoresLayout_size : IgnoresLayout size := usesOnly_scanning

theorem ignoresLayout_string : IgnoresLayout string := by
  apply usesOnly_bind ignoresLayout_size
  intro size
  apply usesOnly_ite usesOnly_pure
  exact usesOnly_bind usesOnly_require fun _ => usesOnly_bind usesOnly_takeUpTo fun _ => usesOnly_pure

theorem ignoresLayout_noted {α : Type} {reader : Reader α} (record : Bool) (known : IgnoresLayout reader) :
    IgnoresLayout (noted record reader) := by
  cases record with
  | false => exact usesOnly_bind known fun _ => usesOnly_pure
  | true =>
    apply usesOnly_bind (usesOnly_withSpan known)
    intro found
    exact usesOnly_pure

theorem ignoresLayout_counted {α : Type} {reader : Reader α} (each : IgnoresLayout reader) :
    IgnoresLayout (counted reader) :=
  usesOnly_bind ignoresLayout_size fun count => usesOnly_times each count

theorem ignoresLayout_upvalue (record : Bool) : IgnoresLayout (upvalue record) := by
  have fields : IgnoresLayout (do
      let inStack ← byte
      let index ← byte
      let kind ← byte
      pure (inStack, index, kind)) :=
    usesOnly_bind ignoresLayout_byte fun _ => usesOnly_bind ignoresLayout_byte fun _ =>
      usesOnly_bind ignoresLayout_byte fun _ => usesOnly_pure
  exact usesOnly_bind (ignoresLayout_noted record fields) fun _ => usesOnly_pure

theorem ignoresLayout_constant : IgnoresLayout constant := by
  apply usesOnly_bind ignoresLayout_byte
  intro tag
  dsimp only
  split
  · exact usesOnly_pure
  · exact usesOnly_pure
  · apply usesOnly_ite
    · exact usesOnly_bind ignoresLayout_number fun _ => usesOnly_pure
    · exact usesOnly_bind ignoresLayout_integer fun _ => usesOnly_pure
  · exact usesOnly_bind ignoresLayout_string fun _ => usesOnly_pure
  · exact usesOnly_fail

theorem ignoresLayout_absLine (record : Bool) : IgnoresLayout (absLine record) := by
  have fields : IgnoresLayout (do
      let pc ← size
      let line ← size
      pure (pc, line)) :=
    usesOnly_bind ignoresLayout_size fun _ => usesOnly_bind ignoresLayout_size fun _ => usesOnly_pure
  exact usesOnly_bind (ignoresLayout_noted record fields) fun _ => usesOnly_pure

theorem ignoresLayout_localVariable (record : Bool) : IgnoresLayout (localVariable record) := by
  have fields : IgnoresLayout (do
      let name ← string
      let startPc ← size
      let endPc ← size
      pure (name, startPc, endPc)) :=
    usesOnly_bind ignoresLayout_string fun _ => usesOnly_bind ignoresLayout_size fun _ =>
      usesOnly_bind ignoresLayout_size fun _ => usesOnly_pure
  exact usesOnly_bind (ignoresLayout_noted record fields) fun _ => usesOnly_pure

theorem ignoresLayout_debug (record : Bool) : IgnoresLayout (debug record) :=
  usesOnly_bind (ignoresLayout_counted ignoresLayout_line) fun _ =>
    usesOnly_bind (ignoresLayout_counted (ignoresLayout_absLine record)) fun _ =>
      usesOnly_bind (ignoresLayout_counted (ignoresLayout_localVariable record)) fun _ =>
        usesOnly_bind (ignoresLayout_counted ignoresLayout_string) fun _ => usesOnly_pure

theorem ignoresLayout_prototypeWithin (record : Bool) (depth : Nat) (parent : Option String) :
    IgnoresLayout (prototypeWithin record depth parent) := by
  induction depth generalizing parent with
  | zero => exact usesOnly_fail
  | succ depth ih =>
    apply usesOnly_bind (ignoresLayout_noted record ignoresLayout_string)
    intro source
    apply usesOnly_bind (ignoresLayout_noted record ignoresLayout_size)
    intro lineDefined
    apply usesOnly_bind (ignoresLayout_noted record ignoresLayout_size)
    intro lastLineDefined
    apply usesOnly_bind (ignoresLayout_noted record ignoresLayout_byte)
    intro paramCount
    apply usesOnly_bind (ignoresLayout_noted record ignoresLayout_byte)
    intro varargFlag
    apply usesOnly_bind (ignoresLayout_noted record ignoresLayout_byte)
    intro maxStackSize
    apply usesOnly_bind (ignoresLayout_noted record (ignoresLayout_counted ignoresLayout_instruction))
    intro code
    apply usesOnly_bind (ignoresLayout_noted record (ignoresLayout_counted ignoresLayout_constant))
    intro constants
    apply usesOnly_bind (ignoresLayout_noted record (ignoresLayout_counted (ignoresLayout_upvalue record)))
    intro upvalues
    apply usesOnly_bind (ignoresLayout_noted record ignoresLayout_size)
    intro innerCount
    apply usesOnly_bind (usesOnly_times (ih _) _)
    intro inner
    exact usesOnly_bind (ignoresLayout_noted record (ignoresLayout_debug record)) fun _ => usesOnly_pure

theorem ignoresLayout_prototype (record : Bool) (parent : Option String) : IgnoresLayout (prototype record parent) :=
  usesOnly_nested fun depth => ignoresLayout_prototypeWithin record depth parent

variable {layout : Layout} {width : Nat}

theorem wide_instruction : Wide layout instruction width ↔ width = 4 := by
  have passes : EnsuresUnder layout instruction (fun _ span => span.length = 4) := by
    apply ensuresUnder_of_yields ignoresLayout_instruction
    intro limit
    apply yields_mono yields_instruction
    rintro n _ ⟨each, _, rfl⟩
    exact Bytes.length_ofNat 4 _
  exact wide_iff passes (consumes_instruction 0)

theorem wide_integer : Wide layout integer width ↔ width = 8 := by
  have passes : EnsuresUnder layout integer (fun _ span => span.length = 8) :=
    ensuresUnder_of_yields ignoresLayout_integer fun _ => yields_mono yields_integer fun _ _ known => known.2
  exact wide_iff passes (consumes_integer 0)

theorem wide_number : Wide layout number width ↔ width = 8 :=
  wide_iff (ensuresUnder_of_yields ignoresLayout_number fun _ => yields_number) (consumes_number 0)

end Read

structure Chunk.Described (chunk : Chunk) : Prop where
  format : chunk.header.format = 0
  data : chunk.header.data = data
  instruction : Wide {} Read.instruction chunk.header.instructionWidth
  integer : Wide {} Read.integer chunk.header.integerWidth
  number : Wide {} Read.number chunk.header.numberWidth
  testInteger : chunk.header.testInteger = testInteger
  testNumber : chunk.header.testNumber = testNumber
  upvalueCount : chunk.upvalueCount = chunk.main.top.upvalues.length

theorem Chunk.described_iff {chunk : Chunk} :
    chunk.Described ↔ chunk.header = standardHeader ∧ chunk.upvalueCount = chunk.main.top.upvalues.length := by
  cases chunk with
  | mk header upvalueCount main =>
    cases header with
    | mk format data instructionWidth integerWidth numberWidth testInteger testNumber =>
      constructor
      · intro described
        have instruction := Read.wide_instruction.mp described.instruction
        have integer := Read.wide_integer.mp described.integer
        have number := Read.wide_number.mp described.number
        refine ⟨?_, described.upvalueCount⟩
        simp only [standardHeader, Header.mk.injEq]
        exact ⟨described.format, described.data, instruction, integer, number, described.testInteger,
          described.testNumber⟩
      · intro both
        obtain ⟨standard, count⟩ := both
        simp only [standardHeader, Header.mk.injEq] at standard
        obtain ⟨format, data, instruction, integer, number, testInteger, testNumber⟩ := standard
        exact ⟨format, data, Read.wide_instruction.mpr instruction, Read.wide_integer.mpr integer,
          Read.wide_number.mpr number, testInteger, testNumber, count⟩

structure Declared (record : Bool) (file : Bytes) (chunk : Chunk) (after : Input) : Prop where
  spelled : file = chunk.header.spelled ++ (Bytes.ofByte chunk.upvalueCount ++ file.drop 32)
  described : chunk.Described ↔
    chunk.header = standardHeader ∧ chunk.upvalueCount = chunk.main.top.upvalues.length
  free : ∀ (other : Header) (upvalueCount : Nat), other.Spellable → upvalueCount < 256 →
    ∃ later, parse record (other.spelled ++ (Bytes.ofByte upvalueCount ++ file.drop 32)) =
        (.ok { chunk with header := other, upvalueCount }, later) ∧
      later.pos = after.pos ∧ later.rest = after.rest

theorem length_spelled {header : Header} (spellable : header.Spellable) : header.spelled.length = 31 := by
  simp [Header.spelled, signature, Bytes.ofByte, spellable.data]

theorem parse_spelled (record : Bool) {header : Header} (spellable : header.Spellable) {upvalueCount : Nat}
    (small : upvalueCount < 256) (rest : Bytes) : ∃ input : Input, input.pos = 32 ∧ input.rest = rest ∧
      parse record (header.spelled ++ (Bytes.ofByte upvalueCount ++ rest)) =
        (Read.prototype record (some "") >>= fun main => pure { header, upvalueCount, main }) input := by
  obtain ⟨_, between, first, layout, pos, left, rfl⟩ := Read.consumes_spelledHeader spellable
    { rest := header.spelled ++ (Bytes.ofByte upvalueCount ++ rest) } _ rfl rfl
  obtain ⟨_, input, second, _, pos', left', rfl⟩ := Read.consumes_smallByte small between rest layout left
  rw [pos, length_spelled spellable] at pos'
  -- What is reported in between is found by running the reader.
  refine ⟨{ input with said := ?said }, ?place, left', ?same⟩
  case same =>
    rw [parse, Read.chunk_eq, bind_of_ok first, bind_of_ok second]
    rfl
  case place =>
    rw [pos']
    rfl

theorem declared_of_parse {record : Bool} {file : Bytes} {chunk : Chunk} {after : Input}
    (ran : parse record file = (.ok chunk, after)) : Declared record file chunk after := by
  have parts := ran
  rw [parse, Read.chunk_eq] at parts
  obtain ⟨header, between, first, parts⟩ := ok_of_bind parts
  obtain ⟨upvalueCount, behind, second, _⟩ := ok_of_bind parts
  obtain ⟨_, start, _, spellable, rfl⟩ := Read.yields_spelledHeader _ header between (Nat.le_refl _) first
  obtain ⟨_, start', _, small, rfl⟩ := Read.yields_spelledByte _ upvalueCount behind (Nat.le_refl _) second
  have whole : file = header.spelled ++ (Bytes.ofByte upvalueCount ++ behind.rest) := by rw [← start', ← start]
  have rest : file.drop 32 = behind.rest := by
    have front : (header.spelled ++ Bytes.ofByte upvalueCount).length = 32 := by
      rw [List.length_append, length_spelled spellable]
      rfl
    rw [whole, ← List.append_assoc, List.drop_left' front]
  obtain ⟨input, pos, left, same⟩ := parse_spelled record spellable small behind.rest
  rw [← whole, ran] at same
  obtain ⟨main, last, third, done⟩ := ok_of_bind same.symm
  cases done
  refine ⟨rest ▸ whole, Chunk.described_iff, ?_⟩
  intro other otherCount allowed few
  obtain ⟨input', pos', left', same'⟩ := parse_spelled record allowed few behind.rest
  obtain ⟨later, again, stop, unread⟩ :=
    (Read.ignoresLayout_prototype record (some "")).again third (by rw [pos', pos]) (by rw [left', left]) rfl
  refine ⟨later, ?_, stop, unread⟩
  rw [rest, same', bind_of_ok again]
  rfl

end LuaBytecode.V54
