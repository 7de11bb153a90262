import LuaBytecode.Proofs.LayoutUse
import LuaBytecode.Proofs.V52.RoundTrip
/-!
What a header of version 5.2 says about widths, and what reading goes by. The width of sizes is
used, and that of instructions as soon as there is one; the two others are put down and forgotten.
-/
namespace LuaBytecode.V52

open Reader

def usedFields (layout : Layout) : ByteOrder × Nat × Nat := (layout.order, layout.sizeWidth, layout.instructionWidth)

namespace Read

theorem usesOnly_bytes {count : Nat} : UsesOnly usedFields (bytes count) := usesOnly_take

theorem usesOnly_byte : UsesOnly usedFields byte := usesOnly_bind usesOnly_bytes fun _ => usesOnly_pure

theorem usesOnly_word : UsesOnly usedFields word := usesOnly_ordered fun _ _ same => congrArg Prod.fst same

theorem usesOnly_long : UsesOnly usedFields long := usesOnly_ordered fun _ _ same => congrArg Prod.fst same

theorem usesOnly_number : UsesOnly usedFields number := usesOnly_bind usesOnly_long fun _ => usesOnly_pure

theorem usesOnly_size : UsesOnly usedFields size := by
  apply usesOnly_layout fun _ => usesOnly_ite usesOnly_word (usesOnly_ite usesOnly_long usesOnly_fail)
  intro one other same
  have width : one.sizeWidth = other.sizeWidth := congrArg (fun seen => seen.2.1) same
  rw [width]

theorem usesOnly_string : UsesOnly usedFields string := by
  apply usesOnly_bind usesOnly_size
  intro size
  exact usesOnly_ite usesOnly_pure (usesOnly_bind usesOnly_bytes fun _ => usesOnly_pure)

theorem usesOnly_instruction : UsesOnly usedFields instruction := by
  apply usesOnly_layout
  · intro found
    exact usesOnly_bind usesOnly_require fun _ => usesOnly_bind usesOnly_word fun _ => usesOnly_ofExcept
  · intro one other same
    have width : one.instructionWidth = other.instructionWidth := congrArg (fun seen => seen.2.2) same
    rw [width]

theorem usesOnly_constant : UsesOnly usedFields constant := by
  apply usesOnly_bind usesOnly_byte
  intro tag
  split
  · exact usesOnly_pure
  · exact usesOnly_bind usesOnly_byte fun _ => usesOnly_pure
  · exact usesOnly_bind usesOnly_number fun _ => usesOnly_pure
  · exact usesOnly_bind usesOnly_number fun _ => usesOnly_bind usesOnly_ofExcept fun _ => usesOnly_pure
  · exact usesOnly_bind usesOnly_string fun _ => usesOnly_pure
  · exact usesOnly_bind usesOnly_string fun _ => usesOnly_pure
  · exact usesOnly_fail

theorem usesOnly_counted {α : Type} {reader : Reader α} (each : UsesOnly usedFields reader) :
    UsesOnly usedFields (counted reader) :=
  usesOnly_bind usesOnly_word fun count => usesOnly_times each count

theorem usesOnly_code : UsesOnly usedFields code :=
  usesOnly_bind (usesOnly_counted usesOnly_instruction) fun _ => usesOnly_pure

theorem usesOnly_upvalue : UsesOnly usedFields upvalue :=
  usesOnly_bind usesOnly_byte fun _ => usesOnly_bind usesOnly_byte fun _ => usesOnly_pure

theorem usesOnly_line : UsesOnly usedFields line := usesOnly_bind usesOnly_word fun _ => usesOnly_pure

theorem usesOnly_localVariable : UsesOnly usedFields localVariable :=
  usesOnly_bind usesOnly_string fun _ => usesOnly_bind usesOnly_word fun _ =>
    usesOnly_bind usesOnly_word fun _ => usesOnly_pure

theorem usesOnly_prototypeWithin (depth : Nat) : UsesOnly usedFields (prototypeWithin depth) := by
  induction depth with
  | zero => exact usesOnly_fail
  | succ depth ih =>
    apply usesOnly_bind usesOnly_word
    intro lineDefined
    apply usesOnly_bind usesOnly_word
    intro lastLineDefined
    apply usesOnly_bind usesOnly_byte
    intro paramCount
    apply usesOnly_bind usesOnly_byte
    intro varargFlag
    apply usesOnly_bind usesOnly_byte
    intro maxStackSize
    apply usesOnly_bind usesOnly_code
    intro code
    apply usesOnly_bind (usesOnly_counted usesOnly_constant)
    intro constants
    apply usesOnly_bind (usesOnly_counted ih)
    intro inner
    apply usesOnly_bind (usesOnly_counted usesOnly_upvalue)
    intro upvalues
    apply usesOnly_bind usesOnly_string
    intro source
    apply usesOnly_bind (usesOnly_counted usesOnly_line)
    intro lineInfo
    apply usesOnly_bind (usesOnly_counted usesOnly_localVariable)
    intro locals
    exact usesOnly_bind (usesOnly_counted usesOnly_string) fun _ => usesOnly_pure

theorem usesOnly_prototype : UsesOnly usedFields prototype := usesOnly_nested usesOnly_prototypeWithin

variable {layout : Layout} {width : Nat}

def SizeKnown (layout : Layout) : Prop := layout.sizeWidth = 4 ∨ layout.sizeWidth = 8

-- Every function has a source, and its size is of one of the two widths; an instruction of four bytes
-- is the only one that is read.
def Borne (layout : Layout) (tree : Prototype) : Prop :=
  SizeKnown layout ∧ (layout.instructionWidth = 4 ∨ ∀ each ∈ tree.toList, each.code = [])

theorem ensuresUnder_size : EnsuresUnder layout size (fun _ _ => SizeKnown layout) := by
  apply ensuresUnder_layout
  by_cases four : layout.sizeWidth = 4
  · rw [if_pos four]
    exact ensuresUnder_mono (ensuresUnder_of_usesOnly usesOnly_word) fun _ _ _ => .inl four
  · rw [if_neg four]
    by_cases eight : layout.sizeWidth = 8
    · rw [if_pos eight]
      exact ensuresUnder_mono (ensuresUnder_of_usesOnly usesOnly_long) fun _ _ _ => .inr eight
    · rw [if_neg eight]
      exact ensuresUnder_fail

theorem ensuresUnder_string : EnsuresUnder layout string (fun _ _ => SizeKnown layout) := by
  apply ensuresUnder_first ensuresUnder_size
  intro size
  exact usesOnly_ite usesOnly_pure (usesOnly_bind usesOnly_bytes fun _ => usesOnly_pure)

theorem ensuresUnder_word : EnsuresUnder layout word (fun _ span => span.length = 4) :=
  ensuresUnder_mono ensuresUnder_ordered fun _ _ exactly => exactly.1

theorem ensuresUnder_long : EnsuresUnder layout long (fun _ span => span.length = 8) :=
  ensuresUnder_mono ensuresUnder_ordered fun _ _ exactly => exactly.1

theorem ensuresUnder_number : EnsuresUnder layout number (fun _ span => span.length = 8) := by
  apply ensuresUnder_bind ensuresUnder_long
  intro n span eight
  apply ensuresUnder_pure
  rw [List.append_nil, eight]

theorem ensuresUnder_instruction :
    EnsuresUnder layout instruction (fun _ span => layout.instructionWidth = 4 ∧ span.length = 4) := by
  apply ensuresUnder_layout
  apply ensuresUnder_checking
  intro met
  apply ensuresUnder_bind ensuresUnder_word
  intro n span four
  apply ensuresUnder_mono ensuresUnder_ofExcept
  rintro each _ ⟨_, rfl⟩
  rw [List.append_nil]
  exact ⟨of_decide_eq_true met, four⟩

theorem ensuresUnder_counted {α : Type} {reader : Reader α} {holds : α → Prop}
    (each : EnsuresUnder layout reader (fun value _ => holds value)) :
    EnsuresUnder layout (counted reader) (fun found _ => ∀ value ∈ found, holds value) :=
  ensuresUnder_after usesOnly_word fun count => ensuresUnder_times each count

theorem ensuresUnder_code : EnsuresUnder layout code (fun found _ => found ≠ [] → layout.instructionWidth = 4) := by
  have instructions : EnsuresUnder layout instruction (fun _ _ => layout.instructionWidth = 4) :=
    ensuresUnder_mono ensuresUnder_instruction fun _ _ known => known.1
  apply ensuresUnder_bind (ensuresUnder_counted instructions)
  intro decoded _ known
  apply ensuresUnder_pure
  intro some
  obtain ⟨first, member⟩ := List.exists_mem_of_ne_nil decoded (by simpa [place] using some)
  exact known first member

theorem borne_node {top : Function} {inner : List Prototype} (sizes : SizeKnown layout)
    (own : top.code ≠ [] → layout.instructionWidth = 4) (within : ∀ tree ∈ inner, Borne layout tree) :
    Borne layout (.node top inner) := by
  refine ⟨sizes, ?_⟩
  by_cases four : layout.instructionWidth = 4
  · exact .inl four
  · right
    intro each member
    rw [Tree.toList, List.mem_cons] at member
    cases member with
    | inl same =>
      subst same
      exact Classical.byContradiction fun some => four (own some)
    | inr deeper =>
      obtain ⟨tree, listed, member⟩ := (Tree.mem_listOfForest inner).mp deeper
      exact (within tree listed).2.resolve_left four each member

theorem ensuresUnder_prototypeWithin (depth : Nat) :
    EnsuresUnder layout (prototypeWithin depth) (fun tree _ => Borne layout tree) := by
  induction depth with
  | zero => exact ensuresUnder_fail
  | succ depth ih =>
    apply ensuresUnder_after usesOnly_word
    intro lineDefined
    apply ensuresUnder_after usesOnly_word
    intro lastLineDefined
    apply ensuresUnder_after usesOnly_byte
    intro paramCount
    apply ensuresUnder_after usesOnly_byte
    intro varargFlag
    apply ensuresUnder_after usesOnly_byte
    intro maxStackSize
    apply ensuresUnder_bind ensuresUnder_code
    intro code _ own
    apply ensuresUnder_after (usesOnly_counted usesOnly_constant)
    intro constants
    apply ensuresUnder_bind (ensuresUnder_counted ih)
    intro inner _ within
    apply ensuresUnder_after (usesOnly_counted usesOnly_upvalue)
    intro upvalues
    apply ensuresUnder_bind ensuresUnder_string
    intro source _ sizes
    apply ensuresUnder_after (usesOnly_counted usesOnly_line)
    intro lineInfo
    apply ensuresUnder_after (usesOnly_counted usesOnly_localVariable)
    intro locals
    apply ensuresUnder_after (usesOnly_counted usesOnly_string)
    intro upvalueNames
    exact ensuresUnder_pure (borne_node sizes own within)

theorem ensuresUnder_prototype : EnsuresUnder layout prototype (fun tree _ => Borne layout tree) :=
  ensuresUnder_nested ensuresUnder_prototypeWithin

variable {limit : Nat}

theorem byteOrder_of_ok {flag : UInt8} {order : ByteOrder} (read : byteOrder flag.toNat = .ok order) :
    flag = Write.orderFlag order := by
  unfold byteOrder at read
  split at read
  · rename_i little
    cases read
    exact UInt8.toNat_inj.mp little
  · rename_i big
    cases read
    exact UInt8.toNat_inj.mp big
  · cases read

-- The layout changes between the fields, and no field before the end goes by it.
theorem yields_header : Yields limit header (fun found span => found.Spellable ∧ span = Write.header found) := by
  apply yields_bind yields_take
  rintro mark _ ⟨rfl, _⟩
  apply yields_bind yields_require
  rintro _ _ ⟨signed, rfl⟩
  apply yields_bind yields_single
  intro version versionSpan single
  obtain ⟨_, rfl⟩ := single.spelled
  apply yields_bind yields_require
  rintro _ _ ⟨known, rfl⟩
  apply yields_bind yields_single
  intro format formatSpan single
  obtain ⟨smallFormat, rfl⟩ := single.spelled
  apply yields_bind yields_single
  rintro _ _ ⟨flag, rfl, rfl⟩
  apply yields_bind yields_ofExcept
  rintro order _ ⟨read, rfl⟩
  apply yields_change
  apply yields_bind yields_single
  intro intWidth intSpan single
  obtain ⟨smallInt, rfl⟩ := single.spelled
  apply yields_change
  apply yields_bind yields_single
  intro sizeWidth sizeSpan single
  obtain ⟨smallSize, rfl⟩ := single.spelled
  apply yields_change
  apply yields_bind yields_single
  intro instructionWidth instructionSpan single
  obtain ⟨smallInstruction, rfl⟩ := single.spelled
  apply yields_change
  apply yields_bind yields_single
  intro numberWidth numberSpan single
  obtain ⟨smallNumber, rfl⟩ := single.spelled
  apply yields_change
  apply yields_bind yields_single
  intro numberFlag flagSpan single
  obtain ⟨smallFlag, rfl⟩ := single.spelled
  apply yields_bind yields_take
  rintro close _ ⟨rfl, _⟩
  apply yields_bind yields_require
  rintro _ _ ⟨closed, rfl⟩
  apply yields_pure
  refine ⟨⟨of_decide_eq_true known, smallFormat, smallInt, smallSize, smallInstruction, smallNumber, smallFlag⟩, ?_⟩
  have begins : mark = signature := of_decide_eq_true signed
  have ends : close = tail := of_decide_eq_true closed
  rw [begins, ends, byteOrder_of_ok read, Write.header]
  simp only [List.append_assoc, List.append_nil, List.nil_append]

theorem wide_word : Wide layout word width ↔ width = 4 :=
  wide_iff ensuresUnder_word (@consumes_word layout 0 (by decide))

theorem wide_long : Wide layout long width ↔ width = 8 :=
  wide_iff ensuresUnder_long (@consumes_long layout 0 (by decide))

theorem wide_number : Wide layout number width ↔ width = 8 :=
  wide_iff ensuresUnder_number (@consumes_number layout ⟨0⟩)

theorem wide_size (known : SizeKnown layout) : Wide layout size width ↔ width = layout.sizeWidth := by
  rw [size, wide_layout]
  cases known with
  | inl four => rw [if_pos four, wide_word, four]
  | inr eight => rw [if_neg (by omega), if_pos eight, wide_long, eight]

theorem wide_instruction (known : SizeKnown layout) :
    Wide layout instruction width ↔ layout.instructionWidth = 4 ∧ width = 4 := by
  have passes : EnsuresUnder layout instruction (fun _ span => span.length = 4) :=
    ensuresUnder_mono ensuresUnder_instruction fun _ _ exactly => exactly.2
  have exactly : layout.instructionWidth = 4 → (Wide layout instruction width ↔ width = 4) := fun four =>
    wide_iff passes (@consumes_instruction layout ⟨known, four⟩ ⟨⟨0⟩, .move, by decide⟩ (by decide))
  constructor
  · intro wide
    obtain ⟨input, each, after, found, ran⟩ := wide.reads
    obtain ⟨_, _, _, _, four, _⟩ := ensuresUnder_instruction input each after found ran
    exact ⟨four, (exactly four).mp wide⟩
  · intro both
    exact (exactly both.1).mpr both.2

end Read

structure Chunk.Described (chunk : Chunk) : Prop where
  int : Wide chunk.header.layout Read.word chunk.header.intWidth
  size : Wide chunk.header.layout Read.size chunk.header.sizeWidth
  instruction : Wide chunk.header.layout Read.instruction chunk.header.instructionWidth
  number : Wide chunk.header.layout Read.number chunk.header.numberWidth

theorem Chunk.described_iff {chunk : Chunk} (known : Read.SizeKnown chunk.header.layout) :
    chunk.Described ↔
      chunk.header.intWidth = 4 ∧ chunk.header.instructionWidth = 4 ∧ chunk.header.numberWidth = 8 := by
  constructor
  · intro described
    have instruction := (Read.wide_instruction known).mp described.instruction
    exact ⟨Read.wide_word.mp described.int, instruction.2, Read.wide_number.mp described.number⟩
  · intro widths
    obtain ⟨int, instruction, number⟩ := widths
    exact ⟨Read.wide_word.mpr int, (Read.wide_size known).mpr rfl,
      (Read.wide_instruction known).mpr ⟨instruction, instruction⟩, Read.wide_number.mpr number⟩

structure Declared (data : Bytes) (chunk : Chunk) (after : Input) : Prop where
  spelled : data = Write.header chunk.header ++ data.drop 18
  sizeKnown : chunk.header.sizeWidth = 4 ∨ chunk.header.sizeWidth = 8
  size : Wide chunk.header.layout Read.size chunk.header.sizeWidth
  instruction : Wide chunk.header.layout Read.instruction chunk.header.instructionWidth ∨
    ∀ each ∈ chunk.main.toList, each.code = []
  described : chunk.Described ↔
    chunk.header.intWidth = 4 ∧ chunk.header.instructionWidth = 4 ∧ chunk.header.numberWidth = 8
  free : ∀ other : Header, other.Spellable → usedFields other.layout = usedFields chunk.header.layout →
    ∃ later, parse (Write.header other ++ data.drop 18) = (.ok { chunk with header := other }, later) ∧
      later.pos = after.pos ∧ later.rest = after.rest

theorem length_header (header : Header) : (Write.header header).length = 18 := by
  simp [Write.header, Bytes.ofByte, signature, tail]

theorem header_run {header : Header} (spellable : header.Spellable) (rest : Bytes) : ∃ left : Input,
    Read.header { rest := Write.header header ++ rest, layout := initialLayout } = (.ok header, left) ∧
      left.layout = header.layout ∧ left.pos = 18 ∧ left.rest = rest := by
  obtain ⟨found, left, read, layout, pos, unread, rfl⟩ := Read.enters_header spellable
    { rest := Write.header header ++ rest, layout := initialLayout } rest rfl rfl
  refine ⟨left, read, layout, ?_, unread⟩
  rw [pos, length_header, Nat.zero_add]

theorem declared_of_parse {data : Bytes} {chunk : Chunk} {after : Input} (ran : parse data = (.ok chunk, after)) :
    Declared data chunk after := by
  obtain ⟨header, between, first, ran⟩ := ok_of_bind ran
  obtain ⟨main, last, second, ran⟩ := ok_of_bind ran
  cases ran
  obtain ⟨span, start, _, spellable, rfl⟩ := Read.yields_header _ header between (Nat.le_refl _) first
  have start : data = Write.header header ++ between.rest := start
  have rest : data.drop 18 = between.rest := by rw [start, List.drop_left' (length_header header)]
  obtain ⟨left, again, layout, pos, _⟩ := header_run spellable between.rest
  rw [← start, first] at again
  cases again
  obtain ⟨_, _, _, _, sizes, codes⟩ := Read.ensuresUnder_prototype between main _ layout second
  refine ⟨rest ▸ start, sizes, (Read.wide_size sizes).mpr rfl, ?_, Chunk.described_iff sizes, ?_⟩
  · cases codes with
    | inl four => exact .inl ((Read.wide_instruction sizes).mpr ⟨four, four⟩)
    | inr none => exact .inr none
  · intro other allowed same
    obtain ⟨left, read, layout', pos', rest'⟩ := header_run allowed between.rest
    obtain ⟨later, done, stop, unread⟩ :=
      Read.usesOnly_prototype.again second (by rw [pos', pos]) rest' (by rw [layout', layout, same])
    refine ⟨later, ?_, stop, unread⟩
    unfold parse Read.chunk
    rw [rest, bind_of_ok read, bind_of_ok done]
    rfl

end LuaBytecode.V52
