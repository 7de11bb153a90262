import LuaBytecode.Proofs.Layout
import LuaBytecode.Proofs.Nesting
import LuaBytecode.V51.Reading
import LuaBytecode.V51.Writing
import Mathlib.Tactic.MkIffOfInductiveProp

namespace LuaBytecode.V51

open Text

def IsConstant (sizeWidth : Nat) : Constant → Prop
  | .nil | .bool _ | .num _ => True
  | .str text => FitsSize sizeWidth text
  | .int _ | .emptyList => False

@[mk_iff]
structure Function.InRange (sizeWidth : Nat) (each : Function) : Prop where
  source : FitsSize sizeWidth each.source
  lineDefined : FitsInt each.lineDefined
  lastLineDefined : FitsInt each.lastLineDefined
  upvalueCount : FitsByte each.upvalueCount
  paramCount : FitsByte each.paramCount
  varargFlag : FitsByte each.varargFlag
  maxStackSize : FitsByte each.maxStackSize
  code : each.code.length < 2 ^ 31 ∧ ∀ instruction ∈ each.code, FitsWord instruction.word.value
  constants : each.constants.length < 2 ^ 31 ∧ ∀ constant ∈ each.constants, IsConstant sizeWidth constant
  lineInfo : each.lineInfo.length < 2 ^ 31 ∧ ∀ line ∈ each.lineInfo, FitsInt line
  locals : each.locals.length < 2 ^ 31 ∧ ∀ entry ∈ each.locals, entry.InRange FitsInt (FitsSize sizeWidth)
  upvalueNames : each.upvalueNames.length < 2 ^ 31 ∧ ∀ name ∈ each.upvalueNames, FitsSize sizeWidth name

instance (sizeWidth : Nat) : (each : Constant) → Decidable (IsConstant sizeWidth each)
  | .nil | .bool _ | .num _ => inferInstanceAs (Decidable True)
  | .str text => inferInstanceAs (Decidable (FitsSize sizeWidth text))
  | .int _ | .emptyList => inferInstanceAs (Decidable False)

instance (sizeWidth : Nat) (each : Function) : Decidable (each.InRange sizeWidth) :=
  decidable_of_iff _ (Function.inRange_iff sizeWidth each).symm

def InRange (sizeWidth : Nat) (tree : Prototype) : Prop :=
  tree.top.InRange sizeWidth ∧ tree.inner.length < 2 ^ 31

instance (sizeWidth : Nat) (tree : Prototype) : Decidable (InRange sizeWidth tree) :=
  inferInstanceAs (Decidable (_ ∧ _))

structure Standard (layout : Layout) : Prop where
  intWidth : layout.intWidth = 4
  sizeWidth : layout.sizeWidth = 4 ∨ layout.sizeWidth = 8
  instructionWidth : layout.instructionWidth = 4
  numberWidth : layout.numberWidth = 8

namespace Read

open Reader

variable {layout : Layout}

theorem consumes_int (standard : Standard layout) {n : Int} (fits : FitsInt n) :
    Consumes layout int (Write.int layout n) (fun found => found = n) := by
  refine consumes_ahead consumes_layout ?_
  rintro _ rfl
  have width : (Write.int layout n).length = layout.intWidth := by
    rw [Write.int, ByteOrder.length_encode, standard.intWidth]
  refine consumes_map (consumes_bounded width) ?_
  rintro _ rfl
  refine consumes_map (consumes_fixed (unsigned_lt 32 n)) ?_
  rintro _ rfl
  exact consumes_pure (signed_unsigned fits.1 fits.2)

theorem consumes_size (standard : Standard layout) {n : Nat} (fits : n < 256 ^ layout.sizeWidth) :
    Consumes layout size (Write.size layout n) (fun found => found = n) := by
  have width : (if layout.sizeWidth = 4 then 4 else 8) = layout.sizeWidth := by
    rcases standard.sizeWidth with four | eight
    · simp [four]
    · simp [eight]
  refine consumes_ahead consumes_layout ?_
  rintro _ rfl
  have exactly : (Write.size layout n).length = if layout.sizeWidth = 4 then 4 else 8 :=
    ByteOrder.length_encode ..
  refine consumes_map (consumes_bounded exactly) ?_
  rintro _ rfl
  apply consumes_fixed
  rwa [width]

theorem consumes_number (standard : Standard layout) (value : Double) :
    Consumes layout number (Write.number layout value) (fun found => found = value) := by
  refine consumes_ahead consumes_layout ?_
  rintro _ rfl
  have width : (Write.number layout value).length = layout.numberWidth := by
    rw [Write.number, ByteOrder.length_encode, standard.numberWidth]
  refine consumes_map (consumes_bounded width) ?_
  rintro _ rfl
  refine consumes_map (consumes_fixed value.bits.toNat_lt) ?_
  rintro _ rfl
  apply consumes_pure
  rw [UInt64.ofNat_toNat]

theorem consumes_string (standard : Standard layout) {text : String} (fits : FitsSize layout.sizeWidth text) :
    Consumes layout string (Write.string layout text) (fun found => found = text) := by
  rw [Write.string, List.append_assoc]
  refine consumes_bind (consumes_size standard fits) ?_
  rintro _ rfl
  rw [if_neg (Nat.succ_ne_zero _)]
  refine consumes_map (consumes_bounded (by simp)) ?_
  rintro _ rfl
  apply consumes_pure
  rw [List.dropLast_concat, Utf8.decodeReplacing_encode]

theorem consumes_instruction (standard : Standard layout) {each : Instruction}
    (fits : FitsWord each.word.value) :
    Consumes layout instruction (Write.instruction layout each.word) (fun found => found = each) := by
  refine consumes_ahead consumes_layout ?_
  rintro _ rfl
  have width : (Write.instruction layout each.word).length = layout.instructionWidth := by
    rw [Write.instruction, ByteOrder.length_encode, standard.instructionWidth]
  refine consumes_map (consumes_bounded width) ?_
  rintro _ rfl
  refine consumes_map (consumes_fixed (unsigned_lt 32 _)) ?_
  rintro _ rfl
  apply consumes_ofExcept
  rw [unsigned_of_fitsWord fits]
  exact Instruction.decode_word each

theorem consumes_constant (standard : Standard layout) {each : Constant}
    (fits : IsConstant layout.sizeWidth each) :
    Consumes layout constant (Write.constant layout each) (fun found => found = each) := by
  cases each with
  | nil =>
    refine consumes_map (consumes_oneByte _ 0) ?_
    rintro _ rfl
    exact consumes_pure rfl
  | bool value =>
    refine consumes_bind (consumes_oneByte _ 1) ?_
    rintro _ rfl
    refine consumes_map (consumes_oneByte _ _) ?_
    rintro _ rfl
    apply consumes_pure
    cases value <;> rfl
  | num value =>
    refine consumes_bind (consumes_oneByte _ 3) ?_
    rintro _ rfl
    refine consumes_map (consumes_number standard value) ?_
    rintro _ rfl
    exact consumes_pure rfl
  | str text =>
    refine consumes_bind (consumes_oneByte _ 4) ?_
    rintro _ rfl
    refine consumes_map (consumes_string standard fits) ?_
    rintro _ rfl
    exact consumes_pure rfl
  | int value => cases fits
  | emptyList => cases fits

-- A count below zero stands for no items.
theorem consumes_countedAs (standard : Standard layout) {α β γ : Type} {reader : Reader α} {view : α → γ} {value : β → γ}
    {write : β → Bytes} {count : Int} (items : List β) (fits : FitsInt count) (many : items.length = count.toNat)
    (each : ∀ item ∈ items, Consumes layout reader (write item) (fun found => view found = value item)) :
    Consumes layout (counted reader) (Write.countedAs layout count write items)
      (fun found => found.map view = items.map value) := by
  refine consumes_bind (consumes_int standard fits) ?_
  rintro _ rfl
  rw [timesInt, ← many]
  exact consumes_times items each

theorem consumes_counted (standard : Standard layout) {α : Type} {reader : Reader α} {write : α → Bytes}
    (items : List α) (few : items.length < 2 ^ 31)
    (each : ∀ item ∈ items, Consumes layout reader (write item) (fun found => found = item)) :
    Consumes layout (counted reader) (Write.counted layout write items) (fun found => found = items) := by
  have count : FitsInt items.length := by
    unfold FitsInt
    omega
  have known := @consumes_countedAs _ standard α α α reader id id write _ items count rfl each
  simpa [Write.counted] using known

theorem consumes_localVariable (standard : Standard layout) {each : Local}
    (range : each.InRange FitsInt (FitsSize layout.sizeWidth)) :
    Consumes layout localVariable (Write.localVariable layout each) (fun found => found = each) := by
  obtain ⟨name, startPc, endPc⟩ := range
  rw [Write.localVariable, List.append_assoc]
  refine consumes_bind (consumes_string standard name) ?_
  rintro _ rfl
  refine consumes_bind (consumes_int standard startPc) ?_
  rintro _ rfl
  refine consumes_map (consumes_int standard endPc) ?_
  rintro _ rfl
  exact consumes_pure rfl

theorem prototype_node (function : Function) (inner : List Prototype) :
    Write.prototype layout (.node function inner) =
      Write.front layout function ++ (Write.counted layout (Write.prototype layout) inner ++
        Write.debug layout function) :=
  Tree.spell_node ..

theorem consumes_function (standard : Standard layout) (depth : Nat) (function : Function) (inner : List Prototype)
    (range : InRange layout.sizeWidth (.node function inner))
    (within : ∀ tree ∈ inner,
      Consumes layout (prototypeWithin depth) (Write.prototype layout tree) (fun found => found = tree)) :
    Consumes layout (prototypeWithin (depth + 1)) (Write.prototype layout (.node function inner))
      (fun found => found = .node function inner) := by
  obtain ⟨own, few⟩ := range
  rw [prototype_node, Write.front, Write.debug]
  simp only [List.append_assoc]
  refine consumes_bind (consumes_string standard own.source) ?_
  rintro _ rfl
  refine consumes_bind (consumes_int standard own.lineDefined) ?_
  rintro _ rfl
  refine consumes_bind (consumes_int standard own.lastLineDefined) ?_
  rintro _ rfl
  refine consumes_bind (consumes_ofByte _ own.upvalueCount) ?_
  intro upvalueCount upvalues
  refine consumes_bind (consumes_ofByte _ own.paramCount) ?_
  intro paramCount params
  refine consumes_bind (consumes_ofByte _ own.varargFlag) ?_
  intro varargFlag vararg
  refine consumes_bind (consumes_ofByte _ own.maxStackSize) ?_
  intro maxStackSize stack
  refine consumes_bind (consumes_counted standard function.code own.code.1 fun each member =>
    consumes_instruction standard (own.code.2 each member)) ?_
  rintro _ rfl
  refine consumes_bind (consumes_counted standard function.constants own.constants.1 fun each member =>
    consumes_constant standard (own.constants.2 each member)) ?_
  rintro _ rfl
  refine consumes_bind (consumes_counted standard inner few within) ?_
  rintro _ rfl
  refine consumes_bind (consumes_counted standard function.lineInfo own.lineInfo.1 fun each member =>
    consumes_int standard (own.lineInfo.2 each member)) ?_
  rintro _ rfl
  refine consumes_bind (consumes_counted standard function.locals own.locals.1 fun each member =>
    consumes_localVariable standard (own.locals.2 each member)) ?_
  rintro _ rfl
  refine consumes_map (consumes_counted standard function.upvalueNames own.upvalueNames.1 fun each member =>
    consumes_string standard (own.upvalueNames.2 each member)) ?_
  rintro _ rfl
  apply consumes_pure
  rw [upvalues, params, vararg, stack]

theorem consumes_prototype (standard : Standard layout) (tree : Prototype)
    (range : ∀ each ∈ tree.subtrees, InRange layout.sizeWidth each) :
    Consumes layout prototype (Write.prototype layout tree) (fun found => found = tree) := by
  have counted : ∀ n : Nat, 0 < (Write.int layout n).length := by
    intro n
    rw [Write.int, ByteOrder.length_encode]
    decide
  exact Tree.consumes_spell counted tree range (consumes_function standard)

end Read

structure Header.Standard (header : Header) : Prop where
  signature : header.signature = V51.signature
  version : header.version = 0x51
  format : header.format = 0
  orderFlag : header.orderFlag = 1 ∨ header.orderFlag = 0
  intWidth : header.intWidth = 4
  sizeWidth : header.sizeWidth = 4 ∨ header.sizeWidth = 8
  instructionWidth : header.instructionWidth = 4
  numberWidth : header.numberWidth = 8
  integralFlag : header.integralFlag < 256

theorem Header.Standard.layout {header : Header} (standard : header.Standard) : V51.Standard header.layout :=
  ⟨standard.intWidth, standard.sizeWidth, standard.instructionWidth, standard.numberWidth⟩

namespace Read

open Reader

theorem enters_header {each : Header} (standard : each.Standard) :
    Enters {} each.layout header (Write.header each) (fun found => found = each) := by
  obtain ⟨signature, version, format, orderFlag, intWidth, sizeWidth, instructionWidth, numberWidth, integralFlag⟩ :=
    standard
  have four : each.signature.length = 4 := by
    rw [signature]
    rfl
  simp only [Write.header, List.append_assoc]
  refine enters_bind (enters_of_consumes (consumes_bounded four)) ?_
  rintro _ rfl
  refine enters_ahead (consumes_require (decide_eq_true signature)) fun _ _ => ?_
  refine enters_bind (enters_of_consumes (consumes_ofByteNat _ (by omega))) ?_
  rintro _ rfl
  refine enters_ahead (consumes_require (decide_eq_true version)) fun _ _ => ?_
  refine enters_bind (enters_of_consumes (consumes_ofByteNat _ (by omega))) ?_
  rintro _ rfl
  refine enters_ahead (consumes_require (decide_eq_true format)) fun _ _ => ?_
  refine enters_bind (enters_of_consumes (consumes_ofByteNat _ (by omega))) ?_
  rintro _ rfl
  refine enters_change ?_
  refine enters_bind (enters_of_consumes (consumes_ofByteNat _ (by omega))) ?_
  rintro _ rfl
  refine enters_change ?_
  refine enters_bind (enters_of_consumes (consumes_ofByteNat _ (by omega))) ?_
  rintro _ rfl
  refine enters_change ?_
  refine enters_bind (enters_of_consumes (consumes_ofByteNat _ (by omega))) ?_
  rintro _ rfl
  refine enters_change ?_
  refine enters_bind (enters_of_consumes (consumes_ofByteNat _ (by omega))) ?_
  rintro _ rfl
  refine enters_change ?_
  refine enters_of_consumes (consumes_map (consumes_ofByteNat _ integralFlag) ?_)
  rintro _ rfl
  exact consumes_pure rfl

theorem enters_chunk {each : Chunk} (standard : each.header.Standard)
    (range : ∀ tree ∈ each.main.subtrees, InRange each.header.sizeWidth tree) :
    Enters {} each.header.layout chunk (write each) (fun found => found = each) := by
  refine enters_bind (enters_header standard) ?_
  rintro _ rfl
  apply enters_of_consumes
  refine consumes_map (consumes_prototype standard.layout each.main range) ?_
  rintro _ rfl
  exact consumes_pure rfl

end Read

theorem parse_write_any_layout (chunk : Chunk) (suffix : Bytes) (standard : chunk.header.Standard)
    (range : ∀ tree ∈ chunk.main.subtrees, InRange chunk.header.sizeWidth tree) :
    ∃ after, parse (write chunk ++ suffix) = (.ok chunk, after) ∧
      after.pos = (write chunk).length ∧ after.rest = suffix := by
  obtain ⟨_, after, ran, _, stopped, left, rfl⟩ := Read.enters_chunk standard range { rest := _ } suffix rfl rfl
  refine ⟨after, ran, ?_, left⟩
  rw [stopped, Nat.zero_add]

-- Words of the first and the last opcode, and a constant of every kind, around another function.
def nestedChunk : Chunk where
  header :=
    { signature := signature, version := 0x51, format := 0, orderFlag := 0, intWidth := 4, sizeWidth := 8,
      instructionWidth := 4, numberWidth := 8, integralFlag := 255 }
  main := .node
    { source := "@é", lineDefined := -2 ^ 31, lastLineDefined := 2 ^ 31 - 1, upvalueCount := 255, maxStackSize := 2,
      code := [⟨⟨0⟩, .move, by decide⟩, ⟨⟨2 ^ 32 - 64 + 37⟩, .vararg, by decide⟩],
      constants := [.nil, .bool false, .bool true, .num ⟨0x7FF8000000000001⟩, .str "", .str "a\x00"],
      lineInfo := [-1, 7], locals := [{ name := "x", startPc := 0, endPc := -1 }], upvalueNames := ["", "_ENV"] }
    [.node { source := "inner" } []]

theorem parse_write_nestedChunk :
    ∃ after, parse (write nestedChunk ++ [0x1B]) = (.ok nestedChunk, after) ∧
      after.pos = (write nestedChunk).length ∧ after.rest = [0x1B] :=
  parse_write_any_layout nestedChunk [0x1B]
    ⟨rfl, rfl, rfl, .inr rfl, rfl, .inr rfl, rfl, rfl, by decide⟩ (by decide)

end LuaBytecode.V51
