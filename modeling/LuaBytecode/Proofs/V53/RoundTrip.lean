import LuaBytecode.Proofs.Layout
import LuaBytecode.Proofs.Nesting
import LuaBytecode.V53.Reading
import LuaBytecode.V53.Writing
import Mathlib.Tactic.MkIffOfInductiveProp

namespace LuaBytecode.V53

open Text

def FitsLong (n : Int) : Prop := -2 ^ 63 ≤ n ∧ n < 2 ^ 63
deriving Decidable

def IsConstant : Constant → Prop
  | .nil | .bool _ | .num _ => True
  | .int value => FitsLong value
  | .str text => FitsSize 8 text
  | .emptyList => False

@[mk_iff]
structure Function.InRange (each : Function) : Prop where
  source : FitsSize 8 each.source
  lineDefined : FitsInt each.lineDefined
  lastLineDefined : FitsInt each.lastLineDefined
  paramCount : FitsByte each.paramCount
  varargFlag : FitsByte each.varargFlag
  maxStackSize : FitsByte each.maxStackSize
  code : each.code.length < 2 ^ 31 ∧ ∀ instruction ∈ each.code, FitsWord instruction.word.value
  constants : each.constants.length < 2 ^ 31 ∧ ∀ constant ∈ each.constants, IsConstant constant
  upvalues : each.upvalues.length < 2 ^ 31 ∧
    ∀ upvalue ∈ each.upvalues, FitsByte upvalue.inStack ∧ FitsByte upvalue.index
  lineInfo : each.lineInfo.length < 2 ^ 31 ∧ ∀ line ∈ each.lineInfo, FitsInt line
  locals : each.locals.length < 2 ^ 31 ∧ ∀ entry ∈ each.locals, entry.InRange FitsInt (FitsSize 8)
  upvalueNames : each.upvalueNames.length < 2 ^ 31 ∧ ∀ name ∈ each.upvalueNames, FitsSize 8 name
  named : NamedBy each.upvalueNames each.upvalues

instance : (each : Constant) → Decidable (IsConstant each)
  | .nil | .bool _ | .num _ => inferInstanceAs (Decidable True)
  | .int value => inferInstanceAs (Decidable (FitsLong value))
  | .str text => inferInstanceAs (Decidable (FitsSize 8 text))
  | .emptyList => inferInstanceAs (Decidable False)

instance (each : Function) : Decidable each.InRange :=
  decidable_of_iff _ (Function.inRange_iff each).symm

def InRange (tree : Prototype) : Prop := tree.top.InRange ∧ tree.inner.length < 2 ^ 31

instance (tree : Prototype) : Decidable (InRange tree) := inferInstanceAs (Decidable (_ ∧ _))

namespace Read

open Reader

-- No header of this version changes the layout that reading begins with.
theorem consumes_fixedWidth {width n : Nat} (fits : n < 256 ^ width) :
    Consumes {} (fixedWidth width) (Bytes.ofNat width n) (fun found => found = n) := by
  have taken := @consumes_bounded {} width (Bytes.ofNat width n) (Bytes.length_ofNat width n)
  refine consumes_map taken ?_
  intro _ same
  subst same
  refine consumes_ahead consumes_layout ?_
  intro _ same
  subst same
  exact @consumes_fixed {} .little width n fits

theorem consumes_int {n : Int} (fits : FitsInt n) :
    Consumes {} int (Write.int n) (fun found => found = n) := by
  refine consumes_map (consumes_fixedWidth (unsigned_lt 32 n)) ?_
  intro _ same
  subst same
  exact consumes_pure (signed_unsigned fits.1 fits.2)

theorem consumes_integer {n : Int} (fits : FitsLong n) :
    Consumes {} integer (Bytes.ofNat 8 (unsigned 64 n)) (fun found => found = n) := by
  refine consumes_map (consumes_fixedWidth (unsigned_lt 64 n)) ?_
  intro _ same
  subst same
  exact consumes_pure (signed_unsigned fits.1 fits.2)

theorem consumes_number (value : Double) :
    Consumes {} number (Write.number value) (fun found => found = value) := by
  refine consumes_map (consumes_fixedWidth value.bits.toNat_lt) ?_
  intro _ same
  subst same
  apply consumes_pure
  rw [UInt64.ofNat_toNat]

theorem consumes_string {text : String} (fits : FitsSize 8 text) :
    Consumes {} string (Write.string text) (fun found => found = text) := by
  have content : Consumes {}
      (if (Utf8.encode text).length + 1 = 0 then pure ""
      else do
        let taken ← bounded ((Utf8.encode text).length + 1 - 1)
        pure (Utf8.decodeReplacing taken))
      (Utf8.encode text) (fun found => found = text) := by
    rw [if_neg (Nat.succ_ne_zero _)]
    refine consumes_map (consumes_bounded (by simp)) ?_
    intro _ same
    subst same
    exact consumes_pure (Utf8.decodeReplacing_encode text)
  rw [Write.string, Write.size]
  by_cases short : (Utf8.encode text).length + 1 < 255
  · have byte : (UInt8.ofNat ((Utf8.encode text).length + 1)).toNat = (Utf8.encode text).length + 1 :=
      UInt8.toNat_ofNat_of_lt' (Nat.lt_trans short (by decide))
    rw [if_pos short]
    refine consumes_bind (consumes_oneByte _ _) ?_
    intro size same
    rw [byte] at same
    subst same
    rw [if_neg (by omega)]
    exact content
  · rw [if_neg short, List.cons_append]
    refine consumes_bind (consumes_oneByte _ 255) ?_
    intro mark same
    subst same
    rw [if_pos (by decide)]
    refine consumes_bind (consumes_fixedWidth fits) ?_
    intro _ same
    subst same
    exact content

theorem consumes_instruction {each : Instruction} (fits : FitsWord each.word.value) :
    Consumes {} instruction (Write.int each.word.value) (fun found => found = each) := by
  refine consumes_map (consumes_fixedWidth (unsigned_lt 32 each.word.value)) ?_
  intro n same
  apply consumes_ofExcept
  rw [same, unsigned_of_fitsWord fits]
  exact Instruction.decode_word each

theorem consumes_constant (isLong : Bool) {each : Constant} (known : IsConstant each) :
    Consumes {} constant (Write.constant isLong each) (fun found => found = each) := by
  cases each with
  | nil =>
    refine consumes_map (consumes_oneByte _ 0) ?_
    intro _ same
    subst same
    exact consumes_pure rfl
  | bool value =>
    refine consumes_bind (consumes_oneByte _ 1) ?_
    intro _ same
    subst same
    refine consumes_map (consumes_oneByte _ _) ?_
    intro _ same
    subst same
    apply consumes_pure
    cases value <;> rfl
  | num value =>
    refine consumes_bind (consumes_oneByte _ 3) ?_
    intro _ same
    subst same
    refine consumes_map (consumes_number value) ?_
    intro _ same
    subst same
    exact consumes_pure rfl
  | int value =>
    refine consumes_bind (consumes_oneByte _ 19) ?_
    intro _ same
    subst same
    refine consumes_map (consumes_integer known) ?_
    intro _ same
    subst same
    exact consumes_pure rfl
  | str text =>
    -- Both tags lead to the same reader.
    refine consumes_bind (consumes_oneByte _ (if isLong then 20 else 4)) ?_
    intro _ same
    subst same
    have content := consumes_string known
    cases isLong with
    | false =>
      refine consumes_map content ?_
      intro _ same
      subst same
      exact consumes_pure rfl
    | true =>
      refine consumes_map content ?_
      intro _ same
      subst same
      exact consumes_pure rfl
  | emptyList => exact known.elim

theorem consumes_countedAs {α β γ : Type} {reader : Reader α} {view : α → γ} {value : β → γ} {write : β → Bytes}
    {count : Int} (items : List β) (fits : FitsInt count) (many : items.length = count.toNat)
    (each : ∀ item ∈ items, Consumes {} reader (write item) (fun found => view found = value item)) :
    Consumes {} (counted reader) (Write.countedAs count write items)
      (fun found => found.map view = items.map value) := by
  refine consumes_bind (consumes_int fits) ?_
  intro _ same
  subst same
  rw [timesInt, ← many]
  exact consumes_times items each

theorem consumes_counted {α β : Type} {reader : Reader α} {value : β → α} {write : β → Bytes}
    (items : List β) (few : items.length < 2 ^ 31)
    (each : ∀ item ∈ items, Consumes {} reader (write item) (fun found => found = value item)) :
    Consumes {} (counted reader) (Write.counted write items) (fun found => found = items.map value) := by
  have count : FitsInt items.length := by
    unfold FitsInt
    omega
  have known := @consumes_countedAs α β α reader id value write _ items count rfl each
  simpa [Write.counted] using known

theorem consumes_counted_same {α : Type} {reader : Reader α} {write : α → Bytes}
    (items : List α) (few : items.length < 2 ^ 31)
    (each : ∀ item ∈ items, Consumes {} reader (write item) (fun found => found = item)) :
    Consumes {} (counted reader) (Write.counted write items) (fun found => found = items) := by
  have known := consumes_counted items few each
  rwa [List.map_id'] at known

theorem consumes_constants (isLong : Nat → Bool) {items : List Constant} (few : items.length < 2 ^ 31)
    (known : ∀ constant ∈ items, IsConstant constant) :
    Consumes {} (counted constant) (Write.constants isLong items) (fun found => found = items) := by
  have placed : items.zipIdx.length < 2 ^ 31 := by rwa [List.length_zipIdx]
  have read := consumes_counted items.zipIdx placed fun item member =>
    consumes_constant (isLong item.2) (known item.1 (List.fst_mem_of_mem_zipIdx member))
  rwa [List.zipIdx_map_fst] at read

theorem consumes_upvalue {each : Upvalue} (fits : FitsByte each.inStack ∧ FitsByte each.index) :
    Consumes {} upvalue (Write.upvalue each) (fun found => found = { each with name := "" }) := by
  refine consumes_bind (consumes_ofByte _ fits.1) ?_
  intro inStack first
  refine consumes_map (consumes_ofByte _ fits.2) ?_
  intro index second
  apply consumes_pure
  rw [first, second]

theorem consumes_localVariable {each : Local} (range : each.InRange FitsInt (FitsSize 8)) :
    Consumes {} localVariable (Write.localVariable each) (fun found => found = each) := by
  obtain ⟨name, startPc, endPc⟩ := range
  rw [Write.localVariable, List.append_assoc]
  refine consumes_bind (consumes_string name) ?_
  intro _ same
  subst same
  refine consumes_bind (consumes_int startPc) ?_
  intro _ first
  subst first
  refine consumes_map (consumes_int endPc) ?_
  intro _ second
  subst second
  exact consumes_pure rfl

theorem prototype_node (each : Marked) (inner : List (Tree Marked)) :
    Write.prototype (.node each inner) =
      Write.front each ++ (Write.counted Write.prototype inner ++ Write.debug each) :=
  Tree.spell_node ..

theorem consumes_function (depth : Nat) (each : Marked) (inner : List (Tree Marked))
    (range : InRange (Tree.map Marked.function (.node each inner)))
    (within : ∀ tree ∈ inner, Consumes {} (prototypeWithin depth) (Write.prototype tree)
      (fun found => found = tree.map Marked.function)) :
    Consumes {} (prototypeWithin (depth + 1)) (Write.prototype (.node each inner))
      (fun found => found = Tree.map Marked.function (.node each inner)) := by
  obtain ⟨own, few⟩ := range
  change each.function.InRange at own
  change (Tree.mapForest Marked.function inner).length < 2 ^ 31 at few
  rw [Tree.length_mapForest] at few
  rw [prototype_node, Write.front, Write.debug]
  simp only [List.append_assoc]
  refine consumes_bind (consumes_string own.source) ?_
  intro source same
  refine consumes_bind (consumes_int own.lineDefined) ?_
  intro lineDefined first
  refine consumes_bind (consumes_int own.lastLineDefined) ?_
  intro lastLineDefined last
  refine consumes_bind (consumes_ofByte _ own.paramCount) ?_
  intro paramCount params
  refine consumes_bind (consumes_ofByte _ own.varargFlag) ?_
  intro varargFlag vararg
  refine consumes_bind (consumes_ofByte _ own.maxStackSize) ?_
  intro maxStackSize stack
  refine consumes_bind (consumes_counted_same each.function.code own.code.1 fun instruction member =>
    consumes_instruction (own.code.2 instruction member)) ?_
  intro code instructions
  refine consumes_bind (consumes_constants each.isLong own.constants.1 own.constants.2) ?_
  intro constants values
  refine consumes_bind (consumes_counted each.function.upvalues own.upvalues.1 fun upvalue member =>
    consumes_upvalue (own.upvalues.2 upvalue member)) ?_
  intro upvalues unnamed
  refine consumes_bind (consumes_counted inner few within) ?_
  intro forest functions
  refine consumes_bind (consumes_counted_same each.function.lineInfo own.lineInfo.1 fun line member =>
    consumes_int (own.lineInfo.2 line member)) ?_
  intro lineInfo lines
  refine consumes_bind (consumes_counted_same each.function.locals own.locals.1 fun entry member =>
    consumes_localVariable (own.locals.2 entry member)) ?_
  intro locals entries
  refine consumes_map (consumes_counted_same each.function.upvalueNames own.upvalueNames.1 fun name member =>
    consumes_string (own.upvalueNames.2 name member)) ?_
  intro upvalueNames names
  apply consumes_pure
  rw [same, first, last, params, vararg, stack, instructions, values, unnamed, functions, lines, entries, names,
    nameUpvalues_of_named own.named, Tree.map, Tree.mapForest_eq]

theorem consumes_prototype (tree : Tree Marked)
    (range : ∀ each ∈ (tree.map Marked.function).subtrees, InRange each) :
    Consumes {} prototype (Write.prototype tree) (fun found => found = tree.map Marked.function) := by
  have counted : ∀ n : Nat, 0 < (Write.int n).length := by
    intro n
    rw [Write.int, Bytes.length_ofNat]
    decide
  have every : ∀ each ∈ tree.subtrees, InRange (each.map Marked.function) := by
    intro each member
    apply range
    rw [Tree.subtrees_map]
    exact List.mem_map_of_mem member
  exact Tree.consumes_spell counted tree every consumes_function

theorem consumes_sayLine {text : String} : Consumes {} (sayLine text) [] (fun _ => True) :=
  consumes_say _

end Read

structure Header.Spellable (header : Header) : Prop where
  checked : header = { standardHeader header.upvalueCount with
    intWidth := header.intWidth
    sizeWidth := header.sizeWidth
    instructionWidth := header.instructionWidth
    integerWidth := header.integerWidth
    numberWidth := header.numberWidth }
  intWidth : header.intWidth < 256
  sizeWidth : header.sizeWidth < 256
  instructionWidth : header.instructionWidth < 256
  integerWidth : header.integerWidth < 256
  numberWidth : header.numberWidth < 256
  upvalueCount : header.upvalueCount < 256

def Header.spelled (header : Header) : Bytes :=
  V53.signature ++ ([0x53] ++ ([0] ++ (V53.data ++ (Bytes.ofByte header.intWidth ++ (Bytes.ofByte header.sizeWidth ++
    (Bytes.ofByte header.instructionWidth ++ (Bytes.ofByte header.integerWidth ++ (Bytes.ofByte header.numberWidth ++
      (Bytes.ofNat 8 V53.testInteger.toNat ++ (Write.number V53.testNumber ++ Bytes.ofByte header.upvalueCount))))))))))

theorem spellable_standardHeader {upvalueCount : Nat} (small : upvalueCount < 256) :
    (standardHeader upvalueCount).Spellable :=
  ⟨rfl, (by decide : 4 < 256), (by decide : 8 < 256), (by decide : 4 < 256), (by decide : 8 < 256),
    (by decide : 8 < 256), small⟩

namespace Read

open Reader

theorem consumes_spelledHeader {each : Header} (spellable : each.Spellable) :
    Consumes {} header each.spelled (fun found => found = each) := by
  have mark : Consumes {} (bounded 4) signature (fun taken => taken = signature) := consumes_bounded rfl
  have check : Consumes {} (bounded 6) data (fun taken => taken = data) := consumes_bounded rfl
  have integers : FitsLong testInteger := by decide
  obtain ⟨checked, intWidth, sizeWidth, instructionWidth, integerWidth, numberWidth, upvalueCount⟩ := spellable
  refine consumes_ahead consumes_sayLine fun _ _ => ?_
  refine consumes_ahead consumes_sayLine fun _ _ => ?_
  refine consumes_ahead consumes_sayLine fun _ _ => ?_
  refine consumes_bind mark ?_
  intro _ same
  subst same
  refine consumes_ahead consumes_sayLine fun _ _ => ?_
  refine consumes_ahead (consumes_require (decide_eq_true rfl)) fun _ _ => ?_
  refine consumes_bind (consumes_oneByte _ 0x53) ?_
  intro _ same
  subst same
  refine consumes_ahead consumes_sayLine fun _ _ => ?_
  refine consumes_ahead (consumes_require (decide_eq_true rfl)) fun _ _ => ?_
  refine consumes_bind (consumes_oneByte _ 0) ?_
  intro _ same
  subst same
  refine consumes_ahead consumes_sayLine fun _ _ => ?_
  refine consumes_ahead (consumes_require (decide_eq_true rfl)) fun _ _ => ?_
  refine consumes_bind check ?_
  intro _ same
  subst same
  refine consumes_ahead consumes_sayLine fun _ _ => ?_
  refine consumes_ahead (consumes_require (decide_eq_true rfl)) fun _ _ => ?_
  refine consumes_bind (consumes_ofByteNat _ intWidth) ?_
  intro _ same
  subst same
  refine consumes_bind (consumes_ofByteNat _ sizeWidth) ?_
  intro _ same
  subst same
  refine consumes_bind (consumes_ofByteNat _ instructionWidth) ?_
  intro _ same
  subst same
  refine consumes_bind (consumes_ofByteNat _ integerWidth) ?_
  intro _ same
  subst same
  refine consumes_bind (consumes_ofByteNat _ numberWidth) ?_
  intro _ same
  subst same
  refine consumes_ahead consumes_sayLine fun _ _ => ?_
  refine consumes_ahead consumes_sayLine fun _ _ => ?_
  refine consumes_ahead consumes_sayLine fun _ _ => ?_
  refine consumes_ahead consumes_sayLine fun _ _ => ?_
  refine consumes_ahead consumes_sayLine fun _ _ => ?_
  refine consumes_bind (consumes_integer integers) ?_
  intro _ same
  subst same
  refine consumes_bind (consumes_number testNumber) ?_
  intro _ same
  subst same
  refine consumes_ahead consumes_sayLine fun _ _ => ?_
  refine consumes_ahead consumes_sayLine fun _ _ => ?_
  refine consumes_ahead (consumes_require (decide_eq_true rfl)) fun _ _ => ?_
  refine consumes_ahead (consumes_require (decide_eq_true rfl)) fun _ _ => ?_
  refine consumes_map (consumes_ofByteNat _ upvalueCount) ?_
  intro _ same
  subst same
  refine consumes_ahead consumes_sayLine fun _ _ => ?_
  refine consumes_ahead consumes_sayLine fun _ _ => ?_
  refine consumes_ahead consumes_sayLine fun _ _ => ?_
  exact consumes_pure checked.symm

theorem consumes_header {upvalueCount : Nat} (small : upvalueCount < 256) :
    Consumes {} header (Write.header upvalueCount) (fun found => found = standardHeader upvalueCount) :=
  consumes_spelledHeader (spellable_standardHeader small)

end Read

theorem parse_write_any_marks (upvalueCount : Nat) (marked : Tree Marked) (suffix : Bytes)
    (small : upvalueCount < 256)
    (range : ∀ tree ∈ (marked.map Marked.function).subtrees, InRange tree) :
    ∃ after,
      parse (write upvalueCount marked ++ suffix) =
        (.ok { header := standardHeader upvalueCount, main := marked.map Marked.function }, after) ∧
      after.pos = (write upvalueCount marked).length ∧ after.rest = suffix := by
  have whole : Reader.Consumes {} Read.chunk (write upvalueCount marked)
      (fun found => found = { header := standardHeader upvalueCount, main := marked.map Marked.function }) := by
    refine Reader.consumes_bind (Read.consumes_header small) ?_
    intro _ same
    subst same
    refine Reader.consumes_map (Read.consumes_prototype marked range) ?_
    intro _ same
    subst same
    exact Reader.consumes_pure rfl
  obtain ⟨found, after, ran, _, stopped, left, same⟩ := whole { rest := _ } suffix rfl rfl
  subst same
  refine ⟨after, ran, ?_, left⟩
  rw [stopped, Nat.zero_add]

def repeated (count : Nat) (c : Char) : String := String.ofList (List.replicate count c)

theorem fitsSize_repeated {count : Nat} (c : Char) (few : count < 2 ^ 61) : FitsSize 8 (repeated count c) := by
  have char := Utf8.length_encodeChar_le c
  have spelled : (Utf8.encode (repeated count c)).length = count * (Utf8.encodeChar c).length := by
    simp [Utf8.encode, repeated, List.length_flatMap]
  have bound : count * (Utf8.encodeChar c).length ≤ count * 4 := Nat.mul_le_mul_left count char
  unfold FitsSize
  omega

-- Strings on both sides of the longest that one byte can size, one text under both marks, the
-- integers at both ends of their range, and more upvalues than names.
def boundaryFunction : Function where
  source := repeated 253 'a'
  lineDefined := -2 ^ 31
  maxStackSize := 255
  code := [⟨⟨0⟩, .move, by decide⟩, ⟨⟨2 ^ 32 - 64 + 46⟩, .extraArg, by decide⟩]
  constants := [.nil, .bool true, .num ⟨0x7FF0000000000000⟩, .int (-2 ^ 63), .int (2 ^ 63 - 1), .str "é", .str "é",
    .str (repeated 254 'b')]
  upvalues := [{ inStack := 1, index := 0, name := "_ENV" }, { inStack := 0, index := 255 }]
  lineInfo := [1, 2 ^ 31 - 1]
  locals := [{ name := repeated 255 'c', startPc := 0, endPc := -1 }]
  upvalueNames := ["_ENV"]

theorem boundaryFunction_inRange : boundaryFunction.InRange where
  source := fitsSize_repeated 'a' (by decide)
  lineDefined := by decide
  lastLineDefined := by decide
  paramCount := by decide
  varargFlag := by decide
  maxStackSize := by decide
  code := by decide
  constants := by
    refine ⟨by decide, ?_⟩
    simp only [boundaryFunction, List.forall_mem_cons]
    exact ⟨trivial, trivial, trivial, by decide, by decide, by decide, by decide,
      fitsSize_repeated 'b' (by decide), nofun⟩
  upvalues := by decide
  lineInfo := by decide
  locals := by
    refine ⟨by decide, ?_⟩
    simp only [boundaryFunction, List.forall_mem_cons]
    exact ⟨⟨fitsSize_repeated 'c' (by decide), by decide, by decide⟩, nofun⟩
  upvalueNames := by decide
  named := by decide

def nestedMarked : Tree Marked :=
  .node { function := boundaryFunction, isLong := fun place => place = 6 }
    [.node { function := { upvalueNames := ["lost"] }, isLong := fun _ => false } []]

theorem nestedMarked_inRange : ∀ tree ∈ (nestedMarked.map Marked.function).subtrees, InRange tree := by
  intro tree member
  rcases List.mem_cons.mp member with outer | inner
  · subst outer
    exact ⟨boundaryFunction_inRange, by decide⟩
  · obtain rfl := List.mem_singleton.mp inner
    decide

theorem parse_write_nestedMarked :
    ∃ after,
      parse (write 2 nestedMarked ++ [0]) =
        (.ok { header := standardHeader 2, main := nestedMarked.map Marked.function }, after) ∧
      after.pos = (write 2 nestedMarked).length ∧ after.rest = [0] :=
  parse_write_any_marks 2 nestedMarked [0] (by decide) nestedMarked_inRange

end LuaBytecode.V53
