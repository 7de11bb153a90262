import LuaBytecode.Proofs.Sample.Shape
import LuaBytecode.Proofs.V51.RoundTrip
import LuaBytecode.Proofs.V52.RoundTrip
import LuaBytecode.Proofs.V53.RoundTrip
import LuaBytecode.Sample.V51
import LuaBytecode.Sample.V52
import LuaBytecode.Sample.V53

namespace LuaBytecode.Sample

open Reader

namespace V51

open LuaBytecode.V51

def fields (index : Nat) : Fields := ⟨index % 38, index % 256, 5 * index % 512, 3 * index % 512⟩

def code (function : Function) : List Fields := function.code.map (Instruction.fields Opcode.number)

variable {layout : Layout}

theorem consumes_instruction (standard : Standard layout) (index : Nat) :
    Consumes layout Read.instruction (instruction layout index)
      (fun found => found.fields Opcode.number = fields index) := by
  have known : ∀ n < 38, (Opcode.ofNumber? n).map Opcode.number = some n := by decide
  have opcode : index % 38 < 38 := Nat.mod_lt _ (by decide)
  exact @consumes_planned_instruction _ _ _ _ _ (Write.instruction layout)
    (fun each fits => @Read.consumes_instruction layout standard each fits) _ _ (Nat.lt_trans opcode (by decide))
    (Nat.mod_lt _ (by decide)) (known _ opcode) index

theorem planned_function (standard : Standard layout) {source : String} (named : FitsSize layout.sizeWidth source) :
    Planned layout FitsInt Read.prototypeWithin code fields
      (fun length innerCount inner => function layout length innerCount source inner) where
  some length innerCount inner := by
    simp only [function, List.length_append, List.length_cons]
    omega
  read depth {length innerCount inner shape} fits few many within := by
    have texts : (∀ each ∈ constants, IsConstant layout.sizeWidth each) ∧ FitsSize layout.sizeWidth "x" ∧
        FitsSize layout.sizeWidth "y" ∧ ∀ name ∈ ["up"], FitsSize layout.sizeWidth name := by
      rcases standard.sizeWidth with four | eight
      · rw [four]
        decide
      · rw [eight]
        decide
    obtain ⟨constantsFit, xFits, yFits, namesFit⟩ := texts
    -- The variables end where the code does, even if its length is below zero.
    have locals := @inRange_locals FitsInt (FitsSize layout.sizeWidth) length "x" "y" (by decide) fits xFits yFits
    rw [function]
    simp only [List.append_assoc, List.cons_append, List.nil_append]
    refine consumes_bind (Read.consumes_string standard named) fun _ _ => ?_
    refine consumes_bind (Read.consumes_int standard (by decide)) fun _ _ => ?_
    refine consumes_bind (Read.consumes_int standard (by decide)) fun _ _ => ?_
    refine consumes_bind (consumes_oneByte _ 1) fun _ _ => ?_
    refine consumes_bind (consumes_oneByte _ 1) fun _ _ => ?_
    refine consumes_bind (consumes_oneByte _ 2) fun _ _ => ?_
    refine consumes_bind (consumes_oneByte _ 8) fun _ _ => ?_
    refine consumes_bind (Read.consumes_countedAs standard (indices length) fits (length_indices length)
      fun index _ => consumes_instruction standard index) ?_
    intro instructions decoded
    refine consumes_bind (Read.consumes_counted standard constants (by decide) fun each member =>
      Read.consumes_constant standard (constantsFit each member)) fun _ _ => ?_
    refine consumes_bind (Read.consumes_countedAs standard inner few many within) ?_
    intro forest shapes
    refine consumes_bind (@Read.consumes_countedAs _ standard _ _ _ _ id _ _ _ (indices length) fits
      (length_indices length) fun index member => Read.consumes_int standard (fitsInt_line fits member)) fun _ _ => ?_
    refine consumes_bind (Read.consumes_counted standard _ (by simp) fun each member =>
      Read.consumes_localVariable standard (locals each member)) fun _ _ => ?_
    refine consumes_map (Read.consumes_counted standard _ (by decide) fun each member =>
      Read.consumes_string standard (namesFit each member)) fun _ _ => ?_
    apply consumes_pure
    rw [Tree.map, Tree.mapForest_eq, shapes, code, decoded, List.map_const', many]

def headerOf (sizeWidth : Nat) : Header where
  signature := signature
  version := 0x51
  format := 0
  orderFlag := 1
  intWidth := 4
  sizeWidth := sizeWidth
  instructionWidth := 4
  numberWidth := 8
  integralFlag := 0

theorem of_chunk {length innerCount : Int} {sizeWidth : Nat} {bytes : Bytes} (width : sizeWidth = 4 ∨ sizeWidth = 8)
    (built : chunk length innerCount sizeWidth 1 = .ok bytes) :
    FitsInt length ∧ FitsInt innerCount ∧
      bytes = Write.header (headerOf sizeWidth) ++ function (headerOf sizeWidth).layout length innerCount "@b.lua"
        (List.replicate innerCount.toNat (function (headerOf sizeWidth).layout (innerLength length) 0 "" [])) := by
  have spelled : signature ++ [0x51, 0] ++ Bytes.ofByte 1 ++ [4] ++ Bytes.ofByte sizeWidth ++ [4, 8, 0] =
      Write.header (headerOf sizeWidth) := by
    rcases width with rfl | rfl <;> decide
  have same : layoutOf sizeWidth = (headerOf sizeWidth).layout := by
    rcases width with rfl | rfl <;> decide
  obtain ⟨_, _, built⟩ := ok_of_except_bind built
  obtain ⟨_, _, built⟩ := ok_of_except_bind built
  obtain ⟨main, made, built⟩ := ok_of_except_bind built
  obtain ⟨_, fits, made⟩ := ok_of_except_bind made
  obtain ⟨_, few, made⟩ := ok_of_except_bind made
  have mainBytes := Except.ok.inj made
  have allBytes := Except.ok.inj built
  rw [spelled, ← mainBytes, same] at allBytes
  exact ⟨fitsInt_of_require fits, fitsInt_of_require few, allBytes.symm⟩

theorem exhausts_chunk {length innerCount : Int} {sizeWidth : Nat} {bytes : Bytes}
    (width : sizeWidth = 4 ∨ sizeWidth = 8) (built : chunk length innerCount sizeWidth 1 = .ok bytes) :
    Exhausts (parse bytes) bytes (fun found => found.main.map code = plan fields length innerCount) := by
  have standard : (headerOf sizeWidth).Standard :=
    ⟨rfl, rfl, rfl, .inl rfl, rfl, width, rfl, rfl, by simp [headerOf]⟩
  have texts : FitsSize sizeWidth "" ∧ FitsSize sizeWidth "@b.lua" := by
    rcases width with rfl | rfl <;> decide
  obtain ⟨fits, few, spelled⟩ := of_chunk width built
  rw [spelled]
  exact exhausts_of_enters (enters_header_main (Read.enters_header standard)
    (consumes_plan (planned_function standard.layout texts.2) (planned_function standard.layout texts.1) fits few
      (fitsInt_innerLength fits) (by decide)) fun _ => rfl)

end V51

namespace V52

open LuaBytecode.V52

def fields (index : Nat) : Fields := ⟨index % 40, index % 256, 5 * index % 512, operandFor (index % 40) index⟩

def code (function : Function) : List Fields :=
  function.code.map fun each => each.toInstruction.fields Opcode.number

variable {layout : Layout}

theorem operandFor_lt (opcode index : Nat) : operandFor opcode index < 512 := by
  unfold operandFor operandC
  split <;> omega

theorem consumes_instruction (standard : Standard layout) (index : Nat) :
    Consumes layout Read.instruction (instruction layout index)
      (fun found => found.fields Opcode.number = fields index) := by
  have known : ∀ n < 40, (Opcode.ofNumber? n).map Opcode.number = some n := by decide
  have opcode : index % 40 < 40 := Nat.mod_lt _ (by decide)
  exact @consumes_planned_instruction _ _ _ _ _ (fun word => Write.word layout word.value)
    (fun each fits => Read.consumes_instruction standard fits) _ _ (Nat.lt_trans opcode (by decide))
    (operandFor_lt (index % 40) index) (known _ opcode) index

theorem consumes_code (standard : Standard layout) {length : Int} (fits : FitsWord length) :
    Consumes layout Read.code (Write.countedAs layout length (instruction layout) (indices length))
      (fun found => (found.map fun each => each.toInstruction.fields Opcode.number) = (indices length).map fields) := by
  refine consumes_map (Read.consumes_countedAs (indices length) fits (length_indices length)
    fun index _ => consumes_instruction standard index) ?_
  intro decoded same
  apply consumes_pure
  rw [← same]
  apply List.ext_getElem?
  intro index
  simp only [Read.place, List.getElem?_map, List.getElem?_mapIdx, Option.map_map]
  rfl

theorem planned_function (standard : Standard layout) :
    Planned layout FitsWord Read.prototypeWithin code fields (function layout) where
  some length innerCount inner := by
    simp only [function, List.length_append, List.length_cons]
    omega
  read depth {length innerCount inner shape} fits few many within := by
    have texts : (∀ each ∈ constants, ConstantInRange layout.sizeWidth each.constant) ∧
        FitsSize layout.sizeWidth "@bench.lua" ∧ FitsSize layout.sizeWidth "aa" ∧ FitsSize layout.sizeWidth "bb" ∧
        ∀ name ∈ ["_ENV", "up"], FitsSize layout.sizeWidth name := by
      rcases standard.sizeWidth with four | eight
      · rw [four]
        decide
      · rw [eight]
        decide
    obtain ⟨constantsFit, sourceFits, firstFits, secondFits, namesFit⟩ := texts
    have upvaluesFit : ∀ each ∈ upvalues, FitsByte each.inStack ∧ FitsByte each.index := by decide
    have locals := @inRange_locals FitsWord (FitsSize layout.sizeWidth) length "aa" "bb" (by decide) fits firstFits
      secondFits
    rw [function]
    simp only [List.append_assoc, List.cons_append, List.nil_append]
    refine consumes_bind (Read.consumes_word (by decide)) fun _ _ => ?_
    refine consumes_bind (Read.consumes_word (by decide)) fun _ _ => ?_
    refine consumes_bind (consumes_oneByte _ 1) fun _ _ => ?_
    refine consumes_bind (consumes_oneByte _ 1) fun _ _ => ?_
    refine consumes_bind (consumes_oneByte _ 8) fun _ _ => ?_
    refine consumes_bind (consumes_code standard fits) ?_
    intro instructions decoded
    refine consumes_bind (Read.consumes_counted constants (by decide) fun each member =>
      Read.consumes_constant standard (constantsFit each member)) fun _ _ => ?_
    refine consumes_bind (Read.consumes_countedAs inner few many within) ?_
    intro forest shapes
    refine consumes_bind (Read.consumes_counted upvalues (by decide) fun each member =>
      Read.consumes_upvalue (upvaluesFit each member)) fun _ _ => ?_
    refine consumes_bind (Read.consumes_string standard sourceFits) fun _ _ => ?_
    refine consumes_bind (@Read.consumes_countedAs _ _ _ _ _ id _ _ _ (indices length) fits
      (length_indices length) fun index member => Read.consumes_line (fitsWord_line fits member)) fun _ _ => ?_
    refine consumes_bind (Read.consumes_counted_same _ (by simp) fun each member =>
      Read.consumes_localVariable standard (locals each member)) fun _ _ => ?_
    refine consumes_map (Read.consumes_counted_same _ (by decide) fun each member =>
      Read.consumes_string standard (namesFit each member)) fun _ _ => ?_
    apply consumes_pure
    rw [Tree.map, Tree.mapForest_eq, shapes, code, decoded, List.map_const', many]

def headerOf (sizeWidth : Nat) : Header where
  version := 0x52
  format := 0
  order := .little
  intWidth := 4
  sizeWidth := sizeWidth
  instructionWidth := 4
  numberWidth := 8
  numberFlag := 0

theorem of_chunk {length innerCount : Int} {sizeWidth : Nat} {bytes : Bytes} (width : sizeWidth = 4 ∨ sizeWidth = 8)
    (built : chunk length innerCount sizeWidth = .ok bytes) :
    FitsWord length ∧ FitsWord innerCount ∧
      bytes = Write.header (headerOf sizeWidth) ++ function (headerOf sizeWidth).layout length innerCount
        (List.replicate innerCount.toNat (function (headerOf sizeWidth).layout (innerLength length) 0 [])) := by
  have spelled : signature ++ [0x52, 0, 1, 4] ++ Bytes.ofByte sizeWidth ++ [4, 8, 0] ++ tail =
      Write.header (headerOf sizeWidth) := by
    rcases width with rfl | rfl <;> decide
  have same : { sizeWidth := if (sizeWidth : Int) = 4 then 4 else 8 } = (headerOf sizeWidth).layout := by
    rcases width with rfl | rfl <;> decide
  obtain ⟨_, _, built⟩ := ok_of_except_bind built
  obtain ⟨main, made, built⟩ := ok_of_except_bind built
  obtain ⟨_, fits, made⟩ := ok_of_except_bind made
  obtain ⟨_, few, made⟩ := ok_of_except_bind made
  have mainBytes := Except.ok.inj made
  have allBytes := Except.ok.inj built
  rw [spelled, ← mainBytes, same] at allBytes
  exact ⟨fitsWord_of_require fits, fitsWord_of_require few, allBytes.symm⟩

theorem exhausts_chunk {length innerCount : Int} {sizeWidth : Nat} {bytes : Bytes}
    (width : sizeWidth = 4 ∨ sizeWidth = 8) (built : chunk length innerCount sizeWidth = .ok bytes) :
    Exhausts (parse bytes) bytes (fun found => found.main.map code = plan fields length innerCount) := by
  have standard : (headerOf sizeWidth).Standard :=
    ⟨rfl, by simp [headerOf], by simp [headerOf], width, rfl, by simp [headerOf], by simp [headerOf]⟩
  have planned := planned_function standard.layout
  obtain ⟨fits, few, spelled⟩ := of_chunk width built
  rw [spelled]
  exact exhausts_of_enters (enters_header_main (Read.enters_header standard.spellable)
    (consumes_plan planned planned fits few (fitsWord_innerLength fits) (by decide)) fun _ => rfl)

end V52

namespace V53

open LuaBytecode.V53

def fields (index : Nat) : Fields := ⟨index % 47, index % 256, 5 * index % 512, 3 * index % 512⟩

def code (function : Function) : List Fields := function.code.map (Instruction.fields Opcode.number)

theorem consumes_instruction (index : Nat) :
    Consumes {} Read.instruction (instruction index) (fun found => found.fields Opcode.number = fields index) := by
  have known : ∀ n < 47, (Opcode.ofNumber? n).map Opcode.number = some n := by decide
  have opcode : index % 47 < 47 := Nat.mod_lt _ (by decide)
  exact @consumes_planned_instruction _ _ _ _ _ (fun word => Write.int word.value)
    (fun each fits => Read.consumes_instruction fits) _ _ (Nat.lt_trans opcode (by decide)) (Nat.mod_lt _ (by decide))
    (known _ opcode) index

theorem isConstant_constants : ∀ each ∈ constants, IsConstant each := by
  simp only [constants, List.forall_mem_cons]
  exact ⟨trivial, trivial, trivial, trivial, by decide, by decide, fitsSize_repeated 'L' (by decide), nofun⟩

theorem planned_function : Planned {} FitsInt Read.prototypeWithin code fields function where
  some length innerCount inner := by
    simp only [function, List.length_append, List.length_cons]
    omega
  read depth {length innerCount inner shape} fits few many within := by
    have upvaluesFit : ∀ each ∈ upvalues, FitsByte each.inStack ∧ FitsByte each.index := by decide
    have namesFit : ∀ name ∈ ["_ENV", "up"], FitsSize 8 name := by decide
    have locals := @inRange_locals FitsInt (FitsSize 8) length "lv1" "lv2" (by decide) fits (by decide) (by decide)
    rw [function]
    simp only [List.append_assoc, List.cons_append, List.nil_append]
    refine consumes_bind (Read.consumes_string (by decide)) fun _ _ => ?_
    refine consumes_bind (Read.consumes_int (by decide)) fun _ _ => ?_
    refine consumes_bind (Read.consumes_int (by decide)) fun _ _ => ?_
    refine consumes_bind (consumes_oneByte _ 1) fun _ _ => ?_
    refine consumes_bind (consumes_oneByte _ 1) fun _ _ => ?_
    refine consumes_bind (consumes_oneByte _ 8) fun _ _ => ?_
    refine consumes_bind (Read.consumes_countedAs (indices length) fits (length_indices length)
      fun index _ => consumes_instruction index) ?_
    intro instructions decoded
    refine consumes_bind (Read.consumes_constants isLong (by decide) isConstant_constants) fun _ _ => ?_
    refine consumes_bind (Read.consumes_counted upvalues (by decide) fun each member =>
      Read.consumes_upvalue (upvaluesFit each member)) fun _ _ => ?_
    refine consumes_bind (Read.consumes_countedAs inner few many within) ?_
    intro forest shapes
    refine consumes_bind (@Read.consumes_countedAs _ _ _ _ id _ _ _ (indices length) fits
      (length_indices length) fun index member => Read.consumes_int (fitsInt_line fits member)) fun _ _ => ?_
    refine consumes_bind (Read.consumes_counted_same _ (by simp) fun each member =>
      Read.consumes_localVariable (locals each member)) fun _ _ => ?_
    refine consumes_map (Read.consumes_counted_same _ (by decide) fun each member =>
      Read.consumes_string (namesFit each member)) fun _ _ => ?_
    apply consumes_pure
    rw [Tree.map, Tree.mapForest_eq, shapes, code, decoded, List.map_const', many]

theorem exhausts_chunk {length innerCount : Int} {bytes : Bytes} (built : chunk length innerCount = .ok bytes) :
    Exhausts (parse bytes) bytes (fun found => found.main.map code = plan fields length innerCount) := by
  obtain ⟨main, made, built⟩ := ok_of_except_bind built
  obtain ⟨_, passed, made⟩ := ok_of_except_bind made
  obtain ⟨_, passedInner, made⟩ := ok_of_except_bind made
  have fits := fitsInt_of_require passed
  have mainBytes := Except.ok.inj made
  have allBytes := Except.ok.inj built
  rw [← allBytes, ← mainBytes]
  exact exhausts_of_enters (enters_header_main (enters_of_consumes (Read.consumes_header (by decide)))
    (consumes_plan planned_function planned_function fits (fitsInt_of_require passedInner) (fitsInt_innerLength fits)
      (by decide)) fun _ => rfl)

end V53

end LuaBytecode.Sample
