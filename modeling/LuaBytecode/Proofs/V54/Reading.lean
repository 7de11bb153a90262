import LuaBytecode.Proofs.Layout
import LuaBytecode.Proofs.Tree
import LuaBytecode.Proofs.V54.Gathering
import LuaBytecode.Proofs.V54.Size

namespace LuaBytecode.V54

structure Header.Spellable (header : Header) : Prop where
  format : header.format < 256
  data : header.data.length = 6
  instructionWidth : header.instructionWidth < 256
  integerWidth : header.integerWidth < 256
  numberWidth : header.numberWidth < 256
  testInteger : -2 ^ 63 ≤ header.testInteger ∧ header.testInteger < 2 ^ 63

def Header.spelled (header : Header) : Bytes :=
  signature ++ ([0x54] ++ (Bytes.ofByte header.format ++ (header.data ++ (Bytes.ofByte header.instructionWidth ++
    (Bytes.ofByte header.integerWidth ++ (Bytes.ofByte header.numberWidth ++
      (Bytes.ofNat 8 (unsigned 64 header.testInteger) ++ Bytes.ofNat 8 header.testNumber.bits.toNat)))))))

def standardHeader : Header where
  format := 0
  data := V54.data
  instructionWidth := 4
  integerWidth := 8
  numberWidth := 8
  testInteger := V54.testInteger
  testNumber := V54.testNumber

namespace Read

open Reader

variable {layout : Layout}

theorem consumes_fixedWidth {width : Nat} {span : Bytes} (exactly : span.length = width) :
    Consumes layout (fixedWidth width) span (fun n => n = span.toNat) := by
  subst exactly
  refine consumes_map (consumes_takeUpTo span) ?_
  rintro _ rfl
  rw [fixed, if_pos rfl]
  exact consumes_pure rfl

theorem consumes_byte (each : UInt8) : Consumes layout byte [each] (fun n => n = each.toNat) := by
  apply consumes_mono (consumes_fixedWidth (show [each].length = 1 from rfl))
  rintro _ rfl
  simp [Bytes.toNat]

theorem toNat_eight (bits : UInt64) : Bytes.toNat (Bytes.ofNat 8 bits.toNat) = bits.toNat := by
  rw [Bytes.toNat_ofNat, Nat.mod_eq_of_lt]
  exact bits.toNat_lt

theorem toNat_word (each : UInt32) : Bytes.toNat (Wire.word each) = each.toNat := by
  rw [Wire.word, Bytes.toNat_ofNat, Nat.mod_eq_of_lt]
  exact each.toNat_lt

theorem word_toNat {span : Bytes} (exactly : span.length = 4) : Wire.word (UInt32.ofNat span.toNat) = span := by
  have bound := Bytes.toNat_lt span
  rw [exactly] at bound
  rw [Wire.word, UInt32.toNat_ofNat_of_lt' bound, ← exactly, Bytes.ofNat_toNat]

theorem consumes_integer (bits : UInt64) :
    Consumes layout integer (Bytes.ofNat 8 bits.toNat) (fun n => n = signed 64 bits.toNat) := by
  refine consumes_map (consumes_fixedWidth (Bytes.length_ofNat 8 _)) ?_
  intro n read
  apply consumes_pure
  rw [read, toNat_eight]

theorem consumes_number (bits : UInt64) :
    Consumes layout number (Bytes.ofNat 8 bits.toNat) (fun x => x = ⟨bits⟩) := by
  refine consumes_map (consumes_fixedWidth (Bytes.length_ofNat 8 _)) ?_
  intro n read
  apply consumes_pure
  rw [read, toNat_eight, UInt64.ofNat_toNat]

theorem consumes_instruction (each : UInt32) :
    Consumes layout instruction (Wire.word each) (fun n => n = each.toNat) := by
  refine consumes_map (consumes_fixedWidth (Bytes.length_ofNat 4 _)) ?_
  rintro _ rfl
  apply consumes_pure
  rw [← toNat_word, Wire.word]

theorem consumes_line (each : UInt8) : Consumes layout line [each] (fun n => n = each.toNat) := by
  refine consumes_map (consumes_byte each) ?_
  rintro _ rfl
  exact consumes_pure rfl

theorem consumes_string (content : Option Bytes) (fits : Wire.ContentFits content) :
    Consumes layout string (Wire.string content) (fun found => found = Wire.text content) := by
  cases content with
  | none =>
    refine consumes_map (consumes_size 0 (by decide)) ?_
    rintro _ rfl
    exact consumes_pure rfl
  | some content =>
    have short : content.length < 2 ^ 63 := fits content rfl
    refine consumes_bind (consumes_size (content.length + 1) (by omega)) ?_
    rintro _ rfl
    rw [if_neg (Nat.succ_ne_zero _), Nat.add_sub_cancel]
    refine consumes_ahead (consumes_require (by simpa using short)) ?_
    intro _ _
    refine consumes_map (consumes_takeUpTo content) ?_
    rintro _ rfl
    exact consumes_pure rfl

theorem consumes_counted {α β γ : Type} {reader : Reader α} {view : α → γ} {value : β → γ}
    {encode : β → Bytes} (items : List β) (bound : items.length < 2 ^ 64)
    (each : ∀ item ∈ items, Consumes layout reader (encode item) (fun found => view found = value item)) :
    Consumes layout (counted reader) (Wire.counted encode items)
      (fun found => found.map view = items.map value) := by
  refine consumes_bind (consumes_size items.length bound) ?_
  rintro _ rfl
  exact consumes_times items each

theorem consumes_noted {α : Type} {reader : Reader α} {span : Bytes} {holds : α → Prop} (record : Bool)
    (known : Consumes layout reader span holds) :
    Consumes layout (noted record reader) span
      (fun found => holds found.1 ∧ (record = true → found.2 = some span)) := by
  cases record with
  | false =>
    refine consumes_map known ?_
    intro value held
    exact consumes_pure ⟨held, nofun⟩
  | true =>
    refine consumes_map (consumes_withSpan known) ?_
    rintro ⟨value, found⟩ ⟨held, same⟩
    exact consumes_pure ⟨held, fun _ => congrArg some same⟩

theorem consumes_constant (each : Wire.Constant) (fits : each.Fits) :
    Consumes layout constant each.bytes (fun found => found = each.value) := by
  cases each with
  | nil =>
    refine consumes_map (consumes_byte 0x00) ?_
    rintro _ rfl
    exact consumes_pure rfl
  | bool value =>
    cases value with
    | false =>
      refine consumes_map (consumes_byte 0x11) ?_
      rintro _ rfl
      exact consumes_pure rfl
    | true =>
      refine consumes_map (consumes_byte 0x21) ?_
      rintro _ rfl
      exact consumes_pure rfl
  | num bits =>
    refine consumes_bind (consumes_byte 0x13) ?_
    rintro _ rfl
    refine consumes_map (consumes_number bits) ?_
    rintro _ rfl
    exact consumes_pure rfl
  | int bits =>
    refine consumes_bind (consumes_byte 0x23) ?_
    rintro _ rfl
    refine consumes_map (consumes_integer bits) ?_
    rintro _ rfl
    exact consumes_pure rfl
  | str isLong content =>
    have spelled : (Wire.Constant.str isLong content).bytes =
        [if isLong then 0x24 else 0x14] ++ Wire.string content := by
      cases isLong <;> rfl
    have typed : (if isLong then 0x24 else 0x14 : UInt8).toNat % 16 = 4 := by
      cases isLong <;> rfl
    rw [spelled]
    refine consumes_bind (consumes_byte _) ?_
    rintro _ rfl
    rw [typed]
    refine consumes_map (consumes_string content fits) ?_
    rintro _ rfl
    cases content <;> exact consumes_pure rfl

theorem consumes_upvalue (record : Bool) (each : Wire.Upvalue) :
    Consumes layout (upvalue record) each.bytes (fun found => found.bare = each.value) := by
  have fields : Consumes layout (do
      let inStack ← byte
      let index ← byte
      let kind ← byte
      pure (inStack, index, kind)) each.bytes
        (fun found => found = (each.inStack.toNat, each.index.toNat, each.kind.toNat)) := by
    refine consumes_bind (consumes_byte each.inStack) ?_
    rintro _ rfl
    refine consumes_bind (consumes_byte each.index) ?_
    rintro _ rfl
    refine consumes_map (consumes_byte each.kind) ?_
    rintro _ rfl
    exact consumes_pure rfl
  refine consumes_map (consumes_noted record fields) ?_
  rintro ⟨_, _⟩ ⟨rfl, _⟩
  exact consumes_pure rfl

theorem consumes_absLine (record : Bool) (each : Wire.AbsLine) :
    Consumes layout (absLine record) each.bytes (fun found => found.bare = each.value) := by
  have fields : Consumes layout (do
      let pc ← size
      let line ← size
      pure (pc, line)) each.bytes (fun found => found = (each.pc.toNat, each.line.toNat)) := by
    refine consumes_bind (consumes_size each.pc.toNat each.pc.toNat_lt) ?_
    rintro _ rfl
    refine consumes_map (consumes_size each.line.toNat each.line.toNat_lt) ?_
    rintro _ rfl
    exact consumes_pure rfl
  refine consumes_map (consumes_noted record fields) ?_
  rintro ⟨_, _⟩ ⟨rfl, _⟩
  exact consumes_pure rfl

theorem consumes_localVariable (record : Bool) (each : Wire.Local) (fits : Wire.ContentFits each.name) :
    Consumes layout (localVariable record) each.bytes (fun found => found.bare = each.value) := by
  have fields : Consumes layout (do
      let name ← string
      let startPc ← size
      let endPc ← size
      pure (name, startPc, endPc)) each.bytes
        (fun found => found = (Wire.text each.name, each.startPc.toNat, each.endPc.toNat)) := by
    refine consumes_bind (consumes_string each.name fits) ?_
    rintro _ rfl
    refine consumes_bind (consumes_size each.startPc.toNat each.startPc.toNat_lt) ?_
    rintro _ rfl
    refine consumes_map (consumes_size each.endPc.toNat each.endPc.toNat_lt) ?_
    rintro _ rfl
    exact consumes_pure rfl
  refine consumes_map (consumes_noted record fields) ?_
  rintro ⟨_, _⟩ ⟨rfl, _⟩
  exact consumes_pure rfl

theorem consumes_counted_exactly {α β : Type} {reader : Reader α} {value : β → α} {encode : β → Bytes}
    (items : List β) (bound : items.length < 2 ^ 64)
    (each : ∀ item ∈ items, Consumes layout reader (encode item) (fun found => found = value item)) :
    Consumes layout (counted reader) (Wire.counted encode items)
      (fun found => found = items.map value) := by
  refine consumes_bind (consumes_size items.length bound) ?_
  rintro _ rfl
  exact consumes_times_exactly items each

theorem words_flatMap_word (code : List UInt32) :
    Wire.words (code.flatMap Wire.word) = code.map (fun each => (each.toNat : Int)) := by
  induction code with
  | nil => rfl
  | cons each code ih =>
    have value := toNat_word each
    rw [List.flatMap_cons, List.map_cons, ← ih]
    simp only [Wire.word, Bytes.ofNat] at value ⊢
    simp only [List.cons_append, List.nil_append, Wire.words, value]

theorem splitSize_codeSection (padding : Nat) (code : List UInt32) :
    Cipher.splitSize (Wire.codeSection padding code) =
      (List.replicate padding 0 ++ Wire.size code.length, code.flatMap Wire.word) :=
  Wire.splitSize_size padding code.length (code.flatMap Wire.word)

theorem words_codeSection (padding : Nat) (code : List UInt32) :
    Wire.words (Cipher.splitSize (Wire.codeSection padding code)).2 =
      code.map (fun each => (each.toNat : Int)) := by
  rw [splitSize_codeSection, words_flatMap_word]

theorem consumes_code (padding : Nat) (code : List UInt32) (bound : code.length < 2 ^ 64) :
    Consumes layout (counted instruction) (Wire.codeSection padding code)
      (fun found => found = Wire.words (Cipher.splitSize (Wire.codeSection padding code)).2) := by
  rw [words_codeSection, Wire.codeSection, Wire.counted, ← List.append_assoc]
  refine consumes_bind (consumes_padded_size padding code.length bound) ?_
  rintro _ rfl
  exact consumes_times_exactly code fun each _ => consumes_instruction each

theorem consumes_debug (record : Bool) (each : Wire.Function) (fits : each.Fits) :
    Consumes layout (debug record) each.back (fun found =>
      found.lineInfo = each.lineInfo.map (fun line => (line.toNat : Int)) ∧
        found.absLineInfo.map AbsLine.bare = each.absLineInfo.map Wire.AbsLine.value ∧
        found.locals.map Local.bare = each.locals.map Wire.Local.value ∧
        found.upvalueNames = each.upvalueNames.map Wire.text) := by
  refine consumes_bind (consumes_counted_exactly each.lineInfo fits.lineInfo
    fun line _ => consumes_line line) ?_
  rintro _ rfl
  refine consumes_bind (consumes_counted each.absLineInfo fits.absLineInfo
    fun entry _ => consumes_absLine record entry) ?_
  intro absLineInfo absLines
  refine consumes_bind (consumes_counted each.locals fits.locals.1
    fun entry member => consumes_localVariable record entry (fits.locals.2 entry member)) ?_
  intro locals localVariables
  refine consumes_map (consumes_counted_exactly each.upvalueNames fits.upvalueNames.1
    fun name member => consumes_string name (fits.upvalueNames.2 name member)) ?_
  rintro _ rfl
  exact consumes_pure ⟨rfl, absLines, localVariables, rfl⟩

mutual
def Kept : Wire.Prototype → Prototype → Prop
  | .node each inner, .node function trees =>
    function.recording? .source = some (Wire.string each.source) ∧
      function.recording? .code = some each.code ∧ KeptForest inner trees
def KeptForest : List Wire.Prototype → List Prototype → Prop
  | [], [] => True
  | each :: forest, tree :: trees => Kept each tree ∧ KeptForest forest trees
  | _, _ => False
end

theorem length_string_pos (content : Option Bytes) : 0 < (Wire.string content).length := by
  cases content with
  | none => exact Wire.length_size_pos 0
  | some content =>
    have := Wire.length_size_pos (content.length + 1)
    rw [Wire.string, List.length_append]
    omega

theorem forest_shorter (each : Wire.Function) (inner : List Wire.Prototype) :
    (Wire.forestBytes inner).length < (Wire.bytes (.node each inner)).length := by
  have := length_string_pos each.source
  simp only [Wire.bytes, Wire.Function.front, List.length_append]
  omega

-- The bytes bound the depth: a function is spelled in more bytes than those inside it.
mutual
theorem consumes_prototype (record : Bool) (depth : Nat) (parent : Option String) (tree : Wire.Prototype)
    (fits : tree.Every Wire.Function.Fits) (deep : (Wire.bytes tree).length < depth) :
    Consumes layout (prototypeWithin record depth parent) (Wire.bytes tree)
      (fun found => bare found = Wire.value parent tree ∧ (record = true → Kept tree found)) := by
  cases depth with
  | zero => omega
  | succ depth =>
    cases tree with
    | node each inner =>
      obtain ⟨own, few, forest⟩ := fits
      obtain ⟨padding, code, codeBound, spelled⟩ := own.code
      have codeRead := @consumes_code layout padding code codeBound
      rw [← spelled] at codeRead
      have lower : (Wire.forestBytes inner).length < depth := by
        have := forest_shorter each inner
        omega
      rw [Wire.bytes, Wire.Function.front]
      simp only [List.append_assoc]
      refine consumes_bind (consumes_noted record (consumes_string each.source own.source)) ?_
      rintro ⟨_, sourceSpan⟩ ⟨rfl, sourceKept⟩
      refine consumes_bind (consumes_noted record (consumes_size _ each.lineDefined.toNat_lt)) ?_
      rintro ⟨_, lineSpan⟩ ⟨rfl, _⟩
      refine consumes_bind (consumes_noted record (consumes_size _ each.lastLineDefined.toNat_lt)) ?_
      rintro ⟨_, lastLineSpan⟩ ⟨rfl, _⟩
      refine consumes_bind (consumes_noted record (consumes_byte each.paramCount)) ?_
      rintro ⟨_, paramSpan⟩ ⟨rfl, _⟩
      refine consumes_bind (consumes_noted record (consumes_byte each.varargFlag)) ?_
      rintro ⟨_, varargSpan⟩ ⟨rfl, _⟩
      refine consumes_bind (consumes_noted record (consumes_byte each.maxStackSize)) ?_
      rintro ⟨_, stackSpan⟩ ⟨rfl, _⟩
      refine consumes_bind (consumes_noted record codeRead) ?_
      rintro ⟨_, codeSpan⟩ ⟨rfl, codeKept⟩
      refine consumes_bind (consumes_noted record (consumes_counted_exactly each.constants own.constants.1
        fun constant member => consumes_constant constant (own.constants.2 constant member))) ?_
      rintro ⟨_, constantSpan⟩ ⟨rfl, _⟩
      refine consumes_bind (consumes_noted record (consumes_counted each.upvalues own.upvalues
        fun upvalue _ => consumes_upvalue record upvalue)) ?_
      rintro ⟨upvalues, upvalueSpan⟩ ⟨upvaluesBare, _⟩
      refine consumes_bind (consumes_noted record (consumes_size inner.length few)) ?_
      rintro ⟨_, innerSpan⟩ ⟨rfl, _⟩
      refine consumes_bind (consumes_forest record depth _ inner forest lower) ?_
      rintro trees ⟨treesBare, treesKept⟩
      refine consumes_map (consumes_noted record (consumes_debug record each own)) ?_
      rintro ⟨found, debugSpan⟩ ⟨⟨lines, absLines, localVariables, names⟩, _⟩
      dsimp only at upvaluesBare lines absLines localVariables names
      apply consumes_pure
      constructor
      · simp only [bare, Tree.map, Function.bare, Wire.value, Wire.Function.value, upvaluesBare, treesBare,
          lines, absLines, localVariables, names]
      · rintro rfl
        obtain rfl : sourceSpan = some (Wire.string each.source) := sourceKept rfl
        obtain rfl : codeSpan = some each.code := codeKept rfl
        exact ⟨rfl, rfl, treesKept rfl⟩
theorem consumes_forest (record : Bool) (depth : Nat) (parent : Option String) (forest : List Wire.Prototype)
    (fits : Tree.EveryForest Wire.Function.Fits forest) (deep : (Wire.forestBytes forest).length < depth) :
    Consumes layout (times forest.length (prototypeWithin record depth parent)) (Wire.forestBytes forest)
      (fun found => Tree.mapForest Function.bare found = Wire.forestValue parent forest ∧
        (record = true → KeptForest forest found)) := by
  cases forest with
  | nil => exact consumes_pure ⟨rfl, fun _ => trivial⟩
  | cons tree forest =>
    rw [Wire.forestBytes, List.length_append] at deep
    refine consumes_bind (consumes_prototype record depth parent tree fits.1 (by omega)) ?_
    rintro head ⟨headBare, headKept⟩
    refine consumes_map (consumes_forest record depth parent forest fits.2 (by omega)) ?_
    rintro tail ⟨tailBare, tailKept⟩
    apply consumes_pure
    rw [bare] at headBare
    refine ⟨?_, fun recorded => ⟨headKept recorded, tailKept recorded⟩⟩
    rw [Tree.mapForest, Wire.forestValue, headBare, tailBare]
end

theorem consumes_sayLine (text : String) : Consumes layout (sayLine text) [] (fun _ => True) :=
  consumes_say (text ++ "\n")

theorem consumes_smallByte {n : Nat} (small : n < 256) :
    Consumes layout byte (Bytes.ofByte n) (fun found => found = n) := by
  apply consumes_mono (consumes_fixedWidth (show (Bytes.ofByte n).length = 1 from rfl))
  intro found same
  rw [same, Bytes.toNat_ofByte small]

theorem consumes_signed {n : Int} (low : -2 ^ 63 ≤ n) (high : n < 2 ^ 63) :
    Consumes layout integer (Bytes.ofNat 8 (unsigned 64 n)) (fun found => found = n) := by
  have word : (UInt64.ofNat (unsigned 64 n)).toNat = unsigned 64 n := UInt64.toNat_ofNat_of_lt' (unsigned_lt 64 n)
  have known := @consumes_integer layout (UInt64.ofNat (unsigned 64 n))
  rw [word, signed_unsigned low high] at known
  exact known

theorem consumes_spelledHeader {each : Header} (spellable : each.Spellable) :
    Consumes layout header each.spelled (fun found => found = each) := by
  obtain ⟨format, data, instructionWidth, integerWidth, numberWidth, testInteger⟩ := spellable
  refine consumes_ahead (consumes_sayLine _) fun _ _ => ?_
  refine consumes_ahead (consumes_sayLine _) fun _ _ => ?_
  refine consumes_ahead (consumes_sayLine _) fun _ _ => ?_
  refine consumes_bind (consumes_takeUpTo signature) ?_
  rintro _ rfl
  refine consumes_ahead (consumes_require (by decide)) fun _ _ => ?_
  refine consumes_ahead (consumes_sayLine _) fun _ _ => ?_
  refine consumes_bind (consumes_byte 0x54) ?_
  rintro _ rfl
  refine consumes_ahead (consumes_require (by decide)) fun _ _ => ?_
  refine consumes_ahead (consumes_sayLine _) fun _ _ => ?_
  refine consumes_bind (consumes_smallByte format) ?_
  rintro _ rfl
  rw [← data]
  refine consumes_bind (consumes_takeUpTo each.data) ?_
  rintro _ rfl
  refine consumes_ahead (consumes_sayLine _) fun _ _ => ?_
  refine consumes_bind (consumes_smallByte instructionWidth) ?_
  rintro _ rfl
  refine consumes_bind (consumes_smallByte integerWidth) ?_
  rintro _ rfl
  refine consumes_bind (consumes_smallByte numberWidth) ?_
  rintro _ rfl
  refine consumes_ahead (consumes_sayLine _) fun _ _ => ?_
  refine consumes_bind (consumes_signed testInteger.1 testInteger.2) ?_
  rintro _ rfl
  refine consumes_map (consumes_number each.testNumber.bits) ?_
  rintro _ rfl
  refine consumes_ahead (consumes_sayLine _) fun _ _ => ?_
  refine consumes_ahead (consumes_sayLine _) fun _ _ => ?_
  exact consumes_pure rfl

theorem consumes_header : Consumes layout header Write.header (fun _ => True) := by
  have spelled : Write.header = standardHeader.spelled := by decide
  have spellable : standardHeader.Spellable := ⟨by decide, rfl, by decide, by decide, by decide, by decide⟩
  rw [spelled]
  exact consumes_mono (consumes_spelledHeader spellable) fun _ _ => trivial

theorem consumes_chunk (record : Bool) (tree : Wire.Prototype) (fits : tree.Every Wire.Function.Fits) :
    Consumes layout (chunk record) (Wire.file Write.header tree)
      (fun found => bare found.main = Wire.value (some "") tree ∧ (record = true → Kept tree found.main)) := by
  rw [chunk_eq]
  refine consumes_bind consumes_header ?_
  intro header _
  refine consumes_bind (consumes_byte _) ?_
  intro count _
  refine consumes_ahead (consumes_say _) ?_
  intro _ _
  refine consumes_map (consumes_nested fun depth deep => consumes_prototype record depth _ tree fits deep) ?_
  intro main known
  exact consumes_pure known

end Read

theorem parse_file (record : Bool) (tree : Wire.Prototype) (fits : tree.Every Wire.Function.Fits) :
    ∃ chunk after, parse record (Wire.file Write.header tree) = (.ok chunk, after) ∧ after.rest = [] ∧
      bare chunk.main = Wire.value (some "") tree ∧ (record = true → Read.Kept tree chunk.main) := by
  have known := Read.consumes_chunk record tree fits { rest := Wire.file Write.header tree } [] rfl
    (List.append_nil _).symm
  obtain ⟨chunk, after, ran, _, _, left, main⟩ := known
  exact ⟨chunk, after, ran, left, main⟩

end LuaBytecode.V54
