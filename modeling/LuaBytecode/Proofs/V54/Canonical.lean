import LuaBytecode.Proofs.V54.Encryption
import LuaBytecode.Proofs.V54.Unambiguous
/-!
Files in the shortest spelling. A file that is encrypted and decrypted again is spelled anew from
the texts that were read, and is the file it was just if that changes none of them.
-/
namespace LuaBytecode.V54

open Text

namespace Wire

-- Strings are long if they have more than forty bytes; a missing one is short.
def Constant.Canonical : Constant → Prop
  | str isLong content => isLong = decide (40 < (content.getD []).length)
  | _ => True

structure Function.Canonical (each : Function) : Prop where
  fits : each.Fits
  code : ∃ code, each.code = counted word code
  constants : ∀ constant ∈ each.constants, constant.Canonical

def respelled (content : Bytes) : Bytes := Utf8.encode (Utf8.decodeReplacing content)

-- A missing text is read as nil, and characters are counted where the bytes were.
def Constant.normal : Constant → Constant
  | str _ none => nil
  | str _ (some content) =>
    str (decide (40 < (Utf8.decodeReplacing content).length)) (some (respelled content))
  | each => each

def Local.normal (each : Local) : Local := { each with name := each.name.map respelled }

-- The main function always gets a source, and inner ones do not get an empty source.
def normalSource (isMain : Bool) (source : Option Bytes) : Option Bytes :=
  match isMain, source with
  | true, none => some []
  | false, some [] => none
  | _, source => source.map respelled

def Function.normal (isMain : Bool) (each : Function) : Function :=
  { each with
    source := normalSource isMain each.source
    constants := each.constants.map Constant.normal
    locals := each.locals.map Local.normal
    upvalueNames := each.upvalueNames.map (·.map respelled) }

mutual
def normal (isMain : Bool) : Prototype → Prototype
  | .node each inner => .node (each.normal isMain) (normalForest inner)
def normalForest : List Prototype → List Prototype
  | [] => []
  | tree :: forest => normal false tree :: normalForest forest
end

def IsText (content : Option Bytes) : Prop := ∀ each ∈ content, ∃ text, each = Utf8.encode text

def Constant.Faithful : Constant → Prop
  | str _ none => False
  | str isLong (some content) => ∃ text, content = Utf8.encode text ∧ isLong = decide (40 < text.length)
  | _ => True

-- All texts are UTF-8, and forty characters or bytes make the same strings short.
@[mk_iff]
structure Function.Faithful (isMain : Bool) (each : Function) : Prop where
  source : IsText each.source
  named : if isMain then each.source ≠ none else each.source ≠ some []
  constants : ∀ constant ∈ each.constants, constant.Faithful
  locals : ∀ entry ∈ each.locals, IsText entry.name
  upvalueNames : ∀ name ∈ each.upvalueNames, IsText name

mutual
def Faithful (isMain : Bool) : Prototype → Prop
  | .node each inner => each.Faithful isMain ∧ FaithfulForest inner
def FaithfulForest : List Prototype → Prop
  | [] => True
  | tree :: forest => Faithful false tree ∧ FaithfulForest forest
end

theorem respelled_respelled (content : Bytes) : respelled (respelled content) = respelled content := by
  rw [respelled, respelled, Utf8.decodeReplacing_encode]

theorem respelled_eq_iff (content : Bytes) :
    respelled content = content ↔ ∃ text, content = Utf8.encode text := by
  constructor
  · intro same
    exact ⟨_, same.symm⟩
  · rintro ⟨text, rfl⟩
    rw [respelled, Utf8.decodeReplacing_encode]

theorem map_respelled_iff (content : Option Bytes) : content.map respelled = content ↔ IsText content := by
  cases content with
  | none => simp [IsText]
  | some content => simp [IsText, respelled_eq_iff]

theorem Constant.normal_iff (each : Constant) : each.normal = each ↔ each.Faithful := by
  cases each with
  | str isLong content =>
    cases content with
    | none => simp [normal, Faithful]
    | some content =>
      rw [normal, Faithful, Constant.str.injEq, Option.some.injEq, respelled_eq_iff]
      constructor
      · rintro ⟨isLong, text, rfl⟩
        rw [Utf8.decodeReplacing_encode] at isLong
        exact ⟨text, rfl, isLong.symm⟩
      · rintro ⟨text, rfl, rfl⟩
        rw [Utf8.decodeReplacing_encode]
        exact ⟨rfl, text, rfl⟩
  | _ => simp [normal, Faithful]

theorem Local.normal_iff (each : Local) : each.normal = each ↔ IsText each.name := by
  rw [← map_respelled_iff]
  cases each
  simp [normal]

theorem normalSource_iff (isMain : Bool) (source : Option Bytes) :
    normalSource isMain source = source ↔
      IsText source ∧ if isMain then source ≠ none else source ≠ some [] := by
  rw [← map_respelled_iff]
  cases isMain with
  | true => cases source <;> simp [normalSource]
  | false =>
    cases source with
    | none => simp [normalSource]
    | some content => cases content <;> simp [normalSource]

theorem map_eq_self_iff {α : Type} {f : α → α} (items : List α) :
    items.map f = items ↔ ∀ item ∈ items, f item = item := by
  have pointwise := @List.map_inj_left _ _ items f id
  rwa [List.map_id] at pointwise

theorem Function.normal_iff (isMain : Bool) (each : Function) :
    each.normal isMain = each ↔ each.Faithful isMain := by
  have fields : each.normal isMain = each ↔ normalSource isMain each.source = each.source ∧
      each.constants.map Constant.normal = each.constants ∧ each.locals.map Local.normal = each.locals ∧
      each.upvalueNames.map (·.map respelled) = each.upvalueNames := by
    cases each
    simp only [Function.normal, Function.mk.injEq, true_and]
  rw [fields, Function.faithful_iff, normalSource_iff, and_assoc]
  simp only [map_eq_self_iff, Constant.normal_iff, Local.normal_iff, map_respelled_iff]

mutual
theorem normal_iff (isMain : Bool) (tree : Prototype) : normal isMain tree = tree ↔ Faithful isMain tree := by
  cases tree with
  | node each inner =>
    rw [normal, Faithful, Tree.node.injEq, Function.normal_iff, normalForest_iff inner]
theorem normalForest_iff (forest : List Prototype) : normalForest forest = forest ↔ FaithfulForest forest := by
  cases forest with
  | nil => simp [normalForest, FaithfulForest]
  | cons tree forest =>
    rw [normalForest, FaithfulForest, List.cons.injEq, normal_iff false tree, normalForest_iff forest]
end

theorem Constant.normal_normal (each : Constant) : each.normal.normal = each.normal := by
  cases each with
  | str isLong content =>
    cases content with
    | none => rfl
    | some content => simp only [normal, respelled, Utf8.decodeReplacing_encode]
  | _ => rfl

theorem normalSource_normalSource (isMain : Bool) (source : Option Bytes) :
    normalSource isMain (normalSource isMain source) = normalSource isMain source := by
  cases isMain with
  | true =>
    cases source with
    | none => rfl
    | some content => exact congrArg some (respelled_respelled content)
  | false =>
    cases source with
    | none => rfl
    | some content =>
      cases content with
      | nil => rfl
      | cons byte rest =>
        -- Nothing becomes empty by being read, so it is not taken for a missing source the second time.
        have nonempty : respelled (byte :: rest) ≠ [] :=
          Utf8.encode_decodeReplacing_ne_nil (List.cons_ne_nil _ _)
        have again := respelled_respelled (byte :: rest)
        change normalSource false (some (respelled (byte :: rest))) = some (respelled (byte :: rest))
        cases found : respelled (byte :: rest) with
        | nil => exact absurd found nonempty
        | cons first others =>
          rw [found] at again
          exact congrArg some again

theorem Function.normal_normal (isMain : Bool) (each : Function) :
    (each.normal isMain).normal isMain = each.normal isMain := by
  have names (content : Option Bytes) : (content.map respelled).map respelled = content.map respelled := by
    cases content with
    | none => rfl
    | some content => exact congrArg some (respelled_respelled content)
  simp only [Function.normal, normalSource_normalSource, List.map_map, Function.comp_def,
    Constant.normal_normal, Local.normal, names]
  rfl

mutual
theorem normal_normal (isMain : Bool) (tree : Prototype) :
    normal isMain (normal isMain tree) = normal isMain tree := by
  cases tree with
  | node each inner => rw [normal, normal, Function.normal_normal, normalForest_normalForest inner]
theorem normalForest_normalForest (forest : List Prototype) :
    normalForest (normalForest forest) = normalForest forest := by
  cases forest with
  | nil => rfl
  | cons tree forest =>
    rw [normalForest, normalForest, normal_normal false tree, normalForest_normalForest forest]
end

def Function.enciphered (key : Bytes) (each : Function) : Function :=
  { each with code := Cipher.onCode key each.code }

mutual
theorem normal_enciphered (key : Bytes) (isMain : Bool) (tree : Prototype) :
    normal isMain (tree.map (Function.enciphered key)) =
      (normal isMain tree).map (Function.enciphered key) := by
  cases tree with
  | node each inner =>
    rw [Tree.map, normal, normalForest_enciphered key inner, normal, Tree.map]
    rfl
theorem normalForest_enciphered (key : Bytes) (forest : List Prototype) :
    normalForest (Tree.mapForest (Function.enciphered key) forest) =
      Tree.mapForest (Function.enciphered key) (normalForest forest) := by
  cases forest with
  | nil => rfl
  | cons tree forest =>
    rw [Tree.mapForest, normalForest, normal_enciphered key false tree, normalForest_enciphered key forest,
      normalForest, Tree.mapForest]
end

theorem Constant.of_value (each : Constant) : Constant.of each.value = each.normal := by
  cases each with
  | int bits =>
    have back : unsigned 64 (signed 64 bits.toNat) = bits.toNat := by
      have := bits.toNat_lt
      unfold unsigned signed
      split <;> omega
    rw [Constant.value, Constant.of, back, UInt64.ofNat_toNat]
    rfl
  | str isLong content => cases content <;> rfl
  | _ => rfl

theorem Upvalue.of_value (each : Upvalue) : Upvalue.of each.value = each := by
  simp [Upvalue.of, Upvalue.value]

theorem AbsLine.of_value (each : AbsLine) : AbsLine.of each.value = each := by
  simp [AbsLine.of, AbsLine.value]

theorem map_encode_text (content : Option Bytes) : (text content).map Utf8.encode = content.map respelled := by
  cases content <;> rfl

theorem Local.of_value (each : Local) : Local.of each.value = each.normal := by
  simp [Local.of, Local.value, Local.normal, map_encode_text]

theorem length_string_le_one_iff (content : Option Bytes) :
    (string content).length ≤ 1 ↔ content = none ∨ content = some [] := by
  have single (n : Nat) (small : n < 128) : (size n).length = 1 := by
    rw [size, Nat.div_eq_of_lt small, groups_zero]
    rfl
  cases content with
  | none => simp [string, single 0]
  | some content =>
    cases content with
    | nil => simp [string, single 1]
    | cons byte rest =>
      have := length_size_pos (rest.length + 1 + 1)
      simp only [string, List.length_append, List.length_cons, reduceCtorEq, Option.some.injEq, or_self,
        iff_false]
      omega

theorem source_normal (isMain : Bool) {parent : Option String} {each : V54.Function} {source : Option Bytes}
    (outer : isMain = true → parent = some "") (same : each.source = (text source).orElse fun _ => parent)
    (kept : each.recording? .source = some (string source)) :
    (Write.sourceOf isMain each).map Utf8.encode = normalSource isMain source := by
  cases isMain with
  | true =>
    rw [Write.sourceOf, if_pos rfl, same, outer rfl]
    cases source <;> rfl
  | false =>
    rw [Write.sourceOf, if_neg Bool.false_ne_true, kept]
    dsimp only
    -- The length of the spelling decides, and it does not tell an empty source from none.
    by_cases short : (string source).length ≤ 1
    · rw [if_pos short]
      rcases (length_string_le_one_iff source).mp short with rfl | rfl <;> rfl
    · rw [if_neg short, same]
      rw [length_string_le_one_iff] at short
      match source with
      | none => exact absurd (.inl rfl) short
      | some [] => exact absurd (.inr rfl) short
      | some (byte :: rest) => rfl

theorem map_of_bare {α β : Type} {of : α → β} {bare : α → α} {value : β → α} {normal : β → β} {items : List α}
    {spelled : List β} (same : items.map bare = spelled.map value)
    (back : ∀ each, of (value each) = normal each) (unchanged : ∀ item, of (bare item) = of item) :
    items.map of = spelled.map normal := by
  have mapped := congrArg (List.map of) same
  simpa only [List.map_map, Function.comp_def, unchanged, back] using mapped

theorem Function.of_onFunction (key : Bytes) (isMain : Bool) {parent : Option String} {spelled : Function}
    {each : V54.Function} (outer : isMain = true → parent = some "") (same : each.bare = spelled.value parent)
    (sourceKept : each.recording? .source = some (string spelled.source))
    (codeKept : each.recording? .code = some spelled.code) :
    Function.of isMain (Cipher.onFunction key each) = (spelled.normal isMain).enciphered key := by
  have code : (Write.code (Cipher.onFunction key each)).bytes = Cipher.onCode key spelled.code := by
    rw [Write.code, Cipher.recording?_code, codeKept]
    rfl
  simp only [V54.Function.bare, Function.value, V54.Function.mk.injEq] at same
  obtain ⟨named, lineDefined, lastLineDefined, paramCount, varargFlag, maxStackSize, _, constants, upvalues,
    lines, absLines, localVariables, names, _⟩ := same
  have source := source_normal isMain outer named sourceKept
  have upvaluesOf : each.upvalues.map Upvalue.of = spelled.upvalues.map id :=
    map_of_bare upvalues Upvalue.of_value fun _ => rfl
  have absLinesOf : each.absLineInfo.map AbsLine.of = spelled.absLineInfo.map id :=
    map_of_bare absLines AbsLine.of_value fun _ => rfl
  have localsOf : each.locals.map Local.of = spelled.locals.map Local.normal :=
    map_of_bare localVariables Local.of_value fun _ => rfl
  rw [Function.of, Cipher.sourceOf_onFunction, source, code]
  simp only [Cipher.onFunction, lineDefined, lastLineDefined, paramCount, varargFlag, maxStackSize, constants,
    upvaluesOf, lines, absLinesOf, localsOf, names]
  simp only [List.map_map, Function.comp_def, Int.toNat_natCast, UInt64.ofNat_toNat, UInt8.ofNat_toNat,
    Constant.of_value, map_encode_text, List.map_id, List.map_id']
  rfl

mutual
theorem of_onTree (key : Bytes) (isMain : Bool) (parent : Option String) (raw : Prototype)
    (tree : V54.Prototype) (outer : isMain = true → parent = some "") (same : bare tree = value parent raw)
    (kept : Read.Kept raw tree) :
    of isMain (Cipher.onTree key tree) = (normal isMain raw).map (Function.enciphered key) := by
  cases raw with
  | node spelled inner =>
    cases tree with
    | node each trees =>
      obtain ⟨sourceKept, codeKept, forestKept⟩ := kept
      rw [bare, Tree.map, value, Tree.node.injEq] at same
      rw [Cipher.onTree, Tree.map, of, Function.of_onFunction key isMain outer same.1 sourceKept codeKept,
        ofForest_onTree key _ inner trees same.2 forestKept, normal, Tree.map]
theorem ofForest_onTree (key : Bytes) (parent : Option String) (raw : List Prototype)
    (forest : List V54.Prototype) (same : Tree.mapForest V54.Function.bare forest = forestValue parent raw)
    (kept : Read.KeptForest raw forest) :
    ofForest (Tree.mapForest (Cipher.onFunction key) forest) =
      Tree.mapForest (Function.enciphered key) (normalForest raw) := by
  cases raw with
  | nil =>
    cases forest with
    | nil => rfl
    | cons tree forest => exact kept.elim
  | cons spelled raw =>
    cases forest with
    | nil => exact kept.elim
    | cons tree forest =>
      rw [Tree.mapForest, forestValue, List.cons.injEq] at same
      have head := of_onTree key false parent spelled tree nofun same.1 kept.1
      rw [Cipher.onTree] at head
      rw [Tree.mapForest, ofForest, head, ofForest_onTree key parent raw forest same.2 kept.2, normalForest,
        Tree.mapForest]
end

theorem Function.enciphered_enciphered (key : Bytes) (each : Function) :
    (each.enciphered key).enciphered key = each := by
  have back := Cipher.onCode_onCode key each.code
  change { each with code := Cipher.onCode key (Cipher.onCode key each.code) } = each
  rw [back]

theorem length_upvalues_value (parent : Option String) {raw : Prototype} {tree : V54.Prototype}
    (same : bare tree = value parent raw) : tree.top.upvalues.length = raw.top.upvalues.length := by
  have counts := congrArg (fun tree => tree.top.upvalues.length) same
  cases raw with
  | node each inner =>
    simp only [bare, Tree.top_map, V54.Function.bare, value, Tree.top.eq_1, Function.value,
      List.length_map] at counts
    exact counts

end Wire

theorem decrypt_encrypt (raw : Wire.Prototype) (key : Bytes) (fits : raw.Every Wire.Function.Fits)
    (few : raw.top.upvalues.length ≤ 255) (small : Small (Wire.file Write.header raw)) (keyed : key ≠ []) :
    (Wire.normal true raw).Every Wire.Function.Fits ∧ ∃ chunk after encrypted hidden hiddenAfter,
      parse true (Wire.file Write.header raw) = (.ok chunk, after) ∧ after.rest = [] ∧
      recoded key chunk.main = .ok encrypted ∧ parse true encrypted = (.ok hidden, hiddenAfter) ∧
      recoded key hidden.main = .ok (Wire.file Write.header (Wire.normal true raw)) := by
  obtain ⟨chunk, after, ran, left, main, kept⟩ := parse_file true raw fits
  obtain ⟨every, _⟩ := parse_accepted small ran
  obtain ⟨hidden, hiddenAfter, ranHidden, hiddenEvery, spelled, keptHidden⟩ :=
    parse_written _ (writable_onTree key every)
  have fewRead : chunk.main.top.upvalues.length ≤ 255 := by rwa [Wire.length_upvalues_value _ main]
  have fewHidden : hidden.main.top.upvalues.length ≤ 255 := by
    rwa [upvalues_recoded (unsourced_recoded every spelled)]
  have once := Wire.of_onTree key true (some "") raw chunk.main (fun _ => rfl) main (kept rfl)
  -- The second pass starts from texts that have been read before, and takes the key away again.
  have twice : Wire.of true (Cipher.onTree key hidden.main) = Wire.normal true raw := by
    rw [Wire.of_onTree key true (some "") _ hidden.main (fun _ => rfl) spelled keptHidden, once,
      Wire.normal_enciphered, Wire.normal_normal, Tree.map_map]
    exact Tree.map_eq_self (Wire.Function.enciphered_enciphered key) _
  have normalFits := Wire.fits_of true _ (writable_onTree key hiddenEvery)
  have written := recoded_eq key keyed hidden.main hiddenEvery fewHidden
  rw [twice] at normalFits written
  exact ⟨normalFits, chunk, after, _, hidden, hiddenAfter, ran, left,
    recoded_eq key keyed chunk.main every fewRead, ranHidden, written⟩

theorem decrypted_file_iff (raw : Wire.Prototype) (key : Bytes) (canonical : raw.Every Wire.Function.Canonical)
    (few : raw.top.upvalues.length ≤ 255) (small : Small (Wire.file Write.header raw)) (keyed : key ≠ []) :
    ∃ chunk after encrypted hidden hiddenAfter decrypted,
      parse true (Wire.file Write.header raw) = (.ok chunk, after) ∧ after.rest = [] ∧
      recoded key chunk.main = .ok encrypted ∧ parse true encrypted = (.ok hidden, hiddenAfter) ∧
      recoded key hidden.main = .ok decrypted ∧ decrypted = Wire.file Write.header (Wire.normal true raw) ∧
      (decrypted = Wire.file Write.header raw ↔ Wire.Faithful true raw) := by
  have fits : raw.Every Wire.Function.Fits := Tree.every_mono (fun _ own => own.fits) raw canonical
  obtain ⟨normalFits, chunk, after, encrypted, hidden, hiddenAfter, ran, left, written, ranHidden,
    writtenBack⟩ := decrypt_encrypt raw key fits few small keyed
  refine ⟨chunk, after, encrypted, hidden, hiddenAfter, _, ran, left, written, ranHidden, writtenBack, rfl, ?_⟩
  rw [← Wire.normal_iff]
  constructor
  · -- One file has one spelling, so equal bytes leave nothing to respell.
    intro same
    exact Wire.file_unique Write.header normalFits fits same
  · intro same
    rw [same]

-- One constant, a byte that is no text.
def strayByte : Wire.Prototype :=
  .node
    { source := some [0x78], lineDefined := 0, lastLineDefined := 0, paramCount := 0, varargFlag := 0,
      maxStackSize := 2, code := Wire.counted Wire.word [0x04030201], constants := [.str false (some [0xFF])],
      upvalues := [], lineInfo := [], absLineInfo := [], locals := [], upvalueNames := [] }
    []

theorem canonical_strayByte : strayByte.Every Wire.Function.Canonical := by
  refine ⟨⟨?_, ⟨_, rfl⟩, ?_⟩, by decide, trivial⟩
  · constructor
    case source => simp [Wire.ContentFits]
    case code => exact ⟨0, [0x04030201], by decide, rfl⟩
    case constants => simp [Wire.Constant.Fits, Wire.ContentFits]
    all_goals simp
  · simp [Wire.Constant.Canonical]

theorem decrypted_file_iff_strayByte :
    ∃ chunk after encrypted hidden hiddenAfter decrypted,
      parse true (Wire.file Write.header strayByte) = (.ok chunk, after) ∧ after.rest = [] ∧
      recoded [0x4B] chunk.main = .ok encrypted ∧ parse true encrypted = (.ok hidden, hiddenAfter) ∧
      recoded [0x4B] hidden.main = .ok decrypted ∧
      decrypted = Wire.file Write.header (Wire.normal true strayByte) ∧
      (decrypted = Wire.file Write.header strayByte ↔ Wire.Faithful true strayByte) :=
  decrypted_file_iff strayByte [0x4B] canonical_strayByte (by decide) (by decide +kernel) (by decide)

theorem stray_byte_replaced :
    ∃ chunk after encrypted hidden hiddenAfter decrypted,
      parse true (Wire.file Write.header strayByte) = (.ok chunk, after) ∧ after.rest = [] ∧
      recoded [0x4B] chunk.main = .ok encrypted ∧ parse true encrypted = (.ok hidden, hiddenAfter) ∧
      recoded [0x4B] hidden.main = .ok decrypted ∧ decrypted ≠ Wire.file Write.header strayByte := by
  have fits := Tree.every_mono (fun _ own => own.fits) strayByte canonical_strayByte
  obtain ⟨_, chunk, after, encrypted, hidden, hiddenAfter, ran, left, written, ranHidden, writtenBack⟩ :=
    decrypt_encrypt strayByte [0x4B] fits (by decide) (by decide +kernel) (by decide)
  exact ⟨chunk, after, encrypted, hidden, hiddenAfter, _, ran, left, written, ranHidden, writtenBack,
    by decide +kernel⟩

end LuaBytecode.V54
