import LuaBytecode.Proofs.V54.Texts

namespace LuaBytecode.V54

open Text

variable {τ σ : Type}

theorem words_written {each : Function} (plain : each.recorded = none) (range : each.InRange) :
    Wire.words (Cipher.splitSize (Write.code each).bytes).2 = each.code := by
  have absent : each.recording? .code = none := by
    rw [Function.recording?, plain]
  have spelled : Write.counted Emission.word each.code =
      { bytes := (Wire.codeSection 0 (each.code.map fun word => UInt32.ofNat word.toNat)) } :=
    Write.counted_eq each.code fun word member => Write.word_eq (range.code.2 word member)
  rw [Write.code, absent]
  dsimp only
  rw [spelled, Read.words_codeSection]
  have back : (each.code.map fun word => UInt32.ofNat word.toNat).map (fun word => (word.toNat : Int)) =
      each.code.map id :=
    Wire.map_of_value each.code fun word member => Write.toNat_ofNat_word (range.code.2 word member)
  rw [back, List.map_id]

theorem reread_plain {each : Function} (plain : each.recorded = none) (range : each.InRange) :
    each.reread each.source = each.bare := by
  rw [Function.reread, words_written plain range]
  rfl

mutual
theorem reread_eq_bare (isMain : Bool) (source : String) (tree : Prototype) (parent : Option String)
    (outer : isMain = false → parent = some source)
    (every : ∀ each ∈ tree.toList, each.InRange ∧ each.recorded = none ∧ each.source = some source) :
    reread isMain parent tree = bare tree := by
  cases tree with
  | node each inner =>
    rw [Tree.toList] at every
    obtain ⟨range, plain, named⟩ := every each List.mem_cons_self
    -- Only the main function is written with a source; the others find it around them.
    have own : ((Write.sourceOf isMain each).orElse fun _ => parent) = each.source := by
      cases isMain with
      | true =>
        rw [Write.sourceOf, if_pos rfl, named]
        rfl
      | false =>
        rw [sourceOf_plain plain, outer rfl, named]
        rfl
    have later := rereadForest_eq_bare source inner each.source named fun other member =>
      every other (List.mem_cons_of_mem each member)
    rw [reread, own, reread_plain plain range, later]
    rfl
theorem rereadForest_eq_bare (source : String) (forest : List Prototype) (parent : Option String)
    (outer : parent = some source)
    (every : ∀ each ∈ Tree.listOfForest forest,
      each.InRange ∧ each.recorded = none ∧ each.source = some source) :
    rereadForest parent forest = Tree.mapForest Function.bare forest := by
  cases forest with
  | nil => rfl
  | cons tree forest =>
    rw [Tree.listOfForest] at every
    have head := reread_eq_bare false source tree parent (fun _ => outer) fun each member =>
      every each (List.mem_append_left _ member)
    have tail := rereadForest_eq_bare source forest parent outer fun each member =>
      every each (List.mem_append_right _ member)
    rw [rereadForest, head, tail, bare, Tree.mapForest]
end

theorem toExcept_bytes (bytes : Bytes) : ({ bytes } : Emission).toExcept = .ok bytes :=
  rfl

theorem parse_write_reread (record : Bool) (tree : Prototype) (writable : tree.Every Function.Writable)
    (few : tree.top.upvalues.length ≤ 255) :
    ∃ bytes chunk after, (write (some tree)).toExcept = .ok bytes ∧
      parse record bytes = (.ok chunk, after) ∧ after.rest = [] ∧
      bare chunk.main = reread true (some "") tree := by
  obtain ⟨chunk, after, ran, left, main, _⟩ := parse_file record _ (Wire.fits_of true tree writable)
  refine ⟨_, chunk, after, ?_, ran, left, ?_⟩
  · rw [write_eq tree writable few, toExcept_bytes]
  · rw [main, Wire.value_of true (some "") tree writable]

theorem parse_write_chars (tree : Prototype) (source : String) (record : Bool)
    (range : ∀ each ∈ tree.toList, each.InRange) (held : tree.toList.length < 2 ^ 64)
    (plain : ∀ each ∈ tree.toList, each.recorded = none)
    (shared : ∀ each ∈ tree.toList, each.source = some source)
    (few : tree.top.upvalues.length ≤ 255) :
    ∃ bytes chunk after, (write (some tree)).toExcept = .ok bytes ∧
      parse record bytes = (.ok chunk, after) ∧ after.rest = [] ∧ bare chunk.main = bare tree := by
  have writable : tree.Every Function.Writable := by
    apply Tree.every_of_toList tree held
    intro each member
    refine ⟨range each member, ?_⟩
    intro kept found
    rw [Function.recording?, plain each member] at found
    cases found
  obtain ⟨bytes, chunk, after, written, ran, left, main⟩ := parse_write_reread record tree writable few
  refine ⟨bytes, chunk, after, written, ran, left, ?_⟩
  rw [main]
  have outermost : true = false → some "" = some source := fun inner => by cases inner
  exact reread_eq_bare true source tree (some "") outermost fun each member =>
    ⟨range each member, plain each member, shared each member⟩

theorem mapText_ofString {tree : Prototype Wide} (held : tree.toList.length < 2 ^ 64)
    (free : ∀ each ∈ tree.toList, ∀ text ∈ each.texts, text.IsPlain) :
    (tree.map (Function.mapText Wide.chars)).map (Function.mapText Wide.ofString) = tree := by
  have same : tree.Every fun each => (each.mapText Wide.chars).mapText Wide.ofString = each := by
    apply Tree.every_of_toList tree held
    intro each member
    rw [mapText_mapText]
    exact mapText_eq_self fun text own => Wide.ofString_chars (free each member text own)
  rw [Tree.map_map, Tree.map_congr tree same]
  exact Tree.map_eq_self (fun _ => rfl) tree

theorem bare_map (change : τ → σ) (tree : Prototype τ) :
    (bare tree).map (Function.mapText change) = bare (tree.map (Function.mapText change)) := by
  rw [bare, bare, Tree.map_map, Tree.map_map]
  simp only [bare_mapText]

theorem fault_write_mixed {tree : Prototype Wide} (every : tree.Every Function.Encodable)
    (few : tree.top.upvalues.length ≤ 255) {text : Wide} (inside : text ∈ written true tree) (mixed : ¬ text.IsPlain) :
    ∃ code first last, (write (some tree)).fault = some (.surrogates code first last) := by
  have stops := fault_write every few
  cases stopped : (write (some tree)).fault with
  | none =>
    rw [stopped, eq_comm, List.findSome?_eq_none_iff] at stops
    obtain ⟨_, _, _, failed⟩ := Wide.fault?_of_mixed mixed
    rw [stops text inside] at failed
    cases failed
  | some fault =>
    rw [stopped] at stops
    obtain ⟨stray, _, failed⟩ := List.exists_of_findSome?_eq_some stops.symm
    obtain ⟨code, first, last, rfl⟩ := Wide.surrogates_of_fault? failed
    exact ⟨code, first, last, rfl⟩

theorem parse_write (tree : Prototype Wide) (source : Wide) (record : Bool)
    (range : ∀ each ∈ tree.toList, each.InRange) (held : tree.toList.length < 2 ^ 64)
    (plain : ∀ each ∈ tree.toList, each.recorded = none)
    (shared : ∀ each ∈ tree.toList, each.source = some source)
    (few : tree.top.upvalues.length ≤ 255) :
    ((∀ each ∈ tree.toList, ∀ text ∈ each.texts, text.IsPlain) →
      ∃ bytes chunk after, (write (some tree)).toExcept = .ok bytes ∧
        parse record bytes = (.ok chunk, after) ∧ after.rest = [] ∧
        (bare chunk.main).map (Function.mapText Wide.ofString) = bare tree) ∧
    ∀ each ∈ tree.toList, ∀ text ∈ each.texts, ¬ text.IsPlain →
      ∃ code first last, (write (some tree)).toExcept = .error (.surrogates code first last) := by
  constructor
  · intro free
    have whole := mapText_ofString held free
    generalize tree.map (Function.mapText Wide.chars) = chars at whole
    subst whole
    rw [Tree.toList_map, List.length_map] at held
    rw [Tree.toList_map, List.forall_mem_map] at range plain shared
    have named : ∀ each ∈ chars.toList, each.source = some source.chars := by
      intro each member
      obtain ⟨text, own, rfl⟩ := Option.map_eq_some_iff.mp (shared each member)
      rw [own, Wide.chars_ofString]
    rw [Tree.top_map] at few
    obtain ⟨bytes, chunk, after, written, ran, left, main⟩ := parse_write_chars chars source.chars record
      (fun each member => (inRange_mapText Wide.keeps_ofString each).mp (range each member)) held plain named few
    refine ⟨bytes, chunk, after, ?_, ran, left, ?_⟩
    · rw [write_mapText Wide.keeps_ofString, written]
    · rw [main, bare_map]
  · intro each member text own mixed
    have every : tree.Every Function.Encodable :=
      Tree.every_of_toList tree held fun other known => (range other known).encodable
    have inside : text ∈ written true tree := (mem_written_iff plain shared).mpr ⟨each, member, own⟩
    obtain ⟨code, first, last, stopped⟩ := fault_write_mixed every few inside mixed
    exact ⟨code, first, last, by rw [Emission.toExcept, stopped]⟩

-- A main function with a constant of every kind, around one without any.
def nestedTree : Prototype Wide :=
  let source := Wide.ofString "@é"
  .node
    { source := some source, lastLineDefined := 2 ^ 64 - 1, varargFlag := 255, code := [0, 2 ^ 32 - 1],
      constants := [.nil, .bool false, .bool true, .int (-2 ^ 63), .num ⟨0x7FF8000000000001⟩, .str []],
      upvalues := [{ inStack := 1, index := 0, kind := 255 }], lineInfo := [0, 255],
      absLineInfo := [{ pc := 0, line := 300 }], locals := [{ name := none, startPc := 0, endPc := 129 }],
      upvalueNames := [some (Wide.ofString "_ENV"), none], recorded := none }
    [.node { source := some source, recorded := none } []]

theorem parse_write_nested :
    ∃ bytes chunk after, (write (some nestedTree)).toExcept = .ok bytes ∧
      parse true bytes = (.ok chunk, after) ∧ after.rest = [] ∧
      (bare chunk.main).map (Function.mapText Wide.ofString) = bare nestedTree :=
  (parse_write nestedTree (Wide.ofString "@é") true (by decide) (by decide) (by decide) (by decide) (by decide)).1
    (by decide)

-- Half a character at the end of a constant of the inner function.
def strayTree : Prototype Wide :=
  let source := Wide.ofString "@é"
  .node { source := some source, recorded := none }
    [.node { source := some source, constants := [.str [.char 'a', .surrogate 0]], recorded := none } []]

theorem write_strayTree :
    (∀ each ∈ strayTree.toList, each.InRange ∧ each.recorded = none ∧ each.source = some (Wide.ofString "@é")) ∧
      strayTree.top.upvalues.length ≤ 255 ∧
      (write (some strayTree)).toExcept = .error (.surrogates 0xD800 1 1) ∧
      ¬ ∃ bytes, (write (some strayTree)).toExcept = .ok bytes := by
  have stopped : (write (some strayTree)).toExcept = .error (.surrogates 0xD800 1 1) := rfl
  refine ⟨by decide, by decide, stopped, ?_⟩
  rintro ⟨bytes, written⟩
  rw [stopped] at written
  cases written

end LuaBytecode.V54
