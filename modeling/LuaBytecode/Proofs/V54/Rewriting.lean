import LuaBytecode.Proofs.V54.Accepted
import LuaBytecode.Proofs.V54.RoundTrip
/-!
Writing what was read. All of a tree comes back but for one thing: an inner function whose source is
empty, spelled in one byte, is written as if it had named none, and takes the source of the function
around it.
-/
namespace LuaBytecode.V54

theorem inRange_bare (each : Function) : each.bare.InRange ↔ each.InRange := by
  simp only [Function.inRange_iff, Function.bare, List.length_map, List.mem_map, forall_exists_index, and_imp,
    forall_apply_eq_imp_iff₂, Upvalue.inRange_iff, AbsLine.inRange_iff, Local.inRange_iff, Upvalue.bare,
    AbsLine.bare, Local.bare]

theorem inRange_reread {each : Function} (writable : each.Writable) {source : Option String}
    (fits : TextFits source) : (each.reread source).InRange := by
  have others := (inRange_bare each).mpr writable.1
  obtain ⟨padding, code, bound, spelled⟩ := Write.isCode_code each writable.1 writable.2
  have words : (each.reread source).code = code.map fun word => (word.toNat : Int) := by
    rw [Function.reread, spelled, Read.words_codeSection]
  exact { others with source := fits, code := Read.words_range bound words }

theorem length_rereadForest (parent : Option String) (forest : List Prototype) :
    (rereadForest parent forest).length = forest.length := by
  induction forest with
  | nil => rfl
  | cons tree forest ih => rw [rereadForest, List.length_cons, ih, List.length_cons]

mutual
theorem every_reread (isMain : Bool) (parent : Option String) (tree : Prototype)
    (writable : tree.Every Function.Writable) (fits : TextFits parent) (named : parent ≠ none) :
    (reread isMain parent tree).Every (fun each => each.InRange ∧ each.source ≠ none) := by
  cases tree with
  | node each inner =>
    obtain ⟨own, few, forest⟩ := writable
    have sourceFits : TextFits ((Write.sourceOf isMain each).orElse fun _ => parent) := by
      cases written : Write.sourceOf isMain each with
      | none => exact fits
      | some text =>
        rintro _ ⟨⟩
        exact own.1.source text (Write.mem_source isMain each written)
    have sourceNamed : ((Write.sourceOf isMain each).orElse fun _ => parent) ≠ none := by
      cases Write.sourceOf isMain each with
      | none => exact named
      | some text => exact nofun
    refine ⟨⟨inRange_reread own sourceFits, sourceNamed⟩, ?_,
      everyForest_reread _ inner forest sourceFits sourceNamed⟩
    rwa [length_rereadForest]
theorem everyForest_reread (parent : Option String) (forest : List Prototype)
    (writable : Tree.EveryForest Function.Writable forest) (fits : TextFits parent) (named : parent ≠ none) :
    Tree.EveryForest (fun each => each.InRange ∧ each.source ≠ none) (rereadForest parent forest) := by
  cases forest with
  | nil => trivial
  | cons tree forest =>
    exact ⟨every_reread false parent tree writable.1 fits named,
      everyForest_reread parent forest writable.2 fits named⟩
end

mutual
theorem accepted_of_kept (parent : Option String) (raw : Wire.Prototype) (tree : Prototype)
    (fits : raw.Every Wire.Function.Fits) (same : bare tree = Wire.value parent raw) (kept : Read.Kept raw tree)
    (range : (Wire.value parent raw).Every (fun each => each.InRange ∧ each.source ≠ none)) :
    tree.Every Function.Accepted := by
  cases raw with
  | node spelled inner =>
    cases tree with
    | node each trees =>
      obtain ⟨ownFits, _, forestFits⟩ := fits
      obtain ⟨_, codeKept, forestKept⟩ := kept
      rw [Wire.value] at range
      obtain ⟨⟨ownRange, named⟩, few, forestRange⟩ := range
      rw [bare, Tree.map, Wire.value, Tree.node.injEq] at same
      obtain ⟨own, forestSame⟩ := same
      rw [← own] at ownRange named
      rw [← forestSame, Tree.length_mapForest] at few
      refine ⟨⟨(inRange_bare each).mp ownRange, named, ?_⟩, few,
        acceptedForest_of_kept _ inner trees forestFits forestSame forestKept forestRange⟩
      -- The words and the section that was kept come from the same bytes.
      obtain ⟨padding, code, bound, section_⟩ := ownFits.code
      refine ⟨padding, code, bound, by rw [codeKept, section_], ?_⟩
      have words : each.code = Wire.words (Cipher.splitSize spelled.code).2 := congrArg Function.code own
      rw [words, section_, Read.words_codeSection]
theorem acceptedForest_of_kept (parent : Option String) (raw : List Wire.Prototype) (forest : List Prototype)
    (fits : Tree.EveryForest Wire.Function.Fits raw)
    (same : Tree.mapForest Function.bare forest = Wire.forestValue parent raw)
    (kept : Read.KeptForest raw forest)
    (range : Tree.EveryForest (fun each => each.InRange ∧ each.source ≠ none) (Wire.forestValue parent raw)) :
    Tree.EveryForest Function.Accepted forest := by
  cases raw with
  | nil =>
    cases forest with
    | nil => trivial
    | cons tree forest => exact kept.elim
  | cons spelled raw =>
    cases forest with
    | nil => exact kept.elim
    | cons tree forest =>
      rw [Tree.mapForest, Wire.forestValue, List.cons.injEq] at same
      exact ⟨accepted_of_kept parent spelled tree fits.1 same.1 kept.1 range.1,
        acceptedForest_of_kept parent raw forest fits.2 same.2 kept.2 range.2⟩
end

theorem parse_written (tree : Prototype) (writable : tree.Every Function.Writable) :
    ∃ chunk after, parse true (Wire.file Write.header (Wire.of true tree)) = (.ok chunk, after) ∧
      chunk.main.Every Function.Accepted ∧ bare chunk.main = Wire.value (some "") (Wire.of true tree) ∧
      Read.Kept (Wire.of true tree) chunk.main := by
  have fits := Wire.fits_of true tree writable
  obtain ⟨chunk, after, ran, _, main, kept⟩ := parse_file true (Wire.of true tree) fits
  refine ⟨chunk, after, ran, accepted_of_kept (some "") _ chunk.main fits main (kept rfl) ?_, main, kept rfl⟩
  rw [Wire.value_of true (some "") tree writable]
  exact every_reread true (some "") tree writable (by decide) nofun

def Function.unsourced (each : Function) : Function := { each.bare with source := none }

def unsourced (tree : Prototype) : Prototype := tree.map Function.unsourced

def Function.BlankSource (each : Function) : Prop :=
  each.source = some "" ∧ ∃ kept, each.recording? .source = some kept ∧ kept.length ≤ 1

mutual
def BlankWithinBlank : Prototype → Prop
  | .node each inner => BlankWithin each.source inner
def BlankWithin (outer : Option String) : List Prototype → Prop
  | [] => True
  | tree :: forest =>
    (tree.top.BlankSource → outer = some "") ∧ BlankWithinBlank tree ∧ BlankWithin outer forest
end

theorem words_inStep {each : Function} (inStep : each.InStep) :
    Wire.words (Cipher.splitSize (Write.code each).bytes).2 = each.code := by
  obtain ⟨padding, code, _, kept, same⟩ := inStep
  rw [Write.code, kept, Read.words_codeSection, same]

theorem reread_eq_bare_iff {each : Function} (inStep : each.InStep) (source : Option String) :
    each.reread source = each.bare ↔ source = each.source := by
  rw [Function.reread, words_inStep inStep]
  constructor
  · intro same
    exact congrArg Function.source same
  · rintro rfl
    rfl

theorem orElse_named {source : Option String} (named : source ≠ none) (parent : Option String) :
    (source.orElse fun _ => parent) = source := by
  cases source with
  | none => exact absurd rfl named
  | some text => rfl

theorem inner_source_iff {each : Function} {parent : Option String} (named : each.source ≠ none)
    (keeps : each.KeepsSource parent) :
    ((Write.sourceOf false each).orElse fun _ => parent) = each.source ↔
      (each.BlankSource → parent = some "") := by
  obtain ⟨kept, found, spelled⟩ := keeps
  -- The writer goes by the length alone, where the reader told an empty source from none.
  by_cases short : kept.length ≤ 1
  · have unwritten : Write.sourceOf false each = none := by
      simp [Write.sourceOf, found, short]
    rw [unwritten]
    change parent = each.source ↔ _
    constructor
    · rintro same ⟨empty, _⟩
      rw [same, empty]
    · intro blank
      rcases spelled short with inherited | empty
      · exact inherited.symm
      · rw [blank ⟨empty, kept, found, short⟩, empty]
  · have written : Write.sourceOf false each = each.source := by
      simp [Write.sourceOf, found, short]
    rw [written, orElse_named named]
    constructor
    · rintro _ ⟨_, other, same, brief⟩
      rw [found] at same
      cases same
      exact absurd brief short
    · intro _
      rfl

mutual
theorem reread_iff (isMain : Bool) (parent : Option String) (tree : Prototype)
    (accepted : tree.Every Function.Accepted) (keeps : KeepsSources parent tree) :
    reread isMain parent tree = bare tree ↔
      ((Write.sourceOf isMain tree.top).orElse fun _ => parent) = tree.top.source ∧ BlankWithinBlank tree := by
  cases tree with
  | node each inner =>
    obtain ⟨own, _, forest⟩ := accepted
    have below := rereadForest_iff each.source inner forest keeps.2
    rw [reread, bare, Tree.map, Tree.node.injEq, reread_eq_bare_iff own.inStep, Tree.top, BlankWithinBlank]
    -- What is inside gets the source as it came back; once that is the old one, so is all below.
    constructor
    · rintro ⟨source, later⟩
      rw [source] at later
      exact ⟨source, below.mp later⟩
    · rintro ⟨source, later⟩
      rw [source]
      exact ⟨rfl, below.mpr later⟩
theorem rereadForest_iff (parent : Option String) (forest : List Prototype)
    (accepted : Tree.EveryForest Function.Accepted forest) (keeps : KeepsForestSources parent forest) :
    rereadForest parent forest = Tree.mapForest Function.bare forest ↔ BlankWithin parent forest := by
  cases forest with
  | nil => exact ⟨fun _ => trivial, fun _ => rfl⟩
  | cons tree forest =>
    have head := reread_iff false parent tree accepted.1 keeps.1
    have tail := rereadForest_iff parent forest accepted.2 keeps.2
    have source : ((Write.sourceOf false tree.top).orElse fun _ => parent) = tree.top.source ↔
        (tree.top.BlankSource → parent = some "") := by
      cases tree with
      | node each inner => exact inner_source_iff accepted.1.1.named keeps.1.1
    rw [bare] at head
    rw [rereadForest, Tree.mapForest, List.cons.injEq, head, tail, source, BlankWithin, and_assoc]
end

theorem Function.bare_bare (each : Function) : each.bare.bare = each.bare := by
  simp only [Function.bare, List.map_map]
  rfl

theorem Function.unsourced_reread (each : Function) (source : Option String) :
    (each.reread source).unsourced = each.reread none := by
  have again := each.bare_bare
  simp only [Function.bare, Function.mk.injEq] at again
  obtain ⟨_, _, _, _, _, _, _, _, upvalues, _, absLines, localVariables, _⟩ := again
  simp only [Function.unsourced, Function.reread, Function.bare, upvalues, absLines, localVariables]

-- Whatever becomes of the sources, nothing else depends on them.
mutual
theorem unsourced_reread (isMain : Bool) (parent : Option String) (tree : Prototype) :
    unsourced (reread isMain parent tree) = tree.map (Function.reread none) := by
  cases tree with
  | node each inner =>
    rw [reread, unsourced, Tree.map, Function.unsourced_reread, unsourced_rereadForest _ inner, Tree.map]
theorem unsourced_rereadForest (parent : Option String) (forest : List Prototype) :
    Tree.mapForest Function.unsourced (rereadForest parent forest) =
      Tree.mapForest (Function.reread none) forest := by
  cases forest with
  | nil => rfl
  | cons tree forest =>
    have head := unsourced_reread false parent tree
    rw [unsourced] at head
    rw [rereadForest, Tree.mapForest, head, unsourced_rereadForest parent forest, Tree.mapForest]
end

theorem reread_none_inStep {each : Function} (inStep : each.InStep) : each.reread none = each.unsourced := by
  rw [Function.reread, words_inStep inStep]
  rfl

theorem unsourced_bare (tree : Prototype) : unsourced (bare tree) = unsourced tree := by
  rw [unsourced, bare, Tree.map_map]
  congr 1
  funext each
  rw [Function.unsourced, Function.bare_bare]
  rfl

theorem writable_of_accepted {tree : Prototype} (accepted : tree.Every Function.Accepted) :
    tree.Every Function.Writable := by
  apply Tree.every_mono _ tree accepted
  intro each own
  exact ⟨own.range, Function.keepsCode_of_inStep own.inStep⟩

theorem main_source {tree : Prototype} (accepted : tree.Every Function.Accepted) (parent : Option String) :
    ((Write.sourceOf true tree.top).orElse fun _ => parent) = tree.top.source := by
  cases tree with
  | node each inner => exact orElse_named accepted.1.named parent

theorem rewritten_tree_iff (file : Bytes) (chunk : Chunk) (after : Input) (record : Bool) (small : Small file)
    (accepted : parse true file = (.ok chunk, after)) (few : chunk.main.top.upvalues.length ≤ 255) :
    ∃ bytes again after', (write (some chunk.main)).toExcept = .ok bytes ∧
      parse record bytes = (.ok again, after') ∧ after'.rest = [] ∧
      unsourced again.main = unsourced chunk.main ∧
      (bare again.main = bare chunk.main ↔ BlankWithinBlank chunk.main) := by
  obtain ⟨every, keeps⟩ := parse_accepted small accepted
  obtain ⟨bytes, again, after', written, ran, left, main⟩ :=
    parse_write_reread record chunk.main (writable_of_accepted every) few
  refine ⟨bytes, again, after', written, ran, left, ?_, ?_⟩
  · have same : chunk.main.map (Function.reread none) = unsourced chunk.main :=
      Tree.map_congr chunk.main
        (Tree.every_mono (fun each own => reread_none_inStep own.inStep) chunk.main every)
    rw [← unsourced_bare, main, unsourced_reread, same]
  · rw [main, reread_iff true (some "") chunk.main every keeps]
    exact and_iff_right (main_source every (some ""))

-- A function with an empty source, of one byte, inside a function with the source x.
def blankInner : Bytes :=
  Write.header ++ [0, 0x82, 0x78, 0x80, 0x80, 0, 0, 2, 0x80, 0x80, 0x80, 0x81,
    0x81, 0x80, 0x80, 0, 0, 2, 0x80, 0x80, 0x80, 0x80, 0x80, 0x80, 0x80, 0x80, 0x80, 0x80, 0x80, 0x80]

theorem rewritten_tree_iff_blankInner :
    ∃ chunk after, parse true blankInner = (.ok chunk, after) ∧
      ∃ bytes again after', (write (some chunk.main)).toExcept = .ok bytes ∧
        parse true bytes = (.ok again, after') ∧ after'.rest = [] ∧
        unsourced again.main = unsourced chunk.main ∧
        (bare again.main = bare chunk.main ↔ BlankWithinBlank chunk.main) := by
  have upvalues : seen (fun chunk => chunk.main.top.upvalues.length) blankInner = some 0 := by
    decide +kernel
  obtain ⟨chunk, after, accepted, none⟩ := parse_of_seen upvalues
  have few : chunk.main.top.upvalues.length ≤ 255 := by omega
  exact ⟨chunk, after, accepted, rewritten_tree_iff blankInner chunk after true (by decide) accepted few⟩

def sources (tree : Prototype) : List (Option String) := (bare tree).toList.map Function.source

-- Written again, the byte of the inner source says that there is none.
def blankInnerRewritten : Bytes := blankInner.set 43 0x80

theorem blank_source_lost :
    ∃ chunk after bytes again after', parse true blankInner = (.ok chunk, after) ∧
      chunk.main.top.upvalues.length ≤ 255 ∧ (write (some chunk.main)).toExcept = .ok bytes ∧
      parse true bytes = (.ok again, after') ∧ bare again.main ≠ bare chunk.main := by
  have first : seen (fun chunk => (sources chunk.main, chunk.main.top.upvalues.length, write (some chunk.main)))
      blankInner = some ([some "x", some ""], 0, { bytes := blankInnerRewritten }) := by
    decide +kernel
  have second : seen (fun chunk => sources chunk.main) blankInnerRewritten = some [some "x", some "x"] := by
    decide +kernel
  obtain ⟨chunk, after, ran, found⟩ := parse_of_seen first
  obtain ⟨again, after', ranAgain, inherited⟩ := parse_of_seen second
  simp only [Prod.mk.injEq] at found
  obtain ⟨named, none, written⟩ := found
  refine ⟨chunk, after, blankInnerRewritten, again, after', ran, by omega, ?_, ranAgain, ?_⟩
  · rw [written, toExcept_bytes]
  · intro same
    have sourcesSame : sources again.main = sources chunk.main :=
      congrArg (fun tree => tree.toList.map Function.source) same
    rw [inherited, named] at sourcesSame
    exact absurd sourcesSame (by decide)

end LuaBytecode.V54
