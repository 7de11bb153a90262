import LuaBytecode.Proofs.V54.Shortest
/-!
Writing a tree that was read without its bytes. Its functions have every section all the same, without
bytes, and the writer takes what is kept of the code for the code: nothing is written of it, and what is
written does not give the tree again. Once these sections are dropped, it does.
-/
namespace LuaBytecode.V54

open Reader Text

-- The bytes of the source say that there is none: size zero, with any zero groups in front.
def Function.HasNullSource (each : Function) : Prop :=
  ∃ padding, each.recording? .source = some (List.replicate padding 0 ++ [0x80])

mutual
def Inherits (parent : Option String) : Prototype → Prop
  | .node each inner => (each.HasNullSource → each.source = parent) ∧ InheritsForest each.source inner
def InheritsForest (parent : Option String) : List Prototype → Prop
  | [] => True
  | tree :: forest => Inherits parent tree ∧ InheritsForest parent forest
end

theorem inheritsForest_of_forall {parent : Option String} (forest : List Prototype)
    (each : ∀ tree ∈ forest, Inherits parent tree) : InheritsForest parent forest := by
  induction forest with
  | nil => trivial
  | cons tree forest ih =>
    exact ⟨each tree List.mem_cons_self, ih fun other member => each other (List.mem_cons_of_mem tree member)⟩

namespace Read

-- A size is spelled in one way but for the zeros in front, so the bytes tell that it is zero.
theorem yields_null {limit : Nat} :
    Yields limit string (fun found span => ∀ padding, span = List.replicate padding 0 ++ [0x80] → found = none) := by
  apply yields_bind yields_size
  intro count span spelled
  obtain ⟨bound, padding, rfl⟩ := spelled
  split
  · exact yields_pure fun _ _ => rfl
  · rename_i positive
    apply yields_bind yields_require
    intro _ none met
    obtain ⟨_, rfl⟩ := met
    apply yields_bind (yields_takeUpTo (count - 1))
    intro taken span short
    obtain ⟨rfl, _⟩ := short
    apply yields_pure
    intro other same
    have zero : [0x80] = Wire.size 0 := by simp [Wire.size, Wire.groups_zero]
    have both : List.replicate padding 0 ++ Wire.size count ++ taken = List.replicate other 0 ++ Wire.size 0 ++ [] := by
      rw [← zero, List.append_nil, ← same]
      simp
    obtain ⟨_, _, n, isCount, isZero⟩ := @consumes_unique _ {} _ _ _ _ _ _ _
      (consumes_padded_size padding count bound) (consumes_padded_size other 0 (by decide)) both
    exact absurd (isCount.symm.trans isZero) positive

theorem ensures_source :
    Ensures (noted true string) (fun found =>
      ∀ padding, found.2.getD [] = List.replicate padding 0 ++ [0x80] → found.1 = none) := by
  apply ensures_of_yields
  intro limit
  apply yields_mono (yields_noted true yields_null)
  intro found span known padding same
  rw [known.2 rfl] at same
  exact known.1 padding same

theorem ensures_inherits (depth : Nat) (parent : Option String) :
    Ensures (prototypeWithin true depth parent) (Inherits parent) := by
  induction depth generalizing parent with
  | zero => exact ensures_fail
  | succ depth ih =>
    apply ensures_bind ensures_source
    intro source null
    apply ensures_skip
    intro lineDefined
    apply ensures_skip
    intro lastLineDefined
    apply ensures_skip
    intro paramCount
    apply ensures_skip
    intro varargFlag
    apply ensures_skip
    intro maxStackSize
    apply ensures_skip
    intro code
    apply ensures_skip
    intro constants
    apply ensures_skip
    intro upvalues
    apply ensures_skip
    intro innerCount
    apply ensures_bind (ensures_times (ih _) innerCount.1)
    intro inner inherits
    apply ensures_skip
    intro debug
    apply ensures_pure
    refine ⟨?_, inheritsForest_of_forall inner inherits.2⟩
    intro named
    obtain ⟨padding, kept⟩ := named
    have own := null padding (Option.some.inj kept)
    rw [own]
    rfl

theorem ensures_blank (depth : Nat) (parent : Option String) :
    Ensures (prototypeWithin false depth parent) (fun tree =>
      tree.Every fun each => each.recorded = some Recording.blank) := by
  induction depth generalizing parent with
  | zero => exact ensures_fail
  | succ depth ih =>
    apply ensures_skip
    intro source
    apply ensures_skip
    intro lineDefined
    apply ensures_skip
    intro lastLineDefined
    apply ensures_skip
    intro paramCount
    apply ensures_skip
    intro varargFlag
    apply ensures_skip
    intro maxStackSize
    apply ensures_skip
    intro code
    apply ensures_skip
    intro constants
    apply ensures_skip
    intro upvalues
    have counted : Ensures (noted false size) (fun found => found.1 < 2 ^ 64) :=
      ensures_of_yields fun _ => yields_mono (yields_noted false yields_size) fun _ _ known => known.1.1
    apply ensures_bind counted
    intro innerCount few
    apply ensures_bind (ensures_times (ih _) innerCount.1)
    intro inner blank
    apply ensures_skip
    intro debug
    apply ensures_pure
    exact ⟨rfl, blank.1 ▸ few, Tree.everyForest_of_forall inner blank.2⟩

end Read

theorem inherits_of_parse {file : Bytes} {chunk : Chunk} {after : Input}
    (accepted : parse true file = (.ok chunk, after)) : Inherits (some "") chunk.main := by
  have known : Ensures (Read.chunk true) (fun chunk => Inherits (some "") chunk.main) := by
    rw [Read.chunk_eq]
    apply ensures_skip
    intro header
    apply ensures_skip
    intro upvalueCount
    apply ensures_skip
    intro _
    apply ensures_bind (ensures_nested fun depth => Read.ensures_inherits depth (some ""))
    intro main inherits
    exact ensures_pure inherits
  exact known.found { rest := file } chunk after accepted

theorem blank_of_parse {file : Bytes} {chunk : Chunk} {after : Input}
    (accepted : parse false file = (.ok chunk, after)) :
    chunk.main.Every fun each => each.recorded = some Recording.blank := by
  have known : Ensures (Read.chunk false) (fun chunk =>
      chunk.main.Every fun each => each.recorded = some Recording.blank) := by
    apply ensures_skip
    intro header
    apply ensures_skip
    intro upvalueCount
    apply ensures_skip
    intro _
    apply ensures_bind (ensures_nested fun depth => Read.ensures_blank depth (some ""))
    intro main blank
    exact ensures_pure blank
  exact known.found { rest := file } chunk after accepted

theorem plain_of_parse {record : Bool} {file : Bytes} {chunk : Chunk} {after : Input}
    (accepted : parse record file = (.ok chunk, after)) :
    ∃ plain, parse false file = (.ok plain, after) ∧ bare plain.main = bare chunk.main := by
  cases record with
  | false => exact ⟨chunk, accepted, rfl⟩
  | true =>
    cases abreast_chunk { rest := file } with
    | inl both =>
      obtain ⟨first, plain, _, last, kept, ran, _, _, same, _⟩ := both
      obtain ⟨rfl, rfl⟩ : first = chunk ∧ last = after := by simpa using kept.symm.trans accepted
      exact ⟨plain, ran, (congrArg Chunk.main same).symm⟩
    | inr failed =>
      obtain ⟨fault, last, kept, _⟩ := failed
      rw [parse, kept] at accepted
      cases accepted

mutual
theorem source_of_inherits {parent : Option String} (tree : Prototype) (inherits : Inherits parent tree)
    (null : ∀ each ∈ tree.toList, each.HasNullSource) : ∀ each ∈ tree.toList, each.source = parent := by
  cases tree with
  | node each inner =>
    rw [Tree.toList] at null ⊢
    have own := inherits.1 (null each List.mem_cons_self)
    have later := sources_of_inherits inner inherits.2 fun other member => null other (List.mem_cons_of_mem each member)
    intro other member
    cases List.mem_cons.mp member with
    | inl same => rw [same, own]
    | inr inside => rw [later other inside, own]
theorem sources_of_inherits {parent : Option String} (forest : List Prototype) (inherits : InheritsForest parent forest)
    (null : ∀ each ∈ Tree.listOfForest forest, each.HasNullSource) :
    ∀ each ∈ Tree.listOfForest forest, each.source = parent := by
  cases forest with
  | nil => exact nofun
  | cons tree forest =>
    rw [Tree.listOfForest] at null ⊢
    intro each member
    cases List.mem_append.mp member with
    | inl first =>
      exact source_of_inherits tree inherits.1 (fun other within => null other (List.mem_append_left _ within)) each first
    | inr rest =>
      exact sources_of_inherits forest inherits.2 (fun other within => null other (List.mem_append_right _ within))
        each rest
end

mutual
theorem blankWithinBlank_of_shared {source : Option String} (tree : Prototype)
    (shared : ∀ each ∈ tree.toList, each.source = source) : BlankWithinBlank tree := by
  cases tree with
  | node each inner =>
    rw [Tree.toList] at shared
    rw [BlankWithinBlank, shared each List.mem_cons_self]
    exact blankWithin_of_shared inner fun other member => shared other (List.mem_cons_of_mem each member)
theorem blankWithin_of_shared {source : Option String} (forest : List Prototype)
    (shared : ∀ each ∈ Tree.listOfForest forest, each.source = source) : BlankWithin source forest := by
  cases forest with
  | nil => trivial
  | cons tree forest =>
    rw [Tree.listOfForest] at shared
    have first : ∀ each ∈ tree.toList, each.source = source :=
      fun each member => shared each (List.mem_append_left _ member)
    refine ⟨?_, blankWithinBlank_of_shared tree first,
      blankWithin_of_shared forest fun each member => shared each (List.mem_append_right _ member)⟩
    intro blank
    cases tree with
    | node each inner => rw [← first each List.mem_cons_self, ← blank.1]; rfl
end

def Restores (record : Bool) (written tree : Prototype) : Prop :=
  ∃ bytes again after, (write (some written)).toExcept = .ok bytes ∧ parse record bytes = (.ok again, after) ∧
    bare again.main = bare tree

theorem bare_bare (tree : Prototype) : bare (bare tree) = bare tree := by
  rw [bare, bare, Tree.map_map]
  simp only [Function.bare_bare]

theorem restores_recorded {tree : Prototype} {source : Option String} (record : Bool)
    (accepted : tree.Every Function.Accepted) (keeps : KeepsSources (some "") tree)
    (shared : ∀ each ∈ tree.toList, each.source = source) (few : tree.top.upvalues.length ≤ 255) :
    Restores record tree tree := by
  obtain ⟨bytes, again, after, written, ran, _, main⟩ :=
    parse_write_reread record tree (writable_of_accepted accepted) few
  refine ⟨bytes, again, after, written, ran, ?_⟩
  rw [main, reread_iff true (some "") tree accepted keeps]
  exact ⟨main_source accepted (some ""), blankWithinBlank_of_shared tree shared⟩

theorem restores_bare {tree : Prototype} {source : String} (record : Bool) (range : tree.Every Function.InRange)
    (shared : ∀ each ∈ tree.toList, each.source = some source) (few : tree.top.upvalues.length ≤ 255) :
    Restores record (bare tree) tree := by
  have writable : (bare tree).Every Function.Writable := by
    rw [bare, Tree.every_map]
    apply Tree.every_mono _ tree range
    intro each own
    exact ⟨(inRange_bare each).mpr own, nofun⟩
  have fewStill : (bare tree).top.upvalues.length ≤ 255 := by
    rw [bare, Tree.top_map]
    simpa [Function.bare] using few
  obtain ⟨bytes, again, after, written, ran, _, main⟩ := parse_write_reread record (bare tree) writable fewStill
  refine ⟨bytes, again, after, written, ran, ?_⟩
  rw [main, reread_eq_bare true source (bare tree) (some "") nofun, bare_bare]
  intro each member
  rw [bare, Tree.toList_map] at member
  obtain ⟨original, present, rfl⟩ := List.mem_map.mp member
  exact ⟨(inRange_bare original).mpr (Tree.forall_of_every tree range original present), rfl, shared original present⟩

-- The section of code is left out, and every function has at least the size of one.
theorem length_written_blank {tree : Prototype} (range : tree.Every Function.InRange)
    (blank : tree.Every fun each => each.recorded = some Recording.blank) (legible : tree.Every Function.Legible) :
    (Wire.file Write.header (Wire.of true tree)).length < 32 + Least.tree Least.code true tree := by
  have unwritten : tree.Every fun each => each.InRange ∧ each.Legible ∧ Write.sourceOf false each = none := by
    apply Tree.every_mono _ tree (Tree.every_and tree range (Tree.every_and tree legible blank))
    intro each known
    refine ⟨known.1, known.2.1, ?_⟩
    rw [Write.sourceOf, Function.recording?, known.2.2]
    rfl
  have codeless : tree.Every fun each => (Write.code each).bytes.length < Least.code each := by
    apply Tree.every_mono _ tree blank
    intro each empty
    rw [Write.code, Function.recording?, empty]
    exact Nat.add_pos_left (Least.size_pos _) _
  have shorter := Least.tree_lt true tree codeless
  have header : Write.header.length = 31 := by decide
  rw [Wire.file, List.length_append, List.length_append, Least.length_bytes true tree unwritten, header,
    List.length_singleton]
  omega

theorem not_restores_blank {tree : Prototype} (record : Bool) (range : tree.Every Function.InRange)
    (blank : tree.Every fun each => each.recorded = some Recording.blank) (legible : tree.Every Function.Legible)
    (few : tree.top.upvalues.length ≤ 255) : ¬ Restores record tree tree := by
  intro restored
  obtain ⟨bytes, again, after, written, ran, same⟩ := restored
  rw [write_of_range tree range few, toExcept_bytes] at written
  obtain rfl := Except.ok.inj written
  obtain ⟨plain, ranPlain, alike⟩ := plain_of_parse ran
  have covered := Least.covers_chunk _ plain after ranPlain
  have least : Least.tree Least.code true plain.main = Least.tree Least.code true tree := by
    rw [← Least.tree_bare, alike, same, Least.tree_bare]
  have short := length_written_blank range blank legible
  dsimp only at covered
  omega

theorem every_of_bare_eq {holds : Function → Prop} {tree other : Prototype}
    (blind : ∀ each : Function, holds each.bare ↔ holds each) (same : bare other = bare tree)
    (every : tree.Every holds) : other.Every holds := by
  have through : ∀ tree : Prototype, (bare tree).Every holds ↔ tree.Every holds := by
    intro tree
    rw [bare, Tree.every_map]
    constructor
    · exact Tree.every_mono (fun each => (blind each).mp) tree
    · exact Tree.every_mono (fun each => (blind each).mpr) tree
  rw [← through, same, through]
  exact every

theorem shared_source {file : Bytes} {chunk : Chunk} {after : Input} (accepted : parse true file = (.ok chunk, after))
    (null : ∀ each ∈ Tree.listOfForest chunk.main.inner, each.HasNullSource) :
    ∀ each ∈ chunk.main.toList, each.source = chunk.main.top.source := by
  have inherits := inherits_of_parse accepted
  cases main : chunk.main with
  | node each inner =>
    rw [main] at inherits null
    intro other member
    cases List.mem_cons.mp member with
    | inl same => rw [same]; rfl
    | inr inside => exact sources_of_inherits inner inherits.2 null other inside

theorem unrecorded_tree_restored_once_dropped {file : Bytes} {chunk : Chunk} {after : Input} (record : Bool)
    (small : Small file) (accepted : parse true file = (.ok chunk, after))
    (few : chunk.main.top.upvalues.length ≤ 255)
    (null : ∀ each ∈ Tree.listOfForest chunk.main.inner, each.HasNullSource) :
    ∃ plain, parse false file = (.ok plain, after) ∧ bare plain.main = bare chunk.main ∧
      Restores record chunk.main chunk.main ∧ Restores record (bare plain.main) chunk.main ∧
      (∃ bytes, (write (some plain.main)).toExcept = .ok bytes) ∧
      ((∀ each ∈ chunk.main.toList, each.Legible) → ¬ Restores record plain.main chunk.main) := by
  obtain ⟨plain, ran, same⟩ := plain_of_parse accepted
  obtain ⟨every, keeps⟩ := parse_accepted small accepted
  have range : chunk.main.Every Function.InRange := Tree.every_mono (fun _ own => own.range) chunk.main every
  have shared := shared_source accepted null
  obtain ⟨source, named⟩ := Option.ne_none_iff_exists'.mp
    (Tree.forall_of_every chunk.main every _ (Tree.top_mem_toList chunk.main)).named
  rw [named] at shared
  have inRange : plain.main.Every Function.InRange := every_of_bare_eq inRange_bare same range
  have fewPlain : plain.main.top.upvalues.length ≤ 255 := by
    have tops := congrArg (fun tree => tree.top.upvalues.length) same
    simp only [bare, Tree.top_map, Function.bare, List.length_map] at tops
    omega
  refine ⟨plain, ran, same, restores_recorded record every keeps shared few, ?_, ?_, ?_⟩
  · rw [same]
    exact restores_bare record range shared few
  · exact ⟨_, by rw [write_of_range plain.main inRange fewPlain, toExcept_bytes]⟩
  · intro legible restored
    have legiblePlain : plain.main.Every Function.Legible :=
      every_of_bare_eq Function.legible_bare same (Tree.every_of_forall chunk.main range legible)
    rw [Restores, ← same] at restored
    exact not_restores_blank record inRange (blank_of_parse ran) legiblePlain fewPlain restored

theorem unrecorded_tree_nestedWithRest :
    ∃ chunk after, parse true nestedWithRest = (.ok chunk, after) ∧ chunk.main.top.upvalues.length = 0 ∧
      (Tree.listOfForest chunk.main.inner).length = 1 ∧
      ∃ plain, parse false nestedWithRest = (.ok plain, after) ∧ bare plain.main = bare chunk.main ∧
        Restores true chunk.main chunk.main ∧ Restores true (bare plain.main) chunk.main ∧
        ¬ Restores true plain.main chunk.main := by
  have view : seen (fun chunk => (chunk.main.top.upvalues.length,
      (Tree.listOfForest chunk.main.inner).map (·.recording? .source), chunk.main.toList.map Function.texts))
      nestedWithRest = some (0, [some [0x80]], [["x", "a"], ["x"]]) := by
    decide +kernel
  obtain ⟨chunk, after, accepted, found⟩ := parse_of_seen view
  simp only [Prod.mk.injEq] at found
  obtain ⟨few, sources, texts⟩ := found
  have null : ∀ each ∈ Tree.listOfForest chunk.main.inner, each.HasNullSource := by
    intro each member
    have kept := List.mem_map_of_mem (f := fun each : Function => each.recording? .source) member
    rw [sources, List.mem_singleton] at kept
    exact ⟨0, kept⟩
  have legible : ∀ each ∈ chunk.main.toList, each.Legible := by
    intro each member
    have known := List.mem_map_of_mem (f := Function.texts) member
    rw [texts] at known
    rw [Function.Legible]
    generalize each.texts = own at known
    revert own
    decide
  obtain ⟨plain, ran, same, recorded, dropped, _, lost⟩ :=
    unrecorded_tree_restored_once_dropped true (by decide) accepted (by omega) null
  refine ⟨chunk, after, accepted, few, ?_, plain, ran, same, recorded, dropped, lost legible⟩
  simpa using congrArg List.length sources

def singleWord : Bytes :=
  Write.header ++ [0, 0x81, 0x80, 0x80, 0, 0, 2, 0x81, 0x46, 0, 1, 1, 0x80, 0x80, 0x80, 0x80, 0x80, 0x80, 0x80]

-- With its bytes kept it is written as it was; without them its code is missing, and reading fails.
theorem unrecorded_code_lost :
    seen (fun chunk => (chunk.main.top.upvalues.length, chunk.main.inner.length, write (some chunk.main))) singleWord =
        some (0, 0, { bytes := singleWord }) ∧
      ((parse false singleWord).1.toOption.map fun plain => write (some plain.main)) =
        some { bytes := singleWord.take 38 ++ List.replicate 7 0x80 } ∧
      (parse true (singleWord.take 38 ++ List.replicate 7 0x80)).1.toOption = none ∧
      (parse false (singleWord.take 38 ++ List.replicate 7 0x80)).1.toOption = none := by
  decide +kernel

end LuaBytecode.V54
