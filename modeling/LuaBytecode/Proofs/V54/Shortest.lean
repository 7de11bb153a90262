import LuaBytecode.Proofs.V54.Bulk
import LuaBytecode.Proofs.V54.Rewriting

namespace LuaBytecode.V54

open Reader Text

namespace Least

def size (n : Nat) : Nat := (Wire.size n).length

-- A text may have had a single byte for every character that was put in the place of malformed ones.
def text : Option String → Nat
  | none => 1
  | some text => size (Utf8.leastLength text.toList + 1) + Utf8.leastLength text.toList

def items {α : Type} (least : α → Nat) : List α → Nat
  | [] => 0
  | item :: rest => least item + items least rest

def counted {α : Type} (least : α → Nat) (list : List α) : Nat := size list.length + items least list

def constant : Constant → Nat
  | .num _ | .int _ => 9
  | .str content => 1 + text (some content)
  | .nil | .bool _ | .emptyList => 1

def absLine (each : AbsLine) : Nat := size each.pc.toNat + size each.line.toNat

def localVariable (each : Local) : Nat := text each.name + size each.startPc.toNat + size each.endPc.toNat

def code (each : Function) : Nat := counted (fun _ => 4) each.code

-- The source of an inner function need not be spelled. The length of the code is left open.
def function (codeLength : Nat) (isMain : Bool) (each : Function) : Nat :=
  (if isMain then text each.source else 1) + size each.lineDefined.toNat + size each.lastLineDefined.toNat + 3 +
    codeLength + counted constant each.constants + counted (fun _ => 3) each.upvalues +
    counted (fun _ => 1) each.lineInfo + counted absLine each.absLineInfo + counted localVariable each.locals +
    counted text each.upvalueNames

mutual
def tree (codeLength : Function → Nat) (isMain : Bool) : Prototype → Nat
  | .node each inner => function (codeLength each) isMain each + size inner.length + forest codeLength inner
def forest (codeLength : Function → Nat) : List Prototype → Nat
  | [] => 0
  | tree' :: rest => tree codeLength false tree' + forest codeLength rest
end

theorem size_pos (n : Nat) : 0 < size n := Wire.length_size_pos n

theorem text_pos (content : Option String) : 0 < text content := by
  cases content with
  | none => exact Nat.one_pos
  | some content => exact Nat.add_pos_left (size_pos _) _

theorem covers_size : Covers 0 Read.size size := by
  apply covers_of_span fun _ => Read.yields_size
  intro n span spelled
  obtain ⟨_, padding, rfl⟩ := spelled
  rw [List.length_append]
  exact Nat.le_add_left _ _

theorem covers_string : Covers 0 Read.string text := by
  have spelled : ∀ limit, Yields limit Read.string (fun found span => text found ≤ span.length) := by
    intro limit
    apply yields_bind Read.yields_size
    intro count span spelled
    obtain ⟨_, padding, rfl⟩ := spelled
    have front : size count ≤ (List.replicate padding 0 ++ Wire.size count).length := by
      rw [List.length_append]
      exact Nat.le_add_left _ _
    split
    · apply yields_pure
      have one := size_pos count
      rw [List.append_nil, text]
      omega
    · apply yields_bind yields_require
      intro _ none met
      obtain ⟨_, rfl⟩ := met
      apply yields_bind (yields_takeUpTo (count - 1))
      intro taken span short
      obtain ⟨rfl, short, _⟩ := short
      apply yields_pure
      have least := Utf8.leastLength_decodeReplacing_le taken
      have sized : size (Utf8.leastLength (Utf8.decodeReplacing taken).toList + 1) ≤ size count :=
        Wire.length_size_mono (by omega)
      simp only [text, List.nil_append, List.append_nil]
      rw [List.length_append]
      omega
  exact covers_of_span spelled fun _ _ enough => enough

theorem covers_items {α : Type} {reader : Reader α} {least : α → Nat} (each : Covers 0 reader least) (count : Nat) :
    Covers 0 (times count reader) (items least) :=
  covers_times each rfl (fun _ _ => Nat.le_refl _) count

theorem covers_counted {α : Type} {reader : Reader α} {least : α → Nat} (each : Covers 0 reader least) :
    Covers 0 (Read.counted reader) (counted least) := by
  apply covers_bind covers_size
  intro count input found after ran
  have exactly := ((ensures_times ensures_any count).found input found after ran).1
  have covered := covers_items each count input found after ran
  rw [counted, exactly]
  omega

theorem covers_constant : Covers 0 Read.constant constant := by
  have number : Covers 0 Read.number (fun _ => 8) :=
    covers_bind (Read.covers_fixedWidth 8) fun _ => covers_pure (Nat.le_refl 8)
  have integer : Covers 0 Read.integer (fun _ => 8) :=
    covers_bind (Read.covers_fixedWidth 8) fun _ => covers_pure (Nat.le_refl 8)
  apply covers_bind Read.covers_byte
  intro tag
  dsimp only
  split
  · exact covers_pure (Nat.le_refl 1)
  · exact covers_pure (Nat.le_refl 1)
  · apply covers_ite
    · exact covers_bind number fun _ => covers_pure (Nat.le_refl 9)
    · exact covers_bind integer fun _ => covers_pure (Nat.le_refl 9)
  · apply covers_bind covers_string
    intro content
    apply covers_pure
    -- A missing text is read as nil, which has a shorter spelling.
    cases content with
    | none => exact Nat.le_add_left 1 1
    | some content => exact Nat.le_of_eq (Nat.add_comm 1 _)
  · exact covers_fail

theorem covers_upvalue : Covers 0 (Read.upvalue false) (fun _ => 3) := by
  have fields : Covers 0 (Read.byte >>= fun inStack => Read.byte >>= fun index => Read.byte >>= fun kind =>
      pure (inStack, index, kind)) (fun _ => 3) := by
    apply covers_bind Read.covers_byte
    intro inStack
    apply covers_bind Read.covers_byte
    intro index
    exact covers_bind Read.covers_byte fun _ => covers_pure (Nat.le_refl 3)
  exact covers_bind (Read.covers_noted fields) fun _ => covers_pure (Nat.le_refl 3)

theorem covers_absLine : Covers 0 (Read.absLine false) absLine := by
  have fields : Covers 0 (Read.size >>= fun pc => Read.size >>= fun line => pure (pc, line))
      (fun found => size found.1 + size found.2) := by
    apply covers_bind covers_size
    intro pc
    apply covers_bind covers_size
    intro line
    apply covers_pure
    dsimp only
    omega
  exact covers_bind (Read.covers_noted fields) fun _ => covers_pure (Nat.le_refl _)

theorem covers_localVariable : Covers 0 (Read.localVariable false) localVariable := by
  have fields : Covers 0 (Read.string >>= fun name => Read.size >>= fun startPc => Read.size >>= fun endPc =>
      pure (name, startPc, endPc)) (fun found => text found.1 + size found.2.1 + size found.2.2) := by
    apply covers_bind covers_string
    intro name
    apply covers_bind covers_size
    intro startPc
    apply covers_bind covers_size
    intro endPc
    apply covers_pure
    dsimp only
    omega
  exact covers_bind (Read.covers_noted fields) fun _ => covers_pure (Nat.le_refl _)

theorem covers_instruction : Covers 0 Read.instruction (fun _ => 4) :=
  covers_bind (Read.covers_fixedWidth 4) fun _ => covers_pure (Nat.le_refl 4)

theorem covers_debug :
    Covers 0 (Read.debug false) (fun debug => counted (fun _ => 1) debug.lineInfo + counted absLine debug.absLineInfo +
      counted localVariable debug.locals + counted text debug.upvalueNames) := by
  apply covers_bind (covers_counted Read.covers_line)
  intro lineInfo
  apply covers_bind (covers_counted covers_absLine)
  intro absLineInfo
  apply covers_bind (covers_counted covers_localVariable)
  intro locals
  apply covers_bind (covers_counted covers_string)
  intro upvalueNames
  apply covers_pure
  dsimp only
  omega

-- A source that is missing in the file is the empty one for the main function, which takes no more.
theorem source_le {isMain : Bool} {own parent : Option String} (outer : isMain = true → parent = some "") :
    (if isMain then text (own.orElse fun _ => parent) else 1) ≤ text own := by
  cases isMain with
  | false => exact text_pos own
  | true =>
    cases own with
    | none =>
      have empty : text (some "") = 1 := by simp [text, size, Wire.size, Wire.groups_zero, Utf8.leastLength]
      rw [outer rfl]
      exact Nat.le_of_eq empty
    | some content => exact Nat.le_refl _

theorem covers_prototypeWithin (depth : Nat) (parent : Option String) (isMain : Bool)
    (outer : isMain = true → parent = some "") :
    Covers 0 (Read.prototypeWithin false depth parent) (tree code isMain) := by
  induction depth generalizing parent isMain with
  | zero => exact covers_fail
  | succ depth ih =>
    apply covers_bind (Read.covers_noted covers_string)
    intro own
    apply covers_bind (Read.covers_noted covers_size)
    intro lineDefined
    apply covers_bind (Read.covers_noted covers_size)
    intro lastLineDefined
    apply covers_bind (Read.covers_noted Read.covers_byte)
    intro paramCount
    apply covers_bind (Read.covers_noted Read.covers_byte)
    intro varargFlag
    apply covers_bind (Read.covers_noted Read.covers_byte)
    intro maxStackSize
    apply covers_bind (Read.covers_noted (covers_counted covers_instruction))
    intro words
    apply covers_bind (Read.covers_noted (covers_counted covers_constant))
    intro constants
    apply covers_bind (Read.covers_noted (covers_counted covers_upvalue))
    intro upvalues
    apply covers_bind (Read.covers_noted covers_size)
    intro innerCount
    have each := fun parent => ih parent false fun main => absurd main Bool.false_ne_true
    apply covers_bind_of_ensures (ensures_times ensures_any innerCount.1)
      (covers_times (each _) (rfl : forest code [] = 0) (fun _ _ => Nat.le_refl _) innerCount.1)
    intro inner exactly
    apply covers_bind (Read.covers_noted covers_debug)
    intro debug
    apply covers_pure
    have source := @source_le isMain own.1 parent outer
    simp only [tree, function, code, exactly.1, Int.toNat_natCast]
    omega

theorem covers_chunk : Covers 0 (Read.chunk false) (fun chunk => 32 + tree code true chunk.main) := by
  have header : Covers 0 Read.header (fun _ => 31) :=
    covers_of_span (fun _ => Read.yields_header) fun _ _ long => Nat.le_of_eq long.symm
  apply covers_bind header
  intro header
  apply covers_bind Read.covers_byte
  intro upvalueCount
  apply covers_pass covers_say
  intro _
  apply covers_bind (covers_nested fun depth => covers_prototypeWithin depth (some "") true fun _ => rfl)
  intro main
  apply covers_pure
  dsimp only
  omega

end Least

def Function.Legible (each : Function) : Prop := ∀ text ∈ each.texts, '�' ∉ text.toList
deriving Decidable

theorem Function.texts_bare (each : Function) : each.bare.texts = each.texts := by
  have names : (each.locals.map Local.bare).filterMap Local.name = each.locals.filterMap Local.name := by
    rw [List.filterMap_map]
    rfl
  simp only [Function.texts, Function.pool, Function.names, Function.bare, names]

theorem Function.legible_bare (each : Function) : each.bare.Legible ↔ each.Legible := by
  rw [Function.Legible, Function.texts_bare, Function.Legible]

namespace Least

theorem length_string {content : Option String} (free : ∀ text ∈ content, '�' ∉ text.toList) :
    (Wire.string (content.map Utf8.encode)).length = text content := by
  cases content with
  | none => simp [Wire.string, Wire.size, Wire.groups_zero, text]
  | some content =>
    have whole : (Utf8.encode content).length = Utf8.leastLength content.toList :=
      (Utf8.leastLength_eq (free content rfl)).symm
    rw [Option.map_some, Wire.string, List.length_append, whole]
    rfl

theorem length_counted {α β : Type} {of : α → β} {encode : β → Bytes} {least : α → Nat} (list : List α)
    (each : ∀ item ∈ list, (encode (of item)).length = least item) :
    (Wire.counted encode (list.map of)).length = counted least list := by
  have lengths : ((list.map of).flatMap encode).length = items least list := by
    induction list with
    | nil => rfl
    | cons item list ih =>
      rw [List.map_cons, List.flatMap_cons, List.length_append, each item List.mem_cons_self,
        ih fun other member => each other (List.mem_cons_of_mem item member), items]
  rw [Wire.counted, List.length_append, lengths, List.length_map]
  rfl

theorem length_size {n : Int} (range : IsSize n) : (Wire.size (UInt64.ofNat n.toNat).toNat).length = size n.toNat := by
  have same := Write.toNat_ofNat_size range
  rw [show (UInt64.ofNat n.toNat).toNat = n.toNat by omega]
  rfl

theorem length_constant {each : Constant} (range : IsConstant each) (free : ∀ text ∈ textOf each, '�' ∉ text.toList) :
    (Wire.Constant.of each).bytes.length = constant each := by
  cases each with
  | nil => rfl
  | bool value => rfl
  | num value => simp [Wire.Constant.of, Wire.Constant.bytes, Wire.Constant.payload, constant]
  | int value => simp [Wire.Constant.of, Wire.Constant.bytes, Wire.Constant.payload, constant]
  | str content =>
    have spelled := @length_string (some content) free
    rw [Wire.Constant.of, Wire.Constant.bytes, List.length_cons, Wire.Constant.payload, constant, Nat.add_comm, ← spelled]
    rfl
  | emptyList => exact range.elim

theorem length_absLine {each : AbsLine} (range : each.InRange) : (Wire.AbsLine.of each).bytes.length = absLine each := by
  have pc := length_size range.pc
  have line := length_size range.line
  simp only [Wire.AbsLine.bytes, Wire.AbsLine.of, List.length_append, absLine]
  omega

theorem length_local {each : Local} (range : each.InRange) (free : ∀ text ∈ each.name, '�' ∉ text.toList) :
    (Wire.Local.of each).bytes.length = localVariable each := by
  have spelled := length_string free
  have start := length_size range.startPc
  have stop := length_size range.endPc
  simp only [Wire.Local.bytes, Wire.Local.of, List.length_append, localVariable]
  omega

theorem length_front (isMain : Bool) {each : Function} (range : each.InRange) (legible : each.Legible)
    (unwritten : Write.sourceOf false each = none) :
    (Wire.Function.of isMain each).front.length =
      (if isMain then text each.source else 1) + size each.lineDefined.toNat + size each.lastLineDefined.toNat + 3 +
        (Write.code each).bytes.length + counted constant each.constants + counted (fun _ => 3) each.upvalues := by
  have source : (Wire.string ((Write.sourceOf isMain each).map Utf8.encode)).length =
      if isMain then text each.source else 1 := by
    cases isMain with
    | true =>
      apply length_string
      intro content named
      exact legible content (Function.mem_texts.mpr (.inl named))
    | false =>
      rw [unwritten, length_string (by simp)]
      rfl
  have constants := @length_counted _ _ Wire.Constant.of Wire.Constant.bytes constant each.constants
    fun constant member => length_constant (range.constants.2 constant member) fun content found =>
      legible content (Function.mem_texts.mpr (.inr (.inl ⟨constant, member, found⟩)))
  have upvalues := @length_counted _ _ Wire.Upvalue.of Wire.Upvalue.bytes (fun _ => 3) each.upvalues fun _ _ => rfl
  have first := length_size range.lineDefined
  have last := length_size range.lastLineDefined
  simp only [Wire.Function.front, Wire.Function.of, List.length_append, List.length_singleton]
  omega

theorem length_back (isMain : Bool) {each : Function} (range : each.InRange) (legible : each.Legible) :
    (Wire.Function.of isMain each).back.length =
      counted (fun _ => 1) each.lineInfo + counted absLine each.absLineInfo + counted localVariable each.locals +
        counted text each.upvalueNames := by
  have lines := @length_counted _ _ (fun line : Int => UInt8.ofNat line.toNat) (fun line => [line]) (fun _ => 1)
    each.lineInfo fun _ _ => rfl
  have absLines := @length_counted _ _ Wire.AbsLine.of Wire.AbsLine.bytes absLine each.absLineInfo
    fun entry member => length_absLine (range.absLineInfo.2 entry member)
  have locals := @length_counted _ _ Wire.Local.of Wire.Local.bytes localVariable each.locals
    fun entry member => length_local (range.locals.2 entry member) fun content found =>
      legible content (Function.mem_texts.mpr (.inr (.inr (.inl ⟨entry, member, found⟩))))
  have names := @length_counted _ _ (fun name : Option String => name.map Utf8.encode) Wire.string text
    each.upvalueNames fun name member => length_string fun content found =>
      legible content (Function.mem_texts.mpr (.inr (.inr (.inr (found ▸ member)))))
  simp only [Wire.Function.back, Wire.Function.of, List.length_append]
  omega

mutual
theorem length_bytes (isMain : Bool) (each : Prototype)
    (every : each.Every fun each => each.InRange ∧ each.Legible ∧ Write.sourceOf false each = none) :
    (Wire.bytes (Wire.of isMain each)).length = tree (fun each => (Write.code each).bytes.length) isMain each := by
  cases each with
  | node each inner =>
    obtain ⟨⟨range, legible, unwritten⟩, _, later⟩ := every
    have inside := length_forestBytes inner later
    simp only [Wire.of, Wire.bytes, List.length_append, length_front isMain range legible unwritten,
      length_back isMain range legible, inside, Write.length_ofForest, tree, function, size]
    omega
theorem length_forestBytes (inner : List Prototype)
    (every : Tree.EveryForest (fun each => each.InRange ∧ each.Legible ∧ Write.sourceOf false each = none) inner) :
    (Wire.forestBytes (Wire.ofForest inner)).length = forest (fun each => (Write.code each).bytes.length) inner := by
  cases inner with
  | nil => rfl
  | cons each inner =>
    rw [Wire.ofForest, Wire.forestBytes, List.length_append, length_bytes false each every.1,
      length_forestBytes inner every.2, forest]
end

mutual
theorem tree_lt {less more : Function → Nat} (isMain : Bool) (each : Prototype)
    (every : each.Every fun each => less each < more each) : tree less isMain each < tree more isMain each := by
  cases each with
  | node each inner =>
    obtain ⟨own, _, later⟩ := every
    have inside := forest_le inner later
    simp only [tree, function]
    omega
theorem forest_le {less more : Function → Nat} (inner : List Prototype)
    (every : Tree.EveryForest (fun each => less each < more each) inner) : forest less inner ≤ forest more inner := by
  cases inner with
  | nil => exact Nat.le_refl _
  | cons each inner =>
    have first := tree_lt false each every.1
    have rest := forest_le inner every.2
    rw [forest, forest]
    omega
end

theorem items_map {α β : Type} (least : β → Nat) (f : α → β) (list : List α) :
    items least (list.map f) = items (fun item => least (f item)) list := by
  induction list with
  | nil => rfl
  | cons item list ih => rw [List.map_cons, items, ih, items]

theorem counted_map {α β : Type} (least : β → Nat) (f : α → β) (list : List α) :
    counted least (list.map f) = counted (fun item => least (f item)) list := by
  rw [counted, items_map, List.length_map, counted]

theorem function_bare (codeLength : Nat) (isMain : Bool) (each : Function) :
    function codeLength isMain each.bare = function codeLength isMain each := by
  simp only [function, Function.bare, counted_map]
  rfl

mutual
theorem tree_bare (isMain : Bool) (each : Prototype) : tree code isMain (bare each) = tree code isMain each := by
  cases each with
  | node each inner =>
    rw [bare, Tree.map, tree, tree, function_bare, forest_bare inner, Tree.length_mapForest]
    rfl
theorem forest_bare (inner : List Prototype) :
    forest code (Tree.mapForest Function.bare inner) = forest code inner := by
  cases inner with
  | nil => rfl
  | cons each inner =>
    have first := tree_bare false each
    rw [bare] at first
    rw [Tree.mapForest, forest, first, forest_bare inner, forest]
end

end Least

end LuaBytecode.V54
