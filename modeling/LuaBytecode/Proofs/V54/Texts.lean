import LuaBytecode.Proofs.V54.Writing
/-!
The texts of a tree. Which kind they are of makes no difference to the writer, only how they are spelled;
and the first of them that has no spelling is where the writer stops.
-/
namespace LuaBytecode

open Text

variable {α τ σ : Type}

namespace Text.Encoding

variable [Encoding τ] [Encoding σ]

def fault? (text : τ) : Option Fault :=
  match encode text with
  | .ok _ => none
  | .error fault => some fault

structure Keeps (change : τ → σ) : Prop where
  length : ∀ text, length (change text) = length text
  encode : ∀ text, encode (change text) = encode text

end Text.Encoding

namespace Text.Wide

def IsPlain (text : Wide) : Prop := ∀ symbol ∈ text, symbol.isChar = true
deriving Decidable

theorem dropWhile_of_isPlain {before : Wide} (plain : before.IsPlain) (later : Wide) :
    (before ++ later).dropWhile Symbol.isChar = later.dropWhile Symbol.isChar :=
  List.dropWhile_append_of_pos plain

theorem encode_of_isPlain {text : Wide} (plain : text.IsPlain) : text.encode = .ok (Utf8.encode text.chars) := by
  have none_left := dropWhile_of_isPlain plain []
  rw [List.append_nil] at none_left
  rw [encode, none_left]
  rfl

theorem encode_of_surrogate {before : Wide} (plain : before.IsPlain) (code : Fin 2048) (later : Wide) :
    encode (before ++ .surrogate code :: later) =
      .error (.surrogates (0xD800 + code) before.length (before.length + (later.takeWhile (!·.isChar)).length)) := by
  have found : (before ++ .surrogate code :: later).dropWhile Symbol.isChar = .surrogate code :: later := by
    rw [dropWhile_of_isPlain plain]
    rfl
  have passed : (before ++ .surrogate code :: later).takeWhile Symbol.isChar = before := by
    rw [List.takeWhile_append_of_pos plain, List.takeWhile_cons_of_neg Bool.false_ne_true, List.append_nil]
  rw [encode, found]
  dsimp only
  rw [passed]

theorem exists_surrogate {text : Wide} (mixed : ¬ text.IsPlain) :
    ∃ before code later, text = before ++ .surrogate code :: later ∧ IsPlain before := by
  induction text with
  | nil => exact absurd nofun mixed
  | cons symbol text ih =>
    cases symbol with
    | surrogate code => exact ⟨[], code, text, rfl, nofun⟩
    | char value =>
      have rest : ¬ IsPlain text := fun plain => mixed (List.forall_mem_cons.mpr ⟨rfl, plain⟩)
      obtain ⟨before, code, later, rfl, plain⟩ := ih rest
      exact ⟨.char value :: before, code, later, rfl, List.forall_mem_cons.mpr ⟨rfl, plain⟩⟩

theorem isPlain_ofString (text : String) : (ofString text).IsPlain := by
  intro symbol member
  obtain ⟨value, _, rfl⟩ := List.mem_map.mp member
  rfl

theorem chars_ofString (text : String) : (ofString text).chars = text := by
  rw [chars, ofString, List.filterMap_map]
  change String.ofList (text.toList.filterMap some) = text
  rw [List.filterMap_some, String.ofList_toList]

theorem ofString_chars {text : Wide} (plain : text.IsPlain) : ofString text.chars = text := by
  rw [ofString, chars, String.toList_ofList]
  induction text with
  | nil => rfl
  | cons symbol text ih =>
    obtain ⟨first, rest⟩ := List.forall_mem_cons.mp plain
    cases symbol with
    | char value =>
      rw [List.filterMap_cons_some (show Symbol.char? (.char value) = some value from rfl), List.map_cons, ih rest]
    | surrogate code => cases first

theorem keeps_ofString : Encoding.Keeps ofString where
  length text := List.length_map _
  encode text := by
    change Wide.encode (ofString text) = .ok (Utf8.encode text)
    rw [encode_of_isPlain (isPlain_ofString text), chars_ofString]

theorem fault?_of_isPlain {text : Wide} (plain : text.IsPlain) : Encoding.fault? text = none := by
  have spelled : Encoding.encode text = .ok (Utf8.encode text.chars) := encode_of_isPlain plain
  rw [Encoding.fault?, spelled]

theorem fault?_of_mixed {text : Wide} (mixed : ¬ text.IsPlain) :
    ∃ code first last, Encoding.fault? text = some (.surrogates code first last) := by
  obtain ⟨before, code, later, rfl, plain⟩ := exists_surrogate mixed
  have failed : Encoding.encode (before ++ .surrogate code :: later) = _ := encode_of_surrogate plain code later
  rw [Encoding.fault?, failed]
  exact ⟨_, _, _, rfl⟩

theorem surrogates_of_fault? {text : Wide} {fault : Fault} (failed : Encoding.fault? text = some fault) :
    ∃ code first last, fault = .surrogates code first last := by
  by_cases plain : text.IsPlain
  · rw [fault?_of_isPlain plain] at failed
    cases failed
  · obtain ⟨code, first, last, known⟩ := fault?_of_mixed plain
    rw [known] at failed
    exact ⟨code, first, last, (Option.some.inj failed).symm⟩

end Text.Wide

namespace Emission

theorem fault_append (first second : Emission) : (first ++ second).fault = first.fault.or second.fault := by
  cases first with
  | mk bytes fault => cases fault <;> rfl

theorem fault_append_eq_none {first second : Emission} :
    (first ++ second).fault = none ↔ first.fault = none ∧ second.fault = none := by
  rw [fault_append, Option.or_eq_none_iff]

theorem fault_join (write : α → Emission) (items : List α) :
    (join (items.map write)).fault = items.findSome? fun item => (write item).fault := by
  induction items with
  | nil => rfl
  | cons item items ih =>
    rw [List.map_cons, join, fault_append, ih, List.findSome?_cons]
    cases (write item).fault <;> rfl

end Emission

namespace V54

def textOf : Constant τ → Option τ
  | .str text => some text
  | _ => none

def Function.pool (each : Function τ) : List τ := each.constants.filterMap textOf

def Function.names (each : Function τ) : List τ := each.locals.filterMap Local.name ++ each.upvalueNames.filterMap id

def Function.texts (each : Function τ) : List τ := each.source.toList ++ (each.pool ++ each.names)

theorem Function.mem_texts {each : Function τ} {text : τ} :
    text ∈ each.texts ↔ each.source = some text ∨ (∃ constant ∈ each.constants, textOf constant = some text) ∨
      (∃ entry ∈ each.locals, entry.name = some text) ∨ some text ∈ each.upvalueNames := by
  simp [Function.texts, Function.pool, Function.names]

mutual
def written (isMain : Bool) : Prototype τ → List τ
  | .node each inner => (Write.sourceOf isMain each).toList ++ each.pool ++ writtenForest inner ++ each.names
def writtenForest : List (Prototype τ) → List τ
  | [] => []
  | tree :: forest => written false tree ++ writtenForest forest
end

section Faults

variable [Encoding τ]

structure Function.Encodable (each : Function τ) : Prop where
  paramCount : IsByte each.paramCount
  varargFlag : IsByte each.varargFlag
  maxStackSize : IsByte each.maxStackSize
  code : (Write.code each).fault = none
  constants : ∀ constant ∈ each.constants, (Write.constant constant).fault = (textOf constant).bind Encoding.fault?
  upvalues : ∀ upvalue ∈ each.upvalues, upvalue.InRange
  lineInfo : ∀ line ∈ each.lineInfo, IsByte line

namespace Write

theorem fault_byte {n : Int} (range : IsByte n) : (Emission.byte n).fault = none := by
  rw [byte_eq range]

theorem fault_size (n : Int) : (size n).fault = none := by
  rw [size]
  split <;> rfl

theorem fault_string (text : Option τ) : (string text).fault = text.bind Encoding.fault? := by
  cases text with
  | none => exact fault_size 0
  | some text =>
    rw [string, Option.bind_some, Encoding.fault?]
    cases Encoding.encode text with
    | ok bytes => rw [Emission.fault_append, fault_size]; rfl
    | error fault => rfl

theorem fault_str (text : τ) : (constant (.str text)).fault = Encoding.fault? text := by
  have tag : IsByte (if Encoding.length text ≤ 40 then 20 else 36) := by
    split <;> decide
  rw [constant, Emission.fault_append, fault_byte tag, fault_string, Option.none_or, Option.bind_some]

theorem fault_constant {each : Constant τ} (range : IsConstant each) :
    (constant each).fault = (textOf each).bind Encoding.fault? := by
  cases each with
  | nil => rfl
  | bool value => cases value <;> rfl
  | num value => rfl
  | int value =>
    rw [constant, Emission.integer, if_pos (show -2 ^ 63 ≤ value ∧ value < 2 ^ 63 from range)]
    rfl
  | str text => exact fault_str text
  | emptyList => exact range.elim

theorem fault_counted (write : α → Emission) (items : List α) :
    (counted write items).fault = items.findSome? fun item => (write item).fault := by
  rw [counted, Emission.fault_append, fault_size, Option.none_or, Emission.fault_join]

theorem fault_counted_none {write : α → Emission} {items : List α}
    (each : ∀ item ∈ items, (write item).fault = none) : (counted write items).fault = none := by
  rw [fault_counted]
  exact List.findSome?_eq_none_iff.mpr each

theorem fault_counted_texts {write : α → Emission} {text : α → Option τ} {items : List α}
    (each : ∀ item ∈ items, (write item).fault = (text item).bind Encoding.fault?) :
    (counted write items).fault = (items.filterMap text).findSome? Encoding.fault? := by
  rw [fault_counted]
  induction items with
  | nil => rfl
  | cons item items ih =>
    rw [List.findSome?_cons, List.filterMap_cons, each item List.mem_cons_self,
      ih fun other member => each other (List.mem_cons_of_mem item member)]
    cases text item <;> rfl

theorem findSome?_source (text : Option τ) : text.toList.findSome? Encoding.fault? = text.bind Encoding.fault? := by
  cases text with
  | none => rfl
  | some text =>
    rw [Option.toList_some, List.findSome?_singleton]
    rfl

theorem fault_front (isMain : Bool) {each : Function τ} (encodable : each.Encodable) :
    (front isMain each).fault = ((sourceOf isMain each).toList ++ each.pool).findSome? Encoding.fault? := by
  have constants := fault_counted_texts encodable.constants
  have upvalues : (counted upvalue each.upvalues).fault = none :=
    fault_counted_none fun own member => by rw [upvalue_eq own (encodable.upvalues own member)]
  simp only [front, Emission.fault_append, fault_string, fault_size, fault_byte encodable.paramCount,
    fault_byte encodable.varargFlag, fault_byte encodable.maxStackSize, encodable.code, constants, upvalues,
    Option.or_none, List.findSome?_append, findSome?_source, Function.pool]

theorem fault_debug {each : Function τ} (encodable : each.Encodable) :
    (debug each).fault = each.names.findSome? Encoding.fault? := by
  have lines := fault_counted_none fun line member => fault_byte (encodable.lineInfo line member)
  have absLines : (counted absLine each.absLineInfo).fault = none :=
    fault_counted_none fun _ _ => Emission.fault_append_eq_none.mpr ⟨fault_size _, fault_size _⟩
  have locals : (counted localVariable each.locals).fault =
      (each.locals.filterMap Local.name).findSome? Encoding.fault? := by
    apply fault_counted_texts
    intro own _
    simp only [localVariable, Emission.fault_append, fault_string, fault_size, Option.or_none]
  have names : (counted string each.upvalueNames).fault = (each.upvalueNames.filterMap id).findSome? Encoding.fault? :=
    fault_counted_texts fun name _ => fault_string name
  simp only [debug, Emission.fault_append, lines, absLines, locals, names, Option.none_or, Function.names,
    List.findSome?_append]

mutual
theorem fault_prototype (isMain : Bool) (tree : Prototype τ) (every : tree.Every Function.Encodable) :
    (prototype isMain tree).fault = (written isMain tree).findSome? Encoding.fault? := by
  cases tree with
  | node each inner =>
    simp only [prototype, written, Emission.fault_append, fault_front isMain every.1, fault_size,
      fault_forest inner every.2.2, fault_debug every.1, Option.or_none, List.findSome?_append]
theorem fault_forest (inner : List (Prototype τ)) (every : Tree.EveryForest Function.Encodable inner) :
    (forest inner).fault = (writtenForest inner).findSome? Encoding.fault? := by
  cases inner with
  | nil => rfl
  | cons tree inner =>
    rw [forest, writtenForest, Emission.fault_append, fault_prototype false tree every.1, fault_forest inner every.2,
      List.findSome?_append]
end

end Write

theorem fault_write {tree : Prototype τ} (every : tree.Every Function.Encodable)
    (few : tree.top.upvalues.length ≤ 255) :
    (write (some tree)).fault = (written true tree).findSome? Encoding.fault? := by
  have count : IsByte tree.top.upvalues.length := by
    unfold IsByte
    omega
  rw [write, Emission.fault_append, Emission.fault_append, Write.fault_byte count, Write.fault_prototype true tree every]
  rfl

theorem Function.InRange.encodable {each : Function τ} (range : each.InRange) : each.Encodable where
  paramCount := range.paramCount
  varargFlag := range.varargFlag
  maxStackSize := range.maxStackSize
  code := by rw [Write.code_eq each range]
  constants constant member := Write.fault_constant (range.constants.2 constant member)
  upvalues := range.upvalues.2
  lineInfo := range.lineInfo.2

end Faults

theorem sourceOf_plain {each : Function τ} (plain : each.recorded = none) : Write.sourceOf false each = none := by
  rw [Write.sourceOf, Function.recording?, plain]
  rfl

mutual
-- Where no bytes are kept, the source of the main function is the only one that is written.
theorem mem_written (text : τ) (isMain : Bool) (tree : Prototype τ) (plain : ∀ each ∈ tree.toList, each.recorded = none) :
    text ∈ written isMain tree ↔
      (isMain = true ∧ tree.top.source = some text) ∨ ∃ each ∈ tree.toList, text ∈ each.pool ++ each.names := by
  cases tree with
  | node each inner =>
    rw [Tree.toList] at plain
    have source : text ∈ (Write.sourceOf isMain each).toList ↔ isMain = true ∧ each.source = some text := by
      cases isMain with
      | true => simp [Write.sourceOf]
      | false => simp [sourceOf_plain (plain each List.mem_cons_self)]
    have later := mem_writtenForest text inner fun other member => plain other (List.mem_cons_of_mem each member)
    simp only [written, Tree.top, Tree.toList, List.mem_append, source, later, List.mem_cons, exists_eq_or_imp]
    grind
theorem mem_writtenForest (text : τ) (forest : List (Prototype τ))
    (plain : ∀ each ∈ Tree.listOfForest forest, each.recorded = none) :
    text ∈ writtenForest forest ↔ ∃ each ∈ Tree.listOfForest forest, text ∈ each.pool ++ each.names := by
  cases forest with
  | nil => simp [writtenForest, Tree.listOfForest]
  | cons tree forest =>
    rw [Tree.listOfForest] at plain
    have first := mem_written text false tree fun each member => plain each (List.mem_append_left _ member)
    have later := mem_writtenForest text forest fun each member => plain each (List.mem_append_right _ member)
    simp only [writtenForest, Tree.listOfForest, List.mem_append, first, later, or_and_right, exists_or,
      Bool.false_eq_true, false_and, false_or]
end

-- One source for all functions is written with the first, so every text of the tree gets written.
theorem mem_written_iff {tree : Prototype τ} {source : τ} (plain : ∀ each ∈ tree.toList, each.recorded = none)
    (shared : ∀ each ∈ tree.toList, each.source = some source) {text : τ} :
    text ∈ written true tree ↔ ∃ each ∈ tree.toList, text ∈ each.texts := by
  have top := Tree.top_mem_toList tree
  rw [mem_written text true tree plain, shared tree.top top, Option.some_inj]
  constructor
  · rintro (⟨_, rfl⟩ | ⟨each, member, own⟩)
    · refine ⟨tree.top, top, List.mem_append_left _ ?_⟩
      rw [shared tree.top top]
      exact List.mem_singleton_self _
    · exact ⟨each, member, List.mem_append_right _ own⟩
  · rintro ⟨each, member, own⟩
    cases List.mem_append.mp own with
    | inl named =>
      rw [shared each member] at named
      exact .inl ⟨rfl, (List.mem_singleton.mp named).symm⟩
    | inr own => exact .inr ⟨each, member, own⟩

theorem mapText_mapText {ρ : Type} (next : σ → ρ) (change : τ → σ) (each : Function τ) :
    (each.mapText change).mapText next = each.mapText (next ∘ change) := by
  have constants : Constant.mapText next ∘ Constant.mapText change = Constant.mapText (next ∘ change) := by
    funext constant
    cases constant <;> rfl
  have locals : Local.mapText next ∘ Local.mapText change = Local.mapText (next ∘ change) := by
    funext own
    rw [Function.comp_apply, Local.mapText, Local.mapText, Local.mapText, Option.map_map]
  simp only [Function.mapText, List.map_map, Option.map_map, constants, locals, Option.map_comp_map]

theorem mapText_eq_self {change : τ → τ} {each : Function τ} (same : ∀ text ∈ each.texts, change text = text) :
    each.mapText change = each := by
  have text (own : Option τ) (known : ∀ text ∈ own, text ∈ each.texts) : own.map change = own := by
    cases own with
    | none => rfl
    | some text => rw [Option.map_some, same text (known text rfl)]
  have constants : each.constants.map (Constant.mapText change) = each.constants.map id := by
    apply List.map_congr_left
    intro constant member
    cases constant with
    | str text => exact congrArg Constant.str (same text (Function.mem_texts.mpr (.inr (.inl ⟨_, member, rfl⟩))))
    | _ => rfl
  have locals : each.locals.map (Local.mapText change) = each.locals.map id := by
    apply List.map_congr_left
    intro own member
    rw [Local.mapText, text own.name fun name known => Function.mem_texts.mpr (.inr (.inr (.inl ⟨own, member, known⟩)))]
    rfl
  have names : each.upvalueNames.map (Option.map change) = each.upvalueNames.map id := by
    apply List.map_congr_left
    intro name member
    exact text name fun own known =>
      Function.mem_texts.mpr (.inr (.inr (.inr (by rwa [← show name = some own from known]))))
  rw [Function.mapText, constants, locals, names, text each.source fun own known => Function.mem_texts.mpr (.inl known)]
  simp only [List.map_id]

theorem bare_mapText (change : τ → σ) (each : Function τ) : (each.mapText change).bare = each.bare.mapText change := by
  simp only [Function.bare, Function.mapText, List.map_map]
  rfl

theorem recording?_mapText (change : τ → σ) (each : Function τ) (sect : Section) :
    (each.mapText change).recording? sect = each.recording? sect := rfl

namespace Write

theorem sourceOf_mapText (change : τ → σ) (isMain : Bool) (each : Function τ) :
    sourceOf isMain (each.mapText change) = (sourceOf isMain each).map change := by
  rw [sourceOf, sourceOf, recording?_mapText]
  split
  · rfl
  · split
    · split <;> rfl
    · rfl

variable [Encoding τ] [Encoding σ] {change : τ → σ}

theorem string_map (keeps : Encoding.Keeps change) (text : Option τ) : string (text.map change) = string text := by
  cases text with
  | none => rfl
  | some text => rw [Option.map_some, string, string, keeps.encode]

theorem constant_map (keeps : Encoding.Keeps change) (each : Constant τ) :
    constant (Constant.mapText change each) = constant each := by
  cases each with
  | str text =>
    rw [LuaBytecode.Constant.mapText, constant, constant, keeps.length, ← string_map keeps (some text), Option.map_some]
  | bool value => cases value <;> rfl
  | _ => rfl

theorem counted_map {β : Type} {write : β → Emission} {other : α → Emission} {change : α → β}
    (same : ∀ item, write (change item) = other item) (items : List α) :
    counted write (items.map change) = counted other items := by
  have each : (items.map change).map write = items.map other := by
    rw [List.map_map]
    exact List.map_congr_left fun item _ => same item
  rw [counted, counted, each, List.length_map]

theorem front_mapText (keeps : Encoding.Keeps change) (isMain : Bool) (each : Function τ) :
    front isMain (each.mapText change) = front isMain each := by
  rw [front, sourceOf_mapText, string_map keeps, front]
  simp only [Function.mapText, counted_map (constant_map keeps)]
  rfl

theorem debug_mapText (keeps : Encoding.Keeps change) (each : Function τ) :
    debug (each.mapText change) = debug each := by
  have locals (own : Local τ) : localVariable (own.mapText change) = localVariable own := by
    rw [localVariable, Local.mapText, string_map keeps, localVariable]
  simp only [debug, Function.mapText, counted_map locals, counted_map (string_map keeps)]

mutual
theorem prototype_mapText (keeps : Encoding.Keeps change) (isMain : Bool) (tree : Prototype τ) :
    prototype isMain (tree.map (Function.mapText change)) = prototype isMain tree := by
  cases tree with
  | node each inner =>
    rw [Tree.map, prototype, prototype, front_mapText keeps, debug_mapText keeps, forest_mapText keeps inner,
      Tree.length_mapForest]
theorem forest_mapText (keeps : Encoding.Keeps change) (inner : List (Prototype τ)) :
    forest (Tree.mapForest (Function.mapText change) inner) = forest inner := by
  cases inner with
  | nil => rfl
  | cons tree inner =>
    rw [Tree.mapForest, forest, forest, prototype_mapText keeps false tree, forest_mapText keeps inner]
end

end Write

section Ranges

variable [Encoding τ] [Encoding σ] {change : τ → σ}

theorem textFits_map (keeps : Encoding.Keeps change) (text : Option τ) : TextFits (text.map change) ↔ TextFits text := by
  cases text with
  | none => exact ⟨fun _ => nofun, fun _ => nofun⟩
  | some text => simp only [TextFits, Option.map_some, Option.mem_some_iff, forall_eq', keeps.encode]

theorem isConstant_map (keeps : Encoding.Keeps change) (each : Constant τ) :
    IsConstant (Constant.mapText change each) ↔ IsConstant each := by
  cases each with
  | str text => exact textFits_map keeps (some text)
  | _ => rfl

theorem inRange_mapText (keeps : Encoding.Keeps change) (each : Function τ) :
    (each.mapText change).InRange ↔ each.InRange := by
  have locals (own : Local τ) : (own.mapText change).InRange ↔ own.InRange := by
    simp only [Local.inRange_iff, Local.mapText, textFits_map keeps]
  simp only [Function.inRange_iff, Function.mapText, List.length_map, List.forall_mem_map, textFits_map keeps,
    isConstant_map keeps, locals]

end Ranges

theorem write_mapText [Encoding τ] [Encoding σ] {change : τ → σ} (keeps : Encoding.Keeps change) (tree : Prototype τ) :
    write (some (tree.map (Function.mapText change))) = write (some tree) := by
  rw [write, write, Write.prototype_mapText keeps, Tree.top_map]
  rfl

end V54

end LuaBytecode
