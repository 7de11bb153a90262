import LuaBytecode.Proofs.Abreast
import LuaBytecode.Proofs.V54.Wire
import LuaBytecode.V54.Parsing
/-!
Gathering bytes beside reading without: section by section, both read the same, and what is gathered
is what was passed over. So the functions gathered are those that reading gives when it cuts their
bytes out of the input.
-/
namespace LuaBytecode.V54.Gather

open Reader

variable {α β : Type} {limit : Nat}

theorem abreast_fixedWidth (width : Nat) :
    Abreast (fixedWidth width) (Read.fixedWidth width) (fun found n span => found = (n, span)) := by
  refine abreast_bind (abreast_takeUpTo width) ?_
  rintro taken _ _ ⟨rfl, rfl⟩
  refine abreast_map (abreast_self fun _ => yields_fixed) ?_
  rintro n _ _ ⟨rfl, rfl⟩
  rw [List.append_nil]

theorem abreast_byte : Abreast byte Read.byte (fun found n span => found = (n, span)) :=
  abreast_fixedWidth 1

theorem abreast_integer : Abreast integer Read.integer (fun found n span => found = (n, span)) := by
  refine abreast_bind (abreast_fixedWidth 8) ?_
  rintro _ n span rfl
  apply abreast_pure
  rw [List.append_nil]

theorem abreast_number : Abreast number Read.number (fun found x span => found = (x, span)) := by
  refine abreast_bind (abreast_fixedWidth 8) ?_
  rintro _ n span rfl
  apply abreast_pure
  rw [List.append_nil]

theorem abreast_instruction : Abreast instruction Read.instruction (fun found n span => found = (n, span)) := by
  refine abreast_bind (abreast_fixedWidth 4) ?_
  rintro _ n span rfl
  apply abreast_pure
  rw [List.append_nil]

theorem abreast_line : Abreast line Read.line (fun found n span => found = (n, span)) := by
  refine abreast_bind abreast_byte ?_
  rintro _ n span rfl
  apply abreast_pure
  rw [List.append_nil]

-- Both scans go from number to number; one has the groups so far with it.
theorem scan_sizeStep (x : Nat) (passed bytes : Bytes) (pos : Nat) :
    (∃ n span rest, scan Read.sizeStep (.width 1) x bytes pos = (.ok n, pos + span.length, rest) ∧
      scan sizeStep (.width 1) (x, passed) bytes pos = (.ok (n, passed ++ span), pos + span.length, rest) ∧
      bytes = span ++ rest) ∨
    ∃ fault place, scan Read.sizeStep (.width 1) x bytes pos = (.error fault, place) ∧
      scan sizeStep (.width 1) (x, passed) bytes pos = (.error fault, place) := by
  induction bytes generalizing x passed pos with
  | nil => exact .inr ⟨.width 1, (pos, []), rfl, rfl⟩
  | cons byte bytes ih =>
    by_cases room : 2 ^ 57 ≤ x
    · refine .inr ⟨.sizeOverflow, (pos + 1, bytes), ?_, ?_⟩
      · simp [scan, Read.sizeStep, room]
      · simp [scan, sizeStep, room]
    · by_cases marked : 128 ≤ byte.toNat
      · refine .inl ⟨x * 128 + byte.toNat % 128, [byte], bytes, ?_, ?_, rfl⟩
        · simp [scan, Read.sizeStep, room, marked]
        · simp [scan, sizeStep, room, marked]
      · have plain : scan Read.sizeStep (.width 1) x (byte :: bytes) pos =
            scan Read.sizeStep (.width 1) (x * 128 + byte.toNat % 128) bytes (pos + 1) := by
          simp [scan, Read.sizeStep, room, marked]
        have gathered : scan sizeStep (.width 1) (x, passed) (byte :: bytes) pos =
            scan sizeStep (.width 1) (x * 128 + byte.toNat % 128, passed ++ [byte]) bytes (pos + 1) := by
          simp [scan, sizeStep, room, marked]
        rw [plain, gathered]
        rcases ih (x * 128 + byte.toNat % 128) (passed ++ [byte]) (pos + 1) with
          ⟨n, span, rest, ran, ran', start⟩ | failed
        · refine .inl ⟨n, byte :: span, rest, ?_, ?_, ?_⟩
          · rw [ran, List.length_cons]
            congr 2
            omega
          · rw [ran', List.length_cons]
            simp only [List.append_assoc, List.singleton_append]
            congr 2
            omega
          · rw [start, List.cons_append]
        · exact .inr failed

theorem abreast_size : Abreast size Read.size (fun found n span => found = (n, span)) := by
  intro input
  rcases scan_sizeStep 0 [] input.rest input.pos with ⟨n, span, rest, ran, ran', start⟩ | failed
  · refine .inl ⟨(n, span), n, span, { input with pos := input.pos + span.length, rest }, ?_, ?_, start, rfl, rfl⟩
    · rw [size, scanning, ran']
      rfl
    · rw [Read.size, scanning, ran]
  · obtain ⟨fault, ⟨pos, rest⟩, ran, ran'⟩ := failed
    refine .inr ⟨fault, { input with pos, rest }, ?_, ?_⟩
    · rw [size, scanning, ran']
    · rw [Read.size, scanning, ran]

theorem abreast_string : Abreast string Read.string (fun found text span => found = (text, span)) := by
  refine abreast_bind abreast_size ?_
  rintro _ count span rfl
  dsimp only
  split
  · apply abreast_pure
    rw [List.append_nil]
  · refine abreast_bind (abreast_self fun _ => yields_require) ?_
    rintro _ _ _ ⟨_, _, rfl⟩
    refine abreast_bind (abreast_takeUpTo (count - 1)) ?_
    rintro taken _ _ ⟨rfl, rfl⟩
    apply abreast_pure
    simp

theorem abreast_constant : Abreast constant Read.constant (fun found each span => found = (each, span)) := by
  refine abreast_bind abreast_byte ?_
  rintro _ tag span rfl
  dsimp only
  -- The type alone decides how both go on.
  generalize tag % 16 = type
  match type with
  | 0 =>
    apply abreast_pure
    rw [List.append_nil]
  | 1 =>
    apply abreast_pure
    rw [List.append_nil]
  | 3 =>
    apply abreast_ite
    · refine abreast_bind abreast_number ?_
      rintro _ value later rfl
      apply abreast_pure
      rw [List.append_nil]
    · refine abreast_bind abreast_integer ?_
      rintro _ value later rfl
      apply abreast_pure
      rw [List.append_nil]
  | 4 =>
    refine abreast_bind abreast_string ?_
    rintro _ text later rfl
    apply abreast_pure
    rw [List.append_nil]
  | 2 | _ + 5 => exact abreast_fail

-- What is gathered is the value but for the bytes kept inside it, with the bytes passed over. If
-- bytes are kept on both sides, the values are the same.
def Alike (record : Bool) (bare : α → α) (found : α × Bytes) (value : α) (span : Bytes) : Prop :=
  bare found.1 = bare value ∧ found.2 = span ∧ (record = true → found.1 = value)

theorem alike_of_eq {record : Bool} {bare : α → α} {found : α × Bytes} {value : α} {span : Bytes}
    (same : found = (value, span)) : Alike record bare found value span := by
  subst same
  exact ⟨rfl, rfl, fun _ => rfl⟩

theorem abreast_noted (record : Bool) {gathered : Reader (α × Bytes)} {plain : Reader β}
    {holds : α × Bytes → β → Bytes → Prop} (known : Abreast gathered plain holds) :
    Abreast gathered (Read.noted record plain) (fun found noted span =>
      holds found noted.1 span ∧ (record = true → noted.2 = some span)) := by
  apply abreast_symm
  cases record with
  | false =>
    refine abreast_map (abreast_symm known) ?_
    intro value found span held
    exact ⟨held, nofun⟩
  | true =>
    refine abreast_map (abreast_symm (abreast_withSpan known)) ?_
    rintro ⟨value, noted⟩ found span ⟨held, same⟩
    exact ⟨held, fun _ => congrArg some same⟩

theorem abreast_entry (record : Bool) {make : β → Option Bytes → α} {bare : α → α}
    {gathered : Reader (β × Bytes)} {fields : Reader β}
    (known : Abreast gathered fields (fun found values span => found = (values, span)))
    (same : ∀ values kept other, bare (make values kept) = bare (make values other)) :
    Abreast (entry make gathered) (Read.noted record fields >>= fun noted => pure (make noted.1 noted.2))
      (Alike record bare) := by
  refine abreast_bind (abreast_noted record known) ?_
  rintro _ ⟨values, noted⟩ span ⟨rfl, kept⟩
  apply abreast_pure
  rw [List.append_nil]
  exact ⟨same _ _ _, rfl, fun recorded => by rw [kept recorded]⟩

theorem abreast_upvalue (record : Bool) : Abreast upvalue (Read.upvalue record) (Alike record Upvalue.bare) := by
  refine abreast_entry record ?_ fun _ _ _ => rfl
  refine abreast_bind abreast_byte ?_
  rintro _ inStack first rfl
  refine abreast_bind abreast_byte ?_
  rintro _ index second rfl
  refine abreast_bind abreast_byte ?_
  rintro _ kind third rfl
  apply abreast_pure
  simp

theorem abreast_absLine (record : Bool) : Abreast absLine (Read.absLine record) (Alike record AbsLine.bare) := by
  refine abreast_entry record ?_ fun _ _ _ => rfl
  refine abreast_bind abreast_size ?_
  rintro _ pc first rfl
  refine abreast_bind abreast_size ?_
  rintro _ line second rfl
  apply abreast_pure
  simp

theorem abreast_localVariable (record : Bool) :
    Abreast localVariable (Read.localVariable record) (Alike record Local.bare) := by
  refine abreast_entry record ?_ fun _ _ _ => rfl
  refine abreast_bind abreast_string ?_
  rintro _ name first rfl
  refine abreast_bind abreast_size ?_
  rintro _ startPc second rfl
  refine abreast_bind abreast_size ?_
  rintro _ endPc third rfl
  apply abreast_pure
  simp

theorem abreast_counted {record : Bool} {bare : α → α} {gathered : Reader (α × Bytes)} {plain : Reader α}
    (known : Abreast gathered plain (Alike record bare)) :
    Abreast (counted gathered) (Read.counted plain) (Alike record (List.map bare)) := by
  refine abreast_bind abreast_size ?_
  rintro _ count span rfl
  have items : Abreast (times count gathered) (times count plain) (fun found values later =>
      Alike record (List.map bare) (found.map Prod.fst, found.flatMap Prod.snd) values later) := by
    refine abreast_times known ⟨rfl, rfl, fun _ => rfl⟩ ?_ count
    rintro found value first founds values later ⟨same, rfl, equal⟩ ⟨sames, rfl, equals⟩
    refine ⟨?_, ?_, ?_⟩
    · simp only [List.map_cons, same] at sames ⊢
      rw [sames]
    · rw [List.flatMap_cons]
    · intro recorded
      have tails := equals recorded
      dsimp only at tails
      rw [List.map_cons, equal recorded, tails]
  refine abreast_map items ?_
  rintro found values later ⟨sames, rfl, equals⟩
  exact ⟨sames, rfl, equals⟩

theorem abreast_counted_exactly {gathered : Reader (α × Bytes)} {plain : Reader α}
    (known : Abreast gathered plain (fun found value span => found = (value, span))) :
    Abreast (counted gathered) (Read.counted plain) (fun found values span => found = (values, span)) := by
  have alike := abreast_mono known fun _ _ _ same => @alike_of_eq α true id _ _ _ same
  refine abreast_mono (abreast_counted alike) ?_
  rintro ⟨found, bytes⟩ values span ⟨_, rfl, equal⟩
  exact congrArg (·, bytes) (equal rfl)

def bareDebug (debug : Read.Debug) : Read.Debug :=
  { debug with absLineInfo := debug.absLineInfo.map AbsLine.bare, locals := debug.locals.map Local.bare }

theorem abreast_debug (record : Bool) : Abreast debug (Read.debug record) (Alike record bareDebug) := by
  refine abreast_bind (abreast_counted_exactly abreast_line) ?_
  rintro _ lineInfo first rfl
  refine abreast_bind (abreast_counted (abreast_absLine record)) ?_
  rintro ⟨absLines, _⟩ absLineInfo second ⟨absLinesBare, rfl, absLinesSame⟩
  refine abreast_bind (abreast_counted (abreast_localVariable record)) ?_
  rintro ⟨localVariables, _⟩ locals third ⟨localsBare, rfl, localsSame⟩
  refine abreast_bind (abreast_counted_exactly abreast_string) ?_
  rintro _ upvalueNames fourth rfl
  apply abreast_pure
  dsimp only at absLinesBare absLinesSame localsBare localsSame
  refine ⟨?_, ?_, ?_⟩
  · simp only [bareDebug, absLinesBare, localsBare]
  · simp
  · intro recorded
    rw [absLinesSame recorded, localsSame recorded]

end LuaBytecode.V54.Gather

namespace LuaBytecode.V54

def Function.keptIn (sections : List Section) (each : Function) : Option Bytes :=
  (sections.mapM each.recording?).map List.flatten

mutual
def span : Prototype → Option Bytes
  | .node each inner => do
    let front ← each.keptIn [.source, .lineDefined, .lastLineDefined, .paramCount, .varargFlag,
      .maxStackSize, .code, .constants, .upvalues, .inner]
    let middle ← forestSpan inner
    let back ← each.keptIn [.lineInfo, .absLineInfo, .locals, .upvalueNames]
    some (front ++ middle ++ back)
def forestSpan : List Prototype → Option Bytes
  | [] => some []
  | tree :: forest => do
    let head ← span tree
    let tail ← forestSpan forest
    some (head ++ tail)
end

namespace Gather

open Reader

theorem flatten_quarters (bytes : Bytes) : ((Read.quarters bytes).map Prod.snd).flatten = bytes := by
  have first : bytes.take (bytes.length / 4) = (bytes.take (bytes.length / 2)).take (bytes.length / 4) := by
    rw [List.take_take, Nat.min_eq_left (by omega)]
  have second : bytes.take (bytes.length / 2) =
      (bytes.take (3 * bytes.length / 4)).take (bytes.length / 2) := by
    rw [List.take_take, Nat.min_eq_left (by omega)]
  simp only [Read.quarters, List.map_cons, List.map_nil, List.flatten_cons, List.flatten_nil, List.append_nil]
  rw [first, ← List.append_assoc, List.take_append_drop, second, ← List.append_assoc, List.take_append_drop,
    List.take_append_drop]

theorem span_node {each : Function} {inner : List Prototype} {source line lastLine param vararg stack code constants
    upvalues count debug forest : Bytes}
    (kept : each.recorded = some ([(.source, source), (.lineDefined, line), (.lastLineDefined, lastLine),
      (.paramCount, param), (.varargFlag, vararg), (.maxStackSize, stack), (.code, code), (.constants, constants),
      (.upvalues, upvalues), (.inner, count)] ++ Read.quarters debug))
    (passed : forestSpan inner = some forest) :
    span (.node each inner) = some ([source, line, lastLine, param, vararg, stack, code, constants, upvalues,
      count].flatten ++ forest ++ debug) := by
  have front : each.keptIn [.source, .lineDefined, .lastLineDefined, .paramCount, .varargFlag, .maxStackSize,
      .code, .constants, .upvalues, .inner] =
        some [source, line, lastLine, param, vararg, stack, code, constants, upvalues, count].flatten := by
    unfold Function.keptIn Function.recording?
    rw [kept]
    rfl
  have back : each.keptIn [.lineInfo, .absLineInfo, .locals, .upvalueNames] =
      some ((Read.quarters debug).map Prod.snd).flatten := by
    unfold Function.keptIn Function.recording?
    rw [kept]
    rfl
  rw [flatten_quarters] at back
  simp [span, front, passed, back]

def Gathered (record : Bool) (found value : Prototype) (passed : Bytes) : Prop :=
  bare found = bare value ∧ span found = some passed ∧ (record = true → found = value)

theorem abreast_forest {record : Bool} {gathered plain : Reader Prototype}
    (known : Abreast gathered plain (Gathered record)) (count : Nat) :
    Abreast (times count gathered) (times count plain) (fun found values passed =>
      Tree.mapForest Function.bare found = Tree.mapForest Function.bare values ∧
        forestSpan found = some passed ∧ (record = true → found = values)) := by
  refine abreast_times known ⟨rfl, rfl, fun _ => rfl⟩ ?_ count
  rintro tree value passed trees values later ⟨same, kept, equal⟩ ⟨sames, keptLater, equals⟩
  refine ⟨?_, ?_, ?_⟩
  · rw [Tree.mapForest, Tree.mapForest, sames]
    exact congrArg (· :: _) same
  · simp [forestSpan, kept, keptLater]
  · intro recorded
    rw [equal recorded, equals recorded]

theorem abreast_prototype (record : Bool) (depth : Nat) (parent : Option String) :
    Abreast (prototypeWithin depth parent) (Read.prototypeWithin record depth parent) (Gathered record) := by
  induction depth generalizing parent with
  | zero => exact abreast_fail
  | succ depth ih =>
    refine abreast_bind (abreast_noted record abreast_string) ?_
    rintro _ ⟨own, sourceSpan⟩ sourceBytes ⟨rfl, sourceKept⟩
    refine abreast_bind (abreast_noted record abreast_size) ?_
    rintro _ ⟨lineDefined, lineSpan⟩ lineBytes ⟨rfl, lineKept⟩
    refine abreast_bind (abreast_noted record abreast_size) ?_
    rintro _ ⟨lastLineDefined, lastLineSpan⟩ lastLineBytes ⟨rfl, lastLineKept⟩
    refine abreast_bind (abreast_noted record abreast_byte) ?_
    rintro _ ⟨paramCount, paramSpan⟩ paramBytes ⟨rfl, paramKept⟩
    refine abreast_bind (abreast_noted record abreast_byte) ?_
    rintro _ ⟨varargFlag, varargSpan⟩ varargBytes ⟨rfl, varargKept⟩
    refine abreast_bind (abreast_noted record abreast_byte) ?_
    rintro _ ⟨maxStackSize, stackSpan⟩ stackBytes ⟨rfl, stackKept⟩
    refine abreast_bind (abreast_noted record (abreast_counted_exactly abreast_instruction)) ?_
    rintro _ ⟨code, codeSpan⟩ codeBytes ⟨rfl, codeKept⟩
    refine abreast_bind (abreast_noted record (abreast_counted_exactly abreast_constant)) ?_
    rintro _ ⟨constants, constantSpan⟩ constantBytes ⟨rfl, constantKept⟩
    refine abreast_bind (abreast_noted record (abreast_counted (abreast_upvalue record))) ?_
    rintro ⟨gatheredUpvalues, upvalueBytes⟩ ⟨upvalues, upvalueSpan⟩ _ ⟨⟨upvaluesBare, rfl, upvaluesSame⟩, upvalueKept⟩
    refine abreast_bind (abreast_noted record abreast_size) ?_
    rintro _ ⟨innerCount, innerSpan⟩ innerBytes ⟨rfl, innerKept⟩
    refine abreast_bind (abreast_forest (ih _) innerCount) ?_
    rintro gatheredInner inner forestBytes ⟨innerBare, innerPassed, innerSame⟩
    refine abreast_bind (abreast_noted record (abreast_debug record)) ?_
    rintro ⟨gatheredDebug, debugBytes⟩ ⟨debug, debugSpan⟩ _ ⟨⟨debugBare, rfl, debugSame⟩, debugKept⟩
    apply abreast_pure
    dsimp only at upvaluesBare upvaluesSame debugBare debugSame
    dsimp only at sourceKept lineKept lastLineKept paramKept varargKept stackKept codeKept constantKept
    dsimp only at upvalueKept innerKept debugKept
    refine ⟨?_, ?_, ?_⟩
    · have lines := congrArg Read.Debug.lineInfo debugBare
      have absLines := congrArg Read.Debug.absLineInfo debugBare
      have localVariables := congrArg Read.Debug.locals debugBare
      have names := congrArg Read.Debug.upvalueNames debugBare
      dsimp only [bareDebug] at lines absLines localVariables names
      simp only [bare, Tree.map, Function.bare, upvaluesBare, innerBare, lines, absLines, localVariables, names]
    · rw [span_node rfl innerPassed]
      simp
    · rintro rfl
      rw [sourceKept rfl, lineKept rfl, lastLineKept rfl, paramKept rfl, varargKept rfl, stackKept rfl,
        codeKept rfl, constantKept rfl, upvalueKept rfl, innerKept rfl, debugKept rfl, upvaluesSame rfl,
        innerSame rfl, debugSame rfl]
      rfl

theorem prototype_eq (parent : Option String) : prototype parent = Read.prototype true parent := by
  have same : ∀ depth, prototypeWithin depth parent = Read.prototypeWithin true depth parent := by
    intro depth
    exact eq_of_abreast (abreast_prototype true depth parent) fun _ _ _ held => held.2.2 rfl
  simp only [prototype, Read.prototype, same]

end Gather

namespace Read

open Reader

theorem chunk_eq (record : Bool) : chunk record = (do
    let header ← header
    let upvalueCount ← byte
    sayLine s!"主函数 upvalue 数量: {upvalueCount}\n"
    let main ← prototype record (some "")
    pure { header, upvalueCount, main }) := by
  cases record with
  | false => rfl
  | true => simp only [chunk, if_true, Gather.prototype_eq]

end Read

end LuaBytecode.V54
