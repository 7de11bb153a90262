import LuaBytecode.Jit.Listing
import LuaBytecode.Proofs.LayoutUse
import LuaBytecode.Proofs.Jit.Framing
import LuaBytecode.Proofs.Text
/-!
The rows on lines in listings of LuaJIT. A dump that is stripped says so in its header, and its prototypes have no lines
then. A listing goes by a flag of the prototype instead, which says something else: that the function takes any number of
arguments.
-/
namespace LuaBytecode.Jit

section Rows

open Text

inductive LineFact where
  | first
  | count
deriving DecidableEq

namespace LineFact

def label : LineFact → String
  | first => "首行号 (firstline):   "
  | count => "行数 (numline):       "

def initial : LineFact → Char
  | first => '首'
  | count => '行'

def value (prototype : Prototype) : LineFact → Int
  | first => prototype.firstLine
  | count => prototype.lineCount

def text (n : Int) (fact : LineFact) : String := fact.label ++ decimal n

def row (level n : Int) (fact : LineFact) : String := times level "  " ++ fact.text n

theorem opening_text (fact : LineFact) (n : Int) : opening (fact.text n) = some fact.initial := by
  apply opening_append
  cases fact <;> decide

theorem initial_injective {fact other : LineFact} (same : fact.initial = other.initial) : fact = other := by
  cases fact <;> cases other <;> simp [initial] at same ⊢

theorem text_inj {fact other : LineFact} {n m : Int} : fact.text n = other.text m ↔ fact = other ∧ n = m := by
  constructor
  · intro same
    have initials := fact.opening_text n
    rw [same, other.opening_text m] at initials
    obtain rfl := initial_injective (Option.some.inj initials)
    exact ⟨rfl, decimal_injective (append_left_cancel same)⟩
  · rintro ⟨rfl, rfl⟩
    rfl

end LineFact

namespace Prototype

def ListsLines (level : Int) (prototype : Prototype) : Prop :=
  ∀ fact : LineFact, ∃ n, fact.row level n ∈ prototype.listing level

theorem beginsPlain_codeRows (prototype : Prototype) : ∀ row ∈ prototype.codeRows, BeginsPlain row := by
  intro row member
  simp only [codeRows, List.mem_append, List.mem_cons, List.not_mem_nil, or_false, List.mem_mapIdx] at member
  rcases member with (rfl | rfl) | ⟨index, inside, rfl⟩
  · exact ⟨' ', by decide +kernel, by decide⟩
  · exact ⟨'-', by decide +kernel, by decide⟩
  · simp only [String.append_assoc]
    exact beginsPlain_append (beginsPlain_padLeft 4) _

theorem beginsPlain_numbered (texts : List String) : ∀ row ∈ numbered texts, BeginsPlain row := by
  intro row member
  simp only [numbered, List.mem_mapIdx] at member
  obtain ⟨index, inside, rfl⟩ := member
  simp only [toString_text, String.append_assoc]
  exact beginsPlain_append ⟨' ', by decide, by decide⟩ _

variable {prototype : Prototype} {text : String} {c : Char}

theorem not_mem_block {level : Int} {title : String} {isEmpty : Bool} {rows : List String}
    (begins : opening text = some c) (wide : 128 ≤ c.toNat) (plain : ∀ row ∈ rows, BeginsPlain row) :
    times level "  " ++ text ∉ block (times level "  ") title isEmpty rows := by
  intro member
  unfold block at member
  split at member
  · cases member
  rcases List.mem_cons.mp member with same | within
  · -- The title stands behind the end of an empty line.
    have broken : opening ("\n" ++ times level "  " ++ title) = some '\n' := by
      rw [String.append_assoc]
      exact opening_append (by decide) _
    have other : c ≠ '\n' := by
      rintro rfl
      exact absurd wide (by decide)
    rcases opening_margin begins with blank | first
    · exact ne_of_opening blank broken (by decide) same
    · exact ne_of_opening first broken other same
  · obtain ⟨d, first, small⟩ := plain text (mem_map_margin.mp within)
    rw [begins] at first
    cases first
    omega

theorem mem_listing_iff (begins : opening text = some c) (wide : 128 ≤ c.toNat) (other : c ≠ '函')
    (filled : prototype.size ≠ 0) (level : Int) :
    times level "  " ++ text ∈ prototype.listing level ↔ text ∈ prototype.facts := by
  have ruler : text ≠ times 50 "=" := by
    refine ne_of_opening begins (by decide +kernel : opening (times 50 "=") = some '=') ?_
    rintro rfl
    exact absurd wide (by decide)
  have title : text ≠ s!"函数原型 (Proto) - 层级 {level}" := ne_of_opening begins (opening_append (by decide) _) other
  have last : times level "  " ++ text ≠ "" := by
    intro empty
    have letters := congrArg String.toList empty
    rw [String.toList_append] at letters
    rw [opening, (List.append_eq_nil_iff.mp letters).2] at begins
    cases begins
  have code (heading : String) (isEmpty : Bool) :
      times level "  " ++ text ∉ block (times level "  ") heading isEmpty prototype.codeRows :=
    not_mem_block begins wide prototype.beginsPlain_codeRows
  have listed (heading : String) (isEmpty : Bool) (texts : List String) :
      times level "  " ++ text ∉ block (times level "  ") heading isEmpty (numbered texts) :=
    not_mem_block begins wide (beginsPlain_numbered texts)
  rw [listing, if_neg filled]
  simp only [List.mem_append, mem_map_margin, code, listed, List.mem_cons, List.not_mem_nil, ruler, title, last, or_false,
    false_or]

theorem facts_eq (prototype : Prototype) :
    ∃ front, prototype.facts = front ++ (if prototype.showsLines then
        [LineFact.first.text prototype.firstLine, LineFact.count.text prototype.lineCount] else []) ∧
      ∀ row ∈ front, ∃ d, opening row = some d ∧ ∀ fact : LineFact, d ≠ fact.initial := by
  refine ⟨_, rfl, ?_⟩
  have begins {label : String} (d : Char) (first : opening label = some d) (apart : d ≠ '首' ∧ d ≠ '行') (rest : String) :
      ∃ d, opening (label ++ rest) = some d ∧ ∀ fact : LineFact, d ≠ fact.initial := by
    refine ⟨d, opening_append first rest, ?_⟩
    rintro (_ | _)
    · exact apart.1
    · exact apart.2
  simp only [List.forall_mem_cons]
  exact ⟨begins '大' (by decide) (by decide) _, begins '标' (by decide) (by decide) _,
    begins '参' (by decide) (by decide) _, begins '栈' (by decide) (by decide) _,
    begins '上' (by decide) (by decide) _, begins 'G' (by decide) (by decide) _,
    begins '数' (by decide) (by decide) _, begins '字' (by decide) (by decide) _,
    fun _ none => absurd none List.not_mem_nil⟩

theorem text_mem_facts_iff {fact : LineFact} {n : Int} :
    fact.text n ∈ prototype.facts ↔ prototype.showsLines = true ∧ n = fact.value prototype := by
  obtain ⟨front, whole, others⟩ := prototype.facts_eq
  have absent : fact.text n ∉ front := by
    intro member
    obtain ⟨d, first, apart⟩ := others _ member
    exact ne_of_opening first (fact.opening_text n) (apart fact) rfl
  rw [whole, List.mem_append]
  cases prototype.showsLines <;> cases fact <;> simp [absent, LineFact.text_inj, LineFact.value]

theorem row_mem_listing_iff (filled : prototype.size ≠ 0) {fact : LineFact} {level n : Int} :
    fact.row level n ∈ prototype.listing level ↔ prototype.showsLines = true ∧ n = fact.value prototype := by
  have wide : 128 ≤ fact.initial.toNat := by cases fact <;> decide
  have other : fact.initial ≠ '函' := by cases fact <;> decide
  rw [LineFact.row, mem_listing_iff (fact.opening_text n) wide other filled, text_mem_facts_iff]

theorem listsLines_iff (filled : prototype.size ≠ 0) (level : Int) :
    prototype.ListsLines level ↔ prototype.showsLines = true := by
  constructor
  · intro all
    obtain ⟨_, listed⟩ := all .first
    exact ((row_mem_listing_iff filled).mp listed).1
  · exact fun shown fact => ⟨_, (row_mem_listing_iff filled).mpr ⟨shown, rfl⟩⟩

end Prototype

end Rows

open Reader

def Prototype.FlaggedBy (stripped : Bool) (prototype : Prototype) (span : Bytes) : Prop :=
  ∃ flags content, span = flags :: content ∧ prototype.flags = flags.toNat ∧
    (stripped = true → ∀ fact : LineFact, fact.value prototype = 0)

namespace Read

section Laws

variable {α β : Type} {layout : Layout}

theorem ensuresUnder_of_placeless {reader : Reader α} (known : Placeless reader) :
    EnsuresUnder layout reader (fun _ _ => True) := by
  intro input value after found ran
  obtain ⟨span, start, alike⟩ := known.ok input value after ran
  have reached := Placeless.after_eq start ran alike
  refine ⟨?_, span, start, ?_, trivial⟩
  · rw [reached]
    exact found
  · rw [reached]

variable {next : α → Reader β} {holds : β → Prop}

theorem ensuresUnder_past {first : Reader α} (head : Placeless first)
    (tail : ∀ value, EnsuresUnder layout (next value) (fun result _ => holds result)) :
    EnsuresUnder layout (first >>= next) (fun result _ => holds result) :=
  ensuresUnder_bind (ensuresUnder_of_placeless head) fun value _ _ => tail value

theorem ensuresUnder_past_choice {condition : Prop} [Decidable condition] {one other : Reader α} (met : Placeless one)
    (unmet : Placeless other) (tail : ∀ value, EnsuresUnder layout (next value) (fun result _ => holds result)) :
    EnsuresUnder layout (if condition then one >>= next else other >>= next) (fun result _ => holds result) := by
  split
  · exact ensuresUnder_past met tail
  · exact ensuresUnder_past unmet tail

end Laws

variable {layout : Layout}

theorem ensuresUnder_unless_stripped {stripped : Bool} {next : Nat → Reader Prototype} {holds : Prototype → Prop}
    (tail : ∀ n, (stripped = true → n = 0) → EnsuresUnder layout (next n) (fun found _ => holds found)) :
    EnsuresUnder layout (if stripped = true then pure 0 >>= next else varint >>= next)
      (fun found _ => holds found) := by
  cases stripped with
  | true => exact tail 0 fun _ => rfl
  | false =>
    exact ensuresUnder_past (placeless_of_composed composed_varint) fun n =>
      tail n fun absent => absurd absent Bool.false_ne_true

theorem ensuresUnder_body (size : Nat) :
    EnsuresUnder layout (body size) (Prototype.FlaggedBy layout.stripped) := by
  have first : EnsuresUnder layout byte Single := ensuresUnder_single
  apply ensuresUnder_bind first
  rintro _ _ ⟨flags, rfl, rfl⟩
  suffices later : EnsuresUnder layout _ (fun (found : Prototype) _ => found.flags = flags.toNat ∧
      (layout.stripped = true → ∀ fact : LineFact, fact.value found = 0)) from
    ensuresUnder_mono later fun _ content known => ⟨flags, content, rfl, known⟩
  apply ensuresUnder_past (placeless_of_composed composed_fixedWidth)
  intro paramCount
  apply ensuresUnder_past (placeless_of_composed composed_fixedWidth)
  intro frameSize
  apply ensuresUnder_past (placeless_of_composed composed_fixedWidth)
  intro upvalueCount
  apply ensuresUnder_past (placeless_of_composed composed_varint)
  intro collectableCount
  apply ensuresUnder_past (placeless_of_composed composed_varint)
  intro numberCount
  apply ensuresUnder_past (placeless_of_composed composed_varint)
  intro codeCount
  apply ensuresUnder_layout
  apply ensuresUnder_past_choice placeless_pure (placeless_of_composed composed_varint)
  intro debugSize
  apply ensuresUnder_unless_stripped
  intro firstLine noFirst
  apply ensuresUnder_unless_stripped
  intro lineCount noCount
  apply ensuresUnder_past (placeless_of_composed (composed.times composed_word codeCount))
  intro code
  apply ensuresUnder_past (placeless_of_composed (composed.times composed_word upvalueCount))
  intro upvalueData
  apply ensuresUnder_past (placeless_of_composed (composed.times composed_collectable collectableCount))
  intro collectables
  apply ensuresUnder_past (placeless_of_composed (composed.times composed_number numberCount))
  intro numbers
  apply ensuresUnder_past_choice placeless_pure (placeless_of_composed composed_debug)
  intro sections
  apply ensuresUnder_pure
  refine ⟨rfl, ?_⟩
  rintro absent (_ | _)
  · exact congrArg Nat.cast (noFirst absent)
  · exact congrArg Nat.cast (noCount absent)

def Leaves {α : Type} (reader : Reader α) (holds : α → Layout → Prop) : Prop :=
  ∀ (input : Input) (value : α) (after : Input), reader input = (.ok value, after) → holds value after.layout

theorem leaves_after {α β : Type} {first : Reader α} {next : α → Reader β} {holds : β → Layout → Prop}
    (tail : ∀ value, Leaves (next value) holds) : Leaves (first >>= next) holds := by
  intro input result after ran
  obtain ⟨value, between, _, later⟩ := ok_of_bind ran
  exact tail value between result after later

theorem leaves_setLayout {β : Type} {next : Unit → Reader β} {holds : β → Layout → Prop}
    (tail : EnsuresUnder layout (next ()) (fun result _ => holds result layout)) :
    Leaves (setLayout layout >>= next) holds := by
  intro input result after ran
  obtain ⟨kept, _, _, _, known⟩ := tail { input with layout } result after rfl ran
  rw [kept]
  exact known

theorem leaves_header : Leaves header (fun found layout => layout.stripped = found.isStripped) := by
  apply leaves_after
  intro found
  apply leaves_after
  intro _
  apply leaves_after
  intro _
  apply leaves_after
  intro version
  suffices later : Leaves _ (fun (found : Header) layout => layout.stripped = found.isStripped) from by
    split
    · exact leaves_after fun _ => later
    · exact later
  apply leaves_after
  intro flags
  apply leaves_after
  intro before
  apply leaves_setLayout
  apply ensuresUnder_past_choice placeless_pure (placeless_of_composed composed_varint)
  intro length
  apply ensuresUnder_past_choice placeless_pure (placeless_of_composed composed_string)
  intro name
  exact ensuresUnder_pure rfl

theorem flaggedBy_of_mem_frames {fuel : Nat} {input : Input} {each : Frame} (member : each ∈ frames fuel input) :
    each.prototype.size ≠ 0 ∧ each.prototype.FlaggedBy input.layout.stripped each.body := by
  obtain ⟨start, after, ran, nonzero, same⟩ := run_of_mem_frames member
  obtain ⟨size, between, noted, same'⟩ := body_of_frame ran nonzero
  obtain ⟨_, _, alike⟩ := (placeless_of_composed (composed_body size)).noted noted
  have read := alike between.pos after.rest Iff.rfl
  obtain ⟨_, span, passed, _, known⟩ := ensuresUnder_body size _ _ _ rfl read
  change each.body ++ after.rest = span ++ after.rest at passed
  rw [← List.append_cancel_right passed, same', same] at known
  exact ⟨nonzero, known⟩

end Read

theorem lines_listed_by_own_flag {data : Bytes} {dump : Dump} (accepted : (parse data).1 = .ok dump) :
    ∃ front tail, data = front ++ ((frames data).flatMap Frame.bytes ++ tail) ∧
      dump.prototypes = (frames data).map Frame.prototype ∧
      ∀ frame ∈ frames data, ∃ flags content, frame.body = flags :: content ∧
        (dump.header.isStripped = true → ∀ fact : LineFact, fact.value frame.prototype = 0) ∧
        ∀ level,
          (∀ (fact : LineFact) (n : Int), fact.row level n ∈ frame.prototype.listing level ↔
            flags.toNat / 2 % 2 = 0 ∧ n = fact.value frame.prototype) ∧
          ((frame.prototype.ListsLines level ↔ dump.header.isStripped = false) ↔
            (flags.toNat / 2 % 2 = 1 ↔ dump.header.isStripped = true)) := by
  obtain ⟨headed, front, tail, start, known, same, whole⟩ := header_of_parse accepted
  refine ⟨front, tail, whole, same, ?_⟩
  intro frame member
  rw [known] at member
  obtain ⟨filled, flags, content, begins, own, blank⟩ := Read.flaggedBy_of_mem_frames member
  rw [Read.leaves_header _ _ _ start] at blank
  have shown : frame.prototype.showsLines = true ↔ flags.toNat / 2 % 2 = 0 := by
    rw [Prototype.showsLines, own, decide_eq_true_eq]
    omega
  refine ⟨flags, content, begins, blank, ?_⟩
  intro level
  constructor
  · intro fact n
    rw [Prototype.row_mem_listing_iff filled, shown]
  · rw [Prototype.listsLines_iff filled, shown]
    cases dump.header.isStripped <;> simp

-- A file with two functions, of which the first takes any number of arguments.
def mixedLines : Bytes :=
  signature ++ [1, 0, 1, 0x78] ++ Write.sized [2, 0, 2, 0, 0, 0, 1, 0, 0, 12, 0x47, 0, 1, 0] ++
    Write.sized [0, 1, 2, 0, 0, 0, 1, 0, 5, 3, 0x47, 0, 1, 0] ++ [0]

theorem lines_listed_by_own_flag_mixed :
    ∃ dump, (parse mixedLines).1 = .ok dump ∧ dump.header.isStripped = false ∧
      (frames mixedLines).map (fun frame => frame.body.head?) = [some 2, some 0] ∧
      ∀ frame ∈ frames mixedLines, ∀ level, frame.prototype.ListsLines level ↔ frame.body.head? ≠ some 2 := by
  have seen : seenIn (fun dump => dump.header.isStripped) (parse mixedLines) = some false := by decide +kernel
  have flags : (frames mixedLines).map (fun frame => frame.body.head?) = [some 2, some 0] := by decide +kernel
  obtain ⟨dump, after, ran, whole⟩ := accepted_of_seenIn seen
  have accepted : (parse mixedLines).1 = .ok dump := by rw [ran]
  obtain ⟨_, _, _, _, each⟩ := lines_listed_by_own_flag accepted
  refine ⟨dump, accepted, whole, flags, ?_⟩
  intro frame member level
  obtain ⟨first, content, begins, _, rows⟩ := each frame member
  obtain ⟨_, decided⟩ := rows level
  have listed : frame.prototype.ListsLines level ↔ ¬ first.toNat / 2 % 2 = 1 := by simpa [whole] using decided
  have known : frame.body.head? ∈ [some 2, some 0] := flags ▸ List.mem_map_of_mem member
  rw [begins, List.head?_cons] at known ⊢
  rw [listed]
  simp only [List.mem_cons, Option.some.injEq, List.not_mem_nil, or_false] at known
  rcases known with rfl | rfl <;> decide

-- A file without debug information. Its function takes a fixed number of arguments.
def strippedLines : Bytes := signature ++ [1, 2] ++ Write.sized [0, 0, 2, 0, 0, 0, 1, 0x47, 0, 1, 0] ++ [0]

theorem line_rows_miss_strip_flag :
    (∃ dump, (parse mixedLines).1 = .ok dump ∧ dump.header.isStripped = false ∧
      ∃ prototype ∈ dump.prototypes, prototype.lineCount = 12 ∧ ∀ level, ¬ prototype.ListsLines level) ∧
    ∃ dump, (parse strippedLines).1 = .ok dump ∧ dump.header.isStripped = true ∧
      ∃ prototype ∈ dump.prototypes, ∀ level, prototype.ListsLines level := by
  constructor
  · have seen : seenIn (fun dump => (dump.header.isStripped, dump.prototypes.map fun each =>
        (each.size, each.lineCount, each.showsLines))) (parse mixedLines) =
          some (false, [(14, 12, false), (14, 3, true)]) := by decide +kernel
    obtain ⟨dump, after, ran, shown⟩ := accepted_of_seenIn seen
    obtain ⟨whole, functions⟩ := Prod.mk.inj shown
    obtain ⟨prototype, member, same⟩ := List.mem_map.mp (functions ▸ List.mem_cons_self)
    simp only [Prod.mk.injEq] at same
    obtain ⟨size, count, hidden⟩ := same
    refine ⟨dump, by rw [ran], whole, prototype, member, count, ?_⟩
    intro level
    rw [Prototype.listsLines_iff (by rw [size]; decide), hidden]
    exact Bool.false_ne_true
  · have seen : seenIn (fun dump => (dump.header.isStripped, dump.prototypes.map fun each =>
        (each.size, each.showsLines))) (parse strippedLines) = some (true, [(11, true)]) := by decide +kernel
    obtain ⟨dump, after, ran, shown⟩ := accepted_of_seenIn seen
    obtain ⟨stripped, functions⟩ := Prod.mk.inj shown
    obtain ⟨prototype, member, same⟩ := List.mem_map.mp (functions ▸ List.mem_cons_self)
    simp only [Prod.mk.injEq] at same
    obtain ⟨size, shows⟩ := same
    refine ⟨dump, by rw [ran], stripped, prototype, member, ?_⟩
    intro level
    rw [Prototype.listsLines_iff (by rw [size]; decide), shows]

end LuaBytecode.Jit
