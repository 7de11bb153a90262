import LuaBytecode.Proofs.Extent
import LuaBytecode.Proofs.Jit.RoundTrip
import LuaBytecode.Proofs.Placement
/-!
The names of variables. The byte that tells the kind of an entry is the first byte of a name as well, and it is not
given back to the name. What is left of the name is read on its own, byte by byte if it begins in the middle of a
character.
-/
namespace LuaBytecode.Jit

open Reader Text

namespace Read

variable {α β : Type} {names : Reader (List String)} {named : α → List String → α} {due : α → Prop}

-- Where names are due, one reader stops in front of them and the other goes on to read them.
def GoesOn (names : Reader (List String)) (named : α → List String → α) (due : α → Prop) (one other : Reader α) : Prop :=
  ∀ (input : Input) (front : α) (between : Input), one input = (.ok front, between) → due front →
    other input = (names >>= fun found => pure (named front found)) between

theorem goesOn_bind {first : Reader β} {next next' : β → Reader α}
    (tail : ∀ value, GoesOn names named due (next value) (next' value)) :
    GoesOn names named due (first >>= next) (first >>= next') := by
  intro input front between ran met
  obtain ⟨value, middle, begun, later⟩ := ok_of_bind ran
  rw [bind_of_ok begun]
  exact tail value middle front between later met

theorem goesOn_choice {condition : Prop} [Decidable condition] {first second : Reader β} {next next' : β → Reader α}
    (tail : ∀ value, GoesOn names named due (next value) (next' value)) :
    GoesOn names named due (if condition then first >>= next else second >>= next)
      (if condition then first >>= next' else second >>= next') := by
  split
  · exact goesOn_bind tail
  · exact goesOn_bind tail

theorem goesOn_optional {stripped : Bool} {reader : Reader Nat} {next next' : Nat → Reader α}
    (tail : ∀ n, (stripped = true → n = 0) → GoesOn names named due (next n) (next' n)) :
    GoesOn names named due (if stripped = true then pure 0 >>= next else reader >>= next)
      (if stripped = true then pure 0 >>= next' else reader >>= next') := by
  cases stripped with
  | true => exact tail 0 fun _ => rfl
  | false => exact goesOn_bind fun n => tail n fun absent => absurd absent Bool.false_ne_true

theorem goesOn_map {one other : Reader β} {into : β → List String → β} {view : β → α}
    (known : GoesOn names into (fun _ => True) one other)
    (same : ∀ front found, view (into front found) = named (view front) found) :
    GoesOn names named due (one >>= fun front => pure (view front)) (other >>= fun front => pure (view front)) := by
  intro input _ between ran _
  obtain ⟨front, middle, begun, last⟩ := ok_of_bind ran
  cases last
  have reached := known input front between begun trivial
  cases outcome : names between with
  | mk result after =>
    cases result with
    | error fault =>
      rw [bind_of_error outcome] at reached ⊢
      rw [bind_of_error reached]
    | ok found =>
      rw [bind_of_ok outcome] at reached ⊢
      rw [bind_of_ok reached, same]

theorem goesOn_debug {codeCount upvalueCount lineCount : Nat} :
    GoesOn names (fun sections found => { sections with variableNames := found }) (fun _ => True)
      (debugWith (pure []) codeCount upvalueCount lineCount) (debugWith names codeCount upvalueCount lineCount) := by
  apply goesOn_choice
  intro lineInfo
  apply goesOn_bind
  intro upvalueNames input _ between ran _
  cases ran
  rfl

theorem goesOn_body (size : Nat) :
    GoesOn names (fun front found => { front with variableNames := found }) (fun front => front.debugSize ≠ 0)
      (bodyWith (pure []) size) (bodyWith names size) := by
  apply goesOn_bind
  intro flags
  apply goesOn_bind
  intro paramCount
  apply goesOn_bind
  intro frameSize
  apply goesOn_bind
  intro upvalueCount
  apply goesOn_bind
  intro collectableCount
  apply goesOn_bind
  intro numberCount
  apply goesOn_bind
  intro codeCount
  apply goesOn_bind
  intro found
  apply goesOn_optional
  intro debugSize none
  apply goesOn_choice
  intro firstLine
  apply goesOn_choice
  intro lineCount
  apply goesOn_bind
  intro code
  apply goesOn_bind
  intro upvalueData
  apply goesOn_bind
  intro collectables
  apply goesOn_bind
  intro numbers
  split
  · rename_i absent
    have zero : debugSize = 0 := absent.elim none id
    intro input _ between ran some
    cases ran
    exact absurd (by rw [zero]; rfl) some
  · exact goesOn_map goesOn_debug fun _ _ => rfl

theorem goesOn_prototype :
    GoesOn names (fun front found => { front with variableNames := found }) (fun front => front.debugSize ≠ 0)
      (prototypeWith (pure [])) (prototypeWith names) := by
  apply goesOn_bind
  intro size
  split
  · intro input _ between ran some
    cases ran
    exact absurd rfl some
  · exact goesOn_body size

end Read

inductive Label where
  | special (kind : Nat)
  | named (name : String)
deriving DecidableEq

structure Entry where
  label : Label
  first : Bytes
  last : Bytes
deriving DecidableEq

namespace Label

def bytes : Label → Bytes
  | special kind => [UInt8.ofNat kind]
  | named name => Write.terminated name

-- The first byte of a name is no kind of its own, and none of its bytes ends it.
def IsLegible : Label → Prop
  | special kind => 1 ≤ kind ∧ kind ≤ 6
  | named name => '\x00' ∉ name.toList ∧ ∃ byte content, Utf8.encode name = byte :: content ∧ 7 ≤ byte.toNat

def seen : Label → String
  | special kind => s!"<type_{kind}>"
  | named name => Utf8.decodeOrBytewise (Utf8.encode name).tail

end Label

namespace Entry

def bytes (entry : Entry) : Bytes := entry.label.bytes ++ (entry.first ++ entry.last)

def IsLegible (entry : Entry) : Prop := entry.label.IsLegible ∧ IsVarint entry.first ∧ IsVarint entry.last

end Entry

theorem Read.spells_bytes {layout : Layout} {entry : Entry} (legible : entry.IsLegible) :
    Spells layout entry.bytes entry.label.seen := by
  obtain ⟨label, first, last⟩ := entry
  obtain ⟨known, one, two⟩ := legible
  have scope : IsScope layout (first ++ last) := ⟨first, last, rfl, consumes_isVarint one, consumes_isVarint two⟩
  cases label with
  | special kind =>
    obtain ⟨low, high⟩ := known
    have value : (UInt8.ofNat kind).toNat = kind := Utf8.toNat_ofNat_small (by omega)
    have spelled := @Spells.special layout (UInt8.ofNat kind) _ (by omega) (by omega) scope
    rwa [value] at spelled
  | named name =>
    obtain ⟨free, byte, content, spelled, notKind⟩ := known
    have inside : 0 ∉ content := by
      have all := Utf8.zero_not_mem_encode free
      rw [spelled] at all
      exact fun member => all (List.mem_cons_of_mem byte member)
    have known := Spells.named notKind inside scope
    simpa [Entry.bytes, Label.bytes, Write.terminated, Label.seen, spelled] using known

namespace Label

variable {name : String} {c : Char} {tail : List Char}

theorem seen_ascii (letters : name.toList = c :: tail) (small : c.toNat < 0x80) :
    (named name).seen = String.ofList tail := by
  have rest : (Utf8.encode name).tail = Utf8.encode (String.ofList tail) := by
    rw [Utf8.encode, letters, List.flatMap_cons, Utf8.encodeChar_ascii small, List.singleton_append, List.tail_cons,
      Utf8.encode, String.toList_ofList]
  rw [seen, rest, Utf8.decodeOrBytewise_encode]

-- Without its first byte a longer character is no character, and all of the name is taken byte by byte.
theorem seen_wide (letters : name.toList = c :: tail) (wide : 0x80 ≤ c.toNat) :
    (named name).seen = Utf8.decodeBytewise (Utf8.encode name).tail := by
  obtain ⟨first, second, rest, spelled, follows, _⟩ := Utf8.encodeChar_wide wide
  rw [seen, Utf8.encode, letters, List.flatMap_cons, spelled]
  exact Utf8.decodeOrBytewise_of_tail _ follows

theorem seen_eq_iff (letters : name.toList = c :: tail) :
    (named name).seen = name ↔ (0x80 ≤ c.toNat ∧ c.toNat < 0xC0) ∧ ∀ other ∈ tail, other.toNat < 0x80 := by
  by_cases wide : 0x80 ≤ c.toNat
  · obtain ⟨first, second, rest, spelled, _, width⟩ := Utf8.encodeChar_wide wide
    have bytes : (Utf8.encode name).tail = second :: (rest ++ tail.flatMap Utf8.encodeChar) := by
      rw [Utf8.encode, letters, List.flatMap_cons, spelled]
      rfl
    rw [seen_wide letters wide, bytes, Utf8.decodeBytewise, ← String.toList_inj, String.toList_ofList, letters,
      List.map_cons, List.cons.injEq]
    constructor
    · rintro ⟨head, others⟩
      have count := congrArg List.length others
      have least := Utf8.length_le_flatMap_encodeChar tail
      rw [List.length_map, List.length_append] at count
      have ascii := Utf8.ascii_of_length_le (show (tail.flatMap Utf8.encodeChar).length ≤ tail.length by omega)
      have none : rest = [] := List.eq_nil_of_length_eq_zero (by omega)
      have value := Utf8.toNat_charOfByte second
      rw [head] at value
      split at width
      · refine ⟨⟨wide, ?_⟩, ascii⟩
        omega
      · exact absurd none width
    · rintro ⟨⟨_, below⟩, ascii⟩
      rw [if_pos (by omega)] at width
      obtain ⟨value, rfl⟩ := width
      have whole : second.toNat = c.toNat := by omega
      rw [whole, Char.ofNat_toNat, List.nil_append, Utf8.bytewise_ascii ascii]
      exact ⟨rfl, rfl⟩
  · rw [seen_ascii letters (by omega), ← String.toList_inj, String.toList_ofList, letters]
    constructor
    · intro same
      exact absurd (congrArg List.length same) (by simp)
    · exact fun kept => absurd kept.1.1 wide

end Label

theorem variable_names_lose_first_byte {input between : Input} {front : Prototype} {entries : List Entry}
    {rest : Bytes} (read : Read.prototypeWith (pure []) input = (.ok front, between)) (some : front.debugSize ≠ 0)
    (legible : ∀ entry ∈ entries, entry.IsLegible)
    (listed : between.rest = (entries.flatMap Entry.bytes ++ [0]) ++ rest) :
    Read.prototype input =
      (.ok { front with variableNames := entries.map fun entry => entry.label.seen },
        { between with pos := between.pos + (entries.flatMap Entry.bytes ++ [0]).length, rest }) ∧
    ∀ entry ∈ entries, ∀ name, entry.label = .named name → ∃ c tail, name.toList = c :: tail ∧
      (c.toNat < 0x80 → entry.label.seen = String.ofList tail) ∧
      (0x80 ≤ c.toNat → entry.label.seen = Utf8.decodeBytewise (Utf8.encode name).tail) ∧
      (entry.label.seen = name ↔ (0x80 ≤ c.toNat ∧ c.toNat < 0xC0) ∧ ∀ other ∈ tail, other.toNat < 0x80) := by
  constructor
  · have names := run_of_quiet
      (Read.consumes_nestedNames fun entry member => Read.spells_bytes (legible entry member))
      (Read.quiet_of_composed Read.composed_nestedNames) rfl listed
    rw [Read.prototype, Read.goesOn_prototype input front between read some, bind_of_ok names]
    rfl
  · intro entry member name same
    obtain ⟨known, _⟩ := legible entry member
    rw [same] at known ⊢
    obtain ⟨_, byte, content, spelled, _⟩ := known
    cases letters : name.toList with
    | nil =>
      rw [Utf8.encode, letters] at spelled
      cases spelled
    | cons c tail =>
      exact ⟨c, tail, rfl, Label.seen_ascii letters, Label.seen_wide letters, Label.seen_eq_iff letters⟩

-- A prototype with one upvalue up to its variables, and variables of both kinds. The last of the names is one that
-- comes through.
def beforeVariables : Bytes :=
  [0, 0, 1, 1, 0, 0, 1, 27, 1, 1] ++ [0x47, 0, 1, 0] ++ [0, 0x80] ++ [0] ++ [0x75, 0]

def mixedEntries : List Entry :=
  [⟨.special 1, [0], [0xC8, 1]⟩, ⟨.named "count", [1], [5]⟩, ⟨.named "é", [2], [5]⟩, ⟨.named "\u00A0x", [3], [5]⟩]

theorem mixedEntries_legible : ∀ entry ∈ mixedEntries, entry.IsLegible := by
  have one (last : UInt8) (final : last.toNat < 128) : IsVarint [last] := ⟨[], last, rfl, by decide, by simp, final⟩
  intro entry member
  simp only [mixedEntries, List.mem_cons, List.not_mem_nil, or_false] at member
  rcases member with rfl | rfl | rfl | rfl
  · exact ⟨⟨by decide, by decide⟩, one 0 (by decide), [0xC8], 1, rfl, by decide, by simp, by decide⟩
  · exact ⟨⟨by decide, 0x63, _, rfl, by decide⟩, one 1 (by decide), one 5 (by decide)⟩
  · exact ⟨⟨by decide, 0xC3, _, rfl, by decide⟩, one 2 (by decide), one 5 (by decide)⟩
  · exact ⟨⟨by decide, 0xC2, _, rfl, by decide⟩, one 3 (by decide), one 5 (by decide)⟩

def beforeNames : Prototype :=
  { size := 43, frameSize := 1, upvalueCount := 1, codeCount := 1, debugSize := 27, firstLine := 1, lineCount := 1,
    code := [0x10047], upvalueData := [0x8000], lineInfo := [0], upvalueNames := ["u"] }

theorem variable_names_lose_first_byte_mixed :
    (Read.prototype { rest := 43 :: beforeVariables ++ ((mixedEntries.flatMap Entry.bytes ++ [0]) ++ [7]) }).1 =
      .ok { beforeNames with variableNames := ["<type_1>", "ount", "©", "\u00A0x"] } := by
  have value : seenIn id (Read.prototypeWith (pure [])
      { rest := 43 :: beforeVariables ++ ((mixedEntries.flatMap Entry.bytes ++ [0]) ++ [7]) }) = some beforeNames := by
    decide +kernel
  have place : (Read.prototypeWith (pure [])
      { rest := 43 :: beforeVariables ++ ((mixedEntries.flatMap Entry.bytes ++ [0]) ++ [7]) }).2.rest =
        (mixedEntries.flatMap Entry.bytes ++ [0]) ++ [7] := by decide +kernel
  have names : (mixedEntries.map fun entry => entry.label.seen) = ["<type_1>", "ount", "©", "\u00A0x"] := by
    decide +kernel
  obtain ⟨_, between, read, rfl⟩ := accepted_of_seenIn value
  rw [read] at place
  obtain ⟨ran, _⟩ := variable_names_lose_first_byte read (by decide) mixedEntries_legible place
  rw [ran, names]

def namedDump : Bytes :=
  signature ++ [1, 0, 2, 0x40, 0x61] ++ Write.sized (beforeVariables ++ (mixedEntries.flatMap Entry.bytes ++ [0])) ++ [0]

theorem namedDump_cuts_names :
    ∃ dump prototype, (parse namedDump).1 = .ok dump ∧ dump.prototypes = [prototype] ∧
      prototype.variableNames = ["<type_1>", "ount", "©", "\u00A0x"] ∧ "ount" ≠ "count" ∧ "©" ≠ "é" := by
  have seen : seenIn (fun dump => dump.prototypes.map fun each => each.variableNames) (parse namedDump) =
      some [["<type_1>", "ount", "©", "\u00A0x"]] := by decide +kernel
  obtain ⟨dump, after, accepted, shown⟩ := accepted_of_seenIn seen
  obtain ⟨prototype, listed, same⟩ := List.map_eq_singleton_iff.mp shown
  exact ⟨dump, prototype, by rw [accepted], listed, same, by decide, by decide⟩

end LuaBytecode.Jit
