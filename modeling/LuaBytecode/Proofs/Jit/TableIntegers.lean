import LuaBytecode.Proofs.Extent
import LuaBytecode.Proofs.Jit.Constants
import LuaBytecode.Proofs.Jit.Extent
/-!
Integers in table constants. A negative integer is spelled by its residue, in a table as among the numbers of a
prototype, but only the numbers are taken back into the range of 32 bits: in a table it stays the residue.
-/
namespace LuaBytecode.Jit

open Reader

inductive Slot where
  | integer (value : Int)
  | other (span : Bytes) (value : Constant)
deriving DecidableEq

namespace Slot

def bytes : Slot → Bytes
  | integer value => 3 :: Write.varint (unsigned 32 value)
  | other span _ => span

def IsSpelled : Slot → Prop
  | integer value => FitsInt value
  | other span value => ∀ (input : Input) (rest : Bytes), input.rest = span ++ rest →
    Read.tableItem input = (.ok value, { input with pos := input.pos + span.length, rest })

def meant : Slot → Constant
  | integer value => .int value
  | other _ value => value

def found : Slot → Constant
  | integer value => .int (if 0 ≤ value then value else value + 2 ^ 32)
  | other _ value => value

theorem found_eq_meant_iff {slot : Slot} : slot.found = slot.meant ↔ ∀ value, slot = .integer value → 0 ≤ value := by
  cases slot with
  | integer value =>
    simp only [found, meant, Constant.int.injEq, integer.injEq, forall_eq']
    split <;> omega
  | other span value => simp [found, meant]

end Slot

theorem unsigned_of_fitsInt {value : Int} (fits : FitsInt value) :
    (unsigned 32 value : Int) = if 0 ≤ value then value else value + 2 ^ 32 := by
  obtain ⟨low, high⟩ := fits
  unfold unsigned
  split <;> omega

theorem Read.consumes_slot {layout : Layout} {slot : Slot} (spelled : slot.IsSpelled) :
    Consumes layout tableItem slot.bytes (fun item => item = slot.found) := by
  cases slot with
  | integer value =>
    have small := unsigned_lt 32 value
    apply consumes_tag 3 (by decide)
    refine consumes_map (consumes_varint (by omega)) ?_
    intro _ same
    subst same
    apply consumes_pure
    rw [unsigned_of_fitsInt spelled, Slot.found]
  | other span value =>
    intro input rest same start
    exact ⟨value, _, spelled input rest start, same, rfl, rfl, rfl⟩

structure Content where
  array : List Slot
  hash : List (Slot × Slot)
deriving DecidableEq

namespace Content

def bytes (content : Content) : Bytes :=
  Write.varint content.array.length ++ (Write.varint content.hash.length ++
    (content.array.flatMap Slot.bytes ++ content.hash.flatMap fun pair => pair.1.bytes ++ pair.2.bytes))

def slots (content : Content) : List Slot := content.array ++ content.hash.flatMap fun pair => [pair.1, pair.2]

def table (view : Slot → Constant) (content : Content) : Table where
  array := content.array.map view
  hash := content.hash.map fun pair => (view pair.1, view pair.2)

structure IsSpelled (content : Content) : Prop where
  array : content.array.length < 2 ^ 35
  hash : content.hash.length < 2 ^ 35
  slots : ∀ slot ∈ content.slots, slot.IsSpelled

theorem table_congr_iff {content : Content} {view other : Slot → Constant} :
    content.table view = content.table other ↔ ∀ slot ∈ content.slots, view slot = other slot := by
  have pairs : (content.hash.map fun pair => (view pair.1, view pair.2)) =
      (content.hash.map fun pair => (other pair.1, other pair.2)) ↔
        ∀ pair ∈ content.hash, view pair.1 = other pair.1 ∧ view pair.2 = other pair.2 := by
    simp only [List.map_inj_left, Prod.mk.injEq]
  simp only [table, Table.mk.injEq, List.map_inj_left, pairs, slots, List.mem_append, List.mem_flatMap]
  constructor
  · rintro ⟨items, held⟩ slot (member | ⟨pair, member, either⟩)
    · exact items slot member
    · simp only [List.mem_cons, List.not_mem_nil, or_false] at either
      rcases either with rfl | rfl
      · exact (held pair member).1
      · exact (held pair member).2
  · intro all
    exact ⟨fun slot member => all slot (.inl member), fun pair member =>
      ⟨all _ (.inr ⟨pair, member, by simp⟩), all _ (.inr ⟨pair, member, by simp⟩)⟩⟩

end Content

theorem Read.consumes_content {layout : Layout} {content : Content} (spelled : content.IsSpelled) :
    Consumes layout table content.bytes (fun read => read = content.table Slot.found) := by
  have each := spelled.slots
  simp only [Content.slots, List.mem_append, List.mem_flatMap] at each
  refine consumes_tableOf spelled.array spelled.hash ?_ ?_
  · exact fun slot member => consumes_slot (each slot (.inl member))
  · intro pair member
    exact ⟨consumes_slot (each _ (.inr ⟨pair, member, by simp⟩)), consumes_slot (each _ (.inr ⟨pair, member, by simp⟩))⟩

theorem table_integers_lose_sign {content : Content} (spelled : content.IsSpelled) :
    (∀ (input : Input) (rest : Bytes), input.rest = content.bytes ++ rest → Read.table input =
      (.ok (content.table Slot.found), { input with pos := input.pos + content.bytes.length, rest })) ∧
    (content.table Slot.found = content.table Slot.meant ↔ ∀ value, .integer value ∈ content.slots → 0 ≤ value) ∧
    ∀ (value : Int) (input : Input) (rest : Bytes), FitsInt value →
      (input.rest = 3 :: Write.varint (unsigned 32 value) ++ rest → Read.tableItem input =
        (.ok (.int (if 0 ≤ value then value else value + 2 ^ 32)),
          { input with pos := input.pos + (3 :: Write.varint (unsigned 32 value)).length, rest })) ∧
      (input.rest = Write.taggedVarint (unsigned 32 value) 0 false ++ rest → Read.number input =
        (.ok (.int value),
          { input with pos := input.pos + (Write.taggedVarint (unsigned 32 value) 0 false).length, rest })) := by
  refine ⟨?_, ?_, ?_⟩
  · intro input rest start
    exact run_of_quiet (Read.consumes_content spelled) (Read.quiet_of_composed Read.composed_table) rfl start
  · rw [Content.table_congr_iff]
    constructor
    · exact fun all value member => Slot.found_eq_meant_iff.mp (all _ member) value rfl
    · intro natural slot member
      apply Slot.found_eq_meant_iff.mpr
      rintro value rfl
      exact natural value member
  · intro value input rest fits
    have item : (Slot.integer value).IsSpelled := fits
    have number : (Number.int value).InRange := fits
    exact ⟨fun start => run_of_quiet (Read.consumes_slot item) (Read.quiet_of_composed Read.composed_tableItem) rfl start,
      fun start => run_of_quiet (Read.consumes_number number) (Read.quiet_of_composed Read.composed_number) rfl start⟩

-- The least integer beside a truth value, and a negative value under a positive key.
def mixedContent : Content where
  array := [.integer (-2 ^ 31), .other [2] (.bool true)]
  hash := [(.integer 5, .integer (-1))]

theorem table_integers_lose_sign_mixed :
    mixedContent.IsSpelled ∧
      (Read.table { rest := mixedContent.bytes ++ [9] }).1 =
        .ok { array := [.int (2 ^ 31), .bool true], hash := [(.int 5, .int (2 ^ 32 - 1))] } ∧
      mixedContent.table Slot.found ≠ mixedContent.table Slot.meant := by
  have truth : (Slot.other [2] (.bool true)).IsSpelled := fun input rest start =>
    run_of_quiet (@Read.consumes_tableItem input.layout (.bool true) trivial (by decide))
      (Read.quiet_of_composed Read.composed_tableItem) rfl start
  have spelled : mixedContent.IsSpelled := by
    refine ⟨by decide, by decide, ?_⟩
    intro slot member
    have cases : slot = .integer (-2 ^ 31) ∨ slot = .other [2] (.bool true) ∨ slot = .integer 5 ∨
        slot = .integer (-1) := by
      simpa [Content.slots, mixedContent] using member
    rcases cases with rfl | rfl | rfl | rfl
    · exact ⟨by decide, by decide⟩
    · exact truth
    · exact ⟨by decide, by decide⟩
    · exact ⟨by decide, by decide⟩
  obtain ⟨read, same, _⟩ := table_integers_lose_sign spelled
  refine ⟨spelled, ?_, ?_⟩
  · rw [read _ [9] rfl]
    rfl
  · rw [Ne, same]
    exact fun natural => absurd (natural (-1) (by decide)) (by decide)

-- The same three integers as an item, a key and a value of a table, and as numbers.
def negativeItems : Bytes :=
  signature ++ [1, 2] ++
    Write.sized ([0, 0, 0, 0, 1, 3, 0] ++
      1 :: Content.bytes { array := [.integer (-1)], hash := [(.integer (-2), .integer (-2 ^ 31))] } ++
      [-1, -2, -2 ^ 31].flatMap fun value => Write.taggedVarint (unsigned 32 value) 0 false) ++ [0]

theorem negativeItems_read_unsigned :
    ∃ dump prototype, (parse negativeItems).1 = .ok dump ∧ dump.prototypes = [prototype] ∧
      prototype.numbers = [.int (-1), .int (-2), .int (-2 ^ 31)] ∧
      prototype.collectables =
        [.table { array := [.int (2 ^ 32 - 1)], hash := [(.int (2 ^ 32 - 2), .int (2 ^ 31))] }] := by
  have seen : seenIn (fun dump => dump.prototypes.map fun each => (each.numbers, each.collectables))
      (parse negativeItems) = some [([.int (-1), .int (-2), .int (-2 ^ 31)],
        [.table { array := [.int (2 ^ 32 - 1)], hash := [(.int (2 ^ 32 - 2), .int (2 ^ 31))] }])] := by decide +kernel
  obtain ⟨dump, after, accepted, shown⟩ := accepted_of_seenIn seen
  obtain ⟨prototype, listed, same⟩ := List.map_eq_singleton_iff.mp shown
  obtain ⟨numbers, collectables⟩ := Prod.mk.inj same
  exact ⟨dump, prototype, by rw [accepted], listed, numbers, collectables⟩

end LuaBytecode.Jit
