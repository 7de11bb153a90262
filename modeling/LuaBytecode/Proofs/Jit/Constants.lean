import LuaBytecode.Proofs.Jit.Varint
/-!
Reading undoes writing for the constants of a prototype. The size of a string or a table is itself a
number in groups of seven bits; that it fits follows from the room that the constant takes, which
the size of the prototype bounds.
-/
namespace LuaBytecode.Jit

open Reader Text

variable {α : Type} {layout : Layout}

def IsItem : Constant → Prop
  | .nil | .bool _ | .num _ | .str _ => True
  | .int value => FitsVarint value
  | .emptyList => False

instance : (each : Constant) → Decidable (IsItem each)
  | .nil | .bool _ | .num _ | .str _ => inferInstanceAs (Decidable True)
  | .int value => inferInstanceAs (Decidable (FitsVarint value))
  | .emptyList => inferInstanceAs (Decidable False)

def Table.InRange (table : Table) : Prop :=
  (∀ item ∈ table.array, IsItem item) ∧ ∀ pair ∈ table.hash, IsItem pair.1 ∧ IsItem pair.2
deriving Decidable

def Collectable.InRange : Collectable → Prop
  | .child | .complex _ _ | .str _ => True
  | .table content => content.InRange
  | .i64 value => -2 ^ 63 ≤ value ∧ value < 2 ^ 63
  | .u64 value => 0 ≤ value ∧ value < 2 ^ 64
  | .other _ _ => False

instance : (each : Collectable) → Decidable each.InRange
  | .child | .complex _ _ | .str _ => inferInstanceAs (Decidable True)
  | .table content => inferInstanceAs (Decidable content.InRange)
  | .i64 _ | .u64 _ => inferInstanceAs (Decidable (_ ∧ _))
  | .other _ _ => inferInstanceAs (Decidable False)

def Number.InRange : Number → Prop
  | .int value => FitsInt value
  | .num _ => True

instance : (each : Number) → Decidable each.InRange
  | .int value => inferInstanceAs (Decidable (FitsInt value))
  | .num _ => inferInstanceAs (Decidable True)

-- The most bytes a constant may take; the counts in front of it in its prototype take seven more.
def room : Nat := 2 ^ 35 - 7

theorem length_le_flatMap {items : List α} {write : α → Bytes} (nonempty : ∀ item ∈ items, 0 < (write item).length) :
    items.length ≤ (items.flatMap write).length := by
  induction items with
  | nil => exact Nat.le_refl 0
  | cons item items ih =>
    have first := nonempty item List.mem_cons_self
    have later := ih fun other member => nonempty other (List.mem_cons_of_mem item member)
    rw [List.flatMap_cons, List.length_append, List.length_cons]
    omega

theorem length_le_flatMap_of_mem {items : List α} {item : α} (write : α → Bytes) (member : item ∈ items) :
    (write item).length ≤ (items.flatMap write).length := by
  induction member with
  | head items =>
    rw [List.flatMap_cons, List.length_append]
    omega
  | tail other _ ih =>
    rw [List.flatMap_cons, List.length_append]
    omega

namespace Read

theorem consumes_times_same {reader : Reader α} {write : α → Bytes} (items : List α)
    (each : ∀ item ∈ items, Consumes layout reader (write item) (fun found => found = item)) :
    Consumes layout (times items.length reader) (items.flatMap write) (fun found => found = items) := by
  have known := consumes_times_exactly items each
  rwa [List.map_id'] at known

theorem consumes_string (text : String) :
    Consumes layout (string (Utf8.encode text).length) (Utf8.encode text) (fun found => found = text) := by
  refine consumes_map (consumes_take (Utf8.encode text) _) ?_
  intro _ same
  subst same
  exact consumes_pure (Utf8.decodeOrBytewise_encode text)

theorem length_string (text : String) : (Utf8.encode text).length < (Write.string text).length := by
  have positive := Write.length_varint_pos ((Utf8.encode text).length + 5)
  simp only [Write.string, List.length_append]
  omega

theorem string_fits {text : String} (small : (Write.string text).length ≤ room) :
    (Utf8.encode text).length + 5 < 2 ^ 35 := by
  have shorter := length_string text
  unfold room at small
  omega

theorem consumes_tableItem {each : Constant} (known : IsItem each) (small : (Write.tableItem each).length ≤ room) :
    Consumes layout tableItem (Write.tableItem each) (fun found => found = each) := by
  cases each with
  | nil =>
    apply consumes_tag 0 (by decide)
    exact consumes_pure rfl
  | bool value =>
    cases value with
    | false =>
      apply consumes_tag 1 (by decide)
      exact consumes_pure rfl
    | true =>
      apply consumes_tag 2 (by decide)
      exact consumes_pure rfl
  | int value =>
    apply consumes_tag 3 (by decide)
    refine consumes_map (consumes_varint_toNat known) ?_
    intro _ same
    apply consumes_pure
    rw [same]
  | num value =>
    apply consumes_tag 4 (by decide)
    refine consumes_map (consumes_double value) ?_
    intro _ same
    subst same
    exact consumes_pure rfl
  | str text =>
    refine consumes_bind (consumes_varint (string_fits small)) ?_
    intro _ same
    subst same
    refine consumes_map (consumes_string text) ?_
    intro _ same
    subst same
    exact consumes_pure rfl
  | emptyList => exact known.elim

theorem length_tableItem_pos {each : Constant} (known : IsItem each) : 0 < (Write.tableItem each).length := by
  cases each with
  | str text => exact Nat.lt_of_le_of_lt (Nat.zero_le _) (length_string text)
  | emptyList => exact known.elim
  | _ => simp [Write.tableItem]

theorem consumes_tablePair {encode : α → Bytes} {value : α → Constant} {pair : α × α}
    (key : Consumes layout tableItem (encode pair.1) (fun found => found = value pair.1))
    (held : Consumes layout tableItem (encode pair.2) (fun found => found = value pair.2)) :
    Consumes layout tablePair (encode pair.1 ++ encode pair.2)
      (fun found => found = (value pair.1, value pair.2)) := by
  refine consumes_bind key ?_
  intro _ same
  subst same
  refine consumes_map held ?_
  intro _ same
  subst same
  exact consumes_pure rfl

theorem consumes_tableOf {encode : α → Bytes} {value : α → Constant} {array : List α} {hash : List (α × α)}
    (arrayFits : array.length < 2 ^ 35) (hashFits : hash.length < 2 ^ 35)
    (items : ∀ item ∈ array, Consumes layout tableItem (encode item) (fun found => found = value item))
    (pairs : ∀ pair ∈ hash, Consumes layout tableItem (encode pair.1) (fun found => found = value pair.1) ∧
      Consumes layout tableItem (encode pair.2) (fun found => found = value pair.2)) :
    Consumes layout table
      (Write.varint array.length ++ (Write.varint hash.length ++
        (array.flatMap encode ++ hash.flatMap fun pair => encode pair.1 ++ encode pair.2)))
      (fun found => found =
        { array := array.map value, hash := hash.map fun pair => (value pair.1, value pair.2) }) := by
  refine consumes_bind (consumes_varint arrayFits) ?_
  intro _ same
  subst same
  refine consumes_bind (consumes_varint hashFits) ?_
  intro _ same
  subst same
  refine consumes_bind (consumes_times_exactly array items) ?_
  intro _ same
  subst same
  refine consumes_map (consumes_times_exactly hash fun pair member =>
    consumes_tablePair (pairs pair member).1 (pairs pair member).2) ?_
  intro _ same
  subst same
  exact consumes_pure rfl

theorem consumes_table {content : Table} (range : content.InRange) (small : (Write.table content).length ≤ room) :
    Consumes layout table (Write.table content) (fun found => found = content) := by
  obtain ⟨items, pairs⟩ := range
  have arrayCount : content.array.length ≤ (content.array.flatMap Write.tableItem).length :=
    length_le_flatMap fun item member => length_tableItem_pos (items item member)
  have hashCount : content.hash.length ≤
      (content.hash.flatMap fun pair => Write.tableItem pair.1 ++ Write.tableItem pair.2).length := by
    apply length_le_flatMap
    intro pair member
    have key := length_tableItem_pos (pairs pair member).1
    rw [List.length_append]
    omega
  simp only [Write.table, List.length_append, room] at small
  simp only [Write.table, List.append_assoc]
  refine consumes_mono (@consumes_tableOf _ layout Write.tableItem id _ _ (by omega) (by omega) ?_ ?_) ?_
  · intro item member
    have within := length_le_flatMap_of_mem Write.tableItem member
    refine consumes_tableItem (items item member) ?_
    unfold room
    omega
  · intro pair member
    have within := length_le_flatMap_of_mem (fun pair => Write.tableItem pair.1 ++ Write.tableItem pair.2) member
    rw [List.length_append] at within
    constructor
    · refine consumes_tableItem (pairs pair member).1 ?_
      unfold room
      omega
    · refine consumes_tableItem (pairs pair member).2 ?_
      unfold room
      omega
  · intro found same
    rw [same, List.map_id]
    simp

theorem consumes_collectable {each : Collectable} (range : each.InRange)
    (small : (Write.collectable each).length ≤ room) :
    Consumes layout collectable (Write.collectable each) (fun found => found = each) := by
  cases each with
  | child =>
    apply consumes_tag 0 (by decide)
    exact consumes_pure rfl
  | table content =>
    apply consumes_tag 1 (by decide)
    refine consumes_map (consumes_table range (Nat.le_of_succ_le small)) ?_
    intro _ same
    subst same
    exact consumes_pure rfl
  | i64 value =>
    apply consumes_tag 2 (by decide)
    apply consumes_halves_last (unsigned_lt 64 value)
    apply consumes_pure
    rw [joinHalves_halves]
    exact congrArg Collectable.i64 (signed_unsigned range.1 range.2)
  | u64 value =>
    obtain ⟨low, high⟩ := range
    apply consumes_tag 3 (by decide)
    apply consumes_halves_last (unsigned_lt 64 value)
    apply consumes_pure
    rw [joinHalves_halves]
    have whole : (unsigned 64 value : Int) = value := by
      unfold unsigned
      omega
    rw [whole]
  | complex real imaginary =>
    apply consumes_tag 4 (by decide)
    apply consumes_halves real.bits.toNat_lt
    apply consumes_halves_last imaginary.bits.toNat_lt
    refine consumes_ahead (consumes_ofExcept (doubleOfHalves_bits real)) ?_
    intro _ same
    subst same
    refine consumes_ahead (consumes_ofExcept (doubleOfHalves_bits imaginary)) ?_
    intro _ same
    subst same
    exact consumes_pure rfl
  | str text =>
    refine consumes_bind (consumes_varint (string_fits small)) ?_
    intro _ same
    subst same
    refine consumes_map (consumes_string text) ?_
    intro _ same
    subst same
    exact consumes_pure rfl
  | other label value => exact range.elim

theorem consumes_number {each : Number} (range : each.InRange) :
    Consumes layout number (Write.number each) (fun found => found = each) := by
  cases each with
  | int value =>
    have bound : unsigned 32 value < 2 ^ 32 := unsigned_lt 32 value
    refine consumes_map (consumes_taggedVarint false (by omega) (by decide)) ?_
    intro _ same
    subst same
    exact consumes_pure (congrArg Number.int (signed_unsigned range.1 range.2))
  | num value =>
    have bound : value.bits.toNat < 2 ^ 64 := value.bits.toNat_lt
    refine consumes_map (consumes_taggedVarint true (by omega) (by omega)) ?_
    intro _ same
    subst same
    refine consumes_ahead (consumes_ofExcept (doubleOfHalves_bits value)) ?_
    intro _ same
    subst same
    exact consumes_pure rfl

end Read

end LuaBytecode.Jit
