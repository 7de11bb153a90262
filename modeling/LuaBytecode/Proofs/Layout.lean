import LuaBytecode.Constant
import LuaBytecode.Proofs.Reader
import LuaBytecode.Proofs.Utf8

namespace LuaBytecode

def FitsByte (n : Int) : Prop := 0 ≤ n ∧ n < 256
deriving Decidable

def FitsWord (n : Int) : Prop := 0 ≤ n ∧ n < 2 ^ 32
deriving Decidable

def FitsInt (n : Int) : Prop := -2 ^ 31 ≤ n ∧ n < 2 ^ 31
deriving Decidable

-- The size of a text counts the byte behind it.
def FitsSize (width : Nat) (text : String) : Prop := (Text.Utf8.encode text).length + 1 < 256 ^ width
deriving Decidable

theorem unsigned_of_fitsWord {n : Int} (fits : FitsWord n) : (unsigned 32 n : Int) = n := by
  obtain ⟨low, high⟩ := fits
  unfold unsigned
  omega

theorem Bytes.toNat_ofByte {n : Nat} (small : n < 256) : Bytes.toNat (Bytes.ofByte n) = n := by
  have residue : unsigned 8 (n : Int) = n := by
    unfold unsigned
    omega
  simp [Bytes.ofByte, Bytes.toNat, residue, UInt8.toNat_ofNat_of_lt' small]

theorem Bytes.ofByte_toNat {span : Bytes} (one : span.length = 1) : Bytes.ofByte span.toNat = span := by
  obtain ⟨byte, rfl⟩ := List.length_eq_one_iff.mp one
  have small : byte.toNat < 256 := UInt8.toNat_lt byte
  have residue : unsigned 8 (byte.toNat : Int) = byte.toNat := by
    unfold unsigned
    omega
  simp [Bytes.ofByte, Bytes.toNat, residue]

theorem Bytes.ofNat_signed {span : Bytes} (eight : span.length = 8) :
    (-2 ^ 63 ≤ signed 64 span.toNat ∧ signed 64 span.toNat < 2 ^ 63) ∧
      Bytes.ofNat 8 (unsigned 64 (signed 64 span.toNat)) = span := by
  have bound := Bytes.toNat_lt span
  rw [eight] at bound
  have residue : unsigned 64 (signed 64 span.toNat) = span.toNat := by
    unfold signed unsigned
    split <;> omega
  constructor
  · unfold signed
    split <;> omega
  · rw [residue, ← eight, Bytes.ofNat_toNat]

theorem Bytes.ofNat_bits {span : Bytes} (eight : span.length = 8) :
    Bytes.ofNat 8 (UInt64.ofNat span.toNat).toNat = span := by
  have bound := Bytes.toNat_lt span
  rw [eight] at bound
  rw [UInt64.toNat_ofNat_of_lt' bound, ← eight, Bytes.ofNat_toNat]

def Local.InRange (fits : Int → Prop) (fitsName : String → Prop) (each : Local) : Prop :=
  fitsName each.name ∧ fits each.startPc ∧ fits each.endPc

instance (fits : Int → Prop) (fitsName : String → Prop) [DecidablePred fits] [DecidablePred fitsName] (each : Local) :
    Decidable (each.InRange fits fitsName) :=
  inferInstanceAs (Decidable (_ ∧ _ ∧ _))

namespace Reader

variable {α β : Type} {layout before between after : Layout}

theorem consumes_take (span : Bytes) (short : Input → Fault) :
    Consumes layout (take span.length short) span (fun taken => taken = span) := by
  intro input rest same start
  refine ⟨span, { input with pos := input.pos + span.length, rest }, ?_, same, rfl, rfl, rfl⟩
  rw [take, start, Bytes.split?_append]

theorem consumes_bounded {count : Nat} {span : Bytes} (exactly : span.length = count) :
    Consumes layout (bounded count) span (fun taken => taken = span) := by
  subst exactly
  exact consumes_take span _

theorem consumes_oneByte (short : Input → Fault) (byte : UInt8) :
    Consumes layout (take 1 short >>= fun taken => pure (Bytes.toNat taken)) [byte] (fun n => n = byte.toNat) := by
  refine consumes_map (consumes_take [byte] short) ?_
  rintro _ rfl
  apply consumes_pure
  simp [Bytes.toNat]

theorem consumes_ofByte (short : Input → Fault) {n : Int} (fits : FitsByte n) :
    Consumes layout (take 1 short >>= fun taken => pure (Bytes.toNat taken)) (Bytes.ofByte n)
      (fun found => (found : Int) = n) := by
  obtain ⟨low, high⟩ := fits
  apply consumes_mono (consumes_oneByte short _)
  rintro _ rfl
  rw [UInt8.toNat_ofNat_of_lt' (unsigned_lt 8 n)]
  unfold unsigned
  omega

theorem consumes_ofByteNat (short : Input → Fault) {n : Nat} (small : n < 256) :
    Consumes layout (take 1 short >>= fun taken => pure (Bytes.toNat taken)) (Bytes.ofByte n)
      (fun found => found = n) := by
  have fits : FitsByte n := by
    unfold FitsByte
    omega
  apply consumes_mono (consumes_ofByte short fits)
  intro found same
  omega

theorem consumes_layout : Consumes layout Reader.layout [] (fun found => layout = found) := by
  intro input rest same start
  exact ⟨input.layout, input, rfl, same, rfl, start, same.symm⟩

theorem consumes_fixed {order : ByteOrder} {width n : Nat} (fits : n < 256 ^ width) :
    Consumes layout (fixed order width (order.encode width n)) [] (fun found => found = n) := by
  rw [fixed, if_pos (ByteOrder.length_encode order width n)]
  apply consumes_pure
  rw [ByteOrder.decode_encode, Nat.mod_eq_of_lt fits]

theorem consumes_ofExcept {result : Except Fault α} {value : α} (done : result = .ok value) :
    Consumes layout (ofExcept result) [] (fun found => found = value) := by
  rw [done]
  exact consumes_pure rfl

theorem enters_ahead {first : Reader α} {next : α → Reader β} {span : Bytes} {middle : α → Prop}
    {holds : β → Prop} (head : Consumes before first [] middle)
    (tail : ∀ value, middle value → Enters before after (next value) span holds) :
    Enters before after (first >>= next) span holds :=
  enters_bind head tail

theorem enters_change {change : Layout → Layout} {next : Unit → Reader β} {span : Bytes} {holds : β → Prop}
    (tail : Enters (change before) after (next ()) span holds) :
    Enters before after (Reader.layout >>= fun found => setLayout (change found) >>= next) span holds := by
  intro input rest same start
  subst same
  exact tail { input with layout := change input.layout } rest rfl start

end Reader

def NamedBy (names : List String) (upvalues : List Upvalue) : Prop :=
  upvalues.map Upvalue.name = upvalues.mapIdx fun index _ => names[index]?.getD ""
deriving Decidable

theorem length_nameUpvalues (names : List String) (upvalues : List Upvalue) :
    (nameUpvalues names upvalues).length = upvalues.length := by
  fun_induction nameUpvalues names upvalues with
  | case1 name names upvalue upvalues ih => rw [List.length_cons, List.length_cons, ih]
  | case2 upvalues => rfl
  | case3 name names => rfl

theorem nameUpvalues_of_named {names : List String} {upvalues : List Upvalue}
    (named : NamedBy names upvalues) :
    nameUpvalues names (upvalues.map fun each => { each with name := "" }) = upvalues := by
  induction upvalues generalizing names with
  | nil => cases names <;> rfl
  | cons upvalue upvalues ih =>
    rw [NamedBy, List.map_cons, List.mapIdx_cons, List.cons.injEq] at named
    cases names with
    | nil =>
      have later := @ih [] (by simpa [NamedBy] using named.2)
      have first : upvalue.name = "" := named.1
      rw [nameUpvalues] at later
      rw [List.map_cons, nameUpvalues, later, ← first]
    | cons name names =>
      have first : upvalue.name = name := named.1
      rw [List.map_cons, nameUpvalues, ih named.2, ← first]

theorem namedBy_nameUpvalues {names : List String} {upvalues : List Upvalue}
    (unnamed : ∀ upvalue ∈ upvalues, upvalue.name = "") :
    NamedBy names (nameUpvalues names upvalues) := by
  unfold NamedBy
  fun_induction nameUpvalues names upvalues with
  | case1 name names upvalue upvalues ih =>
    have later : (nameUpvalues names upvalues).map Upvalue.name = _ :=
      ih fun other member => unnamed other (List.mem_cons_of_mem upvalue member)
    rw [List.map_cons, List.mapIdx_cons, later]
    simp
  | case2 upvalues =>
    apply List.ext_getElem?
    intro index
    rw [List.getElem?_map, List.getElem?_mapIdx]
    cases found : upvalues[index]? with
    | none => rfl
    | some upvalue =>
      rw [Option.map_some, Option.map_some, unnamed upvalue (List.mem_of_getElem? found)]
      rfl
  | case3 name names => rfl

end LuaBytecode
