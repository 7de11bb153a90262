import LuaBytecode.Detection
import LuaBytecode.Proofs.Jit.Truncation
import LuaBytecode.Proofs.Truncation
import LuaBytecode.Proofs.V54.Recording
/-!
Which files are recognised as what they are. A file of versions 5.1 to 5.4 that can be read always is; a
dump of LuaJIT is if it has six bytes and its flags are not the number of another version.
-/
namespace LuaBytecode

namespace Reader

variable {α β : Type} {limit : Nat}

structure Opens (reader : Reader α) (holds : Bytes → Prop) : Prop where
  begins : ∀ (input : Input) (value : α) (after : Input), reader input = (.ok value, after) → holds input.rest

theorem opens_of_forall {reader : Reader α} {holds : Bytes → Prop} (all : ∀ rest, holds rest) : Opens reader holds :=
  ⟨fun input _ _ _ => all input.rest⟩

theorem opens_first {first : Reader α} {next : α → Reader β} {holds : Bytes → Prop} (head : Opens first holds) :
    Opens (first >>= next) holds where
  begins input result after ran := by
    obtain ⟨value, between, outcome, _⟩ := ok_of_bind ran
    exact head.begins input value between outcome

theorem opens_bind {first : Reader α} {next : α → Reader β} {middle : α → Bytes → Prop} {holds : Bytes → Prop}
    (head : ∀ limit, Yields limit first middle)
    (tail : ∀ value span, middle value span → Opens (next value) (fun rest => holds (span ++ rest))) :
    Opens (first >>= next) holds where
  begins input result after ran := by
    obtain ⟨value, between, outcome, ran'⟩ := ok_of_bind ran
    obtain ⟨span, start, _, held⟩ := head input.rest.length input value between (Nat.le_refl _) outcome
    rw [start]
    exact (tail value span held).begins between result after ran'

theorem opens_ite {condition : Prop} [Decidable condition] {one no : Reader α} {holds : Bytes → Prop}
    (met : Opens one holds) (unmet : Opens no holds) : Opens (if condition then one else no) holds := by
  by_cases decided : condition
  · rwa [if_pos decided]
  · rwa [if_neg decided]

theorem opens_require {condition : Bool} {fault : Fault} {next : Reader α} {holds : Bytes → Prop}
    (tail : condition = true → Opens next holds) : Opens (require condition fault >>= fun _ => next) holds := by
  apply opens_bind fun _ => yields_require
  intro _ span met
  obtain ⟨held, rfl⟩ := met
  exact tail held

theorem opens_say {text : String} {next : Reader α} {holds : Bytes → Prop} (tail : Opens next holds) :
    Opens (say text >>= fun _ => next) holds := by
  apply opens_bind fun _ => yields_say
  intro _ span none
  cases none
  exact tail

end Reader

open Reader

def HasVersion (version : UInt8) (data : Bytes) : Prop :=
  ∃ format rest, data = [0x1B, 0x4C, 0x75, 0x61, version, format] ++ rest

theorem opens_version {α : Type} {byte : Reader Nat} {next : Nat → Reader α} {version : UInt8}
    (single : ∀ limit, Yields limit byte Single)
    (tail : ∀ n, Opens (next n) (fun rest => n = version.toNat ∧ rest ≠ [])) :
    Opens (byte >>= next) (fun rest => HasVersion version ([0x1B, 0x4C, 0x75, 0x61] ++ rest)) := by
  apply opens_bind single
  intro n span one
  obtain ⟨found, rfl, rfl⟩ := one
  constructor
  intro input value after ran
  obtain ⟨same, some⟩ := (tail found.toNat).begins input value after ran
  obtain rfl : found = version := UInt8.toNat_inj.mp same
  obtain ⟨format, rest, whole⟩ := List.exists_cons_of_ne_nil some
  exact ⟨format, rest, by rw [whole]; rfl⟩

theorem opens_byte {α : Type} {byte : Reader Nat} {next : Nat → Reader α} {known : Prop}
    (single : ∀ limit, Yields limit byte Single) (held : known) :
    Opens (byte >>= next) (fun rest => known ∧ rest ≠ []) := by
  apply opens_bind single
  intro n span one
  obtain ⟨found, rfl, _⟩ := one
  exact opens_of_forall fun rest => ⟨held, by simp⟩

theorem opens_checked {α : Type} {short short' : Input → Fault} {unmarked : Bytes → Fault} {unknown : Nat → Fault}
    {next : Bytes → Nat → Nat → Reader α} (version : UInt8) :
    Opens (take 4 short >>= fun found => require (found = [0x1B, 0x4C, 0x75, 0x61]) (unmarked found) >>= fun _ =>
      (take 1 short' >>= fun taken => pure (Bytes.toNat taken)) >>= fun n =>
        require (n = version.toNat) (unknown n) >>= fun _ =>
          (take 1 short' >>= fun taken => pure (Bytes.toNat taken)) >>= next found n) (HasVersion version) := by
  apply opens_bind fun _ => yields_take
  intro found span same
  obtain ⟨rfl, _⟩ := same
  apply opens_require
  intro signed
  rw [of_decide_eq_true signed]
  apply opens_version fun _ => yields_single
  intro n
  apply opens_require
  intro known
  exact opens_byte (fun _ => yields_single) (of_decide_eq_true known)

theorem V51.opens_chunk : Opens V51.Read.chunk (HasVersion 0x51) := by
  apply opens_first
  exact opens_checked 0x51

theorem V52.opens_chunk : Opens V52.Read.chunk (HasVersion 0x52) := by
  apply opens_first
  exact opens_checked 0x52

theorem V53.opens_chunk : Opens V53.Read.chunk (HasVersion 0x53) := by
  apply opens_first
  apply opens_say
  apply opens_say
  apply opens_say
  apply opens_bind fun _ => yields_take
  intro found span same
  obtain ⟨rfl, _⟩ := same
  apply opens_say
  apply opens_require
  intro signed
  rw [of_decide_eq_true signed]
  apply opens_version fun _ => yields_single
  intro version
  apply opens_say
  apply opens_require
  intro known
  exact opens_byte (fun _ => yields_single) (of_decide_eq_true known)

theorem V54.yields_singleByte {limit : Nat} : Yields limit V54.Read.byte Single := by
  apply yields_mono (V54.Read.yields_fixedWidth 1)
  intro n span known
  obtain ⟨one, rfl⟩ := known
  exact single_of_length one

theorem V54.opens_chunk (record : Bool) : Opens (V54.Read.chunk record) (HasVersion 0x54) := by
  apply opens_first
  apply opens_say
  apply opens_say
  apply opens_say
  have front : ∀ limit, Yields limit (takeUpTo 4) (fun taken span => taken = span) :=
    fun _ => yields_mono (yields_takeUpTo 4) fun _ _ held => held.1
  apply opens_bind front
  intro found span same
  cases same
  apply opens_require
  intro signed
  rw [of_decide_eq_true signed]
  apply opens_say
  apply opens_version fun _ => V54.yields_singleByte
  intro version
  apply opens_require
  intro known
  apply opens_say
  exact opens_byte (fun _ => V54.yields_singleByte) (of_decide_eq_true known)

theorem eq_of_hasVersion {data : Bytes} {version other : UInt8} (one : HasVersion version data)
    (two : HasVersion other data) : version = other := by
  obtain ⟨format, rest, whole⟩ := one
  obtain ⟨format', rest', whole'⟩ := two
  have same := whole.symm.trans whole'
  simp only [List.cons_append, List.nil_append, List.cons.injEq, true_and] at same
  exact same.1

def HasMark (mark flags : UInt8) (data : Bytes) : Prop := ∃ rest, data = [0x1B, 0x4C, 0x4A, mark, flags] ++ rest

theorem not_hasMark_of_hasVersion {data : Bytes} {version : UInt8} (versioned : HasVersion version data) :
    ¬ ∃ mark flags, HasMark mark flags data := by
  intro marked
  obtain ⟨format, rest, whole⟩ := versioned
  obtain ⟨mark, flags, rest', whole'⟩ := marked
  simpa using whole.symm.trans whole'

theorem Jit.opens_marked {α : Type} {next : Reader α} {holds : Bytes → Prop}
    (tail : Opens next (fun rest => holds (Jit.signature ++ rest))) : Opens (Jit.Read.marked next) holds where
  begins input value after ran := by
    obtain ⟨rest, start⟩ := Jit.Read.signature_of_marked ran
    have here : input = { input with rest := Jit.signature ++ rest } := by rw [← start]
    rw [here, Jit.Read.marked_signature] at ran
    rw [start]
    exact tail.begins _ value after ran

theorem Jit.opens_dump : Opens Jit.Read.dump (fun data => ∃ mark flags, HasMark mark flags data) := by
  apply opens_first
  apply Jit.opens_marked
  apply opens_bind fun _ => yields_single
  intro version span one
  obtain ⟨mark, rfl, rfl⟩ := one
  have flagged {α : Type} {next : Nat → Reader α} : Opens (Jit.Read.varint >>= next)
      (fun rest => ∃ found flags, HasMark found flags (Jit.signature ++ ([mark] ++ rest))) := by
    apply opens_bind fun _ => Jit.Read.yields_varint_nonempty
    intro flags span some
    obtain ⟨byte, later, rfl⟩ := List.exists_cons_of_ne_nil some
    exact opens_of_forall fun rest => ⟨mark, byte, later ++ rest, rfl⟩
  apply opens_ite
  · exact opens_say flagged
  · exact flagged

namespace Dialect

def Accepts (record : Bool) (data : Bytes) : Dialect → Prop
  | v51 => ∃ chunk after, V51.parse data = (.ok chunk, after)
  | v52 => ∃ chunk after, V52.parse data = (.ok chunk, after)
  | v53 => ∃ chunk after, V53.parse data = (.ok chunk, after)
  | v54 => ∃ chunk after, V54.parse record data = (.ok chunk, after)
  | jit => ∃ dump after, Jit.parse data = (.ok dump, after)

def Begins (data : Bytes) : Dialect → Prop
  | v51 => HasVersion 0x51 data
  | v52 => HasVersion 0x52 data
  | v53 => HasVersion 0x53 data
  | v54 => HasVersion 0x54 data
  | jit => ∃ mark flags, HasMark mark flags data

-- Whether a text is the dialect's name; that of LuaJIT may go on.
def IsNamedBy (text : String) : Dialect → Prop
  | v51 => text = "Lua 5.1"
  | v52 => text = "Lua 5.2"
  | v53 => text = "Lua 5.3"
  | v54 => text = "Lua 5.4"
  | jit => "LuaJIT".toList <+: text.toList

variable {record other : Bool} {data : Bytes} {dialect : Dialect}

theorem begins_of_accepts (accepted : dialect.Accepts record data) : dialect.Begins data := by
  cases dialect with
  | v51 =>
    obtain ⟨chunk, after, ran⟩ := accepted
    exact V51.opens_chunk.begins _ chunk after ran
  | v52 =>
    obtain ⟨chunk, after, ran⟩ := accepted
    exact V52.opens_chunk.begins _ chunk after ran
  | v53 =>
    obtain ⟨chunk, after, ran⟩ := accepted
    exact V53.opens_chunk.begins _ chunk after ran
  | v54 =>
    obtain ⟨chunk, after, ran⟩ := accepted
    exact (V54.opens_chunk record).begins _ chunk after ran
  | jit =>
    obtain ⟨dump, after, ran⟩ := accepted
    exact Jit.opens_dump.begins _ dump after ran

theorem accepts_recording (accepted : dialect.Accepts record data) : dialect.Accepts other data := by
  cases dialect with
  | v54 =>
    obtain ⟨chunk, after, ran⟩ := accepted
    cases V54.abreast_chunk { rest := data } with
    | inl both =>
      obtain ⟨first, second, _, last, kept, plain, _⟩ := both
      cases other with
      | false => exact ⟨second, last, plain⟩
      | true => exact ⟨first, last, kept⟩
    | inr failed =>
      obtain ⟨fault, last, kept, plain⟩ := failed
      cases record with
      | false => cases plain.symm.trans ran
      | true => cases kept.symm.trans ran
  | _ => exact accepted

theorem eq_of_begins {second : Dialect} (one : dialect.Begins data) (two : second.Begins data) : dialect = second := by
  cases dialect <;> cases second <;> first
    | rfl
    | exact absurd (eq_of_hasVersion one two) (by decide)
    | exact absurd two (not_hasMark_of_hasVersion one)
    | exact absurd one (not_hasMark_of_hasVersion two)

theorem ofText?_eq_some_iff (text : String) : ofText? text = some dialect ↔ dialect.IsNamedBy text := by
  unfold ofText?
  by_cases jit : "LuaJIT".toList.isPrefixOf text.toList = true
  · rw [if_pos jit]
    cases dialect with
    | jit => simpa [IsNamedBy] using jit
    | _ =>
      constructor
      · intro impossible
        cases impossible
      · intro named
        cases named
        exact absurd jit (by decide)
  · rw [if_neg jit]
    cases dialect with
    | jit =>
      rw [IsNamedBy, ← List.isPrefixOf_iff_prefix]
      apply iff_of_false _ jit
      split_ifs <;> simp
    | _ =>
      simp only [IsNamedBy]
      split_ifs <;> simp_all

theorem head?_of_isNamedBy {text : String} (named : dialect.IsNamedBy text) : text.toList.head? = some 'L' := by
  cases dialect with
  | jit =>
    obtain ⟨rest, whole⟩ := named
    rw [← whole]
    rfl
  | _ =>
    cases named
    rfl

theorem ofText?_append_eq_none {front back : String} {first : Char} (starts : front.toList.head? = some first)
    (other : first ≠ 'L') : ofText? (front ++ back) = none := by
  cases found : ofText? (front ++ back) with
  | none => rfl
  | some dialect =>
    have named := head?_of_isNamedBy ((ofText?_eq_some_iff _).mp found)
    rw [String.toList_append, List.head?_append, starts] at named
    exact absurd (Option.some.inj named) other

end Dialect

def Detection.dialect? : Detection → Option Dialect
  | v51 => some .v51
  | v52 => some .v52
  | v53 => some .v53
  | v54 => some .v54
  | jit20 | jit21 | jitOther _ => some .jit
  | unknownFormat | unknownVersion _ | failed _ => none

-- A file is handed on by the text alone, which is enough.
theorem Detection.ofText?_text (detection : Detection) : Dialect.ofText? detection.text = detection.dialect? := by
  cases detection with
  | jitOther version =>
    apply (Dialect.ofText?_eq_some_iff _).mpr
    have front : "LuaJIT".toList <+: "LuaJIT (未知版本: ".toList := by decide
    show _ <+: ("LuaJIT (未知版本: " ++ toString version ++ ")").toList
    rw [String.toList_append, String.toList_append, List.append_assoc]
    exact front.trans (List.prefix_append _ _)
  | unknownVersion version =>
    exact Dialect.ofText?_append_eq_none (by decide : "未知Lua版本: 0x".toList.head? = some '未') (by decide)
  | failed fault => exact Dialect.ofText?_append_eq_none (by decide : "检测失败: ".toList.head? = some '检') (by decide)
  | _ => decide

-- A sixth byte is asked for, and the fifth one is taken for a version before the mark is looked at.
def Telling (data : Bytes) : Prop :=
  6 ≤ data.length ∧ ∀ flags, data[4]? = some flags → flags.toNat < 0x51 ∨ 0x54 < flags.toNat

theorem Detection.dialect?_ofJitVersion (version : Nat) : (ofJitVersion version).dialect? = some .jit := by
  unfold ofJitVersion
  split <;> rfl

theorem Detection.dialect?_of_hasMark {mark flags : UInt8} {data : Bytes} (marked : HasMark mark flags data) :
    (ofBytes data).dialect? = some .jit ↔ Telling data := by
  obtain ⟨rest, rfl⟩ := marked
  cases rest with
  | nil =>
    apply iff_of_false
    · simp [ofBytes, isJit, dialect?]
    · simp [Telling]
  | cons last rest =>
    simp only [List.cons_append, List.nil_append]
    have long : Telling (0x1B :: 0x4C :: 0x4A :: mark :: flags :: last :: rest) ↔
        flags.toNat < 0x51 ∨ 0x54 < flags.toNat := by
      simp [Telling]
    have jit : isJit (0x1B :: 0x4C :: 0x4A :: mark :: flags :: last :: rest) = true := by simp [isJit]
    rw [long]
    unfold ofBytes
    rw [jit, if_neg (by simp)]
    dsimp only
    split
    case h_1 same | h_2 same | h_3 same | h_4 same => simp [dialect?, same]
    case h_5 not51 not52 not53 not54 =>
      have others : flags.toNat ≠ 0x51 ∧ flags.toNat ≠ 0x52 ∧ flags.toNat ≠ 0x53 ∧ flags.toNat ≠ 0x54 :=
        ⟨not51, not52, not53, not54⟩
      rw [if_pos rfl]
      apply iff_of_true (dialect?_ofJitVersion _)
      omega

theorem Detection.dialect?_of_begins {dialect : Dialect} {data : Bytes} (begins : dialect.Begins data) :
    (ofBytes data).dialect? = some dialect ↔ (dialect = .jit → Telling data) := by
  cases dialect with
  | jit =>
    obtain ⟨mark, flags, marked⟩ := begins
    simpa using dialect?_of_hasMark marked
  | _ =>
    obtain ⟨format, rest, rfl⟩ := begins
    exact iff_of_true rfl nofun

theorem detection_names_accepting_dialect_iff {record : Bool} {dialect : Dialect} {data : Bytes}
    (accepted : dialect.Accepts record data) :
    (dialect.IsNamedBy (Detection.ofBytes data).text ↔ (dialect = .jit → Telling data)) ∧
    ((∃ found, Dialect.ofText? (Detection.ofBytes data).text = some found ∧ found.Accepts true data) ↔
      (dialect = .jit → Telling data)) := by
  have begins := Dialect.begins_of_accepts accepted
  have detected := Detection.dialect?_of_begins begins
  rw [← Dialect.ofText?_eq_some_iff, Detection.ofText?_text]
  refine ⟨detected, Iff.trans ?_ detected⟩
  constructor
  · intro handed
    obtain ⟨found, named, taken⟩ := handed
    rw [named, Dialect.eq_of_begins (Dialect.begins_of_accepts taken) begins]
  · intro named
    exact ⟨dialect, named, Dialect.accepts_recording accepted⟩

theorem detection_names_twiceNamed :
    Dialect.jit.Accepts true Jit.twiceNamed ∧ Dialect.jit.IsNamedBy (Detection.ofBytes Jit.twiceNamed).text ∧
      ∃ found, Dialect.ofText? (Detection.ofBytes Jit.twiceNamed).text = some found ∧
        found.Accepts true Jit.twiceNamed := by
  have ends : endOf (Jit.parse Jit.twiceNamed) = some 58 := by decide +kernel
  obtain ⟨dump, after, ran, _⟩ := accepted_of_endOf ends
  have accepted : Dialect.jit.Accepts true Jit.twiceNamed := ⟨dump, after, ran⟩
  have telling : Telling Jit.twiceNamed := by
    constructor
    · decide
    · intro flags same
      cases same
      decide
  have known := detection_names_accepting_dialect_iff accepted
  exact ⟨accepted, known.1.mpr fun _ => telling, known.2.mpr fun _ => telling⟩

-- Two dumps without prototypes: one has only five bytes, the flags of the other are 0x52.
theorem empty_dump_misnamed :
    Dialect.jit.Accepts true [0x1B, 0x4C, 0x4A, 1, 2] ∧
      (Detection.ofBytes [0x1B, 0x4C, 0x4A, 1, 2]).text = "检测失败: index out of range" ∧
    Dialect.jit.Accepts true [0x1B, 0x4C, 0x4A, 1, 0x52, 0] ∧
      (Detection.ofBytes [0x1B, 0x4C, 0x4A, 1, 0x52, 0]).text = "Lua 5.2" := by
  have five : endOf (Jit.parse [0x1B, 0x4C, 0x4A, 1, 2]) = some 5 := by decide +kernel
  have six : endOf (Jit.parse [0x1B, 0x4C, 0x4A, 1, 0x52, 0]) = some 6 := by decide +kernel
  obtain ⟨short, after, ran, _⟩ := accepted_of_endOf five
  obtain ⟨flagged, after', ran', _⟩ := accepted_of_endOf six
  exact ⟨⟨short, after, ran⟩, by decide +kernel, ⟨flagged, after', ran'⟩, by decide +kernel⟩

end LuaBytecode
