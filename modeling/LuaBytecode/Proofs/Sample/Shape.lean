import LuaBytecode.Instruction
import LuaBytecode.Proofs.Layout
import LuaBytecode.Sample.Shape
import LuaBytecode.Tree

namespace LuaBytecode

structure Fields where
  opcode : Nat
  a : Nat
  b : Nat
  c : Nat
deriving DecidableEq

def Instruction.fields {Opcode : Type} {ofNumber? : Nat → Option Opcode} (number : Opcode → Nat)
    (each : Instruction ofNumber?) : Fields :=
  ⟨number each.opcode, each.word.a, each.word.b, each.word.c⟩

namespace Sample

def plan {α : Type} (each : Nat → α) (length innerCount : Int) : Tree (List α) :=
  .node ((indices length).map each)
    (List.replicate innerCount.toNat (.node ((indices (innerLength length)).map each) []))

def Exhausts {α : Type} (parsed : Except Fault α × Input) (bytes : Bytes) (holds : α → Prop) : Prop :=
  ∃ value after, parsed = (.ok value, after) ∧ after.pos = bytes.length ∧ after.rest = [] ∧ holds value

section Words

variable {opcode index c : Nat}

theorem field_word (small : opcode < 64) (narrow : c < 512) :
    (Word.mk (word opcode index c)).number = opcode ∧ (Word.mk (word opcode index c)).a = index % 256 ∧
      (Word.mk (word opcode index c)).b = 5 * index % 512 ∧ (Word.mk (word opcode index c)).c = c := by
  have a : index % 256 < 256 := Nat.mod_lt _ (by decide)
  have b : 5 * index % 512 < 512 := Nat.mod_lt _ (by decide)
  simp only [Word.number, Word.a, Word.b, Word.c, Word.field, word]
  generalize index % 256 = a at *
  generalize 5 * index % 512 = b at *
  refine ⟨?_, ?_, ?_, ?_⟩ <;> omega

theorem fitsWord_word (small : opcode < 64) (narrow : c < 512) : FitsWord (word opcode index c) := by
  have a : index % 256 < 256 := Nat.mod_lt _ (by decide)
  have b : 5 * index % 512 < 512 := Nat.mod_lt _ (by decide)
  unfold FitsWord word
  omega

theorem exists_instruction {Opcode : Type} {ofNumber? : Nat → Option Opcode} {number : Opcode → Nat}
    (small : opcode < 64) (narrow : c < 512) (known : (ofNumber? opcode).map number = some opcode) :
    ∃ each : Instruction ofNumber?, each.word = ⟨word opcode index c⟩ ∧ FitsWord each.word.value ∧
      each.fields number = ⟨opcode, index % 256, 5 * index % 512, c⟩ := by
  obtain ⟨numbered, a, b, narrowed⟩ := @field_word opcode index c small narrow
  obtain ⟨found, named, back⟩ := Option.map_eq_some_iff.mp known
  refine ⟨⟨⟨word opcode index c⟩, found, by rw [numbered, named]⟩, rfl, fitsWord_word small narrow, ?_⟩
  rw [Instruction.fields, back, a, b, narrowed]

end Words

theorem length_indices (length : Int) : (indices length).length = length.toNat := by
  simp [indices]

theorem lt_of_mem_indices {length : Int} {index : Nat} (member : index ∈ indices length) : (index : Int) < length := by
  simp only [indices, List.mem_range] at member
  omega

theorem fitsInt_of_require {n : Int} (passed : requireInt n = .ok ()) : FitsInt n := by
  unfold requireInt at passed
  split at passed
  · assumption
  · cases passed

theorem fitsWord_of_require {n : Int} (passed : requireWord n = .ok ()) : FitsWord n := by
  unfold requireWord at passed
  split at passed
  · assumption
  · cases passed

theorem fitsInt_innerLength {length : Int} (fits : FitsInt length) : FitsInt (innerLength length) := by
  unfold FitsInt innerLength at *
  omega

theorem fitsWord_innerLength {length : Int} (fits : FitsWord length) : FitsWord (innerLength length) := by
  unfold FitsWord innerLength at *
  omega

theorem fitsInt_line {length : Int} {index : Nat} (fits : FitsInt length) (member : index ∈ indices length) :
    FitsInt (index + 1) := by
  have below := lt_of_mem_indices member
  unfold FitsInt at *
  omega

theorem fitsWord_line {length : Int} {index : Nat} (fits : FitsWord length) (member : index ∈ indices length) :
    FitsWord (index + 1) := by
  have below := lt_of_mem_indices member
  unfold FitsWord at *
  omega

theorem inRange_locals {fits : Int → Prop} {fitsName : String → Prop} {length : Int} {first second : String}
    (zero : fits 0) (last : fits length) (one : fitsName first) (two : fitsName second) :
    ∀ each ∈ [{ name := first, startPc := 0, endPc := length }, { name := second, startPc := 0, endPc := length }],
      Local.InRange fits fitsName each := by
  simp only [List.forall_mem_cons]
  exact ⟨⟨one, zero, last⟩, ⟨two, zero, last⟩, nofun⟩

theorem ok_of_except_bind {α β : Type} {first : Except Fault α} {next : α → Except Fault β} {result : β}
    (ran : first >>= next = .ok result) : ∃ value, first = .ok value ∧ next value = .ok result := by
  cases first with
  | error fault => cases ran
  | ok value => exact ⟨value, rfl, ran⟩

end Sample

namespace Reader

open Sample

variable {α : Type} {layout before after : Layout}

theorem consumes_planned_instruction {Opcode : Type} {ofNumber? : Nat → Option Opcode} {number : Opcode → Nat}
    {reader : Reader (Instruction ofNumber?)} {write : Word → Bytes}
    (reads : ∀ each : Instruction ofNumber?, FitsWord each.word.value →
      Consumes layout reader (write each.word) (fun found => found = each))
    {opcode c : Nat} (small : opcode < 64) (narrow : c < 512) (known : (ofNumber? opcode).map number = some opcode)
    (index : Nat) :
    Consumes layout reader (write ⟨word opcode index c⟩)
      (fun found => found.fields number = ⟨opcode, index % 256, 5 * index % 512, c⟩) := by
  obtain ⟨each, spelled, fits, decoded⟩ := @exists_instruction _ index _ _ _ _ small narrow known
  rw [← spelled]
  apply consumes_mono (reads each fits)
  rintro _ rfl
  exact decoded

-- Inner functions that hold none need no more room than the bytes of the main function give.
theorem consumes_nested_once {reader : (depth : Nat) → Reader α} {span : Bytes} {holds : α → Prop}
    (some : 0 < span.length) (known : ∀ depth, Consumes layout (reader (depth + 2)) span holds) :
    Consumes layout (nested reader) span holds := by
  apply consumes_nested
  intro depth deep
  obtain ⟨less, rfl⟩ : ∃ less, depth = less + 2 := ⟨depth - 2, by omega⟩
  exact known less

structure Planned {Function : Type} (layout : Layout) (fits : Int → Prop) (reader : (depth : Nat) → Reader (Tree Function))
    (code : Function → List Fields) (fields : Nat → Fields) (write : (length innerCount : Int) → List Bytes → Bytes) :
    Prop where
  some : ∀ length innerCount inner, 0 < (write length innerCount inner).length
  read : ∀ (depth : Nat) {length innerCount : Int} {inner : List Bytes} {shape : Tree (List Fields)}, fits length →
    fits innerCount → inner.length = innerCount.toNat →
    (∀ bytes ∈ inner, Consumes layout (reader depth) bytes (fun found => found.map code = shape)) →
    Consumes layout (reader (depth + 1)) (write length innerCount inner)
      (fun found => found.map code = .node ((indices length).map fields) (List.replicate innerCount.toNat shape))

theorem consumes_plan {Function : Type} {fits : Int → Prop} {reader : (depth : Nat) → Reader (Tree Function)}
    {code : Function → List Fields} {fields : Nat → Fields} {main inside : (length innerCount : Int) → List Bytes → Bytes}
    (outer : Planned layout fits reader code fields main) (inner : Planned layout fits reader code fields inside)
    {length innerCount : Int} (long : fits length) (few : fits innerCount) (short : fits (innerLength length))
    (none : fits 0) :
    Consumes layout (nested reader)
      (main length innerCount (List.replicate innerCount.toNat (inside (innerLength length) 0 [])))
      (fun found => found.map code = plan fields length innerCount) := by
  apply consumes_nested_once (outer.some ..)
  intro depth
  apply outer.read (depth + 1) long few List.length_replicate
  intro bytes member
  rw [List.eq_of_mem_replicate member]
  exact @Planned.read _ _ _ _ _ _ _ inner depth _ 0 [] (.node [] []) short none rfl nofun

theorem enters_header_main {Header Function Chunk : Type} {header : Reader Header} {prototype : Reader (Tree Function)}
    {make : Header → Tree Function → Chunk} {main : Chunk → Tree Function} {front back : Bytes} {known : Header}
    {holds : Tree Function → Prop} (headed : Enters before after header front (fun found => found = known))
    (read : Consumes after prototype back holds) (same : ∀ tree, main (make known tree) = tree) :
    Enters before after (header >>= fun found => prototype >>= fun tree => pure (make found tree)) (front ++ back)
      (fun found => holds (main found)) := by
  refine enters_bind headed ?_
  rintro _ rfl
  apply enters_of_consumes
  refine consumes_map read ?_
  intro tree held
  apply consumes_pure
  rwa [same]

theorem exhausts_of_enters {reader : Reader α} {bytes : Bytes} {holds : α → Prop}
    (known : Enters before after reader bytes holds) :
    Sample.Exhausts (reader { rest := bytes, layout := before }) bytes holds := by
  obtain ⟨value, left, ran, _, pos, rest, held⟩ :=
    known { rest := bytes, layout := before } [] rfl (List.append_nil bytes).symm
  exact ⟨value, left, ran, by rw [pos, Nat.zero_add], rest, held⟩

end Reader

end LuaBytecode
