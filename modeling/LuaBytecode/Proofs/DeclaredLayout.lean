import LuaBytecode.Proofs.Truncation
import LuaBytecode.Proofs.V52.Declared
import LuaBytecode.Proofs.V53.Declared
import LuaBytecode.Proofs.V54.Declared

namespace LuaBytecode

open Reader

theorem declared_layout_of_accepted (data : Bytes) :
    (∀ chunk after, V52.parse data = (.ok chunk, after) → V52.Declared data chunk after) ∧
    (∀ chunk after, V53.parse data = (.ok chunk, after) → V53.Declared data chunk after) ∧
    (∀ record chunk after, V54.parse record data = (.ok chunk, after) → V54.Declared record data chunk after) := by
  refine ⟨?_, ?_, ?_⟩
  · intro chunk after accepted
    exact V52.declared_of_parse accepted
  · intro chunk after accepted
    exact V53.declared_of_parse accepted
  · intro record chunk after accepted
    exact V54.declared_of_parse accepted

-- A function with an upvalue inside a blank one, with a byte that nothing reads.
def nested54 : Bytes :=
  V54.standardHeader.spelled ++ [0] ++ [0x80, 0x80, 0x80, 0, 1, 2, 0x80, 0x80, 0x80, 0x81] ++
    [0x80, 0x80, 0x80, 0, 0, 2, 0x80, 0x80, 0x81, 1, 0, 0, 0x80] ++ List.replicate 8 0x80 ++ [7]

theorem declared_layout_of_nested :
    (∃ chunk after, V52.parse nested52 = (.ok chunk, after) ∧ after.pos = 112 ∧ V52.Declared nested52 chunk after) ∧
    (∃ chunk after, V53.parse nested53 = (.ok chunk, after) ∧ after.pos = 114 ∧ V53.Declared nested53 chunk after) ∧
    (∀ record, ∃ chunk after, V54.parse record nested54 = (.ok chunk, after) ∧ after.pos = 63 ∧
      V54.Declared record nested54 chunk after) := by
  have ends52 : endOf (V52.parse nested52) = some 112 := by decide +kernel
  have ends53 : endOf (V53.parse nested53) = some 114 := by decide +kernel
  have ends54 : ∀ record, endOf (V54.parse record nested54) = some 63 := by decide +kernel
  refine ⟨?_, ?_, ?_⟩
  · obtain ⟨chunk, after, accepted, pos⟩ := accepted_of_endOf ends52
    exact ⟨chunk, after, accepted, pos, (declared_layout_of_accepted nested52).1 chunk after accepted⟩
  · obtain ⟨chunk, after, accepted, pos⟩ := accepted_of_endOf ends53
    exact ⟨chunk, after, accepted, pos, (declared_layout_of_accepted nested53).2.1 chunk after accepted⟩
  · intro record
    obtain ⟨chunk, after, accepted, pos⟩ := accepted_of_endOf (ends54 record)
    exact ⟨chunk, after, accepted, pos, (declared_layout_of_accepted nested54).2.2 record chunk after accepted⟩

def foreignHeader52 : V52.Header :=
  { version := 0x52, format := 0, order := .little, intWidth := 8, sizeWidth := 4, instructionWidth := 9,
    numberWidth := 4, numberFlag := 1 }

def foreign52 : Bytes := V52.Write.header foreignHeader52 ++ List.replicate 47 0

def foreignHeader53 : V53.Header :=
  { V53.standardHeader 7 with
    intWidth := 8, sizeWidth := 4, instructionWidth := 8, integerWidth := 4, numberWidth := 4 }

def foreign53 : Bytes := foreignHeader53.spelled ++ List.replicate 40 0

def foreignHeader54 : V54.Header :=
  { format := 1, data := List.replicate 6 0, instructionWidth := 8, integerWidth := 4, numberWidth := 4,
    testInteger := 0, testNumber := ⟨0⟩ }

def foreign54 : Bytes :=
  foreignHeader54.spelled ++ [7] ++ [0x80, 0x80, 0x80, 0, 0, 2] ++ List.replicate 8 0x80

theorem foreign_layouts_accepted :
    (∃ chunk after, V52.parse foreign52 = (.ok chunk, after) ∧ chunk.header = foreignHeader52 ∧
      ¬ chunk.Described) ∧
    (∃ chunk after, V53.parse foreign53 = (.ok chunk, after) ∧
      (chunk.header, chunk.main.top.upvalues) = (foreignHeader53, []) ∧ ¬ chunk.Described) ∧
    (∀ record, ∃ chunk after, V54.parse record foreign54 = (.ok chunk, after) ∧
      (chunk.header, chunk.upvalueCount, chunk.main.top.upvalues) = (foreignHeader54, 7, []) ∧
      ¬ chunk.Described) := by
  have seen52 : seenIn V52.Chunk.header (V52.parse foreign52) = some foreignHeader52 := by decide +kernel
  have seen53 : seenIn (fun chunk => (chunk.header, chunk.main.top.upvalues)) (V53.parse foreign53) =
      some (foreignHeader53, []) := by decide +kernel
  have seen54 : ∀ record, seenIn (fun chunk => (chunk.header, chunk.upvalueCount, chunk.main.top.upvalues))
      (V54.parse record foreign54) = some (foreignHeader54, 7, []) := by decide +kernel
  refine ⟨?_, ?_, ?_⟩
  · obtain ⟨chunk, after, accepted, found⟩ := accepted_of_seenIn seen52
    refine ⟨chunk, after, accepted, found, ?_⟩
    intro described
    have width := V52.Read.wide_word.mp described.int
    rw [found] at width
    cases width
  · obtain ⟨chunk, after, accepted, found⟩ := accepted_of_seenIn seen53
    refine ⟨chunk, after, accepted, found, ?_⟩
    intro described
    have count := described.upvalueCount
    obtain ⟨header, none⟩ := Prod.mk.inj found
    rw [header, none] at count
    cases count
  · intro record
    obtain ⟨chunk, after, accepted, found⟩ := accepted_of_seenIn (seen54 record)
    refine ⟨chunk, after, accepted, found, ?_⟩
    intro described
    have format := described.format
    rw [(Prod.mk.inj found).1] at format
    cases format

end LuaBytecode
