import LuaBytecode.Proofs.Jit.Bulk
import LuaBytecode.Proofs.Truncation
import LuaBytecode.Proofs.V51.Bulk
import LuaBytecode.Proofs.V52.Bulk
import LuaBytecode.Proofs.V53.Bulk
import LuaBytecode.Proofs.V54.Bulk

namespace LuaBytecode

open Reader

variable {α : Type}

theorem weight_le_length {reader : Reader α} {weight : α → Nat} (covers : Covers 0 reader weight) {data : Bytes}
    {layout : Layout} {value : α} {after : Input} (ran : reader { rest := data, layout } = (.ok value, after)) :
    weight value ≤ data.length := by
  have enough := covers _ value after ran
  simp only [Nat.zero_add] at enough
  omega

theorem Jit.bulk_le_length {data : Bytes} {dump : Jit.Dump} {after : Input} (ran : Jit.parse data = (.ok dump, after)) :
    Jit.Prototype.bulk dump.prototypes ≤ data.length := by
  obtain ⟨header, headed, start, ran'⟩ := ok_of_bind ran
  obtain ⟨found, last, read, done⟩ := ok_of_bind ran'
  cases done
  obtain ⟨span, whole, _, _, _⟩ := Jit.Read.settled_header _ header headed start
  change data = span ++ headed.rest at whole
  have behind := Jit.Read.bulk_prototypes read
  rw [whole, List.length_append]
  exact Nat.le_trans behind (Nat.le_add_left _ _)

theorem bulk_le_length_of_parse (data : Bytes) :
    (∀ chunk after, V51.parse data = (.ok chunk, after) →
      chunk.main.bulk V51.Function.entryCount ≤ data.length) ∧
    (∀ chunk after, V52.parse data = (.ok chunk, after) →
      chunk.main.bulk V52.Function.entryCount ≤ data.length) ∧
    (∀ chunk after, V53.parse data = (.ok chunk, after) →
      chunk.main.bulk V53.Function.entryCount ≤ data.length) ∧
    (∀ record chunk after, V54.parse record data = (.ok chunk, after) →
      chunk.main.bulk V54.Function.entryCount ≤ data.length) ∧
    (∀ dump after, Jit.parse data = (.ok dump, after) → Jit.Prototype.bulk dump.prototypes ≤ data.length) := by
  refine ⟨?_, ?_, ?_, ?_, ?_⟩
  · intro chunk after accepted
    exact weight_le_length V51.Read.covers_chunk accepted
  · intro chunk after accepted
    exact weight_le_length V52.Read.covers_chunk accepted
  · intro chunk after accepted
    exact weight_le_length V53.Read.covers_chunk accepted
  · intro record chunk after accepted
    exact weight_le_length (V54.Read.covers_chunk record) accepted
  · intro dump after accepted
    exact Jit.bulk_le_length accepted

def weighed (weight : α → Nat) (outcome : Except Fault α × Input) : Option Nat :=
  match outcome with
  | (.ok value, _) => some (weight value)
  | (.error _, _) => none

theorem accepted_of_weighed {weight : α → Nat} {outcome : Except Fault α × Input} {found : Nat}
    (known : weighed weight outcome = some found) :
    ∃ value after, outcome = (.ok value, after) ∧ weight value = found := by
  obtain ⟨result, after⟩ := outcome
  cases result with
  | error fault => cases known
  | ok value => exact ⟨value, after, rfl, Option.some.inj known⟩

-- A table of three items and two pairs that takes all but the first bytes of its prototype.
def tabled : Bytes :=
  Jit.signature ++ [1, 2] ++ [0x14, 0, 0, 2, 0, 1, 0, 0, 1, 3, 2, 0, 1, 2, 0, 1, 0, 2] ++ [0]

theorem bulk_le_length_of_parse_nested :
    (∃ chunk after, V51.parse nested51 = (.ok chunk, after) ∧ chunk.main.bulk V51.Function.entryCount = 3 ∧
      chunk.main.bulk V51.Function.entryCount ≤ nested51.length) ∧
    (∃ chunk after, V52.parse nested52 = (.ok chunk, after) ∧ chunk.main.bulk V52.Function.entryCount = 3 ∧
      chunk.main.bulk V52.Function.entryCount ≤ nested52.length) ∧
    (∃ chunk after, V53.parse nested53 = (.ok chunk, after) ∧ chunk.main.bulk V53.Function.entryCount = 3 ∧
      chunk.main.bulk V53.Function.entryCount ≤ nested53.length) ∧
    (∃ chunk after, V54.parse true V54.nestedWithRest = (.ok chunk, after) ∧
      chunk.main.bulk V54.Function.entryCount = 7 ∧
      chunk.main.bulk V54.Function.entryCount ≤ V54.nestedWithRest.length) ∧
    (∃ dump after, Jit.parse tabled = (.ok dump, after) ∧ Jit.Prototype.bulk dump.prototypes = 7 ∧
      Jit.Prototype.bulk dump.prototypes ≤ tabled.length) := by
  have bulk51 : weighed (fun chunk => chunk.main.bulk V51.Function.entryCount) (V51.parse nested51) = some 3 := by
    decide +kernel
  have bulk52 : weighed (fun chunk => chunk.main.bulk V52.Function.entryCount) (V52.parse nested52) = some 3 := by
    decide +kernel
  have bulk53 : weighed (fun chunk => chunk.main.bulk V53.Function.entryCount) (V53.parse nested53) = some 3 := by
    decide +kernel
  have bulk54 : weighed (fun chunk => chunk.main.bulk V54.Function.entryCount)
      (V54.parse true V54.nestedWithRest) = some 7 := by
    decide +kernel
  have bulkJit : weighed (fun dump => Jit.Prototype.bulk dump.prototypes) (Jit.parse tabled) = some 7 := by
    decide +kernel
  refine ⟨?_, ?_, ?_, ?_, ?_⟩
  · obtain ⟨chunk, after, accepted, known⟩ := accepted_of_weighed bulk51
    exact ⟨chunk, after, accepted, known, (bulk_le_length_of_parse nested51).1 chunk after accepted⟩
  · obtain ⟨chunk, after, accepted, known⟩ := accepted_of_weighed bulk52
    exact ⟨chunk, after, accepted, known, (bulk_le_length_of_parse nested52).2.1 chunk after accepted⟩
  · obtain ⟨chunk, after, accepted, known⟩ := accepted_of_weighed bulk53
    exact ⟨chunk, after, accepted, known, (bulk_le_length_of_parse nested53).2.2.1 chunk after accepted⟩
  · obtain ⟨chunk, after, accepted, known⟩ := accepted_of_weighed bulk54
    exact ⟨chunk, after, accepted, known,
      (bulk_le_length_of_parse V54.nestedWithRest).2.2.2.1 true chunk after accepted⟩
  · obtain ⟨dump, after, accepted, known⟩ := accepted_of_weighed bulkJit
    exact ⟨dump, after, accepted, known, (bulk_le_length_of_parse tabled).2.2.2.2 dump after accepted⟩

end LuaBytecode
