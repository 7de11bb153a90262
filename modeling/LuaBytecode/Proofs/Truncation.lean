import LuaBytecode.Proofs.V51.Extent
import LuaBytecode.Proofs.V52.Extent
import LuaBytecode.Proofs.V53.Extent

namespace LuaBytecode

open Reader

variable {α : Type}

structure DependsOnConsumed (parse : Bytes → Except Fault α × Input) (tells : Nat → Fault → Prop)
    (data : Bytes) (value : α) (after : Input) : Prop where
  within : after.pos ≤ data.length
  suffix : ∀ rest, parse (data.take after.pos ++ rest) = (.ok value, { after with rest })
  cut : ∀ size < after.pos, ∃ fault later, parse (data.take size) = (.error fault, later) ∧ tells size fault

theorem dependsOnConsumed_of_settled {reader : Reader α} {tells : Nat → Fault → Prop} {layout : Layout}
    (settled : Settled tells reader) {data : Bytes} {value : α} {after : Input}
    (accepted : reader { rest := data, layout } = (.ok value, after)) :
    DependsOnConsumed (fun bytes => reader { rest := bytes, layout }) tells data value after := by
  obtain ⟨span, start, pos, alike, short⟩ := settled _ value after accepted
  change data = span ++ after.rest at start
  change after.pos = 0 + span.length at pos
  have consumed : after.pos = span.length := by rw [pos, Nat.zero_add]
  have front : data.take after.pos = span := by rw [consumed, start, List.take_left]
  constructor
  · rw [start, List.length_append]
    omega
  · intro rest
    rw [front]
    exact alike rest
  · intro size less
    have part : span = data.take size ++ span.drop size := by
      rw [start, List.take_append_of_le_length (by omega), List.take_append_drop]
    have missing : span.drop size ≠ [] := by
      rw [Ne, List.drop_eq_nil_iff]
      omega
    obtain ⟨fault, later, failed, told⟩ := short _ _ part missing
    have exactly : (data.take size).length = size := by
      rw [start, List.length_take, List.length_append]
      omega
    refine ⟨fault, later, failed, ?_⟩
    rwa [exactly, Nat.zero_add] at told

theorem parse_depends_on_consumed (data : Bytes) :
    (∀ chunk after, V51.parse data = (.ok chunk, after) →
      DependsOnConsumed V51.parse BeyondEnd data chunk after) ∧
    (∀ chunk after, V52.parse data = (.ok chunk, after) →
      DependsOnConsumed V52.parse V52.EndOfData data chunk after) ∧
    (∀ chunk after, V53.parse data = (.ok chunk, after) →
      DependsOnConsumed V53.parse BeyondEnd data chunk after) := by
  refine ⟨?_, ?_, ?_⟩
  · intro chunk after accepted
    exact dependsOnConsumed_of_settled V51.Read.composed_chunk.settled accepted
  · intro chunk after accepted
    exact dependsOnConsumed_of_settled V52.Read.composed_chunk.settled accepted
  · intro chunk after accepted
    exact dependsOnConsumed_of_settled V53.Read.composed_chunk.settled accepted

-- A blank function inside another, with a byte that nothing reads.
def nested51 : Bytes :=
  V51.signature ++ [0x51, 0, 1, 4, 4, 4, 8, 0] ++ List.replicate 24 0 ++ [1, 0, 0, 0] ++ List.replicate 52 0 ++ [7]

def nested52 : Bytes :=
  V52.signature ++ [0x52, 0, 0, 4, 8, 4, 8, 0] ++ V52.tail ++ List.replicate 19 0 ++ [0, 0, 0, 1] ++
    List.replicate 71 0 ++ [7]

def nested53 : Bytes :=
  V53.signature ++ [0x53, 0] ++ V53.data ++ [4, 8, 4, 8, 8] ++ Bytes.ofNat 8 0x5678 ++
    Bytes.ofNat 8 0x4077280000000000 ++ [0] ++ List.replicate 24 0 ++ [1, 0, 0, 0] ++ List.replicate 52 0 ++ [7]

def endOf (outcome : Except Fault α × Input) : Option Nat :=
  match outcome with
  | (.ok _, after) => some after.pos
  | (.error _, _) => none

theorem accepted_of_endOf {outcome : Except Fault α × Input} {pos : Nat} (ended : endOf outcome = some pos) :
    ∃ value after, outcome = (.ok value, after) ∧ after.pos = pos := by
  obtain ⟨result, after⟩ := outcome
  cases result with
  | error fault => cases ended
  | ok value => exact ⟨value, after, rfl, Option.some.inj ended⟩

theorem parse_depends_on_consumed_nested :
    (∃ chunk after, V51.parse nested51 = (.ok chunk, after) ∧ after.pos = 92 ∧
      DependsOnConsumed V51.parse BeyondEnd nested51 chunk after) ∧
    (∃ chunk after, V52.parse nested52 = (.ok chunk, after) ∧ after.pos = 112 ∧
      DependsOnConsumed V52.parse V52.EndOfData nested52 chunk after) ∧
    (∃ chunk after, V53.parse nested53 = (.ok chunk, after) ∧ after.pos = 114 ∧
      DependsOnConsumed V53.parse BeyondEnd nested53 chunk after) := by
  have ends51 : endOf (V51.parse nested51) = some 92 := by decide +kernel
  have ends52 : endOf (V52.parse nested52) = some 112 := by decide +kernel
  have ends53 : endOf (V53.parse nested53) = some 114 := by decide +kernel
  refine ⟨?_, ?_, ?_⟩
  · obtain ⟨chunk, after, accepted, pos⟩ := accepted_of_endOf ends51
    exact ⟨chunk, after, accepted, pos, (parse_depends_on_consumed nested51).1 chunk after accepted⟩
  · obtain ⟨chunk, after, accepted, pos⟩ := accepted_of_endOf ends52
    exact ⟨chunk, after, accepted, pos, (parse_depends_on_consumed nested52).2.1 chunk after accepted⟩
  · obtain ⟨chunk, after, accepted, pos⟩ := accepted_of_endOf ends53
    exact ⟨chunk, after, accepted, pos, (parse_depends_on_consumed nested53).2.2 chunk after accepted⟩

end LuaBytecode
