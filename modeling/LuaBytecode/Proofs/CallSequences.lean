import LuaBytecode.Proofs.Jit.Cursor
import LuaBytecode.Proofs.V51.Cursor
import LuaBytecode.Proofs.V52.Cursor
import LuaBytecode.Proofs.V53.Cursor

namespace LuaBytecode

open Reader

namespace Interface

structure Steady (interface : Interface) (data : Bytes) (start : Input) (requests : List interface.Request) : Prop where
  forward : (interface.passes start requests).Pairwise (fun earlier later => earlier.pos ≤ later.pos)
  within : ∀ input ∈ interface.passes start requests, input.Over data
  -- A number is missing exactly if the data ends within it, and only then is it not passed over.
  missing : ∀ input ∈ interface.passes start requests, ∀ request width,
    interface.width? input.layout request = some width →
      ((∃ fault, (interface.reader request input).1 = .error fault ∧ interface.tells data.length fault) ↔
        data.length < input.pos + width) ∧
      (data.length < input.pos + width → (interface.reader request input).2 = input) ∧
      (input.pos + width ≤ data.length → (interface.reader request input).2.pos = input.pos + width)

theorem steady_of_readers {interface : Interface} (each : ∀ request, Advances (interface.reader request))
    (fixed : ∀ layout request width, interface.width? layout request = some width →
      Whole interface.tells layout width (interface.reader request))
    {data : Bytes} {start : Input} (placed : start.Over data) (requests : List interface.Request) :
    interface.Steady data start requests where
  forward := pairwise_passes each placed requests
  within input member := (over_of_mem_passes each placed member).1
  missing input member request width known := by
    have here := (over_of_mem_passes each placed member).1
    have whole := fixed input.layout request width known
    by_cases fewer : data.length < input.pos + width
    · obtain ⟨fault, failed, told⟩ := whole.short input rfl (here.fewer_iff.mpr fewer)
      rw [here.total] at told
      refine ⟨⟨fun _ => fewer, fun _ => ⟨fault, by rw [failed], told⟩⟩, fun _ => by rw [failed], ?_⟩
      exact fun enough => absurd fewer (Nat.not_lt.mpr enough)
    · obtain ⟨pos, others⟩ := whole.enough input rfl (Nat.not_lt.mp fun less => fewer (here.fewer_iff.mp less))
      rw [here.total] at others
      refine ⟨⟨?_, fun less => absurd less fewer⟩, fun less => absurd less fewer, fun _ => pos⟩
      rintro ⟨fault, failed, told⟩
      exact absurd told (others fault failed)

end Interface

theorem cursor_monotone_and_bounded {interface : Interface}
    (known : interface ∈ [V51.interface, V52.interface, V53.interface, Jit.interface]) {data : Bytes} {start : Input}
    (placed : start.Over data) (requests : List interface.Request) : interface.Steady data start requests := by
  simp only [List.mem_cons, List.not_mem_nil, or_false] at known
  rcases known with rfl | rfl | rfl | rfl
  · exact Interface.steady_of_readers V51.Request.advances_reader (fun _ _ _ => V51.Request.whole_reader) placed requests
  · exact Interface.steady_of_readers V52.Request.advances_reader (fun _ _ _ => V52.Request.whole_reader) placed requests
  · exact Interface.steady_of_readers V53.Request.advances_reader (fun _ _ _ => V53.Request.whole_reader) placed requests
  · exact Interface.steady_of_readers Jit.Request.advances_reader (fun _ _ _ => Jit.Request.whole_reader) placed requests

-- A chunk of another version behind one byte, a string that is cut off, and two bytes more.
def brokenOff : Bytes := [7] ++ V51.signature ++ [0x52] ++ [5, 0, 0, 0] ++ [0x61, 0x62]

theorem cursor_monotone_and_bounded_brokenOff :
    (V51.interface.passes { pos := 1, rest := brokenOff.drop 1 }
      ([.header, .string, .int, .byte, .code, .byte, .byte] : List V51.Request)).map Input.pos =
        [1, 6, 10, 10, 11, 11, 12, 12] ∧
      V51.interface.Steady brokenOff { pos := 1, rest := brokenOff.drop 1 }
        ([.header, .string, .int, .byte, .code, .byte, .byte] : List V51.Request) :=
  ⟨by decide +kernel, cursor_monotone_and_bounded List.mem_cons_self ⟨by decide, rfl⟩ _⟩

end LuaBytecode
