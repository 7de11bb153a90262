import LuaBytecode.Proofs.Bulk
import LuaBytecode.Proofs.V53.Extent

namespace LuaBytecode.V53

def Function.entryCount (function : Function) : Nat :=
  function.code.length + function.constants.length + function.upvalues.length + function.lineInfo.length +
    function.locals.length + function.upvalueNames.length

namespace Read

open Reader

theorem covers_fixedWidth (width : Nat) : Covers 0 (fixedWidth width) (fun _ => width) := by
  apply covers_bind covers_take
  intro taken
  apply covers_pass covers_layout
  intro layout
  exact covers_fixed

theorem covers_int : Covers 0 int (fun _ => 1) :=
  covers_bind (covers_fixedWidth 4) fun _ => covers_pure (by decide)

theorem covers_integer : Covers 0 integer (fun _ => 1) :=
  covers_bind (covers_fixedWidth 8) fun _ => covers_pure (by decide)

theorem covers_number : Covers 0 number (fun _ => 1) :=
  covers_bind (covers_fixedWidth 8) fun _ => covers_pure (by decide)

-- The first byte of its size pays for a string.
theorem covers_string : Covers 0 string (fun _ => 1) := by
  apply covers_bind covers_boundedByte
  intro short
  apply covers_choice (covers_mono (covers_fixedWidth 8) fun _ => Nat.zero_le 8) (covers_pure (Nat.le_refl 0))
  intro size
  apply covers_ite
  · exact covers_pure (by decide)
  · exact covers_bind covers_take fun _ => covers_pure (by omega)

theorem covers_instruction : Covers 0 instruction (fun _ => 1) :=
  covers_bind (covers_fixedWidth 4) fun _ => covers_ofExcept (by decide)

theorem covers_constant : Covers 0 constant (fun _ => 1) := by
  apply covers_bind covers_boundedByte
  intro tag
  split
  · exact covers_pure (Nat.le_refl 1)
  · exact covers_bind covers_boundedByte fun _ => covers_pure (by decide)
  · exact covers_bind covers_number fun _ => covers_pure (by decide)
  · exact covers_bind covers_integer fun _ => covers_pure (by decide)
  · exact covers_bind covers_string fun _ => covers_pure (by decide)
  · exact covers_bind covers_string fun _ => covers_pure (by decide)
  · exact covers_fail

theorem covers_counted {α : Type} {reader : Reader α} {weight : List α → Nat}
    (items : ∀ count, Covers 0 (times count reader) weight) : Covers 0 (counted reader) weight := by
  apply covers_bind covers_int
  intro count
  exact covers_of_le (items count.toNat) (Nat.zero_le 1)

theorem covers_upvalue : Covers 0 upvalue (fun _ => 1) := by
  apply covers_bind covers_boundedByte
  intro inStack
  apply covers_bind covers_boundedByte
  intro index
  exact covers_pure (by decide)

theorem covers_localVariable : Covers 0 localVariable (fun _ => 1) := by
  apply covers_bind covers_string
  intro name
  apply covers_bind covers_int
  intro startPc
  apply covers_bind covers_int
  intro endPc
  exact covers_pure (by decide)

theorem covers_prototypeWithin (depth : Nat) :
    Covers 0 (prototypeWithin depth) (fun tree => 1 + tree.bulk Function.entryCount) := by
  induction depth with
  | zero => exact covers_fail
  | succ depth ih =>
    apply covers_bind covers_string
    intro source
    apply covers_bind covers_int
    intro lineDefined
    apply covers_bind covers_int
    intro lastLineDefined
    apply covers_bind covers_boundedByte
    intro paramCount
    apply covers_bind covers_boundedByte
    intro varargFlag
    apply covers_bind covers_boundedByte
    intro maxStackSize
    apply covers_bind (covers_counted (covers_times_length covers_instruction))
    intro code
    apply covers_bind (covers_counted (covers_times_length covers_constant))
    intro constants
    apply covers_bind (covers_counted (covers_times_length covers_upvalue))
    intro upvalues
    apply covers_bind (covers_counted (covers_forest ih))
    intro inner
    apply covers_bind (covers_counted (covers_times_length covers_int))
    intro lineInfo
    apply covers_bind (covers_counted (covers_times_length covers_localVariable))
    intro locals
    apply covers_bind (covers_counted (covers_times_length covers_string))
    intro upvalueNames
    apply covers_pure
    simp only [Tree.bulk, Function.entryCount, length_nameUpvalues]
    omega

theorem covers_chunk : Covers 0 chunk (fun chunk => chunk.main.bulk Function.entryCount) := by
  apply covers_pass (covers_of_yields fun _ => composed_header.yields)
  intro header
  apply covers_bind (covers_nested covers_prototypeWithin)
  intro main
  exact covers_pure (Nat.le_add_left _ 1)

end Read

end LuaBytecode.V53
