import LuaBytecode.Proofs.Bulk
import LuaBytecode.Proofs.V52.Extent

namespace LuaBytecode.V52

def Function.entryCount (function : Function) : Nat :=
  function.code.length + function.constants.length + function.upvalues.length + function.lineInfo.length +
    function.locals.length + function.upvalueNames.length

namespace Read

open Reader

theorem covers_byte : Covers 0 byte (fun _ => 1) :=
  covers_bind covers_take_count fun _ => covers_pure (Nat.le_refl 1)

theorem covers_word : Covers 0 word (fun _ => 4) := by
  apply covers_bind covers_take
  intro taken
  apply covers_pass covers_layout
  intro layout
  exact covers_fixed

theorem covers_long : Covers 0 long (fun _ => 8) := by
  apply covers_bind covers_take
  intro taken
  apply covers_pass covers_layout
  intro layout
  exact covers_fixed

theorem covers_number : Covers 0 number (fun _ => 1) :=
  covers_bind covers_long fun _ => covers_pure (by decide)

theorem covers_size : Covers 0 size (fun _ => 1) := by
  apply covers_pass covers_layout
  intro layout
  apply covers_ite
  · exact covers_mono covers_word fun _ => by decide
  · exact covers_ite (covers_mono covers_long fun _ => by decide) covers_fail

theorem covers_string : Covers 0 string (fun _ => 1) := by
  apply covers_bind covers_size
  intro size
  apply covers_ite
  · exact covers_pure (Nat.le_refl 1)
  · exact covers_bind covers_take fun _ => covers_pure (Nat.le_add_left 1 _)

theorem covers_instruction : Covers 0 instruction (fun _ => 1) := by
  apply covers_pass covers_layout
  intro layout
  apply covers_pass covers_require
  intro _
  exact covers_bind covers_word fun _ => covers_ofExcept (by decide)

theorem covers_constant : Covers 0 constant (fun _ => 1) := by
  apply covers_bind covers_byte
  intro tag
  split
  · exact covers_pure (Nat.le_refl 1)
  · exact covers_bind covers_byte fun _ => covers_pure (by decide)
  · exact covers_bind covers_number fun _ => covers_pure (by decide)
  · apply covers_bind covers_number
    intro value
    exact covers_pass (covers_ofExcept (Nat.le_refl 0)) fun _ => covers_pure (by decide)
  · exact covers_bind covers_string fun _ => covers_pure (by decide)
  · exact covers_bind covers_string fun _ => covers_pure (by decide)
  · exact covers_fail

theorem covers_counted {α : Type} {reader : Reader α} {weight : List α → Nat}
    (items : ∀ count, Covers 0 (times count reader) weight) : Covers 0 (counted reader) weight := by
  apply covers_bind covers_word
  intro count
  exact covers_of_le (items count) (Nat.zero_le 4)

theorem covers_code : Covers 0 code List.length := by
  apply covers_bind (covers_counted (covers_times_length covers_instruction))
  intro decoded
  exact covers_pure (Nat.le_of_eq List.length_mapIdx)

theorem covers_upvalue : Covers 0 upvalue (fun _ => 1) := by
  apply covers_bind covers_byte
  intro inStack
  apply covers_bind covers_byte
  intro index
  exact covers_pure (by decide)

theorem covers_line : Covers 0 line (fun _ => 1) :=
  covers_bind covers_word fun _ => covers_pure (by decide)

theorem covers_localVariable : Covers 0 localVariable (fun _ => 1) := by
  apply covers_bind covers_string
  intro name
  apply covers_bind covers_word
  intro startPc
  apply covers_bind covers_word
  intro endPc
  exact covers_pure (by decide)

theorem covers_prototypeWithin (depth : Nat) :
    Covers 0 (prototypeWithin depth) (fun tree => 1 + tree.bulk Function.entryCount) := by
  induction depth with
  | zero => exact covers_fail
  | succ depth ih =>
    apply covers_bind covers_word
    intro lineDefined
    apply covers_bind covers_word
    intro lastLineDefined
    apply covers_bind covers_byte
    intro paramCount
    apply covers_bind covers_byte
    intro varargFlag
    apply covers_bind covers_byte
    intro maxStackSize
    apply covers_bind covers_code
    intro code
    apply covers_bind (covers_counted (covers_times_length covers_constant))
    intro constants
    apply covers_bind (covers_counted (covers_forest ih))
    intro inner
    apply covers_bind (covers_counted (covers_times_length covers_upvalue))
    intro upvalues
    apply covers_bind covers_string
    intro source
    apply covers_bind (covers_counted (covers_times_length covers_line))
    intro lineInfo
    apply covers_bind (covers_counted (covers_times_length covers_localVariable))
    intro locals
    apply covers_bind (covers_counted (covers_times_length covers_string))
    intro upvalueNames
    apply covers_pure
    simp only [Tree.bulk, Function.entryCount, length_nameUpvalues]
    omega

theorem covers_chunk : Covers 0 chunk (fun chunk => chunk.main.bulk Function.entryCount) := by
  apply covers_pass (covers_of_yields fun _ => composed_header.yields)
  intro header
  apply covers_bind (covers_nested covers_prototypeWithin)
  intro main
  exact covers_pure (Nat.le_add_left _ 1)

end Read

end LuaBytecode.V52
