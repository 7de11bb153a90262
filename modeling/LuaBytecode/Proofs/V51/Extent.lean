import LuaBytecode.Proofs.Composition
import LuaBytecode.V51.Reading

namespace LuaBytecode.V51.Read

open Reader

theorem composed_int : Composed (Basic BeyondEnd) int :=
  .bind composed_layout fun _ => .bind composed_bounded fun _ =>
    .bind composed.fixed fun _ => .pure

theorem composed_size : Composed (Basic BeyondEnd) size :=
  .bind composed_layout fun _ => .bind composed_bounded fun _ => composed.fixed

theorem composed_number : Composed (Basic BeyondEnd) number :=
  .bind composed_layout fun _ => .bind composed_bounded fun _ =>
    .bind composed.fixed fun _ => .pure

theorem composed_string : Composed (Basic BeyondEnd) string := by
  refine .bind composed_size fun size => ?_
  exact composed.ite .pure (.bind composed_bounded fun _ => .pure)

theorem composed_instruction : Composed (Basic BeyondEnd) instruction :=
  .bind composed_layout fun _ => .bind composed_bounded fun _ =>
    .bind composed.fixed fun _ => composed.ofExcept

theorem composed_constant : Composed (Basic BeyondEnd) constant := by
  refine .bind composed_boundedByte fun tag => ?_
  split
  · exact .pure
  · exact .bind composed_boundedByte fun _ => .pure
  · exact .bind composed_number fun _ => .pure
  · exact .bind composed_string fun _ => .pure
  · exact .fail

theorem composed_counted {α : Type} {reader : Reader α} (each : Composed (Basic BeyondEnd) reader) :
    Composed (Basic BeyondEnd) (counted reader) :=
  .bind composed_int fun count => composed.timesInt each count

theorem composed_localVariable : Composed (Basic BeyondEnd) localVariable :=
  .bind composed_string fun _ => .bind composed_int fun _ =>
    .bind composed_int fun _ => .pure

theorem composed_prototypeWithin (depth : Nat) : Composed (Basic BeyondEnd) (prototypeWithin depth) := by
  induction depth with
  | zero => exact .fail
  | succ depth ih =>
    refine .bind composed_string fun source => ?_
    refine .bind composed_int fun lineDefined => ?_
    refine .bind composed_int fun lastLineDefined => ?_
    refine .bind composed_boundedByte fun upvalueCount => ?_
    refine .bind composed_boundedByte fun paramCount => ?_
    refine .bind composed_boundedByte fun varargFlag => ?_
    refine .bind composed_boundedByte fun maxStackSize => ?_
    refine .bind (composed_counted composed_instruction) fun code => ?_
    refine .bind (composed_counted composed_constant) fun constants => ?_
    refine .bind (composed_counted ih) fun inner => ?_
    refine .bind (composed_counted composed_int) fun lineInfo => ?_
    refine .bind (composed_counted composed_localVariable) fun locals => ?_
    exact .bind (composed_counted composed_string) fun upvalueNames => .pure

theorem starves_string : Starves string := by
  refine starves_bind (starves_layout fun found => starves_bind (starves_take ?_))
  split <;> decide

theorem agree_prototypeWithin (depth : Nat) :
    Agree depth (prototypeWithin depth) (prototypeWithin (depth + 1)) := by
  induction depth with
  | zero => exact fun _ impossible => absurd impossible (Nat.not_lt_zero _)
  | succ depth ih =>
    refine agree_step (yields_nonempty composed_string.settled starves_string) fun source => ?_
    refine agree_after composed_int.yields fun lineDefined => ?_
    refine agree_after composed_int.yields fun lastLineDefined => ?_
    refine agree_after composed_boundedByte.yields fun upvalueCount => ?_
    refine agree_after composed_boundedByte.yields fun paramCount => ?_
    refine agree_after composed_boundedByte.yields fun varargFlag => ?_
    refine agree_after composed_boundedByte.yields fun maxStackSize => ?_
    refine agree_after (composed_counted composed_instruction).yields fun code => ?_
    refine agree_after (composed_counted composed_constant).yields fun constants => ?_
    have passes := @Composed.yields _ _ _ depth (composed_prototypeWithin depth)
    have forests : Agree depth (counted (prototypeWithin depth)) (counted (prototypeWithin (depth + 1))) :=
      agree_after composed_int.yields fun count => agree_times ih passes count.toNat
    refine agree_bind forests (composed_counted (composed_prototypeWithin depth)).yields ?_
    exact fun inner _ _ => agree_refl _

theorem composed_prototype : Composed (Basic BeyondEnd) prototype :=
  .nested agree_prototypeWithin composed_prototypeWithin

theorem composed_header : Composed (Basic BeyondEnd) header := by
  refine .bind composed_bounded fun found => ?_
  refine .bind composed.require fun _ => ?_
  refine .bind composed_boundedByte fun version => ?_
  refine .bind composed.require fun _ => ?_
  refine .bind composed_boundedByte fun format => ?_
  refine .bind composed.require fun _ => ?_
  refine .bind composed_boundedByte fun orderFlag => ?_
  refine composed_change ?_
  refine .bind composed_boundedByte fun intWidth => ?_
  refine composed_change ?_
  refine .bind composed_boundedByte fun sizeWidth => ?_
  refine composed_change ?_
  refine .bind composed_boundedByte fun instructionWidth => ?_
  refine composed_change ?_
  refine .bind composed_boundedByte fun numberWidth => ?_
  refine composed_change ?_
  exact .bind composed_boundedByte fun integralFlag => .pure

theorem composed_chunk : Composed (Basic BeyondEnd) chunk :=
  .bind composed_header fun _ => .bind composed_prototype fun _ => .pure

end LuaBytecode.V51.Read
