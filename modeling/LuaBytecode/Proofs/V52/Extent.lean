import LuaBytecode.Proofs.Composition
import LuaBytecode.V52.Reading

namespace LuaBytecode.V52

open Reader

-- The fault of this version names no place.
def EndOfData (_total : Nat) (fault : Fault) : Prop := fault = .endOfData

namespace Read

theorem composed_bytes {count : Nat} : Composed (Basic EndOfData) (bytes count) := composed_take fun _ _ => rfl

theorem composed_byte : Composed (Basic EndOfData) byte := .bind composed_bytes fun _ => .pure

theorem composed_word : Composed (Basic EndOfData) word :=
  .bind composed_bytes fun _ => .bind composed_layout fun _ => composed.fixed

theorem composed_long : Composed (Basic EndOfData) long :=
  .bind composed_bytes fun _ => .bind composed_layout fun _ => composed.fixed

theorem composed_number : Composed (Basic EndOfData) number := .bind composed_long fun _ => .pure

theorem composed_size : Composed (Basic EndOfData) size := by
  refine .bind composed_layout fun found => ?_
  exact composed.ite composed_word (composed.ite composed_long .fail)

theorem composed_string : Composed (Basic EndOfData) string := by
  refine .bind composed_size fun size => ?_
  exact composed.ite .pure (.bind composed_bytes fun _ => .pure)

theorem composed_instruction : Composed (Basic EndOfData) instruction :=
  .bind composed_layout fun _ => .bind composed.require fun _ =>
    .bind composed_word fun _ => composed.ofExcept

theorem composed_constant : Composed (Basic EndOfData) constant := by
  refine .bind composed_byte fun tag => ?_
  split
  · exact .pure
  · exact .bind composed_byte fun _ => .pure
  · exact .bind composed_number fun _ => .pure
  · exact .bind composed_number fun _ => .bind composed.ofExcept fun _ => .pure
  · exact .bind composed_string fun _ => .pure
  · exact .bind composed_string fun _ => .pure
  · exact .fail

theorem composed_counted {α : Type} {reader : Reader α} (each : Composed (Basic EndOfData) reader) :
    Composed (Basic EndOfData) (counted reader) :=
  .bind composed_word fun count => composed.times each count

theorem composed_code : Composed (Basic EndOfData) code := .bind (composed_counted composed_instruction) fun _ => .pure

theorem composed_upvalue : Composed (Basic EndOfData) upvalue :=
  .bind composed_byte fun _ => .bind composed_byte fun _ => .pure

theorem composed_line : Composed (Basic EndOfData) line := .bind composed_word fun _ => .pure

theorem composed_localVariable : Composed (Basic EndOfData) localVariable :=
  .bind composed_string fun _ => .bind composed_word fun _ =>
    .bind composed_word fun _ => .pure

theorem composed_prototypeWithin (depth : Nat) : Composed (Basic EndOfData) (prototypeWithin depth) := by
  induction depth with
  | zero => exact .fail
  | succ depth ih =>
    refine .bind composed_word fun lineDefined => ?_
    refine .bind composed_word fun lastLineDefined => ?_
    refine .bind composed_byte fun paramCount => ?_
    refine .bind composed_byte fun varargFlag => ?_
    refine .bind composed_byte fun maxStackSize => ?_
    refine .bind composed_code fun code => ?_
    refine .bind (composed_counted composed_constant) fun constants => ?_
    refine .bind (composed_counted ih) fun inner => ?_
    refine .bind (composed_counted composed_upvalue) fun upvalues => ?_
    refine .bind composed_string fun source => ?_
    refine .bind (composed_counted composed_line) fun lineInfo => ?_
    refine .bind (composed_counted composed_localVariable) fun locals => ?_
    exact .bind (composed_counted composed_string) fun upvalueNames => .pure

theorem starves_word : Starves word := starves_bind (starves_take (by decide))

theorem agree_prototypeWithin (depth : Nat) :
    Agree depth (prototypeWithin depth) (prototypeWithin (depth + 1)) := by
  induction depth with
  | zero => exact fun _ impossible => absurd impossible (Nat.not_lt_zero _)
  | succ depth ih =>
    refine agree_step (yields_nonempty composed_word.settled starves_word) fun lineDefined => ?_
    refine agree_after composed_word.yields fun lastLineDefined => ?_
    refine agree_after composed_byte.yields fun paramCount => ?_
    refine agree_after composed_byte.yields fun varargFlag => ?_
    refine agree_after composed_byte.yields fun maxStackSize => ?_
    refine agree_after composed_code.yields fun code => ?_
    refine agree_after (composed_counted composed_constant).yields fun constants => ?_
    have passes := @Composed.yields _ _ _ depth (composed_prototypeWithin depth)
    have forests : Agree depth (counted (prototypeWithin depth)) (counted (prototypeWithin (depth + 1))) :=
      agree_after composed_word.yields fun count => agree_times ih passes count
    refine agree_bind forests (composed_counted (composed_prototypeWithin depth)).yields ?_
    exact fun inner _ _ => agree_refl _

theorem composed_prototype : Composed (Basic EndOfData) prototype :=
  .nested agree_prototypeWithin composed_prototypeWithin

theorem composed_header : Composed (Basic EndOfData) header := by
  refine .bind composed_bytes fun found => ?_
  refine .bind composed.require fun _ => ?_
  refine .bind composed_byte fun version => ?_
  refine .bind composed.require fun _ => ?_
  refine .bind composed_byte fun format => ?_
  refine .bind composed_byte fun orderFlag => ?_
  refine .bind composed.ofExcept fun order => ?_
  refine composed_change ?_
  refine .bind composed_byte fun intWidth => ?_
  refine composed_change ?_
  refine .bind composed_byte fun sizeWidth => ?_
  refine composed_change ?_
  refine .bind composed_byte fun instructionWidth => ?_
  refine composed_change ?_
  refine .bind composed_byte fun numberWidth => ?_
  refine composed_change ?_
  refine .bind composed_byte fun numberFlag => ?_
  refine .bind composed_bytes fun foundTail => ?_
  exact .bind composed.require fun _ => .pure

theorem composed_chunk : Composed (Basic EndOfData) chunk :=
  .bind composed_header fun _ => .bind composed_prototype fun _ => .pure

end Read

end LuaBytecode.V52
