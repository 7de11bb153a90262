import LuaBytecode.Proofs.Bulk
import LuaBytecode.Proofs.V54.Recording

namespace LuaBytecode.V54

def Function.entryCount (function : Function) : Nat :=
  function.code.length + function.constants.length + function.upvalues.length + function.lineInfo.length +
    function.absLineInfo.length + function.locals.length + function.upvalueNames.length

theorem Function.entryCount_bare (function : Function) : function.bare.entryCount = function.entryCount := by
  simp [Function.bare, Function.entryCount]

theorem bulk_bare (tree : Prototype) : (bare tree).bulk Function.entryCount = tree.bulk Function.entryCount := by
  rw [bare, Tree.bulk_map]
  simp only [Function.entryCount_bare]

open Reader

namespace Read

theorem covers_fixedWidth (width : Nat) : Covers 0 (fixedWidth width) (fun _ => width) :=
  covers_bind covers_takeUpTo fun _ => covers_fixed

theorem covers_byte : Covers 0 byte (fun _ => 1) := covers_fixedWidth 1

theorem covers_size : Covers 0 size (fun _ => 1) := covers_scanning

theorem covers_string : Covers 0 string (fun _ => 1) := by
  apply covers_bind covers_size
  intro size
  apply covers_ite
  · exact covers_pure (Nat.le_refl 1)
  · apply covers_pass covers_require
    intro _
    exact covers_bind covers_takeUpTo fun _ => covers_pure (Nat.le_add_left 1 _)

theorem covers_noted {α : Type} {reader : Reader α} {weight : α → Nat} (known : Covers 0 reader weight) :
    Covers 0 (noted false reader) (fun found => weight found.1) :=
  covers_bind known fun _ => covers_pure (Nat.le_refl _)

theorem covers_counted {α : Type} {reader : Reader α} {weight : List α → Nat}
    (items : ∀ count, Covers 0 (times count reader) weight) : Covers 0 (counted reader) weight := by
  apply covers_bind covers_size
  intro count
  exact covers_of_le (items count) (Nat.zero_le 1)

theorem covers_upvalue : Covers 0 (upvalue false) (fun _ => 1) := by
  have fields : Covers 0 (byte >>= fun inStack => byte >>= fun index => byte >>= fun kind =>
      pure (inStack, index, kind)) (fun _ => 1) := by
    apply covers_bind covers_byte
    intro inStack
    apply covers_bind covers_byte
    intro index
    exact covers_bind covers_byte fun _ => covers_pure (by decide)
  exact covers_bind (covers_noted fields) fun _ => covers_pure (Nat.le_refl 1)

theorem covers_absLine : Covers 0 (absLine false) (fun _ => 1) := by
  have fields : Covers 0 (size >>= fun pc => size >>= fun line => pure (pc, line)) (fun _ => 1) := by
    apply covers_bind covers_size
    intro pc
    exact covers_bind covers_size fun _ => covers_pure (by decide)
  exact covers_bind (covers_noted fields) fun _ => covers_pure (Nat.le_refl 1)

theorem covers_localVariable : Covers 0 (localVariable false) (fun _ => 1) := by
  have fields : Covers 0 (string >>= fun name => size >>= fun startPc => size >>= fun endPc =>
      pure (name, startPc, endPc)) (fun _ => 1) := by
    apply covers_bind covers_string
    intro name
    apply covers_bind covers_size
    intro startPc
    exact covers_bind covers_size fun _ => covers_pure (by decide)
  exact covers_bind (covers_noted fields) fun _ => covers_pure (Nat.le_refl 1)

theorem covers_constant : Covers 0 constant (fun _ => 1) := by
  have number : Covers 0 number (fun _ => 0) := covers_bind (covers_fixedWidth 8) fun _ => covers_pure (by decide)
  have integer : Covers 0 integer (fun _ => 0) := covers_bind (covers_fixedWidth 8) fun _ => covers_pure (by decide)
  apply covers_bind covers_byte
  intro tag
  dsimp only
  split
  · exact covers_pure (Nat.le_refl 1)
  · exact covers_pure (Nat.le_refl 1)
  · apply covers_ite
    · exact covers_pass number fun _ => covers_pure (Nat.le_refl 1)
    · exact covers_pass integer fun _ => covers_pure (Nat.le_refl 1)
  · exact covers_bind covers_string fun _ => covers_pure (by decide)
  · exact covers_fail

theorem covers_instruction : Covers 0 instruction (fun _ => 1) :=
  covers_bind (covers_fixedWidth 4) fun _ => covers_pure (by decide)

theorem covers_line : Covers 0 line (fun _ => 1) :=
  covers_bind covers_byte fun _ => covers_pure (Nat.le_refl 1)

theorem covers_debug :
    Covers 0 (debug false) (fun debug => debug.lineInfo.length + debug.absLineInfo.length + debug.locals.length +
      debug.upvalueNames.length) := by
  apply covers_bind (covers_counted (covers_times_length covers_line))
  intro lineInfo
  apply covers_bind (covers_counted (covers_times_length covers_absLine))
  intro absLineInfo
  apply covers_bind (covers_counted (covers_times_length covers_localVariable))
  intro locals
  apply covers_bind (covers_counted (covers_times_length covers_string))
  intro upvalueNames
  apply covers_pure
  dsimp only
  omega

theorem covers_prototypeWithin (depth : Nat) (parent : Option String) :
    Covers 0 (prototypeWithin false depth parent) (fun tree => 1 + tree.bulk Function.entryCount) := by
  induction depth generalizing parent with
  | zero => exact covers_fail
  | succ depth ih =>
    apply covers_bind (covers_noted covers_string)
    intro own
    apply covers_bind (covers_noted covers_size)
    intro lineDefined
    apply covers_bind (covers_noted covers_size)
    intro lastLineDefined
    apply covers_bind (covers_noted covers_byte)
    intro paramCount
    apply covers_bind (covers_noted covers_byte)
    intro varargFlag
    apply covers_bind (covers_noted covers_byte)
    intro maxStackSize
    apply covers_bind (covers_noted (covers_counted (covers_times_length covers_instruction)))
    intro code
    apply covers_bind (covers_noted (covers_counted (covers_times_length covers_constant)))
    intro constants
    apply covers_bind (covers_noted (covers_counted (covers_times_length covers_upvalue)))
    intro upvalues
    apply covers_bind (covers_noted covers_size)
    intro innerCount
    apply covers_bind (covers_forest (ih _) innerCount.1)
    intro inner
    apply covers_bind (covers_noted covers_debug)
    intro debug
    apply covers_pure
    simp only [Tree.bulk, Function.entryCount]
    omega

theorem covers_plain : Covers 0 (chunk false) (fun chunk => chunk.main.bulk Function.entryCount) := by
  apply covers_pass (covers_of_yields fun _ => yields_header)
  intro header
  apply covers_bind covers_byte
  intro upvalueCount
  apply covers_pass covers_say
  intro _
  apply covers_bind (covers_nested fun depth => covers_prototypeWithin depth (some ""))
  intro main
  apply covers_pure
  dsimp only
  omega

-- The bytes that are kept are the only difference, and they are no entries.
theorem covers_chunk (record : Bool) : Covers 0 (chunk record) (fun chunk => chunk.main.bulk Function.entryCount) := by
  cases record with
  | false => exact covers_plain
  | true =>
    intro input found after ran
    cases abreast_chunk input with
    | inr failed =>
      obtain ⟨fault, last, failed, _⟩ := failed
      rw [failed] at ran
      cases ran
    | inl both =>
      obtain ⟨first, value, _, last, ranFirst, plain, _, _, same, _⟩ := both
      obtain ⟨rfl, rfl⟩ : first = found ∧ last = after := by simpa using ranFirst.symm.trans ran
      have alike : bare first.main = bare value.main := congrArg Chunk.main same
      have weighed := covers_plain input value last plain
      show first.main.bulk Function.entryCount + _ ≤ _
      rwa [← bulk_bare, alike, bulk_bare]

end Read

end LuaBytecode.V54
