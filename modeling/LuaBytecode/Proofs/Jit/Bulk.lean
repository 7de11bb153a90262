import LuaBytecode.Proofs.Bulk
import LuaBytecode.Proofs.Jit.Truncation

namespace LuaBytecode.Jit

def Table.itemCount (table : Table) : Nat := table.array.length + table.hash.length

def Collectable.itemCount : Collectable → Nat
  | .table found => found.itemCount
  | _ => 0

def Collectable.bulk : List Collectable → Nat
  | [] => 0
  | first :: rest => 1 + first.itemCount + bulk rest

def Prototype.entryCount (prototype : Prototype) : Nat :=
  prototype.code.length + prototype.upvalueData.length + Collectable.bulk prototype.collectables +
    prototype.numbers.length + prototype.lineInfo.length + prototype.upvalueNames.length +
    prototype.variableNames.length

def Prototype.bulk : List Prototype → Nat
  | [] => 0
  | first :: rest => 1 + first.entryCount + bulk rest

namespace Read

open Reader

theorem covers_fixedWidth (width : Nat) : Covers 0 (fixedWidth width) (fun _ => width) :=
  covers_bind covers_take_count fun _ => covers_pure (Nat.le_refl width)

theorem covers_word {width : Nat} (some : 0 < width) : Covers 0 (asInt (fixedWidth width)) (fun _ => 1) :=
  covers_bind (covers_fixedWidth width) fun _ => covers_pure some

theorem covers_varint : Covers 0 varint (fun _ => 1) := covers_scanning

theorem covers_string {length : Nat} : Covers 0 (string length) (fun _ => 0) :=
  covers_of_yields fun _ => yields_of_settled (settled_of_composed composed_string)

theorem covers_terminatedString : Covers 0 terminatedString (fun _ => 1) :=
  covers_bind covers_scanning fun _ => covers_pure (Nat.le_refl 1)

theorem covers_double : Covers 0 double (fun _ => 0) :=
  covers_of_yields fun _ => yields_of_settled (settled_of_composed composed_double)

-- The tag pays for an item, whatever it says about a string behind it.
theorem covers_tableItem : Covers 0 tableItem (fun _ => 1) := by
  apply covers_bind covers_varint
  intro tag
  split
  · exact covers_pure (Nat.le_refl 1)
  · exact covers_pure (Nat.le_refl 1)
  · exact covers_pure (Nat.le_refl 1)
  · exact covers_bind covers_varint fun _ => covers_pure (by decide)
  · exact covers_pass covers_double fun _ => covers_pure (Nat.le_refl 1)
  · exact covers_pass covers_string fun _ => covers_pure (Nat.le_refl 1)

theorem covers_tablePair : Covers 0 tablePair (fun _ => 1) := by
  apply covers_bind covers_tableItem
  intro key
  exact covers_bind covers_tableItem fun _ => covers_pure (by decide)

theorem covers_table : Covers 0 table Table.itemCount := by
  apply covers_bind covers_varint
  intro arrayCount
  apply covers_bind covers_varint
  intro hashCount
  apply covers_bind (covers_times_length covers_tableItem arrayCount)
  intro array
  apply covers_bind (covers_times_length covers_tablePair hashCount)
  intro hash
  apply covers_pure
  simp only [Table.itemCount]
  omega

theorem covers_collectable : Covers 0 collectable (fun found => 1 + found.itemCount) := by
  apply covers_bind covers_varint
  intro tag
  split
  · exact covers_pure (Nat.le_refl 1)
  · apply covers_bind covers_table
    intro table
    apply covers_pure
    rw [Collectable.itemCount]
    omega
  · exact covers_bind covers_varint fun _ => covers_bind covers_varint fun _ => covers_pure (Nat.le_add_right 1 2)
  · exact covers_bind covers_varint fun _ => covers_bind covers_varint fun _ => covers_pure (Nat.le_add_right 1 2)
  · apply covers_bind covers_varint
    intro realLow
    apply covers_bind covers_varint
    intro realHigh
    apply covers_bind covers_varint
    intro imaginaryLow
    apply covers_bind covers_varint
    intro imaginaryHigh
    apply covers_pass (covers_ofExcept (Nat.le_refl 0))
    intro real
    exact covers_pass (covers_ofExcept (Nat.le_refl 0)) fun _ => covers_pure (Nat.le_add_right 1 4)
  · exact covers_pass covers_string fun _ => covers_pure (Nat.le_refl 1)

theorem covers_taggedVarint : Covers 0 taggedVarint (fun _ => 1) := by
  have groups : ∀ start, Covers 0 (scanning lowStep .taggedVarintEnd start) (fun _ => 0) :=
    fun _ => covers_mono covers_scanning fun _ => Nat.zero_le 1
  have high : Covers 0 varint (fun _ => 0) := covers_mono covers_varint fun _ => Nat.zero_le 1
  apply covers_bind covers_take_count
  intro taken
  apply covers_choice (groups _) covers_idle
  intro low
  exact covers_choice high covers_idle fun _ => covers_pure (by decide)

theorem covers_number : Covers 0 number (fun _ => 1) := by
  apply covers_bind covers_taggedVarint
  intro found
  apply covers_ite
  · exact covers_pass (covers_ofExcept (Nat.le_refl 0)) fun _ => covers_pure (Nat.le_refl 1)
  · exact covers_pure (Nat.le_refl 1)

theorem covers_variableNames (fuel : Nat) : Covers 0 (variableNames fuel) List.length := by
  induction fuel with
  | zero => exact covers_pure (Nat.le_refl 0)
  | succ fuel ih =>
    apply covers_pass (covers_of_yields fun _ => yields_atEnd)
    intro ended
    have done : ∀ {credit}, Covers credit (pure []) (List.length : List String → Nat) := covers_pure (Nat.zero_le _)
    apply covers_ite done
    apply covers_bind (covers_fixedWidth 1)
    intro kind
    apply covers_ite done
    have named : Covers 0 terminatedString (fun _ => 0) := covers_mono covers_terminatedString fun _ => Nat.zero_le 1
    apply covers_choice named covers_idle
    intro name
    apply covers_bind covers_varint
    intro _
    apply covers_bind covers_varint
    intro _
    apply covers_bind ih
    intro names
    apply covers_pure
    rw [List.length_cons]
    omega

def Debug.entryCount (debug : Debug) : Nat :=
  debug.lineInfo.length + debug.upvalueNames.length + debug.variableNames.length

theorem covers_debug {codeCount upvalueCount lineCount : Nat} :
    Covers 0 (debug codeCount upvalueCount lineCount) Debug.entryCount := by
  have width : 0 < lineWidth lineCount := by
    unfold lineWidth
    split
    · decide
    · split <;> decide
  have none : Covers 0 (pure []) (List.length : List Int → Nat) := covers_pure (Nat.le_refl 0)
  apply covers_choice none (covers_times_length (covers_word width) codeCount)
  intro lineInfo
  apply covers_bind (covers_times_length covers_terminatedString upvalueCount)
  intro upvalueNames
  apply covers_bind (covers_nested covers_variableNames)
  intro names
  apply covers_pure
  simp only [Debug.entryCount]
  omega

theorem covers_body (size : Nat) : Covers 0 (body size) (fun found => 1 + found.entryCount) := by
  have counts : Covers 0 varint (fun _ => 0) := covers_mono covers_varint fun _ => Nat.zero_le 1
  apply covers_bind (covers_fixedWidth 1)
  intro flags
  apply covers_bind (covers_fixedWidth 1)
  intro paramCount
  apply covers_bind (covers_fixedWidth 1)
  intro frameSize
  apply covers_bind (covers_fixedWidth 1)
  intro upvalueCount
  apply covers_pass counts
  intro collectableCount
  apply covers_pass counts
  intro numberCount
  apply covers_pass counts
  intro codeCount
  apply covers_pass covers_layout
  intro found
  apply covers_choice covers_idle counts
  intro debugSize
  apply covers_choice covers_idle counts
  intro firstLine
  apply covers_choice covers_idle counts
  intro lineCount
  apply covers_bind (covers_times_length (covers_word (by decide)) codeCount)
  intro code
  apply covers_bind (covers_times_length (covers_word (by decide)) upvalueCount)
  intro upvalueData
  have items : Covers 0 (times collectableCount collectable) Collectable.bulk :=
    covers_times covers_collectable rfl (fun _ _ => Nat.le_refl _) collectableCount
  apply covers_bind items
  intro collectables
  apply covers_bind (covers_times_length covers_number numberCount)
  intro numbers
  have none : Covers 0 (pure {}) Debug.entryCount := covers_pure (Nat.le_refl 0)
  apply covers_choice none covers_debug
  intro debug
  apply covers_pure
  simp only [Prototype.entryCount, Debug.entryCount]
  omega

-- A prototype of size zero ends the list and is not in it.
theorem covers_prototype : Covers 0 prototype (fun found => if found.size = 0 then 0 else 1 + found.entryCount) := by
  apply covers_bind covers_varint
  intro size
  apply covers_ite
  · exact covers_pure (Nat.zero_le _)
  · apply covers_of_le (covers_mono (covers_body size) ?_) (Nat.zero_le _)
    intro found
    split
    · exact Nat.zero_le _
    · exact Nat.le_refl _

theorem bulk_prototypes {fuel : Nat} {input after : Input} {found : List Prototype}
    (ran : prototypes fuel input = (.ok found, after)) : Prototype.bulk found ≤ input.rest.length := by
  induction fuel generalizing input found with
  | zero =>
    cases ran
    exact Nat.zero_le _
  | succ fuel ih =>
    by_cases none : input.rest = []
    · rw [prototypes_of_nil none] at ran
      cases ran
      exact Nat.zero_le _
    cases outcome : prototype input with
    | mk result between =>
      cases result with
      | error fault =>
        rw [prototypes_of_error none outcome] at ran
        cases ran
        exact Nat.zero_le _
      | ok first =>
        rw [prototypes_succ none outcome] at ran
        have weighed := covers_prototype input first between outcome
        by_cases blank : first.size = 0
        · rw [if_pos blank] at ran
          cases ran
          exact Nat.zero_le _
        · rw [if_neg blank] at ran
          obtain ⟨others, last, later, done⟩ := ok_of_bind ran
          cases done
          have behind := ih later
          simp only [if_neg blank] at weighed
          rw [Prototype.bulk]
          omega

end Read

end LuaBytecode.Jit
