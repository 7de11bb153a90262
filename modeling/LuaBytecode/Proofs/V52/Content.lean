import LuaBytecode.Proofs.Bulk
import LuaBytecode.Proofs.V52.RoundTrip

namespace LuaBytecode.V52

def IsHeld : Constant → Prop
  | .int n => ∃ value : Double, value.trunc? = some n
  | .emptyList => False
  | _ => True

structure Function.IsRead (function : Function) : Prop where
  constants : ∀ constant ∈ function.constants, IsHeld constant
  named : NamedBy function.upvalueNames function.upvalues
  numbered : Numbered function.code

namespace Read

open Reader

theorem ensures_counted {α : Type} {reader : Reader α} {holds : α → Prop} (known : Ensures reader holds) :
    Ensures (counted reader) (fun found => ∀ value ∈ found, holds value) := by
  apply ensures_skip
  intro count
  exact ⟨fun input found after ran => ((ensures_times known count).found input found after ran).2⟩

theorem trunc?_of_whole {value : Double} {n : Int} (converted : whole value = .ok n) : value.trunc? = some n := by
  unfold whole at converted
  split at converted
  · rename_i found
    rw [found, Except.ok.inj converted]
  · cases converted

theorem ensures_constant : Ensures constant IsHeld := by
  apply ensures_skip
  intro tag
  split
  · exact ensures_pure trivial
  · exact ensures_skip fun flag => ensures_pure trivial
  · exact ensures_skip fun value => ensures_pure trivial
  · apply ensures_skip
    intro value
    apply ensures_bind (ensures_of_yields fun _ => yields_mono yields_ofExcept fun _ _ known => known.1)
    intro n converted
    exact ensures_pure ⟨value, trunc?_of_whole converted⟩
  · exact ensures_skip fun text => ensures_pure trivial
  · exact ensures_skip fun text => ensures_pure trivial
  · exact ensures_fail

theorem ensures_upvalue : Ensures upvalue (fun found => found.name = "") := by
  apply ensures_skip
  intro inStack
  exact ensures_skip fun index => ensures_pure rfl

theorem ensures_code : Ensures code Numbered := ensures_skip fun decoded => ensures_pure (numbered_place decoded)

theorem ensures_prototypeWithin (depth : Nat) :
    Ensures (prototypeWithin depth) (fun tree => ∀ function ∈ tree.toList, function.IsRead) := by
  induction depth with
  | zero => exact ensures_fail
  | succ depth ih =>
    apply ensures_skip; intro lineDefined
    apply ensures_skip; intro lastLineDefined
    apply ensures_skip; intro paramCount
    apply ensures_skip; intro varargFlag
    apply ensures_skip; intro maxStackSize
    apply ensures_bind ensures_code
    intro code numbered
    apply ensures_bind (ensures_counted ensures_constant)
    intro constants held
    apply ensures_bind (ensures_counted ih)
    intro inner within
    apply ensures_bind (ensures_counted ensures_upvalue)
    intro upvalues unnamed
    apply ensures_skip; intro source
    apply ensures_skip; intro lineInfo
    apply ensures_skip; intro locals
    apply ensures_skip; intro upvalueNames
    apply ensures_pure
    intro function member
    rw [Tree.toList, List.mem_cons, Tree.mem_listOfForest] at member
    rcases member with rfl | ⟨tree, inside, below⟩
    · exact ⟨held, namedBy_nameUpvalues unnamed, numbered⟩
    · exact within tree inside function below

end Read

theorem isRead_of_parse {bytes : Bytes} {chunk : Chunk} {after : Input} (accepted : parse bytes = (.ok chunk, after)) :
    ∀ function ∈ chunk.main.toList, function.IsRead := by
  obtain ⟨header, between, _, ran⟩ := Reader.ok_of_bind accepted
  obtain ⟨main, _, read, done⟩ := Reader.ok_of_bind ran
  cases done
  exact (Reader.ensures_nested Read.ensures_prototypeWithin).found between main _ read

def usualHeader : Header where
  version := 0x52
  format := 0
  order := .little
  intWidth := 4
  sizeWidth := 4
  instructionWidth := 4
  numberWidth := 8
  numberFlag := 0

end LuaBytecode.V52
