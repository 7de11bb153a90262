import LuaBytecode.Proofs.Composition

namespace LuaBytecode.Reader

variable {α β : Type} {layout : Layout}

def Quiet (reader : Reader α) : Prop := ∀ input : Input, (reader input).2.said = input.said

theorem quiet_pure {value : α} : Quiet (pure value) := fun _ => rfl

theorem quiet_fail {fault : Fault} : Quiet (fail fault : Reader α) := fun _ => rfl

theorem quiet_layout : Quiet Reader.layout := fun _ => rfl

theorem quiet_atEnd : Quiet atEnd := fun _ => rfl

theorem quiet_bind {first : Reader α} {next : α → Reader β} (head : Quiet first)
    (tail : ∀ value, Quiet (next value)) : Quiet (first >>= next) := by
  intro input
  have before := head input
  cases outcome : first input with
  | mk found between =>
    rw [outcome] at before
    cases found with
    | error fault => rw [bind_of_error outcome, before]
    | ok value => rw [bind_of_ok outcome, tail value between, before]

theorem quiet_take {count : Nat} {short : Input → Fault} : Quiet (take count short) := by
  intro input
  rw [take]
  split <;> rfl

theorem quiet_scanning {σ : Type} {step : σ → UInt8 → σ ⊕ Except Fault α} {short : Fault} {state : σ} :
    Quiet (scanning step short state) := fun _ => rfl

theorem quietLaw : Law Quiet := ⟨quiet_pure, quiet_fail, quiet_bind, fun _ each input => each _ input⟩

theorem run_of_quiet {reader : Reader α} {span rest : Bytes} {value : α} {input : Input}
    (known : Consumes layout reader span (fun found => found = value)) (quiet : Quiet reader)
    (same : input.layout = layout) (start : input.rest = span ++ rest) :
    reader input = (.ok value, { input with pos := input.pos + span.length, rest }) := by
  obtain ⟨_, after, ran, kept, pos, left, rfl⟩ := known input rest same start
  have said := quiet input
  rw [ran] at said
  rw [ran]
  cases after
  simp_all

end LuaBytecode.Reader
