import LuaBytecode.Proofs.Extent
/-!
Readers that are put together from parts. A law that goes from the parts to the whole needs to be shown of the parts
only, and a reader needs to be taken apart only once, whatever laws it has.
-/
namespace LuaBytecode.Reader

-- Where readers nest, it is known that going deeper makes no difference.
structure Law (holds : {α : Type} → Reader α → Prop) : Prop where
  pure : ∀ {α : Type} {value : α}, holds (Pure.pure value : Reader α)
  fail : ∀ {α : Type} {fault : Fault}, holds (Reader.fail fault : Reader α)
  bind : ∀ {α β : Type} {first : Reader α} {next : α → Reader β}, holds first → (∀ value, holds (next value)) →
    holds (first >>= next)
  nested : ∀ {α : Type} {reader : (depth : Nat) → Reader α},
    (∀ depth, Agree depth (reader depth) (reader (depth + 1))) → (∀ depth, holds (reader depth)) →
    holds (Reader.nested reader)

namespace Law

variable {α β : Type} {holds : {α : Type} → Reader α → Prop}

theorem ite (_ : Law holds) {condition : Prop} [Decidable condition] {one other : Reader α} (met : holds one)
    (unmet : holds other) : holds (if condition then one else other) := by
  split
  · exact met
  · exact unmet

variable (law : Law holds)

include law

theorem choice {condition : Prop} [Decidable condition] {one other : Reader α} {next : α → Reader β} (met : holds one)
    (unmet : holds other) (tail : ∀ value, holds (next value)) :
    holds (if condition then one >>= next else other >>= next) :=
  law.ite (law.bind met tail) (law.bind unmet tail)

theorem aside {condition : Prop} [Decidable condition] {first : Reader Unit} {next : Reader α} (met : holds first)
    (known : holds next) : holds (if condition then first >>= fun _ => next else next) :=
  law.ite (law.bind met fun _ => known) known

theorem require {condition : Bool} {fault : Fault} : holds (Reader.require condition fault) := law.ite law.pure law.fail

theorem ofExcept {result : Except Fault α} : holds (Reader.ofExcept result) := by
  cases result with
  | ok value => exact law.pure
  | error fault => exact law.fail

theorem fixed {order : ByteOrder} {width : Nat} {bytes : Bytes} : holds (Reader.fixed order width bytes) :=
  law.ite law.pure law.fail

theorem times {reader : Reader α} (each : holds reader) (count : Nat) : holds (Reader.times count reader) := by
  induction count with
  | zero => exact law.pure
  | succ count ih => exact law.bind each fun _ => law.bind ih fun _ => law.pure

theorem timesInt {reader : Reader α} (each : holds reader) (count : Int) : holds (Reader.timesInt count reader) :=
  law.times each count.toNat

end Law

inductive Composed (part : {α : Type} → Reader α → Prop) : {α : Type} → Reader α → Prop
  | part {α : Type} {reader : Reader α} : part reader → Composed part reader
  | pure {α : Type} {value : α} : Composed part (Pure.pure value)
  | fail {α : Type} {fault : Fault} : Composed part (Reader.fail fault : Reader α)
  | bind {α β : Type} {first : Reader α} {next : α → Reader β} : Composed part first →
      (∀ value, Composed part (next value)) → Composed part (first >>= next)
  | nested {α : Type} {reader : (depth : Nat) → Reader α} :
      (∀ depth, Agree depth (reader depth) (reader (depth + 1))) → (∀ depth, Composed part (reader depth)) →
      Composed part (Reader.nested reader)

section composed

variable {α : Type} {part holds : {α : Type} → Reader α → Prop}

theorem composed : Law (Composed part) := ⟨.pure, .fail, .bind, .nested⟩

theorem Composed.satisfies {reader : Reader α} (known : Composed part reader) (law : Law holds)
    (parts : ∀ {β : Type} {each : Reader β}, part each → holds each) : holds reader := by
  induction known with
  | part each => exact parts each
  | pure => exact law.pure
  | fail => exact law.fail
  | bind _ _ head tail => exact law.bind head tail
  | nested deeper _ each => exact law.nested deeper each

end composed

variable {α : Type} {tells : Nat → Fault → Prop}

theorem settledLaw : Law (Settled tells) := ⟨settled_pure, settled_fail, settled_bind, settled_nested⟩

inductive Basic (tells : Nat → Fault → Prop) : {α : Type} → Reader α → Prop
  | take {count : Nat} {short : Input → Fault} :
      (∀ input : Input, input.rest.length < count → tells input.total (short input)) →
      Basic tells (Reader.take count short)
  | layout : Basic tells Reader.layout
  | setLayout {found : Layout} : Basic tells (Reader.setLayout found)
  | say {text : String} : Basic tells (Reader.say text)

theorem composed_take {count : Nat} {short : Input → Fault}
    (told : ∀ input : Input, input.rest.length < count → tells input.total (short input)) :
    Composed (Basic tells) (take count short) :=
  .part (.take told)

theorem composed_layout : Composed (Basic tells) Reader.layout := .part .layout

theorem composed_sayLine {text : String} : Composed (Basic tells) (sayLine text) := .part .say

theorem composed_change {change : Layout → Layout} {next : Unit → Reader α} (tail : Composed (Basic tells) (next ())) :
    Composed (Basic tells) (Reader.layout >>= fun found => setLayout (change found) >>= next) :=
  .bind composed_layout fun _ => .bind (.part .setLayout) fun _ => tail

theorem Composed.settled {reader : Reader α} (known : Composed (Basic tells) reader) : Settled tells reader := by
  apply known.satisfies settledLaw
  intro β each part
  cases part with
  | take told => exact settled_take told
  | layout => exact settled_layout
  | setLayout => exact settled_setLayout
  | say => exact settled_say

theorem Composed.yields {reader : Reader α} {limit : Nat} (known : Composed (Basic tells) reader) :
    Yields limit reader (fun _ _ => True) :=
  yields_of_settled known.settled

theorem composed_bounded {count : Nat} : Composed (Basic BeyondEnd) (bounded count) := by
  apply composed_take
  intro input fewer
  refine ⟨input.pos, count, rfl, ?_, ?_⟩
  · exact Nat.le_add_right input.pos input.rest.length
  · unfold Input.total
    omega

theorem composed_boundedByte : Composed (Basic BeyondEnd) boundedByte := .bind composed_bounded fun _ => .pure

end LuaBytecode.Reader
