import LuaBytecode.Proofs.Extent
import LuaBytecode.Proofs.Tree
/-!
What is read weighs no more than the bytes it was read from. A count in the input may be as large as
it likes: every entry that it stands for has to be paid for with a byte of its own.
-/
namespace LuaBytecode

namespace Tree

variable {α β : Type}

mutual
-- All functions, the entries that they have, and the places in their lists of inner functions.
def bulk (entries : α → Nat) : Tree α → Nat
  | node top inner => 1 + entries top + inner.length + bulkForest entries inner
def bulkForest (entries : α → Nat) : List (Tree α) → Nat
  | [] => 0
  | tree :: forest => bulk entries tree + bulkForest entries forest
end

mutual
theorem bulk_map (entries : β → Nat) (f : α → β) (tree : Tree α) :
    (tree.map f).bulk entries = tree.bulk fun each => entries (f each) := by
  cases tree with
  | node top inner =>
    have count : (mapForest f inner).length = inner.length := by rw [mapForest_eq, List.length_map]
    rw [map, bulk, bulk, bulkForest_map entries f inner, count]
theorem bulkForest_map (entries : β → Nat) (f : α → β) (forest : List (Tree α)) :
    bulkForest entries (mapForest f forest) = bulkForest (fun each => entries (f each)) forest := by
  cases forest with
  | nil => rfl
  | cons tree forest => rw [mapForest, bulkForest, bulkForest, bulk_map entries f tree, bulkForest_map entries f forest]
end

end Tree

namespace Reader

variable {α β : Type} {credit : Nat}

structure Ensures (reader : Reader α) (holds : α → Prop) : Prop where
  found : ∀ (input : Input) (value : α) (after : Input), reader input = (.ok value, after) → holds value

theorem ensures_pure {value : α} {holds : α → Prop} (held : holds value) : Ensures (pure value) holds where
  found input found after ran := by
    cases ran
    exact held

theorem ensures_fail {fault : Fault} {holds : α → Prop} : Ensures (fail fault) holds where
  found input found after ran := by cases ran

theorem ensures_any {reader : Reader α} : Ensures reader (fun _ => True) := ⟨fun _ _ _ _ => trivial⟩

theorem ensures_bind {first : Reader α} {next : α → Reader β} {middle : α → Prop} {holds : β → Prop}
    (head : Ensures first middle) (tail : ∀ value, middle value → Ensures (next value) holds) :
    Ensures (first >>= next) holds where
  found input result after ran := by
    obtain ⟨value, between, outcome, ran'⟩ := ok_of_bind ran
    exact (tail value (head.found input value between outcome)).found between result after ran'

theorem ensures_skip {first : Reader α} {next : α → Reader β} {holds : β → Prop}
    (tail : ∀ value, Ensures (next value) holds) : Ensures (first >>= next) holds :=
  ensures_bind ensures_any fun value _ => tail value

theorem ensures_of_yields {reader : Reader α} {holds : α → Prop}
    (known : ∀ limit, Yields limit reader (fun value _ => holds value)) : Ensures reader holds where
  found input value after ran := by
    obtain ⟨_, _, _, held⟩ := known input.rest.length input value after (Nat.le_refl _) ran
    exact held

theorem ensures_withSpan {reader : Reader α} {holds : α → Prop} (known : Ensures reader holds) :
    Ensures (withSpan reader) (fun found => holds found.1) where
  found input result after ran := by
    rw [withSpan] at ran
    split at ran
    · rename_i value _ outcome
      cases ran
      exact known.found input value after outcome
    · cases ran

theorem ensures_times {reader : Reader α} {holds : α → Prop} (each : Ensures reader holds) (count : Nat) :
    Ensures (times count reader) (fun found => found.length = count ∧ ∀ value ∈ found, holds value) := by
  induction count with
  | zero => exact ensures_pure ⟨rfl, by simp⟩
  | succ count ih =>
    apply ensures_bind each
    intro head headHeld
    apply ensures_bind ih
    intro tail tailHeld
    apply ensures_pure
    refine ⟨by rw [List.length_cons, tailHeld.1], ?_⟩
    intro value member
    cases List.mem_cons.mp member with
    | inl same => exact same ▸ headHeld
    | inr later => exact tailHeld.2 value later

theorem ensures_nested {reader : (depth : Nat) → Reader α} {holds : α → Prop}
    (known : ∀ depth, Ensures (reader depth) holds) : Ensures (nested reader) holds where
  found input := (known (input.rest.length + 1)).found input

-- The weight of what is read is covered by the bytes passed over and by those put by before.
def Covers (credit : Nat) (reader : Reader α) (weight : α → Nat) : Prop :=
  ∀ (input : Input) (value : α) (after : Input), reader input = (.ok value, after) →
    weight value + after.rest.length ≤ credit + input.rest.length

theorem covers_pure {value : α} {weight : α → Nat} (enough : weight value ≤ credit) :
    Covers credit (pure value) weight := by
  intro input found after ran
  cases ran
  exact Nat.add_le_add_right enough _

theorem covers_idle {value : α} : Covers 0 (pure value) (fun _ => 0) := covers_pure (Nat.le_refl 0)

theorem covers_fail {fault : Fault} {weight : α → Nat} : Covers credit (fail fault) weight := by
  intro input found after ran
  cases ran

theorem covers_spend {first : Reader α} {next : α → Reader β} {own : α → Nat} {weight : β → Nat}
    (head : Covers credit first own) (tail : ∀ value, Covers (own value) (next value) weight) :
    Covers credit (first >>= next) weight := by
  intro input result after ran
  obtain ⟨value, between, outcome, ran'⟩ := ok_of_bind ran
  have before := head input value between outcome
  have behind := tail value between result after ran'
  omega

theorem covers_bind {first : Reader α} {next : α → Reader β} {own : α → Nat} {weight : β → Nat}
    (head : Covers 0 first own) (tail : ∀ value, Covers (own value + credit) (next value) weight) :
    Covers credit (first >>= next) weight := by
  have saved : Covers credit first (fun value => own value + credit) := by
    intro input value after ran
    have enough := head input value after ran
    show own value + credit + _ ≤ _
    omega
  exact covers_spend saved tail

theorem covers_pass {first : Reader α} {next : α → Reader β} {weight : β → Nat}
    (head : Covers 0 first (fun _ => 0)) (tail : ∀ value, Covers credit (next value) weight) :
    Covers credit (first >>= next) weight := by
  apply covers_bind head
  intro value
  rw [Nat.zero_add]
  exact tail value

theorem covers_bind_of_ensures {first : Reader α} {next : α → Reader β} {known : α → Prop} {own : α → Nat}
    {weight : β → Nat} (gives : Ensures first known) (head : Covers 0 first own)
    (tail : ∀ value, known value → Covers (own value + credit) (next value) weight) :
    Covers credit (first >>= next) weight := by
  intro input result after ran
  obtain ⟨value, between, outcome, ran'⟩ := ok_of_bind ran
  have before := head input value between outcome
  have behind := tail value (gives.found input value between outcome) between result after ran'
  omega

theorem covers_mono {reader : Reader α} {strong weak : α → Nat} (known : Covers credit reader strong)
    (less : ∀ value, weak value ≤ strong value) : Covers credit reader weak := by
  intro input value after ran
  have enough := known input value after ran
  have lighter := less value
  omega

theorem covers_of_le {reader : Reader α} {weight : α → Nat} {less : Nat} (known : Covers less reader weight)
    (enough : less ≤ credit) : Covers credit reader weight := by
  intro input value after ran
  have covered := known input value after ran
  omega

theorem covers_ite {condition : Prop} [Decidable condition] {one other : Reader α} {weight : α → Nat}
    (met : Covers credit one weight) (unmet : Covers credit other weight) :
    Covers credit (if condition then one else other) weight := by
  by_cases decided : condition
  · simpa only [if_pos decided] using met
  · simpa only [if_neg decided] using unmet

theorem covers_choice {condition : Prop} [Decidable condition] {one other : Reader α} {next : α → Reader β}
    {own : α → Nat} {weight : β → Nat} (met : Covers 0 one own) (unmet : Covers 0 other own)
    (tail : ∀ value, Covers (own value + credit) (next value) weight) :
    Covers credit (if condition then one >>= next else other >>= next) weight :=
  covers_ite (covers_bind met tail) (covers_bind unmet tail)

theorem covers_of_span {reader : Reader α} {holds : α → Bytes → Prop} {weight : α → Nat}
    (known : ∀ limit, Yields limit reader holds) (enough : ∀ value span, holds value span → weight value ≤ span.length) :
    Covers 0 reader weight := by
  intro input value after ran
  obtain ⟨span, start, _, held⟩ := known input.rest.length input value after (Nat.le_refl _) ran
  have covered := enough value span held
  rw [start, List.length_append]
  omega

theorem covers_of_yields {reader : Reader α} {holds : α → Bytes → Prop}
    (known : ∀ limit, Yields limit reader holds) : Covers 0 reader (fun _ => 0) :=
  covers_of_span known fun _ span _ => Nat.zero_le span.length

theorem covers_ofExcept {result : Except Fault α} {weight : Nat} (enough : weight ≤ credit) :
    Covers credit (ofExcept result) (fun _ => weight) := by
  cases result with
  | ok value => exact covers_pure enough
  | error fault => exact covers_fail

theorem covers_require {condition : Bool} {fault : Fault} : Covers 0 (require condition fault) (fun _ => 0) :=
  covers_ite covers_idle covers_fail

theorem covers_say {text : String} : Covers 0 (say text) (fun _ => 0) := by
  intro input value after ran
  cases ran
  simp

theorem covers_layout : Covers 0 layout (fun _ => 0) := by
  intro input value after ran
  cases ran
  simp

theorem covers_take {count : Nat} {short : Input → Fault} : Covers 0 (take count short) List.length := by
  intro input taken after ran
  obtain ⟨start, _, _⟩ := take_of_ok ran
  rw [start, List.length_append]
  omega

theorem covers_take_count {count : Nat} {short : Input → Fault} : Covers 0 (take count short) (fun _ => count) := by
  intro input taken after ran
  obtain ⟨start, exactly, _⟩ := take_of_ok ran
  have total : input.rest.length = count + after.rest.length := by rw [start, List.length_append, exactly]
  show count + after.rest.length ≤ 0 + input.rest.length
  omega

theorem covers_boundedByte : Covers 0 boundedByte (fun _ => 1) :=
  covers_bind covers_take_count fun _ => covers_pure (Nat.le_refl 1)

theorem covers_takeUpTo {count : Nat} : Covers 0 (takeUpTo count) List.length := by
  intro input taken after ran
  cases ran
  simp only [List.length_take, List.length_drop]
  omega

theorem covers_fixed {order : ByteOrder} {width : Nat} {bytes : Bytes} :
    Covers bytes.length (fixed order width bytes) (fun _ => width) := by
  by_cases exactly : bytes.length = width
  · rw [fixed, if_pos exactly]
    exact covers_pure (Nat.le_of_eq exactly.symm)
  · rw [fixed, if_neg exactly]
    exact covers_fail

theorem scan_shorter {σ : Type} {step : σ → UInt8 → σ ⊕ Except Fault α} {short : Fault} {state : σ}
    {bytes rest : Bytes} {pos stop : Nat} {value : α} (ran : scan step short state bytes pos = (.ok value, stop, rest)) :
    rest.length < bytes.length := by
  induction bytes generalizing state pos with
  | nil => simp [scan] at ran
  | cons byte bytes ih =>
    rw [scan] at ran
    cases stepped : step state byte with
    | inr result =>
      simp only [stepped, Prod.mk.injEq] at ran
      simp [ran.2.2]
    | inl next =>
      rw [stepped] at ran
      exact Nat.lt_succ_of_lt (ih ran)

theorem covers_scanning {σ : Type} {step : σ → UInt8 → σ ⊕ Except Fault α} {short : Fault} {state : σ} :
    Covers 0 (scanning step short state) (fun _ => 1) := by
  intro input value after ran
  simp only [scanning, Prod.mk.injEq] at ran
  obtain ⟨result, reached⟩ := ran
  have shorter := scan_shorter
    (Prod.ext result (Prod.ext rfl rfl) : scan step short state input.rest input.pos = (.ok value, _, _))
  subst reached
  simp only
  omega

theorem covers_times {reader : Reader α} {own : α → Nat} {weight : List α → Nat} (each : Covers 0 reader own)
    (none : weight [] = 0) (more : ∀ head tail, weight (head :: tail) ≤ own head + weight tail) (count : Nat) :
    Covers 0 (times count reader) weight := by
  induction count with
  | zero => exact covers_pure (Nat.le_of_eq none)
  | succ count ih =>
    apply covers_bind each
    intro head
    apply covers_bind ih
    intro tail
    apply covers_pure
    have built := more head tail
    omega

theorem covers_times_length {reader : Reader α} (each : Covers 0 reader (fun _ => 1)) (count : Nat) :
    Covers 0 (times count reader) List.length :=
  covers_times each rfl (fun _ tail => by simp [Nat.add_comm]) count

theorem covers_forest {reader : Reader (Tree α)} {entries : α → Nat}
    (each : Covers 0 reader (fun tree => 1 + tree.bulk entries)) (count : Nat) :
    Covers 0 (times count reader) (fun inner => inner.length + Tree.bulkForest entries inner) := by
  apply covers_times each rfl
  intro head tail
  simp only [List.length_cons, Tree.bulkForest]
  omega

theorem covers_nested {reader : (depth : Nat) → Reader α} {weight : α → Nat}
    (known : ∀ depth, Covers credit (reader depth) weight) : Covers credit (nested reader) weight :=
  fun input => known (input.rest.length + 1) input

end Reader

end LuaBytecode
