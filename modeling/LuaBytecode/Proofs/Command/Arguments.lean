import LuaBytecode.Command.Arguments

namespace LuaBytecode.Command

variable {grammar : Grammar}

def Grammar.IsPlain (grammar : Grammar) (text : String) : Prop := grammar.token text = .ok (.plain text)

theorem Grammar.similar_cases {word : List Char} {token : Token} (known : grammar.similar word = .ok (some token)) :
    ∃ flag isShort attached, token = .flag flag isShort attached := by
  unfold similar at known
  split at known
  · dsimp only at known
    split at known
    · cases known
    · cases known
      exact ⟨_, _, _, rfl⟩
    · cases known
  · simp only [Except.ok.injEq, Option.map_eq_some_iff] at known
    obtain ⟨flag, _, rfl⟩ := known
    exact ⟨_, _, _, rfl⟩
  · cases known

theorem Grammar.token_cases {text : String} {token : Token} (known : grammar.token text = .ok token) :
    token = .plain text ∨ token = .unknown text ∨ ∃ flag isShort attached, token = .flag flag isShort attached := by
  unfold Grammar.token at known
  dsimp only at known
  split at known
  · split at known
    · cases known
      exact .inr (.inr ⟨_, _, _, rfl⟩)
    · split at known
      · cases known
        exact .inr (.inr ⟨_, _, _, rfl⟩)
      · split at known
        · cases known
        · rename_i similar
          cases known
          exact .inr (.inr (Grammar.similar_cases similar))
        · split at known
          · cases known
            exact .inl rfl
          · cases known
            exact .inr (.inl rfl)
  · cases known
    exact .inl rfl

structure Group.Modest (group : Group) : Prop where
  taken : group.taken = 0
  single : ∀ each ∈ group.found, each.2.length ≤ 1

theorem Flag.takeValues_modest {flag front : Flag} {isShort : Bool} {attached : Option Attachment} {tokens : List Token}
    {group : Group} (known : flag.takeValues (.flag front isShort attached :: tokens) = .ok group) : group.Modest := by
  unfold takeValues at known
  cases count : flag.valueCount with
  | zero =>
    rw [count, takePlain] at known
    cases known
    exact ⟨rfl, by simp⟩
  | succ more =>
    rw [count, takePlain] at known
    · cases known
    · simp

theorem Flag.takeAttached_modest {flag : Flag} {text : List Char} {group : Group}
    (known : flag.takeAttached text = .ok group) : group.Modest := by
  unfold takeAttached at known
  split at known
  · cases known
    exact ⟨rfl, by simp⟩
  · cases known

theorem Group.behind_modest {flag : Flag} {group : Group} (modest : group.Modest) : (group.behind flag).Modest where
  taken := modest.taken
  single each member := by
    cases member with
    | head => exact Nat.zero_le 1
    | tail _ later => exact modest.single each later

theorem exists_of_map_ok {ε α β : Type} {f : α → β} {result : Except ε α} {value : β}
    (known : result.map f = .ok value) : ∃ found, result = .ok found ∧ f found = value := by
  cases result with
  | error fault => cases known
  | ok found => exact ⟨found, rfl, Except.ok.inj known⟩

theorem Grammar.group_modest {front : Flag} {isShort : Bool} {attached : Option Attachment} {tokens : List Token}
    {flag : Flag} {text : List Char} {group : Group}
    (known : grammar.group (.flag front isShort attached :: tokens) flag text = .ok group) : group.Modest := by
  induction text generalizing flag group with
  | nil => exact Flag.takeAttached_modest known
  | cons letter more ih =>
    rw [Grammar.group] at known
    split at known
    · exact Flag.takeAttached_modest known
    · split at known
      · cases known
        exact ⟨rfl, by simp⟩
      · rename_i next _
        obtain ⟨later, found, rfl⟩ := exists_of_map_ok known
        apply Group.behind_modest
        split at found
        · exact Flag.takeValues_modest found
        · exact Flag.takeAttached_modest found
        · exact ih found

theorem Grammar.groupOf_modest {front flag : Flag} {isShort isShort' : Bool} {attached attached' : Option Attachment}
    {tokens : List Token} {group : Group}
    (known : grammar.groupOf flag isShort attached (.flag front isShort' attached' :: tokens) = .ok group) :
    group.Modest := by
  unfold groupOf at known
  split at known
  · exact Flag.takeValues_modest known
  · split at known
    · exact Grammar.group_modest known
    · exact Flag.takeAttached_modest known

end LuaBytecode.Command
