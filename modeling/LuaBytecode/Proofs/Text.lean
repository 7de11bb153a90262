import LuaBytecode.Text.Layout

namespace LuaBytecode.Text

theorem toString_text (text : String) : toString text = text := rfl

theorem takeWhile_mark {mark : Char} {part : List Char} (rest : List Char) (apart : mark ∉ part) :
    (part ++ mark :: rest).takeWhile (· ≠ mark) = part := by
  have before : ∀ c ∈ part, decide (c ≠ mark) = true := by
    intro c member
    exact decide_eq_true fun same => apart (same ▸ member)
  rw [List.takeWhile_append_of_pos before, List.takeWhile_cons_of_neg (by simp), List.append_nil]

theorem append_mark_inj {mark : Char} {part other rest rest' : List Char} (apart : mark ∉ part)
    (apart' : mark ∉ other) (same : part ++ mark :: rest = other ++ mark :: rest') : part = other ∧ rest = rest' := by
  have parts : part = other := by
    rw [← takeWhile_mark rest apart, same, takeWhile_mark rest' apart']
  subst parts
  exact ⟨rfl, (List.cons.inj (List.append_cancel_left same)).2⟩

def spaced (words : List String) : List Char := words.flatMap fun word => word.toList ++ [' ']

def IsWord (text : String) : Prop := ' ' ∉ text.toList

theorem spaced_inj {words others : List String} {rest rest' : List Char} (plain : ∀ word ∈ words, IsWord word)
    (plain' : ∀ word ∈ others, IsWord word) (count : words.length = others.length)
    (same : spaced words ++ rest = spaced others ++ rest') : words = others := by
  induction words generalizing others with
  | nil => exact (List.eq_nil_of_length_eq_zero count.symm).symm
  | cons word words ih =>
    cases others with
    | nil => cases count
    | cons other others =>
      simp only [spaced, List.flatMap_cons, List.append_assoc, List.singleton_append] at same
      obtain ⟨first, later⟩ := append_mark_inj (plain word List.mem_cons_self) (plain' other List.mem_cons_self) same
      have others := ih (fun each member => plain each (List.mem_cons_of_mem word member))
        (fun each member => plain' each (List.mem_cons_of_mem other member)) (Nat.succ.inj count) later
      rw [String.toList_inj.mp first, others]

theorem toList_times_blank (count : Int) : (times count " ").toList = List.replicate count.toNat ' ' := by
  rw [times, String.toList_join]
  induction count.toNat with
  | zero => rfl
  | succ count ih => rw [List.replicate_succ, List.flatMap_cons, ih]; rfl

theorem mem_times {count : Int} {text : String} {c : Char} (member : c ∈ (times count text).toList) :
    c ∈ text.toList := by
  rw [times, String.toList_join, List.mem_flatMap] at member
  obtain ⟨each, copy, held⟩ := member
  rwa [List.eq_of_mem_replicate copy] at held

theorem mem_padRight {width : Nat} {text : String} {c : Char} (member : c ∈ (padRight width text).toList) :
    c ∈ text.toList ∨ c = ' ' := by
  rw [padRight, String.toList_append, List.mem_append] at member
  exact member.imp_right fun filling => by simpa using mem_times filling

-- A column is read as its word; the blanks that fill it up go with the rest of the line.
theorem padRight_blank (width : Nat) (text : String) (rest : List Char) :
    (padRight width text).toList ++ ' ' :: rest =
      text.toList ++ ' ' :: (List.replicate (width - text.length) ' ' ++ rest) := by
  have count : ((width : Int) - text.length).toNat = width - text.length := by omega
  have swap : List.replicate (width - text.length) ' ' ++ ' ' :: rest =
      ' ' :: (List.replicate (width - text.length) ' ' ++ rest) := by
    rw [← List.cons_append, ← List.replicate_succ, List.replicate_succ', List.append_assoc, List.singleton_append]
  rw [padRight, String.toList_append, toList_times_blank, count, List.append_assoc, swap]

theorem toList_decimal (n : Int) :
    (decimal n).toList = if 0 ≤ n then Nat.toDigits 10 n.toNat else '-' :: Nat.toDigits 10 (-n).toNat := by
  rw [decimal, Int.toString_eq_repr, Int.repr_eq_if]
  split
  · rw [Nat.toList_repr]
  · rw [String.toList_append, Nat.toList_repr]
    rfl

theorem mem_toDigits {n : Nat} {c : Char} (member : c ∈ Nat.toDigits 10 n) : c.isDigit :=
  Nat.isDigit_of_mem_toDigits (by decide) (by decide) member

theorem mem_decimal {n : Int} {c : Char} (member : c ∈ (decimal n).toList) : c = '-' ∨ c.isDigit := by
  rw [toList_decimal] at member
  split at member
  · exact .inr (mem_toDigits member)
  · exact (List.mem_cons.mp member).imp_right mem_toDigits

theorem toDigits_injective {n m : Nat} (same : Nat.toDigits 10 n = Nat.toDigits 10 m) : n = m := by
  have read := congrArg (Nat.ofDigitChars 10 · 0) same
  simpa using read

theorem decimal_injective {n m : Int} (same : decimal n = decimal m) : n = m := by
  have digit (k : Nat) (digits : List Char) : Nat.toDigits 10 k ≠ '-' :: digits := by
    intro signed
    exact absurd (mem_toDigits (signed ▸ List.mem_cons_self)) (by decide)
  have texts := congrArg String.toList same
  rw [toList_decimal, toList_decimal] at texts
  split at texts <;> split at texts
  · have := toDigits_injective texts
    omega
  · exact absurd texts (digit _ _)
  · exact absurd texts.symm (digit _ _)
  · have := toDigits_injective (List.cons.inj texts).2
    omega

theorem decimal_ne_empty (n : Int) : decimal n ≠ "" := by
  intro empty
  have texts := congrArg String.toList empty
  rw [toList_decimal] at texts
  split at texts
  · exact Nat.toDigits_ne_nil texts
  · cases texts

theorem isWord_decimal (n : Int) : IsWord (decimal n) := by
  intro blank
  rcases mem_decimal blank with minus | digit
  · exact absurd minus (by decide)
  · exact absurd digit (by decide)

def firstWord (line : String) : String := String.ofList ((line.toList.dropWhile (· = ' ')).takeWhile (· ≠ ' '))

theorem firstWord_eq {line word : String} {margin rest : List Char} (blank : ∀ c ∈ margin, c = ' ')
    (plain : IsWord word) (filled : word ≠ "") (begins : line.toList = margin ++ (word.toList ++ ' ' :: rest)) :
    firstWord line = word := by
  have passed : line.toList.dropWhile (· = ' ') = word.toList ++ ' ' :: rest := by
    rw [begins, List.dropWhile_append_of_pos fun c member => decide_eq_true (blank c member)]
    cases letters : word.toList with
    | nil => exact absurd (String.toList_inj.mp letters) filled
    | cons c letters' =>
      have letter : c ≠ ' ' := fun same => plain (by rw [letters, same]; exact List.mem_cons_self)
      rw [List.cons_append, List.dropWhile_cons_of_neg (by simpa using letter)]
  rw [firstWord, passed, takeWhile_mark rest plain, String.ofList_toList]

def behind? (mark : List Char) : List Char → Option (List Char)
  | [] => none
  | c :: text =>
    if mark.isPrefixOf (c :: text) then some ((c :: text).drop mark.length) else behind? mark text

theorem behind?_eq {c : Char} {mark before rest : List Char} (absent : c ∉ before) :
    behind? (c :: mark) (before ++ (c :: mark ++ rest)) = some rest := by
  induction before with
  | nil => simp [behind?]
  | cons first before ih =>
    have other : c ≠ first := fun same => absent (same ▸ List.mem_cons_self)
    have later : (c :: mark).isPrefixOf (first :: (before ++ (c :: mark ++ rest))) = false := by
      simp [List.isPrefixOf_cons_cons, other]
    rw [List.cons_append, behind?, later, if_neg Bool.false_ne_true]
    exact ih fun member => absent (List.mem_cons_of_mem _ member)

def opening (text : String) : Option Char := text.toList.head?

theorem opening_append {text : String} {c : Char} (begins : opening text = some c) (rest : String) :
    opening (text ++ rest) = some c := by
  rw [opening, String.toList_append, List.head?_append, ← opening, begins, Option.some_or]

theorem ne_of_opening {one other : String} {c d : Char} (first : opening one = some c) (second : opening other = some d)
    (apart : c ≠ d) : one ≠ other := by
  rintro rfl
  rw [first] at second
  exact apart (Option.some.inj second)

theorem append_left_cancel {margin one other : String} (same : margin ++ one = margin ++ other) : one = other := by
  have letters := congrArg String.toList same
  rw [String.toList_append, String.toList_append] at letters
  exact String.toList_inj.mp (List.append_cancel_left letters)

theorem lines_append (rows more : List String) : lines (rows ++ more) = lines rows ++ lines more := by
  apply String.toList_inj.mp
  simp only [lines, List.map_append, String.toList_append, String.toList_join, List.flatMap_append]

theorem mem_map_margin {margin text : String} {rows : List String} :
    margin ++ text ∈ rows.map (margin ++ ·) ↔ text ∈ rows := by
  constructor
  · intro member
    obtain ⟨row, held, same⟩ := List.mem_map.mp member
    rwa [append_left_cancel same] at held
  · exact fun held => List.mem_map_of_mem held

theorem opening_margin {level : Int} {text : String} {c : Char} (begins : opening text = some c) :
    opening (times level "  " ++ text) = some ' ' ∨ opening (times level "  " ++ text) = some c := by
  have behind : text.toList.head? = some c := begins
  rw [opening, String.toList_append, List.head?_append, behind]
  cases letters : (times level "  ").toList with
  | nil => exact .inr rfl
  | cons first rest =>
    have blank : first ∈ "  ".toList := mem_times (letters ▸ List.mem_cons_self)
    have same : first = ' ' := by simpa using blank
    exact .inl (by rw [same]; rfl)

def BeginsPlain (text : String) : Prop := ∃ c, opening text = some c ∧ c.toNat < 128

theorem beginsPlain_append {text : String} (begins : BeginsPlain text) (rest : String) : BeginsPlain (text ++ rest) := by
  obtain ⟨c, first, small⟩ := begins
  exact ⟨c, opening_append first rest, small⟩

theorem beginsPlain_padLeft {n : Nat} (width : Nat) : BeginsPlain (padLeft width (toString n)) := by
  have digits : (toString n).toList = Nat.toDigits 10 n := Nat.toList_repr
  cases letters : (padLeft width (toString n)).toList with
  | nil =>
    rw [padLeft, String.toList_append, digits] at letters
    exact absurd (List.append_eq_nil_iff.mp letters).2 Nat.toDigits_ne_nil
  | cons c rest =>
    have member : c ∈ (padLeft width (toString n)).toList := letters ▸ List.mem_cons_self
    refine ⟨c, by rw [opening, letters]; rfl, ?_⟩
    rw [padLeft, String.toList_append, digits, List.mem_append] at member
    rcases member with filling | digit
    · have blank : c = ' ' := by simpa using mem_times filling
      rw [blank]
      decide
    · have range := mem_toDigits digit
      simp only [Char.isDigit, Bool.and_eq_true, decide_eq_true_eq, UInt32.le_iff_toNat_le] at range
      have high : c.toNat ≤ 57 := range.2
      omega

end LuaBytecode.Text
