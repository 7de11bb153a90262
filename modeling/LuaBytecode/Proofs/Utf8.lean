import LuaBytecode.Text.Utf8
import Mathlib.Tactic.SplitIfs

namespace LuaBytecode.Text.Utf8

theorem lead_eq (byte : UInt8) :
    lead byte =
      if byte.toNat < 0x80 then .single
      else if byte.toNat < 0xC2 then .invalid
      else if byte.toNat < 0xE0 then .two
      else if byte.toNat < 0xF0 then .three
      else if byte.toNat < 0xF5 then .four
      else .invalid := by
  simp only [lead, UInt8.lt_iff_toNat_lt]
  rfl

theorem isTail_iff (byte : UInt8) : isTail byte = true ↔ 0x80 ≤ byte.toNat ∧ byte.toNat < 0xC0 := by
  simp [isTail, UInt8.lt_iff_toNat_lt, UInt8.le_iff_toNat_le]

theorem admits_of_between {first second : UInt8}
    (low : (if first.toNat = 0xE0 then 0xA0 else if first.toNat = 0xF0 then 0x90 else 0x80) ≤ second.toNat)
    (high : second.toNat <
      (if first.toNat = 0xED then 0xA0 else if first.toNat = 0xF4 then 0x90 else 0xC0)) :
    admits first second = true := by
  simp only [admits, isTail, ← UInt8.toNat_inj, UInt8.le_iff_toNat_le, UInt8.lt_iff_toNat_lt]
  simp only [UInt8.reduceToNat]
  split_ifs at low high ⊢ <;> simp <;> omega

theorem pieces_single {a : UInt8} (rest : Bytes) (leads : a.toNat < 0x80) :
    pieces (a :: rest) = some (Char.ofNat a.toNat) :: pieces rest := by
  have first : lead a = .single := by simp [lead_eq, leads]
  rw [pieces.eq_def]
  simp [first]

theorem pieces_two {a b : UInt8} (rest : Bytes) (leads : 0xC2 ≤ a.toNat ∧ a.toNat < 0xE0)
    (follows : isTail b = true) :
    pieces (a :: b :: rest) =
      some (Char.ofNat ((a.toNat - 0xC0) * 0x40 + low b)) :: pieces rest := by
  have first : lead a = .two := by
    rw [lead_eq, if_neg (by omega), if_neg (by omega), if_pos (by omega)]
  rw [pieces.eq_def]
  simp [first, follows]

theorem pieces_three {a b c : UInt8} (rest : Bytes) (leads : 0xE0 ≤ a.toNat ∧ a.toNat < 0xF0)
    (second : admits a b = true) (third : isTail c = true) :
    pieces (a :: b :: c :: rest) =
      some (Char.ofNat ((a.toNat - 0xE0) * 0x1000 + low b * 0x40 + low c)) :: pieces rest := by
  have first : lead a = .three := by
    rw [lead_eq, if_neg (by omega), if_neg (by omega), if_neg (by omega), if_pos (by omega)]
  rw [pieces.eq_def]
  simp [first, second, third]

theorem pieces_four {a b c d : UInt8} (rest : Bytes) (leads : 0xF0 ≤ a.toNat ∧ a.toNat < 0xF5)
    (second : admits a b = true) (third : isTail c = true) (fourth : isTail d = true) :
    pieces (a :: b :: c :: d :: rest) =
      some (Char.ofNat ((a.toNat - 0xF0) * 0x40000 + low b * 0x1000 + low c * 0x40 + low d)) ::
        pieces rest := by
  have first : lead a = .four := by
    rw [lead_eq, if_neg (by omega), if_neg (by omega), if_neg (by omega), if_neg (by omega),
      if_pos (by omega)]
  rw [pieces.eq_def]
  simp [first, second, third, fourth]

theorem toNat_ofNat_small {n : Nat} (small : n < 256) : (UInt8.ofNat n).toNat = n :=
  UInt8.toNat_ofNat_of_lt' small

theorem tail_ofNat (n : Nat) :
    isTail (UInt8.ofNat (0x80 + n % 0x40)) = true ∧ low (UInt8.ofNat (0x80 + n % 0x40)) = n % 0x40 := by
  have value : (UInt8.ofNat (0x80 + n % 0x40)).toNat = 0x80 + n % 0x40 := toNat_ofNat_small (by omega)
  rw [isTail_iff, low, value]
  omega

theorem char_range (c : Char) : c.toNat < 0x110000 ∧ (c.toNat < 0xD800 ∨ 0xDFFF < c.toNat) := by
  have valid : c.toNat < 0xD800 ∨ 0xDFFF < c.toNat ∧ c.toNat < 0x110000 := c.valid
  omega

theorem pieces_encodeChar (c : Char) (rest : Bytes) :
    pieces (encodeChar c ++ rest) = some c :: pieces rest := by
  have range := char_range c
  have back : Char.ofNat c.toNat = c := Char.ofNat_toNat c
  -- From here on only the number of the character matters: one case for each length.
  unfold encodeChar
  generalize c.toNat = n at range back
  dsimp only
  split_ifs with one two three
  · have value : (UInt8.ofNat n).toNat = n := toNat_ofNat_small (by omega)
    rw [List.singleton_append, pieces_single rest (by omega), value, back]
  · have head : (UInt8.ofNat (0xC0 + n / 0x40)).toNat = 0xC0 + n / 0x40 := toNat_ofNat_small (by omega)
    have last := tail_ofNat n
    rw [List.cons_append, List.singleton_append, pieces_two rest (by omega) last.1, head, last.2]
    have whole : (0xC0 + n / 0x40 - 0xC0) * 0x40 + n % 0x40 = n := by omega
    rw [whole, back]
  · have head : (UInt8.ofNat (0xE0 + n / 0x1000)).toNat = 0xE0 + n / 0x1000 := toNat_ofNat_small (by omega)
    have next := tail_ofNat (n / 0x40)
    have last := tail_ofNat n
    have second : admits (UInt8.ofNat (0xE0 + n / 0x1000)) (UInt8.ofNat (0x80 + n / 0x40 % 0x40)) = true := by
      apply admits_of_between <;> rw [head, toNat_ofNat_small (by omega)] <;> split_ifs <;> omega
    rw [List.cons_append, List.cons_append, List.singleton_append,
      pieces_three rest (by omega) second last.1, head, next.2, last.2]
    have whole : (0xE0 + n / 0x1000 - 0xE0) * 0x1000 + n / 0x40 % 0x40 * 0x40 + n % 0x40 = n := by omega
    rw [whole, back]
  · have head : (UInt8.ofNat (0xF0 + n / 0x40000)).toNat = 0xF0 + n / 0x40000 := toNat_ofNat_small (by omega)
    have next := tail_ofNat (n / 0x1000)
    have third := tail_ofNat (n / 0x40)
    have last := tail_ofNat n
    have second : admits (UInt8.ofNat (0xF0 + n / 0x40000))
        (UInt8.ofNat (0x80 + n / 0x1000 % 0x40)) = true := by
      apply admits_of_between <;> rw [head, toNat_ofNat_small (by omega)] <;> split_ifs <;> omega
    rw [List.cons_append, List.cons_append, List.cons_append, List.singleton_append,
      pieces_four rest (by omega) second third.1 last.1, head, next.2, third.2, last.2]
    have whole : (0xF0 + n / 0x40000 - 0xF0) * 0x40000 + n / 0x1000 % 0x40 * 0x1000 +
        n / 0x40 % 0x40 * 0x40 + n % 0x40 = n := by omega
    rw [whole, back]

theorem pieces_flatMap_encodeChar (chars : List Char) :
    pieces (chars.flatMap encodeChar) = chars.map some := by
  induction chars with
  | nil => rfl
  | cons c chars ih => rw [List.flatMap_cons, pieces_encodeChar, ih, List.map_cons]

theorem decodeReplacing_encode (text : String) : decodeReplacing (encode text) = text := by
  rw [decodeReplacing, encode, pieces_flatMap_encodeChar, List.map_map]
  simp [Function.comp_def]

theorem decodeOrBytewise_encode (text : String) : decodeOrBytewise (encode text) = text := by
  have whole : (text.toList.map some).mapM id = some text.toList := by
    induction text.toList with
    | nil => rfl
    | cons c chars ih => simp [ih]
  rw [decodeOrBytewise, decode?, encode, pieces_flatMap_encodeChar, whole]
  simp

theorem length_encodeChar_le (c : Char) : (encodeChar c).length ≤ 4 := by
  unfold encodeChar
  dsimp only
  split_ifs <;> simp

def respelledLength (found : List (Option Char)) : Nat :=
  (found.flatMap fun piece => encodeChar (piece.getD '\uFFFD')).length

theorem respelledLength_replaced (found : List (Option Char)) :
    respelledLength (none :: found) = 3 + respelledLength found := by
  have replaced : (encodeChar '\uFFFD').length = 3 := by decide
  simp [respelledLength, replaced]

theorem respelledLength_char (c : Char) (found : List (Option Char)) :
    respelledLength (some c :: found) = (encodeChar c).length + respelledLength found := by
  simp [respelledLength]

theorem respelledLength_char_le (c : Char) (found : List (Option Char)) :
    respelledLength (some c :: found) ≤ 4 + respelledLength found := by
  have four := length_encodeChar_le c
  rw [respelledLength_char]
  omega

theorem toNat_charOfByte (byte : UInt8) : (Char.ofNat byte.toNat).toNat = byte.toNat := by
  have small := byte.toNat_lt
  have valid : byte.toNat.isValidChar := .inl (by omega)
  rw [Char.ofNat, dif_pos valid]
  rfl

theorem length_encodeChar_single {a : UInt8} (leads : lead a = .single) :
    (encodeChar (Char.ofNat a.toNat)).length = 1 := by
  have small : a.toNat < 0x80 := by
    rw [lead_eq] at leads
    split_ifs at leads
    assumption
  simp [encodeChar, toNat_charOfByte, small]

theorem respelledLength_pieces_le (bytes : Bytes) : respelledLength (pieces bytes) ≤ 3 * bytes.length := by
  have nothing : respelledLength [] = 0 := rfl
  fun_induction pieces bytes with
  | case1 => simp [nothing]
  | case2 a rest leads ih =>
    rw [respelledLength_char, length_encodeChar_single leads, List.length_cons]
    omega
  | case5 a leads b rest tail ih =>
    have four := respelledLength_char_le (Char.ofNat ((a.toNat - 0xC0) * 0x40 + low b)) (pieces rest)
    simp only [List.length_cons]
    omega
  | case9 a leads b admitted c rest tail ih =>
    have four := respelledLength_char_le
      (Char.ofNat ((a.toNat - 0xE0) * 0x1000 + low b * 0x40 + low c)) (pieces rest)
    simp only [List.length_cons]
    omega
  | case15 a leads b admitted c tail d rest tail' ih =>
    have four := respelledLength_char_le
      (Char.ofNat ((a.toNat - 0xF0) * 0x40000 + low b * 0x1000 + low c * 0x40 + low d)) (pieces rest)
    simp only [List.length_cons]
    omega
  -- What remains are malformed stretches: at least one byte, and three in its place.
  | _ =>
    simp only [respelledLength_replaced, List.length_cons, List.length_nil, nothing] at *
    omega

theorem length_encode_decodeReplacing_le (bytes : Bytes) :
    (encode (decodeReplacing bytes)).length ≤ 3 * bytes.length := by
  have spelled : (encode (decodeReplacing bytes)).length = respelledLength (pieces bytes) := by
    simp [encode, decodeReplacing, respelledLength, List.flatMap_map]
  rw [spelled]
  exact respelledLength_pieces_le bytes

theorem pieces_ne_nil {bytes : Bytes} (nonempty : bytes ≠ []) : pieces bytes ≠ [] := by
  fun_cases pieces bytes with
  | case1 => exact absurd rfl nonempty
  | _ => exact List.cons_ne_nil _ _

theorem encode_decodeReplacing_ne_nil {bytes : Bytes} (nonempty : bytes ≠ []) :
    encode (decodeReplacing bytes) ≠ [] := by
  intro empty
  have text := decodeReplacing_encode (decodeReplacing bytes)
  rw [empty] at text
  have characters := congrArg String.toList text
  simp [decodeReplacing, pieces_ne_nil nonempty, pieces] at characters

theorem eq_zero_of_mem_encodeChar {c : Char} (member : 0 ∈ encodeChar c) : c = '\x00' := by
  have range := char_range c
  have nonzero : ∀ n, 0 < n → n < 256 → (0 : UInt8) ≠ UInt8.ofNat n := by
    intro n positive small same
    have values := congrArg UInt8.toNat same
    rw [toNat_ofNat_small small] at values
    exact absurd values (Nat.ne_of_lt positive)
  have value : c.toNat = 0 := by
    by_cases zero : c.toNat = 0
    · exact zero
    · simp only [encodeChar] at member
      split_ifs at member
      all_goals
        simp (disch := omega) only [List.mem_cons, List.not_mem_nil, nonzero, or_self] at member
  rw [← Char.ofNat_toNat c, value]

theorem zero_not_mem_encode {text : String} (free : '\x00' ∉ text.toList) : 0 ∉ encode text := by
  intro member
  obtain ⟨c, inText, inSpelling⟩ := List.mem_flatMap.mp member
  rw [eq_zero_of_mem_encodeChar inSpelling] at inText
  exact free inText

theorem encodeChar_ascii {c : Char} (small : c.toNat < 0x80) : encodeChar c = [UInt8.ofNat c.toNat] := by
  simp [encodeChar, small]

-- A character of more than one byte goes on with one that no character begins with.
theorem encodeChar_wide {c : Char} (wide : 0x80 ≤ c.toNat) :
    ∃ first second rest, encodeChar c = first :: second :: rest ∧ isTail second = true ∧
      if c.toNat < 0x800 then second.toNat = 0x80 + c.toNat % 0x40 ∧ rest = [] else rest ≠ [] := by
  have range := char_range c
  unfold encodeChar
  generalize c.toNat = n at range wide
  dsimp only
  rw [if_neg (by omega)]
  split_ifs with two three
  · exact ⟨_, _, [], rfl, (tail_ofNat n).1, toNat_ofNat_small (by omega), rfl⟩
  · exact ⟨_, _, _, rfl, (tail_ofNat (n / 0x40)).1, List.cons_ne_nil _ _⟩
  · exact ⟨_, _, _, rfl, (tail_ofNat (n / 0x1000)).1, List.cons_ne_nil _ _⟩

theorem length_encodeChar_pos (c : Char) : 0 < (encodeChar c).length := by
  unfold encodeChar
  dsimp only
  split_ifs <;> simp

theorem length_le_flatMap_encodeChar (chars : List Char) : chars.length ≤ (chars.flatMap encodeChar).length := by
  induction chars with
  | nil => exact Nat.le_refl 0
  | cons c chars ih =>
    have one := length_encodeChar_pos c
    rw [List.flatMap_cons, List.length_append, List.length_cons]
    omega

theorem ascii_of_length_le {chars : List Char} (short : (chars.flatMap encodeChar).length ≤ chars.length) :
    ∀ c ∈ chars, c.toNat < 0x80 := by
  induction chars with
  | nil => nofun
  | cons c chars ih =>
    have least := length_le_flatMap_encodeChar chars
    have one := length_encodeChar_pos c
    rw [List.flatMap_cons, List.length_append, List.length_cons] at short
    intro other member
    rcases List.mem_cons.mp member with rfl | later
    · by_cases wide : 0x80 ≤ other.toNat
      · obtain ⟨_, _, _, spelled, _⟩ := encodeChar_wide wide
        rw [spelled] at short
        simp only [List.length_cons] at short
        omega
      · omega
    · exact ih (by omega) other later

theorem bytewise_ascii {chars : List Char} (ascii : ∀ c ∈ chars, c.toNat < 0x80) :
    (chars.flatMap encodeChar).map (fun byte => Char.ofNat byte.toNat) = chars := by
  induction chars with
  | nil => rfl
  | cons c chars ih =>
    have small := ascii c List.mem_cons_self
    have later := ih fun other member => ascii other (List.mem_cons_of_mem c member)
    rw [List.flatMap_cons, encodeChar_ascii small, List.singleton_append, List.map_cons, later,
      toNat_ofNat_small (by omega), Char.ofNat_toNat]

theorem decodeOrBytewise_of_tail {byte : UInt8} (bytes : Bytes) (tail : isTail byte = true) :
    decodeOrBytewise (byte :: bytes) = decodeBytewise (byte :: bytes) := by
  have range := (isTail_iff byte).mp tail
  have first : lead byte = .invalid := by rw [lead_eq, if_neg (by omega), if_pos (by omega)]
  have malformed : pieces (byte :: bytes) = none :: pieces bytes := by
    rw [pieces.eq_def]
    simp [first]
  simp [decodeOrBytewise, decode?, malformed]

-- The least number of bytes that are read as these characters: a replacement may stand for one byte.
def leastLength : List Char → Nat
  | [] => 0
  | c :: chars => (if c = '�' then 1 else (encodeChar c).length) + leastLength chars

theorem leastLength_eq {chars : List Char} (free : '�' ∉ chars) :
    leastLength chars = (chars.flatMap encodeChar).length := by
  induction chars with
  | nil => rfl
  | cons c chars ih =>
    rw [List.mem_cons, not_or] at free
    rw [leastLength, if_neg (Ne.symm free.1), ih free.2, List.flatMap_cons, List.length_append]

theorem leastLength_char_le (c : Char) (chars : List Char) :
    leastLength (c :: chars) ≤ (encodeChar c).length + leastLength chars := by
  rw [leastLength]
  split
  · rename_i replaced
    rw [replaced]
    exact Nat.add_le_add_right (by decide) _
  · exact Nat.le_refl _

theorem length_encodeChar_ofNat_le {n : Nat} :
    (n < 0x800 → (encodeChar (Char.ofNat n)).length ≤ 2) ∧ (n < 0x10000 → (encodeChar (Char.ofNat n)).length ≤ 3) := by
  by_cases valid : n.isValidChar
  · have value : (Char.ofNat n).toNat = n := by
      rw [Char.ofNat, dif_pos valid]
      rfl
    constructor
    · intro small
      simp only [encodeChar, value]
      split_ifs <;> simp
    · intro small
      simp only [encodeChar, value]
      split_ifs <;> simp
  · have zero : Char.ofNat n = '\x00' := by rw [Char.ofNat, dif_neg valid]; rfl
    rw [zero]
    exact ⟨fun _ => by decide, fun _ => by decide⟩

def leastPieces (found : List (Option Char)) : Nat := leastLength (found.map (·.getD '�'))

theorem leastPieces_replaced (found : List (Option Char)) : leastPieces (none :: found) = 1 + leastPieces found := by
  simp [leastPieces, leastLength]

theorem leastPieces_char_le {c : Char} {width : Nat} (short : (encodeChar c).length ≤ width) (found : List (Option Char)) :
    leastPieces (some c :: found) ≤ width + leastPieces found := by
  have least := leastLength_char_le c (found.map (·.getD '�'))
  simp only [leastPieces, List.map_cons, Option.getD_some]
  omega

theorem leastPieces_pieces_le (bytes : Bytes) : leastPieces (pieces bytes) ≤ bytes.length := by
  have nothing : leastPieces [] = 0 := rfl
  fun_induction pieces bytes with
  | case1 => simp [nothing]
  | case2 a rest leads ih =>
    have one := leastPieces_char_le (Nat.le_of_eq (length_encodeChar_single leads)) (pieces rest)
    rw [List.length_cons]
    omega
  | case5 a leads b rest tail ih =>
    have bound : a.toNat < 0xE0 := by
      rw [lead_eq] at leads
      split_ifs at leads
      assumption
    have two := leastPieces_char_le (@length_encodeChar_ofNat_le ((a.toNat - 0xC0) * 0x40 + low b) |>.1 (by
      unfold low
      omega)) (pieces rest)
    simp only [List.length_cons]
    omega
  | case9 a leads b admitted c rest tail ih =>
    have bound : a.toNat < 0xF0 := by
      rw [lead_eq] at leads
      split_ifs at leads
      assumption
    have three := leastPieces_char_le
      (@length_encodeChar_ofNat_le ((a.toNat - 0xE0) * 0x1000 + low b * 0x40 + low c) |>.2 (by
        unfold low
        omega)) (pieces rest)
    simp only [List.length_cons]
    omega
  | case15 a leads b admitted c tail d rest tail' ih =>
    have four := leastPieces_char_le
      (length_encodeChar_le (Char.ofNat ((a.toNat - 0xF0) * 0x40000 + low b * 0x1000 + low c * 0x40 + low d)))
      (pieces rest)
    simp only [List.length_cons]
    omega
  -- A malformed stretch has at least the one byte that is counted for it.
  | _ =>
    simp only [leastPieces_replaced, List.length_cons, List.length_nil, nothing] at *
    omega

theorem leastLength_decodeReplacing_le (bytes : Bytes) : leastLength (decodeReplacing bytes).toList ≤ bytes.length := by
  have characters : leastLength (decodeReplacing bytes).toList = leastPieces (pieces bytes) := by
    simp [decodeReplacing, leastPieces]
  rw [characters]
  exact leastPieces_pieces_le bytes

end LuaBytecode.Text.Utf8
