import LuaBytecode.Json

namespace LuaBytecode.Json

namespace Parse

def isBlank (c : Char) : Bool := c = ' ' || c = '\t' || c = '\n' || c = '\r'

def skipBlanks (text : List Char) : List Char := text.dropWhile isBlank

def hexDigit? (c : Char) : Option Nat :=
  if c.isDigit then some (c.toNat - 48)
  else if 'a' ≤ c ∧ c ≤ 'f' then some (c.toNat - 87)
  else if 'A' ≤ c ∧ c ≤ 'F' then some (c.toNat - 55)
  else none

def unit? : List Char → Option (Nat × List Char)
  | a :: b :: c :: d :: rest => do
    let a ← hexDigit? a
    let b ← hexDigit? b
    let c ← hexDigit? c
    let d ← hexDigit? d
    some (((a * 16 + b) * 16 + c) * 16 + d, rest)
  | _ => none

def escapedUnit? (text : List Char) : Option (Char × List Char) := do
  let (high, rest) ← unit? text
  if 0xD800 ≤ high ∧ high < 0xDC00 then
    match rest with
    | '\\' :: 'u' :: more =>
      match unit? more with
      | some (low, behind) =>
        if 0xDC00 ≤ low ∧ low < 0xE000 then
          some (Char.ofNat (0x10000 + (high - 0xD800) * 0x400 + (low - 0xDC00)), behind)
        else some ('�', rest)
      | none => none
    | _ => some ('�', rest)
  else if 0xDC00 ≤ high ∧ high < 0xE000 then some ('�', rest)
  else some (Char.ofNat high, rest)

def escape? : List Char → Option (Char × List Char)
  | '"' :: rest => some ('"', rest)
  | '\\' :: rest => some ('\\', rest)
  | '/' :: rest => some ('/', rest)
  | 'b' :: rest => some (Char.ofNat 8, rest)
  | 'f' :: rest => some (Char.ofNat 12, rest)
  | 'n' :: rest => some ('\n', rest)
  | 'r' :: rest => some ('\r', rest)
  | 't' :: rest => some ('\t', rest)
  | 'u' :: rest => escapedUnit? rest
  | _ => none

def string? : (fuel : Nat) → List Char → Option (List Char × List Char)
  | 0, _ => none
  | _ + 1, [] => none
  | fuel + 1, c :: rest =>
    if c = '"' then some ([], rest)
    else if c = '\\' then do
      let (escaped, more) ← escape? rest
      let (others, behind) ← string? fuel more
      some (escaped :: others, behind)
    else if c.toNat < 32 then none
    else do
      let (others, behind) ← string? fuel rest
      some (c :: others, behind)

def natOf (digits : List Char) : Nat := digits.foldl (fun n c => n * 10 + (c.toNat - 48)) 0

def digits (text : List Char) : List Char × List Char := text.span Char.isDigit

def decimals (text : List Char) : List Char × List Char :=
  match text with
  | '.' :: rest =>
    match digits rest with
    | ([], _) => ([], text)
    | found => found
  | _ => ([], text)

def exponent (text : List Char) : Option Int × List Char :=
  let read (negative : Bool) (rest : List Char) : Option Int × List Char :=
    match digits rest with
    | ([], _) => (none, text)
    | (found, behind) => (some (if negative then -(natOf found : Int) else natOf found), behind)
  match text with
  | c :: rest =>
    if c = 'e' ∨ c = 'E' then
      match rest with
      | '+' :: more => read false more
      | '-' :: more => read true more
      | more => read false more
    else (none, text)
  | [] => (none, text)

def number? (negative : Bool) (text : List Char) : Option (Json × List Char) :=
  let (whole, rest) :=
    match text with
    | '0' :: rest => (['0'], rest)
    | _ => digits text
  if whole.isEmpty then none
  else
    let (places, behindPlaces) := decimals rest
    let (power, behind) := exponent behindPlaces
    if places.isEmpty ∧ power.isNone then
      let n : Int := natOf whole
      some (.int (if negative then -n else n), rest)
    else
      let scale : Int := power.getD 0 - places.length
      some (.num (Double.ofDecimal negative (natOf (whole ++ places)) scale), behind)

def behind? (word text : List Char) : Option (List Char) :=
  if word.isPrefixOf text then some (text.drop word.length) else none

def word? (text : List Char) : Option (Json × List Char) :=
  [("null", Json.null), ("true", .bool true), ("false", .bool false),
    ("NaN", .num ⟨0x7FF8000000000000⟩), ("Infinity", .num (Double.infinity false)),
    ("-Infinity", .num (Double.infinity true))].findSome? fun (word, value) =>
      (behind? word.toList text).map (value, ·)

-- A member takes the place of an earlier one of its name.
def setMember (name : String) (value : Json) (members : List (String × Json)) :
    List (String × Json) :=
  if members.any (·.1 = name) then
    members.map fun (each, kept) => if each = name then (each, value) else (each, kept)
  else members ++ [(name, value)]

mutual
def value? : (fuel : Nat) → List Char → Option (Json × List Char)
  | 0, _ => none
  | fuel + 1, text =>
    match text with
    | '"' :: rest => (string? (rest.length + 1) rest).map fun (found, behind) =>
        (.str (String.ofList found), behind)
    | '[' :: rest =>
      match skipBlanks rest with
      | ']' :: behind => some (.arr [], behind)
      | more => (items? fuel more).map fun (found, behind) => (.arr found, behind)
    | '\x7b' :: rest =>
      match skipBlanks rest with
      | '\x7d' :: behind => some (.obj [], behind)
      | more => (members? fuel [] more).map fun (found, behind) => (.obj found, behind)
    | _ =>
      match word? text with
      | some found => some found
      | none =>
        match text with
        | '-' :: rest => number? true rest
        | _ => number? false text
def items? : (fuel : Nat) → List Char → Option (List Json × List Char)
  | 0, _ => none
  | fuel + 1, text => do
    let (first, rest) ← value? fuel (skipBlanks text)
    match skipBlanks rest with
    | ',' :: more =>
      let (others, behind) ← items? fuel more
      some (first :: others, behind)
    | ']' :: behind => some ([first], behind)
    | _ => none
def members? : (fuel : Nat) → List (String × Json) → List Char →
    Option (List (String × Json) × List Char)
  | 0, _, _ => none
  | fuel + 1, known, text => do
    match skipBlanks text with
    | '"' :: rest =>
      let (name, more) ← string? (rest.length + 1) rest
      match skipBlanks more with
      | ':' :: valueText =>
        let (value, behindValue) ← value? fuel (skipBlanks valueText)
        let found := setMember (String.ofList name) value known
        match skipBlanks behindValue with
        | ',' :: others => members? fuel found others
        | '\x7d' :: behind => some (found, behind)
        | _ => none
      | _ => none
    | _ => none
end

end Parse

def parse? (text : String) : Option Json :=
  match Parse.value? (text.length + 1) (Parse.skipBlanks text.toList) with
  | some (value, rest) => if (Parse.skipBlanks rest).isEmpty then some value else none
  | none => none

def member? (name : String) : Json → Option Json
  | obj members => members.lookup name
  | _ => none

def isObject : Json → Bool
  | obj _ => true
  | _ => false

def members : Json → List (String × Json)
  | obj members => members
  | _ => []

def items : Json → List Json
  | arr items => items
  | _ => []

end LuaBytecode.Json
