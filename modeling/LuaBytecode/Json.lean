import LuaBytecode.Double.Decimal
import LuaBytecode.Text.Layout

namespace LuaBytecode

inductive Json where
  | null
  | bool (value : Bool)
  | int (value : Int)
  | num (value : Double)
  | str (text : String)
  | arr (items : List Json)
  | obj (members : List (String × Json))
deriving Repr

namespace Json

def unit (n : Nat) : List Char := '\\' :: 'u' :: (Text.padZero 4 (Text.hexLower n)).toList

def escape? (c : Char) : Option (List Char) :=
  if c = '"' then some ['\\', '"']
  else if c = '\\' then some ['\\', '\\']
  else if c = '\n' then some ['\\', 'n']
  else if c = '\r' then some ['\\', 'r']
  else if c = '\t' then some ['\\', 't']
  else if c.toNat = 8 then some ['\\', 'b']
  else if c.toNat = 12 then some ['\\', 'f']
  else if c.toNat < 32 then some (unit c.toNat)
  else none

def quote (ascii : Bool) (text : String) : String :=
  let spell (c : Char) : List Char :=
    match escape? c with
    | some escaped => escaped
    | none =>
      if !ascii || c.toNat < 127 then [c]
      else if c.toNat < 0x10000 then unit c.toNat
      else
        let n := c.toNat - 0x10000
        unit (0xD800 + n / 0x400) ++ unit (0xDC00 + n % 0x400)
  String.ofList ('"' :: text.toList.flatMap spell ++ ['"'])

def numberText (value : Double) : String :=
  match value.view with
  | .nan => "NaN"
  | .infinite true => "-Infinity"
  | .infinite false => "Infinity"
  | .finite .. => value.text

mutual
def compact : Json → String
  | null => "null"
  | bool value => if value then "true" else "false"
  | int value => toString value
  | num value => numberText value
  | str text => quote true text
  | arr items => "[" ++ String.intercalate ", " (compactItems items) ++ "]"
  | obj members => "\x7b" ++ String.intercalate ", " (compactMembers members) ++ "\x7d"
def compactItems : List Json → List String
  | [] => []
  | item :: items => compact item :: compactItems items
def compactMembers : List (String × Json) → List String
  | [] => []
  | (name, value) :: members =>
    (quote true name ++ ": " ++ compact value) :: compactMembers members
end

def bracketed (opening closing : String) (depth : Nat) (contents : List String) : String :=
  if contents.isEmpty then opening ++ closing
  else
    let inner := "\n" ++ Text.times (depth + 1) "  "
    opening ++ inner ++ String.intercalate ("," ++ inner) contents ++ "\n" ++
      Text.times depth "  " ++ closing

mutual
def pretty (depth : Nat) : Json → String
  | null => "null"
  | bool value => if value then "true" else "false"
  | int value => toString value
  | num value => numberText value
  | str text => quote false text
  | arr items => bracketed "[" "]" depth (prettyItems (depth + 1) items)
  | obj members => bracketed "\x7b" "\x7d" depth (prettyMembers (depth + 1) members)
def prettyItems (depth : Nat) : List Json → List String
  | [] => []
  | item :: items => pretty depth item :: prettyItems depth items
def prettyMembers (depth : Nat) : List (String × Json) → List String
  | [] => []
  | (name, value) :: members =>
    (quote false name ++ ": " ++ pretty depth value) :: prettyMembers depth members
end

def ofNat (n : Nat) : Json := int n

end Json

end LuaBytecode
