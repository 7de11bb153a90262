import LuaBytecode.Bytes
import LuaBytecode.Text.Layout
import LuaBytecode.Text.Shown
/-!
Quoted spellings of bytes and of text. The quote is a single one, unless the content holds that
and no double one.
-/
namespace LuaBytecode.Text

def chooseQuote (content : List Char) : Char :=
  if content.contains '\'' && !content.contains '"' then '"' else '\''

def numbered (letter : Char) (width n : Nat) : List Char :=
  '\\' :: letter :: (padZero width (hexLower n)).toList

def escape? (quote c : Char) : Option (List Char) :=
  if c = '\\' then some ['\\', '\\']
  else if c = quote then some ['\\', quote]
  else if c = '\t' then some ['\\', 't']
  else if c = '\n' then some ['\\', 'n']
  else if c = '\r' then some ['\\', 'r']
  else none

def quoteWith (other : Char → List Char) (content : List Char) : String :=
  let quote := chooseQuote content
  String.ofList
    (quote :: content.flatMap (fun c => (escape? quote c).getD (other c)) ++ [quote])

def quoteBytes (bytes : Bytes) : String :=
  "b" ++ quoteWith
    (fun c => if ' ' ≤ c ∧ c ≤ '~' then [c] else numbered 'x' 2 c.toNat)
    (bytes.map fun byte => Char.ofNat byte.toNat)

def quote (text : String) : String :=
  quoteWith
    (fun c =>
      if isShown c then [c]
      else if c.toNat < 0x100 then numbered 'x' 2 c.toNat
      else if c.toNat < 0x10000 then numbered 'u' 4 c.toNat
      else numbered 'U' 8 c.toNat)
    text.toList

end LuaBytecode.Text
