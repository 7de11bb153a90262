import LuaBytecode.Fault
import LuaBytecode.Text.Utf8
/-!
Texts that are to be spelled in bytes. A text from a chunk is a row of characters; one that is put into
a tree by hand may also hold surrogates, which are halves of characters and have no spelling.
-/
namespace LuaBytecode.Text

class Encoding (τ : Type) where
  length : τ → Nat
  encode : τ → Except Fault Bytes

instance : Encoding String := { length := String.length, encode := fun text => .ok (Utf8.encode text) }

theorem Encoding.length_string (text : String) : Encoding.length text = text.length := rfl

theorem Encoding.encode_string (text : String) : Encoding.encode text = .ok (Utf8.encode text) := rfl

inductive Symbol where
  | char (value : Char)
  -- The surrogate U+D800 + `code`.
  | surrogate (code : Fin 2048)
deriving DecidableEq, Repr

namespace Symbol

def isChar : Symbol → Bool
  | char _ => true
  | surrogate _ => false

def char? : Symbol → Option Char
  | char value => some value
  | surrogate _ => none

end Symbol

abbrev Wide := List Symbol

namespace Wide

def ofString (text : String) : Wide := text.toList.map .char

def chars (text : Wide) : String := String.ofList (text.filterMap Symbol.char?)

-- The first surrogate is the fault, together with those that follow it at once.
def encode (text : Wide) : Except Fault Bytes :=
  match text.dropWhile Symbol.isChar with
  | .surrogate code :: later =>
    let first := (text.takeWhile Symbol.isChar).length
    .error (.surrogates (0xD800 + code) first (first + (later.takeWhile (!·.isChar)).length))
  | _ => .ok (Utf8.encode text.chars)

end Wide

instance : Encoding Wide := { length := List.length, encode := Wide.encode }

end LuaBytecode.Text
