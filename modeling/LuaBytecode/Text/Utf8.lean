import LuaBytecode.Bytes
/-!
UTF-8. Bytes are cut into pieces: characters, and malformed stretches, each as long as some
character could still begin with it.
-/
namespace LuaBytecode.Text.Utf8

def encodeChar (c : Char) : Bytes :=
  let n := c.toNat
  if n < 0x80 then [UInt8.ofNat n]
  else if n < 0x800 then [UInt8.ofNat (0xC0 + n / 0x40), UInt8.ofNat (0x80 + n % 0x40)]
  else if n < 0x10000 then
    [UInt8.ofNat (0xE0 + n / 0x1000), UInt8.ofNat (0x80 + n / 0x40 % 0x40),
      UInt8.ofNat (0x80 + n % 0x40)]
  else
    [UInt8.ofNat (0xF0 + n / 0x40000), UInt8.ofNat (0x80 + n / 0x1000 % 0x40),
      UInt8.ofNat (0x80 + n / 0x40 % 0x40), UInt8.ofNat (0x80 + n % 0x40)]

def encode (text : String) : Bytes := text.toList.flatMap encodeChar

inductive Lead where
  | single
  | two
  | three
  | four
  | invalid
deriving DecidableEq, Repr

def lead (byte : UInt8) : Lead :=
  if byte < 0x80 then .single
  else if byte < 0xC2 then .invalid
  else if byte < 0xE0 then .two
  else if byte < 0xF0 then .three
  else if byte < 0xF5 then .four
  else .invalid

def isTail (byte : UInt8) : Bool := 0x80 ≤ byte && byte < 0xC0

-- Which second bytes a first byte admits: longer spellings than needed, surrogates and numbers
-- beyond the last character are ruled out here.
def admits (first second : UInt8) : Bool :=
  if first = 0xE0 then 0xA0 ≤ second && second < 0xC0
  else if first = 0xED then 0x80 ≤ second && second < 0xA0
  else if first = 0xF0 then 0x90 ≤ second && second < 0xC0
  else if first = 0xF4 then 0x80 ≤ second && second < 0x90
  else isTail second

def low (byte : UInt8) : Nat := byte.toNat % 0x40

def pieces : Bytes → List (Option Char)
  | [] => []
  | a :: r =>
    match lead a with
    | .single => some (Char.ofNat a.toNat) :: pieces r
    | .invalid => none :: pieces r
    | .two =>
      match r with
      | [] => [none]
      | b :: s =>
        if isTail b then some (Char.ofNat ((a.toNat - 0xC0) * 0x40 + low b)) :: pieces s
        else none :: pieces (b :: s)
    | .three =>
      match r with
      | [] => [none]
      | b :: s =>
        if admits a b then
          match s with
          | [] => [none]
          | c :: t =>
            if isTail c then
              some (Char.ofNat ((a.toNat - 0xE0) * 0x1000 + low b * 0x40 + low c)) :: pieces t
            else none :: pieces (c :: t)
        else none :: pieces (b :: s)
    | .four =>
      match r with
      | [] => [none]
      | b :: s =>
        if admits a b then
          match s with
          | [] => [none]
          | c :: t =>
            if isTail c then
              match t with
              | [] => [none]
              | d :: u =>
                if isTail d then
                  some (Char.ofNat
                    ((a.toNat - 0xF0) * 0x40000 + low b * 0x1000 + low c * 0x40 + low d)) ::
                    pieces u
                else none :: pieces (d :: u)
            else none :: pieces (c :: t)
        else none :: pieces (b :: s)

def decodeReplacing (bytes : Bytes) : String :=
  String.ofList ((pieces bytes).map (·.getD '�'))

def decode? (bytes : Bytes) : Option String := ((pieces bytes).mapM id).map String.ofList

def decodeBytewise (bytes : Bytes) : String :=
  String.ofList (bytes.map fun byte => Char.ofNat byte.toNat)

def decodeOrBytewise (bytes : Bytes) : String := (decode? bytes).getD (decodeBytewise bytes)

end LuaBytecode.Text.Utf8
