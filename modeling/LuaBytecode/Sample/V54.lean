import LuaBytecode.Sample.Shape
import LuaBytecode.Text.Utf8
import LuaBytecode.V54.Writing

namespace LuaBytecode.Sample.V54

def highGroups (n : Nat) : Bytes :=
  if n = 0 then [] else highGroups (n / 128) ++ [UInt8.ofNat (n % 128)]
termination_by n
decreasing_by omega

def sizeBytes (n : Nat) : Bytes := highGroups (n / 128) ++ [UInt8.ofNat (n % 128 + 128)]

def size (n : Int) : Except Fault Bytes :=
  if n < 0 then .error .emptySize else .ok (sizeBytes n.toNat)

def string (text : Option String) : Bytes :=
  match text with
  | none => sizeBytes 0
  | some text =>
    let bytes := Text.Utf8.encode text
    sizeBytes (bytes.length + 1) ++ bytes

def opcode (shift : Int) (index : Nat) : Nat := ((index + shift) % 83).toNat

def word (shift : Int) (index : Nat) : Nat :=
  opcode shift index + index % 256 * 2 ^ 7 + index % 2 * 2 ^ 15 + 3 * index % 256 * 2 ^ 16 +
    7 * index % 256 * 2 ^ 24

-- One constant of every tag, those that are read but never written among them.
def constants : Bytes :=
  [0x00, 0x11, 0x21] ++ (0x13 :: Bytes.ofNat 8 0x400921F9F01B866E) ++
    (0x23 :: Bytes.ofNat 8 424242) ++ (0x14 :: string (some "hello")) ++
    (0x24 :: string (some (String.ofList (List.replicate 60 'L')))) ++ [0x01] ++
    (0x03 :: Bytes.ofNat 8 0x4004000000000000) ++ (0x04 :: string (some "base"))

def function (length innerCount : Int) (source : Option String) (depth shift : Int)
    (inner : List Bytes) : Except Fault Bytes := do
  let firstLine ← size (1 + depth)
  let lastLine ← size (200 + depth)
  let count ← size length
  let innerSize ← size innerCount
  let code := (indices length).flatMap fun index => Bytes.ofNat 4 (word shift index)
  let lineInfo := (indices length).map fun index => UInt8.ofNat (index % 127)
  pure (string source ++ firstLine ++ lastLine ++ [1, 1, 6] ++ count ++ code ++ sizeBytes 10 ++
    constants ++ sizeBytes 2 ++ [1, 0, 0, 0, 1, 0] ++ innerSize ++ inner.flatten ++ count ++
    lineInfo ++ sizeBytes 2 ++ sizeBytes 5 ++ sizeBytes 10 ++ sizeBytes 12 ++ sizeBytes 40 ++
    sizeBytes 2 ++ string (some "a") ++ sizeBytes 0 ++ count ++ string (some "b") ++ sizeBytes 1 ++
    count ++ sizeBytes 2 ++ string (some "_ENV") ++ string (some "up1"))

def prototype (length innerCount : Int) (source : Option String) (depth shift : Int) :
    Except Fault Bytes := do
  let inner ← function (innerLength length) 0 none (depth + 1) shift []
  function length innerCount source depth shift (List.replicate innerCount.toNat inner)

def chunk (length innerCount shift : Int) : Except Fault Bytes := do
  let main ← prototype length innerCount (some "@bench.lua") 0 shift
  pure (LuaBytecode.V54.Write.header ++ [1] ++ main)

end LuaBytecode.Sample.V54
