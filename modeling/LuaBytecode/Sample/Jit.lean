import LuaBytecode.Jit.Writing
import LuaBytecode.Sample.Shape

namespace LuaBytecode.Sample.Jit

open LuaBytecode.Jit

def word (index : Nat) : Int :=
  (index % 93 + index % 256 * 2 ^ 8 + 3 * index % 256 * 2 ^ 16 + 5 * index % 256 * 2 ^ 24 : Nat)

def tableSample : Table where
  array := [.nil, .int 7, .num ⟨0x3FF4000000000000⟩]
  hash := [(.str "key", .bool false), (.str "v", .bool true)]

def collectables (withComplex : Bool) : List Collectable :=
  [.child, .table tableSample, .str "hello"] ++
    (if withComplex then [.i64 (1 + 2 * 2 ^ 32), .u64 (3 + 4 * 2 ^ 32), .complex ⟨0⟩ ⟨0⟩] else [])

def numbers : List Number := [.int 42, .num ⟨0x400C000000000000⟩, .int (-2147483643)]

def lines (length lineCount : Nat) : Except Fault (List Int) :=
  if length = 0 then .ok []
  else if lineCount = 0 then .error .moduloByZero
  else .ok ((indices length).map fun index => ((index % lineCount + 1 : Nat) : Int))

def entries : List Variable := [.named "abc" 0 5, .special 3 1 4]

-- The size that a prototype gives for its debug data is that of its lines and a few bytes.
def prototypeOf (length : Nat) (withComplex : Bool) (lineCount : Nat) (lineInfo : List Int) :
    Prototype where
  flags := 3
  paramCount := 1
  frameSize := 6
  upvalueCount := 2
  debugSize := (18 + length * Write.lineWidth lineCount : Nat)
  firstLine := 1
  lineCount := lineCount
  code := (indices length).map word
  upvalueData := [0x8000, 1]
  collectables := collectables withComplex
  numbers := numbers
  lineInfo := lineInfo
  upvalueNames := ["uv0", "uv1"]

def contents (length : Nat) (stripped withComplex : Bool) (lineCount : Nat) :
    Except Fault (Prototype × List Variable) := do
  let lineInfo ← if stripped then pure [] else lines length lineCount
  pure (prototypeOf length withComplex lineCount lineInfo, entries)

def prototype (length : Nat) (stripped withComplex : Bool) (lineCount : Nat) :
    Except Fault Bytes := do
  let (prototype, entries) ← contents length stripped withComplex lineCount
  pure (Write.prototype .little stripped prototype entries)

def dump (length prototypeCount : Nat) (stripped : Bool) (lineCount : Nat) : Except Fault Bytes := do
  let prototypes ← (List.range prototypeCount).mapM fun index =>
    contents length stripped (index = 0) lineCount
  let header : Header :=
    { version, flags := if stripped then 2 else 0, sourceName := if stripped then "" else "@bench.lua" }
  pure (Write.dump header prototypes)

end LuaBytecode.Sample.Jit
