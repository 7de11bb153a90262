import LuaBytecode.Reader
import LuaBytecode.Text.Utf8
import LuaBytecode.Jit.Prototype

namespace LuaBytecode.Jit

namespace Read

open Reader

def fixedWidth (width : Nat) : Reader Nat := do
  let taken ← take width fun _ => .fixedEnd
  pure (Bytes.toNat taken)

def byte : Reader Nat := fixedWidth 1

def varintStep (state : Nat × Nat) (byte : UInt8) : (Nat × Nat) ⊕ Except Fault Nat :=
  let (value, shift) := state
  let next := value + byte.toNat % 128 * 2 ^ shift
  if byte.toNat < 128 then .inr (.ok next)
  else if 35 ≤ shift + 7 then .inr (.error .varintTooLong)
  else .inl (next, shift + 7)

def varint : Reader Nat := scanning varintStep .varintEnd (0, 0)

def lowStep (state : Nat × Nat) (byte : UInt8) : (Nat × Nat) ⊕ Except Fault Nat :=
  let (value, shift) := state
  let next := value + byte.toNat % 128 * 2 ^ shift
  if byte.toNat < 128 ∨ 32 ≤ shift + 7 then .inr (.ok next) else .inl (next, shift + 7)

-- A number whose lowest bit says whether it is one half of a double: six bits in the first byte,
-- then groups of seven. The other half follows as a number of its own.
def taggedVarint : Reader ((Nat × Nat) × Bool) := do
  let taken ← take 1 fun _ => .taggedVarintEnd
  let first := Bytes.toNat taken
  let isNumber := first % 2 = 1
  let start := first / 2 % 64
  let low ← if 128 ≤ first then scanning lowStep .taggedVarintEnd (start, 6) else pure start
  let high ← if isNumber then varint else pure 0
  pure ((low, high), isNumber)

def string (length : Nat) : Reader String := do
  let taken ← take length fun _ => .stringEnd
  pure (Text.Utf8.decodeOrBytewise taken)

def terminatedStep (passed : Bytes) (byte : UInt8) : Bytes ⊕ Except Fault Bytes :=
  if byte = 0 then .inr (.ok passed.reverse) else .inl (byte :: passed)

def terminatedString : Reader String := do
  let taken ← scanning terminatedStep .terminatorEnd []
  pure (Text.Utf8.decodeOrBytewise taken)

-- Two halves of 32 bits; a low half that is too wide runs into the high one.
def joinHalves (low high : Nat) : Nat := low ||| high * 2 ^ 32

def doubleOfHalves (low high : Nat) : Except Fault Double :=
  let n := joinHalves low high
  if n < 2 ^ 64 then .ok ⟨UInt64.ofNat n⟩ else .error .longRange

def double : Reader Double := do
  let low ← varint
  let high ← varint
  ofExcept (doubleOfHalves low high)

def tableItem : Reader Constant := do
  let tag ← varint
  match tag with
  | 0 => pure .nil
  | 1 => pure (.bool false)
  | 2 => pure (.bool true)
  | 3 => do
    let n ← varint
    pure (.int n)
  | 4 => do
    let value ← double
    pure (.num value)
  | length + 5 => do
    let text ← string length
    pure (.str text)

def tablePair : Reader (Constant × Constant) := do
  let key ← tableItem
  let value ← tableItem
  pure (key, value)

def table : Reader Table := do
  let arrayCount ← varint
  let hashCount ← varint
  let array ← times arrayCount tableItem
  let hash ← times hashCount tablePair
  pure { array, hash }

def collectable : Reader Collectable := do
  let tag ← varint
  match tag with
  | 0 => pure .child
  | 1 => do
    let table ← table
    pure (.table table)
  | 2 => do
    let low ← varint
    let high ← varint
    let n := joinHalves low high
    pure (.i64 (if n < 2 ^ 63 then n else (n : Int) - 2 ^ 64))
  | 3 => do
    let low ← varint
    let high ← varint
    pure (.u64 (joinHalves low high))
  | 4 => do
    let realLow ← varint
    let realHigh ← varint
    let imaginaryLow ← varint
    let imaginaryHigh ← varint
    let real ← ofExcept (doubleOfHalves realLow realHigh)
    let imaginary ← ofExcept (doubleOfHalves imaginaryLow imaginaryHigh)
    pure (.complex real imaginary)
  | length + 5 => do
    let text ← string length
    pure (.str text)

def number : Reader Number := do
  let ((low, high), isNumber) ← taggedVarint
  if isNumber then
    let value ← ofExcept (doubleOfHalves low high)
    pure (.num value)
  else pure (.int (if low < 2 ^ 31 then low else (low : Int) - 2 ^ 32))

def asInt (reader : Reader Nat) : Reader Int := do
  let n ← reader
  pure n

-- Line numbers are as wide as the count of lines needs.
def lineWidth (lineCount : Nat) : Nat :=
  if 65536 ≤ lineCount then 4 else if 256 ≤ lineCount then 2 else 1

-- The names of variables up to a zero byte or the end of the input; kinds below seven stand for
-- names of the compiler's own. `fuel` bounds how many there are.
def variableNames : (fuel : Nat) → Reader (List String)
  | 0 => pure []
  | fuel + 1 => do
    if ← atEnd then pure []
    else
      let kind ← byte
      if kind = 0 then pure []
      else
        let name ← if 7 ≤ kind then terminatedString else pure s!"<type_{kind}>"
        let _ ← varint
        let _ ← varint
        let names ← variableNames fuel
        pure (name :: names)

structure Debug where
  lineInfo : List Int := []
  upvalueNames : List String := []
  variableNames : List String := []
deriving DecidableEq, Repr

def debugWith (names : Reader (List String)) (codeCount upvalueCount lineCount : Nat) :
    Reader Debug := do
  let lineInfo ←
    if lineCount = 0 then pure [] else times codeCount (asInt (fixedWidth (lineWidth lineCount)))
  let upvalueNames ← times upvalueCount terminatedString
  let variableNames ← names
  pure { lineInfo, upvalueNames, variableNames }

def bodyWith (names : Reader (List String)) (size : Nat) : Reader Prototype := do
  let flags ← byte
  let paramCount ← byte
  let frameSize ← byte
  let upvalueCount ← byte
  let collectableCount ← varint
  let numberCount ← varint
  let codeCount ← varint
  let stripped := (← layout).stripped
  let debugSize ← if stripped then pure 0 else varint
  let firstLine ← if stripped then pure 0 else varint
  let lineCount ← if stripped then pure 0 else varint
  let code ← times codeCount (asInt (fixedWidth 4))
  let upvalueData ← times upvalueCount (asInt (fixedWidth 2))
  let collectables ← times collectableCount collectable
  let numbers ← times numberCount number
  let debug ←
    if stripped ∨ debugSize = 0 then pure {}
    else debugWith names codeCount upvalueCount lineCount
  pure
    { size, flags, paramCount, frameSize, upvalueCount, collectableCount, numberCount, codeCount,
      debugSize, firstLine, lineCount, code, upvalueData, collectables, numbers,
      lineInfo := debug.lineInfo, upvalueNames := debug.upvalueNames,
      variableNames := debug.variableNames }

def prototypeWith (names : Reader (List String)) : Reader Prototype := do
  let size ← varint
  if size = 0 then pure {} else bodyWith names size

def debug : (codeCount upvalueCount lineCount : Nat) → Reader Debug :=
  debugWith (nested variableNames)

def body : (size : Nat) → Reader Prototype := bodyWith (nested variableNames)

def prototype : Reader Prototype := prototypeWith (nested variableNames)

-- Another version than the known one is only warned about.
def header : Reader Header := do
  let found ← peek 3 .signatureEnd
  require (found = signature) (.badJitSignature found)
  let _ ← take 3 fun _ => .signatureEnd
  let foundVersion ← byte
  if foundVersion ≠ version then
    sayLine s!"警告: 版本不匹配，期望 {version}，实际 {foundVersion}"
  let flags ← varint
  let stripped := flags / 2 % 2 = 1
  setLayout { (← layout) with stripped }
  let length ← if stripped then pure 0 else varint
  let sourceName ← if length = 0 then pure "" else string length
  pure { version := foundVersion, flags, sourceName }

def prototypes : (fuel : Nat) → Reader (List Prototype)
  | 0 => pure []
  | fuel + 1 => do
    if ← atEnd then pure []
    else
      match ← attempt prototype with
      | .error fault => do
        sayLine ("警告: 读取 Proto 时出错: " ++ fault.message)
        pure []
      | .ok first =>
        if first.size = 0 then pure []
        else do
          let rest ← prototypes fuel
          pure (first :: rest)

def dump : Reader Dump := do
  let header ← header
  let prototypes ← nested prototypes
  pure { header, prototypes }

end Read

def parse (bytes : Bytes) : Except Fault Dump × Input := Read.dump { rest := bytes }

end LuaBytecode.Jit
