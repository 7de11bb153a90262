import LuaBytecode.Bytes
import LuaBytecode.Fault
/-!
Readers over a chunk. An input keeps its place, what it has learnt about the layout and what it
has reported, and a reader hands all of it on, also when it fails.
-/
namespace LuaBytecode

structure Input where
  pos : Nat := 0
  rest : Bytes
  layout : Layout := {}
  said : String := ""
deriving DecidableEq, Repr

def Input.total (input : Input) : Nat := input.pos + input.rest.length

def Reader (α : Type) : Type := Input → Except Fault α × Input

namespace Reader

variable {α β : Type}

protected def pure (value : α) : Reader α := fun input => (.ok value, input)

protected def bind (first : Reader α) (next : α → Reader β) : Reader β := fun input =>
  match first input with
  | (.ok value, after) => next value after
  | (.error fault, after) => (.error fault, after)

instance : Monad Reader where
  pure := Reader.pure
  bind := Reader.bind

theorem pure_apply (value : α) (input : Input) : (pure value : Reader α) input = (.ok value, input) :=
  rfl

theorem bind_of_ok {first : Reader α} {next : α → Reader β} {input after : Input} {value : α}
    (done : first input = (.ok value, after)) : (first >>= next) input = next value after := by
  show Reader.bind first next input = _
  simp [Reader.bind, done]

theorem bind_of_error {first : Reader α} {next : α → Reader β} {input after : Input}
    {fault : Fault} (done : first input = (.error fault, after)) :
    (first >>= next) input = (.error fault, after) := by
  show Reader.bind first next input = _
  simp [Reader.bind, done]

def fail (fault : Fault) : Reader α := fun input => (.error fault, input)

def require (holds : Bool) (fault : Fault) : Reader Unit :=
  if holds then pure () else fail fault

def say (text : String) : Reader Unit := fun input =>
  (.ok (), { input with said := input.said ++ text })

def sayLine (text : String) : Reader Unit := say (text ++ "\n")

def layout : Reader Layout := fun input => (.ok input.layout, input)

def setLayout (layout : Layout) : Reader Unit := fun input => (.ok (), { input with layout })

-- Exactly so many bytes; the input stays where it is if it holds fewer.
def take (count : Nat) (short : Input → Fault) : Reader Bytes := fun input =>
  match Bytes.split? count input.rest with
  | none => (.error (short input), input)
  | some (taken, rest) => (.ok taken, { input with pos := input.pos + count, rest })

-- The next so many bytes, fewer at the end of the input.
def takeUpTo (count : Nat) : Reader Bytes := fun input =>
  let taken := input.rest.take count
  (.ok taken, { input with pos := input.pos + taken.length, rest := input.rest.drop count })

def takeAll : Reader Bytes := fun input =>
  (.ok input.rest, { input with pos := input.pos + input.rest.length, rest := [] })

def scan {σ : Type} (step : σ → UInt8 → σ ⊕ Except Fault α) (short : Fault) (state : σ) :
    Bytes → (pos : Nat) → Except Fault α × Nat × Bytes
  | [], pos => (.error short, pos, [])
  | byte :: rest, pos =>
    match step state byte with
    | .inl next => scan step short next rest (pos + 1)
    | .inr result => (result, pos + 1, rest)

def scanning {σ : Type} (step : σ → UInt8 → σ ⊕ Except Fault α) (short : Fault) (state : σ) :
    Reader α := fun input =>
  let (result, pos, rest) := scan step short state input.rest input.pos
  (result, { input with pos, rest })

def peek (count : Nat) (short : Fault) : Reader Bytes := fun input =>
  match Bytes.split? count input.rest with
  | none => (.error short, input)
  | some (taken, _) => (.ok taken, input)

-- The outcome of a reader, which may be a fault; the input stays where the reader left it.
def attempt (reader : Reader α) : Reader (Except Fault α) := fun input =>
  let (result, after) := reader input
  (.ok result, after)

def atEnd : Reader Bool := fun input => (.ok input.rest.isEmpty, input)

def withSpan (reader : Reader α) : Reader (α × Bytes) := fun input =>
  match reader input with
  | (.ok value, after) => (.ok (value, input.rest.take (after.pos - input.pos)), after)
  | (.error fault, after) => (.error fault, after)

def times : Nat → Reader α → Reader (List α)
  | 0, _ => pure []
  | count + 1, reader => do
    let head ← reader
    let tail ← times count reader
    pure (head :: tail)

def timesInt (count : Int) (reader : Reader α) : Reader (List α) := times count.toNat reader

def fixed (order : ByteOrder) (width : Nat) (bytes : Bytes) : Reader Nat :=
  if bytes.length = width then pure (order.decode bytes) else fail (.width width)

def bounded (count : Nat) : Reader Bytes :=
  take count fun input => .outOfBounds input.pos count input.total

def boundedByte : Reader Nat := do
  let taken ← bounded 1
  pure (Bytes.toNat taken)

-- A reader that nests. Every level reads a byte before it goes deeper, so there are no more
-- levels than unread bytes.
def nested (reader : (depth : Nat) → Reader α) : Reader α := fun input =>
  reader (input.rest.length + 1) input

def ofExcept : Except Fault α → Reader α
  | .ok value => pure value
  | .error fault => fail fault

end Reader

end LuaBytecode
