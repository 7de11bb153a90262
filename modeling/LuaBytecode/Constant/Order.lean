import LuaBytecode.Constant
/-!
Which constants are equal and which come first. Truth values count as the numbers one and zero, a
whole number may equal a double, and what is not a number equals nothing and precedes nothing.
-/
namespace LuaBytecode.Constant

inductive Point where
  | below
  | at (numerator : Int) (denominator : Nat)
  | above
deriving DecidableEq, Repr

namespace Point

def compare : Point → Point → Ordering
  | below, below => .eq
  | below, _ => .lt
  | _, below => .gt
  | above, above => .eq
  | above, _ => .gt
  | _, above => .lt
  | .at n d, .at n' d' => Ord.compare (n * (d' : Int)) (n' * (d : Int))

end Point

inductive Kind where
  | number
  | string
  | other
deriving DecidableEq, Repr

def kind : Constant → Kind
  | bool _ => .number
  | int _ => .number
  | num _ => .number
  | str _ => .string
  | nil => .other
  | emptyList => .other

def point? : Constant → Option Point
  | bool value => some (.at (if value then 1 else 0) 1)
  | int value => some (.at value 1)
  | num value =>
    match value.view with
    | .nan => none
    | .infinite negative => some (if negative then .below else .above)
    | .finite .. => value.fraction?.map fun (numerator, denominator) => .at numerator denominator
  | _ => none

def equal (first second : Constant) : Bool :=
  match first.kind, second.kind with
  | .number, .number =>
    match first.point?, second.point? with
    | some p, some q => p.compare q = .eq
    | _, _ => false
  | _, _ => decide (first = second)

def atMost (first second : Constant) : Bool :=
  match first, second with
  | str text, str text' => !decide (text' < text)
  | _, _ =>
    match first.point?, second.point? with
    | some p, some q => p.compare q ≠ .gt
    | _, _ => true

def comparable (constants : List Constant) : Bool :=
  constants.length ≤ 1 || constants.all (·.kind = .number) || constants.all (·.kind = .string)

def sort (constants : List Constant) : Except (String × String) (List Constant) :=
  if comparable constants then .ok (constants.mergeSort atMost)
  else
    match constants with
    | first :: rest =>
      let other := (rest.find? fun each => each.kind ≠ first.kind || each.kind = .other).getD first
      .error (other.typeName, first.typeName)
    | [] => .ok []

structure Reference where
  function : Nat
  slot : Nat
  constant : Constant
deriving DecidableEq, Repr

-- One slot holds one value even where it does not equal itself.
def Reference.same (first second : Reference) : Bool :=
  (first.function = second.function && first.slot = second.slot) ||
    first.constant.equal second.constant

def insert (known : List Reference) (each : Reference) : List Reference :=
  if known.any (·.same each) then known else known ++ [each]

def union (known more : List Reference) : List Reference := more.foldl insert known

def distinct (references : List Reference) : List Reference := union [] references

end LuaBytecode.Constant
