import LuaBytecode.Measurement.Coverage

namespace LuaBytecode.Measurement

open Text

def isBelow (value : Double) (bound : Int) : Bool :=
  match Constant.point? (.num value) with
  | some point => point.compare (.at bound 1) = .lt
  | none => false

def reaches (value : Double) (bound : Int) : Bool := !value.isNaN && !isBelow value bound

-- A share is read unless it is negative, which marks an error.
def isReading (share : Double) : Bool := reaches share 0

def isLow (share : Double) : Bool := isReading share && isBelow share 45

structure Shares where
  shares : List (String × Double) := []
  hot : List (String × List (Double × String)) := []
deriving DecidableEq, Repr

namespace Shares

def hotEntry (json : Json) : Except Trouble (Double × String) :=
  match json.items with
  | [percent, .str name] => do pure (← toDouble percent, name)
  | _ => .error .noLine

def ofReport (json : Json) : Except Trouble Shares := do
  let shares ← ((json.member? "repo_time_pct").getD .null).members.mapM fun (name, value) => do
    pure (name, ← toDouble value)
  let hot ← ((json.member? "hot_ext").getD .null).members.mapM fun (name, value) => do
    pure (name, ← value.items.mapM hotEntry)
  pure { shares, hot }

def readings (shares : Shares) : Nat := (shares.shares.filter (isReading ·.2)).length

def low (shares : Shares) : Nat := (shares.shares.filter (isLow ·.2)).length

def lowCount? (shares : Shares) : Option Nat :=
  if shares.readings = 0 then none else some shares.low

def hotText (entries : List (Double × String)) : String :=
  if entries.isEmpty then ""
  else
    " (hot: " ++ String.intercalate " " (entries.map fun (percent, name) =>
      name ++ " " ++ percent.fixed 0 ++ "%") ++ ")"

def row (shares : Shares) (name : String) (share : Double) : String :=
  let shown := if isReading share then share else ⟨0⟩
  "  " ++ (if isLow share then "*" else " ") ++ " " ++ padRight 32 name ++ " " ++
    padLeft 5 (shown.fixed 1) ++ "%" ++
    (if !isReading share then "  <error>"
    else if isLow share then hotText ((shares.hot.lookup name).getD [])
    else "")

def lines (shares : Shares) : List String :=
  if shares.shares.isEmpty then []
  else
    "\nrepo_time (target 50%; * = below 45%):" ::
      (shares.shares.mergeSort fun first second => compareDoubles first.2 second.2).map
        fun (name, share) => shares.row name share

end Shares

-- The least count so far, and the rounds since it first came up.
structure Standing where
  least : Int
  rounds : Nat
deriving DecidableEq, Repr

namespace Standing

def after (before : Option Standing) (count : Int) : Standing :=
  match before with
  | none => { least := count, rounds := 0 }
  | some standing =>
    if count < standing.least then { least := count, rounds := 0 }
    else { standing with rounds := standing.rounds + 1 }

def ofCounts (counts : List Int) : Option Standing :=
  counts.foldl (fun before count => some (after before count)) none

end Standing

inductive Plateau where
  | nothingLow
  | stagnant (rounds : Nat) (least : Int)
deriving DecidableEq, Repr

-- Nothing is low, or three rounds or more have not brought a lower count.
def plateau? (history : List Int) (current : Nat) : Option Plateau :=
  if current = 0 then some .nothingLow
  else
    let standing := Standing.after (Standing.ofCounts history) current
    if 3 ≤ standing.rounds then some (.stagnant standing.rounds standing.least) else none

def Plateau.reason : Plateau → String
  | nothingLow => "0 below"
  | stagnant rounds least => s!"no improvement in {rounds} rounds; best {least} below"

def Plateau.line (plateau : Plateau) : String :=
  "\n>>> STOP: repo_time converged (" ++ plateau.reason ++
    "). Finalize microbench.py now. <<<"

end LuaBytecode.Measurement
