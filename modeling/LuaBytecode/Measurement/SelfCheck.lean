import LuaBytecode.Measurement.Share

namespace LuaBytecode.Measurement

open Text

inductive Verdict where
  | ok
  | okWithoutParameters
  | error
  | returnsNone
  | unstable
  | returnsInput
  | lowShare
  | tooFast
  | parameterInvariant
  | modified
deriving DecidableEq, Repr

namespace Verdict

def text : Verdict → String
  | ok => "ok"
  | okWithoutParameters => "ok-unparam"
  | error => "error"
  | returnsNone => "returns-none"
  | unstable => "unstable"
  | returnsInput => "returns-input"
  | lowShare => "low-repo-time"
  | tooFast => "too-fast"
  | parameterInvariant => "param-invariant"
  | modified => "repo-modified"

def isGood (verdict : Verdict) : Bool := verdict = ok || verdict = okWithoutParameters

end Verdict

structure Check where
  kind : Option String
  stable : List String
  ofParameters : List String
  byParameter : List String
  shares : List Double
  times : List Double
deriving DecidableEq, Repr

def textOf : Json → String
  | .str text => text
  | other => other.compact

def doubles (json : Json) : Except Trouble (List Double) :=
  json.members.mapM fun (_, value) => toDouble value

namespace Check

def ofJson (json : Json) : Except Trouble Check := do
  let member (name : String) : Json := (json.member? name).getD .null
  let shares ← doubles (member "repo_frac")
  let times ← doubles (member "repo_tt_ms")
  pure
    { kind := match member "ret_type" with
        | .str text => if text = "" then none else some text
        | _ => none
      stable := (member "fp_stable").items.map textOf
      ofParameters := (member "param_fps").items.map textOf
      byParameter := (member "fp_by_param").members.map fun (_, value) => textOf value
      shares, times }

def share (check : Check) : Double :=
  (check.shares.mergeSort compareDoubles).headD ⟨0⟩

def sum (first second : Double) : Double :=
  match first.fraction?, second.fraction? with
  | some (n, d), some (n', d') => Double.ofFraction (n * d' + n' * d) (d * d')
  | none, _ => first
  | _, none => second

def half (value : Double) : Double :=
  match value.fraction? with
  | some (n, d) => Double.ofFraction n (2 * d)
  | none => value

def time (check : Check) : Double :=
  let sorted := check.times.mergeSort compareDoubles
  let middle := sorted.length / 2
  match sorted[middle - 1]?, sorted[middle]? with
  | some low, some high => if sorted.length % 2 = 0 then half (sum low high) else high
  | _, _ => ⟨0⟩

def allSame (texts : List String) : Bool :=
  match texts with
  | [] => true
  | first :: rest => rest.all (· = first)

def isLowShare (check : Check) : Bool :=
  !check.shares.isEmpty &&
    match Constant.point? (.num check.share) with
    | some point => point.compare (.at 1 2) = .lt
    | none => false

def returnsInput (check : Check) : Bool :=
  match check.stable with
  | first :: _ => check.ofParameters.contains first
  | [] => false

-- The kind of a run that failed is written in angle brackets.
def isFailed (check : Check) : Bool :=
  match check.kind with
  | some text => text.toList.head? = some '<'
  | none => false

def isTooFast (check : Check) : Bool := !check.times.isEmpty && isBelow check.time 1

def verdict (check : Check) : Verdict :=
  if check.isFailed then .error
  else if check.kind = some "NoneType" then .returnsNone
  else if check.stable.isEmpty || !allSame check.stable then .unstable
  else if check.returnsInput then .returnsInput
  else if check.isLowShare then .lowShare
  else if check.isTooFast then .tooFast
  else if check.byParameter.length < 2 then .okWithoutParameters
  else if allSame check.byParameter then .parameterInvariant
  else .ok

def percent (value : Double) : Double :=
  match value.fraction? with
  | some (n, d) => Double.ofFraction (100 * n) d
  | none => value

def row (name : String) (verdict : Verdict) (check : Check) : String :=
  "  " ++ (if verdict.isGood then " " else "*") ++ " " ++ padRight 32 name ++ " " ++
    padRight 16 verdict.text ++ " (" ++ check.kind.getD "?" ++ ", repo " ++
    (percent check.share).fixed 0 ++ "%) " ++ check.time.fixed 1 ++ "ms"

end Check

structure Checks where
  checks : List (String × Check) := []
  trouble : Option Trouble := none
deriving DecidableEq, Repr

namespace Checks

def collect : List (String × Json) → Checks
  | [] => {}
  | (name, value) :: members =>
    match value with
    | .obj _ =>
      match Check.ofJson value with
      | .error trouble => { trouble := some trouble }
      | .ok check =>
        let rest := collect members
        { rest with checks := (name, check) :: rest.checks }
    | _ => collect members

def legend : List String :=
  ["\nself-check (* = fix needed):",
    "  returns-none: run() has no return — collect and return the call results",
    "  unstable: seed RNG in setup; avoid time/uuid/id in the return",
    "  returns-input: return repo output, not the parameter value",
    "  low-repo-time: <50% of run() time is in repo code — move glue to setup",
    "  param-invariant: return something derived from run()'s work, not setup",
    "  repo-modified: revert edits to repo files (git checkout -- <path>)"]

-- A change of the measured code overrides every verdict.
def verdicts (checks : Checks) (isModified : Bool) : List (String × Verdict) :=
  checks.checks.map fun (name, check) =>
    (name, if isModified then .modified else check.verdict)

-- What needs to be mended comes first.
def lines (checks : Checks) (isModified : Bool) : List String :=
  if checks.checks.isEmpty then []
  else
    let judged := (checks.verdicts isModified).zip (checks.checks.map Prod.snd)
    let inOrder := judged.mergeSort fun first second => !first.1.2.isGood || second.1.2.isGood
    legend ++ inOrder.map fun ((name, verdict), check) => check.row name verdict

end Checks

def changedPaths (status : String) : List String :=
  (rows status).filterMap fun line =>
    if line.toList.all isSpace then none else some (String.ofList (line.toList.drop 3))

def changeLines (paths : List String) : List String :=
  if paths.isEmpty then []
  else
    (s!"\n** repo modified ({paths.length} file(s)) — revert these; " ++
      "only microbench.py is yours to edit:") :: (paths.take 10).map ("   " ++ ·)

end LuaBytecode.Measurement
