import LuaBytecode.Measurement.SelfCheck

namespace LuaBytecode.Measurement

open Text

structure Setting where
  coverage : Runner
  coverageFile : Option Json
  shares : Option Runner
  checks : Option Runner
  status : Runner
  suite : String
  history : Option String
  started : Double
  ended : Double
  now : Json

structure Outcome where
  ending : Except Trouble Int
  history : Option String
  said : String := ""
  errors : String := ""

def isNameChar (c : Char) : Bool := c.isAlphanum || c = '_' || (0x80 ≤ c.toNat && !isSpace c)

def beginsBenchmark (text : List Char) : Bool :=
  match Json.Parse.behind? "def bench_".toList text with
  | none => false
  | some rest =>
    !(rest.takeWhile isNameChar).isEmpty && ((rest.dropWhile isNameChar).dropWhile isSpace).head? = some '('

def countBenchmarks (atStart : Bool) : List Char → Nat
  | [] => 0
  | c :: rest => (if atStart && beginsBenchmark (c :: rest) then 1 else 0) + countBenchmarks (c = '\n') rest

def suiteSize (suite : String) : Nat := countBenchmarks true (withLineFeeds suite.toList)

def negate (value : Double) : Double :=
  match value.fraction? with
  | some (n, d) => Double.ofFraction (-n) d
  | none => value

def difference (first second : Double) : Double := Check.sum first (negate second)

def historyLines (history : String) : List String := ((rows history).map strip).filter (· ≠ "")

-- The entries in front of the first line that holds none, and whether these are all.
def load : List String → List Json × Bool
  | [] => ([], true)
  | line :: rest =>
    match (Json.parse? line).filter Json.isObject with
    | some entry => (entry :: (load rest).1, (load rest).2)
    | none => ([], false)

def lowCounts (entries : List Json) : List Int :=
  entries.filterMap fun entry =>
    match entry.member? "n_below_repo_time" with
    | some (.int count) => some count
    | some (.bool value) => some (if value then 1 else 0)
    | _ => none

def isZero : Json → Bool
  | .int value => value = 0
  | .num value => value.fraction?.any fun (n, _) => n = 0
  | .null => true
  | _ => false

def sinceLast (entries : List Json) (now : Json) : Except Trouble Json :=
  match entries.getLast?.bind (·.member? "ts") with
  | none => .ok (.num ⟨0⟩)
  | some last =>
    if isZero last then .ok (.num ⟨0⟩)
    else
      match now, last with
      | .int n, .int before => .ok (.int (n - before))
      | _, _ => do
        let n ← toDouble now
        let before ← toDouble last
        pure (.num ((difference n before).roundTo 2))

def complaint (name : String) (trouble : Trouble) : String :=
  "[" ++ name ++ " runner: " ++ trouble.kind ++ ": " ++ trouble.message ++ "]\n"

def runnerReport (name : String) (process : Option Runner) : Option Json × String :=
  match process with
  | none => (none, "")
  | some (.failed message) => (none, complaint name (.notStarted message))
  | some (.ended _ output errors) =>
    match report output with
    | .error trouble => (none, errors ++ complaint name trouble)
    | .ok json => (some json, errors)

def readShares (process : Option Runner) : Shares × String :=
  match runnerReport "repotime" process with
  | (none, errors) => ({}, errors)
  | (some json, errors) =>
    match Shares.ofReport json with
    | .ok shares => (shares, errors)
    | .error trouble => ({}, errors ++ complaint "repotime" trouble)

def readChecks (process : Option Runner) : Checks × String :=
  match runnerReport "semcheck" process with
  | (none, errors) => ({}, errors)
  | (some json, errors) =>
    let checks := Checks.collect ((json.member? "semcheck").getD .null).members
    match checks.trouble with
    | none => (checks, errors)
    | some trouble => (checks, errors ++ complaint "semcheck" trouble)

structure Findings where
  round : Nat
  benchmarks : Nat
  coverage : Coverage
  shares : Shares
  verdicts : List (String × Verdict)
  seconds : Double

namespace Findings

def bad (findings : Findings) : Nat :=
  (findings.verdicts.filter fun (_, verdict) => !verdict.isGood).length

def summary (findings : Findings) : String :=
  let parts :=
    [s!"{findings.benchmarks} benches", findings.coverage.percent.fixed 1 ++ "% covered"] ++
      (if findings.shares.shares.isEmpty then []
      else [s!"{findings.shares.low}/{findings.shares.readings} below repo_time 45%"]) ++
      (if findings.verdicts.isEmpty then []
      else [s!"{findings.bad}/{findings.verdicts.length} not self-checking"]) ++
      ["measured in " ++ findings.seconds.fixed 1 ++ "s"]
  s!"\n[round {findings.round}: " ++ String.intercalate ", " parts ++ "]"

def entry (findings : Findings) (now wall : Json) : String :=
  (Json.obj [("round", .int findings.round), ("ts", now), ("wall_since_prev_s", wall),
    ("coverage_pct", .num findings.coverage.percent),
    ("covered_lines", .int findings.coverage.covered),
    ("num_statements", .int findings.coverage.statements),
    ("n_bench_fns", .int findings.benchmarks),
    ("n_bench_errors", .int findings.coverage.errors.length),
    ("cov_measure_s", .num (findings.seconds.roundTo 3)),
    ("repo_time_pct", .obj (findings.shares.shares.map fun (name, share) => (name, .num share))),
    ("n_below_repo_time", match findings.shares.lowCount? with
      | some count => .int count
      | none => .null),
    ("semcheck", .obj (findings.verdicts.map fun (name, verdict) => (name, .str verdict.text))),
    ("n_not_self_checking", .int findings.bad)]).compact ++ "\n"

def plateau? (findings : Findings) (history : List Int) : Option Plateau :=
  if reaches findings.coverage.percent 60 then findings.shares.lowCount?.bind (Measurement.plateau? history)
  else none

end Findings

def statusPaths : Runner → List String
  | .ended _ output _ => changedPaths output
  | .failed _ => []

-- The entries that can be loaded from a history, and the seconds since the last one: none if something
-- is wrong with the history, which is otherwise passed over.
def readHistory (setting : Setting) : List Json × Json :=
  let (entries, isWhole) := load (historyLines (setting.history.getD ""))
  (entries, if isWhole then (sinceLast entries setting.now).toOption.getD (.num ⟨0⟩) else .num ⟨0⟩)

def Findings.ofSetting (setting : Setting) (coverage : Coverage) (entries : List Json) : Findings :=
  { round := entries.length + 1, benchmarks := suiteSize setting.suite, coverage,
    shares := (readShares setting.shares).1,
    verdicts := (readChecks setting.checks).1.verdicts (!(statusPaths setting.status).isEmpty),
    seconds := difference setting.ended setting.started }

def Findings.lines (findings : Findings) (setting : Setting) : List String :=
  let paths := statusPaths setting.status
  findings.coverage.table ++ findings.coverage.errorLines ++ findings.shares.lines ++ changeLines paths ++
    (readChecks setting.checks).1.lines (!paths.isEmpty) ++ [findings.summary]

def reportOn (setting : Setting) (coverage : Coverage) : Outcome :=
  let (entries, wall) := readHistory setting
  let findings := Findings.ofSetting setting coverage entries
  let stop := findings.plateau? (lowCounts entries)
  { ending := .ok 0
    history := some (setting.history.getD "" ++ findings.entry setting.now wall)
    said := lines (findings.lines setting ++ (stop.map Plateau.line).toList)
    errors := (readShares setting.shares).2 ++ (readChecks setting.checks).2 }

def run (setting : Setting) : Outcome :=
  match setting.coverage with
  | .failed message => { ending := .error (.notStarted message), history := setting.history }
  | .ended code output errors =>
    match code, setting.coverageFile with
    | 0, some file =>
      match Coverage.ofJson file with
      | .ok coverage =>
        let outcome := reportOn setting coverage
        { outcome with errors := errors ++ outcome.errors }
      | .error trouble => { ending := .error trouble, history := setting.history, errors }
    | _, _ =>
      { ending := .ok (if code = 0 then 1 else code), history := setting.history
        said := lines [s!"coverage measurement failed (exit {code})", output], errors }

end LuaBytecode.Measurement
