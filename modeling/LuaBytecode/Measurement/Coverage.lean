import LuaBytecode.Measurement.Reading
import LuaBytecode.Text.Layout

namespace LuaBytecode.Measurement

open Text

structure FileCoverage where
  name : String
  statements : Int
  missing : Int
  percent : Double
  missingLines : List Int
deriving DecidableEq, Repr

structure Coverage where
  files : List FileCoverage
  errors : List (String × String)
  covered : Int
  statements : Int
  percent : Double
deriving DecidableEq, Repr

def root : String := "/repo/"

def shortName (path : String) : String :=
  if root.toList.isPrefixOf path.toList then String.ofList (path.toList.drop root.length) else path

def doubleMember (name : String) (object : Json) : Except Trouble Double :=
  match object.member? name with
  | some value => toDouble value
  | none => .ok ⟨0⟩

def fileCoverage (path : String) (file : Json) : Except Trouble FileCoverage := do
  let summary := (file.member? "summary").getD (.obj [])
  let percent ← doubleMember "percent_covered" summary
  pure
    { name := shortName path, statements := intMember "num_statements" summary,
      missing := intMember "missing_lines" summary, percent,
      missingLines := ((file.member? "missing_lines").getD .null).items.map toInt }

def errorText : Json → String
  | .str text => text
  | other => other.compact

namespace Coverage

def ofJson (json : Json) : Except Trouble Coverage := do
  let totals := (json.member? "totals").getD (.obj [])
  let percent ← doubleMember "percent_covered" totals
  let files ← ((json.member? "files").getD .null).members.mapM fun (path, file) =>
    fileCoverage path file
  let notes := (json.member? "meta").getD .null
  pure
    { files, percent, covered := intMember "covered_lines" totals,
      statements := intMember "num_statements" totals,
      errors := ((notes.member? "_pti_bench_errors").getD .null).members.map fun (name, text) =>
        (name, errorText text) }

-- Less covered files come first, and of two that are covered alike the one with more
-- statements.
def comesFirst (first second : FileCoverage) : Bool :=
  if compareDoubles second.percent first.percent then
    compareDoubles first.percent second.percent && decide (second.statements ≤ first.statements)
  else true

def inOrder (coverage : Coverage) : List FileCoverage := coverage.files.mergeSort comesFirst

def widest : Nat := 60

def mostRows : Nat := 120

def width (coverage : Coverage) : Nat :=
  if coverage.files.isEmpty then 4
  else min widest (coverage.files.foldl (fun width file => max width file.name.length) 0)

def cells (width : Nat) (name : String) (statements missing : Int) (percent : Double) : String :=
  padRight width name ++ "  " ++ padLeft 5 (decimal statements) ++ "  " ++
    padLeft 4 (decimal missing) ++ "  " ++ padLeft 4 (percent.fixed 0) ++ "%"

def missingText (lines : List Int) : String :=
  String.intercalate "," ((lines.take 12).map decimal) ++ (if 12 < lines.length then "…" else "")

def table (coverage : Coverage) : List String :=
  let width := coverage.width
  let rule := times (width + 42) "-"
  [padRight width "Name" ++ "  Stmts  Miss  Cover  Missing", rule] ++
    (coverage.inOrder.take mostRows).map (fun file =>
      cells width (String.ofList (file.name.toList.take width)) file.statements file.missing
        file.percent ++ "  " ++ missingText file.missingLines) ++
    [rule, cells width "TOTAL" coverage.statements (coverage.statements - coverage.covered)
      coverage.percent]

def errorLines (coverage : Coverage) : List String :=
  if coverage.errors.isEmpty then []
  else
    s!"\n{coverage.errors.length} bench error(s):" ::
      (coverage.errors.take 8).map fun (name, text) => "  " ++ name ++ ": " ++ text

end Coverage

end LuaBytecode.Measurement
