import LuaBytecode.Measurement.Report
import LuaBytecode.Proofs.Meaning
import LuaBytecode.Proofs.Text
import Mathlib.Algebra.Order.Field.Rat
import Mathlib.Data.List.Induction
/-!
When a report ends with a word to stop. The loop over the counts keeps only the least of them and the
rounds behind it; these two stand for the place where the least count first comes up.
-/
namespace LuaBytecode.Measurement

open Text

structure FirstLeast (counts : List Int) (index : Nat) (least : Int) : Prop where
  held : counts[index]? = some least
  least_le : ∀ count ∈ counts, least ≤ count
  lt_before : ∀ count ∈ counts.take index, least < count

namespace FirstLeast

variable {counts : List Int} {index : Nat} {least : Int}

theorem index_lt (first : FirstLeast counts index least) : index < counts.length :=
  (List.getElem?_eq_some_iff.mp first.held).1

theorem singleton (count : Int) : FirstLeast [count] 0 count where
  held := rfl
  least_le := by simp
  lt_before := by simp

theorem better (first : FirstLeast counts index least) {count : Int} (less : count < least) :
    FirstLeast (counts ++ [count]) counts.length count where
  held := List.getElem?_concat_length
  least_le := by
    intro each member
    rcases List.mem_append.mp member with earlier | last
    · exact Int.le_of_lt (Int.lt_of_lt_of_le less (first.least_le each earlier))
    · exact Int.le_of_eq (List.mem_singleton.mp last).symm
  lt_before := by
    intro each member
    rw [List.take_left] at member
    exact Int.lt_of_lt_of_le less (first.least_le each member)

-- A count that ties with the least one does not move the place.
theorem noBetter (first : FirstLeast counts index least) {count : Int} (more : least ≤ count) :
    FirstLeast (counts ++ [count]) index least where
  held := by rw [List.getElem?_append_left first.index_lt, first.held]
  least_le := by
    intro each member
    rcases List.mem_append.mp member with earlier | last
    · exact first.least_le each earlier
    · exact (List.mem_singleton.mp last) ▸ more
  lt_before := by
    intro each member
    rw [List.take_append_of_le_length (Nat.le_of_lt first.index_lt)] at member
    exact first.lt_before each member

theorem unique {other : Nat} {least' : Int} (first : FirstLeast counts index least)
    (second : FirstLeast counts other least') : index = other ∧ least = least' := by
  have same : least = least' := by
    have le := first.least_le _ (List.mem_of_getElem? second.held)
    have ge := second.least_le _ (List.mem_of_getElem? first.held)
    exact Int.le_antisymm le ge
  subst same
  have notBefore {i j : Nat} (one : FirstLeast counts i least) (two : FirstLeast counts j least) : ¬ i < j := by
    intro less
    have taken : least ∈ counts.take j := List.mem_of_getElem? (by rw [List.getElem?_take_of_lt less, one.held])
    exact Int.lt_irrefl least (two.lt_before least taken)
  exact ⟨Nat.le_antisymm (Nat.le_of_not_lt (notBefore second first)) (Nat.le_of_not_lt (notBefore first second)), rfl⟩

end FirstLeast

def Standing.Tracks (standing : Standing) (counts : List Int) : Prop :=
  ∃ index, FirstLeast counts index standing.least ∧ index + standing.rounds + 1 = counts.length

theorem tracks_after_some {standing : Standing} {counts : List Int} (tracks : standing.Tracks counts) (count : Int) :
    (Standing.after (some standing) count).Tracks (counts ++ [count]) := by
  obtain ⟨index, first, distance⟩ := tracks
  simp only [Standing.after]
  split
  case isTrue less => exact ⟨counts.length, first.better less, by simp⟩
  case isFalse more =>
    refine ⟨index, first.noBetter (Int.not_lt.mp more), ?_⟩
    rw [List.length_append, ← distance]
    rfl

theorem tracks_after_none (count : Int) : (Standing.after none count).Tracks [count] :=
  ⟨0, FirstLeast.singleton count, rfl⟩

-- The loop goes on from what it keeps of all counts but the last, so the induction is from the back.
theorem tracks_after_ofCounts (counts : List Int) (count : Int) :
    (Standing.after (Standing.ofCounts counts) count).Tracks (counts ++ [count]) := by
  induction counts using List.reverseRecOn generalizing count with
  | nil => exact tracks_after_none count
  | append_singleton counts last ih =>
    have step : Standing.ofCounts (counts ++ [last]) = some (Standing.after (Standing.ofCounts counts) last) := by
      rw [Standing.ofCounts, List.foldl_append]
      rfl
    rw [step]
    exact tracks_after_some (ih last) count

section plateau

variable {history : List Int} {current : Nat}

theorem plateau?_nothingLow_iff : plateau? history current = some .nothingLow ↔ current = 0 := by
  simp only [plateau?]
  split
  case isTrue zero => simp [zero]
  case isFalse low => split <;> simp [low]

theorem plateau?_of_low (low : current ≠ 0) :
    ∃ index rounds least, FirstLeast (history ++ [(current : Int)]) index least ∧ index + rounds = history.length ∧
      plateau? history current = if 3 ≤ rounds then some (.stagnant rounds least) else none := by
  obtain ⟨index, first, distance⟩ := tracks_after_ofCounts history current
  rw [List.length_append, List.length_singleton, Nat.add_right_cancel_iff] at distance
  exact ⟨index, _, _, first, distance, if_neg low⟩

theorem plateau?_stagnant_iff {rounds : Nat} {least : Int} (low : current ≠ 0) :
    plateau? history current = some (.stagnant rounds least) ↔
      3 ≤ rounds ∧ ∃ index, FirstLeast (history ++ [(current : Int)]) index least ∧ index + rounds = history.length := by
  obtain ⟨index, passed, best, first, distance, stop⟩ := @plateau?_of_low history current low
  rw [stop]
  constructor
  · intro same
    split at same
    case isTrue long =>
      cases same
      exact ⟨long, index, first, distance⟩
    case isFalse => cases same
  · rintro ⟨long, other, second, distance'⟩
    obtain ⟨rfl, rfl⟩ := first.unique second
    obtain rfl : passed = rounds := by omega
    rw [if_pos long]

theorem plateau?_none_iff (low : current ≠ 0) :
    plateau? history current = none ↔
      ∃ index least, FirstLeast (history ++ [(current : Int)]) index least ∧ history.length < index + 3 := by
  obtain ⟨index, passed, best, first, distance, stop⟩ := @plateau?_of_low history current low
  rw [stop]
  constructor
  · intro same
    split at same
    case isTrue => cases same
    case isFalse short => exact ⟨index, best, first, by omega⟩
  · rintro ⟨other, least, second, near⟩
    obtain ⟨rfl, rfl⟩ := first.unique second
    rw [if_neg (by omega)]

end plateau

-- The numerals end at blanks, so they can be read back.
theorem toList_stagnant (rounds : Nat) (least : Int) :
    (Plateau.stagnant rounds least).reason.toList = "no improvement in ".toList ++ ((decimal rounds).toList ++
      ' ' :: ("rounds; best ".toList ++ ((decimal least).toList ++ ' ' :: "below".toList))) := by
  have spelled : (Plateau.stagnant rounds least).reason =
      "no improvement in " ++ decimal rounds ++ " rounds; best " ++ decimal least ++ " below" := rfl
  have between : " rounds; best ".toList = ' ' :: "rounds; best ".toList := by decide
  have behind : " below".toList = ' ' :: "below".toList := by decide
  rw [spelled, String.toList_append, String.toList_append, String.toList_append, String.toList_append, between, behind]
  simp only [List.append_assoc, List.cons_append]

theorem nothingLow_ne_stagnant (rounds : Nat) (least : Int) :
    Plateau.nothingLow.reason ≠ (Plateau.stagnant rounds least).reason := by
  intro same
  have letters := congrArg String.toList same
  rw [toList_stagnant] at letters
  have first : (some '0' : Option Char) = some 'n' := congrArg List.head? letters
  exact absurd first (by decide)

theorem reason_injective {one other : Plateau} (same : one.reason = other.reason) : one = other := by
  cases one with
  | nothingLow =>
    cases other with
    | nothingLow => rfl
    | stagnant rounds least => exact absurd same (nothingLow_ne_stagnant rounds least)
  | stagnant rounds least =>
    cases other with
    | nothingLow => exact absurd same.symm (nothingLow_ne_stagnant rounds least)
    | stagnant rounds' least' =>
      have letters := congrArg String.toList same
      rw [toList_stagnant, toList_stagnant] at letters
      obtain ⟨count, rest⟩ := append_mark_inj (isWord_decimal _) (isWord_decimal _) (List.append_cancel_left letters)
      obtain ⟨best, -⟩ := append_mark_inj (isWord_decimal _) (isWord_decimal _) (List.append_cancel_left rest)
      have sameRounds := decimal_injective (String.toList_inj.mp count)
      have sameLeast := decimal_injective (String.toList_inj.mp best)
      rw [Int.ofNat.inj sameRounds, sameLeast]

theorem line_injective {one other : Plateau} (same : one.line = other.line) : one = other := by
  have spelled (plateau : Plateau) : plateau.line =
      "\n>>> STOP: repo_time converged (" ++ (plateau.reason ++ "). Finalize microbench.py now. <<<") :=
    String.append_assoc
  rw [spelled, spelled] at same
  have letters := congrArg String.toList (append_left_cancel same)
  rw [String.toList_append, String.toList_append] at letters
  exact reason_injective (String.toList_inj.mp (List.append_cancel_right letters))

theorem lines_stop_inj {rows : List String} {one other : Option Plateau} :
    lines (rows ++ (one.map Plateau.line).toList) = lines (rows ++ (other.map Plateau.line).toList) ↔ one = other := by
  refine ⟨fun same => ?_, fun same => by rw [same]⟩
  rw [lines_append, lines_append] at same
  have stops := congrArg String.toList (append_left_cancel same)
  cases one with
  | none =>
    cases other with
    | none => rfl
    | some other => simp [lines] at stops
  | some one =>
    cases other with
    | none => simp [lines] at stops
    | some other =>
      simp only [lines, Option.map_some, Option.toList_some, List.map_singleton, String.toList_join,
        List.flatMap_singleton, String.toList_append] at stops
      rw [line_injective (String.toList_inj.mp (List.append_cancel_right stops))]

-- What a double stands for, against a whole number. What is not a number is on neither side.
def AtLeast (value : Double) (bound : Int) : Prop :=
  (∃ number : ℚ, value.meaning? = some (.number number) ∧ bound ≤ number) ∨ value.meaning? = some (.infinite false)

def Below (value : Double) (bound : Int) : Prop :=
  (∃ number : ℚ, value.meaning? = some (.number number) ∧ number < bound) ∨ value.meaning? = some (.infinite true)

theorem isBelow_iff (value : Double) (bound : Int) : isBelow value bound = true ↔ Below value bound := by
  unfold isBelow Below
  rcases Constant.point?_num value with ⟨nowhere, void⟩ | ⟨point, meaning, placed, meant, means⟩
  · simp [nowhere, void]
  · simp only [placed, meant, decide_eq_true_eq, Option.some.injEq]
    cases means with
    | below => simp [Constant.Point.compare]
    | above => simp [Constant.Point.compare]
    | «at» numerator denominator positive =>
      have placed : (0 : ℚ) < denominator := Nat.cast_pos.mpr positive
      have less : ((numerator : ℚ) / denominator < bound) ↔ numerator < bound * denominator := by
        rw [div_lt_iff₀ placed]
        exact_mod_cast Iff.rfl
      simp [Constant.Point.compare, Int.compare_eq_lt, less]

theorem reaches_iff (value : Double) (bound : Int) : reaches value bound = true ↔ AtLeast value bound := by
  have notBelow : (!isBelow value bound) = true ↔ ¬ Below value bound := by
    rw [← isBelow_iff, Bool.not_eq_true, Bool.not_eq_true']
  rw [reaches, Bool.and_eq_true, notBelow]
  unfold AtLeast Below Double.isNaN Double.meaning?
  cases value.view with
  | nan => simp
  | infinite negative => cases negative <;> simp
  | finite negative significand exponent => simp

instance (value : Double) (bound : Int) : Decidable (AtLeast value bound) := decidable_of_iff _ (reaches_iff value bound)

instance (value : Double) (bound : Int) : Decidable (Below value bound) := decidable_of_iff _ (isBelow_iff value bound)

-- Truth values are whole numbers, too.
def wholeOf? : Json → Option Int
  | .int n => some n
  | .bool value => some (if value then 1 else 0)
  | _ => none

theorem lowCounts_eq (entries : List Json) :
    lowCounts entries = entries.filterMap fun entry => (entry.member? "n_below_repo_time").bind wholeOf? := by
  rw [lowCounts]
  congr 1
  funext entry
  cases entry.member? "n_below_repo_time" with
  | none => rfl
  | some value => cases value <;> rfl

-- The coverage process has left what it covered, the process for shares has reported them, and every line of the history
-- that is not blank holds an entry.
structure Setting.Reports (setting : Setting) (coverage : Coverage) (shares : Shares) (entries : List Json) : Prop where
  ended : ∃ output errors, setting.coverage = .ended 0 output errors
  covered : ∃ file, setting.coverageFile = some file ∧ Coverage.ofJson file = .ok coverage
  shared : ∃ code output errors, setting.shares = some (.ended code output errors) ∧
    (report output >>= Shares.ofReport) = .ok shares
  loaded : (historyLines (setting.history.getD "")).mapM Json.parse? = some entries
  objects : ∀ entry ∈ entries, entry.isObject = true

theorem load_of_objects {rows : List String} {entries : List Json} (loaded : rows.mapM Json.parse? = some entries)
    (objects : ∀ entry ∈ entries, entry.isObject = true) : load rows = (entries, true) := by
  induction rows generalizing entries with
  | nil =>
    rw [List.mapM_nil] at loaded
    cases loaded
    rfl
  | cons row rows ih =>
    simp only [List.mapM_cons, Option.bind_eq_bind, Option.bind_eq_some_iff] at loaded
    obtain ⟨entry, parsed, rest, others, same⟩ := loaded
    cases same
    have found : (Json.parse? row).filter Json.isObject = some entry := by
      rw [parsed, Option.filter_some_pos (objects entry List.mem_cons_self)]
    rw [load, found, ih others fun other member => objects other (List.mem_cons_of_mem _ member)]

theorem shares_of_reports {setting : Setting} {coverage : Coverage} {shares : Shares} {entries : List Json}
    (reports : setting.Reports coverage shares entries) : (readShares setting.shares).1 = shares := by
  obtain ⟨code, output, errors, ended, known⟩ := reports.shared
  cases reported : report output with
  | error trouble =>
    rw [reported] at known
    cases known
  | ok json =>
    rw [reported] at known
    have read : Shares.ofReport json = .ok shares := known
    simp only [readShares, runnerReport, ended, reported, read]

theorem run_reports {setting : Setting} {coverage : Coverage} {shares : Shares} {entries : List Json}
    (reports : setting.Reports coverage shares entries) :
    (run setting).ending = .ok 0 ∧
      (run setting).said = lines ((Findings.ofSetting setting coverage entries).lines setting ++
        (((Findings.ofSetting setting coverage entries).plateau? (lowCounts entries)).map Plateau.line).toList) := by
  obtain ⟨output, errors, ended⟩ := reports.ended
  obtain ⟨file, left, covered⟩ := reports.covered
  have loaded := load_of_objects reports.loaded reports.objects
  simp only [run, ended, left, covered, reportOn, readHistory, loaded]
  exact ⟨trivial, trivial⟩

theorem low_eq (shares : Shares) :
    shares.low = (shares.shares.filter fun each => AtLeast each.2 0 ∧ Below each.2 45).length := by
  have same : (fun each : String × Double => isLow each.2) = fun each => decide (AtLeast each.2 0 ∧ Below each.2 45) := by
    funext each
    rw [Bool.eq_iff_iff, decide_eq_true_iff, isLow, Bool.and_eq_true, isReading, reaches_iff, isBelow_iff]
  rw [Shares.low, same]

theorem readings_ne_zero {shares : Shares} (read : ∃ each ∈ shares.shares, AtLeast each.2 0) : shares.readings ≠ 0 := by
  obtain ⟨each, member, share⟩ := read
  have kept : each ∈ shares.shares.filter (isReading ·.2) :=
    List.mem_filter.mpr ⟨member, (reaches_iff each.2 0).mpr share⟩
  exact List.length_pos_of_mem kept |>.ne'

-- The first count is still the least one three counts later; one round between them has no count.
def idle : Setting where
  coverage := .ended 0 "" ""
  coverageFile := some (.obj [("totals", .obj [("percent_covered", .num ⟨0x4052C00000000000⟩)])])
  shares := some (.ended 0 "\x7b\"repo_time_pct\": \x7b\"decode\": 30, \"encode\": 50\x7d\x7d" "")
  checks := none
  status := .ended 0 "" ""
  suite := ""
  history := some ("\x7b\"n_below_repo_time\": 1\x7d\n\x7b\x7d\n" ++
    "\x7b\"n_below_repo_time\": 2\x7d\n\x7b\"n_below_repo_time\": 1\x7d\n")
  started := ⟨0⟩
  ended := ⟨0⟩
  now := .int 0

def idleShares : Shares := { shares := [("decode", ⟨0x403E000000000000⟩), ("encode", ⟨0x4049000000000000⟩)] }

theorem ok_of_toOption {ε α : Type} {result : Except ε α} {value : α} (found : result.toOption = some value) :
    result = .ok value := by
  cases result with
  | error _ => cases found
  | ok _ => exact congrArg Except.ok (Option.some.inj found)

end LuaBytecode.Measurement
