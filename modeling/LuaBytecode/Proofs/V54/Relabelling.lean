import LuaBytecode.Proofs.V54.Accepted
import LuaBytecode.V54.Relabelling

namespace LuaBytecode.V54

namespace Relabelling

variable {found : Relabelling} {pairs : List (Int × Int)}

theorem lookup_cons_eq (opcode each other : Int) (pairs : List (Int × Int)) :
    ((each, other) :: pairs).lookup opcode = if opcode = each then some other else pairs.lookup opcode := by
  by_cases same : opcode = each
  · simp [same]
  · rw [List.lookup_cons, beq_false_of_ne same, if_neg same]

theorem isSome_lookup_iff (opcode : Int) (pairs : List (Int × Int)) :
    (pairs.lookup opcode).isSome ↔ opcode ∈ pairs.map Prod.fst := by
  induction pairs with
  | nil => simp
  | cons pair pairs ih =>
    obtain ⟨each, other⟩ := pair
    rw [lookup_cons_eq]
    by_cases same : opcode = each <;> simp [same, ih]

-- Pairs that are met first stand before those that come later, so looking up finds the first.
theorem lookup_collect (known : Relabelling) (pairs : List (Int × Int)) (opcode : Int) :
    (collect known pairs).1.lookup opcode = (known.lookup opcode).or (pairs.lookup opcode) := by
  induction pairs generalizing known with
  | nil => simp [collect]
  | cons pair pairs ih =>
    obtain ⟨each, other⟩ := pair
    rw [collect, lookup_cons_eq]
    cases met : known.lookup each with
    | none =>
      dsimp only
      rw [ih, List.lookup_append, Option.or_assoc, lookup_cons_eq]
      by_cases same : opcode = each <;> simp [same]
    | some first =>
      have kept : (collect known pairs).1.lookup opcode =
          (known.lookup opcode).or (if opcode = each then some other else pairs.lookup opcode) := by
        rw [ih]
        by_cases same : opcode = each <;> simp [same, met]
      dsimp only
      split <;> exact kept

theorem nodup_collect {known : Relabelling} (pairs : List (Int × Int)) (distinct : (known.map Prod.fst).Nodup) :
    ((collect known pairs).1.map Prod.fst).Nodup := by
  induction pairs generalizing known with
  | nil => exact distinct
  | cons pair pairs ih =>
    obtain ⟨each, other⟩ := pair
    rw [collect]
    cases met : known.lookup each with
    | none =>
      apply ih
      have new : each ∉ known.map Prod.fst := by
        rw [← isSome_lookup_iff, met]
        exact Bool.false_ne_true
      rw [List.map_append, List.nodup_append]
      refine ⟨distinct, by simp, ?_⟩
      intro opcode member last only same
      rw [List.map_singleton, List.mem_singleton] at only
      rw [same, only] at member
      exact new member
    | some first =>
      dsimp only
      split <;> exact ih distinct

def clash? (found : Relabelling) (pair : Int × Int) : Option Conflict :=
  match found.lookup pair.1 with
  | none => none
  | some first => if first = pair.2 then none else some { opcode := pair.1, first, later := pair.2 }

theorem conflicts_collect (known : Relabelling) (pairs : List (Int × Int)) :
    (collect known pairs).2 = pairs.filterMap (clash? (collect known pairs).1) := by
  induction pairs generalizing known with
  | nil => rfl
  | cons pair pairs ih =>
    obtain ⟨each, other⟩ := pair
    rw [collect]
    cases met : known.lookup each with
    | none =>
      have silent : clash? (collect (known ++ [(each, other)]) pairs).1 (each, other) = none := by
        simp [clash?, lookup_collect, List.lookup_append, met]
      dsimp only
      rw [List.filterMap_cons_none silent, ih]
    | some first =>
      have agreed : (collect known pairs).1.lookup each = some first := by simp [lookup_collect, met]
      dsimp only
      by_cases same : first = other
      · have silent : clash? (collect known pairs).1 (each, other) = none := by simp [clash?, agreed, same]
        rw [if_pos same, List.filterMap_cons_none silent, ih]
      · have warned : clash? (collect known pairs).1 (each, other) = some ⟨each, first, other⟩ := by
          simp [clash?, agreed, same]
        rw [if_neg same, List.filterMap_cons_some warned, ih]

structure Recovers (codes others : List Int) (found : Relabelling) (warnings : List Conflict) : Prop where
  distinct : (found.map Prod.fst).Nodup
  keys : ∀ opcode, opcode ∈ found.map Prod.fst ↔ opcode ∈ codes
  first : ∀ (opcode : Int) (place : Nat), codes[place]? = some opcode → (∀ earlier < place, codes[earlier]? ≠ some opcode) →
    found.lookup opcode = others[place]?
  warned : warnings.map (fun warning => (warning.opcode, some warning.first, warning.later)) =
    ((codes.zip others).filter fun pair => decide (found.lookup pair.1 ≠ some pair.2)).map
      fun pair => (pair.1, found.lookup pair.1, pair.2)
  count : warnings.length = (codes.zip others).countP fun pair => decide (found.lookup pair.1 ≠ some pair.2)
  silent : warnings = [] ↔ ∃ relate : Int → Int, others = codes.map relate
  restricts : ∀ relate : Int → Int, others = codes.map relate →
    ∀ opcode, found.lookup opcode = if opcode ∈ codes then some (relate opcode) else none

theorem lookup_zip_of_first {codes others : List Int} {opcode : Int} {place : Nat}
    (same : codes.length = others.length) (here : codes[place]? = some opcode)
    (before : ∀ earlier < place, codes[earlier]? ≠ some opcode) :
    (codes.zip others).lookup opcode = others[place]? := by
  induction codes generalizing others place with
  | nil => simp at here
  | cons code codes ih =>
    cases others with
    | nil => cases same
    | cons other others =>
      rw [List.zip_cons_cons, lookup_cons_eq]
      cases place with
      | zero =>
        rw [if_pos (by simpa using here.symm)]
        rfl
      | succ place =>
        have different : opcode ≠ code := by
          intro equal
          exact before 0 (Nat.succ_pos place) (by simp [equal])
        rw [if_neg different, ih (by simpa using same) (by simpa using here)]
        · rfl
        · intro earlier less
          simpa using before (earlier + 1) (Nat.succ_lt_succ less)

theorem lookup_zip_map (codes : List Int) (relate : Int → Int) (opcode : Int) :
    (codes.zip (codes.map relate)).lookup opcode = if opcode ∈ codes then some (relate opcode) else none := by
  induction codes with
  | nil => rfl
  | cons code codes ih =>
    rw [List.map_cons, List.zip_cons_cons, lookup_cons_eq, ih]
    by_cases same : opcode = code <;> simp [same]

theorem eq_map_iff {codes others : List Int} (same : codes.length = others.length) (relate : Int → Int) :
    others = codes.map relate ↔ ∀ pair ∈ codes.zip others, pair.2 = relate pair.1 := by
  induction codes generalizing others with
  | nil => simp [List.length_eq_zero_iff.mp same.symm]
  | cons code codes ih =>
    cases others with
    | nil => cases same
    | cons other others => simp [ih (Nat.succ.inj same)]

theorem map_clashes (met : ∀ pair ∈ pairs, (found.lookup pair.1).isSome) :
    (pairs.filterMap (clash? found)).map (fun warning => (warning.opcode, some warning.first, warning.later)) =
      (pairs.filter fun pair => decide (found.lookup pair.1 ≠ some pair.2)).map
        fun pair => (pair.1, found.lookup pair.1, pair.2) := by
  induction pairs with
  | nil => rfl
  | cons pair pairs ih =>
    have rest := ih fun each member => met each (List.mem_cons_of_mem pair member)
    obtain ⟨first, known⟩ := Option.isSome_iff_exists.mp (met pair List.mem_cons_self)
    by_cases same : first = pair.2
    · rw [List.filterMap_cons_none (by simp [clash?, known, same]), rest, List.filter_cons_of_neg (by simp [known, same])]
    · rw [@List.filterMap_cons_some _ _ (clash? found) pair pairs ⟨pair.1, first, pair.2⟩ (by simp [clash?, known, same]),
        List.map_cons, rest, List.filter_cons_of_pos (by simp [known, same]), List.map_cons, known]

theorem collect_recovers {codes others : List Int} (same : codes.length = others.length) :
    Recovers codes others (collect [] (codes.zip others)).1 (collect [] (codes.zip others)).2 := by
  have looked : ∀ opcode, (collect [] (codes.zip others)).1.lookup opcode = (codes.zip others).lookup opcode := by
    intro opcode
    simp [lookup_collect]
  have keys : (codes.zip others).map Prod.fst = codes := List.map_fst_zip (Nat.le_of_eq same)
  have met : ∀ pair ∈ codes.zip others, ((collect [] (codes.zip others)).1.lookup pair.1).isSome := by
    intro pair member
    rw [looked, isSome_lookup_iff]
    exact List.mem_map_of_mem member
  have warned := map_clashes met
  rw [← conflicts_collect] at warned
  have agree : (collect [] (codes.zip others)).2 = [] ↔
      ∀ pair ∈ codes.zip others, (collect [] (codes.zip others)).1.lookup pair.1 = some pair.2 := by
    rw [← List.map_eq_nil_iff, warned]
    simp [List.filter_eq_nil_iff]
  have restricts : ∀ relate : Int → Int, others = codes.map relate →
      ∀ opcode, (collect [] (codes.zip others)).1.lookup opcode = if opcode ∈ codes then some (relate opcode) else none := by
    intro relate related opcode
    rw [looked, related, lookup_zip_map]
  constructor
  · exact nodup_collect _ (by simp)
  · intro opcode
    rw [← isSome_lookup_iff, looked, isSome_lookup_iff, keys]
  · intro opcode place here before
    rw [looked, lookup_zip_of_first same here before]
  · exact warned
  · have counted := congrArg List.length warned
    rwa [List.length_map, List.length_map, ← List.countP_eq_length_filter] at counted
  · rw [agree]
    constructor
    · intro agreed
      refine ⟨fun opcode => ((collect [] (codes.zip others)).1.lookup opcode).getD 0, ?_⟩
      rw [eq_map_iff same]
      intro pair member
      rw [agreed pair member, Option.getD_some]
    · intro related
      obtain ⟨relate, related⟩ := related
      intro pair member
      have occurs : pair.1 ∈ codes := keys ▸ List.mem_map_of_mem member
      rw [restricts relate related, if_pos occurs, (eq_map_iff same relate).mp related pair member]
  · exact restricts

end Relabelling

open Relabelling Text

def Function.opcodes (function : Function) : List Int := function.code.map (· % 128)

theorem opcode_decode (word : Int) : ((decode word).opcode : Int) = word % 128 := by
  simp only [decode, field]
  omega

def opcodesOf (tree : Prototype) : List Int := tree.toList.flatMap Function.opcodes

theorem opcodesOf_eq (tree : Prototype) :
    opcodesOf tree = (instructions tree).map (· % 128) := by
  rw [opcodesOf, instructions, List.map_flatMap]
  rfl

theorem opcodesOf_lt {tree : Prototype} {opcode : Int} (occurs : opcode ∈ opcodesOf tree) :
    0 ≤ opcode ∧ opcode < 128 := by
  rw [opcodesOf_eq] at occurs
  obtain ⟨word, _, rfl⟩ := List.mem_map.mp occurs
  omega

theorem opcodePairs_eq (tree other : Prototype) :
    opcodePairs (instructions tree) (instructions other) = (opcodesOf tree).zip (opcodesOf other) := by
  simp only [opcodesOf_eq, opcodePairs, opcode_decode, List.zip, List.zipWith_map]

def comparisonOpening (name otherName : String) (chunk other : Chunk) (after otherAfter : Input) : String :=
  lines ["\n" ++ times 60 "=", "OPCODE 对比分析", times 60 "=", "正在解析标准文件: " ++ name] ++ after.said ++
    lines ["正在解析打乱文件: " ++ otherName] ++ otherAfter.said ++
    lines [s!"\n标准文件指令总数: {(instructions chunk.main).length}", s!"打乱文件指令总数: {(instructions other.main).length}"]

def Relabelled (relate : Int → Int) (tree other : Prototype) : Prop :=
  other.map Function.opcodes = tree.map fun function => function.opcodes.map relate

theorem opcodesOf_of_relabelled {relate : Int → Int} {tree other : Prototype} (relabelled : Relabelled relate tree other) :
    opcodesOf other = (opcodesOf tree).map relate := by
  have lists := congrArg (fun tree => tree.toList.flatten) relabelled
  simp only [Tree.toList_map, ← List.flatMap_def] at lists
  rw [opcodesOf, lists, opcodesOf, List.map_flatMap]

section Comparison

variable {name otherName : String} {file otherFile : Bytes} {chunk other : Chunk} {after otherAfter : Input}

theorem compareFiles_of_length_ne (accepted : parse true file = (.ok chunk, after))
    (otherAccepted : parse true otherFile = (.ok other, otherAfter))
    (differ : (instructions chunk.main).length ≠ (instructions other.main).length) :
    (compareFiles name otherName (.ok file) (.ok otherFile)).result = .error .lengthMismatch := by
  simp only [compareFiles, accepted, otherAccepted, if_pos differ]

theorem compareFiles_of_length_eq (accepted : parse true file = (.ok chunk, after))
    (otherAccepted : parse true otherFile = (.ok other, otherAfter))
    (same : (instructions chunk.main).length = (instructions other.main).length) :
    ∃ found warnings, (compareFiles name otherName (.ok file) (.ok otherFile)).result = .ok found ∧
      (compareFiles name otherName (.ok file) (.ok otherFile)).said =
        comparisonOpening name otherName chunk other after otherAfter ++
          lines (warnings.map fun warning =>
            s!"警告: 发现不一致的映射 {warning.opcode} -> {warning.first} 和 {warning.later}") ++
          lines found.report ∧
      Recovers (opcodesOf chunk.main) (opcodesOf other.main) found warnings := by
  have recovers := @collect_recovers (opcodesOf chunk.main) (opcodesOf other.main)
    (by rw [opcodesOf_eq, opcodesOf_eq, List.length_map, List.length_map, same])
  rw [← opcodePairs_eq] at recovers
  refine ⟨_, _, ?_, ?_, recovers⟩
  · simp only [compareFiles, accepted, otherAccepted, same, ne_eq, not_true, if_false, ofWords]
  · simp only [compareFiles, accepted, otherAccepted, same, ne_eq, not_true, if_false, ofWords, comparisonOpening]
    rfl

end Comparison

theorem comparison_recovers_relabelling {name otherName : String} {file otherFile : Bytes} {chunk other : Chunk}
    {after otherAfter : Input} (accepted : parse true file = (.ok chunk, after))
    (otherAccepted : parse true otherFile = (.ok other, otherAfter)) :
    let comparison := compareFiles name otherName (.ok file) (.ok otherFile)
    let opening := comparisonOpening name otherName chunk other after otherAfter
    (comparison.result = .error .lengthMismatch ↔
      (instructions chunk.main).length ≠ (instructions other.main).length) ∧
    ((instructions chunk.main).length = (instructions other.main).length →
      ∃ found warnings, comparison.result = .ok found ∧
        comparison.said = opening ++ lines (warnings.map fun warning =>
          s!"警告: 发现不一致的映射 {warning.opcode} -> {warning.first} 和 {warning.later}") ++ lines found.report ∧
        Recovers (opcodesOf chunk.main) (opcodesOf other.main) found warnings) ∧
    (∀ relate : Int → Int, Relabelled relate chunk.main other.main →
      ∃ found, comparison.result = .ok found ∧ comparison.said = opening ++ lines found.report ∧
        (found.map Prod.fst).Nodup ∧
        ∀ opcode, found.lookup opcode = if opcode ∈ opcodesOf chunk.main then some (relate opcode) else none) ∧
    ∀ opcode ∈ opcodesOf chunk.main, 0 ≤ opcode ∧ opcode < 128 := by
  dsimp only
  refine ⟨?_, compareFiles_of_length_eq accepted otherAccepted, ?_, fun opcode => opcodesOf_lt⟩
  · constructor
    · intro failed same
      obtain ⟨found, warnings, ran, _⟩ := @compareFiles_of_length_eq name otherName _ _ _ _ _ _ accepted otherAccepted same
      rw [ran] at failed
      cases failed
    · exact compareFiles_of_length_ne accepted otherAccepted
  · intro relate relabelled
    have related := opcodesOf_of_relabelled relabelled
    have same : (instructions chunk.main).length = (instructions other.main).length := by
      have lengths := congrArg List.length related
      simpa [opcodesOf_eq] using lengths.symm
    obtain ⟨found, warnings, ran, said, recovers⟩ :=
      @compareFiles_of_length_eq name otherName _ _ _ _ _ _ accepted otherAccepted same
    obtain rfl : warnings = [] := recovers.silent.mpr ⟨relate, related⟩
    exact ⟨found, ran, by simpa [lines] using said, recovers.distinct, recovers.restricts relate related⟩

def threeWords (first second third : UInt8) : Bytes :=
  Write.header ++ [0, 0x81, 0x80, 0x80, 0, 0, 2, 0x83, first, 0, 0, 0, second, 0, 0, 0, third, 0, 0, 0,
    0x80, 0x80, 0x80, 0x80, 0x80, 0x80, 0x80]

theorem comparison_recovers_threeWords :
    ∃ chunk other after otherAfter, parse true (threeWords 81 70 70) = (.ok chunk, after) ∧
      parse true (threeWords 5 127 6) = (.ok other, otherAfter) ∧
      let comparison := compareFiles "a.luac" "b.luac" (.ok (threeWords 81 70 70)) (.ok (threeWords 5 127 6))
      comparison.result = .ok [(81, 5), (70, 127)] ∧
      comparison.said = comparisonOpening "a.luac" "b.luac" chunk other after otherAfter ++
        lines ["警告: 发现不一致的映射 70 -> 127 和 6"] ++ lines (report [(81, 5), (70, 127)]) ∧
      Recovers [81, 70, 70] [5, 127, 6] [(81, 5), (70, 127)] [⟨70, 127, 6⟩] := by
  have codes : seen (fun chunk => opcodesOf chunk.main) (threeWords 81 70 70) = some [81, 70, 70] := by decide +kernel
  have others : seen (fun chunk => opcodesOf chunk.main) (threeWords 5 127 6) = some [5, 127, 6] := by decide +kernel
  obtain ⟨chunk, after, accepted, codes⟩ := parse_of_seen codes
  obtain ⟨other, otherAfter, otherAccepted, others⟩ := parse_of_seen others
  have same : (instructions chunk.main).length = (instructions other.main).length := by
    rw [opcodesOf_eq] at codes others
    simpa using (congrArg List.length codes).trans (congrArg List.length others).symm
  obtain ⟨found, warnings, ran, said, recovers⟩ :=
    (@comparison_recovers_relabelling "a.luac" "b.luac" _ _ _ _ _ _ accepted otherAccepted).2.1 same
  have computed : (compareFiles "a.luac" "b.luac" (.ok (threeWords 81 70 70)) (.ok (threeWords 5 127 6))).result.toOption =
      some [(81, 5), (70, 127)] := by decide +kernel
  obtain rfl : found = [(81, 5), (70, 127)] := by
    rw [ran] at computed
    exact Option.some.inj computed
  rw [codes, others] at recovers
  obtain rfl : warnings = [⟨70, 127, 6⟩] := by
    obtain ⟨⟨opcode, first, later⟩, rfl⟩ := List.length_eq_one_iff.mp recovers.count
    have warned : [(opcode, some first, later)] = [(70, some 127, 6)] := recovers.warned
    simp only [List.cons.injEq, Prod.mk.injEq, Option.some.injEq, and_true] at warned
    obtain ⟨rfl, rfl, rfl⟩ := warned
    rfl
  exact ⟨chunk, other, after, otherAfter, accepted, otherAccepted, ran, said, recovers⟩

end LuaBytecode.V54
