import LuaBytecode.Jit.Instruction
import LuaBytecode.Proofs.Jit.RoundTrip
import LuaBytecode.Proofs.Sample.Shape
import LuaBytecode.Sample.Jit

namespace LuaBytecode.Sample.Jit

open LuaBytecode.Jit Reader Text

def fields (index : Nat) : Fields := ⟨index % 93, index % 256, 5 * index % 256, 3 * index % 256⟩

def code (prototype : Prototype) : List Fields :=
  prototype.code.map fun word => ⟨(parts word).opcode, (parts word).a, (parts word).b, (parts word).c⟩

theorem parts_word (index : Nat) :
    (⟨(parts (word index)).opcode, (parts (word index)).a, (parts (word index)).b, (parts (word index)).c⟩ : Fields) =
      fields index := by
  have opcode : index % 93 < 93 := Nat.mod_lt _ (by decide)
  have a : index % 256 < 256 := Nat.mod_lt _ (by decide)
  have c : 3 * index % 256 < 256 := Nat.mod_lt _ (by decide)
  have b : 5 * index % 256 < 256 := Nat.mod_lt _ (by decide)
  simp only [parts, fields, field, word, Fields.mk.injEq]
  generalize index % 93 = opcode at *
  generalize index % 256 = a at *
  generalize 3 * index % 256 = c at *
  generalize 5 * index % 256 = b at *
  refine ⟨?_, ?_, ?_, ?_⟩ <;> omega

theorem fitsBits_word (index : Nat) : FitsBits 32 (word index) := by
  unfold FitsBits word
  omega

def asRead (stripped : Bool) (each : Prototype) (entries : List Variable) : Prototype × List Variable :=
  measured stripped
    { each with
      debugSize := if stripped then 0 else each.debugSize
      firstLine := if stripped then 0 else each.firstLine
      lineCount := if stripped then 0 else each.lineCount
      lineInfo := if stripped then [] else each.lineInfo
      upvalueNames := if stripped then [] else each.upvalueNames
      variableNames := if stripped then [] else entries.map Variable.seen }
    entries

theorem body_asRead {stripped : Bool} {each : Prototype} {entries : List Variable}
    (counted : each.upvalueCount = each.upvalueData.length) :
    Write.body .little stripped (asRead stripped each entries).1 entries =
      Write.body .little stripped each entries := by
  cases stripped <;> simp [Write.body, Write.debug, asRead, measured, counted]

theorem size_asRead {stripped : Bool} {each : Prototype} {entries : List Variable}
    (counted : each.upvalueCount = each.upvalueData.length) :
    (asRead stripped each entries).1.size =
      (Write.body .little stripped (asRead stripped each entries).1 entries).length := by
  rw [body_asRead counted]
  cases stripped <;> simp [Write.body, Write.debug, asRead, measured]

theorem debug_le_body (each : Prototype) (entries : List Variable) :
    (Write.debug .little each entries).length ≤ (Write.body .little false each entries).length := by
  simp only [Write.body, Bool.false_eq_true, if_false, List.length_append]
  omega

theorem code_asRead (stripped : Bool) (each : Prototype) (entries : List Variable) :
    code (asRead stripped each entries).1 = code each := by
  cases stripped <;> rfl

def linesOf (length lineCount : Nat) : List Int :=
  (indices length).map fun index => ((index % lineCount + 1 : Nat) : Int)

def sampleOf (length : Nat) (stripped withComplex : Bool) (lineCount : Nat) : Prototype :=
  prototypeOf length withComplex lineCount (if stripped then [] else linesOf length lineCount)

theorem contents_eq {lineCount : Nat} (length : Nat) (stripped withComplex : Bool) (some : 1 ≤ lineCount) :
    contents length stripped withComplex lineCount =
      .ok (sampleOf length stripped withComplex lineCount, entries) := by
  have counted : lines length lineCount = .ok (linesOf length lineCount) := by
    unfold lines
    split
    · subst length
      rfl
    · rw [if_neg (by omega), linesOf]
  cases stripped with
  | true => rfl
  | false =>
    rw [contents, if_neg Bool.false_ne_true, counted]
    rfl

theorem fits_lines {length lineCount : Nat} (some : 1 ≤ lineCount) (few : lineCount < 2 ^ 32) :
    ∀ line ∈ linesOf length lineCount, FitsBits (8 * Write.lineWidth lineCount) line := by
  intro line member
  obtain ⟨index, _, rfl⟩ := List.mem_map.mp member
  have below : index % lineCount < lineCount := Nat.mod_lt _ some
  unfold FitsBits Write.lineWidth
  split
  · omega
  · split <;> omega

theorem length_debug (length lineCount : Nat) (withComplex : Bool) :
    (Write.debug .little (prototypeOf length withComplex lineCount (linesOf length lineCount)) entries).length =
      18 + length * Write.lineWidth lineCount := by
  have upvalues : (["uv0", "uv1"].flatMap Write.terminated).length = 8 := by decide
  have entriesBytes : (entries.flatMap Write.entry).length = 9 := by
    have name : (Write.terminated "abc").length = 4 := by decide
    simp [entries, Write.entry, Write.varint, name]
  simp only [Write.debug, prototypeOf, linesOf, List.length_append, List.length_singleton, List.flatMap_map,
    List.length_flatMap, ByteOrder.length_encode, upvalues, entriesBytes, indices, Int.toNat_natCast, List.map_const',
    List.sum_replicate_nat, List.length_range]
  omega

theorem hasSections {length lineCount : Nat} (withComplex : Bool) (some : 1 ≤ lineCount) (few : lineCount < 2 ^ 32)
    (small : 18 + length * Write.lineWidth lineCount < 2 ^ 35) :
    (asRead false (sampleOf length false withComplex lineCount) entries).1.HasSections entries := by
  have debugSize : 0 < ((18 + length * Write.lineWidth lineCount : Nat) : Int) ∧
      ((18 + length * Write.lineWidth lineCount : Nat) : Int) < 2 ^ 35 := by omega
  have firstLine : FitsVarint 1 := by decide
  have lineCountFits : FitsVarint lineCount := by
    unfold FitsVarint
    omega
  have many : (linesOf length lineCount).length =
      if (lineCount : Int) = 0 then 0 else ((indices length).map word).length := by
    rw [if_neg (by omega)]
    simp [linesOf]
  have names : ∀ name ∈ ["uv0", "uv1"], '\x00' ∉ name.toList := by decide
  have legible : ∀ entry ∈ entries, entry.IsLegible := by
    simp only [entries, List.forall_mem_cons]
    exact ⟨⟨⟨0x61, [0x62, 0x63], by decide, by decide, by decide⟩, by decide, by decide⟩,
      ⟨by decide, by decide, by decide⟩, nofun⟩
  exact ⟨⟨debugSize, firstLine, lineCountFits, many, fits_lines some few, rfl, names, nofun, rfl⟩, legible, rfl⟩

theorem readable {length lineCount : Nat} {stripped withComplex : Bool} (some : 1 ≤ lineCount)
    (few : lineCount < 2 ^ 32)
    (small : (Write.body .little stripped (sampleOf length stripped withComplex lineCount) entries).length < 2 ^ 35) :
    (asRead stripped (sampleOf length stripped withComplex lineCount) entries).1.Readable stripped entries := by
  have spelled := @body_asRead stripped (sampleOf length stripped withComplex lineCount) entries rfl
  have sized := @size_asRead stripped (sampleOf length stripped withComplex lineCount) entries rfl
  have bytes : FitsByte 3 ∧ FitsByte 1 ∧ FitsByte 6 := by decide
  have words : ∀ word ∈ (indices length).map Jit.word, FitsBits 32 word := by
    intro word member
    obtain ⟨index, _, rfl⟩ := List.mem_map.mp member
    exact fitsBits_word index
  have upvalues : ∀ word ∈ [0x8000, 1], FitsBits 16 word := by decide
  have two : 2 < 256 := by decide
  have constants : ∀ constant ∈ collectables withComplex, constant.InRange := by
    cases withComplex <;> decide
  have numbersFit : ∀ constant ∈ numbers, constant.InRange := by decide
  refine ⟨⟨sized, ?_, bytes.1, bytes.2.1, bytes.2.2, ⟨rfl, two⟩, rfl, rfl, rfl, words, upvalues, constants,
    numbersFit⟩, ?_⟩
  · rw [spelled]
    exact small
  · cases stripped with
    | true => exact ⟨rfl, rfl, rfl, rfl, rfl, rfl⟩
    | false =>
      apply hasSections withComplex some few
      rw [← length_debug length lineCount withComplex]
      exact Nat.lt_of_le_of_lt (debug_le_body _ _) small

def headerOf (stripped : Bool) : Header where
  version := version
  flags := if stripped then 2 else 0
  sourceName := if stripped then "" else "@bench.lua"

theorem isStripped_headerOf (stripped : Bool) : (headerOf stripped).isStripped = stripped := by
  cases stripped <;> rfl

theorem inRange_headerOf (stripped : Bool) : (headerOf stripped).InRange := by
  cases stripped <;> decide

theorem dump_eq {lineCount : Nat} (length prototypeCount : Nat) (stripped : Bool) (some : 1 ≤ lineCount) :
    dump length prototypeCount stripped lineCount = .ok (Write.dump (headerOf stripped)
      ((List.range prototypeCount).map fun index => (sampleOf length stripped (index = 0) lineCount, entries))) := by
  have every : ∀ index : Nat, contents length stripped (index = 0) lineCount =
      pure (sampleOf length stripped (index = 0) lineCount, entries) :=
    fun index => contents_eq length stripped (index = 0) some
  simp only [dump, every, List.mapM_pure]
  rfl

theorem dump_asRead (length prototypeCount : Nat) (stripped : Bool) (lineCount : Nat) :
    Write.dump (headerOf stripped)
        ((List.range prototypeCount).map fun index => (sampleOf length stripped (index = 0) lineCount, entries)) =
      Write.dump (headerOf stripped)
        ((List.range prototypeCount).map fun index =>
          asRead stripped (sampleOf length stripped (index = 0) lineCount) entries) := by
  have same : ∀ index : Nat,
      Write.prototype .little stripped (asRead stripped (sampleOf length stripped (index = 0) lineCount) entries).1
          (asRead stripped (sampleOf length stripped (index = 0) lineCount) entries).2 =
        Write.prototype .little stripped (sampleOf length stripped (index = 0) lineCount) entries :=
    fun index => congrArg Write.sized (body_asRead rfl)
  simp only [dump_little (inRange_headerOf stripped), isStripped_headerOf, List.flatMap_map, same]

theorem exhausts_dump {length prototypeCount lineCount : Nat} {stripped : Bool} {bytes : Bytes} (some : 1 ≤ lineCount)
    (few : lineCount < 2 ^ 32)
    (small : ∀ index < prototypeCount, ∀ each, contents length stripped (index = 0) lineCount = .ok each →
      (Write.body .little stripped each.1 each.2).length < 2 ^ 35)
    (built : dump length prototypeCount stripped lineCount = .ok bytes) :
    Exhausts (parse bytes) bytes
        (fun found => found.prototypes.map code = List.replicate prototypeCount ((indices length).map fields)) ∧
      (parse bytes).2.said = "" := by
  have each : ∀ prototype ∈ (List.range prototypeCount).map fun index =>
      asRead stripped (sampleOf length stripped (index = 0) lineCount) entries,
      prototype.1.Readable (headerOf stripped).isStripped prototype.2 := by
    intro prototype member
    obtain ⟨index, among, rfl⟩ := List.mem_map.mp member
    have body := small index (List.mem_range.mp among) _ (contents_eq length stripped (index = 0) some)
    rw [isStripped_headerOf]
    exact @readable length lineCount stripped (index = 0) some few body
  have decoded : ∀ index : Nat, code (asRead stripped (sampleOf length stripped (index = 0) lineCount) entries).1 =
      (indices length).map fields := by
    intro index
    rw [code_asRead, code, sampleOf, prototypeOf, List.map_map]
    exact List.map_congr_left fun place _ => parts_word place
  have ran := parse_readable (inRange_headerOf stripped) each
  rw [dump_eq length prototypeCount stripped some, dump_asRead] at built
  rw [← Except.ok.inj built, ran]
  refine ⟨⟨_, _, rfl, rfl, rfl, ?_⟩, rfl⟩
  simp [Function.comp_def, decoded, List.map_const']

end LuaBytecode.Sample.Jit
