import LuaBytecode.Proofs.Address
import LuaBytecode.Proofs.Text
import LuaBytecode.V51.Listing
/-!
Jumps in listings of version 5.1. The column of places counts instructions from one, but the remark on a
jump counts from zero, so the place it names is that of the instruction before the one it leads to.
-/
namespace LuaBytecode.V51

open Text

def Function.rows (function : Function) (indent : Int) : List String :=
  (function.code.mapIdx (function.instructionLine · ·)).map (times indent "  " ++ ·)

def jumpPlace? (row : String) : Option String :=
  (behind? "to PC ".toList row.toList).map String.ofList

theorem rows_infix_block (function : Function) (indent : Int) :
    function.rows indent <:+: block (times indent "  ") function.codeListing := by
  cases code : function.code with
  | nil => simp [Function.rows, code]
  | cons first rest =>
    have filled : ¬ function.code.isEmpty := by simp [code]
    rw [Function.codeListing, if_neg filled, block, if_neg (by simp), List.map_append]
    exact List.infix_append _ _ _

theorem rows_infix_listing (function : Function) (inner : List Prototype) (indent : Int) :
    function.rows indent <:+: listing indent (.node function inner) := by
  refine (rows_infix_block function indent).trans ?_
  simp only [listing, List.append_assoc]
  rw [← List.append_assoc]
  exact List.infix_append _ _ _

theorem listing_infix_forest {tree : Prototype} {forest : List Prototype} (member : tree ∈ forest) (indent : Int)
    (index : Nat) : listing (indent + 1) tree <:+: forestListing indent index forest := by
  induction forest generalizing index with
  | nil => cases member
  | cons first forest ih =>
    rw [forestListing]
    rcases List.mem_cons.mp member with rfl | later
    · exact List.infix_append [_] _ _
    · exact (ih later (index + 1)).trans (List.suffix_append _ _).isInfix

theorem listing_infix_inner {tree : Prototype} {inner : List Prototype} (member : tree ∈ inner) (function : Function)
    (indent : Int) : listing (indent + 1) tree <:+: listing indent (.node function inner) := by
  refine (listing_infix_forest member indent 0).trans ?_
  have filled : inner.isEmpty = false := by
    cases inner with
    | nil => cases member
    | cons => rfl
  simp only [listing, filled, Bool.false_eq_true, if_false]
  exact ((List.suffix_append _ _).trans (List.suffix_append _ _)).isInfix

theorem listing_infix_of_follow {address : List Nat} {main reached : Prototype}
    (leads : main.follow address = some reached) (indent : Int) :
    listing (indent + address.length) reached <:+: listing indent main := by
  induction address generalizing main indent with
  | nil =>
    obtain rfl := Option.some.inj leads
    simp
  | cons index address ih =>
    obtain ⟨child, taken, further⟩ := Option.bind_eq_some_iff.mp leads
    cases main with
    | node function inner =>
      have nested := ih further (indent + 1)
      have depth : indent + 1 + address.length = indent + (index :: address).length := by
        rw [List.length_cons]; omega
      rw [depth] at nested
      exact nested.trans (listing_infix_inner (List.mem_of_getElem? taken) function indent)

theorem instructionLine_begins (function : Function) (index : Nat) (instruction : Instruction) :
    ∃ rest, (function.instructionLine index instruction).toList =
      (padRight 4 (decimal (index + 1))).toList ++ ' ' :: rest := by
  simp only [Function.instructionLine, toString_text, String.append_assoc]
  rw [String.toList_append, String.toList_append]
  exact ⟨_, rfl⟩

theorem firstWord_row (function : Function) (indent : Int) (index : Nat) (instruction : Instruction) :
    firstWord (times indent "  " ++ function.instructionLine index instruction) = decimal (index + 1) := by
  have blank : ∀ c ∈ (times indent "  ").toList, c = ' ' := fun c member => by simpa using mem_times member
  obtain ⟨rest, begins⟩ := instructionLine_begins function index instruction
  rw [padRight_blank] at begins
  apply firstWord_eq blank (isWord_decimal _) (decimal_ne_empty _)
  rw [String.toList_append, begins]

theorem instructionLine_jmp (function : Function) (index : Nat) {instruction : Instruction}
    (jumps : instruction.opcode = .jmp) :
    function.instructionLine index instruction =
      padRight 4 (decimal (index + 1)) ++ " " ++ padRight 6 (decimal ((function.lineInfo[index]?).getD 0)) ++ " " ++
        padRight 12 "OP_JMP" ++ " " ++ Function.operands instruction ++ " " ++ "pc+=sBx" ++ " ; " ++ "to PC " ++
        decimal (index + 1 + instruction.word.sbx) := by
  have mark : " ; to PC " = " ; " ++ "to PC " := by decide
  simp only [Function.instructionLine, Function.remark, jumps, Opcode.name, Opcode.meaning, toString_text, mark,
    String.append_assoc]
  rfl

-- Nothing in front of the remark on a jump has the letter that its mark begins with.
theorem jump_line (function : Function) (index : Nat) {instruction : Instruction} (jumps : instruction.opcode = .jmp) :
    ∃ before, 't' ∉ before.toList ∧ function.instructionLine index instruction =
      before ++ "to PC " ++ decimal (index + 1 + instruction.word.sbx) := by
  have column (width : Nat) (n : Int) : 't' ∉ (padRight width (decimal n)).toList := by
    intro member
    rcases mem_padRight member with numeral | blank
    · rcases mem_decimal numeral with minus | digit
      · exact absurd minus (by decide)
      · exact absurd digit (by decide)
    · exact absurd blank (by decide)
  have blanks (count : Int) : 't' ∉ (times count " ").toList := fun member => by simpa using mem_times member
  have name : 't' ∉ (padRight 12 "OP_JMP").toList := by decide
  have operands : 't' ∉ (Function.operands instruction).toList := by
    have a : 't' ∉ (padRight 3 (toString instruction.word.a)).toList := column 3 instruction.word.a
    simp only [Function.operands, jumps, Opcode.form, toString_text, String.toList_append, List.mem_append, a,
      blanks, column]
    decide
  refine ⟨_, ?_, instructionLine_jmp function index jumps⟩
  simp only [String.toList_append, List.mem_append, column, name, operands]
  decide

theorem jumpPlace?_row (function : Function) (indent : Int) (index : Nat) {instruction : Instruction}
    (jumps : instruction.opcode = .jmp) :
    jumpPlace? (times indent "  " ++ function.instructionLine index instruction) =
      some (decimal (index + 1 + instruction.word.sbx)) := by
  obtain ⟨before, absent, line⟩ := jump_line function index jumps
  have margin : 't' ∉ (times indent "  ").toList := fun member => by simpa using mem_times member
  have clear : 't' ∉ (times indent "  ").toList ++ before.toList := by simp [margin, absent]
  have row : (times indent "  " ++ function.instructionLine index instruction).toList =
      ((times indent "  ").toList ++ before.toList) ++
        ("to PC ".toList ++ (decimal (index + 1 + instruction.word.sbx)).toList) := by
    simp only [line, String.toList_append, List.append_assoc]
  have found : behind? "to PC ".toList (times indent "  " ++ function.instructionLine index instruction).toList =
      some (decimal (index + 1 + instruction.word.sbx)).toList := by
    rw [row]
    exact behind?_eq clear
  rw [jumpPlace?, found, Option.map_some, String.ofList_toList]

theorem getElem?_rows (function : Function) (indent : Int) (index : Nat) :
    (function.rows indent)[index]? =
      (function.code[index]?).map fun instruction =>
        times indent "  " ++ function.instructionLine index instruction := by
  rw [Function.rows, List.getElem?_map, List.getElem?_mapIdx, Option.map_map]
  rfl

theorem firstWord_rows (function : Function) (indent : Int) {index : Nat} (within : index < function.code.length) :
    ((function.rows indent)[index]?).map firstWord = some (decimal (index + 1)) := by
  rw [getElem?_rows, List.getElem?_eq_getElem within, Option.map_some, Option.map_some, firstWord_row]

theorem firstWord_rows_eq_iff (function : Function) (indent : Int) {destination : Nat}
    (within : destination < function.code.length) (place : Nat) :
    ((function.rows indent)[place]?).map firstWord = some (decimal destination) ↔ place + 1 = destination := by
  by_cases inside : place < function.code.length
  · rw [firstWord_rows function indent inside, Option.some.injEq]
    constructor
    · intro same
      have := decimal_injective same
      omega
    · rintro rfl
      rfl
  · rw [getElem?_rows, List.getElem?_eq_none (by omega)]
    exact ⟨nofun, by omega⟩

theorem jump_names_place_before {main : Prototype} {address : List Nat} {function : Function} {inner : List Prototype}
    (leads : main.follow address = some (.node function inner)) (indent : Int) {index destination : Nat}
    {instruction : Instruction} (held : function.code[index]? = some instruction) (jumps : instruction.opcode = .jmp)
    (target : destination = index + 1 + instruction.word.sbx) (within : destination < function.code.length) :
    let rows := function.rows (indent + address.length)
    rows <:+: listing indent main ∧ rows.length = function.code.length ∧
    ∃ row, rows[index]? = some row ∧ jumpPlace? row = some (decimal destination) ∧
      (rows[destination]?).map firstWord = some (decimal (destination + 1)) ∧
      ∀ place : Nat, (rows[place]?).map firstWord = jumpPlace? row ↔ place + 1 = destination := by
  intro rows
  have named := jumpPlace?_row function (indent + address.length) index jumps
  rw [← target] at named
  refine ⟨?_, by simp [rows, Function.rows], _, by rw [getElem?_rows, held, Option.map_some], named, ?_, ?_⟩
  · exact (rows_infix_listing function inner _).trans (listing_infix_of_follow leads indent)
  · exact firstWord_rows function _ within
  · rw [named]
    exact firstWord_rows_eq_iff function _ within

-- A jump back to the first instruction of an inner function: the place it names is shown in no row.
theorem jump_names_place_before_first :
    ∃ (main : Prototype) (function : Function) (row : String),
      main.follow [0] = some (.node function []) ∧ function.code.length = 2 ∧ function.rows 1 <:+: listing 0 main ∧
      (function.rows 1)[1]? = some row ∧ jumpPlace? row = some (decimal 0) ∧
      ((function.rows 1)[0]?).map firstWord = some (decimal 1) ∧
      ∀ place : Nat, ((function.rows 1)[place]?).map firstWord = jumpPlace? row ↔ place + 1 = 0 :=
  let function : Function := { code := [⟨⟨0⟩, .move, rfl⟩, ⟨⟨2147434518⟩, .jmp, rfl⟩] }
  have ⟨listed, _, row, held, named, first, shown⟩ :=
    @jump_names_place_before (.node {} [.node function []]) [0] function [] rfl 0 1 0 _ rfl rfl rfl (by decide)
  ⟨.node {} [.node function []], function, row, rfl, rfl, listed, held, named, first, shown⟩

theorem jump_to_next_misnamed :
    ∃ (main : Prototype) (row target : String),
      main.top.code.map (fun each => (each.opcode, each.word.sbx)) = [(.jmp, 0), (.ret, -130559)] ∧
      (listing 0 main)[16]? = some row ∧ (listing 0 main)[17]? = some target ∧
      jumpPlace? row = some "1" ∧ firstWord target = "2" ∧ jumpPlace? row ≠ some (firstWord target) :=
  ⟨.node { code := [⟨⟨2147467286⟩, .jmp, rfl⟩, ⟨⟨8388638⟩, .ret, rfl⟩] } [], _, _, rfl, rfl, rfl,
    by decide +kernel, by decide +kernel, by decide +kernel⟩

end LuaBytecode.V51
