import LuaBytecode.Proofs.Instruction
import LuaBytecode.Proofs.Text
import LuaBytecode.V52.Disassembly

namespace LuaBytecode.V52

open Text

inductive Field where
  | a
  | b
  | c
  | bx
  | sbx
  | ax
deriving DecidableEq

namespace Field

def operand (value : Int) : Field → Int
  | a => value / 2 ^ 6 % 2 ^ 8
  | b => value / 2 ^ 23 % 2 ^ 9
  | c => value / 2 ^ 14 % 2 ^ 9
  | bx => value / 2 ^ 14 % 2 ^ 18
  | sbx => value / 2 ^ 14 % 2 ^ 18 - 131071
  | ax => value / 2 ^ 6 % 2 ^ 26

def part (word : Parts) : Field → Int
  | a => word.a
  | b => word.b
  | c => word.c
  | bx => word.bx
  | sbx => word.sbx
  | ax => word.ax

theorem part_parts (word : Word) (field : Field) : field.part (parts word) = field.operand word.value := by
  cases field with
  | a => exact word.field_cast 6 8
  | b => exact word.field_cast 23 9
  | c => exact word.field_cast 14 9
  | bx => exact word.field_cast 14 18
  | sbx =>
    have bx : ((parts word).bx : Int) = word.value / 2 ^ 14 % 2 ^ 18 := word.field_cast 14 18
    rw [operand, ← bx]
    rfl
  | ax => exact word.field_cast 6 26

end Field

inductive Role where
  | number
  | register
  | upvalue
  | constant
  | either
deriving DecidableEq

def Opcode.uses : Opcode → List (Field × Role)
  | .move => [(.a, .register), (.b, .register)]
  | .loadK => [(.a, .register), (.bx, .constant)]
  | .loadKx => [(.a, .register)]
  | .loadBool => [(.a, .register), (.b, .number), (.c, .number)]
  | .loadNil => [(.a, .register), (.b, .number)]
  | .getUpval => [(.a, .register), (.b, .upvalue)]
  | .getTabUp => [(.a, .register), (.b, .upvalue), (.c, .either)]
  | .getTable => [(.a, .register), (.b, .register), (.c, .either)]
  | .setTabUp => [(.a, .upvalue), (.b, .either), (.c, .either)]
  | .setUpval => [(.a, .register), (.b, .upvalue)]
  | .setTable => [(.a, .register), (.b, .either), (.c, .either)]
  | .newTable => [(.a, .register), (.b, .number), (.c, .number)]
  | .self => [(.a, .register), (.b, .register), (.c, .either)]
  | .add | .sub | .mul | .div | .mod | .pow => [(.a, .register), (.b, .either), (.c, .either)]
  | .unm | .not | .len => [(.a, .register), (.b, .register)]
  | .concat => [(.a, .register), (.b, .register), (.c, .register)]
  | .jmp => [(.a, .number), (.sbx, .number)]
  | .eq | .lt | .le => [(.a, .number), (.b, .either), (.c, .either)]
  | .test => [(.a, .register), (.c, .number)]
  | .testSet => [(.a, .register), (.b, .register), (.c, .number)]
  | .call | .tailCall => [(.a, .register), (.b, .number), (.c, .number)]
  | .ret => [(.a, .register), (.b, .number)]
  | .forLoop | .forPrep | .tForLoop => [(.a, .register), (.sbx, .number)]
  | .tForCall => [(.a, .register), (.c, .number)]
  | .setList => [(.a, .register), (.b, .number), (.c, .number)]
  | .closure => [(.a, .register), (.bx, .number)]
  | .vararg => [(.a, .register), (.b, .number)]
  | .extraArg => [(.ax, .number)]

def Role.shown : Role → Int → String
  | .number, n => decimal n
  | .register, n => r n
  | .upvalue, n => s!"U({n})"
  | .constant, n => s!"K({n})"
  | .either, n => rk n.toNat

def words (instruction : Instruction) : List String :=
  instruction.opcode.uses.map fun (field, role) => role.shown (field.operand instruction.word.value)

theorem toString_natCast (n : Nat) : toString (n : Int) = toString n := rfl

-- A constant that has no text is the only reason not to return.
theorem loadK_begins {constants : List Constant} {word : Word} {known : Opcode.ofNumber? word.number = some .loadK}
    {pc : Int} {shown : String} (returned : operands constants ⟨⟨word, .loadK, known⟩, pc⟩ = .ok shown) :
    ∃ text, shown = s!"{r (parts word).a} K({(parts word).bx})               ; {r (parts word).a} := " ++ text := by
  simp only [operands] at returned
  cases found : constants[(parts word).bx]? with
  | none =>
    rw [found] at returned
    exact ⟨"?", (Except.ok.inj returned).symm⟩
  | some constant =>
    rw [found] at returned
    dsimp only at returned
    cases text : constantText constant with
    | error fault =>
      rw [text] at returned
      cases returned
    | ok text' =>
      rw [text] at returned
      exact ⟨text', (Except.ok.inj returned).symm⟩

theorem operands_begin {constants : List Constant} {instruction : Instruction} {shown : String}
    (returned : operands constants instruction = .ok shown) : spaced (words instruction) <+: shown.toList := by
  obtain ⟨⟨word, opcode, known⟩, pc⟩ := instruction
  cases opcode
  case loadK =>
    obtain ⟨text, rfl⟩ := loadK_begins returned
    simp only [words, Opcode.uses, List.map_cons, List.map_nil, Role.shown, ← Field.part_parts, Field.part]
    simp only [spaced, List.flatMap_cons, List.flatMap_nil, toString_text, toString_natCast, String.toList_append]
    simp
  all_goals
    obtain rfl := Except.ok.inj returned
    simp only [words, Opcode.uses, List.map_cons, List.map_nil, Role.shown, ← Field.part_parts, Field.part, decimal,
      Int.toNat_natCast]
    simp only [spaced, List.flatMap_cons, List.flatMap_nil, toString_text, toString_natCast, String.toList_append]
    simp

theorem disassemble_begins {constants : List Constant} {instruction : Instruction} {text : String}
    (returned : disassemble constants instruction = .ok text) :
    ∃ rest, text.toList =
      (padRight 12 instruction.opcode.name).toList ++ ' ' :: (spaced (words instruction) ++ rest) := by
  rw [disassemble] at returned
  cases shown : operands constants instruction with
  | error fault =>
    rw [shown] at returned
    cases returned
  | ok operandText =>
    rw [shown] at returned
    obtain rfl := Except.ok.inj returned
    obtain ⟨rest, begins⟩ := operands_begin shown
    refine ⟨rest, ?_⟩
    rw [String.toList_append, String.toList_append, begins, List.append_assoc]
    rfl

namespace Opcode

theorem find_name (opcode : Opcode) : all.find? (fun each => each.name = opcode.name) = some opcode := by
  cases opcode <;> rfl

theorem name_injective {first second : Opcode} (same : first.name = second.name) : first = second := by
  have found := find_name first
  rw [same, find_name second] at found
  exact (Option.some.inj found).symm

theorem isWord_name (opcode : Opcode) : IsWord opcode.name := by
  cases opcode <;> simp [IsWord, name]

theorem field_of_either (opcode : Opcode) :
    ∀ use ∈ opcode.uses, use.2 = .either → use.1 = .b ∨ use.1 = .c := by
  cases opcode <;> decide

end Opcode

theorem isWord_enclosed {opening : String} (plain : IsWord opening) (n : Int) :
    IsWord (opening ++ decimal n ++ ")") := by
  intro blank
  rw [String.toList_append, String.toList_append, List.mem_append, List.mem_append] at blank
  rcases blank with (before | within) | behind
  · exact plain before
  · exact isWord_decimal n within
  · simp at behind

theorem enclosed_inj {opening : String} {n m : Int}
    (same : opening ++ decimal n ++ ")" = opening ++ decimal m ++ ")") : n = m := by
  have texts := congrArg String.toList same
  simp only [String.toList_append] at texts
  exact decimal_injective (String.toList_inj.mp (List.append_cancel_left (List.append_cancel_right texts)))

theorem rk_cases {n : Nat} (bound : n < 512) :
    n < 256 ∧ rk n = "R(" ++ decimal n ++ ")" ∨ 256 ≤ n ∧ rk n = "K(" ++ decimal (n - 256) ++ ")" := by
  by_cases low : n < 256
  · have plain : ¬ (n : Int) / 256 % 2 = 1 := by omega
    exact .inl ⟨low, by simp [rk, Operand.isConstant, plain]; rfl⟩
  · have marked : (n : Int) / 256 % 2 = 1 := by omega
    refine .inr ⟨by omega, ?_⟩
    simp [rk, Operand.isConstant, Operand.index, marked]; rfl

theorem rk_inj {n m : Nat} (bound : n < 512) (bound' : m < 512) (same : rk n = rk m) : n = m := by
  have letters (i j : Int) : "R(" ++ decimal i ++ ")" ≠ "K(" ++ decimal j ++ ")" := by
    intro equal
    have texts := congrArg String.toList equal
    simp at texts
  rcases rk_cases bound with ⟨low, shown⟩ | ⟨high, shown⟩ <;>
    rcases rk_cases bound' with ⟨low', shown'⟩ | ⟨high', shown'⟩ <;> rw [shown, shown'] at same
  · have := enclosed_inj same
    omega
  · exact absurd same (letters _ _)
  · exact absurd same.symm (letters _ _)
  · have := enclosed_inj same
    omega

namespace Role

def Admits (role : Role) (n : Int) : Prop := role = .either → 0 ≤ n ∧ n < 512

theorem isWord_shown {role : Role} {n : Int} (admits : role.Admits n) : IsWord (role.shown n) := by
  have r (n : Int) : IsWord ("R(" ++ decimal n ++ ")") := isWord_enclosed (by simp [IsWord]) n
  have k (n : Int) : IsWord ("K(" ++ decimal n ++ ")") := isWord_enclosed (by simp [IsWord]) n
  cases role with
  | number => exact isWord_decimal n
  | register => exact r n
  | upvalue => exact @isWord_enclosed "U(" (by simp [IsWord]) n
  | constant => exact k n
  | either =>
    obtain ⟨nonneg, bound⟩ := admits rfl
    rw [shown]
    rcases rk_cases (show n.toNat < 512 by omega) with ⟨_, shown⟩ | ⟨_, shown⟩
    · exact shown ▸ r _
    · exact shown ▸ k _

theorem shown_inj {role : Role} {n m : Int} (admits : role.Admits n) (admits' : role.Admits m)
    (same : role.shown n = role.shown m) : n = m := by
  cases role with
  | number => exact decimal_injective same
  | register => exact enclosed_inj same
  | upvalue => exact enclosed_inj same
  | constant => exact enclosed_inj same
  | either =>
    obtain ⟨nonneg, bound⟩ := admits rfl
    obtain ⟨nonneg', bound'⟩ := admits' rfl
    have := rk_inj (by omega) (by omega) same
    omega

end Role

theorem admits_operand {opcode : Opcode} {use : Field × Role} (member : use ∈ opcode.uses) (word : Word) :
    use.2.Admits (use.1.operand word.value) := by
  intro either
  rcases opcode.field_of_either use member either with field | field <;> rw [field, Field.operand] <;> omega

theorem value_emod (instruction : Instruction) : instruction.word.value % 2 ^ 6 = instruction.opcode.number := by
  rw [number_opcode]
  exact (instruction.word.field_zero 6).symm

theorem isWord_words (instruction : Instruction) : ∀ word ∈ words instruction, IsWord word := by
  intro word member
  obtain ⟨use, used, rfl⟩ := List.mem_map.mp member
  exact Role.isWord_shown (admits_operand used instruction.word)

theorem text_determines_instruction {constants constants' : List Constant} {first second : Instruction} {text : String}
    (shown : disassemble constants first = .ok text) (shown' : disassemble constants' second = .ok text) :
    first.word.value % 2 ^ 6 = second.word.value % 2 ^ 6 ∧ first.opcode = second.opcode ∧
    ∀ field role, (field, role) ∈ first.opcode.uses →
      field.operand first.word.value = field.operand second.word.value ∧
      (role = .either → (256 ≤ field.operand first.word.value ↔ 256 ≤ field.operand second.word.value)) := by
  obtain ⟨rest, begins⟩ := disassemble_begins shown
  obtain ⟨rest', begins'⟩ := disassemble_begins shown'
  rw [begins, padRight_blank, padRight_blank] at begins'
  obtain ⟨names, behind⟩ := append_mark_inj first.opcode.isWord_name second.opcode.isWord_name begins'
  have opcodes : first.opcode = second.opcode := Opcode.name_injective (String.toList_inj.mp names)
  have counts : (words first).length = (words second).length := by simp only [words, opcodes, List.length_map]
  have shownWords : words first = words second := by
    apply spaced_inj (isWord_words first) (isWord_words second) counts
    rw [opcodes] at behind
    exact List.append_cancel_left behind
  refine ⟨?_, opcodes, ?_⟩
  · rw [value_emod, value_emod, opcodes]
  intro field role used
  have same : field.operand first.word.value = field.operand second.word.value := by
    rw [words, words, ← opcodes] at shownWords
    exact Role.shown_inj (admits_operand used first.word) (admits_operand used second.word)
      (List.map_inj_left.mp shownWords (field, role) used)
  exact ⟨same, fun _ => by rw [same]⟩

-- The first word has 0 as operand C, of which this opcode has no use, and the second has 7.
theorem text_determines_move :
    disassemble [] ⟨⟨⟨0x01000040⟩, .move, rfl⟩, 1⟩ = .ok "MOVE         R(1) R(2)                ; R(1) := R(2)" ∧
    disassemble [.nil] ⟨⟨⟨0x0101C040⟩, .move, rfl⟩, 9⟩ =
      .ok "MOVE         R(1) R(2)                ; R(1) := R(2)" ∧
    Field.a.operand 0x01000040 = Field.a.operand 0x0101C040 ∧
    Field.b.operand 0x01000040 = Field.b.operand 0x0101C040 :=
  have shown : disassemble [] ⟨⟨⟨0x01000040⟩, .move, rfl⟩, 1⟩ =
      .ok "MOVE         R(1) R(2)                ; R(1) := R(2)" := by
    decide +kernel
  have shown' : disassemble [.nil] ⟨⟨⟨0x0101C040⟩, .move, rfl⟩, 9⟩ =
      .ok "MOVE         R(1) R(2)                ; R(1) := R(2)" := by
    decide +kernel
  have operands := (text_determines_instruction shown shown').2.2
  ⟨shown, shown', (operands .a .register (by decide)).1, (operands .b .register (by decide)).1⟩

end LuaBytecode.V52
