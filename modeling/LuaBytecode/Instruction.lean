import LuaBytecode.Fault
/-!
Instruction words of versions 5.1 to 5.3: six bits of opcode, then the operands A (8 bits), C (9)
and B (9). Bx spans C and B, Ax spans all three. Words are whole numbers of any size, read in two's
complement, so only the lowest 32 bits count.
-/
namespace LuaBytecode

structure Word where
  value : Int
deriving DecidableEq, Repr

namespace Word

def field (word : Word) (start width : Nat) : Nat :=
  (word.value / 2 ^ start % 2 ^ width).toNat

def number (word : Word) : Nat := word.field 0 6
def a (word : Word) : Nat := word.field 6 8
def b (word : Word) : Nat := word.field 23 9
def c (word : Word) : Nat := word.field 14 9
def bx (word : Word) : Nat := word.field 14 18
def ax (word : Word) : Nat := word.field 6 26

def sbx (word : Word) : Int := word.bx - 131071

end Word

-- An operand that may name a register or, with bit 8 set, a constant.
structure Operand where
  value : Int

namespace Operand

def isConstant (operand : Operand) : Bool := operand.value / 256 % 2 = 1

def index (operand : Operand) : Int :=
  if operand.isConstant then operand.value - 256 else operand.value

end Operand

structure Instruction {Opcode : Type} (ofNumber? : Nat → Option Opcode) where
  word : Word
  opcode : Opcode
  known : ofNumber? word.number = some opcode

namespace Instruction

variable {Opcode : Type} {ofNumber? : Nat → Option Opcode}

theorem eq_of_word {first second : Instruction ofNumber?} (same : first.word = second.word) :
    first = second := by
  cases first with
  | mk word opcode known =>
    cases second with
    | mk word' opcode' known' =>
      cases same
      have opcodes : some opcode = some opcode' := known.symm.trans known'
      cases opcodes
      rfl

instance : DecidableEq (Instruction ofNumber?) := fun first second =>
  if same : first.word = second.word then .isTrue (eq_of_word same)
  else .isFalse fun equal => same (by rw [equal])

def decode (word : Word) : Except Fault (Instruction ofNumber?) :=
  match known : ofNumber? word.number with
  | some opcode => .ok ⟨word, opcode, known⟩
  | none => .error (.unknownOpcode word.number)

theorem decode_word (instruction : Instruction ofNumber?) :
    decode instruction.word = .ok instruction := by
  unfold decode
  split
  · rename_i opcode known
    exact congrArg Except.ok (eq_of_word rfl)
  · rename_i unknown
    rw [instruction.known] at unknown
    cases unknown

end Instruction

end LuaBytecode
