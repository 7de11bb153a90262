import LuaBytecode.Bytes
/-!
Instruction words of version 5.4: seven bits of opcode, and operands in five arrangements. Words
are whole numbers of any size, read in two's complement, so only the lowest 32 bits count.
-/
namespace LuaBytecode.V54

inductive Mode where
  | abc
  | abx
  | asbx
  | ax
  | sj
deriving DecidableEq, Repr

def opcodes : List (String × Mode) :=
  [
    ("MOVE", .abc), ("LOADI", .asbx), ("LOADF", .asbx), ("LOADK", .abx), ("LOADKX", .abx),
    ("LOADFALSE", .abc), ("LFALSESKIP", .abc), ("LOADTRUE", .abc), ("LOADNIL", .abc),
    ("GETUPVAL", .abc), ("SETUPVAL", .abc), ("GETTABUP", .abc), ("GETTABLE", .abc), ("GETI", .abc),
    ("GETFIELD", .abc), ("SETTABUP", .abc), ("SETTABLE", .abc), ("SETI", .abc), ("SETFIELD", .abc),
    ("NEWTABLE", .abc), ("SELF", .abc), ("ADDI", .abc), ("ADDK", .abc), ("SUBK", .abc),
    ("MULK", .abc), ("MODK", .abc), ("POWK", .abc), ("DIVK", .abc), ("IDIVK", .abc),
    ("BANDK", .abc), ("BORK", .abc), ("BXORK", .abc), ("SHRI", .abc), ("SHLI", .abc), ("ADD", .abc),
    ("SUB", .abc), ("MUL", .abc), ("MOD", .abc), ("POW", .abc), ("DIV", .abc), ("IDIV", .abc),
    ("BAND", .abc), ("BOR", .abc), ("BXOR", .abc), ("SHL", .abc), ("SHR", .abc), ("MMBIN", .abc),
    ("MMBINI", .abc), ("MMBINK", .abc), ("UNM", .abc), ("BNOT", .abc), ("NOT", .abc), ("LEN", .abc),
    ("CONCAT", .abc), ("CLOSE", .abc), ("TBC", .abc), ("JMP", .sj), ("EQ", .abc), ("LT", .abc),
    ("LE", .abc), ("EQK", .abc), ("EQI", .abc), ("LTI", .abc), ("LEI", .abc), ("GTI", .abc),
    ("GEI", .abc), ("TEST", .abc), ("TESTSET", .abc), ("CALL", .abc), ("TAILCALL", .abc),
    ("RETURN", .abc), ("RETURN0", .abc), ("RETURN1", .abc), ("FORLOOP", .asbx), ("FORPREP", .asbx),
    ("TFORPREP", .asbx), ("TFORCALL", .abc), ("TFORLOOP", .asbx), ("SETLIST", .abc),
    ("CLOSURE", .abx), ("VARARG", .abc), ("VARARGPREP", .abc), ("EXTRAARG", .ax)]

def opcodeName (number : Nat) : String := ((opcodes[number]?).map Prod.fst).getD "UNKNOWN"

inductive Operands where
  | abc (a b k c : Nat)
  | abx (a bx : Nat)
  | asbx (a : Nat) (sbx : Int)
  | ax (ax : Nat)
  | sj (sj : Int)
deriving DecidableEq, Repr

def Operands.mode : Operands → Mode
  | abc .. => .abc
  | abx .. => .abx
  | asbx .. => .asbx
  | ax _ => .ax
  | sj _ => .sj

structure Decoded where
  raw : Int
  opcode : Nat
  name : String
  -- None for a number that is no opcode.
  operands : Option Operands
deriving DecidableEq, Repr

def field (word : Int) (start width : Nat) : Nat := (word / 2 ^ start % 2 ^ width).toNat

-- Signed operands are written with their middle taken as zero.
def operandsOf (word : Int) : Mode → Operands
  | .abc => .abc (field word 7 8) (field word 16 8) (field word 15 1) (field word 24 8)
  | .abx => .abx (field word 7 8) (field word 15 17)
  | .asbx => .asbx (field word 7 8) (field word 15 17 - 0xFFFF)
  | .ax => .ax (field word 7 25)
  | .sj => .sj (field word 7 25 - 0xFFFFFF)

def decode (word : Int) : Decoded :=
  let opcode := field word 0 7
  { raw := word, opcode, name := opcodeName opcode,
    operands := (opcodes[opcode]?).map fun entry => operandsOf word entry.2 }

end LuaBytecode.V54
