import LuaBytecode.Bytes
import LuaBytecode.Text.Layout

namespace LuaBytecode.Jit

open Text

def opcodeNames : List String :=
  [
    "ISLT", "ISGE", "ISLE", "ISGT", "ISEQV", "ISNEV", "ISEQS", "ISNES", "ISEQN", "ISNEN", "ISEQP",
    "ISNEP", "ISTC", "ISFC", "IST", "ISF", "MOV", "NOT", "UNM", "LEN", "ADDVN", "SUBVN", "MULVN",
    "DIVVN", "MODVN", "ADDNV", "SUBNV", "MULNV", "DIVNV", "MODNV", "ADDVV", "SUBVV", "MULVV",
    "DIVVV", "MODVV", "POW", "CAT", "KSTR", "KCDATA", "KSHORT", "KNUM", "KPRI", "KNIL", "UGET",
    "USETV", "USETS", "USETN", "USETP", "UCLO", "FNEW", "TNEW", "TDUP", "GGET", "GSET", "TGETV",
    "TGETS", "TGETB", "TSETV", "TSETS", "TSETB", "TSETM", "CALLM", "CALL", "CALLMT", "CALLT",
    "ITERC", "ITERN", "VARG", "ISNEXT", "RETM", "RET", "RET0", "RET1", "FORI", "JFORI", "FORL",
    "IFORL", "JFORL", "ITERL", "IITERL", "JITERL", "LOOP", "ILOOP", "JLOOP", "JMP", "FUNCF",
    "IFUNCF", "JFUNCF", "FUNCV", "IFUNCV", "JFUNCV", "FUNCC", "FUNCCW"]

def opcodeName (number : Nat) : String := (opcodeNames[number]?).getD s!"UNK_{number}"

-- Jumps and loops: JMP, FORI, FORL, ITERL, LOOP; constants: KSTR, KNUM, KPRI, KNIL.
def usesD (number : Nat) : Bool := [84, 73, 75, 78, 81, 37, 40, 41, 42].contains number

def field (word : Int) (start width : Nat) : Nat := (word / 2 ^ start % 2 ^ width).toNat

structure Parts where
  opcode : Nat
  a : Nat
  b : Nat
  c : Nat
  d : Nat
deriving DecidableEq, Repr

def parts (word : Int) : Parts where
  opcode := field word 0 8
  a := field word 8 8
  b := field word 24 8
  c := field word 16 8
  d := field word 16 16

def disassemble (word : Int) : String :=
  let { opcode, a, b, c, d } := parts word
  let name := padRight 8 (opcodeName opcode)
  if usesD opcode then
    name ++ " " ++ padLeft 3 (toString a) ++ " " ++ padLeft 5 (toString d)
  else
    name ++ " " ++ padLeft 3 (toString a) ++ " " ++ padLeft 3 (toString b) ++ " " ++
      padLeft 3 (toString c)

end LuaBytecode.Jit
