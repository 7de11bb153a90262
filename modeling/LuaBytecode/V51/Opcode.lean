namespace LuaBytecode.V51

inductive Opcode where
  | move
  | loadK
  | loadBool
  | loadNil
  | getUpval
  | getGlobal
  | getTable
  | setGlobal
  | setUpval
  | setTable
  | newTable
  | self
  | add
  | sub
  | mul
  | div
  | mod
  | pow
  | unm
  | not
  | len
  | concat
  | jmp
  | eq
  | lt
  | le
  | test
  | testSet
  | call
  | tailCall
  | ret
  | forLoop
  | forPrep
  | tForLoop
  | setList
  | close
  | closure
  | vararg
deriving DecidableEq, Repr

inductive Form where
  | abc
  | abx
  | asbx
  | ac
deriving DecidableEq, Repr

namespace Opcode

def all : List Opcode :=
  [
    .move, .loadK, .loadBool, .loadNil, .getUpval, .getGlobal, .getTable, .setGlobal, .setUpval,
    .setTable, .newTable, .self, .add, .sub, .mul, .div, .mod, .pow, .unm, .not, .len, .concat,
    .jmp, .eq, .lt, .le, .test, .testSet, .call, .tailCall, .ret, .forLoop, .forPrep, .tForLoop,
    .setList, .close, .closure, .vararg]

def ofNumber? (n : Nat) : Option Opcode := all[n]?

def number (opcode : Opcode) : Nat := opcode.ctorIdx

def name : Opcode → String
  | move => "OP_MOVE"
  | loadK => "OP_LOADK"
  | loadBool => "OP_LOADBOOL"
  | loadNil => "OP_LOADNIL"
  | getUpval => "OP_GETUPVAL"
  | getGlobal => "OP_GETGLOBAL"
  | getTable => "OP_GETTABLE"
  | setGlobal => "OP_SETGLOBAL"
  | setUpval => "OP_SETUPVAL"
  | setTable => "OP_SETTABLE"
  | newTable => "OP_NEWTABLE"
  | self => "OP_SELF"
  | add => "OP_ADD"
  | sub => "OP_SUB"
  | mul => "OP_MUL"
  | div => "OP_DIV"
  | mod => "OP_MOD"
  | pow => "OP_POW"
  | unm => "OP_UNM"
  | not => "OP_NOT"
  | len => "OP_LEN"
  | concat => "OP_CONCAT"
  | jmp => "OP_JMP"
  | eq => "OP_EQ"
  | lt => "OP_LT"
  | le => "OP_LE"
  | test => "OP_TEST"
  | testSet => "OP_TESTSET"
  | call => "OP_CALL"
  | tailCall => "OP_TAILCALL"
  | ret => "OP_RETURN"
  | forLoop => "OP_FORLOOP"
  | forPrep => "OP_FORPREP"
  | tForLoop => "OP_TFORLOOP"
  | setList => "OP_SETLIST"
  | close => "OP_CLOSE"
  | closure => "OP_CLOSURE"
  | vararg => "OP_VARARG"

def form : Opcode → Form
  | loadK => .abx
  | getGlobal => .abx
  | setGlobal => .abx
  | jmp => .asbx
  | forLoop => .asbx
  | forPrep => .asbx
  | tForLoop => .ac
  | closure => .abx
  | _ => .abc

def meaning : Opcode → String
  | move => "R(A) := R(B)"
  | loadK => "R(A) := Kst(Bx)"
  | loadBool => "R(A) := (Bool)B; if (C) pc++"
  | loadNil => "R(A) := ... := R(B) := nil"
  | getUpval => "R(A) := UpValue[B]"
  | getGlobal => "R(A) := Gbl[Kst(Bx)]"
  | getTable => "R(A) := R(B)[RK(C)]"
  | setGlobal => "Gbl[Kst(Bx)] := R(A)"
  | setUpval => "UpValue[B] := R(A)"
  | setTable => "R(A)[RK(B)] := RK(C)"
  | newTable => "R(A) := \x7b\x7d (size = B,C)"
  | self => "R(A+1) := R(B); R(A) := R(B)[RK(C)]"
  | add => "R(A) := RK(B) + RK(C)"
  | sub => "R(A) := RK(B) - RK(C)"
  | mul => "R(A) := RK(B) * RK(C)"
  | div => "R(A) := RK(B) / RK(C)"
  | mod => "R(A) := RK(B) % RK(C)"
  | pow => "R(A) := RK(B) ^ RK(C)"
  | unm => "R(A) := -R(B)"
  | not => "R(A) := not R(B)"
  | len => "R(A) := length of R(B)"
  | concat => "R(A) := R(B).. ... ..R(C)"
  | jmp => "pc+=sBx"
  | eq => "if ((RK(B) == RK(C)) ~= A) then pc++"
  | lt => "if ((RK(B) <  RK(C)) ~= A) then pc++"
  | le => "if ((RK(B) <= RK(C)) ~= A) then pc++"
  | test => "if not (R(A) <=> C) then pc++"
  | testSet => "if (R(B) <=> C) then R(A) := R(B) else pc++"
  | call => "R(A), ... ,R(A+C-2) := R(A)(R(A+1), ... ,R(A+B-1))"
  | tailCall => "return R(A)(R(A+1), ... ,R(A+B-1))"
  | ret => "return R(A), ... ,R(A+B-2)"
  | forLoop => "R(A)+=R(A+2); if R(A) <?= R(A+1) then \x7b pc+=sBx; R(A+3)=R(A) \x7d"
  | forPrep => "R(A)-=R(A+2); pc+=sBx"
  | tForLoop => "R(A+3), ... ,R(A+2+C) := R(A)(R(A+1), R(A+2))"
  | setList => "R(A)[(C-1)*FPF+i] := R(A+i), 1 <= i <= B"
  | close => "close all variables in the stack up to (>=) R(A)"
  | closure => "R(A) := closure(KPROTO[Bx], R(A), ... ,R(A+n))"
  | vararg => "R(A), R(A+1), ..., R(A+B-1) = vararg"

end Opcode

end LuaBytecode.V51
