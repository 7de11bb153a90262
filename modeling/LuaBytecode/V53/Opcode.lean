namespace LuaBytecode.V53

inductive Opcode where
  | move
  | loadK
  | loadKx
  | loadBool
  | loadNil
  | getUpval
  | getTabUp
  | getTable
  | setTabUp
  | setUpval
  | setTable
  | newTable
  | self
  | add
  | sub
  | mul
  | mod
  | pow
  | div
  | idiv
  | band
  | bor
  | bxor
  | shl
  | shr
  | unm
  | bnot
  | not
  | len
  | concat
  | jmp
  | eq
  | lt
  | le
  | test
  | testSet
  | call
  | tailCall
  | ret
  | forLoop
  | forPrep
  | tForCall
  | tForLoop
  | setList
  | closure
  | vararg
  | extraArg
deriving DecidableEq, Repr

namespace Opcode

def all : List Opcode :=
  [
    .move, .loadK, .loadKx, .loadBool, .loadNil, .getUpval, .getTabUp, .getTable, .setTabUp,
    .setUpval, .setTable, .newTable, .self, .add, .sub, .mul, .mod, .pow, .div, .idiv, .band, .bor,
    .bxor, .shl, .shr, .unm, .bnot, .not, .len, .concat, .jmp, .eq, .lt, .le, .test, .testSet,
    .call, .tailCall, .ret, .forLoop, .forPrep, .tForCall, .tForLoop, .setList, .closure, .vararg,
    .extraArg]

def ofNumber? (n : Nat) : Option Opcode := all[n]?

def number (opcode : Opcode) : Nat := opcode.ctorIdx

def name : Opcode → String
  | move => "OP_MOVE"
  | loadK => "OP_LOADK"
  | loadKx => "OP_LOADKX"
  | loadBool => "OP_LOADBOOL"
  | loadNil => "OP_LOADNIL"
  | getUpval => "OP_GETUPVAL"
  | getTabUp => "OP_GETTABUP"
  | getTable => "OP_GETTABLE"
  | setTabUp => "OP_SETTABUP"
  | setUpval => "OP_SETUPVAL"
  | setTable => "OP_SETTABLE"
  | newTable => "OP_NEWTABLE"
  | self => "OP_SELF"
  | add => "OP_ADD"
  | sub => "OP_SUB"
  | mul => "OP_MUL"
  | mod => "OP_MOD"
  | pow => "OP_POW"
  | div => "OP_DIV"
  | idiv => "OP_IDIV"
  | band => "OP_BAND"
  | bor => "OP_BOR"
  | bxor => "OP_BXOR"
  | shl => "OP_SHL"
  | shr => "OP_SHR"
  | unm => "OP_UNM"
  | bnot => "OP_BNOT"
  | not => "OP_NOT"
  | len => "OP_LEN"
  | concat => "OP_CONCAT"
  | jmp => "OP_JMP"
  | eq => "OP_EQ"
  | lt => "OP_LT"
  | le => "OP_LE"
  | test => "OP_TEST"
  | testSet => "OP_TESTSET"
  | call => "OP_CALL"
  | tailCall => "OP_TAILCALL"
  | ret => "OP_RETURN"
  | forLoop => "OP_FORLOOP"
  | forPrep => "OP_FORPREP"
  | tForCall => "OP_TFORCALL"
  | tForLoop => "OP_TFORLOOP"
  | setList => "OP_SETLIST"
  | closure => "OP_CLOSURE"
  | vararg => "OP_VARARG"
  | extraArg => "OP_EXTRAARG"

end Opcode

end LuaBytecode.V53
