namespace LuaBytecode.V52

inductive Opcode where
  | move
  | loadK
  | loadKx
  | loadBool
  | loadNil
  | getUpval
  | getTabUp
  | getTable
  | setTabUp
  | setUpval
  | setTable
  | newTable
  | self
  | add
  | sub
  | mul
  | div
  | mod
  | pow
  | unm
  | not
  | len
  | concat
  | jmp
  | eq
  | lt
  | le
  | test
  | testSet
  | call
  | tailCall
  | ret
  | forLoop
  | forPrep
  | tForCall
  | tForLoop
  | setList
  | closure
  | vararg
  | extraArg
deriving DecidableEq, Repr

namespace Opcode

def all : List Opcode :=
  [
    .move, .loadK, .loadKx, .loadBool, .loadNil, .getUpval, .getTabUp, .getTable, .setTabUp,
    .setUpval, .setTable, .newTable, .self, .add, .sub, .mul, .div, .mod, .pow, .unm, .not, .len,
    .concat, .jmp, .eq, .lt, .le, .test, .testSet, .call, .tailCall, .ret, .forLoop, .forPrep,
    .tForCall, .tForLoop, .setList, .closure, .vararg, .extraArg]

def ofNumber? (n : Nat) : Option Opcode := all[n]?

def number (opcode : Opcode) : Nat := opcode.ctorIdx

def name : Opcode → String
  | move => "MOVE"
  | loadK => "LOADK"
  | loadKx => "LOADKX"
  | loadBool => "LOADBOOL"
  | loadNil => "LOADNIL"
  | getUpval => "GETUPVAL"
  | getTabUp => "GETTABUP"
  | getTable => "GETTABLE"
  | setTabUp => "SETTABUP"
  | setUpval => "SETUPVAL"
  | setTable => "SETTABLE"
  | newTable => "NEWTABLE"
  | self => "SELF"
  | add => "ADD"
  | sub => "SUB"
  | mul => "MUL"
  | div => "DIV"
  | mod => "MOD"
  | pow => "POW"
  | unm => "UNM"
  | not => "NOT"
  | len => "LEN"
  | concat => "CONCAT"
  | jmp => "JMP"
  | eq => "EQ"
  | lt => "LT"
  | le => "LE"
  | test => "TEST"
  | testSet => "TESTSET"
  | call => "CALL"
  | tailCall => "TAILCALL"
  | ret => "RETURN"
  | forLoop => "FORLOOP"
  | forPrep => "FORPREP"
  | tForCall => "TFORCALL"
  | tForLoop => "TFORLOOP"
  | setList => "SETLIST"
  | closure => "CLOSURE"
  | vararg => "VARARG"
  | extraArg => "EXTRAARG"

end Opcode

end LuaBytecode.V52
