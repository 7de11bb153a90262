import LuaBytecode.Constant.Order
import LuaBytecode.Text.Layout
import LuaBytecode.V51.Prototype

namespace LuaBytecode.V51

def Function.globalReference? (position : Nat) (function : Function) (instruction : Instruction) :
    Option Constant.Reference :=
  if instruction.opcode = .getGlobal ∨ instruction.opcode = .setGlobal then
    let slot := instruction.word.bx
    (function.constants[slot]?).map fun constant => { function := position, slot, constant }
  else none

def Function.globalReferences (position : Nat) (function : Function) : List Constant.Reference :=
  function.code.filterMap (function.globalReference? position)

mutual
-- The globals that a function names, together with those of each function inside it; `position`
-- is its place in the tree, outer functions first.
def gatherGlobals (position : Nat) : Prototype → List Constant.Reference
  | .node function inner =>
    gatherForestGlobals (position + 1) (Constant.distinct (function.globalReferences position)) inner
def gatherForestGlobals (position : Nat) (known : List Constant.Reference) :
    List Prototype → List Constant.Reference
  | [] => known
  | tree :: forest =>
    gatherForestGlobals (position + tree.toList.length)
      (Constant.union known (gatherGlobals position tree)) forest
end

def globals (main : Prototype) : List Constant := (gatherGlobals 0 main).map (·.constant)

def Function.strings (function : Function) : List String :=
  function.constants.filterMap fun
    | .str text => some text
    | _ => none

def strings (main : Prototype) : List String := main.toList.flatMap Function.strings

structure FunctionEntry where
  path : String
  source : String
  lines : String
  params : Int
  vararg : Bool
  stack : Int
  instructions : Nat
  constants : Nat
  upvalues : Int
deriving DecidableEq, Repr

def Function.entry (function : Function) (path : String) : FunctionEntry where
  path
  source := function.source
  lines := Text.decimal function.lineDefined ++ "-" ++ Text.decimal function.lastLineDefined
  params := function.paramCount
  vararg := function.varargFlag ≠ 0
  stack := function.maxStackSize
  instructions := function.code.length
  constants := function.constants.length
  upvalues := function.upvalueCount

mutual
def functions (path : String) : Prototype → List FunctionEntry
  | .node function inner => function.entry path :: forestFunctions path 0 inner
def forestFunctions (path : String) (index : Nat) : List Prototype → List FunctionEntry
  | [] => []
  | tree :: forest =>
    functions (path ++ s!".func{index}") tree ++ forestFunctions path (index + 1) forest
end

end LuaBytecode.V51
