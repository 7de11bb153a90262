import LuaBytecode.Constant.Order
import LuaBytecode.Text.Layout
import LuaBytecode.Text.Quoted
import LuaBytecode.V52.Parts
import LuaBytecode.V52.Prototype

namespace LuaBytecode.V52

open Text

def Function.globalReferences (function : Function) : List Constant.Reference :=
  let reference (key : Nat) : Option Constant.Reference :=
    let operand : Operand := ⟨key⟩
    if operand.isConstant then
      let slot := operand.index.toNat
      (function.constants[slot]?).map fun constant => { function := 0, slot, constant }
    else none
  function.code.filterMap fun instruction =>
    let word := parts instruction.word
    match instruction.opcode with
    | .getTabUp => if word.b = 0 then reference word.c else none
    | .setTabUp => if word.a = 0 then reference word.b else none
    | _ => none

def Function.globals (function : Function) : List Constant :=
  (Constant.distinct function.globalReferences).map (·.constant)

def Function.globalLine (function : Function) (margin : String) :
    Except Fault (List String) :=
  if function.globals.isEmpty then .ok []
  else
    match Constant.sort function.globals with
    | .ok sorted =>
      .ok [margin ++ "Global variables used: " ++
        String.intercalate ", " (sorted.map Constant.text)]
    | .error (left, right) => .error (.incomparable left right)

structure Report where
  lines : List String
  fault : Option Fault := none
deriving DecidableEq, Repr

def Report.append (first second : Report) : Report :=
  match first.fault with
  | some _ => first
  | none => { lines := first.lines ++ second.lines, fault := second.fault }

mutual
def globalReport (level : Int) : Prototype → Report
  | .node function inner =>
    match function.globalLine (times level "  ") with
    | .error fault => { lines := [], fault := some fault }
    | .ok lines => Report.append { lines } (globalForest (level + 1) inner)
def globalForest (level : Int) : List Prototype → Report
  | [] => { lines := [] }
  | tree :: forest => (globalReport level tree).append (globalForest level forest)
end

def Function.strings (function : Function) : List String :=
  function.constants.filterMap fun
    | .str text => some text
    | _ => none

def Function.stringLines (function : Function) (margin : String) : List String :=
  if function.strings.isEmpty then []
  else
    [margin ++ s!"String constants ({function.strings.length}): " ++
      String.intercalate ", " (function.strings.map quote)]

mutual
def stringReport (level : Int) : Prototype → List String
  | .node function inner =>
    function.stringLines (times level "  ") ++ stringForest (level + 1) inner
def stringForest (level : Int) : List Prototype → List String
  | [] => []
  | tree :: forest => stringReport level tree ++ stringForest level forest
end

def Function.infoLines (function : Function) (innerCount : Nat) : List String :=
  ["Function info:",
    "  Source: " ++ function.source,
    "  Lines: " ++ decimal function.lineDefined ++ "-" ++ decimal function.lastLineDefined,
    "  Parameters: " ++ decimal function.paramCount,
    s!"  Instructions: {function.code.length}",
    s!"  Constants: {function.constants.length}",
    s!"  Child functions: {innerCount}"]

mutual
def functionReport (level : Int) : Prototype → List String
  | .node function inner =>
    (function.infoLines inner.length).map (times level "  " ++ ·) ++ functionForest level 0 inner
def functionForest (level : Int) (index : Nat) : List Prototype → List String
  | [] => []
  | tree :: forest =>
    (times level "  " ++ s!"Child function {index}:") :: functionReport (level + 1) tree ++
      functionForest level (index + 1) forest
end

end LuaBytecode.V52
