import LuaBytecode.Text.Layout
import LuaBytecode.Text.Quoted
import LuaBytecode.V51.Prototype

namespace LuaBytecode.V51

open Text

def Header.listing (header : Header) : List String :=
  [times 80 "=",
    "HEADER INFORMATION",
    times 80 "=",
    "Signature:        " ++ quoteBytes header.signature,
    "Version:          0x" ++ padZero 2 (hexUpper header.version) ++ " (Lua 5.1)",
    s!"Format:           {header.format}",
    "Endianness:       " ++ (if header.orderFlag = 1 then "Little" else "Big"),
    s!"Size of int:      {header.intWidth} bytes",
    s!"Size of size_t:   {header.sizeWidth} bytes",
    s!"Size of Instruction: {header.instructionWidth} bytes",
    s!"Size of lua_Number: {header.numberWidth} bytes",
    "Number type:      " ++ (if header.integralFlag = 0 then "Floating-point" else "Integer"),
    ""]

def instructionText (instruction : Instruction) : String :=
  let word := instruction.word
  padRight 12 instruction.opcode.name ++ s!" A={word.a} B={word.b} C={word.c}"

namespace Function

def operands (instruction : Instruction) : String :=
  let word := instruction.word
  let a := padRight 3 (toString word.a)
  let b := padRight 3 (toString word.b)
  let c := padRight 3 (toString word.c)
  let bx := padRight 6 (toString word.bx)
  let sbx := padRight 6 (decimal word.sbx)
  let narrow := times 3 " "
  let wide := times 6 " "
  match instruction.opcode.form with
  | .abc => s!"{a} {b} {c} {wide} {wide}"
  | .abx => s!"{a} {narrow} {narrow} {bx} {wide}"
  | .asbx => s!"{a} {narrow} {narrow} {wide} {sbx}"
  | .ac => s!"{a} {b} {c} {bx} {sbx}"

def remark (function : Function) (index : Nat) (instruction : Instruction) : String :=
  let bx := instruction.word.bx
  match instruction.opcode, function.constants[bx]? with
  | .loadK, some (.str text) => s!" ; K[{bx}] = \"" ++ text ++ "\""
  | .loadK, some constant => s!" ; K[{bx}] = " ++ constant.text
  | .getGlobal, some constant => s!" ; K[{bx}] = \"" ++ constant.text ++ "\""
  | .setGlobal, some constant => s!" ; K[{bx}] = \"" ++ constant.text ++ "\""
  | .jmp, _ => " ; to PC " ++ decimal (index + 1 + instruction.word.sbx)
  | _, _ => ""

def instructionLine (function : Function) (index : Nat) (instruction : Instruction) : String :=
  let pc := padRight 4 (toString (index + 1))
  let line := padRight 6 (decimal ((function.lineInfo[index]?).getD 0))
  let name := padRight 12 instruction.opcode.name
  s!"{pc} {line} {name} " ++ operands instruction ++ " " ++ instruction.opcode.meaning ++
    function.remark index instruction

def codeListing (function : Function) : List String :=
  if function.code.isEmpty then []
  else
    let columns := String.intercalate " "
      [padRight 4 "PC", padRight 6 "Line", padRight 12 "OpCode", padRight 3 "A", padRight 3 "B",
        padRight 3 "C", padRight 6 "Bx", padRight 6 "sBx", "Description"]
    [s!"INSTRUCTIONS ({function.code.length}):", times 60 "-", columns, times 60 "-"] ++
      function.code.mapIdx (function.instructionLine · ·)

def constantType : Constant → String
  | .nil => "nil"
  | .bool _ => "boolean"
  | .int _ => "number"
  | .num _ => "number"
  | .str _ => "string"
  | .emptyList => "list"

def constantText : Constant → String
  | .nil => "nil"
  | .bool true => "true"
  | .bool false => "false"
  | .str text => "\"" ++ text ++ "\""
  | constant => constant.text

def constantListing (function : Function) : List String :=
  if function.constants.isEmpty then []
  else
    [s!"CONSTANTS ({function.constants.length}):", times 40 "-",
      padRight 6 "Index" ++ " " ++ padRight 10 "Type" ++ " Value", times 40 "-"] ++
      function.constants.mapIdx fun index constant =>
        padRight 6 (toString index) ++ " " ++ padRight 10 (constantType constant) ++ " " ++
          constantText constant

def localListing (locals : List Local) : List String :=
  if locals.isEmpty then []
  else
    [s!"LOCAL VARIABLES ({locals.length}):", times 40 "-",
      padRight 6 "Index" ++ " " ++ padRight 15 "Name" ++ " " ++ padRight 9 "Start PC" ++ " End PC",
      times 40 "-"] ++
      locals.mapIdx fun index each =>
        padRight 6 (toString index) ++ " " ++ padRight 15 each.name ++ " " ++
          padRight 9 (decimal (each.startPc + 1)) ++ " " ++ decimal (each.endPc + 1)

def upvalueListing (function : Function) : List String :=
  if function.upvalueNames.isEmpty then []
  else
    [s!"UPVALUES ({function.upvalueNames.length}):", times 30 "-",
      padRight 6 "Index" ++ " Name", times 30 "-"] ++
      function.upvalueNames.mapIdx fun index name => padRight 6 (toString index) ++ " " ++ name

def facts (function : Function) (innerCount : Nat) : List String :=
  [times 60 "=",
    "FUNCTION: " ++ function.source ++ ":" ++ decimal function.lineDefined ++ "-" ++
      decimal function.lastLineDefined,
    times 60 "=",
    "Parameters:       " ++ decimal function.paramCount,
    "Is Vararg:        " ++ (if function.varargFlag = 0 then "No" else "Yes"),
    "Max Stack Size:   " ++ decimal function.maxStackSize,
    "Upvalues:         " ++ decimal function.upvalueCount,
    s!"Instructions:     {function.code.length}",
    s!"Constants:        {function.constants.length}",
    s!"Local Variables:  {function.locals.length}",
    s!"Sub-functions:    {innerCount}"]

end Function

def block (margin : String) (rows : List String) : List String :=
  if rows.isEmpty then [] else rows.map (margin ++ ·) ++ [""]

mutual
def listing (indent : Int) : Prototype → List String
  | .node function inner =>
    let margin := times indent "  "
    block margin (function.facts inner.length) ++
      block margin function.codeListing ++
      block margin function.constantListing ++
      block margin (Function.localListing function.locals) ++
      block margin function.upvalueListing ++
      (if inner.isEmpty then []
      else
        [margin ++ s!"SUB-FUNCTIONS ({inner.length}):", margin ++ times 60 "-"] ++
          forestListing indent 0 inner)
def forestListing (indent : Int) (index : Nat) : List Prototype → List String
  | [] => []
  | tree :: forest =>
    ("\n" ++ times indent "  " ++ s!"Function #{index}:") :: listing (indent + 1) tree ++
      forestListing indent (index + 1) forest
end

end LuaBytecode.V51
