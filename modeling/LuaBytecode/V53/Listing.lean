import LuaBytecode.Text.Layout
import LuaBytecode.V53.Prototype

namespace LuaBytecode.V53

open Text

def operands (instruction : Instruction) : String :=
  s!"A={instruction.word.a} B={instruction.word.b} C={instruction.word.c}"

def instructionText (instruction : Instruction) : String :=
  padRight 12 instruction.opcode.name ++ " " ++ operands instruction

namespace Function

def facts (function : Function) (innerCount : Nat) : List String :=
  ["源文件:     " ++ function.source,
    "定义行号:   " ++ decimal function.lineDefined ++ " - " ++ decimal function.lastLineDefined,
    "参数数量:   " ++ decimal function.paramCount,
    "可变参数:   " ++ (if function.varargFlag = 0 then "否" else "是"),
    "最大栈大小: " ++ decimal function.maxStackSize,
    s!"指令数量:   {function.code.length}",
    s!"常量数量:   {function.constants.length}",
    s!"上值数量:   {function.upvalues.length}",
    s!"局部变量:   {function.locals.length}",
    s!"子函数数量: {innerCount}"]

def constantType : Constant → String
  | .nil => "空值"
  | .bool _ => "布尔值"
  | .int _ => "整数"
  | .num _ => "浮点数"
  | .str _ => "字符串"
  | .emptyList => "未知"

def constantText : Constant → String
  | .nil => "nil"
  | .bool true => "true"
  | .bool false => "false"
  | .str text => "\"" ++ text ++ "\""
  | constant => constant.text

def slot (index : Nat) : String := "[" ++ padLeft 3 (toString index) ++ "] "

def constantRows (function : Function) : List String :=
  function.constants.mapIdx fun index constant =>
    slot index ++ padRight 8 (constantType constant) ++ " " ++ constantText constant

def codeRows (function : Function) : List String :=
  function.code.mapIdx fun index instruction =>
    slot (index + 1) ++ padRight 12 instruction.opcode.name ++ " " ++
      padRight 20 (operands instruction) ++ " ; 行号 " ++
      decimal ((function.lineInfo[index]?).getD 0)

def upvalueRows (function : Function) : List String :=
  function.upvalues.mapIdx fun index upvalue =>
    slot index ++ padRight 15 upvalue.name ++ " 索引=" ++ padLeft 3 (decimal upvalue.index) ++
      " 位置=" ++ (if upvalue.inStack = 0 then "外部" else "栈内")

def localRows (function : Function) : List String :=
  function.locals.mapIdx fun index each =>
    slot index ++ padRight 15 each.name ++ " 作用域=[" ++
      padLeft 3 (decimal (each.startPc + 1)) ++ "-" ++ padLeft 3 (decimal (each.endPc + 1)) ++ "]"

end Function

def floor : String := "└" ++ times 53 "─"

def box (margin title : String) (dashes : Nat) (rows : List String) : List String :=
  [margin ++ "┌─ " ++ title ++ " " ++ times dashes "─"] ++ rows.map (margin ++ "│ " ++ ·) ++
    [margin ++ floor, ""]

def boxUnlessEmpty (margin title : String) (dashes : Nat) (rows : List String) : List String :=
  if rows.isEmpty then [] else box margin title dashes rows

mutual
def listing (indent : Int) : Prototype → List String
  | .node function inner =>
    let margin := times indent "  "
    box margin "函数信息" 45 (function.facts inner.length) ++
      boxUnlessEmpty margin s!"常量表 ({function.constants.length} 个)" 33 function.constantRows ++
      boxUnlessEmpty margin s!"指令表 ({function.code.length} 条指令)" 29 function.codeRows ++
      boxUnlessEmpty margin s!"上值信息 ({function.upvalues.length} 个)" 29 function.upvalueRows ++
      boxUnlessEmpty margin s!"局部变量 ({function.locals.length} 个)" 25 function.localRows ++
      (if inner.isEmpty then []
      else
        [margin ++ s!"┌─ 子函数 ({inner.length} 个) " ++ times 33 "─"] ++
          forestListing indent 1 inner ++ [margin ++ floor])
def forestListing (indent : Int) (index : Nat) : List Prototype → List String
  | [] => []
  | tree :: forest =>
    let margin := times indent "  "
    [margin ++ "│", margin ++ s!"│ 子函数 #{index}:", margin ++ "│"] ++
      listing (indent + 1) tree ++ forestListing indent (index + 1) forest
end

end LuaBytecode.V53
