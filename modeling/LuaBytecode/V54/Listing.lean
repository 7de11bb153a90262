import LuaBytecode.Fault
import LuaBytecode.Text.Layout
import LuaBytecode.Text.Utf8
import LuaBytecode.V54.Instruction
import LuaBytecode.V54.Prototype

namespace LuaBytecode.V54

open Text

def row (wall mark text : String) (width : Int) : String :=
  wall ++ " " ++ mark ++ text ++ times (width - text.length) " " ++ wall

def optionText : Option String → String
  | some text => text
  | none => "None"

def doubled (mark text : String) : String := row "║" mark text 56

def statistic (label : String) (count : Nat) (unit : String) : String :=
  doubled "" ("  • " ++ label ++ ": " ++ padLeft 4 (toString count) ++ " " ++ unit)

def border : String := times 60 "═"

def thin : String := times 60 "─"

def titleRows (level : Int) : List String :=
  ["╔" ++ border ++ "╗", doubled "📁 " s!"函数原型 [Level {level}] (Proto)", "╠" ++ border ++ "╣"]

def Function.factRows (function : Function) (innerCount : Nat) : List String :=
  [doubled "📄 " ("源文件 (source): " ++ optionText function.source),
    doubled "📍 " ("起始行 (linedefined): " ++ decimal function.lineDefined),
    doubled "📍 " ("结束行 (lastlinedefined): " ++ decimal function.lastLineDefined),
    doubled "🔧 " ("参数个数 (numparams): " ++ decimal function.paramCount),
    doubled "🔧 " ("变长参数 (is_vararg): " ++ (if function.varargFlag = 0 then "否" else "是") ++
      " (" ++ decimal function.varargFlag ++ ")"),
    doubled "📊 " ("最大栈大小 (maxstacksize): " ++ decimal function.maxStackSize),
    "╠" ++ border ++ "╣",
    doubled "📈 " "结构统计:",
    statistic "常量表 (constants)" function.constants.length "项",
    statistic "指令表 (code)" function.code.length "条",
    statistic "Upvalue表 (upvalues)" function.upvalues.length "个",
    statistic "子函数 (protos)" innerCount "个",
    statistic "局部变量 (locvars)" function.locals.length "个",
    statistic "行号信息 (lineinfo)" function.lineInfo.length "个",
    statistic "绝对行号 (abslineinfo)" function.absLineInfo.length "个",
    statistic "Upvalue名称 (upvalue_names)" function.upvalueNames.length "个",
    "╚" ++ border ++ "╝"]

-- Strings are cut to thirty characters; their size counts bytes.
def constantText : Constant → String
  | .str text =>
    "\"" ++ String.ofList (text.toList.take 30) ++ "\" (" ++
      toString (Utf8.encode text).length ++ " bytes)"
  | .nil => "None (NoneType)"
  | .emptyList => "[] (list)"
  | constant => constant.text ++ " (" ++ constant.typeName ++ ", 8 bytes)"

def slot (width index : Nat) : String := "[" ++ padLeft width (toString index) ++ "] "

def plain (text : String) : String := row "│" "" text 50

def Function.constantRows (function : Function) : List String :=
  function.constants.mapIdx fun index constant => plain (slot 3 index ++ constantText constant)

def operandText : Operands → String
  | .abc a b _ c => s!"A={a}, B={b}, C={c}"
  | .abx a bx => s!"A={a}, Bx={bx}"
  | .asbx a sbx => s!"A={a}, sBx={sbx}"
  | .ax ax => s!"Ax={ax}"
  | .sj sj => s!"sJ={sj}"

def Function.codeRows (function : Function) : List String :=
  function.code.mapIdx fun index word =>
    let decoded := decode word
    let shown := (decoded.operands.map operandText).getD ""
    row "│" ""
      (slot 4 index ++ padRight 12 decoded.name ++ " (OpCode: " ++
        padLeft 3 (toString decoded.opcode) ++ ") \x7b " ++ shown ++ " \x7d") 48

def Function.upvalueRows (function : Function) : List String :=
  function.upvalues.mapIdx fun index upvalue =>
    let name :=
      match function.upvalueNames[index]? with
      | some name => optionText name
      | none => "<unknown>"
    plain (slot 3 index ++ "Name: '" ++ name ++ "', InStack: " ++ decimal upvalue.inStack ++
      ", Idx: " ++ decimal upvalue.index ++ ", Kind: " ++ decimal upvalue.kind ++
      " (Size: 3 bytes)")

def Function.localRows (function : Function) : List String :=
  function.locals.mapIdx fun index each =>
    plain (slot 3 index ++ "Name: '" ++ optionText each.name ++ "', StartPC: " ++
      decimal each.startPc ++ ", EndPC: " ++ decimal each.endPc)

def Function.lineRows (function : Function) : List String :=
  function.lineInfo.mapIdx fun index offset =>
    plain (slot 3 index ++ "Line Offset: " ++ decimal offset)

def Function.absLineRows (function : Function) : List String :=
  function.absLineInfo.mapIdx fun index each =>
    plain (slot 3 index ++ "PC: " ++ decimal each.pc ++ ", Line: " ++ decimal each.line)

def box (margin mark title : String) (width : Int) (rows : List String) : List String :=
  if rows.isEmpty then []
  else
    ("\n" ++ margin ++ "┌" ++ thin ++ "┐") ::
      ([row "│" mark title width, "├" ++ thin ++ "┤"] ++ rows ++ ["└" ++ thin ++ "┘"]).map
        (margin ++ ·)

def Function.boxes (function : Function) (margin : String) : List String :=
  box margin "🔢 " s!"常量表详情 (constants) - {function.constants.length} 项" 56
      function.constantRows ++
    box margin "⚙️  " s!"指令表概览 ({function.code.length} 条) [code]" 46 function.codeRows ++
    box margin "⬆️  " s!"Upvalue 详情 ({function.upvalues.length} 个) [upvalues]" 46
      function.upvalueRows ++
    box margin "📝 " s!"局部变量详情 ({function.locals.length} 个) [locvars]" 46
      function.localRows ++
    box margin "📏 " s!"行号信息 ({function.lineInfo.length} 项) [lineinfo]" 46
      function.lineRows ++
    box margin "📍 " s!"绝对行号信息 ({function.absLineInfo.length} 项) [abslineinfo]" 46
      function.absLineRows

def listingTop (level : Int) : List String :=
  match titleRows level with
  | [] => []
  | first :: rest =>
    ("\n" ++ times level "  " ++ first) :: rest.map (times level "  " ++ ·)

mutual
def listing (level : Int) : Prototype → List String
  | .node function inner =>
    let margin := times level "  "
    listingTop level ++ (function.factRows inner.length).map (margin ++ ·) ++
      function.boxes margin ++
      (if inner.isEmpty then []
      else
        ["\n" ++ margin ++ "┌" ++ thin ++ "┐",
          margin ++ row "│" "🌳 " s!"子函数列表 ({inner.length} 个) [protos]" 46,
          margin ++ "├" ++ thin ++ "┤"] ++
          forestListing level 0 inner ++ [margin ++ "└" ++ thin ++ "┘"]) ++
      (if level = 0 then ["\n" ++ margin ++ "╚" ++ border ++ "╝"] else [])
def forestListing (level : Int) (index : Nat) : List Prototype → List String
  | [] => []
  | tree :: forest =>
    let margin := times level "  "
    (margin ++ plain (slot 3 index ++ "子函数开始")) :: listing (level + 1) tree ++
      (margin ++ plain (slot 3 index ++ "子函数结束")) :: forestListing level (index + 1) forest
end

end LuaBytecode.V54
