import LuaBytecode.Json
import LuaBytecode.Jit.Instruction
import LuaBytecode.Jit.Prototype
import LuaBytecode.Text.Layout

namespace LuaBytecode.Jit

open Text

def yesNo (value : Bool) : String := if value then "是" else "否"

def Header.listing (header : Header) : List String :=
  [times 60 "=",
    "LuaJIT 字节码文件头部信息",
    times 60 "=",
    "签名 (signature):       " ++ signature.toHex,
    s!"版本 (version):         {header.version}",
    "标志 (flags):           0x" ++ hexPadded 2 header.flags,
    "大端序 (is_big_endian): " ++ yesNo header.isBigEndian,
    "去除调试 (is_stripped): " ++ yesNo header.isStripped,
    "包含FFI (has_ffi):      " ++ yesNo header.hasForeign] ++
    (if header.sourceName.isEmpty then []
    else ["源文件 (source_name):   " ++ header.sourceName]) ++
    [""]

namespace Prototype

-- The lines on where a function stands are left out by a flag of the function.
def showsLines (prototype : Prototype) : Bool := prototype.flags / 2 % 2 = 0

def facts (prototype : Prototype) : List String :=
  ["大小 (size):         " ++ decimal prototype.size,
    "标志 (flags):        0x" ++ hexPadded 2 prototype.flags,
    "参数数量 (numparams): " ++ decimal prototype.paramCount,
    "栈帧大小 (framesize): " ++ decimal prototype.frameSize,
    "上值数量 (numuv):     " ++ decimal prototype.upvalueCount,
    "GC常量数 (numkgc):    " ++ decimal prototype.collectableCount,
    "数值常量数 (numkn):   " ++ decimal prototype.numberCount,
    "字节码数 (numbc):     " ++ decimal prototype.codeCount] ++
    (if prototype.showsLines then
      ["首行号 (firstline):   " ++ decimal prototype.firstLine,
        "行数 (numline):       " ++ decimal prototype.lineCount]
    else [])

def codeRows (prototype : Prototype) : List String :=
  [String.intercalate " "
      [padLeft 4 "PC", padLeft 8 "指令", padLeft 3 "A", padLeft 3 "B", padLeft 3 "C",
        padLeft 10 "原始", "说明"],
    times 60 "-"] ++
    prototype.code.mapIdx fun index word =>
      let line :=
        match prototype.lineInfo[index]? with
        | some line => s!"行:{line}"
        | none => ""
      padLeft 4 (toString (index + 1)) ++ " " ++ disassemble word ++ " 0x" ++
        hexPadded 8 word ++ " " ++ line

def collectableText : Collectable → String
  | .str text => "字符串 (string): \"" ++ text ++ "\""
  | .table table => s!"表 (table): {table.array.length} 数组项, {table.hash.length} 哈希项"
  | .child => "子原型引用 (child_ref)"
  | .i64 value => s!"I64: {value}"
  | .u64 value => s!"U64: {value}"
  | .complex real imaginary => "复数 (complex): " ++ real.text ++ " + " ++ imaginary.text ++ "i"
  | .other label value => label ++ ": " ++ value.text

def numberText : Number → String
  | .num value => "浮点数 (float): " ++ value.text
  | .int value => s!"整数 (int): {value}"

def numbered (texts : List String) : List String :=
  texts.mapIdx fun index text => s!"  [{index}] " ++ text

def upvalueTexts (prototype : Prototype) : List String :=
  prototype.upvalueData.mapIdx fun index data =>
    (prototype.upvalueNames[index]?).getD s!"uv_{index}" ++ ": 0x" ++ hexPadded 4 data

def block (margin title : String) (isEmpty : Bool) (rows : List String) : List String :=
  if isEmpty then [] else ("\n" ++ margin ++ title) :: rows.map (margin ++ ·)

def listing (level : Int) (prototype : Prototype) : List String :=
  let margin := times level "  "
  if prototype.size = 0 then [margin ++ "空原型"]
  else
    ([times 50 "=", s!"函数原型 (Proto) - 层级 {level}", times 50 "="] ++ prototype.facts).map
        (margin ++ ·) ++
      block margin "字节码指令 (bytecode):" prototype.code.isEmpty prototype.codeRows ++
      block margin "GC 常量 (constants_gc):" prototype.collectables.isEmpty
        (numbered (prototype.collectables.map collectableText)) ++
      block margin "数值常量 (constants_num):" prototype.numbers.isEmpty
        (numbered (prototype.numbers.map numberText)) ++
      block margin "Upvalue 数据 (uv_data):" prototype.upvalueData.isEmpty
        (numbered prototype.upvalueTexts) ++
      block margin "局部变量 (varnames):" prototype.variableNames.isEmpty
        (numbered prototype.variableNames) ++
      [""]

end Prototype

def prototypeListing (prototypes : List Prototype) : List String :=
  [s!"总共找到 {prototypes.length} 个函数原型 (protos):", ""] ++
    (prototypes.mapIdx fun index prototype =>
      s!"原型 (Proto) #{index + 1}:" :: prototype.listing 0).flatten

def Dump.listing (dump : Dump) : List String :=
  dump.header.listing ++ prototypeListing dump.prototypes

namespace Export

def constant : Constant → Json
  | .nil => .null
  | .bool value => .bool value
  | .int value => .int value
  | .num value => .num value
  | .str text => .str text
  | .emptyList => .arr []

def table (table : Table) : Json :=
  .obj [("array_items", .arr (table.array.map constant)),
    ("hash_items", .arr (table.hash.map fun (key, value) => .arr [constant key, constant value]))]

def collectable : Collectable → Json
  | .child => .arr [.str "child_ref", .null]
  | .table content => .arr [.str "table", table content]
  | .i64 value => .arr [.str "i64", .int value]
  | .u64 value => .arr [.str "u64", .int value]
  | .complex real imaginary => .arr [.str "complex", .arr [.num real, .num imaginary]]
  | .str text => .arr [.str "string", .str text]
  | .other label value => .arr [.str label, constant value]

def number : Number → Json
  | .int value => .int value
  | .num value => .num value

def prototype (prototype : Prototype) : Json :=
  .obj [("size", .int prototype.size), ("flags", .int prototype.flags),
    ("numparams", .int prototype.paramCount), ("framesize", .int prototype.frameSize),
    ("numuv", .int prototype.upvalueCount), ("numkgc", .int prototype.collectableCount),
    ("numkn", .int prototype.numberCount), ("numbc", .int prototype.codeCount),
    ("debuginfo_size", .int prototype.debugSize), ("firstline", .int prototype.firstLine),
    ("numline", .int prototype.lineCount), ("bytecode", .arr (prototype.code.map .int)),
    ("uv_data", .arr (prototype.upvalueData.map .int)),
    ("constants_gc", .arr (prototype.collectables.map collectable)),
    ("constants_num", .arr (prototype.numbers.map number)),
    ("lineinfo", .arr (prototype.lineInfo.map .int)),
    ("uvnames", .arr (prototype.upvalueNames.map .str)),
    ("varnames", .arr (prototype.variableNames.map .str))]

def header (header : Header) : Json :=
  .obj [("signature", .str signature.toHex), ("version", .int header.version),
    ("flags", .int header.flags), ("is_big_endian", .bool header.isBigEndian),
    ("is_stripped", .bool header.isStripped), ("has_ffi", .bool header.hasForeign),
    ("source_name", .str header.sourceName)]

def text (head : Option Header) (prototypes : List Prototype) : String :=
  Json.pretty 0 (.obj [("header", (head.map header).getD (.obj [])),
    ("protos", .arr (prototypes.map prototype))])

end Export

end LuaBytecode.Jit
