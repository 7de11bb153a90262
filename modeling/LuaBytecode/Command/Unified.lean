import LuaBytecode.Command.Lua54
import LuaBytecode.Inspection

namespace LuaBytecode.Command.Unified

open Text

structure Task where
  compare : List String := []
  decrypt : Bool := false
  encrypt : Bool := false
  key : Option String := none
  input : Option String := none
  -- A fault if the command has no such option.
  output : Except Fault (Option String) := .ok none

structure Done where
  said : String
  store : Store Bytes

def pairOf : List String → Except Fault (String × String)
  | [file, other] => .ok (file, other)
  | [] => .error (.tooFewValues 2 0)
  | [_] => .error (.tooFewValues 2 1)
  | _ => .error (.tooManyValues 2)

def nonempty (text : Option String) : Option String := text.filter (· ≠ "")

namespace Task

def runCompare (task : Task) (store : Store Bytes) : Done :=
  let fail (said : String) (fault : Fault) : Done :=
    { said := said ++ lines ["❌ 对比过程中发生错误: " ++ fault.message], store }
  match pairOf task.compare with
  | .error fault => fail "" fault
  | .ok (file, other) =>
    let comparison := V54.compareFiles file other (store.read file) (store.read other)
    match comparison.result, task.output with
    | .error fault, _ => fail comparison.said fault
    | .ok _, .error fault => fail comparison.said fault
    | .ok relabelling, .ok output =>
      match nonempty output with
      | none => { said := comparison.said, store }
      | some path =>
        match store.write path (Lua54.relabellingFile decimal relabelling) with
        | .error fault => fail comparison.said fault
        | .ok after =>
          { said := comparison.said ++ lines ["\n✓ 映射结果已保存到: " ++ path], store := after }

def runCipher (task : Task) (key path : String) (store : Store Bytes) : Done :=
  let fail (store : Store Bytes) (said : String) (fault : Fault) : Done :=
    { said := said ++ lines ["❌ 处理过程中发生错误: " ++ fault.message], store }
  match store.read path with
  | .error fault => fail store "" fault
  | .ok bytes =>
    match V54.parse true bytes, task.output with
    | (.error fault, input), _ => fail store input.said fault
    | (.ok _, input), .error fault => fail store input.said fault
    | (.ok chunk, input), .ok output =>
      let ending := if task.decrypt then "_decrypt.luac" else "_encrypt.luac"
      let target := (nonempty output).getD (Lua54.baseName path ++ ending)
      let session : V54.Session := { main := some chunk.main }
      match Lua54.save (session.writeEncrypted (Utf8.encode key)).2 target store with
      | (after, some fault) => fail after input.said fault
      | (after, none) =>
        let done :=
          if task.decrypt then ["✓ 解密完成，输出文件: " ++ target]
          else [Lua54.encrypted target, "✓ 加密完成，输出文件: " ++ target]
        { said := input.said ++ lines done, store := after }

def run (task : Task) (store : Store Bytes) : Option Done :=
  if !task.compare.isEmpty then some (task.runCompare store)
  else if task.decrypt || task.encrypt then
    match nonempty task.key, nonempty task.input with
    | none, _ => some { said := lines ["❌ 错误: 加密或解密模式需要提供密钥 (-k)"], store }
    | _, none => some { said := lines ["❌ 错误: 需要指定输入文件"], store }
    | some key, some path => some (task.runCipher key path store)
  else none

end Task

def manual : Manual where
  usage :=
    ["[-h] [-v] [-d] [-e] [-k KEY] [-c STANDARD_FILE SHUFFLED_FILE]", "[input_file]"]
  details program :=
    ["统一的Lua字节码解析器 - 支持 Lua 5.1/5.3/5.4 和 LuaJIT 2.0/2.1", "", "positional arguments:",
      "  input_file            输入的字节码文件路径", "", "options:",
      "  -h, --help            show this help message and exit",
      "  -v, --version-only    仅检测并显示版本信息",
      "  -d, --decrypt         解密模式（仅Lua 5.4）",
      "  -e, --encrypt         加密模式（仅Lua 5.4）",
      "  -k KEY, --key KEY     加密/解密密钥（仅Lua 5.4）",
      "  -c STANDARD_FILE SHUFFLED_FILE, --compare STANDARD_FILE SHUFFLED_FILE",
      "                        对比两个luac文件的opcode映射关系（仅Lua 5.4）",
      "", "示例用法:",
      "  " ++ program ++ " file.luac                    # 自动检测版本并解析",
      "  " ++ program ++ " file.luac -f json           # 输出JSON格式",
      "  " ++ program ++ " file.luac -v                # 仅检测版本",
      "  " ++ program ++ " -c std.luac shuf.luac       # 对比opcode映射（仅Lua 5.4）",
      "  " ++ program ++ " file.luac -d -k mykey       # 解密文件（仅Lua 5.4）",
      "  " ++ program ++ " file.luac -e -k mykey       # 加密文件（仅Lua 5.4）",
      "", "支持的格式:", "  - Lua 5.1 字节码文件", "  - Lua 5.3 字节码文件  ",
      "  - Lua 5.4 字节码文件（包含加密/解密/对比功能）", "  - LuaJIT 2.0/2.1 字节码文件", "", "架构说明:",
      "  标准架构（Lua 5.1, 5.3, LuaJIT）: Parser类 + Dumper类",
      "  Lua 5.4 特殊架构: LuacParser类（集成解析+输出+加密+解密+对比）", "        "]

def grammar : Grammar where
  flags :=
    [{ short := some 'v', long := "version-only" }, { short := some 'd', long := "decrypt" },
      { short := some 'e', long := "encrypt" }, { short := some 'k', long := "key", valueCount := 1 },
      { short := some 'c', long := "compare", valueCount := 2 }]
  isOptional := true

-- This command has no option for an output.
def taskOf (arguments : Arguments) : Task where
  compare := (arguments.values? "compare").getD []
  decrypt := arguments.has "decrypt"
  encrypt := arguments.has "encrypt"
  key := arguments.value? "key"
  input := arguments.argument
  output := .error (.missingAttribute "output")

def list (versionOnly : Bool) (path : String) (store : Store Bytes) : Outcome :=
  let detection := Detection.ofFile (store.read path)
  let opening := lines ["🔍 正在检测Lua字节码版本...", "📋 检测结果: " ++ detection.text]
  if versionOnly then { said := opening, store }
  else if detection.isHopeless then .failed store (opening ++ lines ["❌ " ++ detection.text])
  else
    let inspected := inspect detection.text path (store.read path)
    { said := opening ++ lines ["\n📊 正在解析文件: " ++ path] ++ inspected.said, store }

def run (program : String) (words : List String) (store : Store Bytes) : Outcome :=
  withArguments manual grammar program words store fun arguments =>
    let task := taskOf arguments
    if task.decrypt && task.encrypt then
      .failed store (lines ["❌ 错误: 不能同时指定加密和解密模式"])
    else
      match task.run store with
      | some done => { said := done.said, store := done.store }
      | none =>
        match nonempty arguments.argument with
        | none => .failed store (lines ["❌ 错误: 需要指定输入文件"] ++ manual.help program)
        | some path =>
          if store.isThere path then list (arguments.has "version-only") path store
          else .failed store (lines ["❌ 错误: 文件不存在: " ++ path])

end LuaBytecode.Command.Unified
