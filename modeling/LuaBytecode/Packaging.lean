import LuaBytecode.Double.Decimal
import LuaBytecode.Packaging.Texts
import LuaBytecode.Store
import LuaBytecode.Text.Utf8
/-!
Packaging: the command that bundles the tools into one executable. The bundler is another program;
what it does when it is started is given.
-/
namespace LuaBytecode.Packaging

open Text

inductive Content where
  | text (text : String)
  | made (size : Nat)
deriving DecidableEq, Repr

def Content.size : Content → Nat
  | .text written => (Utf8.encode written).length
  | .made size => size

inductive Bundling where
  | ended (code : Int) (errors : String) (made : List (String × Nat))
  | failed (message : String)
deriving DecidableEq, Repr

structure Tools where
  version : Option String
  bundling : Bundling
  now : String

structure Workshop where
  store : Store Content
  commands : List (List String) := []
  said : String := ""

-- A step of the work; what it has said and written stays if it fails.
abbrev Step := ExceptT Fault (StateM Workshop)

def sayLines (rows : List String) : Step Unit :=
  modify fun shop => { shop with said := shop.said ++ lines rows }

def writeFile (path text : String) : Step Unit := do
  let shop ← get
  let store ← ExceptT.mk (pure (shop.store.write path (.text text)))
  set { shop with store }

def needed : List String :=
  ["lua_parser_unified.py", "luaparse51.py", "luaparse53.py", "luaparse.py", "luajitparse.py"]

def checkDependencies (tools : Tools) : Step Bool := do
  sayLines ["🔍 检查依赖..."]
  match tools.version with
  | none =>
    sayLines ["❌ 未找到 PyInstaller", "💡 请运行: pip install pyinstaller"]
    pure false
  | some version =>
    sayLines ["✅ PyInstaller 版本: " ++ version]
    let shop ← get
    let missing := needed.filter fun path => !shop.store.isThere path
    if missing.isEmpty then
      sayLines ["✅ 所有解析器文件都存在"]
      pure true
    else
      sayLines ["❌ 缺少必要文件: " ++ String.intercalate ", " missing]
      pure false

def specificationPath : String := "LuaParser.spec"

def writeSpecification : Step Unit := do
  sayLines ["📝 创建 PyInstaller 规格文件..."]
  writeFile specificationPath Texts.specification
  sayLines ["✅ 规格文件已创建: " ++ specificationPath]

def bundler : List String := ["python", "-m", "PyInstaller", "--clean", specificationPath]

def executable : String := "dist/LuaParser.exe"

def megabytes (size : Nat) : String := (Double.ofRatio false size (2 ^ 20)).fixed 1

def addMade (made : List (String × Nat)) (store : Store Content) : Store Content :=
  made.foldl (fun store (path, size) => store.set path (.made size)) store

-- Starts the bundler, which leaves its files whether it succeeds or not.
def build (tools : Tools) : Step Bool := do
  sayLines ["🔨 开始构建可执行文件...", "执行命令: " ++ String.intercalate " " bundler]
  modify fun shop => { shop with commands := shop.commands ++ [bundler] }
  match tools.bundling with
  | .failed message =>
    sayLines ["❌ 构建过程中发生错误: " ++ message]
    pure false
  | .ended code errors made =>
    modify fun shop => { shop with store := addMade made shop.store }
    if code ≠ 0 then
      sayLines ["❌ 构建失败!", "错误输出:", errors]
      pure false
    else
      sayLines ["✅ 构建成功!"]
      let shop ← get
      match shop.store.get? executable with
      | some content =>
        sayLines ["📦 可执行文件: " ++ executable ++ " (" ++ megabytes content.size ++ " MB)"]
        pure true
      | none =>
        sayLines ["❌ 未找到生成的可执行文件"]
        pure false

def writeGuides (tools : Tools) : Step Unit := do
  sayLines ["📋 创建测试文件..."]
  writeFile "test_parser.bat" Texts.trial
  writeFile "README.txt" (Texts.description tools.now)
  sayLines ["✅ 测试文件已创建:", "   - test_parser.bat (测试脚本)",
    "   - README.txt (详细使用说明)"]

def removeDirectory (path : String) (store : Store Content) : Store Content :=
  { files := store.files.filter fun (each, _) => !(path ++ "/").toList.isPrefixOf each.toList }

def removeFile (path : String) (store : Store Content) : Store Content :=
  { files := store.files.filter fun (each, _) => each ≠ path }

def cleanUp : Step Unit := do
  sayLines ["🧹 清理临时文件..."]
  let shop ← get
  if shop.store.isThere "build" then
    if (shop.store.get? "build").isSome then throw (.notDirectory "build")
    set { shop with store := removeDirectory "build" shop.store }
    sayLines ["✅ 已删除 build 目录"]
  let shop ← get
  if shop.store.isThere specificationPath then
    if (shop.store.get? specificationPath).isNone then throw (.isDirectory specificationPath)
    set { shop with store := removeFile specificationPath shop.store }
    sayLines ["✅ 已删除规格文件"]

def run (tools : Tools) : Step Bool := do
  sayLines ["🚀 Lua 解析器构建脚本 v2.0", times 60 "=", "📋 支持版本: Lua 5.1/5.3/5.4, LuaJIT 2.0/2.1",
    "🎯 特别优化: Lua 5.4 特殊架构适配", times 60 "="]
  if !(← checkDependencies tools) then
    sayLines ["\n❌ 依赖检查失败，请解决上述问题后重试"]
    pure false
  else
    sayLines [""]
    writeSpecification
    sayLines [""]
    if !(← build tools) then
      sayLines ["\n❌ 构建失败"]
      pure false
    else
      sayLines [""]
      writeGuides tools
      sayLines [""]
      cleanUp
      sayLines ["\n🎉 构建完成!", "📦 输出目录: dist/", "🧪 运行 test_parser.bat 进行测试",
        "📖 查看 README.txt 了解详细使用方法", "\n💡 提示:", "   - 统一解析器已适配各版本架构差异",
        "   - Lua 5.4 特殊架构已正确处理", "   - 支持自动版本检测和手动指定"]
      pure true

end LuaBytecode.Packaging
