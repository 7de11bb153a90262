import LuaBytecode.Reader
import LuaBytecode.Text.Utf8
import LuaBytecode.V53.Prototype

namespace LuaBytecode.V53

namespace Read

open Reader

def fixedWidth (width : Nat) : Reader Nat := do
  let taken ← bounded width
  let layout ← layout
  fixed layout.order width taken

def int : Reader Int := do
  let n ← fixedWidth 4
  pure (signed 32 n)

def size : Reader Nat := fixedWidth 8

def integer : Reader Int := do
  let n ← fixedWidth 8
  pure (signed 64 n)

def number : Reader Double := do
  let n ← fixedWidth 8
  pure ⟨UInt64.ofNat n⟩

-- The size of a string is one more than its length; a size from 255 on follows the byte 255.
def string : Reader String := do
  let short ← boundedByte
  let size ← if short = 0xFF then size else pure short
  if size = 0 then pure ""
  else
    let taken ← bounded (size - 1)
    pure (Text.Utf8.decodeReplacing taken)

def instruction : Reader Instruction := do
  let n ← fixedWidth 4
  ofExcept (Instruction.decode ⟨n⟩)

def constant : Reader Constant := do
  let tag ← boundedByte
  match tag with
  | 0 => pure .nil
  | 1 => do
    let flag ← boundedByte
    pure (.bool (flag ≠ 0))
  | 3 => do
    let value ← number
    pure (.num value)
  | 19 => do
    let value ← integer
    pure (.int value)
  | 4 => do
    let text ← string
    pure (.str text)
  | 20 => do
    let text ← string
    pure (.str text)
  | _ => fail (.unknownConstant tag)

def counted {α : Type} (reader : Reader α) : Reader (List α) := do
  let count ← int
  timesInt count reader

def upvalue : Reader Upvalue := do
  let inStack ← boundedByte
  let index ← boundedByte
  pure { inStack, index }

def localVariable : Reader Local := do
  let name ← string
  let startPc ← int
  let endPc ← int
  pure { name, startPc, endPc }

def prototypeWithin : (depth : Nat) → Reader Prototype
  | 0 => fail .nesting
  | depth + 1 => do
    let source ← string
    let lineDefined ← int
    let lastLineDefined ← int
    let paramCount ← boundedByte
    let varargFlag ← boundedByte
    let maxStackSize ← boundedByte
    let code ← counted instruction
    let constants ← counted constant
    let upvalues ← counted upvalue
    let inner ← counted (prototypeWithin depth)
    let lineInfo ← counted int
    let locals ← counted localVariable
    let upvalueNames ← counted string
    pure (.node
      { source, lineDefined, lastLineDefined, paramCount, varargFlag, maxStackSize, code,
        constants, upvalues := nameUpvalues upvalueNames upvalues, lineInfo, locals,
        upvalueNames }
      inner)

def prototype : Reader Prototype := nested prototypeWithin

def prototypes : Reader (List Prototype) := counted prototype

-- Whether a double is the test number; no other double equals it.
def isTestNumber (value : Double) : Bool := value = testNumber

def header : Reader Header := do
  sayLine (Text.times 80 "=")
  sayLine "Lua 5.3 字节码文件头部信息"
  sayLine (Text.times 80 "=")
  let found ← bounded 4
  sayLine ("签名 (Signature):        " ++ Text.quoteBytes found ++ " (" ++ found.toHex ++ ")")
  require (found = signature) (.badSignature found)
  let version ← boundedByte
  sayLine ("版本 (Version):          0x" ++ Text.padZero 2 (Text.hexUpper version) ++
    s!" (Lua {version / 16}.{version % 16})")
  require (version = 0x53) (.unsupportedVersion version)
  let format ← boundedByte
  sayLine (s!"格式 (Format):           {format} (" ++
    (if format = 0 then "官方格式" else "非官方格式") ++ ")")
  require (format = 0) (.badFormat format)
  let foundData ← bounded 6
  sayLine ("数据校验 (LUAC_DATA):    " ++ foundData.toHex)
  require (foundData = data) .corrupted
  let intWidth ← boundedByte
  let sizeWidth ← boundedByte
  let instructionWidth ← boundedByte
  let integerWidth ← boundedByte
  let numberWidth ← boundedByte
  sayLine s!"int 大小:               {intWidth} 字节"
  sayLine s!"size_t 大小:            {sizeWidth} 字节"
  sayLine s!"指令大小:               {instructionWidth} 字节"
  sayLine s!"Lua 整数大小:           {integerWidth} 字节"
  sayLine s!"Lua 浮点数大小:         {numberWidth} 字节"
  let foundInteger ← integer
  let foundNumber ← number
  sayLine ("测试整数:               " ++ Text.decimal foundInteger ++ " (0x" ++
    Text.hexUpper foundInteger ++ ")")
  sayLine ("测试浮点数:             " ++ foundNumber.text)
  require (foundInteger = testInteger) .integerMismatch
  require (isTestNumber foundNumber) .numberMismatch
  let upvalueCount ← boundedByte
  sayLine s!"主函数上值数量:         {upvalueCount}"
  sayLine (Text.times 80 "=")
  sayLine ""
  pure
    { signature := found, version, format, data := foundData, intWidth, sizeWidth,
      instructionWidth, integerWidth, numberWidth, testInteger := foundInteger,
      testNumber := foundNumber, upvalueCount }

def chunk : Reader Chunk := do
  let header ← header
  let main ← prototype
  pure { header, main }

end Read

def parse (bytes : Bytes) : Except Fault Chunk × Input := Read.chunk { rest := bytes }

end LuaBytecode.V53
