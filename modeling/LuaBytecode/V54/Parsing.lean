import LuaBytecode.V54.Gathering

namespace LuaBytecode.V54

namespace Read

open Reader

-- Only the signature and the version are checked; the rest is reported.
def header : Reader Header := do
  sayLine ("\n" ++ Text.times 50 "=")
  sayLine "文件头 (Header)"
  sayLine (Text.times 50 "=")
  let found ← takeUpTo 4
  require (found = signature) .notLua
  sayLine ("✓ 签名: " ++ Text.quoteBytes found ++ " [4 bytes]")
  let foundVersion ← byte
  require (foundVersion = version) (.versionMismatch version foundVersion)
  sayLine s!"✓ 版本: Lua {foundVersion / 16}.{foundVersion % 16} [1 byte]"
  let format ← byte
  let data ← takeUpTo 6
  sayLine "✓ 格式校验: 通过 [7 bytes]"
  let instructionWidth ← byte
  let integerWidth ← byte
  let numberWidth ← byte
  sayLine (s!"✓ 类型大小: 指令{instructionWidth}字节, 整数{integerWidth}字节, " ++
    s!"浮点{numberWidth}字节 [3 bytes]")
  let testInteger ← integer
  let testNumber ← number
  sayLine ("✓ 测试值: 整数0x" ++ Text.hexUpper testInteger ++ ", 浮点" ++ testNumber.text ++
    " [16 bytes]")
  sayLine "文件头总大小: 31 bytes\n"
  pure { format, data, instructionWidth, integerWidth, numberWidth, testInteger, testNumber }

def chunk (record : Bool) : Reader Chunk := do
  let header ← header
  let upvalueCount ← byte
  sayLine s!"主函数 upvalue 数量: {upvalueCount}\n"
  let main ← if record then Gather.prototype (some "") else prototype false (some "")
  pure { header, upvalueCount, main }

end Read

def parse (record : Bool) (bytes : Bytes) : Except Fault Chunk × Input :=
  Read.chunk record { rest := bytes }

end LuaBytecode.V54
