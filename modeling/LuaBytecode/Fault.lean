import LuaBytecode.Text.Layout
import LuaBytecode.Text.Quoted

namespace LuaBytecode

inductive Fault where
  | outOfBounds (pos size total : Nat)
  | endOfData
  | fixedEnd
  | varintEnd
  | taggedVarintEnd
  | stringEnd
  | terminatorEnd
  | signatureEnd
  | width (expected : Nat)
  | sizeOverflow
  | varintTooLong
  | stringTooLong
  | notLua
  | badSignature (found : Bytes)
  | badJitSignature (found : Bytes)
  | badLuaSignature
  | versionMismatch (expected found : Nat)
  | unsupportedVersion (found : Nat)
  | unsupportedVersionFor51 (found : Nat)
  | unsupportedLuaVersion (found : Nat)
  | badFormat (found : Nat)
  | badByteOrder (found : Nat)
  | badTail
  | corrupted
  | integerMismatch
  | numberMismatch
  | sizeWidth (found : Nat)
  | instructionWidth (found : Nat)
  | unknownOpcode (number : Nat)
  | unknownType (number : Nat)
  | unknownConstant (tag : Nat)
  | unsupportedConstant (tag : Nat)
  | nanToInt
  | infinityToInt
  | intToFloat
  | byteRange
  | wordRange
  | intRange
  | longRange
  | bytesRange
  -- A size below zero has no last group.
  | emptySize
  | moduloByZero
  | noEncryptionKey
  | noDecryptionKey
  | notLoaded
  | noPrototype (member : String)
  | lengthMismatch
  | indexRange
  | missingFile (name : String)
  | isDirectory (name : String)
  | notDirectory (name : String)
  | missingAttribute (name : String)
  | unbound (name : String)
  | tooFewValues (expected found : Nat)
  | tooManyValues (expected : Nat)
  | incomparable (left right : String)
  -- Surrogates in a text that has to be spelled in bytes: the first one and the places they take.
  | surrogates (code first last : Nat)
  -- A nesting deeper than the input has bytes, which no input shows.
  | nesting
deriving DecidableEq, Repr

namespace Fault

def hexWithMark (n : Nat) : String := "0x" ++ Text.hexLower n

def message : Fault → String
  | outOfBounds pos size total => s!"读取越界: pos={pos}, size={size}, total={total}"
  | endOfData => "Unexpected end of data"
  | fixedEnd => "文件读取超出边界"
  | varintEnd => "ULEB128 读取超出边界"
  | taggedVarintEnd => "ULEB128_33 读取超出边界"
  | stringEnd => "字符串读取超出边界"
  | terminatorEnd => "null 结尾字符串读取超出边界"
  | signatureEnd => "文件太小，无法读取签名"
  | width expected => s!"unpack requires a buffer of {expected} bytes"
  | sizeOverflow => "变长编码整数溢出"
  | varintTooLong => "ULEB128 编码过长"
  | stringTooLong => "cannot fit 'int' into an index-sized integer"
  | notLua => "不是有效的 Lua 字节码文件"
  | badSignature found => "无效的 Lua 签名: " ++ Text.quoteBytes found
  | badJitSignature found => "无效的 LuaJIT 签名: " ++ Text.quoteBytes found
  | badLuaSignature => "Invalid Lua bytecode signature"
  | versionMismatch expected found => s!"版本不匹配: 期望 {expected}, 实际 {found}"
  | unsupportedVersion found => "不支持的 Lua 版本: " ++ hexWithMark found
  | unsupportedVersionFor51 found => "不支持的 Lua 版本: " ++ hexWithMark found ++ " (需要 5.1)"
  | unsupportedLuaVersion found =>
    "Unsupported Lua version: 0x" ++ Text.padZero 2 (Text.hexLower found)
  | badFormat found => s!"无效的格式: {found}"
  | badByteOrder found => s!"Invalid endian flag: {found}"
  | badTail => "Invalid luac tail data"
  | corrupted => "损坏的字节码"
  | integerMismatch => "整数格式不匹配"
  | numberMismatch => "浮点数格式不匹配"
  | sizeWidth found => s!"Unsupported size_t size: {found}"
  | instructionWidth found => s!"Unsupported instruction size: {found}"
  | unknownOpcode number => s!"{number} is not a valid OpCode"
  | unknownType number => s!"{number} is not a valid LuaType"
  | unknownConstant tag => s!"未知的常量类型: {tag}"
  | unsupportedConstant tag => s!"Unsupported constant type: {tag}"
  | nanToInt => "cannot convert float NaN to integer"
  | infinityToInt => "cannot convert float infinity to integer"
  | intToFloat => "int too large to convert to float"
  | byteRange => "ubyte format requires 0 <= number <= 255"
  | wordRange => "'I' format requires 0 <= number <= 4294967295"
  | intRange => "'i' format requires -2147483648 <= number <= 2147483647"
  | longRange => "argument out of range"
  | bytesRange => "bytes must be in range(0, 256)"
  | emptySize => "list index out of range"
  | moduloByZero => "integer modulo by zero"
  | noEncryptionKey => "加密密钥未设置"
  | noDecryptionKey => "解密密钥未设置"
  | notLoaded => "请先调用parse()方法加载luac文件"
  | noPrototype member => s!"'NoneType' object has no attribute '" ++ member ++ "'"
  | lengthMismatch => "两个文件的指令数量不匹配，可能不是同一个lua代码生成的"
  | indexRange => "index out of range"
  | missingFile name => "[Errno 2] No such file or directory: " ++ Text.quote name
  | isDirectory name => "[Errno 21] Is a directory: " ++ Text.quote name
  | notDirectory name => "[Errno 20] Not a directory: " ++ Text.quote name
  | missingAttribute name => s!"'Namespace' object has no attribute '" ++ name ++ "'"
  | unbound name =>
    s!"cannot access local variable '" ++ name ++ "' where it is not associated with a value"
  | tooFewValues expected found =>
    s!"not enough values to unpack (expected {expected}, got {found})"
  | tooManyValues expected => s!"too many values to unpack (expected {expected})"
  | incomparable left right =>
    s!"'<' not supported between instances of '" ++ left ++ "' and '" ++ right ++ "'"
  | surrogates code first last =>
    if first = last then
      "'utf-8' codec can't encode character '\\u" ++ Text.hexLower code ++ s!"' in position {first}: surrogates not allowed"
    else s!"'utf-8' codec can't encode characters in position {first}-{last}: surrogates not allowed"
  | nesting => "maximum recursion depth exceeded"

end Fault

end LuaBytecode
