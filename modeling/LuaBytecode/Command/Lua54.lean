import LuaBytecode.Command.Outcome
import LuaBytecode.Text.Utf8
import LuaBytecode.V54.Cipher
import LuaBytecode.V54.Listing
import LuaBytecode.V54.Relabelling
import LuaBytecode.V54.Writing

namespace LuaBytecode.Command.Lua54

open Text

def manual : Manual where
  usage :=
    ["[-h] [-d] [-e] [-k KEY] [-o OUTPUT]", "[-c STANDARD_FILE SHUFFLED_FILE]", "[input_file]"]
  details _ :=
    ["Lua 5.4 字节码解析器", "", "positional arguments:",
      "  input_file            输入的luac文件路径", "", "options:",
      "  -h, --help            show this help message and exit",
      "  -d, --decrypt         解密模式",
      "  -e, --encrypt         加密模式",
      "  -k KEY, --key KEY     加密/解密密钥",
      "  -o OUTPUT, --output OUTPUT",
      "                        输出文件路径（可选）",
      "  -c STANDARD_FILE SHUFFLED_FILE, --compare STANDARD_FILE SHUFFLED_FILE",
      "                        对比两个luac文件的opcode映射关系"]

def grammar : Grammar where
  flags :=
    [{ short := some 'd', long := "decrypt" }, { short := some 'e', long := "encrypt" },
      { short := some 'k', long := "key", valueCount := 1 },
      { short := some 'o', long := "output", valueCount := 1 },
      { short := some 'c', long := "compare", valueCount := 2 }]
  isOptional := true

def baseName (path : String) : String :=
  let behind := path.toList.reverse.takeWhile (· ≠ '.')
  if path.toList.contains '.' then String.ofList (path.toList.take (path.length - behind.length - 1))
  else path

def relabellingFile (shown : Int → String) (relabelling : V54.Relabelling) : Bytes :=
  Utf8.encode (lines (["# OpCode 映射关系", "# 格式: 标准OpCode -> 打乱OpCode", ""] ++
    relabelling.inOrder.map fun (opcode, other) => shown opcode ++ " -> " ++ shown other))

-- Puts what is written into a file; a fault while writing leaves what was written.
def save (emission : Emission) (path : String) (store : Store Bytes) : Store Bytes × Option Fault :=
  match store.write path emission.bytes with
  | .error fault => (store, some fault)
  | .ok after => (after, emission.fault)

def encrypted (path : String) : String := "✓ 加密后的luac文件已生成: " ++ path

def decrypted (path : String) : String := "✓ 解密后的luac文件已生成: " ++ path

def named (opcode : Int) : String :=
  decimal opcode ++ "(" ++ V54.Relabelling.nameOf opcode ++ ")"

def compare (file other : String) (output : Option String) (store : Store Bytes) : Outcome :=
  let comparison := V54.compareFiles file other (store.read file) (store.read other)
  let fail := Outcome.traced store comparison.said "对比过程中发生错误: "
  match comparison.result, output with
  | .error fault, _ => fail fault
  | .ok _, none => { said := comparison.said, store }
  | .ok relabelling, some path =>
    match store.write path (relabellingFile named relabelling) with
    | .error fault => fail fault
    | .ok after =>
      { said := comparison.said ++ lines ["\n✓ 映射结果已保存到: " ++ path], store := after }

def process (decrypt : Bool) (key : Option String) (output : Option String) (path : String)
    (store : Store Bytes) : Outcome :=
  match store.read path with
  | .error fault => .traced store "" "错误: " fault
  | .ok bytes =>
    match V54.parse true bytes with
    | (.error fault, input) => .traced store input.said "错误: " fault
    | (.ok chunk, input) =>
      match key with
      | none => { said := input.said ++ lines (V54.listing 0 chunk.main), store }
      | some key =>
        let ending := if decrypt then "_decrypt.luac" else "_encrypt.luac"
        let target := output.getD (baseName path ++ ending)
        let session : V54.Session := { main := some chunk.main }
        match save (session.writeEncrypted (Utf8.encode key)).2 target store with
        | (after, some fault) => .traced after input.said "错误: " fault
        | (after, none) =>
          let done := if decrypt then "✓ 解密完成，输出文件: " ++ target else encrypted target
          { said := input.said ++ lines [done], store := after }

def run (program : String) (words : List String) (store : Store Bytes) : Outcome :=
  withArguments manual grammar program words store fun arguments =>
    let decrypt := arguments.has "decrypt"
    let encrypt := arguments.has "encrypt"
    let key := arguments.value? "key"
    let output := arguments.value? "output"
    match arguments.values? "compare" with
    | some [file, other] => compare file other output store
    | _ =>
      match arguments.argument.filter (· ≠ "") with
      | none =>
        .failed store (lines ["错误: 需要指定输入文件或使用对比模式 (-c)"] ++ manual.help program)
      | some path =>
        if decrypt && encrypt then .failed store (lines ["错误: 不能同时指定加密和解密模式"])
        else if (decrypt || encrypt) && key.isNone then
          .failed store (lines ["错误: 加密或解密模式需要提供密钥 (-k)"])
        else process decrypt (if decrypt || encrypt then key else none) output path store

end LuaBytecode.Command.Lua54
