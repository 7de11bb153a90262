import LuaBytecode.Command.Outcome
import LuaBytecode.Jit.Listing
import LuaBytecode.Jit.Reading
import LuaBytecode.Text.Utf8

namespace LuaBytecode.Command.Jit

open Text

def manual : Manual where
  usage := ["[-h] [-j] [-o OUTPUT] [-v] input"]
  details _ :=
    ["LuaJIT 字节码解析器", "", "positional arguments:",
      "  input                 输入的 LuaJIT 字节码文件", "", "options:",
      "  -h, --help            show this help message and exit",
      "  -j, --json            输出 JSON 格式",
      "  -o OUTPUT, --output OUTPUT",
      "                        输出文件路径",
      "  -v, --verbose         详细输出"]

def grammar : Grammar where
  flags :=
    [{ short := some 'j', long := "json" }, { short := some 'o', long := "output", valueCount := 1 },
      { short := some 'v', long := "verbose" }]
  isOptional := false

-- A fault ends the command by an exit that is bound only where a listing goes to a file.
def fail (verbose exitIsBound : Bool) (store : Store Bytes) (said : String) (fault : Fault) :
    Outcome :=
  { ending := if exitIsBound then .ok 1 else .error (.unbound "sys")
    said := said ++ "错误: " ++ fault.message ++ "\n"
    complaint := if verbose then .trace fault else .silent
    store }

def rendered (asJson : Bool) (dump : Jit.Dump) (output : String) : String × String :=
  if asJson then (Jit.Export.text (some dump.header) dump.prototypes, "JSON 输出已保存到: " ++ output)
  else (lines dump.listing, "输出已保存到: " ++ output)

def process (arguments : Arguments) (name : String) (store : Store Bytes) : Outcome :=
  let verbose := arguments.has "verbose"
  let asJson := arguments.has "json"
  match store.read name with
  | .error fault => fail verbose false store "" fault
  | .ok bytes =>
    match Jit.parse bytes with
    | (.error fault, input) => fail verbose false store input.said fault
    | (.ok dump, input) =>
      let closing := lines [s!"\n解析完成! 文件大小: {bytes.length} 字节, " ++
        s!"找到 {dump.prototypes.length} 个函数原型 (protos)"]
      match arguments.value? "output" with
      | some output =>
        let (text, done) := rendered asJson dump output
        match store.write output (Utf8.encode text) with
        | .error fault => fail verbose (!asJson) store input.said fault
        | .ok after => { said := input.said ++ lines [done] ++ closing, store := after }
      | none =>
        let (text, _) := rendered asJson dump ""
        { said := input.said ++ text ++ (if asJson then "\n" else "") ++ closing, store }

def run (program : String) (words : List String) (store : Store Bytes) : Outcome :=
  withArguments manual grammar program words store fun arguments =>
    process arguments (arguments.argument.getD "") store

end LuaBytecode.Command.Jit
