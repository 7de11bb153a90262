import LuaBytecode.Command.Outcome
import LuaBytecode.V52.Analysis
import LuaBytecode.V52.Listing
import LuaBytecode.V52.Reading

namespace LuaBytecode.Command.Lua52

open Text

def manual : Manual where
  usage := ["[-h] [--analyze] input"]
  details _ :=
    ["Lua 5.2 字节码解析器", "", "positional arguments:", "  input       输入的luac文件路径", "",
      "options:", "  -h, --help  show this help message and exit", "  --analyze   启用分析模式"]

def grammar : Grammar where
  flags := [{ short := none, long := "analyze" }]
  isOptional := false

def analysis (main : V52.Prototype) : String × Option Fault :=
  let opening := ["ANALYSIS RESULTS", times 60 "-"]
  let globals := V52.globalReport 0 main
  match globals.fault with
  | some fault => (lines (opening ++ globals.lines), some fault)
  | none =>
    (lines (opening ++ globals.lines ++ V52.stringReport 0 main ++ V52.functionReport 0 main), none)

def body (analyze : Bool) (main : V52.Prototype) : String × Option Fault :=
  if analyze then analysis main
  else
    match V52.listing 0 main with
    | .ok rows => (lines rows, none)
    | .error fault => ("", some fault)

def complain (store : Store Bytes) (said : String) (fault : Fault) : Outcome :=
  { ending := .ok 1, said, complaint := .text ("错误: " ++ fault.message ++ "\n"), store }

def process (analyze : Bool) (name : String) (store : Store Bytes) : Outcome :=
  match store.read name with
  | .error fault => complain store "" fault
  | .ok bytes =>
    match V52.parse bytes with
    | (.error fault, input) => complain store input.said fault
    | (.ok chunk, input) =>
      let opening := input.said ++ lines chunk.header.listing
      match body analyze chunk.main with
      | (said, none) => { said := opening ++ said, store }
      | (said, some fault) => complain store (opening ++ said) fault

def run (program : String) (words : List String) (store : Store Bytes) : Outcome :=
  withArguments manual grammar program words store fun arguments =>
    process (arguments.has "analyze") (arguments.argument.getD "") store

end LuaBytecode.Command.Lua52
