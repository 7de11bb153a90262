import LuaBytecode.Command.Outcome
import LuaBytecode.Inspection
import LuaBytecode.V51.Analysis
import LuaBytecode.V51.Listing
import LuaBytecode.V51.Reading

namespace LuaBytecode.Command.Lua51

open Text

def stringLines (texts : List String) : List String :=
  ["\nSTRING CONSTANTS (" ++ toString texts.length ++ "):", times 40 "-"] ++
    (texts.take 10).map (fun text => "  - \"" ++ text ++ "\"") ++
    (if 10 < texts.length then [s!"  ... and {texts.length - 10} more"] else [])

def entryLines (entry : V51.FunctionEntry) : List String :=
  ["  - " ++ entry.path ++ " @ " ++ entry.source ++ ":" ++ entry.lines,
    s!"    Params: {entry.params}, Vararg: " ++ (if entry.vararg then "True" else "False") ++
      s!", Stack: {entry.stack}",
    s!"    Instructions: {entry.instructions}, Constants: {entry.constants}, " ++
      s!"Upvalues: {entry.upvalues}"]

def functionLines (entries : List V51.FunctionEntry) : List String :=
  [s!"\nFUNCTIONS ({entries.length}):", times 40 "-"] ++ entries.flatMap entryLines

-- The analysis of a chunk; globals of kinds that have no order end it.
def analysis (main : V51.Prototype) : String × Option Fault :=
  let globals := V51.globals main
  let opening := ["ANALYSIS RESULTS", times 80 "=",
    s!"\nGLOBAL VARIABLES USED ({globals.length}):", times 40 "-"]
  match Constant.sort globals with
  | .error (left, right) => (lines opening, some (.incomparable left right))
  | .ok sorted =>
    (lines (opening ++ sorted.map (fun each => "  - " ++ each.text) ++
      stringLines (V51.strings main) ++ functionLines (V51.functions "main" main)), none)

def run (program : String) (words : List String) (store : Store Bytes) : Outcome :=
  match words with
  | [] => .failed store (lines ["Usage: " ++ program ++ " <luac_file> [--analyze]"])
  | name :: _ =>
    match store.read name with
    | .error fault => .traced store "" "Error: " fault
    | .ok bytes =>
      match V51.parse bytes with
      | (.error fault, input) => .traced store input.said "Error: " fault
      | (.ok chunk, input) =>
        let opening := input.said ++ lines
          (["Lua 5.1 Bytecode Analysis: " ++ name, times 80 "="] ++ chunk.header.listing)
        if words.contains "--analyze" then
          match analysis chunk.main with
          | (said, none) => { said := opening ++ said, store }
          | (said, some fault) => .traced store (opening ++ said) "Error: " fault
        else
          { said := opening ++ lines
              (["BYTECODE DISASSEMBLY", times 80 "="] ++ V51.listing 0 chunk.main)
            store }

end LuaBytecode.Command.Lua51

namespace LuaBytecode.Command.Lua53

def run (program : String) (words : List String) (store : Store Bytes) : Outcome :=
  match words with
  | [] => .failed store (Text.lines ["使用方法: " ++ program ++ " <luac文件>"])
  | name :: _ =>
    let inspection := Inspection.ofFile .v53 name (store.read name)
    match inspection.fault with
    | none => { said := inspection.said, store }
    | some fault => .traced store inspection.said "错误: " fault

end LuaBytecode.Command.Lua53
