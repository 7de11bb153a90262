import LuaBytecode.Fault
import LuaBytecode.Text.Layout
import LuaBytecode.V54.Instruction
import LuaBytecode.V54.Parsing

namespace LuaBytecode.V54

open Text

def instructions (tree : Prototype) : List Int := tree.toList.flatMap Function.code

-- Opcodes of the one file with those of the other, in the order of first mention.
abbrev Relabelling := List (Int × Int)

namespace Relabelling

structure Conflict where
  opcode : Int
  first : Int
  later : Int
deriving DecidableEq, Repr

def Conflict.line (conflict : Conflict) : String :=
  s!"警告: 发现不一致的映射 {conflict.opcode} -> {conflict.first} 和 {conflict.later}"

def collect : Relabelling → List (Int × Int) → Relabelling × List Conflict
  | known, [] => (known, [])
  | known, (opcode, other) :: pairs =>
    match known.lookup opcode with
    | none => collect (known ++ [(opcode, other)]) pairs
    | some first =>
      let (found, conflicts) := collect known pairs
      if first = other then (found, conflicts)
      else (found, { opcode, first, later := other } :: conflicts)

def opcodePairs (words others : List Int) : List (Int × Int) :=
  words.zipWith (fun word other => (((decode word).opcode : Int), ((decode other).opcode : Int)))
    others

def ofWords (words others : List Int) : Relabelling × List Conflict :=
  collect [] (opcodePairs words others)

def ofPairs (pairs : List (Int × Int)) : Relabelling :=
  pairs.foldl (fun known (opcode, other) =>
    if known.any (·.1 = opcode) then
      known.map fun (each, kept) => if each = opcode then (each, other) else (each, kept)
    else known ++ [(opcode, other)]) []

def nameOf (opcode : Int) : String := if opcode < 0 then "UNKNOWN" else opcodeName opcode.toNat

def inOrder (relabelling : Relabelling) : Relabelling :=
  relabelling.mergeSort fun first second => decide (first.1 ≤ second.1)

def columns (cells : List String) : String := String.intercalate " " (cells.map (padRight 15))

def isChange (pair : Int × Int) : Bool := pair.1 ≠ pair.2

def report (relabelling : Relabelling) : List String :=
  let changes := relabelling.filter isChange
  ["\n" ++ times 60 "-", "OPCODE 映射关系", times 60 "-",
    columns ["标准OpCode", "打乱OpCode", "标准指令名", "映射指令名"], times 60 "-"] ++
    (inOrder relabelling).map (fun (opcode, other) =>
      columns [decimal opcode, decimal other, nameOf opcode, nameOf other]) ++
    [times 60 "-", s!"总共发现 {relabelling.length} 个不同的opcode映射",
      s!"未改变的映射: {relabelling.length - changes.length}", s!"已改变的映射: {changes.length}"] ++
    (if changes.isEmpty then []
    else
      "\n改变的映射详情:" :: changes.map fun (opcode, other) =>
        s!"  {opcode}({nameOf opcode}) -> {other}({nameOf other})")

end Relabelling

structure Comparison where
  said : String
  result : Except Fault Relabelling

-- Both files are read and reported on before anything is compared.
def compareFiles (name otherName : String) (file otherFile : Except Fault Bytes) : Comparison :=
  let opening := lines ["\n" ++ times 60 "=", "OPCODE 对比分析", times 60 "=",
    "正在解析标准文件: " ++ name]
  match file with
  | .error fault => { said := opening, result := .error fault }
  | .ok bytes =>
    match parse true bytes with
    | (.error fault, input) => { said := opening ++ input.said, result := .error fault }
    | (.ok chunk, input) =>
      let middle := opening ++ input.said ++ lines ["正在解析打乱文件: " ++ otherName]
      match otherFile with
      | .error fault => { said := middle, result := .error fault }
      | .ok otherBytes =>
        match parse true otherBytes with
        | (.error fault, input) => { said := middle ++ input.said, result := .error fault }
        | (.ok otherChunk, otherInput) =>
          let words := instructions chunk.main
          let others := instructions otherChunk.main
          let counts := lines [s!"\n标准文件指令总数: {words.length}",
            s!"打乱文件指令总数: {others.length}"]
          let said := middle ++ otherInput.said ++ counts
          if words.length ≠ others.length then { said, result := .error .lengthMismatch }
          else
            let (found, conflicts) := Relabelling.ofWords words others
            { said := said ++ lines (conflicts.map (·.line)) ++ lines found.report,
              result := .ok found }

end LuaBytecode.V54
