import LuaBytecode.Sample.Shape
import LuaBytecode.V52.Writing

namespace LuaBytecode.Sample.V52

open LuaBytecode.V52

def takesConstant (opcode : Nat) : Bool :=
  opcode = 6 || opcode = 8 || opcode = 10 || (12 ≤ opcode && opcode ≤ 18)

def operandFor (opcode index : Nat) : Nat :=
  if takesConstant opcode then operandC index % 256 + 256 else operandC index

def instruction (layout : Layout) (index : Nat) : Bytes :=
  Write.word layout (word (index % 40) index (operandFor (index % 40) index))

def constants : List Spelling :=
  [.nil, .bool true, .bool false, .num ⟨0x40239EB851EB851F⟩,
    .whole ⟨0x4045000000000000⟩ 42 (by decide), .str false "print", .str true "xyz"]

def upvalues : List Upvalue := [{ inStack := 1, index := 0 }, { inStack := 0, index := 1 }]

def function (layout : Layout) (length innerCount : Int) (inner : List Bytes) : Bytes :=
  let locals : List Local :=
    [{ name := "aa", startPc := 0, endPc := length },
      { name := "bb", startPc := 0, endPc := length }]
  Write.word layout 1 ++ Write.word layout 99 ++ [1, 1, 8] ++
    Write.countedAs layout length (instruction layout) (indices length) ++
    Write.counted layout (Write.constant layout) constants ++
    Write.countedAs layout innerCount id inner ++
    Write.counted layout Write.upvalue upvalues ++ Write.string layout "@bench.lua" ++
    Write.countedAs layout length (fun index : Nat => Write.word layout (index + 1))
      (indices length) ++
    Write.counted layout (Write.localVariable layout) locals ++
    Write.counted layout (Write.string layout) ["_ENV", "up"]

def prototype (length innerCount sizeWidth : Int) : Except Fault Bytes := do
  requireWord length
  requireWord innerCount
  let layout : Layout := { sizeWidth := if sizeWidth = 4 then 4 else 8 }
  let inner := function layout (innerLength length) 0 []
  pure (function layout length innerCount (List.replicate innerCount.toNat inner))

def chunk (length innerCount sizeWidth : Int) : Except Fault Bytes := do
  requireByte sizeWidth
  let main ← prototype length innerCount sizeWidth
  pure (signature ++ [0x52, 0, 1, 4] ++ Bytes.ofByte sizeWidth ++ [4, 8, 0] ++ tail ++ main)

end LuaBytecode.Sample.V52
