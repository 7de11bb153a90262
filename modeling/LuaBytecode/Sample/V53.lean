import LuaBytecode.Sample.Shape
import LuaBytecode.V53.Writing

namespace LuaBytecode.Sample.V53

open LuaBytecode.V53

def instruction (index : Nat) : Bytes :=
  Write.int (word (index % 47) index (operandC index))

def longText : String := String.ofList (List.replicate 300 'L')

def constants : List Constant :=
  [.nil, .bool true, .bool false, .num ⟨0x4004000000000000⟩, .int 777, .str "hello", .str longText]

def isLong (place : Nat) : Bool := place = 6

def upvalues : List Upvalue := [{ inStack := 1, index := 0 }, { inStack := 0, index := 1 }]

def function (length innerCount : Int) (inner : List Bytes) : Bytes :=
  let locals : List Local :=
    [{ name := "lv1", startPc := 0, endPc := length },
      { name := "lv2", startPc := 0, endPc := length }]
  Write.string "@bench.lua" ++ Write.int 1 ++ Write.int 99 ++ [1, 1, 8] ++
    Write.countedAs length instruction (indices length) ++
    Write.constants isLong constants ++ Write.counted Write.upvalue upvalues ++
    Write.countedAs innerCount id inner ++
    Write.countedAs length (fun index : Nat => Write.int (index + 1)) (indices length) ++
    Write.counted Write.localVariable locals ++ Write.counted Write.string ["_ENV", "up"]

def prototype (length innerCount : Int) : Except Fault Bytes := do
  requireInt length
  requireInt innerCount
  let inner := function (innerLength length) 0 []
  pure (function length innerCount (List.replicate innerCount.toNat inner))

def chunk (length innerCount : Int) : Except Fault Bytes := do
  let main ← prototype length innerCount
  pure (Write.header 1 ++ main)

end LuaBytecode.Sample.V53
