import LuaBytecode.Sample.Shape
import LuaBytecode.V51.Writing
/-!
Sample chunks of version 5.1. Everything behind the header is little-endian, whatever the header
says.
-/
namespace LuaBytecode.Sample.V51

open LuaBytecode.V51

def layoutOf (sizeWidth : Int) : Layout := { sizeWidth := if sizeWidth = 4 then 4 else 8 }

def instruction (layout : Layout) (index : Nat) : Bytes :=
  Write.instruction layout ⟨word (index % 38) index (operandC index)⟩

def constants : List Constant :=
  [.nil, .bool true, .bool false, .num ⟨0x3FF8000000000000⟩, .str "print", .str "globalvar"]

def function (layout : Layout) (length innerCount : Int) (source : String) (inner : List Bytes) :
    Bytes :=
  let locals : List Local :=
    [{ name := "x", startPc := 0, endPc := length }, { name := "y", startPc := 0, endPc := length }]
  Write.string layout source ++ Write.int layout 1 ++ Write.int layout 99 ++ [1, 1, 2, 8] ++
    Write.countedAs layout length (instruction layout) (indices length) ++
    Write.counted layout (Write.constant layout) constants ++
    Write.countedAs layout innerCount id inner ++
    Write.countedAs layout length (fun index : Nat => Write.int layout (index + 1))
      (indices length) ++
    Write.counted layout (Write.localVariable layout) locals ++
    Write.counted layout (Write.string layout) ["up"]

def prototype (length innerCount sizeWidth : Int) (source : String) : Except Fault Bytes := do
  requireInt length
  requireInt innerCount
  let layout := layoutOf sizeWidth
  let inner := function layout (innerLength length) 0 "" []
  pure (function layout length innerCount source (List.replicate innerCount.toNat inner))

def chunk (length innerCount sizeWidth orderFlag : Int) : Except Fault Bytes := do
  requireByte orderFlag
  requireByte sizeWidth
  let main ← prototype length innerCount sizeWidth "@b.lua"
  pure (signature ++ [0x51, 0] ++ Bytes.ofByte orderFlag ++ [4] ++ Bytes.ofByte sizeWidth ++
    [4, 8, 0] ++ main)

end LuaBytecode.Sample.V51
