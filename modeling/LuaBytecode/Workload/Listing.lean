import LuaBytecode.Jit.Listing
import LuaBytecode.Jit.Reading
import LuaBytecode.Sample.Jit
import LuaBytecode.Sample.V51
import LuaBytecode.Sample.V52
import LuaBytecode.Sample.V53
import LuaBytecode.V51.Analysis
import LuaBytecode.V51.Reading
import LuaBytecode.V52.Listing
import LuaBytecode.V52.Reading
import LuaBytecode.V53.Listing
import LuaBytecode.V53.Reading

namespace LuaBytecode.Workload

open Text

inductive Summary where
  | count (value : Int)
  | text (text : String)
  | group (items : List Summary)
deriving Repr

namespace Summary

def counts (values : List Int) : Summary := .group (values.map .count)

def lengths (values : List Nat) : Summary := counts (values.map Int.ofNat)

end Summary

def total (counts : List Nat) : Nat := counts.foldl (· + ·) 0

def half (length : Int) : Int := max 4 (length / 2)

def quarter (length : Int) : Int := max 4 (length / 4)

def globalsChunk : Except Fault Bytes := do
  let code ← [5, 7 + 2 ^ 14, 0, 1, 28, 30].mapM fun word => Instruction.decode ⟨word⟩
  let function : V51.Function :=
    { source := "@g.lua", maxStackSize := 2, code, constants := [.str "print", .str "value"] }
  let header : V51.Header :=
    { signature := V51.signature, version := 0x51, format := 0, orderFlag := 1, intWidth := 4,
      sizeWidth := 4, instructionWidth := 4, numberWidth := 8, integralFlag := 0 }
  pure (V51.write { header, main := .node function [] })

def analysis51 (bytes : Bytes) : Except Fault Summary := do
  let main := (← (V51.parse bytes).1).main
  pure (.lengths [main.top.code.length, (V51.globals main).length, (V51.strings main).length,
    (V51.functions "main" main).length])

def listing51 (length : Int) : Except Fault Summary := do
  let wide ← Sample.V51.chunk length 2 4 1
  let narrow ← Sample.V51.chunk (half length) 1 8 1
  let chunks := [wide, narrow, ← globalsChunk]
  pure (.group (← chunks.mapM analysis51))

def lengths52 (bytes : Bytes) : Except Fault Summary := do
  let chunk ← (V52.parse bytes).1
  let rows ← V52.listing 0 chunk.main
  let joined (rows : List String) : String := String.intercalate "\n" rows
  pure (.lengths [(joined chunk.header.listing).length, (joined rows).length,
    chunk.main.top.code.length])

def listing52 (length : Int) : Except Fault Summary := do
  let chunks := [← Sample.V52.chunk length 2 8, ← Sample.V52.chunk (half length) 1 4]
  pure (.group (← chunks.mapM lengths52))

def listing53 (length : Int) : Except Fault Summary := do
  let function := (← (V53.parse (← Sample.V53.chunk length 2)).1).main.top
  pure (.lengths [function.code.length, function.constants.length,
    total (function.code.map fun each => (V53.instructionText each).length)])

def sizesJit (dump : Jit.Dump) : Summary :=
  .lengths [dump.prototypes.length, total (dump.prototypes.map fun each => each.code.length)]

def listingJit (length : Int) : Except Fault Summary := do
  let dumps ← [← Sample.Jit.dump length.toNat 2 false 100,
    ← Sample.Jit.dump (half length).toNat 2 true 100,
    ← Sample.Jit.dump (quarter length).toNat 1 false 300,
    ← Sample.Jit.dump (quarter length).toNat 1 false 70000].mapM fun bytes => (Jit.parse bytes).1
  let stripped := (dumps.map Jit.Dump.header).find? Jit.Header.isStripped
  pure (.group [.group (dumps.map sizesJit),
    .count (Jit.Export.text stripped [{}]).length])

end LuaBytecode.Workload
