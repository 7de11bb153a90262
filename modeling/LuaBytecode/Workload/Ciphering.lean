import LuaBytecode.Sample.V54
import LuaBytecode.V54.Cipher
import LuaBytecode.V54.Parsing
import LuaBytecode.V54.Relabelling
import LuaBytecode.V54.Writing
import LuaBytecode.Workload.Listing

namespace LuaBytecode.Workload

open V54

def readMain (record : Bool) (bytes : Bytes) : Except Fault Prototype := do
  let chunk ← (V54.parse record bytes).1
  pure chunk.main

def written (main : Option Prototype) : Except Fault Bytes := (V54.write main).toExcept

def enciphered (key : Bytes) (bytes : Bytes) : Except Fault Bytes := do
  let main ← readMain true bytes
  (({ main := some main } : Session).writeEncrypted key).2.toExcept

def refusals (file other : Bytes) : Nat :=
  let blank : Session := {}
  ([(blank.encryptData []).isOk, (blank.decryptData []).isOk, (written none).isOk,
    (V54.compareFiles "" "" (.ok file) (.ok other)).result.isOk].filter (!·)).length

def roundTrip (length : Int) : Except Fault Summary := do
  let file ← Sample.V54.chunk length 3 0
  let moved ← Sample.V54.chunk length 3 7
  let other ← Sample.V54.chunk (length + 1) 3 0
  let key : Bytes := [0xAF, 0x51, 0x75]
  let restored ← readMain true (← enciphered key (← enciphered key file))
  let relabelling ← (V54.compareFiles "" "" (.ok file) (.ok moved)).result
  pure (.lengths [restored.top.code.length, relabelling.length, key.length, key.length,
    refusals file other])

def plainWriting (length : Int) : Except Fault Summary := do
  let main ← readMain false (← Sample.V54.chunk length 2 0)
  let plain := main.map fun function : V54.Function => { function with recorded := none }
  let bytes ← written (some plain)
  let again ← readMain false bytes
  pure (.lengths [main.top.code.length, bytes.length, again.top.code.length])

def decoding (length : Int) : Except Fault Summary :=
  let words := (Sample.indices length).map (Sample.V54.word 0)
  .ok (.lengths [total (words.map fun word : Nat => (V54.decode word).opcode), words.length])

end LuaBytecode.Workload
