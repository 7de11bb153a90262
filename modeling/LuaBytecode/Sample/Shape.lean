import LuaBytecode.Bytes
import LuaBytecode.Fault

namespace LuaBytecode.Sample

def innerLength (length : Int) : Int := max 2 (length / 4)

def indices (length : Int) : List Nat := List.range length.toNat

def word (opcode index c : Nat) : Nat :=
  opcode + index % 256 * 2 ^ 6 + c * 2 ^ 14 + 5 * index % 512 * 2 ^ 23

def operandC (index : Nat) : Nat := 3 * index % 512

def requireInt (n : Int) : Except Fault Unit :=
  if -2 ^ 31 ≤ n ∧ n < 2 ^ 31 then .ok ()
  else .error (if -2 ^ 63 ≤ n ∧ n < 2 ^ 63 then .intRange else .longRange)

def requireWord (n : Int) : Except Fault Unit :=
  if 0 ≤ n ∧ n < 2 ^ 32 then .ok ()
  else .error (if 0 ≤ n ∧ n < 2 ^ 64 then .wordRange else .longRange)

def requireByte (n : Int) : Except Fault Unit :=
  if 0 ≤ n ∧ n < 256 then .ok () else .error .bytesRange

end LuaBytecode.Sample
