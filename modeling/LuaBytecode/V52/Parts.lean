import LuaBytecode.Bytes
import LuaBytecode.Instruction
/-!
Words of version 5.2 taken apart. Only the widths are given: every part starts where those before it
end, and the middle of Bx is half of the largest.
-/
namespace LuaBytecode.V52

namespace Width

def opcode : Nat := 6
def a : Nat := 8
def b : Nat := 9
def c : Nat := 9
def bx : Nat := c + b
def ax : Nat := c + b + a

end Width

namespace Start

def opcode : Nat := 0
def a : Nat := opcode + Width.opcode
def c : Nat := a + Width.a
def b : Nat := c + Width.c
def bx : Nat := c
def ax : Nat := a

end Start

def largestBx : Nat := 2 ^ Width.bx - 1

def largestSbx : Nat := largestBx / 2

structure Parts where
  value : Int
  number : Nat
  a : Nat
  b : Nat
  c : Nat
  bx : Nat
  sbx : Int
  ax : Nat
deriving DecidableEq, Repr

def parts (word : Word) : Parts where
  value := word.value
  number := word.field Start.opcode Width.opcode
  a := word.field Start.a Width.a
  b := word.field Start.b Width.b
  c := word.field Start.c Width.c
  bx := word.field Start.bx Width.bx
  sbx := word.field Start.bx Width.bx - largestSbx
  ax := word.field Start.ax Width.ax

end LuaBytecode.V52
