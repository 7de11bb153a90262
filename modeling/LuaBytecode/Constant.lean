import LuaBytecode.Double
import LuaBytecode.Double.Decimal

namespace LuaBytecode

inductive Constant (τ : Type := String) where
  | nil
  | bool (value : Bool)
  | int (value : Int)
  | num (value : Double)
  | str (text : τ)
  -- A value that no chunk holds but a tree may be built with: the empty list.
  | emptyList
deriving DecidableEq, Repr

namespace Constant

def text : Constant → String
  | nil => "None"
  | bool true => "True"
  | bool false => "False"
  | int value => toString value
  | num value => value.text
  | str text => text
  | emptyList => "[]"

def typeName : Constant → String
  | nil => "NoneType"
  | bool _ => "bool"
  | int _ => "int"
  | num _ => "float"
  | str _ => "str"
  | emptyList => "list"

def mapText {τ σ : Type} (change : τ → σ) : Constant τ → Constant σ
  | nil => nil
  | bool value => bool value
  | int value => int value
  | num value => num value
  | str text => str (change text)
  | emptyList => emptyList

end Constant

structure Local where
  name : String
  startPc : Int
  endPc : Int
deriving DecidableEq, Repr

structure Upvalue where
  name : String := ""
  inStack : Int
  index : Int
deriving DecidableEq, Repr

def nameUpvalues : List String → List Upvalue → List Upvalue
  | name :: names, upvalue :: upvalues => { upvalue with name } :: nameUpvalues names upvalues
  | [], upvalues => upvalues
  | _ :: _, [] => []

end LuaBytecode
