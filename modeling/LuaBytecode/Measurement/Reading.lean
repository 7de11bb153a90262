import LuaBytecode.Constant.Order
import LuaBytecode.Json.Parsing
import LuaBytecode.Text.Quoted

namespace LuaBytecode.Measurement

inductive Trouble where
  | notStarted (message : String)
  | noJson
  | noLine
  | notANumber (text : String)
  | noNumber (kind : String)
  | noMembers (kind : String)
deriving DecidableEq, Repr

namespace Trouble

def kind : Trouble → String
  | notStarted _ => "RuntimeError"
  | noJson => "JSONDecodeError"
  | noLine => "IndexError"
  | notANumber _ => "ValueError"
  | noNumber _ => "TypeError"
  | noMembers _ => "AttributeError"

def message : Trouble → String
  | notStarted message => message
  | noJson => "Expecting value: line 1 column 1 (char 0)"
  | noLine => "list index out of range"
  | notANumber text => "could not convert string to float: " ++ Text.quote text
  | noNumber kind => "float() argument must be a string or a real number, not '" ++ kind ++ "'"
  | noMembers kind => "'" ++ kind ++ "' object has no attribute 'get'"

end Trouble

inductive Runner where
  | ended (code : Int) (output errors : String)
  | failed (message : String)
deriving DecidableEq, Repr

def typeName : Json → String
  | .null => "NoneType"
  | .bool _ => "bool"
  | .int _ => "int"
  | .num _ => "float"
  | .str _ => "str"
  | .arr _ => "list"
  | .obj _ => "dict"

def toDouble : Json → Except Trouble Double
  | .num value => .ok value
  | .int value => .ok (Double.ofRatio (value < 0) value.natAbs 1)
  | .bool value => .ok (Double.ofRatio false (if value then 1 else 0) 1)
  | .str text =>
    match Json.parse? text with
    | some (.num value) => .ok value
    | some (.int value) => .ok (Double.ofRatio (value < 0) value.natAbs 1)
    | _ => .error (.notANumber text)
  | other => .error (.noNumber (typeName other))

def compareDoubles (first second : Double) : Bool :=
  Constant.atMost (.num first) (.num second)

def toInt : Json → Int
  | .int value => value
  | .bool value => if value then 1 else 0
  | .num value => value.trunc?.getD 0
  | _ => 0

def intMember (name : String) (object : Json) : Int := ((object.member? name).map toInt).getD 0

def isLineEnd (c : Char) : Bool :=
  let n := c.toNat
  (0x0A ≤ n && n ≤ 0x0D) || (0x1C ≤ n && n ≤ 0x1E) || n = 0x85 || n = 0x2028 || n = 0x2029

def isSpace (c : Char) : Bool :=
  let n := c.toNat
  isLineEnd c || n = 0x09 || n = 0x1F || n = 0x20 || n = 0xA0 || n = 0x1680 || (0x2000 ≤ n && n ≤ 0x200A) ||
    n = 0x202F || n = 0x205F || n = 0x3000

def strip (text : String) : String :=
  String.ofList ((text.toList.dropWhile isSpace).reverse.dropWhile isSpace).reverse

def withLineFeeds : List Char → List Char
  | '\r' :: '\n' :: rest => '\n' :: withLineFeeds rest
  | c :: rest => (if c = '\r' then '\n' else c) :: withLineFeeds rest
  | [] => []

def rows (text : String) : List String := ((withLineFeeds text.toList).splitOn '\n').map String.ofList

-- The last line of a text; what ends it does not begin another.
def lastLine? (text : String) : Option String :=
  match text.toList.reverse with
  | [] => none
  | '\n' :: '\r' :: rest => some (lineBehind rest)
  | c :: rest => some (lineBehind (if isLineEnd c then rest else c :: rest))
where
  lineBehind (reversed : List Char) : String := String.ofList (reversed.takeWhile (!isLineEnd ·)).reverse

-- The value that the last line of a process's output spells; an empty line reports nothing.
def report (output : String) : Except Trouble Json :=
  match lastLine? output with
  | none => .error .noLine
  | some "" => .ok (.obj [])
  | some line =>
    match Json.parse? line with
    | some value => .ok value
    | none => .error .noJson

end LuaBytecode.Measurement
