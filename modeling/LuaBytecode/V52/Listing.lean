import LuaBytecode.Text.Layout
import LuaBytecode.V52.Disassembly

namespace LuaBytecode.V52

open Text

def Header.listing (header : Header) : List String :=
  ["HEADER INFORMATION",
    times 60 "-",
    "Signature: \\x1bLua",
    "Version: 0x" ++ padZero 2 (hexLower header.version) ++ " (Lua 5.2)",
    s!"Format: {header.format}",
    "Endianness: " ++ (if header.order = .little then "little" else "big"),
    s!"Int size: {header.intWidth} bytes",
    s!"Size_t size: {header.sizeWidth} bytes",
    s!"Instruction size: {header.instructionWidth} bytes",
    s!"Number size: {header.numberWidth} bytes",
    s!"Integral flag: {header.numberFlag}",
    ""]

namespace Function

def facts (function : Function) : List String :=
  ["FUNCTION PROTOTYPE",
    times 60 "-",
    "Source: " ++ function.source,
    "Lines: " ++ decimal function.lineDefined ++ "-" ++ decimal function.lastLineDefined,
    "Parameters: " ++ decimal function.paramCount,
    "Vararg: " ++ (if function.varargFlag = 0 then "False" else "True"),
    "Max stack: " ++ decimal function.maxStackSize]

def constantLines (function : Function) : Except Fault (List String) := do
  if function.constants.isEmpty then .ok []
  else
    let shown ← function.constants.mapM constantText
    .ok (s!"CONSTANTS ({function.constants.length}):" ::
      shown.mapIdx fun index text => s!"  {index}: " ++ text)

def localLines (function : Function) : List String :=
  if function.locals.isEmpty then []
  else
    s!"LOCALS ({function.locals.length}):" :: function.locals.mapIdx fun index each =>
      s!"  {index}: " ++ each.name ++ s!" (pc: {each.startPc}-{each.endPc})"

def upvalueLines (function : Function) : List String :=
  if function.upvalues.isEmpty then []
  else
    s!"UPVALUES ({function.upvalues.length}):" :: function.upvalues.mapIdx fun index each =>
      s!"  {index}: " ++ each.name ++ s!" (instack: {each.inStack}, idx: {each.index})"

def codeLines (function : Function) : Except Fault (List String) := do
  let shown ← function.code.mapM (disassemble function.constants)
  .ok (s!"INSTRUCTIONS ({function.code.length}):" ::
    shown.mapIdx fun index text => "  " ++ padLeft 4 (toString index) ++ ": " ++ text)

end Function

def block (margin : String) (rows : List String) : List String :=
  if rows.isEmpty then [] else rows.map (margin ++ ·) ++ [""]

mutual
def listing (indent : Int) : Prototype → Except Fault (List String)
  | .node function inner => do
    let margin := times indent "  "
    let constants ← function.constantLines
    let code ← function.codeLines
    let rest ← forestListing indent 0 inner
    .ok (block margin function.facts ++ block margin constants ++
      block margin function.localLines ++ block margin function.upvalueLines ++
      block margin code ++ rest)
def forestListing (indent : Int) (index : Nat) : List Prototype → Except Fault (List String)
  | [] => .ok []
  | tree :: forest => do
    let first ← listing (indent + 1) tree
    let rest ← forestListing indent (index + 1) forest
    .ok ((times indent "  " ++ s!"CHILD FUNCTION {index}:") :: first ++ rest)
end

end LuaBytecode.V52
