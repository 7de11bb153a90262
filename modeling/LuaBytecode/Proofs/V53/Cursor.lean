import LuaBytecode.Proofs.Cursor
import LuaBytecode.Proofs.V53.Extent

namespace LuaBytecode.V53

open Reader

inductive Request where
  | byte
  | int
  | size
  | integer
  | number
  | string
  | instruction
  | constants
  | upvalues
  | prototypes
  | prototype
  | header
  | chunk
deriving DecidableEq, Repr

namespace Request

abbrev Answer : Request → Type
  | byte => Nat
  | int => Int
  | size => Nat
  | integer => Int
  | number => Double
  | string => String
  | instruction => Instruction
  | constants => List Constant
  | upvalues => List Upvalue
  | prototypes => List Prototype
  | prototype => Prototype
  | header => Header
  | chunk => Chunk

def reader : (request : Request) → Reader request.Answer
  | byte => boundedByte
  | int => Read.int
  | size => Read.size
  | integer => Read.integer
  | number => Read.number
  | string => Read.string
  | instruction => Read.instruction
  | constants => Read.counted Read.constant
  | upvalues => Read.counted Read.upvalue
  | prototypes => Read.prototypes
  | prototype => Read.prototype
  | header => Read.header
  | chunk => Read.chunk

def width? : Request → Option Nat
  | byte => some 1
  | int => some 4
  | size => some 8
  | integer => some 8
  | number => some 8
  | instruction => some 4
  | _ => none

theorem composed_reader (request : Request) : Composed (Basic BeyondEnd) request.reader := by
  cases request with
  | byte => exact composed_boundedByte
  | int => exact Read.composed_int
  | size => exact Read.composed_fixedWidth
  | integer => exact Read.composed_integer
  | number => exact Read.composed_number
  | string => exact Read.composed_string
  | instruction => exact Read.composed_instruction
  | constants => exact Read.composed_counted Read.composed_constant
  | upvalues => exact Read.composed_counted Read.composed_upvalue
  | prototypes => exact Read.composed_counted Read.composed_prototype
  | prototype => exact Read.composed_prototype
  | header => exact Read.composed_header
  | chunk => exact Read.composed_chunk

theorem advances_reader (request : Request) : Advances request.reader := (composed_reader request).advances

theorem whole_reader {layout : Layout} {request : Request} {width : Nat} (fixed : request.width? = some width) :
    Whole BeyondEnd layout width request.reader := by
  have known (width : Nat) : Whole BeyondEnd layout width (Read.fixedWidth width) :=
    whole_bind whole_bounded fun _ => still_layout fun _ => still_fixed fun _ => not_beyondEnd_width
  cases request with
  | byte =>
    cases fixed
    exact whole_boundedByte
  | size =>
    cases fixed
    exact known 8
  | int | integer | number =>
    cases fixed
    exact whole_bind (known _) fun _ => still_pure
  | instruction =>
    cases fixed
    exact whole_bind (known 4) fun _ => still_decode fun _ _ => not_beyondEnd_opcode
  | string | constants | upvalues | prototypes | prototype | header | chunk => cases fixed

end Request

-- No width depends on the header.
def interface : Interface where
  Request := Request
  Answer := Request.Answer
  reader := Request.reader
  width? _ := Request.width?
  tells := BeyondEnd

end LuaBytecode.V53
