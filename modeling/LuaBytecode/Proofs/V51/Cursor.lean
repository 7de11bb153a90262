import LuaBytecode.Proofs.Cursor
import LuaBytecode.Proofs.V51.Extent

namespace LuaBytecode.V51

open Reader

inductive Request where
  | byte
  | int
  | size
  | number
  | string
  | instruction
  | constants
  | code
  | prototypes
  | prototype
  | header
  | chunk
deriving DecidableEq, Repr

namespace Request

abbrev Answer : Request → Type
  | byte => Nat
  | int => Int
  | size => Nat
  | number => Double
  | string => String
  | instruction => Instruction
  | constants => List Constant
  | code => List Instruction
  | prototypes => List Prototype
  | prototype => Prototype
  | header => Header
  | chunk => Chunk

def reader : (request : Request) → Reader request.Answer
  | byte => boundedByte
  | int => Read.int
  | size => Read.size
  | number => Read.number
  | string => Read.string
  | instruction => Read.instruction
  | constants => Read.counted Read.constant
  | code => Read.counted Read.instruction
  | prototypes => Read.counted Read.prototype
  | prototype => Read.prototype
  | header => Read.header
  | chunk => Read.chunk

def width? (layout : Layout) : Request → Option Nat
  | byte => some 1
  | int => some layout.intWidth
  | size => some (if layout.sizeWidth = 4 then 4 else 8)
  | number => some layout.numberWidth
  | instruction => some layout.instructionWidth
  | _ => none

theorem composed_reader (request : Request) : Composed (Basic BeyondEnd) request.reader := by
  cases request with
  | byte => exact composed_boundedByte
  | int => exact Read.composed_int
  | size => exact Read.composed_size
  | number => exact Read.composed_number
  | string => exact Read.composed_string
  | instruction => exact Read.composed_instruction
  | constants => exact Read.composed_counted Read.composed_constant
  | code => exact Read.composed_counted Read.composed_instruction
  | prototypes => exact Read.composed_counted Read.composed_prototype
  | prototype => exact Read.composed_prototype
  | header => exact Read.composed_header
  | chunk => exact Read.composed_chunk

theorem advances_reader (request : Request) : Advances request.reader := (composed_reader request).advances

theorem whole_reader {layout : Layout} {request : Request} {width : Nat} (fixed : request.width? layout = some width) :
    Whole BeyondEnd layout width request.reader := by
  have still (order : ByteOrder) (width : Nat) (bytes : Bytes) : Still BeyondEnd (Reader.fixed order width bytes) :=
    still_fixed fun _ => not_beyondEnd_width
  cases request with
  | byte =>
    cases fixed
    exact whole_boundedByte
  | int =>
    cases fixed
    exact whole_layout (whole_bind whole_bounded fun _ => still_bind (still _ _ _) fun _ => still_pure)
  | size =>
    cases fixed
    exact whole_layout (whole_bind whole_bounded fun _ => still _ _ _)
  | number =>
    cases fixed
    exact whole_layout (whole_bind whole_bounded fun _ => still_bind (still _ _ _) fun _ => still_pure)
  | instruction =>
    cases fixed
    exact whole_layout (whole_bind whole_bounded fun _ => still_bind (still _ _ _) fun _ =>
      still_decode fun _ _ => not_beyondEnd_opcode)
  | string | constants | code | prototypes | prototype | header | chunk => cases fixed

end Request

def interface : Interface where
  Request := Request
  Answer := Request.Answer
  reader := Request.reader
  width? := Request.width?
  tells := BeyondEnd

end LuaBytecode.V51
