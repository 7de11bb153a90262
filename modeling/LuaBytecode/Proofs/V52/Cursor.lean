import LuaBytecode.Proofs.Cursor
import LuaBytecode.Proofs.V52.Extent

namespace LuaBytecode.V52

open Reader

inductive Request where
  | byte
  | word
  | long
  | number
  | size
  | string
  | code
  | constants
  | prototypes
  | upvalues
  | lines
  | locals
  | upvalueNames
  | prototype
  | header
  | chunk
deriving DecidableEq, Repr

namespace Request

abbrev Answer : Request → Type
  | byte => Nat
  | word => Nat
  | long => Nat
  | number => Double
  | size => Nat
  | string => String
  | code => List Instruction
  | constants => List Constant
  | prototypes => List Prototype
  | upvalues => List Upvalue
  | lines => List Int
  | locals => List Local
  | upvalueNames => List String
  | prototype => Prototype
  | header => Header
  | chunk => Chunk

def reader : (request : Request) → Reader request.Answer
  | byte => Read.byte
  | word => Read.word
  | long => Read.long
  | number => Read.number
  | size => Read.size
  | string => Read.string
  | code => Read.code
  | constants => Read.counted Read.constant
  | prototypes => Read.counted Read.prototype
  | upvalues => Read.counted Read.upvalue
  | lines => Read.counted Read.line
  | locals => Read.counted Read.localVariable
  | upvalueNames => Read.counted Read.string
  | prototype => Read.prototype
  | header => Read.header
  | chunk => Read.chunk

-- A size of a width that is not supported is refused before anything is read.
def width? (layout : Layout) : Request → Option Nat
  | byte => some 1
  | word => some 4
  | long => some 8
  | number => some 8
  | size => some (if layout.sizeWidth = 4 then 4 else if layout.sizeWidth = 8 then 8 else 0)
  | _ => none

theorem composed_reader (request : Request) : Composed (Basic EndOfData) request.reader := by
  cases request with
  | byte => exact Read.composed_byte
  | word => exact Read.composed_word
  | long => exact Read.composed_long
  | number => exact Read.composed_number
  | size => exact Read.composed_size
  | string => exact Read.composed_string
  | code => exact Read.composed_code
  | constants => exact Read.composed_counted Read.composed_constant
  | prototypes => exact Read.composed_counted Read.composed_prototype
  | upvalues => exact Read.composed_counted Read.composed_upvalue
  | lines => exact Read.composed_counted Read.composed_line
  | locals => exact Read.composed_counted Read.composed_localVariable
  | upvalueNames => exact Read.composed_counted Read.composed_string
  | prototype => exact Read.composed_prototype
  | header => exact Read.composed_header
  | chunk => exact Read.composed_chunk

theorem advances_reader (request : Request) : Advances request.reader := (composed_reader request).advances

theorem whole_reader {layout : Layout} {request : Request} {width : Nat} (fixed : request.width? layout = some width) :
    Whole EndOfData layout width request.reader := by
  have bytes (count : Nat) : Whole EndOfData layout count (Read.bytes count) := whole_take fun _ _ => rfl
  have still (width : Nat) (bytes : Bytes) :
      Still EndOfData (Reader.layout >>= fun found => Reader.fixed found.order width bytes) :=
    still_layout fun _ => still_fixed fun _ => nofun
  have word : Whole EndOfData layout 4 Read.word := whole_bind (bytes 4) fun _ => still _ _
  have long : Whole EndOfData layout 8 Read.long := whole_bind (bytes 8) fun _ => still _ _
  cases request with
  | byte =>
    cases fixed
    exact whole_bind (bytes 1) fun _ => still_pure
  | word =>
    cases fixed
    exact word
  | long =>
    cases fixed
    exact long
  | number =>
    cases fixed
    exact whole_bind long fun _ => still_pure
  | size =>
    cases fixed
    apply whole_layout
    split
    · exact word
    · split
      · exact long
      · exact whole_of_still (still_fail fun _ => nofun)
  | string | code | constants | prototypes | upvalues | lines | locals | upvalueNames | prototype | header | chunk =>
    cases fixed

end Request

def interface : Interface where
  Request := Request
  Answer := Request.Answer
  reader := Request.reader
  width? := Request.width?
  tells := EndOfData

end LuaBytecode.V52
