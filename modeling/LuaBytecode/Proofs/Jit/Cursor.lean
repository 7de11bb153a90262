import LuaBytecode.Proofs.Cursor
import LuaBytecode.Proofs.Jit.Extent

namespace LuaBytecode.Jit

open Reader

namespace Read

theorem advances_header : Advances header := by
  have varint : Advances varint := advances_of_composed composed_varint
  have string (length : Nat) : Advances (string length) := advances_of_composed composed_string
  refine advances_bind advances_peek fun found => advances_bind advancesLaw.require fun _ => ?_
  refine advances_bind advances_take fun _ => ?_
  refine advances_bind (advances_of_composed composed_fixedWidth) fun version => ?_
  apply advancesLaw.aside advances_say
  refine advances_bind varint fun flags => advances_bind advances_layout fun _ => ?_
  refine advances_bind advances_setLayout fun _ => advancesLaw.choice advances_pure varint fun length => ?_
  exact advancesLaw.choice advances_pure (string length) fun sourceName => advances_pure

theorem advances_prototypes (fuel : Nat) : Advances (prototypes fuel) := by
  induction fuel with
  | zero => exact advances_pure
  | succ fuel ih =>
    refine advances_bind advances_atEnd fun ended => advancesLaw.ite advances_pure ?_
    refine advances_bind (advances_attempt (advances_of_composed composed_prototype)) fun outcome => ?_
    split
    · exact advances_bind advances_say fun _ => advances_pure
    · exact advancesLaw.ite advances_pure (advances_bind ih fun rest => advances_pure)

theorem advances_dump : Advances dump :=
  advances_bind advances_header fun _ => advances_bind (advances_nested advances_prototypes) fun _ => advances_pure

end Read

inductive Request where
  | byte
  | half
  | word
  | varint
  | taggedVarint
  | terminatedString
  | tableItem
  | table
  | prototype
  | header
  | dump
deriving DecidableEq, Repr

namespace Request

abbrev Answer : Request → Type
  | byte => Nat
  | half => Nat
  | word => Nat
  | varint => Nat
  | taggedVarint => (Nat × Nat) × Bool
  | terminatedString => String
  | tableItem => Constant
  | table => Table
  | prototype => Prototype
  | header => Header
  | dump => Dump

def reader : (request : Request) → Reader request.Answer
  | byte => Read.byte
  | half => Read.fixedWidth 2
  | word => Read.fixedWidth 4
  | varint => Read.varint
  | taggedVarint => Read.taggedVarint
  | terminatedString => Read.terminatedString
  | tableItem => Read.tableItem
  | table => Read.table
  | prototype => Read.prototype
  | header => Read.header
  | dump => Read.dump

def width? : Request → Option Nat
  | byte => some 1
  | half => some 2
  | word => some 4
  | _ => none

theorem advances_reader (request : Request) : Advances request.reader := by
  cases request with
  | byte => exact Read.advances_of_composed Read.composed_fixedWidth
  | half => exact Read.advances_of_composed Read.composed_fixedWidth
  | word => exact Read.advances_of_composed Read.composed_fixedWidth
  | varint => exact Read.advances_of_composed Read.composed_varint
  | taggedVarint => exact Read.advances_of_composed Read.composed_taggedVarint
  | terminatedString => exact Read.advances_of_composed Read.composed_terminatedString
  | tableItem => exact Read.advances_of_composed Read.composed_tableItem
  | table => exact Read.advances_of_composed Read.composed_table
  | prototype => exact Read.advances_of_composed Read.composed_prototype
  | header => exact Read.advances_header
  | dump => exact Read.advances_dump

theorem whole_reader {layout : Layout} {request : Request} {width : Nat} (fixed : request.width? = some width) :
    Whole EndOfData layout width request.reader := by
  have known (width : Nat) : Whole EndOfData layout width (Read.fixedWidth width) :=
    whole_bind (whole_take fun _ _ => trivial) fun _ => still_pure
  cases request with
  | byte | half | word =>
    cases fixed
    exact known _
  | varint | taggedVarint | terminatedString | tableItem | table | prototype | header | dump => cases fixed

end Request

def interface : Interface where
  Request := Request
  Answer := Request.Answer
  reader := Request.reader
  width? _ := Request.width?
  tells := EndOfData

end LuaBytecode.Jit
