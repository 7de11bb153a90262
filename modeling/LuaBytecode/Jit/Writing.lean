import LuaBytecode.Jit.Prototype
import LuaBytecode.Text.Utf8

namespace LuaBytecode.Jit

inductive Variable where
  | special (kind first last : Nat)
  | named (name : String) (first last : Nat)
deriving DecidableEq, Repr

namespace Write

def varint (n : Nat) : Bytes :=
  if n < 128 then [UInt8.ofNat n] else UInt8.ofNat (n % 128 + 128) :: varint (n / 128)
termination_by n
decreasing_by omega

def taggedVarint (low high : Nat) (isNumber : Bool) : Bytes :=
  let first := low % 64 * 2 + (if isNumber then 1 else 0)
  (if low < 64 then [UInt8.ofNat first] else UInt8.ofNat (first + 128) :: varint (low / 64)) ++
    (if isNumber then varint high else [])

def halves (n : Nat) : Bytes := varint (n % 2 ^ 32) ++ varint (n / 2 ^ 32)

def double (value : Double) : Bytes := halves value.bits.toNat

def string (text : String) : Bytes :=
  let bytes := Text.Utf8.encode text
  varint (bytes.length + 5) ++ bytes

def tableItem : Constant → Bytes
  | .nil => [0]
  | .bool value => [if value then 2 else 1]
  | .int value => 3 :: varint value.toNat
  | .num value => 4 :: double value
  | .str text => string text
  | .emptyList => []

def table (table : Table) : Bytes :=
  varint table.array.length ++ varint table.hash.length ++ table.array.flatMap tableItem ++
    table.hash.flatMap fun (key, value) => tableItem key ++ tableItem value

def collectable : Collectable → Bytes
  | .child => [0]
  | .table content => 1 :: table content
  | .i64 value => 2 :: halves (unsigned 64 value)
  | .u64 value => 3 :: halves (unsigned 64 value)
  | .complex real imaginary => 4 :: (double real ++ double imaginary)
  | .str text => string text
  | .other _ _ => []

def number : Number → Bytes
  | .int value => taggedVarint (unsigned 32 value) 0 false
  | .num value => taggedVarint (value.bits.toNat % 2 ^ 32) (value.bits.toNat / 2 ^ 32) true

def lineWidth (lineCount : Int) : Nat :=
  if 65536 ≤ lineCount then 4 else if 256 ≤ lineCount then 2 else 1

def terminated (text : String) : Bytes := Text.Utf8.encode text ++ [0]

def sized (body : Bytes) : Bytes := varint body.length ++ body

def entry : Variable → Bytes
  | .special kind first last => UInt8.ofNat kind :: (varint first ++ varint last)
  | .named name first last => terminated name ++ varint first ++ varint last

def debug (order : ByteOrder) (prototype : Prototype) (entries : List Variable) : Bytes :=
  let width := lineWidth prototype.lineCount
  prototype.lineInfo.flatMap (fun line => order.encode width (unsigned (8 * width) line)) ++
    prototype.upvalueNames.flatMap terminated ++ entries.flatMap entry ++ [0]

def body (order : ByteOrder) (stripped : Bool) (prototype : Prototype)
    (entries : List Variable) : Bytes :=
  Bytes.ofByte prototype.flags ++ Bytes.ofByte prototype.paramCount ++
    Bytes.ofByte prototype.frameSize ++ Bytes.ofByte prototype.upvalueCount ++
    varint prototype.collectables.length ++ varint prototype.numbers.length ++
    varint prototype.code.length ++
    (if stripped then []
    else
      varint prototype.debugSize.toNat ++ varint prototype.firstLine.toNat ++
        varint prototype.lineCount.toNat) ++
    prototype.code.flatMap (fun word => order.encode 4 (unsigned 32 word)) ++
    prototype.upvalueData.flatMap (fun word => order.encode 2 (unsigned 16 word)) ++
    prototype.collectables.flatMap collectable ++ prototype.numbers.flatMap number ++
    (if stripped then [] else debug order prototype entries)

def prototype (order : ByteOrder) (stripped : Bool) (prototype : Prototype)
    (entries : List Variable) : Bytes :=
  sized (body order stripped prototype entries)

def header (header : Header) : Bytes :=
  signature ++ Bytes.ofByte header.version ++ varint header.flags ++
    (if header.isStripped then []
    else sized (Text.Utf8.encode header.sourceName))

def dump (header : Header) (prototypes : List (Prototype × List Variable)) : Bytes :=
  let order : ByteOrder := if header.isBigEndian then .big else .little
  Write.header header ++
    prototypes.flatMap (fun (each, entries) =>
      prototype order header.isStripped each entries) ++ [0]

end Write

end LuaBytecode.Jit
