import LuaBytecode.Packaging
import LuaBytecode.Workload.Ciphering
import LuaBytecode.Workload.Files
import LuaBytecode.Workload.Listing

namespace LuaBytecode.Workload

def bundle : Packaging.Tools where
  version := some "6.0"
  bundling := .ended 0 "" [(Packaging.executable, 2 ^ 20)]
  now := "2024-01-01 00:00:00"

def packaging : Except Fault Summary := do
  let files := Packaging.needed.map fun name => (name, Packaging.Content.text "")
  let (done, shop) := Packaging.run bundle { store := { files } }
  let _ ← done
  pure (.count shop.said.length)

inductive Kind where
  | listing51
  | listing52
  | listing53
  | roundTrip
  | plainWriting
  | decoding
  | listingJit
  | dispatch
  | commands
  | packaging
deriving DecidableEq, Repr

namespace Kind

def all : List Kind :=
  [.listing51, .listing52, .listing53, .roundTrip, .plainWriting, .decoding, .listingJit,
    .dispatch, .commands, .packaging]

def lengths : Kind → Option (List Nat)
  | listing51 => some [80, 300, 1500]
  | listing52 => some [80, 300, 1500]
  | listing53 => some [80, 300, 1500]
  | roundTrip => some [60, 250, 800]
  | plainWriting => some [100, 400, 1600]
  | decoding => some [1000, 4000, 16000]
  | listingJit => some [80, 300, 1200]
  | dispatch => some [40, 150, 600]
  | commands => some [300, 800, 2000]
  | packaging => none

def usualLength (kind : Kind) : Nat := (kind.lengths.getD []).getD 1 0

def run (length : Int) : Kind → Except Fault Summary
  | listing51 => Workload.listing51 length
  | listing52 => Workload.listing52 length
  | listing53 => Workload.listing53 length
  | roundTrip => Workload.roundTrip length
  | plainWriting => Workload.plainWriting length
  | decoding => Workload.decoding length
  | listingJit => Workload.listingJit length
  | dispatch => Workload.dispatch length
  | commands => Workload.commands length
  | packaging => Workload.packaging

end Kind

end LuaBytecode.Workload
