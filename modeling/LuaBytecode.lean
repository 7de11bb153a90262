import LuaBytecode.Bytes
import LuaBytecode.Command.Arguments
import LuaBytecode.Command.Jit
import LuaBytecode.Command.Direct
import LuaBytecode.Command.Lua52
import LuaBytecode.Command.Lua54
import LuaBytecode.Command.Outcome
import LuaBytecode.Command.Selection
import LuaBytecode.Command.Unified
import LuaBytecode.Constant
import LuaBytecode.Constant.Order
import LuaBytecode.Detection
import LuaBytecode.Double
import LuaBytecode.Double.Decimal
import LuaBytecode.Emission
import LuaBytecode.Fault
import LuaBytecode.Inspection
import LuaBytecode.Instruction
import LuaBytecode.Jit.Instruction
import LuaBytecode.Jit.Listing
import LuaBytecode.Jit.Prototype
import LuaBytecode.Jit.Reading
import LuaBytecode.Jit.Writing
import LuaBytecode.Json
import LuaBytecode.Json.Parsing
import LuaBytecode.Main
import LuaBytecode.Measurement.Coverage
import LuaBytecode.Measurement.Reading
import LuaBytecode.Measurement.Report
import LuaBytecode.Measurement.SelfCheck
import LuaBytecode.Measurement.Share
import LuaBytecode.Packaging
import LuaBytecode.Packaging.Texts
import LuaBytecode.Proofs.Reader
import LuaBytecode.Proofs.Tree
import LuaBytecode.Proofs.Utf8
import LuaBytecode.Proofs.V54.Accepted
import LuaBytecode.Proofs.V54.Canonical
import LuaBytecode.Proofs.V54.Encryption
import LuaBytecode.Proofs.V54.Reading
import LuaBytecode.Proofs.V54.Rewriting
import LuaBytecode.Proofs.V54.RoundTrip
import LuaBytecode.Proofs.V54.Size
import LuaBytecode.Proofs.V54.Unambiguous
import LuaBytecode.Proofs.V54.Wire
import LuaBytecode.Proofs.V54.Writing
import LuaBytecode.Reader
import LuaBytecode.Sample.Jit
import LuaBytecode.Sample.Shape
import LuaBytecode.Sample.V51
import LuaBytecode.Sample.V52
import LuaBytecode.Sample.V53
import LuaBytecode.Sample.V54
import LuaBytecode.Store
import LuaBytecode.Text.Encoding
import LuaBytecode.Text.Layout
import LuaBytecode.Text.Quoted
import LuaBytecode.Text.Shown
import LuaBytecode.Text.Utf8
import LuaBytecode.Tree
import LuaBytecode.V51.Analysis
import LuaBytecode.V51.Listing
import LuaBytecode.V51.Opcode
import LuaBytecode.V51.Prototype
import LuaBytecode.V51.Reading
import LuaBytecode.V51.Writing
import LuaBytecode.V52.Analysis
import LuaBytecode.V52.Disassembly
import LuaBytecode.V52.Listing
import LuaBytecode.V52.Opcode
import LuaBytecode.V52.Parts
import LuaBytecode.V52.Prototype
import LuaBytecode.V52.Reading
import LuaBytecode.V52.Writing
import LuaBytecode.V53.Listing
import LuaBytecode.V53.Opcode
import LuaBytecode.V53.Prototype
import LuaBytecode.V53.Reading
import LuaBytecode.V53.Writing
import LuaBytecode.V54.Cipher
import LuaBytecode.V54.Instruction
import LuaBytecode.V54.Listing
import LuaBytecode.V54.Prototype
import LuaBytecode.V54.Reading
import LuaBytecode.V54.Relabelling
import LuaBytecode.V54.Writing
import LuaBytecode.Workload
import LuaBytecode.Workload.Ciphering
import LuaBytecode.Workload.Files
import LuaBytecode.Workload.Listing
import LuaBytecode.Proofs.Abreast
import LuaBytecode.Proofs.V54.Gathering
import LuaBytecode.Proofs.V54.Recording
import LuaBytecode.Proofs.Layout
import LuaBytecode.Proofs.V51.RoundTrip
import LuaBytecode.Proofs.V52.RoundTrip
import LuaBytecode.Proofs.V53.RoundTrip
import LuaBytecode.Proofs.Extent
import LuaBytecode.Proofs.Composition
import LuaBytecode.Proofs.V51.Extent
import LuaBytecode.Proofs.Truncation
import LuaBytecode.Proofs.OptionalTail
import LuaBytecode.Proofs.V54.Truncation
import LuaBytecode.Proofs.Jit.Varint
import LuaBytecode.Proofs.Jit.VarintLimit
import LuaBytecode.Proofs.Cursor
import LuaBytecode.Proofs.V51.Cursor
import LuaBytecode.Proofs.V52.Cursor
import LuaBytecode.Proofs.V53.Cursor
import LuaBytecode.Proofs.Jit.Cursor
import LuaBytecode.Proofs.CallSequences
import LuaBytecode.Proofs.Plateau
import LuaBytecode.Proofs.Quiet
import LuaBytecode.Proofs.Jit.Constants
import LuaBytecode.Proofs.Jit.RoundTrip
import LuaBytecode.Proofs.Shortening
import LuaBytecode.Proofs.Jit.Extent
import LuaBytecode.Proofs.Jit.Truncation
import LuaBytecode.Proofs.Bulk
import LuaBytecode.Proofs.V51.Bulk
import LuaBytecode.Proofs.V52.Bulk
import LuaBytecode.Proofs.V53.Bulk
import LuaBytecode.Proofs.V54.Bulk
import LuaBytecode.Proofs.Jit.Bulk
import LuaBytecode.Proofs.Amplification
import LuaBytecode.Proofs.Recognition
import LuaBytecode.Proofs.Command.Arguments
import LuaBytecode.Proofs.Command.Cipher
import LuaBytecode.Proofs.Command.Failure
import LuaBytecode.Proofs.V54.Relabelling
import LuaBytecode.Proofs.V54.Shortest
import LuaBytecode.Proofs.V54.Unrecorded
import LuaBytecode.Proofs.Sample.Shape
import LuaBytecode.Proofs.Sample.Chunks
import LuaBytecode.Proofs.Sample.V54
import LuaBytecode.Proofs.Sample.Jit
import LuaBytecode.Proofs.Sample.Accepted
import LuaBytecode.Proofs.Jit.WordOrder
import LuaBytecode.Proofs.V54.Involution
import LuaBytecode.Proofs.Jit.Framing
import LuaBytecode.Proofs.LayoutUse
import LuaBytecode.Proofs.V52.Declared
import LuaBytecode.Proofs.V53.Declared
import LuaBytecode.Proofs.V54.Declared
import LuaBytecode.Proofs.DeclaredLayout
import LuaBytecode.Proofs.Fields
import LuaBytecode.Proofs.V54.Instruction
import LuaBytecode.Proofs.Instruction
import LuaBytecode.Proofs.V54.Encodable
import LuaBytecode.Proofs.V54.Lockstep
import LuaBytecode.Proofs.V54.Repetition
import LuaBytecode.Proofs.Text
import LuaBytecode.Proofs.V52.Disassembly
import LuaBytecode.Proofs.Address
import LuaBytecode.Proofs.V51.Paths
import LuaBytecode.Proofs.V51.Jumps
import LuaBytecode.Proofs.Meaning
import LuaBytecode.Proofs.References
import LuaBytecode.Proofs.V51.Globals
import LuaBytecode.Proofs.Double
import LuaBytecode.Proofs.V52.Content
import LuaBytecode.Proofs.V52.Listing
import LuaBytecode.Proofs.Order
import LuaBytecode.Proofs.V52.Globals
import LuaBytecode.Proofs.V52.Report
import LuaBytecode.Proofs.V52.Environment
import LuaBytecode.Proofs.Command.Analysis
import LuaBytecode.Proofs.Jit.Spelling
import LuaBytecode.Proofs.Jit.Ranges
import LuaBytecode.Proofs.V54.SizeLimit
import LuaBytecode.Proofs.Jit.TableIntegers
import LuaBytecode.Proofs.Jit.VariableNames
import LuaBytecode.Proofs.Jit.LineRows
import LuaBytecode.Proofs.V54.Texts
