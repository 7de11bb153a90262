import LuaBytecode.Command.Arguments
import LuaBytecode.Store
import LuaBytecode.Text.Layout

namespace LuaBytecode.Command

inductive Complaint where
  | silent
  | text (text : String)
  | usage (text : String)
  | trace (fault : Fault)
deriving DecidableEq, Repr

structure Outcome where
  -- The exit status, or a fault that nothing caught.
  ending : Except Fault Nat := .ok 0
  said : String := ""
  complaint : Complaint := .silent
  store : Store Bytes

namespace Outcome

def traced (store : Store Bytes) (said message : String) (fault : Fault) : Outcome :=
  { ending := .ok 1, said := said ++ message ++ fault.message ++ "\n", complaint := .trace fault
    store }

def failed (store : Store Bytes) (said : String) : Outcome := { ending := .ok 1, said, store }

end Outcome

structure Manual where
  usage : List String
  details : String → List String

namespace Manual

def usageLines (manual : Manual) (program : String) : List String :=
  let opening := "usage: " ++ program ++ " "
  manual.usage.mapIdx fun index line =>
    (if index = 0 then opening else Text.times opening.length " ") ++ line

def help (manual : Manual) (program : String) : String :=
  Text.lines (manual.usageLines program ++ "" :: manual.details program)

def complaint (manual : Manual) (program : String) (misuse : Misuse) : Complaint :=
  .usage (Text.lines (manual.usageLines program ++
    [program ++ ": error: " ++ misuse.message]))

end Manual

def withArguments (manual : Manual) (grammar : Grammar) (program : String) (words : List String)
    (store : Store Bytes) (run : Arguments → Outcome) : Outcome :=
  match grammar.request words with
  | .help => { said := manual.help program, store }
  | .misuse misuse =>
    { ending := .ok 2, complaint := manual.complaint program misuse, store }
  | .run arguments => run arguments

end LuaBytecode.Command
