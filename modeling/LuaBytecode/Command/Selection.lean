import LuaBytecode.Command.Direct
import LuaBytecode.Command.Jit
import LuaBytecode.Command.Lua52
import LuaBytecode.Command.Unified

namespace LuaBytecode.Command

def select (program : String) (words : List String) (store : Store Bytes) : Outcome :=
  match words with
  | "lua51" :: rest => Lua51.run program rest store
  | "lua52" :: rest => Lua52.run program rest store
  | "lua53" :: rest => Lua53.run program rest store
  | "lua54" :: rest => Lua54.run program rest store
  | "luajit" :: rest => Jit.run program rest store
  | _ => Unified.run program words store

def changes (before after : Store Bytes) : List (String × Bytes) :=
  after.files.filter fun (path, bytes) => before.get? path ≠ some bytes

def Complaint.text? : Complaint → Option String
  | .silent => none
  | .text said => some said
  | .usage said => some said
  | .trace fault => some (fault.message ++ "\n")

end LuaBytecode.Command
