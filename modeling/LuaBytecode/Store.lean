import LuaBytecode.Fault
/-!
The files of a working directory. A path goes through directories, which exist as far as files lie
in them, and the blank and dotted parts of a path stay where they are.
-/
namespace LuaBytecode

-- Files by their paths, which have no blank and no dotted parts.
structure Store (α : Type) where
  files : List (String × α)
deriving Repr

inductive Place where
  | file (path : String)
  | directory
  -- Nothing in a directory that exists; the path may ask for a directory by its end.
  | nothing (path : String) (asDirectory : Bool)
  | noParent
  | throughFile
deriving DecidableEq, Repr

namespace Store

variable {α : Type}

def get? (store : Store α) (path : String) : Option α := store.files.lookup path

def set (store : Store α) (path : String) (content : α) : Store α :=
  if (store.get? path).isSome then
    { files := store.files.map fun (each, kept) =>
        if each = path then (each, content) else (each, kept) }
  else { files := store.files ++ [(path, content)] }

def hasDirectory (store : Store α) (path : String) : Bool :=
  store.files.any fun (each, _) => (path ++ "/").toList.isPrefixOf each.toList

def parts (path : String) : List String :=
  ((path.toList.splitOn '/').map String.ofList).filter fun part => part ≠ "" ∧ part ≠ "."

def follow (store : Store α) (wantsDirectory : Bool) : (reached : String) → List String → Place
  | _, [] => .directory
  | reached, [part] =>
    let path := reached ++ part
    if (store.get? path).isSome then if wantsDirectory then .throughFile else .file path
    else if store.hasDirectory path || part = ".." then .directory
    else .nothing path wantsDirectory
  | reached, part :: parts =>
    let path := reached ++ part
    if (store.get? path).isSome then .throughFile
    else if store.hasDirectory path then follow store wantsDirectory (path ++ "/") parts
    else .noParent

def locate (store : Store α) (path : String) : Place :=
  if path = "" then .noParent
  else follow store (path.toList.getLast? = some '/') "" (parts path)

def isThere (store : Store α) (path : String) : Bool :=
  match store.locate path with
  | .file _ => true
  | .directory => true
  | _ => false

def read (store : Store α) (path : String) : Except Fault α :=
  match store.locate path with
  | .file found =>
    match store.get? found with
    | some content => .ok content
    | none => .error (.missingFile path)
  | .directory => .error (.isDirectory path)
  | .throughFile => .error (.notDirectory path)
  | .nothing _ _ => .error (.missingFile path)
  | .noParent => .error (.missingFile path)

def write (store : Store α) (path : String) (content : α) : Except Fault (Store α) :=
  match store.locate path with
  | .file found => .ok (store.set found content)
  | .nothing free false => .ok (store.set free content)
  | .nothing _ true => .error (.isDirectory path)
  | .directory => .error (.isDirectory path)
  | .throughFile => .error (.notDirectory path)
  | .noParent => .error (.missingFile path)

end Store

end LuaBytecode
