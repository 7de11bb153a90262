import LuaBytecode.Command.Selection

namespace LuaBytecode.Main

def placeOf (words : List String) (path : String) : String :=
  let fromRoot := words.any fun word =>
    word.toList.head? = some '/' &&
      ((Store.parts word).dropLast.isPrefixOf (Store.parts path))
  if fromRoot then "/" ++ path else path

def load (word : String) : IO (List (String × Bytes)) := do
  let parts := Store.parts word
  let root := if word.toList.head? = some '/' then "/" else ""
  let parent := String.intercalate "/" parts.dropLast
  let file ← try
      let content ← IO.FS.readBinFile word
      pure [(String.intercalate "/" parts, content.toList)]
    catch _ => pure []
  let mark ← try
      let _ ← IO.FS.realPath (if parent = "" then "." else root ++ parent)
      pure (if parent = "" then [] else [(parent ++ "/", [])])
    catch _ => pure []
  pure (file ++ mark)

def run (words : List String) : IO UInt32 := do
  let files ← words.mapM load
  let store : Store Bytes := { files := files.flatten }
  let outcome := Command.select "lua-bytecode" words store
  IO.print outcome.said
  for text in outcome.complaint.text?.toList do
    IO.eprint text
  for (path, bytes) in Command.changes store outcome.store do
    IO.FS.writeBinFile (placeOf words path) (ByteArray.mk bytes.toArray)
  match outcome.ending with
  | .ok code => pure (UInt32.ofNat code)
  | .error fault => do
    IO.eprintln fault.message
    pure 1

end LuaBytecode.Main

def main (words : List String) : IO UInt32 := LuaBytecode.Main.run words
