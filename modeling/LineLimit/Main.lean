import LineLimit.Command.Run
/-!
The program: it looks at the files that a command can be about, runs the command on them, and writes what
comes of it.
-/

namespace LineLimit.Command.Host

/-- What stands at an entry of a directory. Of a file, no more is read than shows that it is too large. What
cannot be read is left out. -/
partial def node? (entry : IO.FS.DirEntry) : IO (Option Node) := do
  try
    let path := entry.path
    match (← path.symlinkMetadata).type with
    | .dir =>
      let mut entries : List (String × Node) := []
      for inner in ← path.readDir do
        if let some n ← node? inner then entries := (inner.fileName, n) :: entries
      return some (.dir entries)
    | .file =>
      let data ← IO.FS.withFile path .read fun h => h.read (.ofNat (maxFileSize + 1))
      return some (.file data)
    | .symlink => return some (.link (← IO.FS.realPath path).toString)
    | .other => return none
  catch _ => return none

def placeOf (path : String) : Place :=
  (Path.components path).filterMap fun
    | .name s => some s
    | _ => none

def add (root : Node) (path : String) : IO Node := do
  let place := placeOf path
  let above := "/" ++ "/".intercalate place.dropLast
  match ← node? { root := above, fileName := place.getLastD "" } with
  | some n => return n.set root place
  | none => return root

/-- The directory with all that an argument can be about, if the argument names anything. -/
def dirOf? (arg : String) : IO (Option String) := do
  try
    let path ← IO.FS.realPath arg
    if ← path.isDir then return some path.toString
    else if ← path.pathExists then return (path.parent.map (·.toString))
    else return none
  catch _ => return none

/-- The files below the current directory, and those that some arguments are about. -/
def fileTree (args : List String) : IO FileTree := do
  let cwd := (← IO.currentDir).toString
  let mut root ← add (.dir []) cwd
  for arg in args do
    if let some dir ← dirOf? arg then
      if !(placeOf cwd).isPrefixOf (placeOf dir) then root ← add root dir
  return ⟨root, placeOf cwd⟩

/-- The content of the configuration file in the current directory of a tree. -/
def config? (t : FileTree) : Option ByteArray :=
  match t.root.get? (t.placeOf Init.fileName) with
  | some (.file data) => some data
  | _ => none

/-- Writes the configuration file if a command has made one. -/
def save (before after : FileTree) : IO Unit := do
  if let some data := config? after then
    if config? before != some data then
      if (before.root.get? (before.placeOf Init.fileName)).isSome then IO.FS.removeFile Init.fileName
      IO.FS.writeBinFile Init.fileName data

end LineLimit.Command.Host

def main (args : List String) : IO UInt32 := do
  let before ← LineLimit.Command.Host.fileTree args
  let outcome := LineLimit.Command.run before args
  LineLimit.Command.Host.save before outcome.tree
  if !outcome.failed.isEmpty then
    (← IO.getStderr).putStrLn ("\n" ++ "\n".intercalate outcome.failed)
  if let some reason := outcome.reason then (← IO.getStderr).putStrLn reason
  (← IO.getStdout).putStr outcome.output
  return .ofNat outcome.status
