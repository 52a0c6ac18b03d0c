import EscapeAudit.Command.Run
import Std.Time.DateTime.Timestamp

/-!
# The command line

The outer layer: it reads the files that the command may look at, the environment and the clock,
calls the command, prints what it gives, and writes the files that it changed.
-/

namespace EscapeAudit.Command

/-- The names in an absolute path. -/
def namesOf (path : String) : List String := (Text.splitAt '/' path).filter (· != "")

/-- Reads a file or a directory with everything below it. -/
partial def readNode (path : String) : IO FileNode := do
  let place ← IO.FS.realPath path
  if ← place.isDir then
    let entries ← place.readDir
    let mut nodes := #[]
    for entry in entries do
      nodes := nodes.push (entry.fileName, ← readNode entry.path.toString)
    return .directory nodes.toList
  else
    return .file (← IO.FS.readBinFile path)

/-- Puts what stands at a path into a tree.  A path that cannot be read changes nothing. -/
def snapshot (tree : FileTree) (path : String) : IO FileTree := do
  try
    let place ← IO.FS.realPath path
    let node ← readNode path
    return { tree with root := tree.root.put (namesOf place.toString) node }
  catch _ => return tree

/-- The beginnings of a path that end before a slash. -/
def parentsOf (path : String) : List String :=
  let pieces := Text.splitAt '/' path
  (List.range pieces.length).map fun n => Text.joinWith "/" (pieces.take n)

/-- Puts the directories on the way of a path into a tree. -/
def snapshotParents (tree : FileTree) (path : String) : IO FileTree := do
  let mut tree := tree
  for parent in parentsOf path do
    if parent != "" then
      try
        let place ← IO.FS.realPath parent
        if ← place.isDir then tree := tree.putDirectory (namesOf place.toString)
      catch _ => pure ()
  return tree

/-- The number of processors, or one if it cannot be found out. -/
def processors : IO Nat := do
  try
    let text ← IO.FS.readFile "/proc/cpuinfo"
    return max 1 ((Text.splitAt '\n' text).countP fun line => Text.startsWith line "processor")
  catch _ => return 1

/-- The environment variables that the command asks for. -/
def environment : IO Environment := do
  let mut pairs := #[]
  for name in filterVariable :: Settings.variableNames do
    if let some value ← IO.getEnv name then pairs := pairs.push (name, value)
  let known := pairs.toList
  return fun name => known.lookup name

/-- What the command sees of the world. -/
def world (path : String) (a : Arguments) : IO World := do
  let home := (← IO.currentDir).toString
  let mut tree := FileTree.empty (namesOf home) home
  for p in path :: a.config.toList do
    tree ← snapshotParents tree p
    tree ← snapshot tree p
  return ⟨tree, ← environment, ← processors⟩

/-- Writes the files that the command changed. -/
def writeBack (p : Performance) : IO Unit := do
  match p.batch.value with
  | .error _ => return ()
  | .ok run =>
    for path in run.results.written do
      if let .ok content := run.tree.read path then IO.FS.writeBinFile path.text content

/-- The present point in time. -/
def now : IO Instant := do
  return ⟨(← Std.Time.Timestamp.now).toNanosecondsSinceUnixEpoch.val.toNat⟩

/-- Prints what the command leaves. -/
def tell (out : Output) : IO UInt32 := do
  IO.print out.stdout
  IO.eprint out.stderr
  return UInt32.ofNat out.exit

/-- Checks what the arguments ask for. -/
def check (path : String) (a : Arguments) : IO UInt32 := do
  let w ← world path a
  let started ← IO.monoNanosNow
  let p ← IO.lazyPure fun _ => perform w path a
  writeBack p
  let elapsed := (← IO.monoNanosNow) - started
  tell (present w (.ofInstant (← now) elapsed) path a p)

end EscapeAudit.Command

open EscapeAudit.Command in
/-- Runs the command. -/
def main (arguments : List String) : IO UInt32 := do
  match request? arguments with
  | none =>
    IO.eprint ("error: the arguments make no sense\n\n" ++ helpText (← processors))
    return UInt32.ofNat usageStatus
  | some .version => tell (inform (← environment) versionText)
  | some .help => tell (inform (← environment) (helpText (← processors)))
  | some (.check path a) => check path a
