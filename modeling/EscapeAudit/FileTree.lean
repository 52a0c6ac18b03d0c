import EscapeAudit.Path

/-!
# File trees

The files that the program can see, as a value.  A path is looked up segment by segment from the
working directory, or from the root if it begins with a slash.  A segment that is empty or `.`
stays in place, and `..` goes up.  Every segment but the first needs a directory before it, so a
slash behind the name of a file does not name that file.

The working directory has a text of its own in absolute paths.
-/

namespace EscapeAudit

/-- A file or a directory. -/
inductive FileNode where
  /-- A file with its bytes. -/
  | file (content : ByteArray)
  /-- A directory with its entries. -/
  | directory (entries : List (String × FileNode))

namespace FileNode

/-- The entries of a directory.  A file has none. -/
def entries : FileNode → List (String × FileNode)
  | file _ => []
  | directory entries => entries

/-- What stands below a node under a list of names. -/
def get? : FileNode → List String → Option FileNode
  | node, [] => some node
  | node, name :: rest =>
    match node.entries.lookup name with
    | some inner => inner.get? rest
    | none => none

/-- Entries with one of them set.  An entry of a new name comes last. -/
def setEntry (name : String) (node : FileNode) :
    List (String × FileNode) → List (String × FileNode)
  | [] => [(name, node)]
  | (other, old) :: rest =>
    if other == name then (name, node) :: rest else (other, old) :: setEntry name node rest

/-- Puts a node below another one.  Directories on the way are made. -/
def put : FileNode → List String → FileNode → FileNode
  | _, [], new => new
  | node, name :: rest, new =>
    let inner := (node.entries.lookup name).getD (.directory [])
    .directory (setEntry name (inner.put rest new) node.entries)

/-- The files of a list of entries below a directory, and with `deep` those of inner directories. -/
def filesOf (deep : Bool) (parent : Path) : List (String × FileNode) → List Path
  | [] => []
  | (name, .file _) :: rest => parent.child name :: filesOf deep parent rest
  | (name, .directory inner) :: rest =>
    (if deep then filesOf deep (parent.child name) inner else []) ++ filesOf deep parent rest

end FileNode

/-- Why a file cannot be used. -/
inductive FileFault where
  /-- Nothing has this name. -/
  | notFound
  /-- A directory is needed where a file is. -/
  | notDirectory
  /-- A file is needed where a directory is. -/
  | isDirectory
  /-- A name has more bytes than a name can have. -/
  | nameTooLong
  /-- A name holds a character that no name can hold. -/
  | badName
  /-- The bytes are no text. -/
  | notText
  deriving DecidableEq, Repr

/-- The text of a fault. -/
def FileFault.message : FileFault → String
  | notFound => "No such file or directory (os error 2)"
  | notDirectory => "Not a directory (os error 20)"
  | isDirectory => "Is a directory (os error 21)"
  | nameTooLong => "File name too long (os error 36)"
  | badName => "file name contained an unexpected NUL byte"
  | notText => "stream did not contain valid UTF-8"

/-- The files that the program can see. -/
structure FileTree where
  /-- The names from the root to the working directory. -/
  home : List String
  /-- The text of the working directory in absolute paths. -/
  homeText : String
  /-- The root. -/
  root : FileNode

namespace FileTree

/-- A tree without files, with nothing but the working directory. -/
def empty (home : List String) (homeText : String) : FileTree :=
  ⟨home, homeText, (FileNode.directory []).put home (.directory [])⟩

/-- The largest number of bytes of a name. -/
def nameLimit : Nat := 255

/-- The number of bytes that a path has to stay below. -/
def pathLimit : Nat := 4096

/-- Goes along segments from the place with the given names, which are in reverse. -/
def locateFrom (t : FileTree) : (place : List String) → List String → Except FileFault (List String)
  | place, [] => .ok place.reverse
  | place, segment :: rest =>
    match t.root.get? place.reverse with
    | some (.directory entries) =>
      if segment == "" || segment == "." then t.locateFrom place rest
      else if segment == ".." then t.locateFrom place.tail rest
      else if nameLimit < segment.utf8ByteSize then .error .nameTooLong
      else if (entries.lookup segment).isSome then t.locateFrom (segment :: place) rest
      else .error .notFound
    | _ => .error .notDirectory

/-- The place where the lookup of a path begins, in reverse, and the segments to go. -/
def beginning (t : FileTree) (p : Path) : List String × List String :=
  match Text.splitAt '/' p.text with
  | "" :: rest => ([], rest)
  | segments => (t.home.reverse, segments)

/-- Why a text cannot be a path, if it cannot. -/
def pathFault? (p : Path) : Option FileFault :=
  if p.text.toList.contains '\x00' then some .badName
  else if p.text == "" then some .notFound
  else if pathLimit ≤ p.text.utf8ByteSize then some .nameTooLong
  else none

/-- The names from the root to what a path stands for. -/
def locate (t : FileTree) (p : Path) : Except FileFault (List String) :=
  match pathFault? p with
  | some fault => .error fault
  | none =>
    let (place, segments) := t.beginning p
    t.locateFrom place segments

/-- What a path stands for. -/
def node? (t : FileTree) (p : Path) : Option FileNode :=
  match t.locate p with
  | .ok names => t.root.get? names
  | .error _ => none

/-- Whether a path stands for a directory. -/
def isDirectory (t : FileTree) (p : Path) : Bool :=
  match t.node? p with
  | some (.directory _) => true
  | _ => false

/-- The absolute path to names below the root. -/
def absolute (t : FileTree) (names : List String) : Path :=
  if t.home.isPrefixOf names then
    ⟨Text.joinWith "/" (t.homeText :: names.drop t.home.length)⟩
  else ⟨"/" ++ Text.joinWith "/" names⟩

/-- The bytes of a file. -/
def read (t : FileTree) (p : Path) : Except FileFault ByteArray := do
  let names ← t.locate p
  match t.root.get? names with
  | some (.file content) => .ok content
  | some (.directory _) => .error .isDirectory
  | none => .error .notFound

/-- The text of a file. -/
def readText (t : FileTree) (p : Path) : Except FileFault String := do
  match String.fromUTF8? (← t.read p) with
  | some text => .ok text
  | none => .error .notText

/-- Puts a file below the root.  Directories on the way are made. -/
def putFile (t : FileTree) (names : List String) (content : ByteArray) : FileTree :=
  { t with root := t.root.put names (.file content) }

/-- Makes a directory with the directories on the way to it. -/
def putDirectory (t : FileTree) (names : List String) : FileTree :=
  match t.root.get? names with
  | some _ => t
  | none => { t with root := t.root.put names (.directory []) }

/-- Writes a file with a name in a directory.  With `slashed` there is a slash behind the name,
and then it cannot name a file. -/
def writeIn (t : FileTree) (content : ByteArray) (parent : List String) (name : String)
    (slashed : Bool) : Except FileFault FileTree :=
  match t.root.get? parent with
  | some (.directory entries) =>
    if name == "." || name == ".." || slashed then .error .isDirectory
    else if nameLimit < name.utf8ByteSize then .error .nameTooLong
    else
      match entries.lookup name with
      | some (.directory _) => .error .isDirectory
      | _ => .ok (t.putFile (parent ++ [name]) content)
  | _ => .error .notDirectory

/-- Writes a file.  It may exist or not, but its directory has to exist. -/
def write (t : FileTree) (p : Path) (content : ByteArray) : Except FileFault FileTree :=
  match pathFault? p with
  | some fault => .error fault
  | none =>
    let (place, segments) := t.beginning p
    match segments.reverse.dropWhile (· == "") with
    | [] => .error .isDirectory
    | name :: before => do
      let parent ← t.locateFrom place before.reverse
      t.writeIn content parent name (segments.getLast? == some "")

/-- The files below a directory. -/
def files (t : FileTree) (deep : Bool) (p : Path) : List Path :=
  match t.node? p with
  | some (.directory entries) => FileNode.filesOf deep p entries
  | _ => []

end FileTree

end EscapeAudit
