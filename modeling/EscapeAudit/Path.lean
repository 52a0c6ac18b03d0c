import EscapeAudit.Text.Basic

/-!
# Paths

A path is a text whose components stand between slashes.  Two paths are the same when they have
the same components, and they are ordered by their components one after another.  Repeated
slashes, a slash at the end and a `.` that is not at the beginning make no difference.  A path
keeps the spelling it was given, which is what messages show.
-/

namespace EscapeAudit

/-- A part of a path. -/
inductive Component where
  /-- The slash at the beginning of an absolute path. -/
  | root
  /-- A `.` at the beginning of a relative path. -/
  | current
  /-- `..`. -/
  | parent
  /-- A name. -/
  | normal (name : String)
  deriving DecidableEq, Repr

namespace Component

/-- The place of a component among the others before names are looked at. -/
def rank : Component → Nat
  | root => 0
  | current => 1
  | parent => 2
  | normal _ => 3

/-- The order of components: by rank, and names by their characters. -/
def compare : Component → Component → Ordering
  | normal a, normal b => if a < b then .lt else if b < a then .gt else .eq
  | a, b => Ord.compare a.rank b.rank

/-- The order of lists of components.  A beginning comes before what goes on. -/
def compareLists : List Component → List Component → Ordering
  | [], [] => .eq
  | [], _ :: _ => .lt
  | _ :: _, [] => .gt
  | a :: as, b :: bs => (compare a b).then (compareLists as bs)

end Component

/-- A path in the spelling it was given. -/
structure Path where
  /-- The spelling. -/
  text : String
  deriving DecidableEq, Repr, Inhabited

namespace Path

/-- The components of the pieces between slashes that are not the first. -/
def innerComponents (pieces : List String) : List Component :=
  pieces.filterMap fun piece =>
    if piece == "" || piece == "." then none
    else if piece == ".." then some .parent
    else some (.normal piece)

/-- The components of a path. -/
def components (p : Path) : List Component :=
  match Text.splitAt '/' p.text with
  | [] => []
  | first :: rest =>
    if p.text == "" then []
    else if first == "" then .root :: innerComponents rest
    else if first == "." then .current :: innerComponents rest
    else innerComponents (first :: rest)

/-- The order of paths. -/
def compare (p q : Path) : Ordering :=
  Component.compareLists p.components q.components

/-- Whether two paths have the same components. -/
def same (p q : Path) : Bool := p.components == q.components

/-- The name at the end of a path, if it ends in one. -/
def fileName? (p : Path) : Option String :=
  match p.components.getLast? with
  | some (.normal name) => some name
  | _ => none

/-- What stands behind the last dot of the name at the end.  A name whose only dot comes first has
no extension. -/
def extension? (p : Path) : Option String :=
  match p.fileName? with
  | none => none
  | some name =>
    let reversed := name.toList.reverse
    let after := reversed.takeWhile (· != '.')
    match reversed.drop after.length with
    | _ :: _ :: _ => some (String.ofList after.reverse)
    | _ => none

/-- A name below a directory. -/
def child (directory : Path) (name : String) : Path :=
  if directory.text == "" || directory.text.toList.getLast? == some '/' then
    ⟨directory.text ++ name⟩
  else ⟨directory.text ++ "/" ++ name⟩

end Path

/-- A map from paths in the order of the paths.  The first spelling of a path is kept. -/
abbrev PathMap (α : Type) := List (Path × α)

namespace PathMap

variable {α : Type}

/-- The value at a path. -/
def get? : PathMap α → Path → Option α
  | [], _ => none
  | (q, v) :: rest, p => if q.same p then some v else get? rest p

/-- Changes the value at a path.  A path that has none gets one. -/
def alter (change : Option α → α) (p : Path) : PathMap α → PathMap α
  | [] => [(p, change none)]
  | (q, v) :: rest =>
    match p.compare q with
    | .lt => (p, change none) :: (q, v) :: rest
    | .eq => (q, change (some v)) :: rest
    | .gt => (q, v) :: alter change p rest

/-- Sets the value at a path. -/
def insert (m : PathMap α) (p : Path) (v : α) : PathMap α :=
  m.alter (fun _ => v) p

end PathMap

end EscapeAudit
