import EscapeAudit.Toml.Datum

/-!
# Sections

A document is built by setting one key after another.  A key with dots makes a section for each of
its parts but the last, and so does a header.  A section is *implicit* as long as only headers or
keys behind it have named it, and *dotted* when a key with dots made it.

A key cannot be set twice.  A key with dots can only go through sections that keys with dots have
made.  A header can name a section once, and only if no key with dots has made it.
-/

namespace EscapeAudit.Toml

mutual

/-- What a key stands for while a document is built. -/
inductive Item where
  /-- A value. -/
  | value (d : Datum)
  /-- A section. -/
  | sub (s : Section)
  /-- Sections of one name, last first. -/
  | series (sections : List Section)

/-- A section while a document is built. -/
inductive Section where
  /-- A section with its marks and its keys. -/
  | mk (implicit dotted : Bool) (fields : List (String × Item))

end

namespace Section

/-- No keys. -/
def empty : Section := .mk false false []

/-- Whether only headers or keys behind it have named it. -/
def implicit : Section → Bool
  | mk i _ _ => i

/-- Whether a key with dots has made it. -/
def dotted : Section → Bool
  | mk _ d _ => d

/-- The keys. -/
def fields : Section → List (String × Item)
  | mk _ _ fs => fs

/-- The section with other keys. -/
def withFields (s : Section) (fs : List (String × Item)) : Section := .mk s.implicit s.dotted fs

/-- Keys with one of them set. -/
def setField (key : String) (item : Item) : List (String × Item) → List (String × Item)
  | [] => [(key, item)]
  | (k, old) :: rest => if k == key then (k, item) :: rest else (k, old) :: setField key item rest

/-- The section with a key set. -/
def set (s : Section) (key : String) (item : Item) : Section :=
  s.withFields (setField key item s.fields)

/-- Sets a key with dots.  `inner` says that an earlier part of the key led here. -/
def insert? (d : Datum) : (inner : Bool) → List String → Section → Option Section
  | _, [], _ => none
  | inner, [key], s =>
    if s.dotted != inner || (s.fields.lookup key).isSome then none else some (s.set key (.value d))
  | _, key :: rest, s =>
    match s.fields.lookup key with
    | none => (insert? d true rest (.mk true true [])).map fun t => s.set key (.sub t)
    | some (.sub t) =>
      if t.implicit then (insert? d true rest t).map fun t => s.set key (.sub t) else none
    | some (.series (t :: before)) =>
      (insert? d true rest t).map fun t => s.set key (.series (t :: before))
    | _ => none

/-- Changes the section that headers lead to, and makes sections on the way. -/
def update? (change : Section → Option Section) : List String → Section → Option Section
  | [], s => change s
  | key :: rest, s =>
    match s.fields.lookup key with
    | none => (update? change rest (.mk true false [])).map fun t => s.set key (.sub t)
    | some (.sub t) => (update? change rest t).map fun t => s.set key (.sub t)
    | some (.series (t :: before)) =>
      (update? change rest t).map fun t => s.set key (.series (t :: before))
    | _ => none

/-- Names a section by a header. -/
def open? (key : String) (s : Section) : Option Section :=
  match s.fields.lookup key with
  | none => some (s.set key (.sub empty))
  | some (.sub t) =>
    if t.implicit && !t.dotted then some (s.set key (.sub (.mk false false t.fields))) else none
  | _ => none

/-- Begins one more section of a series by a header. -/
def openNext? (key : String) (s : Section) : Option Section :=
  match s.fields.lookup key with
  | none => some (s.set key (.series [empty]))
  | some (.series sections) => some (s.set key (.series (empty :: sections)))
  | _ => none

end Section

mutual

/-- The value of a section. -/
def Section.datum : Section → Datum
  | .mk _ _ fields => .table (fieldData fields)

/-- The value of what a key stands for. -/
def Item.datum : Item → Datum
  | .value d => d
  | .sub s => s.datum
  | .series sections => .list (sectionData sections).reverse

/-- The values of keys. -/
def fieldData : List (String × Item) → List (String × Datum)
  | [] => []
  | (key, item) :: rest => (key, item.datum) :: fieldData rest

/-- The values of sections. -/
def sectionData : List Section → List Datum
  | [] => []
  | s :: rest => s.datum :: sectionData rest

end

end EscapeAudit.Toml
