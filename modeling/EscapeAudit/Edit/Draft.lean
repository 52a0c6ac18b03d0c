import EscapeAudit.Edit.Basic
import EscapeAudit.Event.Journal
import EscapeAudit.Token.Stream

/-!
# Drafts

A draft is a stream with the edits that were accepted so far.  A changeset is refused when it has
no edits, when an edit is about a token that does not exist, or when it replaces a token that is
already replaced, be it by an earlier changeset or by an earlier edit of its own.  The first such
edit gives the reason.  A refused changeset leaves no trace but the count.

Texts put before one token stand in the reverse of the order in which they came, and texts put
behind it stand in that order, so a later pair of insertions encloses an earlier one.
-/

namespace EscapeAudit

/-- The changes at one token. -/
structure Patch where
  /-- The text before the token. -/
  before : String
  /-- The text in place of the token's own. -/
  replacement : Option String
  /-- The text behind the token. -/
  after : String
  deriving DecidableEq, Repr, Inhabited

namespace Patch

/-- No changes. -/
def none : Patch := ⟨"", Option.none, ""⟩

/-- One more change. -/
def add (p : Patch) : Edit → Patch
  | .insertBefore _ text => { p with before := text ++ p.before }
  | .insertAfter _ text => { p with after := p.after ++ text }
  | .replace _ text => { p with replacement := some text }

/-- The token with its changes. -/
def apply (p : Patch) (token : String) : String :=
  p.before ++ p.replacement.getD token ++ p.after

end Patch

/-- Why a changeset is refused. -/
inductive Refusal where
  /-- It has no edits. -/
  | empty
  /-- An edit is about a token that does not exist. -/
  | outOfRange (token size : Nat)
  /-- It replaces a token that is already replaced. -/
  | conflict (token : Nat)
  deriving DecidableEq, Repr

namespace Refusal

/-- The code of every refusal. -/
def code (_ : Refusal) : Code := .changesetRejected

/-- The text of a refusal. -/
def message : Refusal → String
  | empty => "Changeset has no edits"
  | outOfRange token size => s!"Edit targets token {token} but the stream has {size} tokens"
  | conflict token => s!"Token {token} is already replaced by another changeset"

end Refusal

/-- A stream with the edits accepted so far. -/
structure Draft where
  /-- The stream, which never changes. -/
  stream : Stream
  /-- The changes at each token. -/
  patches : Array Patch
  /-- The number of accepted changesets. -/
  applied : Nat
  /-- The number of refused changesets. -/
  rejected : Nat
  deriving DecidableEq, Repr

namespace Draft

/-- A stream without edits. -/
def ofStream (s : Stream) : Draft :=
  ⟨s, Array.replicate s.size .none, 0, 0⟩

/-- The first reason to refuse edits, behind edits that replaced the given tokens. -/
def refusalFrom (d : Draft) : List Edit → (replaced : List Nat) → Option Refusal
  | [], _ => none
  | e :: rest, replaced =>
    match d.patches[e.token]? with
    | none => some (.outOfRange e.token d.patches.size)
    | some patch =>
      match e with
      | .replace token _ =>
        if patch.replacement.isSome || replaced.contains token then some (.conflict token)
        else d.refusalFrom rest (token :: replaced)
      | _ => d.refusalFrom rest replaced

/-- Why a changeset is refused, if it is. -/
def refusal? (d : Draft) (c : Changeset) : Option Refusal :=
  match c.edits with
  | [] => some .empty
  | edits => d.refusalFrom edits []

/-- The changes at each token with one more. -/
def patched (patches : Array Patch) (e : Edit) : Array Patch :=
  patches.modify e.token (Patch.add · e)

/-- Takes a changeset. -/
def submit (d : Draft) (c : Changeset) : Draft :=
  match d.refusal? c with
  | some _ => { d with rejected := d.rejected + 1 }
  | none => { d with patches := c.edits.foldl patched d.patches, applied := d.applied + 1 }

/-- Takes changesets in order. -/
def submitAll (d : Draft) (changesets : List Changeset) : Draft :=
  changesets.foldl submit d

/-- Whether a changeset was accepted. -/
def changed (d : Draft) : Bool := d.applied != 0

/-- The text with all accepted edits. -/
def text (d : Draft) : String :=
  (d.stream.tokens.zip d.patches).foldl (fun acc (t, p) => acc ++ p.apply t.text) ""

/-- What the journal is told about a changeset. -/
def entry (d : Draft) (c : Changeset) : Entry :=
  match d.refusal? c with
  | some refusal =>
    .note (.error refusal.code "Changeset rejected" [("reason", .text refusal.message)])
  | none => .note (.debug "Changeset applied" [("edits", .nat c.edits.length)])

/-- What the journal is told about changesets taken in order. -/
def entries (d : Draft) (changesets : List Changeset) : List Entry :=
  (changesets.foldl (fun (d, done) c => (d.submit c, d.entry c :: done)) (d, [])).2.reverse

end Draft

end EscapeAudit
