import EscapeAudit.Event.Journal

/-!
# Values with entries

`Told α` is a value together with the entries that were left for the journal on the way to it.
Doing one thing after another puts the entries one after another.
-/

namespace EscapeAudit

/-- A value with what the journal is told on the way to it. -/
structure Told (α : Type) where
  /-- The value. -/
  value : α
  /-- The entries in order. -/
  entries : List Entry

namespace Told

variable {α β : Type}

/-- A value without a word. -/
def silent (value : α) : Told α := ⟨value, []⟩

/-- Goes on with a value. -/
def andThen (x : Told α) (f : α → Told β) : Told β :=
  let y := f x.value
  ⟨y.value, x.entries ++ y.entries⟩

instance : Monad Told where
  pure := silent
  bind := andThen

/-- Leaves entries. -/
def tell (entries : List Entry) : Told Unit := ⟨(), entries⟩

/-- Leaves a note. -/
def note (n : Note) : Told Unit := tell [.note n]

@[simp] theorem value_pure (a : α) : (pure a : Told α).value = a := rfl

@[simp] theorem value_bind (x : Told α) (f : α → Told β) :
    (x >>= f).value = (f x.value).value := rfl

@[simp] theorem entries_bind (x : Told α) (f : α → Told β) :
    (x >>= f).entries = x.entries ++ (f x.value).entries := rfl

end Told

/-- Leaves a note about an error and ends with it. -/
def refuse {ε α : Type} (e : ε) (n : Note) : ExceptT ε Told α := do
  (Told.note n : Told Unit)
  throw e

end EscapeAudit
