/-!
# Queues

A queue gives back first what came first.  It is kept as two lists, one in the order of leaving
and one in the reverse order of coming, so that taking and adding are cheap on average.
-/

namespace EscapeAudit

/-- A first-in, first-out queue. -/
structure Queue (α : Type) where
  /-- The items that leave first, in order. -/
  front : List α
  /-- The items behind them, last first. -/
  back : List α
  deriving Repr

namespace Queue

variable {α : Type}

/-- The items in the order of leaving. -/
def toList (q : Queue α) : List α := q.front ++ q.back.reverse

/-- A queue of one item. -/
def single (a : α) : Queue α := ⟨[a], []⟩

/-- The queue with items behind the last. -/
def pushAll (q : Queue α) (items : List α) : Queue α :=
  ⟨q.front, items.foldl (fun back a => a :: back) q.back⟩

/-- The first item and the rest of the queue. -/
def pop? (q : Queue α) : Option (α × Queue α) :=
  match q.front with
  | a :: front => some (a, ⟨front, q.back⟩)
  | [] =>
    match q.back.reverse with
    | a :: front => some (a, ⟨front, []⟩)
    | [] => none

theorem toList_single (a : α) : (single a).toList = [a] := rfl

theorem toList_pushAll (q : Queue α) (items : List α) :
    (q.pushAll items).toList = q.toList ++ items := by
  simp [toList, pushAll]

theorem pop?_eq_none_iff (q : Queue α) : q.pop? = none ↔ q.toList = [] := by
  obtain ⟨front, back⟩ := q
  cases front with
  | cons a front => simp [pop?, toList]
  | nil =>
    simp only [pop?, toList, List.nil_append]
    cases back.reverse <;> simp

theorem toList_of_pop? {q rest : Queue α} {a : α} (h : q.pop? = some (a, rest)) :
    q.toList = a :: rest.toList := by
  obtain ⟨front, back⟩ := q
  cases front with
  | cons b front =>
    simp only [pop?, Option.some.injEq, Prod.mk.injEq] at h
    obtain ⟨rfl, rfl⟩ := h
    rfl
  | nil =>
    simp only [pop?] at h
    cases hr : back.reverse with
    | nil => simp [hr] at h
    | cons b front =>
      simp only [hr, Option.some.injEq, Prod.mk.injEq] at h
      obtain ⟨rfl, rfl⟩ := h
      simp [toList, hr]

end Queue

end EscapeAudit
