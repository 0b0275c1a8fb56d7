/-!
# Backlog

Texts that wait for a connection, oldest first. A full backlog gives up its oldest text for the
newest one.
-/

namespace Parley.Connection

/-- At most `capacity` items, oldest first. -/
structure Backlog (α : Type) where
  items : List α
  capacity : Nat
deriving DecidableEq, Repr

namespace Backlog

variable {α : Type}

/-- An empty backlog. It has room for at least one item. -/
def ofCapacity (capacity : Nat) : Backlog α :=
  ⟨[], max capacity 1⟩

/-- The backlog with an item at its end, and the item that was evicted for it. -/
def push (backlog : Backlog α) (item : α) : Backlog α × Option α :=
  if backlog.items.length < backlog.capacity then
    ({ backlog with items := backlog.items ++ [item] }, none)
  else
    ({ backlog with items := backlog.items.drop 1 ++ [item] }, backlog.items.head?)

def clear (backlog : Backlog α) : Backlog α :=
  { backlog with items := [] }

/-- The first items, in order, and the backlog after them. All other items are lost too. -/
def drainSome (backlog : Backlog α) (count : Nat) : Backlog α × List α :=
  (backlog.clear, backlog.items.take count)

def drain (backlog : Backlog α) : Backlog α × List α :=
  (backlog.clear, backlog.items)

end Backlog

end Parley.Connection
