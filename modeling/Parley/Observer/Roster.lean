/-!
# Observer rosters

Observers of one kind of value, in the order of their registration. A roster that retains its
values hands the one published last to every new observer.
-/

namespace Parley.Observer

/-- The observers, each under a number of its own, and the value published last. -/
structure Roster (κ α : Type) where
  next : Nat
  entries : List (Nat × κ)
  current : Option α
deriving DecidableEq, Repr

namespace Roster

variable {κ α : Type}

def ofCurrent (current : Option α) : Roster κ α :=
  ⟨0, [], current⟩

/-- The roster with a further observer, and the number that the observer has. -/
def subscribe (observer : κ) (roster : Roster κ α) : Roster κ α × Nat :=
  ({ roster with
      next := roster.next + 1
      entries := roster.entries ++ [(roster.next, observer)] }, roster.next)

def unsubscribe (number : Nat) (roster : Roster κ α) : Roster κ α :=
  { roster with entries := roster.entries.filter (·.1 ≠ number) }

def retain (value : α) (roster : Roster κ α) : Roster κ α :=
  { roster with current := some value }

/-- The observers that a dispatch reaches if it starts now, in order. -/
def observers (roster : Roster κ α) : List κ :=
  roster.entries.map (·.2)

end Roster

end Parley.Observer
