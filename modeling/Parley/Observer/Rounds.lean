import Parley.Observer.Roster

/-!
# Rounds through a roster

A value goes to observers in a round, which calls one after the other those that were registered as
it began. An observer that is called may do anything to the roster before it comes back, and so
begin further rounds inside its call. Nothing is said about what observers do: moves come in any
order that the rounds under way allow.
-/

namespace Parley.Observer

structure Round (κ α : Type) where
  serial : Nat
  value : α
  /-- The observers that are still to be called, each with its number. -/
  waiting : List (Nat × κ)
  /-- The observer called last has not come back. -/
  isCalling : Bool
deriving DecidableEq, Repr

structure Call (κ α : Type) where
  round : Nat
  number : Nat
  observer : κ
  value : α
deriving DecidableEq, Repr

/-- A roster with the rounds under way. -/
structure Rounds (κ α : Type) where
  roster : Roster κ α
  /-- The rounds under way, the innermost one first. -/
  underWay : List (Round κ α)
  /-- How many rounds have begun, which is the serial number of the next one. -/
  begun : Nat
  /-- The calls made so far, in order. -/
  calls : List (Call κ α)
deriving DecidableEq, Repr

/-- What the observer that is being called does, or somebody outside while none is, and how the
innermost round goes on. -/
inductive Move (κ α : Type) where
  | subscribe (observer : κ)
  /-- The observer of a number that was given out is removed. -/
  | unsubscribe (number : Nat)
  | emit (value : α)
  | publish (value : α)
  /-- The innermost round calls the next of its observers. -/
  | call
  /-- The observer that is being called comes back. -/
  | comeBack
  /-- The innermost round has called all its observers. -/
  | finish
deriving DecidableEq, Repr

namespace Rounds

variable {κ α : Type}

def ofCurrent (current : Option α) : Rounds κ α :=
  ⟨.ofCurrent current, [], 0, []⟩

/-- An observer is being called, or no round is under way. -/
def isFree (rounds : Rounds κ α) : Bool :=
  rounds.underWay.head?.all (·.isCalling)

/-- A further round begins inside those under way. -/
def launch (value : α) (audience : List (Nat × κ)) (rounds : Rounds κ α) : Rounds κ α :=
  { rounds with
    underWay := ⟨rounds.begun, value, audience, false⟩ :: rounds.underWay
    begun := rounds.begun + 1 }

/-- The rounds after a move, if it is one that they allow. -/
def step (rounds : Rounds κ α) : Move κ α → Option (Rounds κ α)
  | .subscribe observer =>
      if rounds.isFree then
        let (roster, number) := rounds.roster.subscribe observer
        match roster.current with
        | some value => some (launch value [(number, observer)] { rounds with roster })
        | none => some { rounds with roster }
      else none
  | .unsubscribe number =>
      if rounds.isFree ∧ number < rounds.roster.next then
        some { rounds with roster := rounds.roster.unsubscribe number }
      else none
  | .emit value =>
      if rounds.isFree then some (launch value rounds.roster.entries rounds) else none
  | .publish value =>
      if rounds.isFree then
        some (launch value rounds.roster.entries
          { rounds with roster := rounds.roster.retain value })
      else none
  | .call =>
      match rounds.underWay with
      | ⟨serial, value, (number, observer) :: waiting, false⟩ :: outer =>
          some { rounds with
            underWay := ⟨serial, value, waiting, true⟩ :: outer
            calls := rounds.calls ++ [⟨serial, number, observer, value⟩] }
      | _ => none
  | .comeBack =>
      match rounds.underWay with
      | ⟨serial, value, waiting, true⟩ :: outer =>
          some { rounds with underWay := ⟨serial, value, waiting, false⟩ :: outer }
      | _ => none
  | .finish =>
      match rounds.underWay with
      | ⟨_, _, [], false⟩ :: outer => some { rounds with underWay := outer }
      | _ => none

def run : Rounds κ α → List (Move κ α) → Option (Rounds κ α)
  | rounds, [] => some rounds
  | rounds, move :: rest => (rounds.step move).bind (run · rest)

def callsOf (serial : Nat) (rounds : Rounds κ α) : List (Call κ α) :=
  rounds.calls.filter (·.round = serial)

end Rounds

/-! ## What moves amount to -/

section History

variable {κ α : Type}

def Move.subscribed? : Move κ α → Option κ
  | .subscribe observer => some observer
  | _ => none

def Move.unsubscribed? : Move κ α → Option Nat
  | .unsubscribe number => some number
  | _ => none

def Move.published? : Move κ α → Option α
  | .publish value => some value
  | _ => none

/-- The observers that have subscribed, in order. The first one has the number zero. -/
def subscribed (moves : List (Move κ α)) : List κ :=
  moves.filterMap Move.subscribed?

def unsubscribed (moves : List (Move κ α)) : List Nat :=
  moves.filterMap Move.unsubscribed?

/-- The observers that have subscribed and were not unsubscribed since, in order. -/
def registered (moves : List (Move κ α)) : List (Nat × κ) :=
  ((subscribed moves).zipIdx.map Prod.swap).filter (·.1 ∉ unsubscribed moves)

/-- The value of the publication that began last, or else the one that there was at first. -/
def retained (current : Option α) (moves : List (Move κ α)) : Option α :=
  (moves.filterMap Move.published?).getLast?.or current

/-- The value of the round that a move begins, if it begins one, and whom the round has to call. -/
def audience? (current : Option α) (before : List (Move κ α)) :
    Move κ α → Option (α × List (Nat × κ))
  | .subscribe observer =>
      (retained current before).map fun value =>
        (value, [((subscribed before).length, observer)])
  | .emit value => some (value, registered before)
  | .publish value => some (value, registered before)
  | _ => none

end History

end Parley.Observer
