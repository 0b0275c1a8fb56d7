/-!
# Connection state

What the client shows of its connection: the state, which also covers the time between two
attempts, and the status, which only says whether there is a connection.
-/

namespace Parley.Connection

inductive State where
  | connected
  | disconnected
  /-- Waiting for an attempt, with the seconds left until it starts. -/
  | reconnecting (attempt secondsRemaining : Nat)
  | failed (message : String)
deriving DecidableEq, Repr

def State.isConnected : State → Bool
  | .connected => true
  | _ => false

/-- What is published when a connection opens or is given up. -/
structure Status where
  connected : Bool
  /-- A connection of the same client was open before. -/
  isRenewal : Bool
deriving DecidableEq, Repr

def Status.down : Status :=
  ⟨false, false⟩

/-- Shown between a fault of the connection and its end. -/
def connectionErrorMessage : String :=
  "connection error"

/-- Shown once all attempts have failed. -/
def exhaustedMessage (attempts : Nat) : String :=
  "Unable to reconnect after " ++ toString attempts ++
    " attempts. Please reconnect manually."

end Parley.Connection
