import Parley.Settings.Backoff
import Parley.Wire.CloseCode

/-!
# Phases

Where a connection is in its life. The count of attempts that failed in a row lives in the phases
that have one, so that it is gone as soon as a connection opens.
-/

namespace Parley.Connection

/-- Why the client stopped dialling by itself. -/
inductive Halt where
  | manual
  | closed
  | rejected
  | exhausted
  | refused
deriving DecidableEq, Repr

inductive Phase where
  | idle
  /-- There is no token yet; the provider is asked again and again. -/
  | waitingForToken
  /-- A dial is under way, after so many failed ones. -/
  | connecting (attempts : Nat)
  | opened
  /-- Waiting for an attempt, with the seconds left until it starts. -/
  | backoff (attempt secondsRemaining : Nat)
  | halted (reason : Halt)
deriving DecidableEq, Repr

/-- What the end of a connection asks for. -/
inductive Aftermath where
  | halt (reason : Halt)
  /-- Dial again; at once if the token has changed. -/
  | retry (immediate : Bool)
deriving DecidableEq, Repr

/-- What comes of asking for a further attempt. -/
inductive Retry where
  | suppressed
  | exhausted
  | after (attempt delay : Nat)
deriving DecidableEq, Repr

def Aftermath.ofCode (code : Nat) : Aftermath :=
  if ! Wire.CloseCode.isTerminal code then .retry (code = Wire.CloseCode.tokenChanged)
  else if code = Wire.CloseCode.rejected then .halt .rejected
  else .halt .closed

namespace Phase

/-- The attempts that failed in a row. -/
def attempts : Phase → Nat
  | .connecting attempts => attempts
  | .backoff attempt _ => attempt
  | _ => 0

def hasHalted : Phase → Bool
  | .halted _ => true
  | _ => false

/-- A further attempt with its delay, unless the client has halted or too many have failed. -/
def nextAttempt (phase : Phase) (backoff : Settings.Backoff) : Retry :=
  if phase.hasHalted then .suppressed
  else if backoff.attemptLimit ≤ phase.attempts then .exhausted
  else .after (phase.attempts + 1) (backoff.delay phase.attempts)

/-- One second less until the attempt. -/
def tick : Phase → Phase
  | .backoff attempt seconds => .backoff attempt (seconds - 1)
  | phase => phase

def remaining? : Phase → Option (Nat × Nat)
  | .backoff attempt seconds => some (attempt, seconds)
  | _ => none

def launch : Phase → Phase
  | .backoff attempt _ => .connecting attempt
  | phase => phase

end Phase

end Parley.Connection
