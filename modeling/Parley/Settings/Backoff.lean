import Parley.Json.Decoder
import Parley.Number.Word

/-!
# Backoff

How long to wait before the next attempt to connect: the delay doubles with every attempt up to a
cap. A delay is shown as the whole seconds that cover it.
-/

namespace Parley.Settings

/-- Delays between attempts, in milliseconds, and how many attempts may fail in a row. -/
structure Backoff where
  baseDelay : Nat
  maxDelay : Nat
  attemptLimit : Nat
deriving DecidableEq, Repr

/-- The least number of whole seconds that covers so many milliseconds. -/
def wholeSeconds (milliseconds : Nat) : Nat :=
  (milliseconds + 999) / 1000

/-- The whole milliseconds of a duration, at most the greatest word. -/
def milliseconds (seconds nanoseconds : Nat) : Nat :=
  saturate (seconds * 1000 + nanoseconds / 1000000)

namespace Backoff

/-- One second at first, half a minute at most, ten attempts. -/
def standard : Backoff :=
  ⟨1000, 30000, 10⟩

/-- What the base delay is multiplied by: the power of two while it fits a word. -/
def factor (attempt : Nat) : Nat :=
  if attempt < 64 then Nat.pow 2 attempt else greatestWord

/-- The delay in milliseconds before an attempt, counted from zero. -/
def delay (backoff : Backoff) (attempt : Nat) : Nat :=
  min (saturate (backoff.baseDelay * factor attempt)) backoff.maxDelay

def record : Json.Record Backoff where
  start := standard
  fields := [
    .of "base_delay_ms" false (.natural greatestWord) fun baseDelay backoff =>
      { backoff with baseDelay },
    .of "max_delay_ms" false (.natural greatestWord) fun maxDelay backoff =>
      { backoff with maxDelay },
    .of "max_attempts" false (.natural greatestHalfWord) fun attemptLimit backoff =>
      { backoff with attemptLimit }]

def toJson (backoff : Backoff) : Json :=
  .object [
    ("base_delay_ms", .ofNat backoff.baseDelay),
    ("max_delay_ms", .ofNat backoff.maxDelay),
    ("max_attempts", .ofNat backoff.attemptLimit)]

end Backoff

end Parley.Settings
