/-!
# Clocks

There are two of them: the time of day, by which assertions are dated, and a steady clock, by which
tokens expire.  The steady clock counts seconds in 64 bits, and an addition that leaves them fails.
-/

namespace WorkspaceSchema

/-- The readings of both clocks. -/
structure Clock where
  /-- Seconds since 1970. -/
  day : Int
  /-- Seconds of the steady clock. -/
  steady : Int
deriving DecidableEq, Repr, Inhabited

namespace Clock

/-- The last reading of the steady clock. -/
def latest : Int := 9223372036854775807

/-- The reading of the steady clock after some seconds, if it has one. -/
def after? (c : Clock) (seconds : Nat) : Option Int :=
  let later := c.steady + seconds
  if later ≤ latest then some later else none

/-- Moves the steady clock. -/
def advance (c : Clock) (seconds : Int) : Clock :=
  { c with steady := c.steady + seconds }

end Clock

end WorkspaceSchema
