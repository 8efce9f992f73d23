/-!
# Durations

A duration is a number of nanoseconds.  It is shown in the largest unit in which it is at least one,
with as many decimals as it needs.
-/

namespace WorkspaceSchema

/-- A length of time. -/
structure Duration where
  nanoseconds : Nat
deriving DecidableEq, Repr, Inhabited

namespace Duration

/-- The nanoseconds of a second. -/
def perSecond : Nat := 1000000000

/-- A number of seconds. -/
def ofSeconds (n : Nat) : Duration :=
  ⟨n * perSecond⟩

/-- A number of milliseconds. -/
def ofMilliseconds (n : Nat) : Duration :=
  ⟨n * 1000000⟩

/-- The whole seconds. -/
def seconds (d : Duration) : Nat :=
  d.nanoseconds / perSecond

/-- The nanoseconds beyond the whole seconds. -/
def subseconds (d : Duration) : Nat :=
  d.nanoseconds % perSecond

/-- Whether the duration is no time at all. -/
def isZero (d : Duration) : Bool :=
  d.nanoseconds = 0

/-- The longest duration: its seconds still fit 64 bits. -/
def maximum : Duration :=
  ⟨18446744073709551616 * perSecond - 1⟩

/-- Decimals: `n` in `width` digits, without the zeros at its end. -/
def decimals (width n : Nat) : List Char :=
  let digits := Nat.toDigits 10 n
  let padded := List.replicate (width - digits.length) '0' ++ digits
  (padded.reverse.dropWhile (· = '0')).reverse

/-- A multiple of a unit of `10 ^ width` nanoseconds, with the name of the unit. -/
def inUnit (width : Nat) (name : String) (nanoseconds : Nat) : String :=
  let size := Nat.pow 10 width
  let fraction := decimals width (nanoseconds % size)
  String.ofList (Nat.toDigits 10 (nanoseconds / size)
    ++ (if fraction.isEmpty then [] else '.' :: fraction)) ++ name

/-- A duration in words. -/
def describe (d : Duration) : String :=
  if perSecond ≤ d.nanoseconds then inUnit 9 "s" d.nanoseconds
  else if 1000000 ≤ d.nanoseconds then inUnit 6 "ms" d.nanoseconds
  else if 1000 ≤ d.nanoseconds then inUnit 3 "µs" d.nanoseconds
  else inUnit 0 "ns" d.nanoseconds

end Duration

end WorkspaceSchema
