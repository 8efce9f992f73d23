import WorkspaceSchema.Duration
import WorkspaceSchema.Text.Blank
import WorkspaceSchema.Text.Quoted

/-!
# Reading durations

A duration is written as a sum of numbers with units, such as `1h 30min` or `2.5s`.  Blanks may
stand anywhere but inside the name of a unit.  A fraction has to come out even in the steps of its
unit: nanoseconds for units up to minutes, seconds for longer ones.

The text is read one character at a time; `State` says what the reader is in the middle of.  A
refusal points at a byte.
-/

namespace WorkspaceSchema.Duration

/-- Why a text is no duration. -/
inductive Fault where
  | empty
  | numberExpected (offset : Nat)
  | invalidCharacter (offset : Nat)
  | overflow
  | unknownUnit (unit : String) (value : Nat)
deriving DecidableEq, Repr

/-- A fault in words. -/
def Fault.message : Fault → String
  | .empty => "value was empty"
  | .numberExpected offset => "expected number at " ++ String.ofList (Nat.toDigits 10 offset)
  | .invalidCharacter offset => "invalid character at " ++ String.ofList (Nat.toDigits 10 offset)
  | .overflow =>
    "number is too large or cannot be represented without a lack of precision "
      ++ "(values below 1ns are not supported)"
  | .unknownUnit unit value =>
    if unit = "" then
      let number := String.ofList (Nat.toDigits 10 value)
      "time unit needed, for example " ++ number ++ "sec or " ++ number ++ "ms"
    else
      "unknown time unit " ++ Text.quoted unit
        ++ ", supported units: ns, us/µs, ms, sec, min, hours, days, weeks, months, years "
        ++ "(and few variations)"

/-- A unit: its nanoseconds, and those of the steps in which whole numbers of it and fractions of it
are counted. -/
structure Unit where
  size : Nat
  step : Nat
  fractionStep : Nat
deriving DecidableEq, Repr

/-- The units by their names.  A month is 30.44 days and a year 365.25. -/
def units : List (List String × Unit) :=
  [(["nanos", "nsec", "ns"], ⟨1, 1, 1⟩),
   (["usec", "us", "µs"], ⟨1000, 1, 1⟩),
   (["millis", "msec", "ms"], ⟨1000000, 1, 1⟩),
   (["seconds", "second", "secs", "sec", "s"], ⟨perSecond, perSecond, 1⟩),
   (["minutes", "minute", "min", "mins", "m"], ⟨60 * perSecond, perSecond, 1⟩),
   (["hours", "hour", "hrs", "hr", "h"], ⟨3600 * perSecond, perSecond, perSecond⟩),
   (["days", "day", "d"], ⟨86400 * perSecond, perSecond, perSecond⟩),
   (["weeks", "week", "wks", "wk", "w"], ⟨604800 * perSecond, perSecond, perSecond⟩),
   (["months", "month", "M"], ⟨2630016 * perSecond, perSecond, perSecond⟩),
   (["years", "year", "yrs", "yr", "y"], ⟨31557600 * perSecond, perSecond, perSecond⟩)]

/-- The unit of a name. -/
def unit? (name : String) : Option Unit :=
  (units.find? fun u => u.1.contains name).map (·.2)

/-- The numbers that are counted with. -/
def word : Nat := 18446744073709551616

/-- A number that is small enough to be counted with. -/
def counted (n : Nat) : Except Fault Nat :=
  if n < word then .ok n else .error .overflow

/-- A character of the name of a unit. -/
def isUnitChar (c : Char) : Bool :=
  ('a' ≤ c && c ≤ 'z') || ('A' ≤ c && c ≤ 'Z') || c = 'µ'

/-- The value of a decimal digit. -/
def digit? (c : Char) : Option Nat :=
  if '0' ≤ c && c ≤ '9' then some (c.toNat - 48) else none

/-- A fraction: so many parts of so many. -/
structure Fraction where
  parts : Nat
  whole : Nat
deriving DecidableEq, Repr

/-- What the reader is in the middle of, with the sum so far. -/
inductive State where
  /-- A number has to follow, or the end unless nothing has been read. -/
  | expecting (first : Bool)
  /-- Inside the digits of a number. -/
  | number (n : Nat)
  /-- Inside the digits after a point; `mark` is where a fault would be. -/
  | fraction (n : Nat) (f : Fraction) (mark : Nat)
  /-- Inside the name of a unit, whose characters are kept backwards. -/
  | unit (n : Nat) (f : Option Fraction) (name : List Char)

/-- Adds `count` steps to a sum. -/
def addSteps (sum count step : Nat) : Except Fault Nat := do
  let _ ← counted (sum % perSecond + (if step = 1 then count else 0))
  let total := sum + count * step
  if total ≤ maximum.nanoseconds then return total else .error .overflow

/-- Adds a fraction of a unit to a sum. -/
def addFraction (sum : Nat) (u : Unit) (f : Fraction) : Except Fault Nat := do
  if u.size = 1 then .error .overflow
  else
    let scaled ← counted (f.parts * (u.size / u.fractionStep))
    if scaled % f.whole = 0 then addSteps sum (scaled / f.whole) u.fractionStep
    else .error .overflow

/-- Adds a number of units to a sum. -/
def addUnits (sum : Nat) (n : Nat) (f : Option Fraction) (name : List Char) : Except Fault Nat :=
  match unit? (String.ofList name) with
  | none => .error (.unknownUnit (String.ofList name) n)
  | some u => do
    let count ← counted (n * (u.size / u.step))
    let sum ← addSteps sum count u.step
    match f with
    | none => return sum
    | some f => addFraction sum u f

/-- Ends a fraction, which needs a digit. -/
def endFraction (f : Fraction) (mark : Nat) : Except Fault (Option Fraction) :=
  if f.whole = 1 then .error (.invalidCharacter mark) else .ok (some f)

/-- Reads the character `c` at `offset`. -/
def readChar (offset : Nat) (c : Char) (sum : Nat) : State → Except Fault (Nat × State)
  | .expecting first =>
    match digit? c with
    | some d => .ok (sum, .number d)
    | none => if Text.isBlank c then .ok (sum, .expecting first) else .error (.numberExpected offset)
  | .number n =>
    match digit? c with
    | some d => (counted (n * 10 + d)).map fun n => (sum, .number n)
    | none =>
      if Text.isBlank c then .ok (sum, .number n)
      else if isUnitChar c then .ok (sum, .unit n none [c])
      else if c = '.' then .ok (sum, .fraction n ⟨0, 1⟩ offset)
      else .error (.invalidCharacter offset)
  | .fraction n f mark =>
    match digit? c with
    | some d => do
      let parts ← counted (f.parts * 10 + d)
      let whole ← counted (f.whole * 10)
      return (sum, .fraction n ⟨parts, whole⟩ (offset + c.utf8Size))
    | none =>
      if Text.isBlank c then .ok (sum, .fraction n f (offset + c.utf8Size))
      else if isUnitChar c then (endFraction f mark).map fun f => (sum, .unit n f [c])
      else .error (.invalidCharacter mark)
  | .unit n f name =>
    match digit? c with
    | some d => (addUnits sum n f name.reverse).map fun sum => (sum, .number d)
    | none =>
      if Text.isBlank c then (addUnits sum n f name.reverse).map fun sum => (sum, .expecting false)
      else if isUnitChar c then .ok (sum, .unit n f (c :: name))
      else .error (.invalidCharacter offset)

/-- The sum at the end of the text. -/
def atEnd (sum : Nat) : State → Except Fault Nat
  | .expecting first => if first then .error .empty else .ok sum
  | .number n => addUnits sum n none []
  | .fraction n f mark => do addUnits sum n (← endFraction f mark) []
  | .unit n f name => addUnits sum n f name.reverse

/-- Reads the rest of a text. -/
def readFrom (offset sum : Nat) (state : State) : List Char → Except Fault Nat
  | [] => atEnd sum state
  | c :: rest => do
    let (sum, state) ← readChar offset c sum state
    readFrom (offset + c.utf8Size) sum state rest

/-- Reads a duration.  A lone zero needs no unit. -/
def parse (text : String) : Except Fault Duration :=
  if text = "0" then .ok ⟨0⟩
  else (readFrom 0 0 (.expecting true) text.toList).map fun n => ⟨n⟩

end WorkspaceSchema.Duration
