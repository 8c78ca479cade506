import ClockSync.Numeric.Scalar

/-!
# A clock with an offset and a rate of its own

A served clock follows a raw clock of microseconds from an anchor on: it shows
the value at the anchor and the raw time since then, multiplied by the rate and
rounded to a whole number. Changing the offset or the rate first moves the
anchor to the present, so that the reading does not jump by it.
-/

namespace ClockSync

/-- A point of time on a raw clock, in seconds and nanoseconds. -/
structure Timespec where
  seconds : Int64
  nanoseconds : Int64
deriving DecidableEq, Repr

/-- The reading of the raw clock in microseconds; zero if it cannot be read. -/
def Timespec.micros? : Option Timespec → Int64
  | some t => t.seconds * 1000000 + t.nanoseconds / 1000
  | none => 0

/-- A clock that follows a raw one, its rate a number of the kind `α`. -/
structure ServedClock (α : Type) where
  /-- The raw reading at the anchor. -/
  anchor : Int64
  /-- What the clock showed at the anchor. -/
  shown : Int64
  /-- Time shown per raw time. -/
  rate : α

namespace ServedClock

variable {α : Type} [Scalar α]

/-- A clock that shows the raw time, started at a raw reading. -/
def start (raw : Int64) : ServedClock α := ⟨raw, raw, Scalar.one⟩

/-- What the clock shows at a raw reading. -/
def valueAt (c : ServedClock α) (raw : Int64) : Int64 :=
  c.shown + Scalar.toInt64 (Scalar.ofInt64 (raw - c.anchor) * c.rate)

/-- The clock with its anchor moved to a raw reading. -/
def reanchor (c : ServedClock α) (raw : Int64) : ServedClock α :=
  { c with anchor := raw, shown := c.valueAt raw }

/-- Shifts the clock. -/
def addOffset (c : ServedClock α) (raw delta : Int64) : ServedClock α :=
  let c := c.reanchor raw
  { c with shown := c.shown + delta }

/-- Changes the rate of the clock from now on. -/
def setRate (c : ServedClock α) (raw : Int64) (rate : α) : ServedClock α :=
  { c.reanchor raw with rate := rate }

/-- Drops offset and rate: the clock shows the raw time again. -/
def reset (c : ServedClock α) (raw : Int64) : ServedClock α :=
  { c with anchor := raw, shown := raw, rate := Scalar.one }

end ServedClock

end ClockSync
