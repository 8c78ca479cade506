import ClockSync.Clock.Readings
import ClockSync.Clock.Served

/-!
# Which clock is read

The standard clock of the machine is a served clock at rate one, which follows
the raw one from the reading on at which it was made. Its times went through a
double: they are those of the raw clock up to 2^53 microseconds after it was
made, and later ones are rounded. A clock that was given shows its readings as
they are.
-/

namespace ClockSync

/-- The clock a client or a reflector reads: the standard clock of the machine,
made at a raw reading, or one that it was given, known by a number. -/
inductive ClockSource where
  | standard (anchor : Int64 := 0)
  | given (id : Nat)
deriving DecidableEq, Repr, Inhabited

namespace ClockSource

/-- The time that the clock shows at a reading: for the standard clock a reading
of the raw clock, which it follows at rate one. -/
def timeAt : ClockSource → Int64 → Int64
  | standard anchor, reading =>
    (ServedClock.start anchor : ServedClock Float).valueAt reading
  | given _, reading => reading

/-- Takes a reading and tells the time that the clock shows at it. -/
def read (source : ClockSource) (readings : Readings) : Int64 × Readings :=
  (source.timeAt readings.next, readings.advance)

end ClockSource

end ClockSync
