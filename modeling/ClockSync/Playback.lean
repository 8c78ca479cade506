import ClockSync.Numeric.Scalar

/-!
# Playback rates

How fast to play a medium that should keep up with the global timeline. A lag of
one second asks for one more second per second; a lag or lead of less than five
milliseconds is left alone; the rate stays between one half and two.
-/

namespace ClockSync.Playback

variable {α : Type} [Scalar α]

/-- Lags and leads below this many microseconds are left alone. -/
def deadZone : α := Scalar.ofInt 5000

/-- The slowest rate that is ever suggested. -/
def slowest : α := Scalar.ofInt 1 / Scalar.ofInt 2

/-- The fastest rate that is ever suggested. -/
def fastest : α := Scalar.ofInt 2

/-- The rate for playback that lags behind by `lag` microseconds. A lag that is
no number asks for the slowest rate. -/
def rateFor (lag : α) : α :=
  if Scalar.less (Scalar.magnitude lag) deadZone then Scalar.one
  else
    Scalar.smaller fastest
      (Scalar.larger slowest (Scalar.one + lag / Scalar.ofInt 1000 /
        Scalar.ofInt 1000))

/-- The rate for a playback that started at the global time `start` and has come
to `position`, both in units of `scale` per microsecond, when the global time is
`globalNow` microseconds. -/
def suggest (globalNow start position scale : α) : α :=
  rateFor ((globalNow - start / scale) - position / scale)

end ClockSync.Playback
