import ClockSync.Numeric.Scalar
import ClockSync.Stamp
import ClockSync.Statistics
import ClockSync.Window

/-!
# Estimating a remote clock

The estimator is fed one exchange after the other: the local time at which a
request left, the remote time the reply carries, and the local time at which
the reply came in. It keeps three windows.

* `roundTrips`: how long the exchanges took. An exchange whose round trip is
  further from the median of this window than the threshold allows is an outlier
  and is only counted.
* `samples`: the pairs of local and remote time of the other exchanges. The rate
  of the remote clock is the slope between the oldest and the newest of them.
* `offsets`: the differences of these pairs, whose mean is the offset.

The remote time belonging to a local time is read off the newest sample, the
offset and the rate (`globalAt`).
-/

namespace ClockSync

/-- How many values each window of a client keeps. -/
def windowCapacity : Nat := 10

/-- One request and its reply, as the requester sees them. -/
structure Exchange where
  /-- The local time at which the request left, echoed by the reply. -/
  sentAt : UInt64
  /-- The remote time in the reply. -/
  remoteTime : UInt64
  /-- The local time at which the reply came in. -/
  receivedAt : Int64
deriving DecidableEq, Repr

/-- How long the exchange took. An echo from the future took no time at all and
has no round trip. -/
def Exchange.roundTrip? (x : Exchange) : Option Int64 :=
  let d := x.receivedAt.toUInt64 - x.sentAt
  if d ≤ Stamp.largestSigned then some d.toInt64 else none

/-- A local time and the remote time that was measured for it. -/
structure Sample where
  localTime : Int64
  remoteTime : Int64
deriving DecidableEq, Repr, Inhabited

namespace Sample

/-- The sample an exchange yields, its words read as signed numbers. -/
def ofExchange (x : Exchange) : Sample :=
  ⟨Stamp.signed x.sentAt, Stamp.signed x.remoteTime⟩

end Sample

/-- What became of an exchange. -/
inductive Verdict where
  | accepted
  | rejected
deriving DecidableEq, Repr

/-! ## The median -/

/-- Puts a number into an ascending list, before the first that is not below
it. -/
def insertInOrder (x : Int64) : List Int64 → List Int64
  | [] => [x]
  | y :: ys => if y < x then y :: insertInOrder x ys else x :: y :: ys

/-- The numbers of a list in ascending order. -/
def inOrder (xs : List Int64) : List Int64 := xs.foldr insertInOrder []

/-- The middle one of the numbers of a list in order; of two middle ones the
lower, and zero for the empty list. -/
def lowerMedian (xs : List Int64) : Int64 :=
  (inOrder xs).getD ((xs.length - 1) / 2) 0

example : lowerMedian [30, 10, 20] = 20 := by decide
example : lowerMedian [40, 10, 30, 20] = 20 := by decide

/-! ## The estimator -/

/-- What is known about a remote clock, reckoned in numbers of the kind `α`. -/
structure Estimator (α : Type) where
  /-- How far a round trip may be from the median. -/
  threshold : Int64
  roundTrips : Window windowCapacity Int64
  samples : Window windowCapacity Sample
  offsets : Window windowCapacity Int64
  /-- The mean of the offsets. -/
  offset : α
  /-- Remote time that passes per local time. -/
  rate : α
  stats : Statistics

namespace Estimator

variable {α : Type} [Scalar α]

/-- The threshold in force where none was chosen. -/
def defaultThreshold : Int64 := 10000

/-- A threshold below zero counts as zero. -/
def atLeastZero (threshold : Int64) : Int64 :=
  if threshold < 0 then 0 else threshold

/-- An estimator that has seen nothing. -/
def new (threshold : Int64) : Estimator α where
  threshold := atLeastZero threshold
  roundTrips := .empty
  samples := .empty
  offsets := .empty
  offset := Scalar.zero
  rate := Scalar.one
  stats := {}

/-- Forgets all that was seen but keeps the threshold. -/
def reset (e : Estimator α) : Estimator α :=
  { e with
    roundTrips := e.roundTrips.clear
    samples := e.samples.clear
    offsets := e.offsets.clear
    offset := Scalar.zero
    rate := Scalar.one
    stats := {} }

/-- Puts another threshold in force. -/
def setThreshold (e : Estimator α) (threshold : Int64) : Estimator α :=
  { e with threshold := atLeastZero threshold }

/-! ## Counting -/

/-- Counts a request that was sent. -/
def noteSent (e : Estimator α) : Estimator α :=
  { e with stats := { e.stats with sent := e.stats.sent + 1 } }

/-- Counts a reply. -/
def noteReceived (e : Estimator α) : Estimator α :=
  { e with stats := { e.stats with received := e.stats.received + 1 } }

/-- Counts a reply that is not used. -/
def noteRejected (e : Estimator α) : Estimator α :=
  { e with stats := { e.stats with rejected := e.stats.rejected + 1 } }

/-! ## Taking in an exchange -/

/-- The median of the round trips seen last. -/
def medianRoundTrip (e : Estimator α) : Int64 := lowerMedian e.roundTrips.toList

/-- The slope between two samples. Samples of the same local time have none. -/
def slope? (first last : Sample) : Option α :=
  let dt := Stamp.elapsed last.localTime first.localTime
  if dt = 0 then none
  else some (Scalar.ofInt64 (Stamp.elapsed last.remoteTime first.remoteTime) /
    Scalar.ofInt64 dt)

/-- The slope between the ends of a window of at least two samples. -/
def slopeOf? (w : Window windowCapacity Sample) : Option α :=
  if w.size < 2 then none
  else match w.oldest?, w.newest? with
    | some first, some last => slope? first last
    | _, _ => none

/-- The mean of a window of offsets, oldest first; zero if there are none. -/
def meanOffset (w : Window windowCapacity Int64) : α :=
  if w.isEmpty then Scalar.zero else Scalar.mean (w.toList.map Scalar.ofInt64)

/-- Takes an exchange into the model. The rate stays as it was while the samples
have no slope. -/
def accept (e : Estimator α) (x : Exchange) : Estimator α :=
  let samples := e.samples.push (.ofExchange x)
  let offsets := e.offsets.push (Stamp.difference x.remoteTime x.sentAt)
  { e with
    samples := samples
    offsets := offsets
    rate := (slopeOf? samples).getD e.rate
    offset := meanOffset offsets }

/-- Takes in one exchange. It is counted; if it has a round trip, that goes into
its window, and if the round trip is near enough to the median of the window it
is now in, the exchange goes into the model. -/
def ingest (e : Estimator α) (x : Exchange) : Verdict × Estimator α :=
  let e := e.noteReceived
  match x.roundTrip? with
  | none => (.rejected, e.noteRejected)
  | some roundTrip =>
    let e := { e with roundTrips := e.roundTrips.push roundTrip }
    if e.threshold < (roundTrip - e.medianRoundTrip).abs then
      (.rejected, e.noteRejected)
    else (.accepted, e.accept x)

/-! ## Reading the model -/

/-- The remote time estimated for a local time: zero before the first sample. -/
def globalAt (e : Estimator α) (now : Int64) : α :=
  match e.samples.newest? with
  | none => Scalar.zero
  | some newest =>
    Scalar.ofInt64 newest.localTime + e.offset +
      Scalar.ofInt64 (Stamp.elapsed now newest.localTime) * e.rate

end Estimator

end ClockSync
