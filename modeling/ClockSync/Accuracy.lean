import ClockSync.Estimator
import ClockSync.Numeric.Decimal

/-!
# How accurate the model is

Around each exchange that changes the model, local and global time are read once
before and once after the change. Were the model perfect, both would have
advanced by the same amount; by how much they differ is a measurement of its
error. The monitor keeps the newest measurements, and counts in `generation` how
many there ever were, so that one who waits can tell a new one from none.
-/

namespace ClockSync

/-- The least, the mean and the greatest of some measurements. -/
structure Accuracy (α : Type) where
  least : α
  average : α
  greatest : α
deriving Repr

namespace Accuracy

variable {α : Type} [Scalar α]

/-- The accuracy reported where nothing was measured. -/
def none : Accuracy α := ⟨Scalar.zero, Scalar.zero, Scalar.zero⟩

/-- The same accuracy in another unit of time. -/
def scaled (a : Accuracy α) (scale : α) : Accuracy α :=
  ⟨a.least * scale, a.average * scale, a.greatest * scale⟩

/-- The accuracy as one line of a report. -/
def text (a : Accuracy Float) : String :=
  s!"min={Decimal.general a.least}, avg={Decimal.general a.average}, " ++
    s!"max={Decimal.general a.greatest}"

end Accuracy

/-! ## The extremes of a list -/

section Extremes

variable {α : Type} [Scalar α]

/-- Carries the extremes found so far through the rest of a list. Two numbers at
a time are compared with each other first, then the lesser with the least and
the greater with the greatest. Of equal numbers the first is the least and the
last is the greatest. -/
def extremesFrom (least greatest : α) : List α → α × α
  | [] => (least, greatest)
  | [a] =>
    if Scalar.less a least then (a, greatest)
    else if Scalar.less a greatest then (least, greatest)
    else (least, a)
  | a :: b :: rest =>
    let (lesser, greater) := if Scalar.less b a then (b, a) else (a, b)
    extremesFrom (if Scalar.less lesser least then lesser else least)
      (if Scalar.less greater greatest then greatest else greater) rest

/-- The least and the greatest number of a list that is not empty. -/
def extremes? : List α → Option (α × α)
  | [] => none
  | [a] => some (a, a)
  | a :: b :: rest =>
    some (if Scalar.less b a then extremesFrom b a rest
      else extremesFrom a b rest)

end Extremes

/-- The newest measurements of a model's error. -/
structure AccuracyMonitor (α : Type) where
  measurements : Window windowCapacity α := .empty
  /-- How many measurements were ever recorded. The number has no bound; it is
  that of a counter of 64 bits as long as there were fewer than 2^64. -/
  generation : Nat := 0

namespace AccuracyMonitor

variable {α : Type} [Scalar α]

instance : Inhabited (AccuracyMonitor α) := ⟨{}⟩

/-- By how much the advance of global time differs from that of local time. -/
def measurement (localBefore : Int64) (globalBefore : α) (localAfter : Int64)
    (globalAfter : α) : α :=
  Scalar.magnitude ((globalBefore - globalAfter) -
    Scalar.ofInt64 (localBefore - localAfter))

/-- Records a measurement. -/
def record (m : AccuracyMonitor α) (measured : α) : AccuracyMonitor α where
  measurements := m.measurements.push measured
  generation := m.generation + 1

/-- Forgets the measurements, but not how many there were. -/
def clear (m : AccuracyMonitor α) : AccuracyMonitor α :=
  { m with measurements := m.measurements.clear }

/-- How many measurements are kept. -/
def count (m : AccuracyMonitor α) : Nat := m.measurements.size

/-- The accuracy by the measurements kept. -/
def summarize (m : AccuracyMonitor α) : Accuracy α :=
  match extremes? m.measurements.toList with
  | none => .none
  | some (least, greatest) =>
    ⟨least, Scalar.mean m.measurements.toList, greatest⟩

end AccuracyMonitor

end ClockSync
