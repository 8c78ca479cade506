import ClockSync.Numeric.Binary64

/-!
# The numbers times are reckoned in

Offsets, rates and estimates of time are reckoned with one set of formulas and
two kinds of numbers: doubles, which a running program has, and rational
numbers, which say what the formulas mean before rounding. A `Scalar` is what
both have in common. Formulas are written over any scalar in the order in which
they are to be evaluated; over `Float` every operation rounds.
-/

namespace ClockSync

/-- A kind of number that times can be reckoned in. -/
class Scalar (α : Type) extends Add α, Sub α, Mul α, Div α where
  /-- The number nearest to a whole number. -/
  ofInt : Int → α
  /-- The number without its sign. -/
  magnitude : α → α
  /-- Whether the first number is below the second. -/
  less : α → α → Bool
  /-- The nearest whole number of 64 bits, a half going away from zero. What
  has none in that range gives the least one. -/
  toInt64 : α → Int64

namespace Scalar

/-- The whole number nearest to `q`, a half going away from zero. -/
def roundHalfAway (q : Rat) : Int :=
  if q < 0 then -(-q + 1 / 2).floor else (q + 1 / 2).floor

/-- A whole number as a 64-bit one, or the least of these if it is none. -/
def int64OrLeast (n : Int) : Int64 :=
  if Int64.minValue.toInt ≤ n ∧ n ≤ Int64.maxValue.toInt then Int64.ofInt n
  else Int64.minValue

instance : Scalar Rat where
  ofInt n := n
  magnitude q := if q < 0 then -q else q
  less p q := decide (p < q)
  toInt64 q := int64OrLeast (roundHalfAway q)

instance : Scalar Float where
  ofInt := Float.ofInt
  magnitude := Float.abs
  less x y := decide (x < y)
  toInt64 x :=
    match (Binary64.ofFloat x).value? with
    | some q => int64OrLeast (roundHalfAway q)
    | none => Int64.minValue

variable {α : Type} [Scalar α]

/-- The number nearest to a 64-bit whole number. -/
def ofInt64 (n : Int64) : α := ofInt n.toInt

/-- The number nearest to a count. -/
def ofNat (n : Nat) : α := ofInt (n : Int)

/-- No time at all. -/
def zero : α := ofInt 0

/-- The rate of a clock that neither gains nor loses. -/
def one : α := ofInt 1

/-- Numbers added up one after the other, starting from zero. -/
def sum (xs : List α) : α := xs.foldl (· + ·) zero

/-- The mean of a list: its sum divided by how many there are. -/
def mean (xs : List α) : α := sum xs / ofNat xs.length

/-- The larger of two; the first unless it is below the second. -/
def larger (x y : α) : α := if less x y then y else x

/-- The smaller of two; the first unless the second is below it. -/
def smaller (x y : α) : α := if less y x then y else x

end Scalar

end ClockSync
