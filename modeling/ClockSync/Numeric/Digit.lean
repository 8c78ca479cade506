/-!
# Digits
-/

namespace ClockSync.Digit

/-- The value of a digit in a base of at most sixteen. Letters of both cases
stand for ten to fifteen. -/
def value? (base : Nat) (c : Char) : Option Nat :=
  let value :=
    if '0' ≤ c ∧ c ≤ '9' then c.toNat - '0'.toNat
    else if 'a' ≤ c ∧ c ≤ 'f' then c.toNat - 'a'.toNat + 10
    else if 'A' ≤ c ∧ c ≤ 'F' then c.toNat - 'A'.toNat + 10
    else base
  if value < base then some value else none

/-- The number that digits make, the most significant one first. -/
def toNat (base : Nat) (digits : List Nat) : Nat :=
  digits.foldl (base * · + ·) 0

end ClockSync.Digit
