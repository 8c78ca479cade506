/-!
# Binary64 numbers taken apart

A double is a sign, a whole significand and a power of two, or one of the
values that are no number. `Binary64.ofFloat` reads these off the bits, and
`Binary64.value?` is the exact rational number they stand for. Everything that
has to be exact about a double — how it is printed, which whole number is
nearest — is worked out on that rational number.
-/

namespace ClockSync

/-- A double by its parts. -/
inductive Binary64 where
  | nan
  | infinite (negative : Bool)
  /-- The number `significand * 2 ^ exponent`, negated if `negative`. -/
  | finite (negative : Bool) (significand : Nat) (exponent : Int)
deriving DecidableEq, Repr

namespace Binary64

/-- The parts of a double: 52 bits of fraction, 11 of exponent, one of sign. An
exponent field of zero marks the numbers without a hidden leading bit. -/
def ofFloat (x : Float) : Binary64 :=
  let bits := x.toBits
  let fraction := (bits &&& 0xfffffffffffff).toNat
  let field := (bits >>> 52 &&& 0x7ff).toNat
  let negative := bits >>> 63 == 1
  if field = 2047 then
    if fraction = 0 then .infinite negative else .nan
  else if field = 0 then .finite negative fraction (-1074)
  else .finite negative (0x10000000000000 + fraction) ((field : Int) - 1075)

/-- The size of `significand * 2 ^ exponent` as a fraction of natural
numbers. -/
def fraction (significand : Nat) (exponent : Int) : Nat × Nat :=
  if 0 ≤ exponent then (significand * Nat.pow 2 exponent.toNat, 1)
  else (significand, Nat.pow 2 (-exponent).toNat)

/-- The exact value of a finite number. -/
def value? : Binary64 → Option Rat
  | .finite negative significand exponent =>
    let (num, den) := fraction significand exponent
    some (mkRat (if negative then -(num : Int) else num) den)
  | _ => none

end Binary64

end ClockSync
