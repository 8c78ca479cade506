import ClockSync.Numeric.Binary64

/-!
# Doubles in decimal

Two ways to write a double in decimal: with a fixed number of places
(`Decimal.fixed`), and with a bounded number of significant digits
(`Decimal.general`), where trailing zeros go and very large and very small
numbers get an exponent. Both round the exact value of the double to the
nearest decimal they can show, and an exact half to the even neighbour
(`roundDiv`).
-/

namespace ClockSync.Decimal

/-! ## Rounding -/

/-- The whole number nearest to `num / den`, a half going to the even one. -/
def roundDiv (num den : Nat) : Nat :=
  let low := num / den
  let rest := 2 * (num % den)
  if rest < den then low
  else if den < rest then low + 1
  else if low % 2 = 0 then low else low + 1

/-- What is rounded is at most half a unit away from the result. -/
theorem roundDiv_near {num den : Nat} (h : 0 < den) :
    2 * num ≤ (2 * roundDiv num den + 1) * den ∧
      2 * roundDiv num den * den ≤ 2 * num + den := by
  have hdiv : den * (num / den) + num % den = num := Nat.div_add_mod num den
  have hlt : num % den < den := Nat.mod_lt num h
  have expand : ∀ k : Nat, (2 * k + 1) * den = 2 * (den * k) + den := by
    intro k; rw [Nat.add_mul, Nat.mul_assoc, Nat.mul_comm k den, Nat.one_mul]
  have expand' : ∀ k : Nat, 2 * k * den = 2 * (den * k) := by
    intro k; rw [Nat.mul_assoc, Nat.mul_comm k den]
  simp only [roundDiv]
  split
  · rw [expand, expand']; omega
  · split
    · rw [expand, expand', Nat.mul_add, Nat.mul_one]; omega
    · split
      · rw [expand, expand']; omega
      · rw [expand, expand', Nat.mul_add, Nat.mul_one]; omega

/-! ## Digits -/

/-- The decimal digits of a number. -/
def digits (n : Nat) : List Char := Nat.toDigits 10 n

/-- The digits of a number, filled up with zeros in front to at least
`width`. -/
def padded (width n : Nat) : List Char :=
  List.replicate (width - (digits n).length) '0' ++ digits n

/-- Digits with a point before the last `places` of them. -/
def withPoint (places : Nat) (ds : List Char) : List Char :=
  if places = 0 then ds
  else ds.take (ds.length - places) ++ '.' :: ds.drop (ds.length - places)

/-- A decimal text without the zeros at the end of its places, and without the
point if no places are left. -/
def trimmed (text : List Char) : List Char :=
  if '.' ∈ text then
    let kept := (text.reverse.dropWhile (· == '0'))
    (if kept.head? = some '.' then kept.drop 1 else kept).reverse
  else text

/-! ## A fixed number of places -/

/-- The fraction `num / den` with `places` digits after the point. -/
def fixedDigits (places num den : Nat) : List Char :=
  withPoint places (padded (places + 1)
    (roundDiv (num * Nat.pow 10 places) den))

/-! ## A bounded number of significant digits -/

/-- The largest exponent of a power of ten that is not above `num / den`, which
must not be zero. The counts of digits of the two tell it up to one. -/
def leadingExponent (num den : Nat) : Int :=
  let guess : Int := (digits num).length - (digits den).length
  let reached :=
    if 0 ≤ guess then den * Nat.pow 10 guess.toNat ≤ num
    else den ≤ num * Nat.pow 10 (-guess).toNat
  if reached then guess else guess - 1

/-- The first `count` significant digits of `num / den` as a number, and the
exponent of the leading one. -/
def significand (count num den : Nat) : Nat × Int :=
  let e := leadingExponent num den
  let shift : Int := (count : Int) - 1 - e
  let n :=
    if 0 ≤ shift then roundDiv (num * Nat.pow 10 shift.toNat) den
    else roundDiv num (den * Nat.pow 10 (-shift).toNat)
  if n = Nat.pow 10 count then (Nat.pow 10 (count - 1), e + 1) else (n, e)

/-- An exponent with its sign and at least two digits. -/
def exponentDigits (e : Int) : List Char :=
  'e' :: (if e < 0 then '-' else '+') :: padded 2 e.natAbs

/-- The fraction `num / den` with at most `count` significant digits. Exponents
from -4 up to `count - 1` are written out by position. -/
def generalDigits (count num den : Nat) : List Char :=
  if num = 0 then ['0']
  else
    let (n, e) := significand count num den
    if -4 ≤ e ∧ e < count then
      trimmed (withPoint ((count : Int) - 1 - e).toNat
        (padded (((count : Int) - 1 - e).toNat + 1) n))
    else
      trimmed (withPoint (count - 1) (digits n)) ++ exponentDigits e

/-! ## Texts of doubles -/

/-- A double written by a rule for fractions; what is no number by its name. -/
def write (rule : Nat → Nat → List Char) (x : Float) : String :=
  match Binary64.ofFloat x with
  | .nan => "nan"
  | .infinite negative => if negative then "-inf" else "inf"
  | .finite negative significand exponent =>
    let (num, den) := Binary64.fraction significand exponent
    String.ofList ((if negative then ['-'] else []) ++ rule num den)

/-- A double with `places` digits after the point. -/
def fixed (places : Nat) (x : Float) : String := write (fixedDigits places) x

/-- A double with at most six significant digits, the way every report shows
numbers. -/
def general (x : Float) : String := write (generalDigits 6) x

example : general 1654.4 = "1654.4" := by decide +kernel
example : general 1234567.0 = "1.23457e+06" := by decide +kernel
example : general 0.000001 = "1e-06" := by decide +kernel
example : general 100000.0 = "100000" := by decide +kernel
example : general 999999.5 = "1e+06" := by decide +kernel
example : general 0.0001 = "0.0001" := by decide +kernel
example : general (-0.0) = "-0" := by decide +kernel
example : fixed 3 0.0625 = "0.062" := by decide +kernel
example : fixed 3 (-1234.5) = "-1234.500" := by decide +kernel

end ClockSync.Decimal
