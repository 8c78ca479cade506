import ClockSync.Numeric.Digit

/-!
# Numbers at the start of a text

How numbers are read from arguments of a command: blanks in front are skipped,
the longest start of the text that is a number counts, what follows is ignored,
and a text that starts with no number stands for zero. Whole numbers outside the
range of 64 bits become its nearest end. A number with a fraction may be decimal
or hexadecimal, with an exponent, or a name for infinity or for no number; it
becomes the nearest double.
-/

namespace ClockSync.Numeral

/-- Whether a character may stand before a number. -/
def isBlank (c : Char) : Bool := c = ' ' ∨ 9 ≤ c.toNat ∧ c.toNat ≤ 13

/-- The characters of a text from the first that is not blank. -/
def unblanked (text : String) : List Char := text.toList.dropWhile isBlank

/-- Takes a sign off a text: whether it is negative, and the rest. -/
def sign : List Char → Bool × List Char
  | '-' :: rest => (true, rest)
  | '+' :: rest => (false, rest)
  | text => (false, text)

/-- The digits a text starts with, and the rest. -/
def digits (base : Nat) : List Char → List Nat × List Char
  | [] => ([], [])
  | c :: rest =>
    match Digit.value? base c with
    | none => ([], c :: rest)
    | some d =>
      let (ds, rest) := digits base rest
      (d :: ds, rest)

/-! ## Whole numbers -/

/-- The whole number a text starts with. -/
def leadingInt (text : String) : Int :=
  let (negative, rest) := sign (unblanked text)
  let n : Int := Digit.toNat 10 (digits 10 rest).1
  if negative then -n else n

/-- The whole number a text starts with, as far as 64 bits reach. -/
def int64 (text : String) : Int64 :=
  let n := leadingInt text
  if n < Int64.minValue.toInt then Int64.minValue
  else if Int64.maxValue.toInt < n then Int64.maxValue
  else Int64.ofInt n

/-- The low 32 bits of the whole number a text starts with. -/
def int32 (text : String) : Int32 := (int64 text).toInt32

/-- The low 16 bits of the whole number a text starts with. -/
def uint16 (text : String) : UInt16 := UInt16.ofNat (int64 text).toUInt64.toNat

example : int64 "  -12abc" = -12 := by decide +kernel
example : int32 "4294967297" = 1 := by decide +kernel
example : uint16 "65537" = 1 := by decide +kernel

/-! ## Numbers with a fraction -/

/-- A number after the point, if there is one: the digits, and the rest. A point
without a digit on either side is none. -/
def withFraction (base : Nat) (text : List Char) :
    List Nat × List Nat × List Char :=
  let (whole, rest) := digits base text
  match rest with
  | '.' :: after =>
    let (places, after) := digits base after
    if whole = [] ∧ places = [] then ([], [], rest) else (whole, places, after)
  | _ => (whole, [], rest)

/-- The exponent after one of two letters; zero if there is none. -/
def exponent (lower upper : Char) : List Char → Int
  | c :: rest =>
    if c = lower ∨ c = upper then
      let (negative, rest) := sign rest
      let n : Int := Digit.toNat 10 (digits 10 rest).1
      if negative then -n else n
    else 0
  | [] => 0

/-- The double nearest to `m * 10 ^ e`. Far outside the range of doubles the
power is not worked out. -/
def ofDecimal (m : Nat) (e : Int) : Float :=
  let size : Int := (Nat.toDigits 10 m).length + e
  if m = 0 ∨ size < -330 then 0.0
  else if 330 < size then 1.0 / 0.0
  else if 0 ≤ e then Float.ofScientific m false e.toNat
  else Float.ofScientific m true (-e).toNat

/-- The double nearest to `m * 2 ^ e`. Far outside the range of doubles the
power is not worked out. -/
def ofBinary (m : Nat) (e : Int) : Float :=
  let size : Int := (m.log2 : Int) + e
  if m = 0 ∨ size < -1100 then 0.0
  else if 1100 < size then 1.0 / 0.0
  else if 0 ≤ e then ofDecimal (m * Nat.pow 2 e.toNat) 0
  else ofDecimal (m * Nat.pow 5 (-e).toNat) e

/-- Whether a text starts with a word in small letters, whatever its case. -/
def startsWith (word : String) (text : List Char) : Bool :=
  word.toList.isPrefixOf (text.map Char.toLower)

/-- The size of the number a text starts with. -/
def magnitude (text : List Char) : Float :=
  if startsWith "inf" text then 1.0 / 0.0
  else if startsWith "nan" text then 0.0 / 0.0
  else
    let decimal := fun (_ : Unit) =>
      let (whole, places, rest) := withFraction 10 text
      if whole = [] ∧ places = [] then 0.0
      else ofDecimal (Digit.toNat 10 (whole ++ places))
        (exponent 'e' 'E' rest - places.length)
    match text with
    | '0' :: x :: hex =>
      let (whole, places, rest) := withFraction 16 hex
      if (x = 'x' ∨ x = 'X') ∧ ¬ (whole = [] ∧ places = []) then
        ofBinary (Digit.toNat 16 (whole ++ places))
          (exponent 'p' 'P' rest - 4 * places.length)
      else decimal ()
    | _ => decimal ()

/-- The number a text starts with. -/
def float (text : String) : Float :=
  let (negative, rest) := sign (unblanked text)
  if negative then -magnitude rest else magnitude rest

example : float "1.5e3x" = 1500.0 := by decide +kernel
example : float " -.25" = -0.25 := by decide +kernel
example : float "0x1.8p1" = 3.0 := by decide +kernel
example : float "abc" = 0.0 := by decide +kernel

end ClockSync.Numeral
