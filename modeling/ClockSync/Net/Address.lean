import ClockSync.Numeric.Digit
import ClockSync.Text

/-!
# Addresses

IPv4 addresses, and the ways to write them. `IPv4.dotted` is the normal form and
`IPv4.ofDotted?` reads nothing else; `IPv4.ofNumeric?` also reads addresses of
fewer parts, octal and hexadecimal ones. `IPv6.groups?` reads an IPv6 literal,
which matters only as far as an IPv4 address may be mapped into one.
-/

namespace ClockSync.Net

/-- An IPv4 address. -/
structure IPv4 where
  bits : UInt32
deriving DecidableEq, Repr, Inhabited

/-- An address and a port on it. -/
structure SocketAddress where
  ip : IPv4
  port : UInt16
deriving DecidableEq, Repr, Inhabited

/-- Where to send to and where something came from, the address as a text. -/
structure Endpoint where
  address : String := ""
  port : UInt16 := 0
deriving DecidableEq, Repr, Inhabited

/-! ## Texts -/

/-- The parts of a text between the occurrences of a separator. -/
def splitAtEach (separator : Char) : List Char → List (List Char)
  | [] => [[]]
  | c :: cs =>
    if c = separator then [] :: splitAtEach separator cs
    else match splitAtEach separator cs with
      | part :: parts => (c :: part) :: parts
      | [] => [[c]]

/-- The number a text of at least one digit, and nothing else, stands for. -/
def number? (base : Nat) (text : List Char) : Option Nat :=
  if text = [] then none
  else (text.mapM (Digit.value? base)).map (Digit.toNat base)

namespace IPv4

/-- The address of its four bytes. -/
def ofOctets (a b c d : Nat) : IPv4 :=
  ⟨UInt32.ofNat (((a * 256 + b) * 256 + c) * 256 + d)⟩

/-- The address that stands for any. -/
def any : IPv4 := ⟨0⟩

/-- The address by which a host reaches itself. -/
def loopback : IPv4 := ofOctets 127 0 0 1

/-- Whether the address belongs to the host itself. -/
def isLoopback (a : IPv4) : Bool := a.bits >>> 24 == 127

/-- The four bytes of the address. -/
def octets (a : IPv4) : List Nat :=
  let n := a.bits.toNat
  [n / 0x1000000, n / 0x10000 % 0x100, n / 0x100 % 0x100, n % 0x100]

/-! ### The normal form -/

/-- The address as four decimal numbers separated by dots. -/
def dotted (a : IPv4) : String :=
  String.ofList (List.intercalate ['.'] (a.octets.map (Nat.toDigits 10)))

/-- A byte in decimal, without zeros in front. -/
def octet? (text : List Char) : Option Nat :=
  if text.head? = some '0' ∧ 1 < text.length then none
  else (number? 10 text).filter (· < 256)

/-- Reads the normal form, given as characters. -/
def ofDottedChars? (text : List Char) : Option IPv4 :=
  match (splitAtEach '.' text).map octet? with
  | [some a, some b, some c, some d] => some (ofOctets a b c d)
  | _ => none

/-- Reads the normal form and nothing else. -/
def ofDotted? (text : String) : Option IPv4 :=
  ofDottedChars? (Text.beforeZero text).toList

/-! ### Other numeric forms -/

/-- A number in hexadecimal after `0x`, in octal after `0`, else in decimal. -/
def part? (text : List Char) : Option Nat :=
  match text with
  | '0' :: 'x' :: digits => number? 16 digits
  | '0' :: 'X' :: digits => number? 16 digits
  | '0' :: digits => number? 8 ('0' :: digits)
  | digits => number? 10 digits

/-- The address of up to four numbers, where all but the last are bytes and the
last fills the bytes that are left. -/
def ofParts? : List Nat → Option IPv4
  | [n] => if n < UInt32.size then some ⟨UInt32.ofNat n⟩ else none
  | [a, n] =>
    if a < 0x100 ∧ n < 0x1000000 then some ⟨UInt32.ofNat (a * 0x1000000 + n)⟩
    else none
  | [a, b, n] =>
    if a < 0x100 ∧ b < 0x100 ∧ n < 0x10000 then
      some ⟨UInt32.ofNat ((a * 0x100 + b) * 0x10000 + n)⟩
    else none
  | [a, b, c, n] =>
    if a < 0x100 ∧ b < 0x100 ∧ c < 0x100 ∧ n < 0x100 then
      some (ofOctets a b c n)
    else none
  | _ => none

/-- Reads an address in any numeric form. -/
def ofNumeric? (text : List Char) : Option IPv4 :=
  ((splitAtEach '.' text).mapM part?).bind ofParts?

example : ofDotted? "127.0.0.1" = some loopback := by decide +kernel
example : ofDotted? "127.0.0.01" = none := by decide +kernel
example : ofNumeric? "0x7f.1".toList = some loopback := by decide +kernel
example : ofNumeric? "2130706433".toList = some loopback := by decide +kernel
example : dotted ⟨0xc0a80102⟩ = "192.168.1.2" := by decide +kernel

end IPv4

namespace IPv6

/-- The text before and after the first pair of colons. -/
def splitAtPair : List Char → Option (List Char × List Char)
  | ':' :: ':' :: rest => some ([], rest)
  | c :: rest =>
    (splitAtPair rest).map fun (before, after) => (c :: before, after)
  | [] => none

/-- A group of one to four hexadecimal digits. -/
def group? (text : List Char) : Option Nat :=
  if text.length ≤ 4 then number? 16 text else none

/-- Groups separated by colons. The last one may be an IPv4 address, which makes
two groups, if that is allowed here. -/
def groupsOf? (dottedEnd : Bool) (text : List Char) : Option (List Nat) :=
  let parts := splitAtEach ':' text
  match parts.getLast? with
  | none => none
  | some last =>
    if dottedEnd ∧ '.' ∈ last then do
      let front ← parts.dropLast.mapM group?
      let end4 ← IPv4.ofDottedChars? last
      some (front ++ [end4.bits.toNat / 0x10000, end4.bits.toNat % 0x10000])
    else parts.mapM group?

/-- Groups separated by colons, or none at all. -/
def groupsOrNone? (dottedEnd : Bool) (text : List Char) : Option (List Nat) :=
  if text = [] then some [] else groupsOf? dottedEnd text

/-- The eight groups of an IPv6 literal. A pair of colons stands for at least
one group of zero. -/
def groups? (text : List Char) : Option (List Nat) := do
  let groups ← match splitAtPair text with
    | none => groupsOf? true text
    | some (before, after) => do
      let front ← groupsOrNone? false before
      let back ← groupsOrNone? true after
      if front.length + back.length < 8 then
        some
          (front ++ List.replicate (8 - front.length - back.length) 0 ++ back)
      else none
  if groups.length = 8 then some groups else none

/-- The IPv4 address that is mapped into an IPv6 address of these groups. -/
def mapped? : List Nat → Option IPv4
  | [0, 0, 0, 0, 0, 0xffff, high, low] =>
    some ⟨UInt32.ofNat (high * 0x10000 + low)⟩
  | _ => none

example :
    (groups? "::ffff:1.2.3.4".toList).bind mapped? =
      some (IPv4.ofOctets 1 2 3 4) := by
  decide +kernel
example : groups? "::1".toList = some [0, 0, 0, 0, 0, 0, 0, 1] := by
  decide +kernel
example : groups? "1:2:3:4:5:6:7:".toList = none := by decide +kernel

end IPv6

/-! ## Endpoints -/

namespace Endpoint

/-- The endpoint of a socket address, written in the normal form. -/
def ofSocketAddress (a : SocketAddress) : Endpoint := ⟨a.ip.dotted, a.port⟩

/-- The socket address an endpoint names, if its address is in the normal
form. -/
def toSocketAddress? (e : Endpoint) : Option SocketAddress :=
  (IPv4.ofDotted? e.address).map fun ip => ⟨ip, e.port⟩

end Endpoint

end ClockSync.Net
