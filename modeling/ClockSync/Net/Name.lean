import ClockSync.Net.Address
import ClockSync.Net.Errno

/-!
# Host names

Which address a host name stands for (`Name.lookup`), and what a client makes of
the answer (`Name.resolve`). Only numeric addresses and the name of the host
itself are known; no name server is asked.

An IPv6 literal may end in a scope, which must be valid although an IPv4 address
has none: `isScope` takes numbers, and names of interfaces for some addresses.
-/

namespace ClockSync.Net.Name

/-- The text before and after the first percent sign, if there is one. -/
def splitAtScope (text : List Char) : List Char × Option (List Char) :=
  match text.span (· ≠ '%') with
  | (before, _ :: scope) => (before, some scope)
  | (before, []) => (before, none)

/-- The names of the interfaces of the host, which has only the one to
itself. -/
def interfaces : List (List Char) := ["lo".toList]

/-- Whether a scope names an interface. A name takes less than 16 bytes, and
what follows a colon is the label of an alias, which does not count. -/
def namesInterface (scope : List Char) : Bool :=
  (String.ofList scope).utf8ByteSize < 16 &&
    interfaces.contains (scope.takeWhile (· ≠ ':'))

/-- Whether an address starts with the bytes of an IPv6 address that means
something on one link or one host only: `fe80::/10`, and the groups of `ff01::`
and `ff02::` with any flags. -/
def startsAsLinkLocal (ip : IPv4) : Bool :=
  match ip.octets with
  | a :: b :: _ =>
    (a == 0xfe && b / 64 == 2) || (a == 0xff && (b % 16 == 1 || b % 16 == 2))
  | _ => false

/-- Whether a scope is a number of 32 bits. -/
def isScopeNumber (scope : List Char) : Bool :=
  match number? 10 scope with
  | some n => n < UInt32.size
  | none => false

/-- Whether a text is a scope for an address mapped into an IPv6 literal. The
address is judged by the bytes it starts with, as if they were those of the
literal. -/
def isScope (ip : IPv4) (scope : List Char) : Bool :=
  isScopeNumber scope || (startsAsLinkLocal ip && namesInterface scope)

/-- The address of a host. An IPv6 literal is of the wrong family unless an IPv4
address is mapped into it. -/
def lookup (host : String) : Except LookupCode IPv4 :=
  let name := (Text.beforeZero host).toList
  match IPv4.ofNumeric? name with
  | some ip => .ok ip
  | none =>
    let (literal, scope) := splitAtScope name
    match IPv6.groups? literal with
    | some groups =>
      match IPv6.mapped? groups with
      | none => .error .familyUnsupported
      | some ip =>
        if scope.all (isScope ip) then .ok ip else .error .nameUnknown
    | none =>
      if name = "localhost".toList then .ok .loopback else .error .nameUnknown

/-- Why a host could not be resolved. -/
inductive Failure where
  /-- The look-up failed. -/
  | code (code : LookupCode)
  /-- The look-up succeeded, but found nothing. -/
  | noAddress
deriving DecidableEq, Repr

/-- A host that could not be resolved. -/
structure Unresolved where
  host : String
  failure : Failure
deriving DecidableEq, Repr

/-- The wording of the failure, with the host as it was given. -/
def Unresolved.message (u : Unresolved) : String :=
  "failed to resolve host \"" ++ u.host ++ "\": " ++
    match u.failure with
    | .code c => c.text
    | .noAddress => "no address"

/-- What a look-up of a host gave. -/
abbrev Answer := Except LookupCode (Option IPv4)

/-- The endpoint at a port of a host, by what the look-up of the host gave. -/
def resolve (host : String) (port : UInt16) :
    Answer → Except Unresolved Endpoint
  | .error code => .error ⟨host, .code code⟩
  | .ok none => .error ⟨host, .noAddress⟩
  | .ok (some ip) => .ok (.ofSocketAddress ⟨ip, port⟩)

/-- Resolves a host into an endpoint and a wording for errors that are given:
whether it went well, and what the two are afterwards. A resolution that fails
leaves the endpoint as it was, one that goes well the wording; no wording is
made where none was given. -/
def resolveInto (out : Endpoint) (wording : Option String) (host : String)
    (port : UInt16) (answer : Answer) : Bool × Endpoint × Option String :=
  match resolve host port answer with
  | .ok endpoint => (true, endpoint, wording)
  | .error unresolved => (false, out, wording.map fun _ => unresolved.message)

end ClockSync.Net.Name
