import ClockSync.Net.Address
import ClockSync.Net.Errno

/-!
# Datagram sockets of one host

What the system calls on datagram sockets do on a host whose only network is its
own loopback interface. While the interface is up, every address of the host
reaches the socket with the right port, at once and in order; while it is down,
no address can be reached at all, though sockets can still be made and bound.

A host also keeps the pairs of connected descriptors by which one thread wakes
another: what is written to one end of a pair stays readable at the other.
-/

namespace ClockSync.Net

/-- A descriptor of an open socket. -/
abbrev Handle := Nat

/-- A datagram that lies in the queue of a socket. -/
structure Datagram where
  sender : SocketAddress
  payload : List UInt8
deriving DecidableEq, Repr

/-- A datagram socket. -/
structure Socket where
  handle : Handle
  /-- The port it has, once it has one. -/
  port : Option UInt16 := none
  /-- Whom it is connected to. -/
  peer : Option SocketAddress := none
  /-- Whether it was shut down. -/
  isShut : Bool := false
  /-- The error the next call is going to meet. -/
  pending : Option Errno := none
  /-- What was received and not yet read, oldest first. -/
  queue : List Datagram := []
deriving DecidableEq, Repr

/-- A pair of descriptors by which a waiting thread is woken. -/
structure WakePair where
  writeEnd : Handle
  readEnd : Handle
  /-- How many bytes were written and not read. -/
  queued : Nat := 0
deriving DecidableEq, Repr

/-- A host with its open descriptors. -/
structure Host where
  /-- Whether the loopback interface is up. -/
  loopbackUp : Bool
  sockets : List Socket := []
  pairs : List WakePair := []
  nextHandle : Handle := 3
  nextPort : UInt16 := 32768
deriving Repr

namespace Host

/-- The events a poll reports, as bits. -/
def readable : Nat := 1
def failed : Nat := 8
def hungUp : Nat := 16
def invalid : Nat := 32

/-- The longest datagram a send call takes at all, and the longest one that fits
into a packet of the network. -/
def longestMessage : Nat := 65535
def longestDatagram : Nat := 65507

/-! ## The open sockets -/

/-- The socket of a descriptor. -/
def find? (host : Host) (h : Handle) : Option Socket :=
  host.sockets.find? (·.handle == h)

/-- Puts a changed socket back. -/
def put (host : Host) (s : Socket) : Host :=
  { host with
    sockets := host.sockets.map fun old =>
      if old.handle = s.handle then s else old }

/-- Gives a socket the next free port, unless it has one. -/
def withPort (host : Host) (s : Socket) : Socket × Host :=
  match s.port with
  | some _ => (s, host)
  | none =>
    let s := { s with port := some host.nextPort }
    (s, { host.put s with nextPort := host.nextPort + 1 })

/-- Opens a socket. -/
def socket (host : Host) : Handle × Host :=
  (host.nextHandle,
    { host with
      sockets := host.sockets ++ [{ handle := host.nextHandle }]
      nextHandle := host.nextHandle + 1 })

/-- Closes a descriptor. A pair is gone with either of its ends. -/
def close (host : Host) (h : Handle) : Host :=
  { host with
    sockets := host.sockets.filter (·.handle != h)
    pairs := host.pairs.filter (fun p => p.writeEnd != h ∧ p.readEnd != h) }

/-- Gives a socket a port; port zero asks for any free one. A socket that has a
port cannot get another, and no two sockets get the same one. -/
def bind (host : Host) (h : Handle) (port : UInt16) :
    Except Errno Unit × Host :=
  match host.find? h with
  | none => (.error .badDescriptor, host)
  | some s =>
    if s.port.isSome then (.error .invalidArgument, host)
    else if port = 0 then (.ok (), (host.withPort s).2)
    else if host.sockets.any (·.port == some port) then
      (.error .addressInUse, host)
    else (.ok (), host.put { s with port := some port })

/-- The port of a socket; zero if it has none. -/
def localPort (host : Host) (h : Handle) : UInt16 :=
  ((host.find? h).bind (·.port)).getD 0

/-! ## Reaching others -/

/-- The address that is meant: any address means the host itself. -/
def destination (ip : IPv4) : IPv4 := if ip = .any then .loopback else ip

/-- Whether the host has a route to an address. -/
def reaches (host : Host) (ip : IPv4) : Bool :=
  host.loopbackUp ∧ (destination ip).isLoopback

/-- Connects a socket. It gets a port first, even if the connection fails. -/
def connect (host : Host) (h : Handle) (target : SocketAddress) :
    Except Errno Unit × Host :=
  match host.find? h with
  | none => (.error .badDescriptor, host)
  | some s =>
    let (s, host) := host.withPort s
    if host.reaches target.ip then
      (.ok (), host.put { s with
        peer := some { target with ip := destination target.ip } })
    else (.error .networkUnreachable, host)

/-- Whether a socket takes datagrams from a sender. -/
def accepts (s : Socket) (port : UInt16) (sender : SocketAddress) : Bool :=
  s.port == some port ∧ (s.peer.isNone ∨ s.peer = some sender)

/-- Lays a datagram into the queue of the socket it is for. Where there is none,
a sender that is connected to it will learn so by its next call. -/
def deliver (host : Host) (s : Socket) (target : SocketAddress)
    (payload : List UInt8) : Host :=
  let sender : SocketAddress := ⟨.loopback, s.port.getD 0⟩
  match host.sockets.find? (accepts · target.port sender) with
  | some receiver =>
    host.put { receiver with queue := receiver.queue ++ [⟨sender, payload⟩] }
  | none =>
    if s.peer = some { target with ip := destination target.ip } then
      host.put { s with pending := some .connectionRefused }
    else host

/-- Sends along a route that exists. An error that is pending comes first. -/
def transmit (host : Host) (s : Socket) (target : SocketAddress)
    (payload : List UInt8) :
    Except Errno Int × Host :=
  if longestDatagram < payload.length then (.error .messageTooLong, host)
  else match s.pending with
    | some errno => (.error errno, host.put { s with pending := none })
    | none =>
      if s.isShut then (.error .brokenPipe, host)
      else (.ok payload.length, host.deliver s target payload)

/-- Sends on a connected socket. A socket without a port gets one first, even if
the send fails. -/
def send (host : Host) (h : Handle) (payload : List UInt8) :
    Except Errno Int × Host :=
  match host.find? h with
  | none => (.error .badDescriptor, host)
  | some s =>
    let (s, host) := host.withPort s
    if longestMessage < payload.length then (.error .messageTooLong, host)
    else match s.peer with
      | none => (.error .destinationRequired, host)
      | some peer => host.transmit s peer payload

/-- Sends to an address. A socket without a port gets one first, even if the
send fails. -/
def sendTo (host : Host) (h : Handle) (target : SocketAddress)
    (payload : List UInt8) :
    Except Errno Int × Host :=
  match host.find? h with
  | none => (.error .badDescriptor, host)
  | some s =>
    let (s, host) := host.withPort s
    if longestMessage < payload.length then (.error .messageTooLong, host)
    else if target.port = 0 then (.error .invalidArgument, host)
    else if host.reaches target.ip then host.transmit s target payload
    else (.error .networkUnreachable, host)

/-! ## Receiving -/

/-- What a socket that was shut down receives when nothing is queued. -/
def nothing : Datagram := ⟨⟨.any, 0⟩, []⟩

/-- Receives the oldest datagram, cut to `max` bytes. `none` says that the call
does not return, since nothing is queued. -/
def receive (host : Host) (h : Handle) (max : Nat) :
    Option (Except Errno Datagram) × Host :=
  match host.find? h with
  | none => (some (.error .badDescriptor), host)
  | some s =>
    match s.pending, s.queue with
    | some errno, _ =>
      (some (.error errno), host.put { s with pending := none })
    | none, d :: rest =>
      (some (.ok { d with payload := d.payload.take max }),
        host.put { s with queue := rest })
    | none, [] => (if s.isShut then some (.ok nothing) else none, host)

/-- Shuts a socket down in both directions. -/
def shutdown (host : Host) (h : Handle) : Host :=
  match host.find? h with
  | none => host
  | some s => host.put { s with isShut := true }

/-- The events a poll reports for a socket. -/
def events (host : Host) (h : Handle) : Nat :=
  match host.find? h with
  | none => invalid
  | some s =>
    (if s.queue ≠ [] ∨ s.isShut then readable else 0) +
      (if s.pending.isSome then failed else 0) +
        (if s.isShut then hungUp else 0)

/-! ## Waking -/

/-- Opens a pair: the end to write to and the end to read from. -/
def pair (host : Host) : (Handle × Handle) × Host :=
  let writeEnd := host.nextHandle
  let readEnd := host.nextHandle + 1
  ((writeEnd, readEnd),
    { host with
      pairs := host.pairs ++ [{ writeEnd, readEnd }]
      nextHandle := host.nextHandle + 2 })

/-- Writes a byte into a pair. -/
def wake (host : Host) (h : Handle) : Except Errno Int × Host :=
  if host.pairs.any (·.writeEnd == h) then
    (.ok 1,
      { host with
        pairs := host.pairs.map fun p =>
          if p.writeEnd = h then { p with queued := p.queued + 1 } else p })
  else (.error .badDescriptor, host)

/-- The events a poll reports for the end of a pair that is read from. -/
def wakeEvents (host : Host) (h : Handle) : Nat :=
  match host.pairs.find? (·.readEnd == h) with
  | none => invalid
  | some p => if p.queued = 0 then 0 else readable

end Host

end ClockSync.Net
