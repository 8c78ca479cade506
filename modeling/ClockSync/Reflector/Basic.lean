import ClockSync.Clock.Readings
import ClockSync.Clock.Source
import ClockSync.Log
import ClockSync.Net.DatagramSocket
import ClockSync.Reflector.Stats
import ClockSync.Wire.Packet

/-!
# Reflectors

A reflector answers each well-formed request with its own time and drops all
else. It is a state (`Reflector`) with four operations: `start` and `stop`, and
for one received datagram `examine`, which says whether there is a request to
answer, and `answer`. What the system calls gave is an argument of the
operations; which clock readings were taken, what is sent and what is logged are
part of their results. `handle` is all that is done about one receive.
-/

namespace ClockSync

namespace Reflector

open Net Wire

/-- What a reflector may be told. -/
structure Options where
  /-- Whether every answered request is logged. -/
  verbose : Bool := false
  sink : Option LogSink := none
deriving DecidableEq, Repr, Inhabited

/-- What may go wrong. -/
inductive Error where
  | notCreated (error : SocketError)
  | notBound (error : SocketError)
  | notReceived (error : SocketError)
  | malformed (what : Malformed)
  | notSent (error : SocketError)
deriving DecidableEq, Repr

/-- The wording of an error. -/
def Error.message : Error → String
  | notCreated e => "Socket initialization failed: " ++ e.message
  | notBound e => "Socket bind failed: " ++ e.message
  | notReceived e => "Receive failed: " ++ e.message
  | malformed (.size bytes) => s!"received incomplete packet of {bytes}"
  | malformed .signature => "protocol mismatch"
  | malformed .direction => "received reply packet"
  | notSent e => "Send failed: " ++ e.message

/-- What a reflector logs. -/
inductive Event where
  | error (error : Error)
  /-- A request was answered, by the stamps of both sides. -/
  | processed (sender : Endpoint) (requesterTime responderTime : UInt64)
deriving DecidableEq, Repr

/-- The line that an event makes in a log. How ports are shown is up to the
reader of the log. -/
def Event.text (portText : UInt16 → String) : Event → String
  | error e => "[ReflectorServer] " ++ e.message
  | processed sender requesterTime responderTime =>
    s!"[ReflectorServer] processed request from {sender.address}:{portText sender.port}, " ++
      s!"remote time {requesterTime}, local time {responderTime}"

/-- What was logged, oldest first. -/
abbrev Log := List (Reported Event)

end Reflector

/-- A reflector. -/
structure Reflector where
  serving : Bool := false
  /-- The port it serves on; zero if it does not serve or does not know. -/
  port : UInt16 := 0
  clock : ClockSource := .standard
  options : Reflector.Options := {}
  counters : Reflector.Counters := {}
  lastError : Option Reflector.Error := none
deriving Repr, Inhabited

namespace Reflector

open Net Wire

/-- The longest prefix of a datagram that is received: one byte more than a
packet, so that longer datagrams can be told. -/
def receiveLimit : Nat := packetSize + 1

/-- The wording of the last error; nothing if there was none. -/
def errorText (r : Reflector) : String :=
  (r.lastError.map Error.message).getD ""

/-- Logs an error and keeps it as the last one. -/
def fail (r : Reflector) (e : Error) : Reflector × Log :=
  ({ r with lastError := some e }, report r.options.sink (.error e))

/-! ## Starting and stopping -/

/-- Starts serving, if a socket could be bound. The clock and the options are in
force even if it could not. A reflector that serves already goes on as
before. -/
def start (r : Reflector) (clock : ClockSource) (options : Options)
    (bound : Except Error UInt16) : Bool × Reflector × Log :=
  if r.serving then (true, r, [])
  else
    let r := { r with clock, options }
    match bound with
    | .ok port => (true, { r with serving := true, port }, [])
    | .error e =>
      let (r, log) := r.fail e
      (false, r, log)

/-- Stops serving. -/
def stop (r : Reflector) : Reflector :=
  if r.serving then { r with serving := false, port := 0 } else r

/-! ## One datagram -/

/-- A request that is to be answered. -/
structure Request where
  sender : Endpoint
  packet : Packet
deriving DecidableEq, Repr

/-- Counts what a receive gave, and finds the request in it. -/
def examine (r : Reflector) :
    Except SocketError Datagram → Option Request × Reflector × Log
  | .error e =>
    let (r, log) :=
      { r with counters.receiveErrors := r.counters.receiveErrors + 1 }.fail
      (.notReceived e)
    (none, r, log)
  | .ok d =>
    match Packet.decodeRequest d.payload with
    | .ok packet =>
      (some ⟨.ofSocketAddress d.sender, packet⟩,
        { r with counters.received := r.counters.received + 1 }, [])
    | .error what =>
      let c := r.counters
      let counters := match what with
        | .size _ => { c with incomplete := c.incomplete + 1 }
        | .signature => { c with mismatched := c.mismatched + 1 }
        | .direction => { c with replies := c.replies + 1 }
      let (r, log) := { r with counters }.fail (.malformed what)
      (none, r, log)

/-- The reply to a request at a time. -/
def replyTo (request : Request) (now : Int64) : Bytes :=
  (request.packet.reply now).serialize

/-- Notes that a request was answered at a time, and how sending the reply
ended. -/
def answer (r : Reflector) (request : Request) (now : Int64)
    (sent : Except SocketError Unit) :
    Reflector × Log :=
  let processed :=
    if r.options.verbose then
      report r.options.sink
        (.processed request.sender request.packet.requesterTime now.toUInt64)
    else []
  match sent with
  | .ok () => ({ r with counters.sent := r.counters.sent + 1 }, processed)
  | .error e =>
    let (r, log) :=
      { r with counters.sendErrors := r.counters.sendErrors + 1 }.fail
        (.notSent e)
    (r, processed ++ log)

/-- What was done about one receive. -/
structure Handled where
  reflector : Reflector
  clock : Readings
  /-- What was sent, and where to. -/
  reply : Option (Endpoint × Bytes)
  log : Log

/-- Does all that is to be done about one receive. `send` says how sending a
reply ends; it is asked only if there is a reply, and a reading of the clock is
taken only then. -/
def handle (r : Reflector) (clock : Readings)
    (received : Except SocketError Datagram)
    (send : Endpoint → Bytes → Except SocketError Unit) : Handled :=
  match r.examine received with
  | (none, r, log) => ⟨r, clock, none, log⟩
  | (some request, r, log) =>
    let (now, clock) := r.clock.read clock
    let reply := replyTo request now
    let (r, more) := r.answer request now (send request.sender reply)
    ⟨r, clock, some (request.sender, reply), log ++ more⟩

end Reflector

end ClockSync
