import ClockSync.Reflector.Basic

/-!
# Sessions of a reflector

A reflector on a host, with another socket of the host that sends datagrams to
it. Each step of a session may put new readings on the clock and have system
calls end as scripted; what of that script is not used up is forgotten with the
step. After a datagram the serving loop runs until there is nothing more to
read.
-/

namespace ClockSync.Reflector

open Net Wire

/-- A reflector, the socket it serves on, and the socket of the other side. -/
structure Session where
  reflector : Reflector := {}
  socket : DatagramSocket := {}
  requester : Handle
  system : System
  clock : Readings := { next := 0 }

namespace Session

/-- A session on a host, before the first start. -/
def new (host : Host) : Session :=
  let (requester, host) := host.socket
  { requester, system := { host := (host.bind requester 0).2 } }

/-! ## The serving loop -/

/-- Receives one datagram into a new buffer and handles it; `none` if the
receive does not return. -/
def handleOne (s : Session) : Option (Session × Log) :=
  match s.socket.receive s.system receiveLimit [] with
  | none => none
  | some (received, socket, system) =>
    let send := fun target reply => (socket.sendTo system target reply).1
    let handled := s.reflector.handle s.clock received send
    let (socket, system) := match handled.reply with
      | some (target, reply) => (socket.sendTo system target reply).2
      | none => (socket, system)
    some ({ s with
      reflector := handled.reflector
      clock := handled.clock
      socket
      system },
      handled.log)

/-- The passes of the serving loop until there is nothing to read, at most
`fuel` of them. A wait that fails, or finds nothing only because it was scripted
to, is tried again. -/
def serve : Nat → Session → Session × Log
  | 0, s => (s, [])
  | fuel + 1, s =>
    let (ready, socket, system) := s.socket.waitReadable s.system
    let scripted := system.script.length < s.system.script.length
    let s := { s with socket, system }
    match ready with
    | .ok true =>
      match s.handleOne with
      | none => (s, [])
      | some (s, log) =>
        let (s, more) := serve fuel s
        (s, log ++ more)
    | _ => if scripted then serve fuel s else (s, [])

/-- How many passes of the serving loop there can be: each uses up an outcome of
the script or takes a datagram off the queue. -/
def passes (s : Session) : Nat :=
  s.system.script.length +
    ((s.socket.handle.bind s.system.host.find?).elim 0 (·.queue.length))

/-! ## Steps -/

/-- What a step of a session does. -/
inductive Action where
  | start (clock : ClockSource) (options : Options)
  | datagram (payload : Bytes)
  | stop
  | look
deriving Repr

/-- A step: what is scripted for it, and what it does. -/
structure Step where
  /-- New readings of the clock; none leave the clock as it is. -/
  readings : List Int64 := []
  script : Script := []
  action : Action
deriving Repr

/-- What came of an action. -/
inductive Result where
  | started (ok : Bool)
  | replied (reply : Option Bytes)
  | nothing
deriving Repr

/-- Opens and binds a socket for a reflector. -/
def bindSocket (s : Session) (port : UInt16) :
    Except Error UInt16 × DatagramSocket × System :=
  match ({} : DatagramSocket).create s.system with
  | (.error e, socket, system) => (.error (.notCreated e), socket, system)
  | (.ok (), socket, system) =>
    match socket.bind system port with
    | (.error e, socket, system) =>
      let (socket, system) := socket.close system
      (.error (.notBound e), socket, system)
    | (.ok (), socket, system) =>
      let (bound, system) := socket.localPort system
      (.ok bound, socket, system)

/-- Starts the reflector on a port, zero for any free one. -/
def start (s : Session) (clock : ClockSource) (options : Options)
    (port : UInt16) :
    Bool × Session × Log :=
  if s.reflector.serving then (true, s, [])
  else
    let (bound, socket, system) := s.bindSocket port
    let (ok, reflector, log) := s.reflector.start clock options bound
    (ok, { s with reflector, socket, system }, log)

/-- Stops the reflector. -/
def stop (s : Session) : Session :=
  if s.reflector.serving then
    let (socket, system) := s.socket.close s.system
    { s with reflector := s.reflector.stop, socket, system }
  else s

/-- Sends a datagram to the reflector and lets it serve. The result is what the
other side got back. -/
def exchange (s : Session) (payload : Bytes) : Option Bytes × Session × Log :=
  let port := (s.socket.handle.map s.system.host.localPort).getD 0
  let (_, host) := s.system.host.sendTo s.requester ⟨.loopback, port⟩ payload
  let s := { s with system.host := host }
  let (s, log) := serve s.passes s
  match s.system.host.receive s.requester packetSize with
  | (some (.ok d), host) =>
    (some d.payload, { s with system.host := host }, log)
  | (_, host) => (none, { s with system.host := host }, log)

/-- Makes a step. -/
def step (s : Session) (what : Step) : Result × Session × Log :=
  let s :=
    { s with
      clock := s.clock.replace what.readings
      system.script := what.script }
  let (result, s, log) := match what.action with
    | .start clock options =>
      let (ok, s, log) := s.start clock options 0
      (Result.started ok, s, log)
    | .datagram payload =>
      let (reply, s, log) := s.exchange payload
      (.replied reply, s, log)
    | .stop => (.nothing, s.stop, [])
    | .look => (.nothing, s, [])
  (result, { s with system.script := [] }, log)

end Session

end ClockSync.Reflector
