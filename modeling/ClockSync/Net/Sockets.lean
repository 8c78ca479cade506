import ClockSync.Net.DatagramSocket

/-!
# Several sockets of one host

Sockets that are numbered and made on first use, driven step by step. System
calls may end as scripted for a step; what of that script is not used up is
forgotten with the next step.
-/

namespace ClockSync.Net

/-- Sockets by number, on a host. -/
structure Sockets where
  sockets : List DatagramSocket := []
  system : System

namespace Sockets

/-- A port that is given, or that of the socket with a number. -/
inductive PortRef where
  | number (port : UInt16)
  | ofSocket (index : Nat)
deriving DecidableEq, Repr

/-- What a step does with a socket. -/
inductive Action where
  | create
  /-- Binds to any free port. -/
  | bind
  | connect (address : String) (port : PortRef)
  /-- Waits for so many microseconds. -/
  | wait (timeout : Int64)
  /-- Receives into a buffer that holds other bytes before; the sender may be
  asked for or not. -/
  | receive (before : List UInt8) (max : Nat) (asksSender : Bool)
  | sendTo (address : String) (port : PortRef) (payload : List UInt8)
  | send (payload : List UInt8)
  | shutdown
  | close
  | look
deriving Repr

/-- What came of a step. -/
inductive Result where
  | done (ok : Bool)
  /-- Whether the socket can be read, and the milliseconds of the poll if there
  was one. -/
  | waited (ok : Bool) (timeout : Option Int32)
  /-- Whether something was received, the buffer after it, the address of the
  sender if it was asked for and given, and the socket that has the sender's
  port. -/
  | received (ok : Bool) (buffer : List UInt8) (address : String)
      (sender : Option Nat)
  /-- The call does not return. -/
  | blocked
  | nothing
deriving Repr

/-- The socket with a number. -/
def get (ss : Sockets) (index : Nat) : DatagramSocket :=
  ss.sockets.getD index default

/-- Puts a changed socket back; those before it are made if there are none. -/
def put (ss : Sockets) (index : Nat) (s : DatagramSocket) (system : System) :
    Sockets where
  sockets :=
    (ss.sockets ++ List.replicate (index + 1 - ss.sockets.length) default)
      |>.set index s
  system := system

/-- The port of the socket with a number. -/
def portOf (ss : Sockets) (index : Nat) : UInt16 :=
  ((ss.get index).handle.map ss.system.host.localPort).getD 0

/-- The port that is meant. -/
def port (ss : Sockets) : PortRef → UInt16
  | .number port => port
  | .ofSocket index => ss.portOf index

/-- The socket that has a port. -/
def indexOfPort (ss : Sockets) (port : UInt16) : Option Nat :=
  (List.range ss.sockets.length).find? fun i => port != 0 && ss.portOf i == port

/-- Makes a step with the socket of a number. -/
def step (ss : Sockets) (index : Nat) (script : Script) (action : Action) :
    Result × Sockets :=
  let ss := { ss with system.script := script }
  let s := ss.get index
  let finish := fun (outcome : DatagramSocket.Outcome Unit) =>
    let (result, s, system) := outcome
    (Result.done result.isOk, ss.put index s system)
  match action with
  | .create => finish (s.create ss.system)
  | .bind => finish (s.bind ss.system 0)
  | .connect address port =>
    finish (s.connect ss.system ⟨address, ss.port port⟩)
  | .sendTo address port payload =>
    finish (s.sendTo ss.system ⟨address, ss.port port⟩ payload)
  | .send payload => finish (s.send ss.system payload)
  | .wait timeout =>
    let (result, after, system) := s.waitReadable ss.system
    let polled :=
      if s.isOpen then some (DatagramSocket.pollTimeout timeout) else none
    (.waited (result.toOption.getD false) polled, ss.put index after system)
  | .receive before max asksSender =>
    match s.receive ss.system max before with
    | none => (.blocked, ss)
    | some (.ok d, after, system) =>
      let ss := ss.put index after system
      if asksSender then
        (.received true d.payload d.sender.ip.dotted
          (ss.indexOfPort d.sender.port), ss)
      else (.received true d.payload "" none, ss)
    | some (.error e, after, system) =>
      let buffer := if e = .notInitialized then before else []
      (.received false buffer "" none, ss.put index after system)
  | .shutdown => (.nothing, ss.put index s (s.shutdown ss.system))
  | .close =>
    let (after, system) := s.close ss.system
    (.nothing, ss.put index after system)
  | .look => (.nothing, ss.put index s ss.system)

end Sockets

end ClockSync.Net
