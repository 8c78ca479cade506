import ClockSync.Net.System

/-!
# Datagram sockets with an error to look up

A `DatagramSocket` makes the system calls for one socket and remembers the last
error as a cause (`SocketError`). The error stays until the next one.
-/

namespace ClockSync.Net

/-- What may go wrong with a socket. -/
inductive SocketError where
  /-- The socket is not open. -/
  | notInitialized
  /-- The address is not in the normal form. -/
  | invalidAddress (address : String)
  | creation (errno : Errno)
  | bind (errno : Errno)
  | connect (errno : Errno)
  | poll (errno : Errno)
  | receive (errno : Errno)
  | send (errno : Errno)
  /-- Not the whole datagram was sent. -/
  | partialSend (sent : Int) (size : Nat)
deriving DecidableEq, Repr

/-- The wording of an error. -/
def SocketError.message : SocketError → String
  | notInitialized => "Socket not initialized"
  | invalidAddress address => "Invalid IP address: " ++ address
  | creation errno => errno.describe "socket creation failed"
  | bind errno => errno.describe "bind failed"
  | connect errno => errno.describe "connect failed"
  | poll errno => errno.describe "poll failed"
  | receive errno => errno.describe "recvfrom failed"
  | send errno => errno.describe "send failed"
  | partialSend sent size => s!"Partial send: sent {sent} of {size} bytes"

/-- Whether a datagram of `size` bytes was sent as a whole, by what the call
returned. -/
def checkSent (size : Nat) : Except Errno Int → Except SocketError Unit
  | .error errno => .error (.send errno)
  | .ok sent => if sent = size then .ok () else .error (.partialSend sent size)

/-- A socket, open or not, and its last error. -/
structure DatagramSocket where
  handle : Option Handle := none
  lastError : Option SocketError := none
deriving Repr, Inhabited

namespace DatagramSocket

/-- The wording of the last error; nothing if there was none. -/
def errorText (s : DatagramSocket) : String :=
  (s.lastError.map SocketError.message).getD ""

/-- Whether the socket is open. -/
def isOpen (s : DatagramSocket) : Bool := s.handle.isSome

/-- What an operation gives, and the socket and the system after it. -/
abbrev Outcome (α : Type) := Except SocketError α × DatagramSocket × System

/-- Notes the error of a failed operation. -/
def settle {α : Type} (s : DatagramSocket) (sys : System) :
    Except SocketError α → Outcome α
  | .ok a => (.ok a, s, sys)
  | .error e => (.error e, { s with lastError := some e }, sys)

/-- Opens the socket. -/
def create (s : DatagramSocket) (sys : System) : Outcome Unit :=
  match sys.socket with
  | (.ok h, sys) => (.ok (), { s with handle := some h }, sys)
  | (.error errno, sys) =>
    { s with handle := none }.settle sys (.error (.creation errno))

/-- Gives the socket a port. -/
def bind (s : DatagramSocket) (sys : System) (port : UInt16) : Outcome Unit :=
  match s.handle with
  | none => s.settle sys (.error .notInitialized)
  | some h =>
    let (result, sys) := sys.bind h port
    s.settle sys (result.mapError .bind)

/-- Connects the socket to an endpoint. -/
def connect (s : DatagramSocket) (sys : System) (target : Endpoint) :
    Outcome Unit :=
  match s.handle, target.toSocketAddress? with
  | none, _ => s.settle sys (.error .notInitialized)
  | some _, none => s.settle sys (.error (.invalidAddress target.address))
  | some h, some address =>
    let (result, sys) := sys.connect h address
    s.settle sys (result.mapError .connect)

/-- The whole milliseconds of a time in microseconds, cut to 32 bits. -/
def pollTimeout (microseconds : Int64) : Int32 := (microseconds / 1000).toInt32

/-- Whether the socket can be read, by what a poll gave. A poll that runs out of
time finds nothing. -/
def waitReadable (s : DatagramSocket) (sys : System) : Outcome Bool :=
  match s.handle with
  | none => s.settle sys (.error .notInitialized)
  | some h =>
    match sys.poll h with
    | (some (.error errno), sys) => s.settle sys (.error (.poll errno))
    | (some (.ok (count, events)), sys) =>
      (.ok (decide (0 < count) && events &&& Host.readable != 0), s, sys)
    | (none, sys) => (.ok false, s, sys)

/-- Receives a datagram of at most `max` bytes into a buffer that held other
bytes before; `none` says that the call does not return. -/
def receive (s : DatagramSocket) (sys : System) (max : Nat)
    (before : List UInt8) :
    Option (Outcome Datagram) :=
  match s.handle with
  | none => some (s.settle sys (.error .notInitialized))
  | some h =>
    match sys.receive h max before with
    | (none, _) => none
    | (some result, sys) => some (s.settle sys (result.mapError .receive))

/-- Sends a datagram to an endpoint. -/
def sendTo (s : DatagramSocket) (sys : System) (target : Endpoint)
    (payload : List UInt8) :
    Outcome Unit :=
  match s.handle, target.toSocketAddress? with
  | none, _ => s.settle sys (.error .notInitialized)
  | some _, none => s.settle sys (.error (.invalidAddress target.address))
  | some h, some address =>
    let (result, sys) := sys.sendTo h address payload
    s.settle sys (checkSent payload.length result)

/-- Sends a datagram to the endpoint the socket is connected to. -/
def send (s : DatagramSocket) (sys : System) (payload : List UInt8) :
    Outcome Unit :=
  match s.handle with
  | none => s.settle sys (.error .notInitialized)
  | some h =>
    let (result, sys) := sys.send h payload
    s.settle sys (checkSent payload.length result)

/-- Stops all traffic on the socket, which stays open. -/
def shutdown (s : DatagramSocket) (sys : System) : System :=
  match s.handle with
  | none => sys
  | some h => sys.shutdown h

/-- Closes the socket. -/
def close (s : DatagramSocket) (sys : System) : DatagramSocket × System :=
  ({ s with handle := none }, match s.handle with
    | none => sys
    | some h => sys.close h)

/-- The port of the socket, zero if it has none. -/
def localPort (s : DatagramSocket) (sys : System) : UInt16 × System :=
  match s.handle with
  | none => (0, sys)
  | some h => sys.localPort h

end DatagramSocket

end ClockSync.Net
