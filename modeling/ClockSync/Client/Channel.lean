import ClockSync.Net.DatagramSocket

/-!
# The channel of a client

A client talks to its reflector over a connected socket, and its receiving side
waits for that socket and for a wake-up at the same time, so that it can be
called off whatever the network does. A channel is closed, or it has the socket
and both ends of the pair by which it is woken, as far as opening the pair gave
them.

The operations work on what the system calls gave: a whole list of outcomes
where an interrupted call is repeated, a function where the call is made only if
the channel is open.
-/

namespace ClockSync.Client

open Net

/-- What may go wrong with a channel. -/
inductive ChannelError where
  | alreadyOpen
  | unresolved (host : Name.Unresolved)
  | notCreated (error : SocketError)
  | notConnected (error : SocketError)
  | noPair (errno : Errno)
  | notOpen
  | socket (error : SocketError)
  | poll (errno : Errno)
  | invalidDescriptor
  | wakeNotOpen
  | wake (errno : Errno)
deriving DecidableEq, Repr

/-- The wording of an error. -/
def ChannelError.message : ChannelError → String
  | alreadyOpen => "transport already open"
  | unresolved u => u.message
  | notCreated e => "Socket initialization failed: " ++ e.message
  | notConnected e => "Socket connect failed: " ++ e.message
  | noPair errno => errno.describe "socketpair failed"
  | notOpen => "socket not open"
  | socket e => e.message
  | poll errno => errno.describe "poll failed"
  | invalidDescriptor => "socket descriptor invalid"
  | wakeNotOpen => "wake-up channel not open"
  | wake errno => errno.describe "wake-up write failed"

/-- A channel. -/
structure Channel where
  socket : Option Handle := none
  /-- The end of the pair that is written to, to wake the other side. -/
  wakeWriter : Option Handle := none
  /-- The end of the pair that is waited for. -/
  wakeReader : Option Handle := none
  /-- The endpoint of the reflector, as it was last connected to. -/
  remote : Endpoint := {}
  lastError : Option ChannelError := none
deriving DecidableEq, Repr, Inhabited

/-- How far an attempt to open a channel got, and what it opened on the way. The
ends of a pair are the one to write to and the one to wait for. -/
inductive Attempt where
  | unresolved (host : Name.Unresolved)
  | notCreated (error : SocketError)
  | notConnected (socket : Handle) (error : SocketError)
  | noPair (socket : Handle) (errno : Errno)
  | complete (remote : Endpoint) (socket : Handle)
      (pair : Option (Handle × Handle))
deriving DecidableEq, Repr

/-- The first outcome that is no interruption. -/
def uninterrupted? {α : Type} : List (Except Errno α) → Option (Except Errno α)
  | [] => none
  | .ok a :: _ => some (.ok a)
  | .error errno :: rest =>
    if errno = .interrupted then uninterrupted? rest else some (.error errno)

/-- How a wait ended. -/
inductive Wait where
  /-- The socket has a datagram, or an error. -/
  | readable
  /-- The channel was woken. -/
  | interrupted
  | failed (error : ChannelError)
deriving DecidableEq, Repr

namespace Channel

/-- Whether the channel is open. -/
def isOpen (c : Channel) : Bool := c.socket.isSome

/-- The wording of the last error; nothing if there was none. -/
def errorText (c : Channel) : String :=
  (c.lastError.map ChannelError.message).getD ""

/-- Notes the error of a failed operation. -/
def settle {α : Type} (c : Channel) (result : Except ChannelError α) :
    Except ChannelError α × Channel :=
  match result with
  | .ok _ => (result, c)
  | .error e => (result, { c with lastError := some e })

/-! ## Opening and closing -/

/-- What opening or closing a channel gives: the channel, whether it went well,
and the descriptors that were closed on the way. -/
structure Change where
  result : Except ChannelError Unit
  channel : Channel
  closed : List Handle

/-- Opens the channel as far as the attempt got. What a failed attempt opened is
closed again. An open channel stays as it is. -/
def connect (c : Channel) (attempt : Attempt) : Change :=
  let refuse := fun (e : ChannelError) (closed : List Handle) =>
    let (result, c) := c.settle (.error e)
    (⟨result, c, closed⟩ : Change)
  if c.isOpen then refuse .alreadyOpen []
  else match attempt with
    | .unresolved host => refuse (.unresolved host) []
    | .notCreated e => refuse (.notCreated e) []
    | .notConnected socket e => refuse (.notConnected e) [socket]
    | .noPair socket errno => refuse (.noPair errno) [socket]
    | .complete remote socket pair =>
      ⟨.ok (),
        { c with
          socket := some socket
          wakeWriter := pair.map (·.1)
          wakeReader := pair.map (·.2)
          remote },
        []⟩

/-- Closes the channel and all its descriptors. -/
def close (c : Channel) : Change where
  result := .ok ()
  channel := { c with socket := none, wakeWriter := none, wakeReader := none }
  closed := [c.socket, c.wakeWriter, c.wakeReader].filterMap id

/-! ## Traffic -/

/-- Sends a datagram. -/
def send (c : Channel) (call : Handle → Except SocketError Unit) :
    Except ChannelError Unit × Channel :=
  match c.socket with
  | none => c.settle (.error .notOpen)
  | some h => c.settle ((call h).mapError .socket)

/-- Receives a datagram; `none` says that the call does not return. -/
def receive {α : Type} (c : Channel)
    (call : Handle → Option (Except SocketError α)) :
    Option (Except ChannelError α × Channel) :=
  match c.socket with
  | none => some (c.settle (.error .notOpen))
  | some h => (call h).map fun result => c.settle (result.mapError .socket)

/-- How a wait ends by the events of the socket and of the pair. Being woken
goes before all else. -/
def eventsToWait (events wakeEvents : Nat) : Wait :=
  if wakeEvents ≠ 0 then .interrupted
  else if events &&& Host.invalid ≠ 0 then .failed .invalidDescriptor
  else .readable

/-- Waits until the socket can be read or the channel is woken, by what the
polls gave: the events of the socket and of the pair. `none` says that the wait
goes on. -/
def wait (c : Channel) (polls : List (Except Errno (Nat × Nat))) :
    Option Wait × Channel :=
  let fail := fun (e : ChannelError) =>
    (some (Wait.failed e), { c with lastError := some e })
  match c.socket, c.wakeReader with
  | some _, some _ =>
    match uninterrupted? polls with
    | none => (none, c)
    | some (.error errno) => fail (.poll errno)
    | some (.ok (events, wakeEvents)) =>
      match eventsToWait events wakeEvents with
      | .failed e => fail e
      | ended => (some ended, c)
  | _, _ => fail .notOpen

/-- Wakes the side that waits, by what the writes gave. Where no more can be
written, a wake-up is under way already. `none` says that the write goes on. -/
def interrupt (c : Channel) (writes : Handle → List (Except Errno Int)) :
    Option (Except ChannelError Unit × Channel) :=
  match c.wakeWriter with
  | none => some (c.settle (.error .wakeNotOpen))
  | some h =>
    (uninterrupted? (writes h)).map fun
      | .error errno =>
        c.settle (if errno = .tryAgain then .ok () else .error (.wake errno))
      | .ok _ => c.settle (.ok ())

end Channel

end ClockSync.Client
