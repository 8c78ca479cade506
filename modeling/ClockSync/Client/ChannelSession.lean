import ClockSync.Client.Session

/-!
# Sessions of a channel

A channel on its own, with a socket of the same host at the other end, driven
step by step. System calls may end as scripted for a step; what of that script
is not used up is forgotten with the next step.
-/

namespace ClockSync.Client

open Net Wire

/-- A channel and the other side. -/
structure ChannelSession where
  channel : Channel := {}
  system : System
  /-- The socket at the other end. -/
  peer : Handle

namespace ChannelSession

/-- A session on a host, before the channel is first opened. -/
def new (host : Host) : ChannelSession :=
  let (peer, host) := host.socket
  { peer, system := { host := (host.bind peer 0).2 } }

/-- What a step does. -/
inductive Action where
  | connect (host : String)
  | send (payload : Bytes)
  /-- The other side sends. -/
  | peerSends (payload : Bytes)
  | wait
  /-- Receives into a buffer that holds other bytes before. -/
  | receive (before : Bytes) (max : Nat)
  | interrupt (times : Nat)
  | shutdownSocket
  | close
  | look
deriving Repr

/-- What came of a step. -/
inductive Result where
  | done (ok : Bool)
  /-- Whether a datagram was sent, and what came to the other side. -/
  | sent (ok : Bool) (arrived : Option Bytes)
  | waited (how : Wait)
  /-- Whether something was received, and the buffer after it. -/
  | received (ok : Bool) (buffer : Bytes)
  | nothing
deriving Repr

/-- Opens the channel to the other side. -/
def connect (s : ChannelSession) (host : String) : Bool × ChannelSession :=
  let (attempt, system) :=
    if s.channel.isOpen then (.notCreated .notInitialized, s.system)
    else Session.attempt s.system host (s.system.host.localPort s.peer)
  let change := s.channel.connect attempt
  (change.result.isOk,
    { s with
      channel := change.channel
      system := Session.closeAll system change.closed })

/-- Sends a datagram and takes what came to the other side. -/
def send (s : ChannelSession) (payload : Bytes) : Result × ChannelSession :=
  let (result, channel) := s.channel.send fun h =>
    (Session.sendCall s.system h payload).1
  let system := match s.channel.socket with
    | some h => (Session.sendCall s.system h payload).2
    | none => s.system
  let (arrived, host) := system.host.receive s.peer Host.longestMessage
  let arrived := match arrived with
    | some (.ok d) => some d.payload
    | _ => none
  (.sent result.isOk arrived,
    { s with channel, system := { system with host } })

/-- Writes wake-ups, as many as are asked for, and says whether all went
well. -/
def interrupt (s : ChannelSession) : Nat → Except Stuck (Bool × ChannelSession)
  | 0 => .ok (true, s)
  | times + 1 =>
    match s.channel.interrupt fun h => (Session.wakeCall s.system h).1 with
    | none => .error .neverReturns
    | some (result, channel) => do
      let system := match s.channel.wakeWriter with
        | some h => (Session.wakeCall s.system h).2
        | none => s.system
      let (rest, s) ← interrupt { s with channel, system } times
      .ok (result.isOk && rest, s)

/-- Makes a step. -/
def step (s : ChannelSession) (script : Script) (action : Action) :
    Except Stuck (Result × ChannelSession) :=
  let s := { s with system.script := script }
  match action with
  | .connect host =>
    let (ok, s) := s.connect host
    .ok (.done ok, s)
  | .send payload => .ok (s.send payload)
  | .peerSends payload =>
    let port := (s.channel.socket.map s.system.host.localPort).getD 0
    let (_, host) := s.system.host.sendTo s.peer ⟨.loopback, port⟩ payload
    .ok (.nothing, { s with system.host := host })
  | .wait =>
    let (outcomes, system) := Session.polls s.system s.channel
    match s.channel.wait outcomes with
    | (none, _) => .error .neverReturns
    | (some how, channel) => .ok (.waited how, { s with channel, system })
  | .receive before max =>
    match s.channel.receive fun h =>
      (Session.receiveCall s.system max before h).1 with
    | none => .error .neverReturns
    | some (result, channel) =>
      let system := match s.channel.socket with
        | some h => (Session.receiveCall s.system max before h).2
        | none => s.system
      let buffer := match result with
        | .ok data => data
        | .error e => if e = .notOpen then before else []
      .ok (.received result.isOk buffer, { s with channel, system })
  | .interrupt times => do
    let (ok, s) ← s.interrupt times
    .ok (.done ok, s)
  | .shutdownSocket =>
    let system := match s.channel.socket with
      | some h => s.system.shutdown h
      | none => s.system
    .ok (.nothing, { s with system })
  | .close =>
    let change := s.channel.close
    .ok (.nothing,
      { s with
        channel := change.channel
        system := Session.closeAll s.system change.closed })
  | .look => .ok (.nothing, s)

end ChannelSession

end ClockSync.Client
