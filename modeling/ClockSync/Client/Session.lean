import ClockSync.Client.Basic

/-!
# Sessions of a client

A client on a host, with another socket of the host that plays the reflector.
Each step of a session may put new readings on the clock and have system calls
end as scripted; what of that script is not used up is forgotten with the next
step. After each step the receiving loop of the client runs until it waits
again.

Some steps make sense only while that loop waits for datagrams, and some calls
never return; a session that comes to such a step has no results (`Stuck`).
-/

namespace ClockSync.Client

open Net Wire

/-- Why a session has no results. -/
inductive Stuck where
  /-- There is no receiving loop that waits for what was sent to it, or that
  gets it. -/
  | notWaiting
  /-- A call does not return. -/
  | neverReturns
deriving DecidableEq, Repr

/-- A client and the other side. -/
structure Session where
  client : Client := {}
  system : System
  clock : Readings := { next := 0 }
  /-- The socket that plays the reflector. -/
  peer : Handle
  /-- Whether the receiving loop runs. -/
  looping : Bool := false
  /-- The buffer of the receiving loop: what it received last, if that went
  well. -/
  buffer : Bytes := []

namespace Session

/-- A session on a host, before the first start. -/
def new (host : Host) : Session :=
  let (peer, host) := host.socket
  { peer, system := { host := (host.bind peer 0).2 } }

/-! ## Opening a channel -/

/-- Opens what a channel needs, step by step, up to the first failure. -/
def attempt (system : System) (name : String) (port : UInt16) :
    Attempt × System :=
  let (answer, system) := system.lookup name
  match Name.resolve name port answer with
  | .error u => (.unresolved u, system)
  | .ok remote =>
    match ({} : DatagramSocket).create system with
    | (.error e, _, system) => (.notCreated e, system)
    | (.ok (), socket, system) =>
      let h := socket.handle.getD 0
      match socket.connect system remote with
      | (.error e, _, system) => (.notConnected h e, system)
      | (.ok (), _, system) =>
        match system.pair with
        | (.error errno, system) => (.noPair h errno, system)
        | (.ok ends, system) => (.complete remote h ends, system)

/-- Closes descriptors. -/
def closeAll (system : System) (handles : List Handle) : System :=
  handles.foldl .close system

/-! ## Calls on the channel -/

/-- Sends on a socket. -/
def sendCall (system : System) (h : Handle) (payload : Bytes) :
    Except SocketError Unit × System :=
  let (result, _, system) :=
    ({ handle := some h } : DatagramSocket).send system payload
  (result, system)

/-- Receives from a socket into a buffer that held other bytes before. -/
def receiveCall (system : System) (max : Nat) (before : Bytes) (h : Handle) :
    Option (Except SocketError Bytes) × System :=
  match ({ handle := some h } : DatagramSocket).receive system max before with
  | none => (none, system)
  | some (result, _, system) => (some (result.map (·.payload)), system)

/-- Polls for a wait of the channel. -/
def polls (system : System) (channel : Channel) :
    List (Except Errno (Nat × Nat)) × System :=
  match channel.socket, channel.wakeReader with
  | some h, some reader =>
    System.repeated (·.pollBoth h reader) system.attempts system
  | _, _ => ([], system)

/-- Writes a wake-up. -/
def wakeCall (system : System) (h : Handle) :
    List (Except Errno Int) × System :=
  System.repeated (fun system => let (result, system) := system.wake h;
    (some result, system))
    system.attempts system

/-! ## The receiving loop -/

/-- One turn of the receiving loop. -/
def turn (s : Session) : Turn × Session × Log :=
  let (outcomes, system) := polls s.system s.client.channel
  let call := receiveCall system receiveLimit s.buffer
  let (turn, taken) := s.client.receiveTurn s.clock outcomes fun h => (call h).1
  let reads : Bool := match uninterrupted? outcomes with
    | some (.ok (events, wakeEvents)) =>
      Channel.eventsToWait events wakeEvents == .readable && !s.client.quitting
    | _ => false
  let (received, system) := match s.client.channel.socket with
    | some h => if reads then call h else (none, system)
    | none => (none, system)
  let buffer := match received with
    | some (.ok data) => data
    | some (.error _) => []
    | none => s.buffer
  (turn,
    { s with
      client := taken.client, clock := taken.clock, system, buffer, looping :=
        turn ≠ .ended },
    taken.log)

/-- The turns of the receiving loop until it waits or ends, at most `fuel`. -/
def settle : Nat → Session → Session × Log
  | 0, s => (s, [])
  | fuel + 1, s =>
    if ¬ s.looping then (s, [])
    else
      let (turn, s, log) := s.turn
      match turn with
      | .goesOn =>
        let (s, more) := settle fuel s
        (s, log ++ more)
      | _ => (s, log)

/-- How many turns of the receiving loop there can be: each uses up an outcome
of the script, takes a datagram off the queue or clears an error, and one more
finds nothing. -/
def turns (s : Session) : Nat :=
  s.system.script.length +
    ((s.client.channel.socket.bind s.system.host.find?).elim
      0 (·.queue.length)) + 2

/-- Lets the receiving loop run until it waits again. -/
def run (s : Session) : Session × Log := settle s.turns s

/-! ## Steps -/

/-- What happens from outside while the client is running. -/
inductive Disturbance where
  /-- The other side sends a datagram. -/
  | datagram (payload : Bytes)
  | shutdown
deriving Repr

/-- What a step of a session does. -/
inductive Action where
  /-- Starts the client with options, the defaults changed by settings. The
  first requests are sent at once. If `peerClosed`, nobody listens where they
  go. -/
  | start (clock : ClockSource) (settings : List Setting)
      (host : String) (requests : Nat)
      (peerClosed : Bool)
  | disturb (what : Disturbance)
  /-- Lets the calls of the waiting loop end as scripted. -/
  | fault
  /-- Asks for all times. -/
  | read (start position : Float)
  /-- Asks for the accuracy, with the milliseconds it may wait if it waits. -/
  | accuracy (waits forgets : Bool) (timeout : Int)
  /-- Waits for the accuracy while other things happen. -/
  | await (forgets : Bool) (timeout : Int)
      (during : List (List Int64 × Script × Disturbance))
  /-- Changes the options in force, or the defaults if `fresh`. -/
  | setOptions (fresh : Bool) (settings : List Setting)

/-- A step: what is scripted for it, and what it does. -/
structure Step where
  readings : List Int64 := []
  script : Script := []
  action : Action

/-- All times a client tells. -/
structure Times where
  localTime : Float
  globalTime : Float
  playbackRate : Float
  offset : Float
  clockRate : Float
  medianRoundTrip : Float
  options : Options

/-- What came of a step. -/
inductive Result where
  | started (ok : Bool) (requests : List Bytes)
  | times (times : Times)
  | accuracy (accuracy : Accuracy Float)
  | awaited (blocked : Bool) (accuracy : Accuracy Float)
  | options (options : Options)
  | nothing

/-- Puts what is scripted for a step in force. -/
def prepare (s : Session) (readings : List Int64) (script : Script) : Session :=
  { s with clock := s.clock.replace readings, system.script := script }

/-- The datagrams that came to the other side. -/
def arrived (s : Session) : List Bytes × Session :=
  match s.system.host.find? s.peer with
  | none => ([], s)
  | some peer =>
    let host := s.system.host.put { peer with queue := [] }
    (peer.queue.map (·.payload), { s with system.host := host })

/-- Sends requests; the loop of each is followed by the receiving loop as far as
that has something to do. With the last but one the interval is made so long
that no more are sent after them. -/
def sendRequests : Nat → Session → List Bytes × Session × Log
  | 0, s => ([], s, [])
  | count + 1, s =>
    let client :=
      if count = 1 then
        s.client.setOptions (s.client.options.set (.interval 3600000))
      else s.client
    let system := s.system
    let sent := client.sendRequest s.clock fun h request =>
      (sendCall system h request).1
    let system := match client.channel.socket with
      | some h => (sendCall system h sent.request).2
      | none => system
    let (requests, s) :=
      { s with client := sent.client, clock := sent.clock, system }.arrived
    let (s, log) := s.run
    let (more, s, moreLog) := sendRequests count s
    (requests ++ more, s, sent.log ++ log ++ moreLog)

/-- A port of the host on which nobody listens. -/
def unusedPort (s : Session) : UInt16 × Session :=
  (s.system.host.nextPort,
    { s with system.host.nextPort := s.system.host.nextPort + 1 })

/-- Starts the client against a port of a host. The first requests are sent at
once. -/
def startAt (s : Session) (clock : ClockSource) (options : Options)
    (host : String) (port : UInt16) (requests : Nat) : Result × Session × Log :=
  if s.client.running then (.started false [], s, [])
  else
    let (attempt, system) := attempt s.system host port
    let change := s.client.start clock options attempt
    let s :=
      { s with
        client := change.client
        system := closeAll system change.closed }
    if change.ok then
      let (sent, s, log) :=
        sendRequests (max 1 requests) { s with looping := true, buffer := [] }
      (.started true sent, s, change.log ++ log)
    else (.started false [], s, change.log)

/-- Starts the client against the other side, or where nobody listens. -/
def start (s : Session) (clock : ClockSource) (options : Options)
    (host : String) (requests : Nat) (peerClosed : Bool) :
    Result × Session × Log :=
  let (port, s) :=
    if peerClosed then s.unusedPort else (s.system.host.localPort s.peer, s)
  s.startAt clock options host port requests

/-- Shuts the client down: its loops are woken and end, then all is closed. -/
def shutdown (s : Session) : Except Stuck (Session × Log) :=
  if ¬ s.client.running then .ok (s, [])
  else
    let client := s.client.beginShutdown
    let system := match client.channel.socket with
      | some h => s.system.shutdown h
      | none => s.system
    match client.wakeReceiver fun h => (wakeCall system h).1 with
    | none => .error .neverReturns
    | some (client, woken) =>
      let system := match client.channel.wakeWriter with
        | some h => (wakeCall system h).2
        | none => system
      let (s, log) := { s with client, system }.run
      let change := s.client.endShutdown
      .ok ({ s with
        client := change.client
        system := closeAll s.system change.closed },
        woken ++ log ++ change.log)

/-- Lets something happen from outside. -/
def disturb (s : Session) : Disturbance → Except Stuck (Session × Log)
  | .shutdown => s.shutdown
  | .datagram payload =>
    if ¬ s.looping then .error .notWaiting
    else
      let port := (s.client.channel.socket.map s.system.host.localPort).getD 0
      match s.system.host.sendTo s.peer ⟨.loopback, port⟩ payload with
      | (.error _, _) => .error .notWaiting
      | (.ok _, host) => .ok { s with system.host := host }.run

/-- Lets things happen one after the other while a query waits, and looks at the
client for it after each. -/
def disturbAll (q : Query) (s : Session) :
    List (List Int64 × Script × Disturbance) →
    Except Stuck (Query × Session × Log)
  | [] => .ok (q, s, [])
  | (readings, script, what) :: rest => do
    let (s, log) ← (s.prepare readings script).disturb what
    let (q, s, more) ← disturbAll (q.look s.client) s rest
    .ok (q, s, log ++ more)

/-- The answer of a query at the end of its step: one that waits longer than its
time gets nothing, and one without a time limit does not return. -/
def finish (s : Session) (q : Query) (timeout : Int) :
    Except Stuck (Accuracy Float) :=
  match q.look s.client with
  | .answered a => .ok a
  | .waiting _ =>
    if 0 < timeout then .ok (q.expire s.client) else .error .neverReturns

/-- Asks for all times, with one reading of the clock for each that needs
one. -/
def times (s : Session) (start position : Float) : Times × Session :=
  let source := s.client.clock
  let (now, clock) := source.read s.clock
  let localTime := s.client.localTime now
  let (now, clock) := source.read clock
  let globalTime := s.client.globalTime now
  let (now, clock) := source.read clock
  let playbackRate := s.client.playbackRate now start position
  ({ localTime, globalTime, playbackRate
     offset := s.client.offset
     clockRate := s.client.clockRate
     medianRoundTrip := s.client.medianRoundTrip
     options := s.client.options },
    { s with clock })

/-- Makes a step. -/
def step (s : Session) (what : Step) : Except Stuck (Result × Session × Log) :=
  let s := s.prepare what.readings what.script
  match what.action with
  | .start clock settings host requests peerClosed =>
    .ok (s.start clock (Options.default.setAll settings)
      host requests peerClosed)
  | .disturb what => do
    let (s, log) ← s.disturb what
    .ok (.nothing, s, log)
  | .fault =>
    if ¬ s.looping then .error .notWaiting
    else
      let (s, log) := s.run
      .ok (.nothing, s, log)
  | .read start position =>
    let (times, s) := s.times start position
    .ok (.times times, s, [])
  | .accuracy waits forgets timeout => do
    let (q, client) := s.client.askAccuracy waits forgets
    let s := { s with client }
    let a ← s.finish q timeout
    .ok (.accuracy a, s, [])
  | .await forgets timeout during => do
    let (q, client) := s.client.askAccuracy true forgets
    let blocked := match q with
      | .answered _ => false
      | .waiting _ => true
    let (q, s, log) ← disturbAll q { s with client } during
    let a ← s.finish q timeout
    .ok (.awaited blocked a, s, log)
  | .setOptions fresh settings =>
    let options :=
      (if fresh then Options.default else s.client.options).setAll settings
    .ok (.options options, { s with client := s.client.setOptions options }, [])

end Session

end ClockSync.Client
