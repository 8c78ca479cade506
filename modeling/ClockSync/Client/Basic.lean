import ClockSync.Accuracy
import ClockSync.Clock.Readings
import ClockSync.Clock.Source
import ClockSync.Client.Channel
import ClockSync.Client.Options
import ClockSync.Playback
import ClockSync.Wire.Packet

/-!
# Clients

A client asks a reflector for its time again and again, feeds an estimator with
the answers, and reads the remote clock off it. Two loops run while it is
started: one sends requests (`sendRequest` is one turn of it), the other waits
for datagrams and takes them in (`receiveTurn`). All times are reckoned in
microseconds; the scale of the options is applied when a time is asked for.

What the system calls gave is an argument of the operations. Which readings of
the clock were taken and what was logged are part of their results.
-/

namespace ClockSync

namespace Client

open Net Wire

/-- Why a datagram was thrown away, as the log words it. -/
def discardText : Malformed → String
  | .size bytes => s!"incomplete packet of {bytes}"
  | .signature => "protocol mismatch"
  | .direction => "request packet"

/-- What a client logs. -/
inductive Event where
  | openFailed (error : ChannelError)
  | started (remote : Endpoint) (options : Options)
  | sendFailed (error : ChannelError)
  | waitFailed (error : ChannelError)
  | receiveFailed (error : ChannelError)
  | discarded (what : Malformed)
  /-- An exchange that was rejected, and the median round trip at that time. -/
  | rejected (exchange : Exchange) (median : Int64)
  | wakeFailed (error : ChannelError)
  | stopped

/-- The line that an event makes in a log. How ports are shown is up to the
reader of the log. -/
def Event.text (portText : UInt16 → String) (e : Event) : String :=
  "[SyncClient] " ++ match e with
    | openFailed error => "failed to open transport: " ++ error.message
    | started remote options =>
      s!"started against {remote.address}:{portText remote.port} ({options.text})"
    | sendFailed error => "failed to send: " ++ error.message
    | waitFailed error => "wait failed: " ++ error.message
    | receiveFailed error => "failed to receive: " ++ error.message
    | discarded what => "discarded datagram: " ++ discardText what
    | rejected x median =>
      s!"rejected sample: sent={x.sentAt}us, received={x.receivedAt}us, median rtt={median}us"
    | wakeFailed error => "failed to wake receiver: " ++ error.message
    | stopped => "stopped"

/-- What was logged, oldest first. -/
abbrev Log := List (Reported Event)

end Client

/-- A client. -/
structure Client where
  options : Client.Options := .default
  clock : ClockSource := .standard
  estimator : Estimator Float := .new Estimator.defaultThreshold
  monitor : AccuracyMonitor Float := {}
  /-- Whether the client was started and not stopped. -/
  running : Bool := false
  /-- Whether the loops are to end; set whenever none is supposed to run. -/
  quitting : Bool := true
  channel : Client.Channel := {}

namespace Client

open Net Wire

instance : Inhabited Client := ⟨{}⟩

/-- Logs an event to the sink of the options in force. -/
def log (c : Client) (e : Event) : Log := report c.options.sink e

/-- Reports the last error of a channel, as the event it makes. -/
def reportLastError (sink : Option LogSink) (channel : Channel)
    (event : ChannelError → Event) : Log :=
  match channel.lastError with
  | some e => report sink (event e)
  | none => []

/-- Logs the last error of the channel, as the event it makes. It is looked up
after a call that failed, so that there is one. -/
def logLastError (c : Client) (event : ChannelError → Event) : Log :=
  reportLastError c.options.sink c.channel event

/-! ## Starting and stopping -/

/-- What starting or stopping gives. -/
structure Change where
  ok : Bool
  client : Client
  /-- The descriptors that were closed on the way. -/
  closed : List Handle
  log : Log

/-- Starts the client with an empty model, if its channel could be opened. The
sink of the new options hears of it either way. A client that runs already goes
on as before. -/
def start (c : Client) (clock : ClockSource) (options : Options)
    (attempt : Attempt) : Change :=
  if c.running then ⟨false, c, [], []⟩
  else
    let change := c.channel.connect attempt
    let c := { c with channel := change.channel }
    match change.result with
    | .error _ =>
      ⟨false, c, change.closed,
        reportLastError options.sink c.channel .openFailed⟩
    | .ok () =>
      ⟨true,
        { c with
          clock
          options
          estimator := (c.estimator.setThreshold options.outlierThreshold).reset
          monitor := c.monitor.clear
          running := true
          quitting := false },
        change.closed,
        report options.sink (.started change.channel.remote options)⟩

/-- Has the loops of a running client end. -/
def beginShutdown (c : Client) : Client :=
  { c with running := false, quitting := true }

/-- Wakes the receiving side of a client that is to end, by what the writes of
the wake-up gave; `none` says that they go on. -/
def wakeReceiver (c : Client) (writes : Handle → List (Except Errno Int)) :
    Option (Client × Log) :=
  (c.channel.interrupt writes).map fun (result, channel) =>
    let c := { c with channel }
    (c, match result with
      | .ok () => []
      | .error _ => c.logLastError .wakeFailed)

/-- Closes the channel of a client whose loops have ended. -/
def endShutdown (c : Client) : Change :=
  let change := c.channel.close
  let c := { c with channel := change.channel }
  ⟨true, c, change.closed, c.log .stopped⟩

/-- Puts other options in force. -/
def setOptions (c : Client) (options : Options) : Client :=
  { c with
    options
    estimator := c.estimator.setThreshold options.outlierThreshold }

/-! ## Sending -/

/-- A request of the sending loop, the client after it, and what was logged. -/
structure Sent where
  request : Bytes
  client : Client
  clock : Readings
  log : Log

/-- One turn of the sending loop: counts a request, stamps it and sends it. -/
def sendRequest (c : Client) (clock : Readings)
    (call : Handle → Bytes → Except SocketError Unit) : Sent :=
  let c := { c with estimator := c.estimator.noteSent }
  let (now, clock) := c.clock.read clock
  let request := (Packet.request now).serialize
  let (result, channel) := c.channel.send (call · request)
  let c := { c with channel }
  ⟨request, c, clock,
    match result with
    | .ok () => []
    | .error _ => if c.quitting then [] else c.logLastError .sendFailed⟩

/-! ## Receiving -/

/-- The longest prefix of a datagram that is received: one byte more than a
packet, so that longer datagrams can be told. -/
def receiveLimit : Nat := packetSize + 1

/-- A client, the readings still to come, and what was logged. -/
structure Taken where
  client : Client
  clock : Readings
  log : Log

/-- Takes an exchange into the model. If the client measures its accuracy, local
and global time are read once before and, if the exchange was accepted and there
was a sample before it, once after; the two pairs make a measurement. -/
def takeExchange (c : Client) (clock : Readings) (x : Exchange) : Taken :=
  let measures := c.options.measuresAccuracy
  let (localBefore, globalBefore, clock) :=
    if measures then
      let (localBefore, clock) := c.clock.read clock
      let (now, clock) := c.clock.read clock
      (localBefore, c.estimator.globalAt now, clock)
    else (0, Scalar.zero, clock)
  let (verdict, estimator) := c.estimator.ingest x
  let c := { c with estimator }
  match verdict with
  | .rejected => ⟨c, clock, c.log (.rejected x estimator.medianRoundTrip)⟩
  | .accepted =>
    if measures ∧ 1 < estimator.samples.size then
      let (now, clock) := c.clock.read clock
      let globalAfter := estimator.globalAt now
      let (localAfter, clock) := c.clock.read clock
      let measured :=
        AccuracyMonitor.measurement localBefore globalBefore
          localAfter globalAfter
      ⟨{ c with monitor := c.monitor.record measured }, clock, []⟩
    else ⟨c, clock, []⟩

/-- Takes in a datagram that was noticed at a time. What is no reply is thrown
away. -/
def takeDatagram (c : Client) (clock : Readings) (data : Bytes) (now : Int64) :
    Taken :=
  match Packet.decodeReply data with
  | .error what => ⟨c, clock, c.log (.discarded what)⟩
  | .ok reply =>
    c.takeExchange clock ⟨reply.requesterTime, reply.responderTime, now⟩

/-- Whether a turn of the receiving loop is over, and whether the loop goes
on. -/
inductive Turn where
  /-- A system call has not returned. -/
  | blocked
  | ended
  | goesOn
deriving DecidableEq, Repr

/-- One turn of the receiving loop: waits, reads the clock once, and takes in
what was received. The loop ends when the client is to end or was woken. -/
def receiveTurn (c : Client) (clock : Readings)
    (polls : List (Except Errno (Nat × Nat)))
    (call : Handle → Option (Except SocketError Bytes)) : Turn × Taken :=
  let (waited, channel) := c.channel.wait polls
  let c := { c with channel }
  match waited with
  | none => (.blocked, ⟨c, clock, []⟩)
  | some ready =>
    let (now, clock) := c.clock.read clock
    if c.quitting then (.ended, ⟨c, clock, []⟩)
    else match ready with
      | .interrupted => (.ended, ⟨c, clock, []⟩)
      | .failed _ => (.goesOn, ⟨c, clock, c.logLastError .waitFailed⟩)
      | .readable =>
        match c.channel.receive call with
        | none => (.blocked, ⟨c, clock, []⟩)
        | some (result, channel) =>
          let c := { c with channel }
          match result with
          | .error _ => (.goesOn, ⟨c, clock, c.logLastError .receiveFailed⟩)
          | .ok data => (.goesOn, c.takeDatagram clock data now)

/-! ## Asking for times -/

/-- A local reading in the unit of the options. -/
def localTime (c : Client) (now : Int64) : Float :=
  Scalar.ofInt64 now * c.options.scale

/-- The global time at a local reading, in the unit of the options. -/
def globalTime (c : Client) (now : Int64) : Float :=
  c.estimator.globalAt now * c.options.scale

/-- The offset of the remote clock, in the unit of the options. -/
def offset (c : Client) : Float := c.estimator.offset * c.options.scale

/-- Remote time that passes per local time. -/
def clockRate (c : Client) : Float := c.estimator.rate

/-- The median round trip, in the unit of the options. -/
def medianRoundTrip (c : Client) : Float :=
  Scalar.ofInt64 c.estimator.medianRoundTrip * c.options.scale

/-- The counters of the exchanges. -/
def statistics (c : Client) : Statistics := c.estimator.stats

/-- How fast to play at a local reading, if playback started at `start` and has
come to `position`, both in the unit of the options. -/
def playbackRate (c : Client) (now : Int64) (start position : Float) : Float :=
  Playback.suggest (c.estimator.globalAt now) start position c.options.scale

/-! ## Asking for the accuracy -/

/-- The accuracy by the measurements kept now, in the unit of the options. -/
def accuracy (c : Client) : Accuracy Float :=
  if c.monitor.count = 0 then .none
  else c.monitor.summarize.scaled c.options.scale

/-- How a query for the accuracy stands. -/
inductive Query where
  | answered (accuracy : Accuracy Float)
  /-- It waits for a measurement after so many others. -/
  | waiting (generation : Nat)

/-- Asks for the accuracy, possibly forgetting the measurements first, and
possibly waiting for a new one. A client that does not measure, or is not
running and would have to wait, knows nothing. -/
def askAccuracy (c : Client) (waits forgets : Bool) : Query × Client :=
  if ¬ c.options.measuresAccuracy then (.answered .none, c)
  else
    let c := if forgets then { c with monitor := c.monitor.clear } else c
    if waits then
      if c.quitting then (.answered .none, c)
      else (.waiting c.monitor.generation, c)
    else (.answered c.accuracy, c)

/-- Looks again at a client for which a query waits: the wait ends when the
client is to end, or when there is a new measurement. -/
def Query.look (q : Query) (c : Client) : Query :=
  match q with
  | answered a => answered a
  | waiting generation =>
    if c.quitting then answered .none
    else if c.monitor.generation ≠ generation then answered c.accuracy
    else waiting generation

/-- The answer of a query whose time is over. -/
def Query.expire (q : Query) (c : Client) : Accuracy Float :=
  match q.look c with
  | answered a => a
  | waiting _ => .none

end Client

end ClockSync
