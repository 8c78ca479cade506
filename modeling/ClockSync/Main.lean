import ClockSync.CommandLine.ClientCommand
import ClockSync.CommandLine.ReflectorCommand
import Std.Async.DNS
import Std.Async.Signal
import Std.Async.Timer
import Std.Async.UDP

/-!
# The commands on a real network

Runs the two commands against the clock, the network and the terminal of the
machine, until they are done or told to stop. All decisions are those of the
reflector and the client; here system calls are made and their outcomes handed
on.
-/

namespace ClockSync

open Net

/-! ## The machine -/

namespace Machine

/-- The raw clock in microseconds. -/
def now : IO Int64 := return Int64.ofNat ((← IO.monoNanosNow) / 1000)

/-- One reading of the raw clock, and as many after it. -/
def readings (later : Nat) : IO Readings := do
  let next ← now
  let later ← (List.range later).mapM fun _ => now
  return { next, later }

/-- Prints a text to the output or the error output, without delay. -/
def print (isError : Bool) (text : String) : IO Unit := do
  let stream ← if isError then IO.getStderr else IO.getStdout
  stream.putStr text
  stream.flush

/-- The code of a failed call, which may be given as a negative number. -/
def errnoOf (e : IO.Error) : Errno :=
  let code : UInt32 := match e with
    | .alreadyExists _ code _ | .interrupted _ code _
    | .noFileOrDirectory _ code _ | .invalidArgument _ code _
    | .permissionDenied _ code _ | .resourceExhausted _ code _
    | .inappropriateType _ code _ | .noSuchThing _ code _ => code
    | .otherError code _ | .resourceBusy code _ | .resourceVanished code _
    | .unsupportedOperation code _ | .hardwareFault code _
    | .unsatisfiedConstraints code _ | .illegalOperation code _
    | .protocolError code _ | .timeExpired code _ => code
    | .unexpectedEof | .userError _ => 0
  ⟨code.toInt32.toInt.natAbs⟩

/-- Makes a call and keeps the code if it fails. -/
def attempt {α : Type} (call : IO α) : IO (Except Errno α) := do
  try return .ok (← call)
  catch e => return .error (errnoOf e)

/-! ### Datagrams -/

/-- A socket address as the network takes it. -/
def toNative (a : SocketAddress) : Std.Net.SocketAddress :=
  match a.ip.octets.map UInt8.ofNat with
  | [b, c, d, e] => .v4 ⟨.ofParts b c d e, a.port⟩
  | _ => .v4 ⟨.ofParts 0 0 0 0, a.port⟩

/-- An address as the network gives it. -/
def ofNative (a : Std.Net.IPv4Addr) : IPv4 :=
  .ofOctets a.octets[0].toNat a.octets[1].toNat a.octets[2].toNat
    a.octets[3].toNat

/-- The address of the sender of a datagram. -/
def senderOf : Option Std.Net.SocketAddress → SocketAddress
  | some (.v4 a) => ⟨ofNative a.addr, a.port⟩
  | _ => ⟨.any, 0⟩

/-- Sends a datagram, to an address or to where the socket is connected. -/
def send (socket : Std.Async.UDP.Socket) (target : Option SocketAddress)
    (payload : Wire.Bytes) :
    IO (Except SocketError Unit) := do
  let sent ← attempt (socket.send ⟨payload.toArray⟩ (target.map toNative)).block
  return checkSent payload.length (sent.map fun _ => payload.length)

/-- Looks up the address of a host name; a name that is not known here is asked
for. -/
def lookup (name : String) : IO Name.Answer := do
  match Name.lookup name with
  | .ok ip => return .ok (some ip)
  | .error code =>
    if code ≠ .nameUnknown then return .error code
    match ← attempt (Std.Async.DNS.getAddrInfo name "" (some .ipv4)).block with
    | .error _ => return .error code
    | .ok found => return .ok (found.toList.findSome? fun
      | .v4 a => some (ofNative a)
      | .v6 _ => none)

/-! ### Waiting -/

/-- What the program waits for. -/
inductive Occasion where
  | received (datagram : Datagram)
  | timeUp
  /-- The program was told to stop. -/
  | stop

/-- An occasion that may be still to come, or a receive that failed. -/
abbrev Awaited := Std.Async.AsyncTask Occasion

/-- A datagram of a socket, cut to a prefix. -/
def datagram (socket : Std.Async.UDP.Socket) (limit : Nat) : IO Awaited :=
  Std.Async.EAsync.asTask do
    let (data, sender) ← socket.recv limit.toUInt64
    return .received ⟨senderOf sender, data.toList⟩

/-- The end of some milliseconds. -/
def pause (milliseconds : Nat) : IO Awaited :=
  Std.Async.EAsync.asTask do
    Std.Async.sleep (.ofNat milliseconds)
    return .timeUp

/-- What tells the program to stop. -/
def signals : IO (List Awaited) :=
  [Std.Async.Signal.sigint, .sigterm].mapM fun signal => do
    let waiter ← Std.Async.Signal.Waiter.mk signal false
    return (← waiter.wait).map fun _ => .stop

/-- Whether one of some occasions has come. -/
def hasCome (awaited : List Awaited) : IO Bool :=
  awaited.anyM fun task => IO.hasFinished task

end Machine

/-! ## Reflectors -/

namespace CommandLine.ReflectorCommand

open Machine

/-- Prints a line. -/
def Line.print (l : Line) : IO Unit := Machine.print l.isError (l.text toString)

/-- Prints what was logged. -/
def printLog (log : Reflector.Log) : IO Unit :=
  log.forM fun l => (Line.logged l.event).print

/-- Opens and binds a socket. -/
def openSocket (port : UInt16) :
    IO (Except Reflector.Error (Std.Async.UDP.Socket × UInt16)) := do
  match ← attempt Std.Async.UDP.Socket.mk with
  | .error errno => return .error (.notCreated (.creation errno))
  | .ok socket =>
    match ← attempt (socket.bind (toNative ⟨.any, port⟩)) with
    | .error errno => return .error (.notBound (.bind errno))
    | .ok () =>
      let bound ← attempt socket.getSockName
      return .ok (socket, match bound with
        | .ok name => (senderOf (some name)).port
        | .error _ => 0)

/-- Handles what came of a receive. -/
def handle (clock : ServedClock Float) (socket : Std.Async.UDP.Socket)
    (r : Reflector) (received : Except SocketError Datagram) :
    IO Reflector := do
  let (request, r, log) := r.examine received
  printLog log
  match request with
  | none => return r
  | some request =>
    let time := clock.valueAt (← now)
    let sent ← send socket request.sender.toSocketAddress?
        (Reflector.replyTo request time)
    let (r, log) := r.answer request time sent
    printLog log
    return r

/-- Serves until told to stop. -/
partial def serve (signals : List Awaited) (clock : ServedClock Float)
    (socket : Std.Async.UDP.Socket) (r : Reflector) : IO Reflector := do
  match ← IO.waitAny
      ((← datagram socket Reflector.receiveLimit) :: signals) with
  | .ok (.received d) =>
    serve signals clock socket (← handle clock socket r (.ok d))
  | .ok _ => return r
  | .error e =>
    let r ← handle clock socket r (.error (.receive (errnoOf e)))
    serve signals clock socket r

/-- Runs the command and gives its exit code. -/
def perform (arguments : List String) : IO UInt32 := do
  match split arguments with
  | (_, some stop) =>
    let (exitCode, lines) := stop.outcome
    lines.forM Line.print
    return exitCode.toUInt32
  | (groups, none) =>
    let signals ← signals
    let config := Config.ofGroups groups
    let (clock, _) := config.clock (← readings 2)
    let opened ← openSocket config.port
    let (_, r, log) :=
      ({} : Reflector).start (.given 0) (config.options sink) (opened.map (·.2))
    printLog log
    match opened with
    | .error _ =>
      (Line.startFailed config.port r.errorText).print
      return 1
    | .ok (socket, _) =>
      (Line.listening r.port).print
      let r := (← serve signals clock socket r).stop
      (Line.stopped r.counters r.errorText).print
      return 0

end CommandLine.ReflectorCommand

/-! ## Clients -/

namespace CommandLine.ClientCommand

open Client Machine

/-- Prints a line. -/
def Line.print (l : Line) : IO Unit := Machine.print l.isError (l.text toString)

/-- A client at work. -/
structure Worker where
  config : Config
  signals : List Awaited
  socket : Std.Async.UDP.Socket
  client : Client
  /-- The next datagram. -/
  arrival : Awaited
  /-- When the next request is due, in milliseconds of the machine. -/
  due : Nat

namespace Worker

/-- Prints what the client logged. -/
def printLog (config : Config) (log : Client.Log) : IO Unit :=
  (logged config log).forM Line.print

/-- Sends a request. Which request it is does not depend on how sending it ends,
so that can be found out in between. -/
def sendRequest (w : Worker) : IO Worker := do
  let due := (← IO.monoMsNow) + w.client.options.interval.toNatClampNeg
  let clock ← readings 0
  let request := (w.client.sendRequest clock fun _ _ => .ok ()).request
  let outcome ← send w.socket none request
  let sent := w.client.sendRequest clock fun _ _ => outcome
  printLog w.config sent.log
  return { w with client := sent.client, due }

/-- Takes in what was received, and waits for more. -/
def takeIn (w : Worker) (received : Except SocketError Datagram) :
    IO Worker := do
  let (_, taken) := w.client.receiveTurn (← readings 4) [.ok (Host.readable, 0)]
    fun _ => some (received.map (·.payload))
  printLog w.config taken.log
  return { w with
    client := taken.client
    arrival := ← datagram w.socket Client.receiveLimit }

/-- Works until a time in milliseconds of the machine, until the client is as
wanted, or until told to stop. -/
partial def workUntil (w : Worker) (deadline : Nat) (wanted : Client → Bool) :
    IO Worker := do
  let time ← IO.monoMsNow
  if deadline ≤ time || wanted w.client then return w
  else if w.due ≤ time then
    let w ← w.sendRequest
    w.workUntil deadline wanted
  else
    let timer ← pause (min deadline w.due - time)
    match ← IO.waitAny (w.arrival :: timer :: w.signals) with
    | .ok .stop => return w
    | .ok .timeUp => w.workUntil deadline wanted
    | .ok (.received d) =>
      let w ← w.takeIn (.ok d)
      w.workUntil deadline wanted
    | .error e =>
      let w ← w.takeIn (.error (.receive (errnoOf e)))
      w.workUntil deadline wanted

/-- Works for some milliseconds. -/
def work (w : Worker) (milliseconds : Nat) (wanted : Client → Bool) :
    IO Worker := do
  w.workUntil ((← IO.monoMsNow) + milliseconds) wanted

/-- Waits for an accuracy that tells of a measurement, in turns of half a
second, at most so many. -/
def awaitAccuracy (w : Worker) : Nat → IO (Accuracy Float × Worker)
  | 0 => return (.none, w)
  | turns + 1 => do
    if ← hasCome w.signals then return (.none, w)
    let (q, client) := w.client.askAccuracy true false
    let w ← { w with client }.work 500 fun c => match q.look c with
      | .answered _ => true
      | .waiting _ => false
    let a := q.expire w.client
    if isFresh a then return (a, w) else w.awaitAccuracy turns

/-- Reports as often as was asked for. -/
partial def report (w : Worker) (made : Nat) : IO Worker := do
  if ¬ w.config.wantsMore made then return w
  else
    let (waited, w) ← w.awaitAccuracy 30
    if ← hasCome w.signals then return w
    else
      let (r, _) :=
        makeReport w.client (← readings 1) (accuracyAfter w.client waited)
      (Line.report r).print
      w.report (made + 1)

/-- Prints the global time over and over. -/
partial def stream (w : Worker) : IO Worker := do
  if ← hasCome w.signals then return w
  else
    let (time, _) := tell w.client (← readings 0)
    (Line.time time).print
    let w ← w.work 5 fun _ => false
    w.stream

end Worker

/-- Opens a connected socket. The wake-up pair of the channel has no work to do
here, where one loop does all. -/
def openSocket (config : Config) :
    IO (Attempt × Option Std.Async.UDP.Socket) := do
  match Name.resolve config.host config.port (← lookup config.host) with
  | .error unresolved => return (.unresolved unresolved, none)
  | .ok remote =>
    match ← attempt Std.Async.UDP.Socket.mk, remote.toSocketAddress? with
    | .error errno, _ => return (.notCreated (.creation errno), none)
    | .ok _, none =>
      return (.notConnected 0 (.invalidAddress remote.address), none)
    | .ok socket, some address =>
      match ← attempt (socket.connect (toNative address)) with
      | .error errno => return (.notConnected 0 (.connect errno), none)
      | .ok () => return (.complete remote 0 (some (1, 2)), some socket)

/-- Runs the command and gives its exit code. -/
def perform (arguments : List String) : IO UInt32 := do
  match split arguments with
  | (_, some stop) =>
    let (exitCode, lines) := stop.outcome
    lines.forM Line.print
    return exitCode.toUInt32
  | (groups, none) =>
    let signals ← signals
    let config := Config.ofGroups groups
    let options := Options.default.setAll (config.settings sink)
    let clock := ClockSource.standard (← now)
    let (opened, socket) ← openSocket config
    let change := ({} : Client).start clock options opened
    Worker.printLog config change.log
    match change.ok, socket with
    | true, some socket =>
      let arrival ← datagram socket Client.receiveLimit
      let w : Worker :=
        { config, signals, socket, client := change.client, arrival, due := 0 }
      let w ← if config.stream then w.stream else w.report 0
      Worker.printLog config w.client.beginShutdown.endShutdown.log
      return 0
    | _, _ =>
      (Line.startFailed config.host config.port).print
      return 1

end CommandLine.ClientCommand

end ClockSync

/-- Runs the command that the first argument names, with the other arguments. -/
def main : List String → IO UInt32
  | "reflector" :: arguments =>
    ClockSync.CommandLine.ReflectorCommand.perform arguments
  | "client" :: arguments =>
    ClockSync.CommandLine.ClientCommand.perform arguments
  | _ => do
    ClockSync.CommandLine.ReflectorCommand.Line.usage.print
    ClockSync.CommandLine.ClientCommand.Line.usage.print
    return 2
