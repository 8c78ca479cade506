import ClockSync.Client.Session
import ClockSync.Numeric.Numeral

/-!
# The command that starts a client

Arguments are taken in groups: a flag alone, an option and the argument after
it, or the name of the host. `split` finds the groups and the argument that
stops them, if there is one; `Config.ofGroups` is what the groups ask for.
`Line`s are what the command prints: reports about the client, or the global
time over and over.
-/

namespace ClockSync.CommandLine.ClientCommand

open Net Client

/-! ## Arguments -/

/-- The port of a reflector where none was told. -/
def defaultPort : UInt16 := 4318

/-- A complete group of arguments. -/
inductive Group where
  | port (value : String)
  | interval (value : String)
  | count (value : String)
  | stream
  | debug
  | host (name : String)
deriving DecidableEq, Repr

/-- An argument that stops the groups. -/
inductive Stop where
  | help
  | unknown (argument : String)
deriving DecidableEq, Repr

/-- Whether an argument is taken for the name of a host. -/
def isHost (argument : String) : Bool :=
  match argument.toList with
  | [] => false
  | c :: _ => c ≠ '-'

/-- The group or the stop that an argument is on its own. -/
def alone (a : String) : Except Stop Group :=
  if a = "--stream" then .ok .stream
  else if a = "--debug" then .ok .debug
  else if a = "-h" ∨ a = "--help" then .error .help
  else if isHost a then .ok (.host a)
  else .error (.unknown a)

/-- The groups that arguments start with, and what stops them; the arguments
after that do not matter. -/
def split : List String → List Group × Option Stop
  | [] => ([], none)
  | [a] =>
    match alone a with
    | .ok group => ([group], none)
    | .error stop => ([], some stop)
  | a :: b :: rest =>
    if a = "--port" then (split rest).map (.port b :: ·) id
    else if a = "--interval" then (split rest).map (.interval b :: ·) id
    else if a = "--count" then (split rest).map (.count b :: ·) id
    else match alone a with
      | .ok group => (split (b :: rest)).map (group :: ·) id
      | .error stop => ([], some stop)

/-- What the arguments ask for. -/
structure Config where
  host : String := "localhost"
  port : UInt16 := defaultPort
  /-- The interval between requests, as far as it was told. -/
  interval : Option Int32 := none
  /-- After how many reports to stop; zero or less means never. -/
  count : Int32 := 0
  stream : Bool := false
  debug : Bool := false

namespace Config

/-- Takes one group into account. -/
def apply (c : Config) : Group → Config
  | .port value => { c with port := Numeral.uint16 value }
  | .interval value => { c with interval := some (Numeral.int32 value) }
  | .count value => { c with count := Numeral.int32 value }
  | .stream => { c with stream := true }
  | .debug => { c with debug := true }
  | .host name => { c with host := name }

/-- What groups ask for, later ones going before earlier ones. -/
def ofGroups (groups : List Group) : Config := groups.foldl apply {}

/-- The settings of the client that is started. It tells times in milliseconds
and measures its accuracy. -/
def settings (c : Config) (sink : LogSink) : List Setting :=
  [.scale Options.milliseconds, .measuresAccuracy true] ++
    (c.interval.map Setting.interval).toList ++ [.sink (some sink)]

end Config

/-! ## Output -/

/-- What a report is about. -/
structure Report where
  globalTime : Float
  offset : Float
  clockRate : Float
  playbackRate : Float
  medianRoundTrip : Float
  statistics : Statistics
  accuracy : Accuracy Float

/-- The text of a report. -/
def Report.text (r : Report) : String :=
  s!"global {Decimal.fixed 3 r.globalTime} ms offset {Decimal.fixed 3 r.offset} ms\n" ++
    s!"clock rate {Decimal.fixed 9 r.clockRate} playback {Decimal.fixed 9 r.playbackRate}\n" ++
    s!"median round trip time {Decimal.fixed 3 r.medianRoundTrip} ms\n" ++
    s!"sent {r.statistics.sent} lost {r.statistics.lost} rejected {r.statistics.rejected}\n" ++
    s!"accuracy min {Decimal.fixed 3 r.accuracy.least} ms " ++
    s!"average {Decimal.fixed 3 r.accuracy.average} ms " ++
    s!"max {Decimal.fixed 3 r.accuracy.greatest} ms\n\n"

/-- What the command prints. -/
inductive Line where
  | usage
  | unknown (argument : String)
  | logged (event : Event)
  | startFailed (host : String) (port : UInt16)
  | report (report : Report)
  | time (globalTime : Float)

namespace Line

/-- Whether the line goes to the error output. -/
def isError : Line → Bool
  | report _ => false
  | time _ => false
  | _ => true

/-- The text that says how to call the command. -/
def usageText : String :=
  "Usage: driftsync_example [host] [options]\n" ++
    "Options:\n" ++
    "  host                 (default localhost)\n" ++
    "  --port N             (default 4318)\n" ++
    "  --interval ms        (default 5000)\n" ++
    "  --stream             Print global time every 5 ms\n" ++
    "  --count n            Stop after n reports (default: run)\n" ++
    "  --debug              Enable debug logging\n"

/-- The text of a line. How ports are shown is up to the reader. -/
def text (portText : UInt16 → String) : Line → String
  | usage => usageText
  | unknown argument => "Unknown option: " ++ argument ++ "\n"
  | logged event => event.text portText ++ "\n"
  | startFailed host port =>
    s!"Failed to start client against {host}:{portText port}\n"
  | report r => r.text
  | time t => Decimal.fixed 3 t ++ "\n"

end Line

/-- What a stopping argument makes the command do: its exit code, and what it
prints. -/
def Stop.outcome : Stop → Nat × List Line
  | help => (0, [.usage])
  | unknown argument => (2, [.unknown argument, .usage])

/-! ## A whole run -/

/-- A datagram of the other side, with new readings of the clock if it has
any. -/
abbrev Arrival := List Int64 × Wire.Bytes

/-- What happens while the command runs, until it is told to stop. -/
inductive Scene where
  /-- It reports after each group of datagrams. -/
  | reports (groups : List (List Arrival))
  /-- It prints the time all along. -/
  | stream (datagrams : List Arrival)

/-- What came of a run: its exit code, what it printed, and the requests that
came to the other side. -/
structure Run where
  exitCode : Nat
  lines : List Line
  requests : List Wire.Bytes

/-- The sink of the command. -/
def sink : LogSink := ⟨0⟩

/-- What is logged is printed only when debugging. -/
def logged (c : Config) (log : Log) : List Line :=
  if c.debug then log.map fun l => .logged l.event else []

/-- Reads the clock and tells the global time. -/
def tell (client : Client) (clock : Readings) : Float × Readings :=
  let (now, clock) := client.clock.read clock
  (client.globalTime now, clock)

/-- Reads the clock as often as a report needs, and reports. -/
def makeReport (client : Client) (clock : Readings)
    (accuracy : Accuracy Float) :
    Report × Readings :=
  let (globalTime, clock) := tell client clock
  let (now, clock) := client.clock.read clock
  ({ globalTime, accuracy
     statistics := client.statistics
     offset := client.offset
     clockRate := client.clockRate
     playbackRate := client.playbackRate now globalTime 0.0
     medianRoundTrip := client.medianRoundTrip },
    clock)

/-- Whether an accuracy tells of a measurement. -/
def isFresh (a : Accuracy Float) : Bool := 0.0 < a.greatest || 0.0 < a.average

/-- The accuracy to report after waiting for one gave `waited`. -/
def accuracyAfter (client : Client) (waited : Accuracy Float) :
    Accuracy Float :=
  if isFresh waited then waited else client.accuracy

/-- Whether after so many reports there are more to come. -/
def Config.wantsMore (c : Config) (made : Nat) : Bool :=
  c.count ≤ 0 || made < c.count.toInt

/-- Waits for the accuracy while datagrams come in, and reports it. -/
def reportAfter (c : Config) (s : Session) (arrivals : List Arrival) :
    Except Stuck (List Line × Session) := do
  let (q, client) := s.client.askAccuracy true false
  let (q, s, log) ← Session.disturbAll q { s with client }
    (arrivals.map fun (readings, payload) =>
      (readings, s.system.script, .datagram payload))
  let accuracy := accuracyAfter s.client (q.expire s.client)
  let (r, clock) := makeReport s.client s.clock accuracy
  .ok (logged c log ++ [.report r], { s with clock })

/-- Reports after each group of datagrams, as often as was asked for. -/
def reportAll (c : Config) :
    Nat → Session → List (List Arrival) → Except Stuck (List Line × Session)
  | _, s, [] => .ok ([], s)
  | made, s, arrivals :: rest =>
    if c.wantsMore made then do
      let (lines, s) ← reportAfter c s arrivals
      let (more, s) ← reportAll c (made + 1) s rest
      .ok (lines ++ more, s)
    else .ok ([], s)

/-- Prints the time before and after each datagram. -/
def streamAll (c : Config) :
    Session → List Arrival → Except Stuck (List Line × Session)
  | s, [] => .ok ([], s)
  | s, (readings, payload) :: rest => do
    let s := s.prepare readings s.system.script
    let (before, clock) := tell s.client s.clock
    let (s, log) ← { s with clock }.disturb (.datagram payload)
    let (after, clock) := tell s.client s.clock
    let (more, s) ← streamAll c { s with clock } rest
    .ok ([.time before] ++ logged c log ++ [.time after] ++ more, s)

/-- Runs the command in a session until the scene is over and it is told to
stop, with the requests of the other side taken as they come. An argument ends
before its first zero character. -/
def run (s : Session) (arguments : List String) (scene : Scene) :
    Except Stuck Run :=
  match split (arguments.map Text.beforeZero) with
  | (_, some stop) =>
    let (exitCode, lines) := stop.outcome
    .ok ⟨exitCode, lines, []⟩
  | (groups, none) =>
    let config := Config.ofGroups groups
    let options := Options.default.setAll (config.settings sink)
    match s.startAt .standard options config.host config.port 1 with
    | (.started true requests, s, log) => do
      let (lines, s) ← match scene, config.stream with
        | .stream datagrams, true => do
          let (first, clock) := tell s.client s.clock
          let (lines, s) ← streamAll config { s with clock } datagrams
          .ok (.time first :: lines, s)
        | .reports groups, false => reportAll config 0 s groups
        | _, _ => .error .neverReturns
      let (_, stopped) ← s.shutdown
      .ok ⟨0, logged config log ++ lines ++ logged config stopped, requests⟩
    | (_, _, log) =>
      .ok ⟨1, logged config log ++ [.startFailed config.host config.port], []⟩

end ClockSync.CommandLine.ClientCommand
