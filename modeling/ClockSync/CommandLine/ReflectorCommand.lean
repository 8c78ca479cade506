import ClockSync.Clock.Served
import ClockSync.Numeric.Numeral
import ClockSync.Reflector.Session

/-!
# The command that starts a reflector

Arguments are taken in groups: a flag alone, or an option and the argument after
it. `split` finds the groups and the argument that stops them, if there is one;
`Config.ofGroups` is what the groups ask for. `Line`s are what the command
prints.
-/

namespace ClockSync.CommandLine.ReflectorCommand

open Net

/-! ## Arguments -/

/-- The port of a reflector that was told none. -/
def defaultPort : UInt16 := 4318

/-- A complete group of arguments. -/
inductive Group where
  | port (value : String)
  | offset (value : String)
  | rate (value : String)
  | verbose
deriving DecidableEq, Repr

/-- An argument that stops the groups. -/
inductive Stop where
  | help
  | unknown (argument : String)
deriving DecidableEq, Repr

/-- The groups that arguments start with, and what stops them; the arguments
after that do not matter. -/
def split : List String → List Group × Option Stop
  | [] => ([], none)
  | [a] =>
    if a = "-v" ∨ a = "--verbose" then ([.verbose], none)
    else if a = "-h" ∨ a = "--help" then ([], some .help)
    else ([], some (.unknown a))
  | a :: b :: rest =>
    if a = "--port" then (split rest).map (.port b :: ·) id
    else if a = "--offset" then (split rest).map (.offset b :: ·) id
    else if a = "--rate" then (split rest).map (.rate b :: ·) id
    else if a = "-v" ∨ a = "--verbose" then
      (split (b :: rest)).map (.verbose :: ·) id
    else if a = "-h" ∨ a = "--help" then ([], some .help)
    else ([], some (.unknown a))

/-- What the arguments ask for. -/
structure Config where
  port : UInt16 := defaultPort
  /-- How far the clock is ahead, in microseconds. -/
  offset : Int64 := 0
  rate : Float := 1.0
  verbose : Bool := false

namespace Config

/-- Takes one group into account. -/
def apply (c : Config) : Group → Config
  | .port value => { c with port := Numeral.uint16 value }
  | .offset value => { c with offset := Numeral.int64 value }
  | .rate value => { c with rate := Numeral.float value }
  | .verbose => { c with verbose := true }

/-- What groups ask for, later ones going before earlier ones. -/
def ofGroups (groups : List Group) : Config := groups.foldl apply {}

/-- The options of the reflector that is started. -/
def options (c : Config) (sink : LogSink) : Reflector.Options where
  verbose := c.verbose
  sink := some sink

/-- The clock of the reflector that is started, and the raw clock after it was
set. An offset of zero and a rate of one need no setting. -/
def clock (c : Config) (raw : Readings) : ServedClock Float × Readings :=
  let (now, raw) := raw.take
  let clock : ServedClock Float := .start now
  let (clock, raw) :=
    if c.offset ≠ 0 then
      let (now, raw) := raw.take
      (clock.addOffset now c.offset, raw)
    else (clock, raw)
  if c.rate == 1.0 then (clock, raw)
  else
    let (now, raw) := raw.take
    (clock.setRate now c.rate, raw)

end Config

/-! ## Output -/

/-- What the command prints. -/
inductive Line where
  | usage
  | unknown (argument : String)
  | logged (event : Reflector.Event)
  | startFailed (port : UInt16) (error : String)
  | listening (port : UInt16)
  | stopped (counters : Reflector.Counters) (lastError : String)

namespace Line

/-- Whether the line goes to the error output. -/
def isError : Line → Bool
  | listening _ => false
  | stopped _ _ => false
  | _ => true

/-- The text of a line. How ports are shown is up to the reader. -/
def text (portText : UInt16 → String) : Line → String
  | usage =>
    "Usage: driftserver_example [--port N] [--offset us] [--rate R] [-v|--verbose]\n"
  | unknown argument => "Unknown option: " ++ argument ++ "\n"
  | logged event => event.text portText ++ "\n"
  | startFailed port error =>
    s!"Failed to start reflector on port {portText port}: " ++ error ++ "\n"
  | listening port => s!"driftserver listening on UDP {portText port}\n"
  | stopped counters lastError => "stopped: " ++ counters.text lastError ++ "\n"

end Line

/-- What a stopping argument makes the command do: its exit code, and what it
prints. -/
def Stop.outcome : Stop → Nat × List Line
  | help => (0, [.usage])
  | unknown argument => (2, [.unknown argument, .usage])

/-! ## A whole run -/

/-- What came of a run: its exit code, what it printed, and what the other side
got back for each datagram. -/
structure Run where
  exitCode : Nat
  lines : List Line
  answers : List (Option Wire.Bytes)

/-- The sink of the command: all that is logged is printed. -/
def sink : LogSink := ⟨0⟩

/-- Serves datagrams one after the other, each with new readings of the raw
clock if it has any. -/
def serveAll (clock : ServedClock Float) :
    Reflector.Session → List (List Int64 × Wire.Bytes) →
      Reflector.Session × List (Option Wire.Bytes) × List Line
  | s, [] => (s, [], [])
  | s, (readings, payload) :: rest =>
    let s := { s with clock := s.clock.replace (readings.map clock.valueAt) }
    let (reply, s, log) := s.exchange payload
    let (s, replies, lines) := serveAll clock s rest
    (s, reply :: replies, log.map (.logged ·.event) ++ lines)

/-- Runs the command in a session until it was sent all datagrams and is told to
stop. An argument ends before its first zero character. The readings are those
of the raw clock. -/
def run (s : Reflector.Session) (raw : Readings) (arguments : List String)
    (datagrams : List (List Int64 × Wire.Bytes)) : Run :=
  match split (arguments.map Text.beforeZero) with
  | (_, some stop) =>
    let (exitCode, lines) := stop.outcome
    ⟨exitCode, lines, []⟩
  | (groups, none) =>
    let config := Config.ofGroups groups
    let (clock, raw) := config.clock raw
    let s := { s with
      clock :=
        { next := clock.valueAt raw.next,
          later := raw.later.map clock.valueAt } }
    let (ok, s, log) := s.start (.given 0) (config.options sink) config.port
    let logged := log.map fun l => Line.logged l.event
    if ¬ ok then
      ⟨1, logged ++ [.startFailed config.port s.reflector.errorText], []⟩
    else
      let listening := Line.listening s.reflector.port
      let (s, answers, lines) := serveAll clock s datagrams
      let stopped :=
        Line.stopped s.stop.reflector.counters s.stop.reflector.errorText
      ⟨0, logged ++ [listening] ++ lines ++ [stopped], answers⟩

end ClockSync.CommandLine.ReflectorCommand
