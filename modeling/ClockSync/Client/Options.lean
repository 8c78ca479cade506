import ClockSync.Estimator
import ClockSync.Log
import ClockSync.Numeric.Decimal

/-!
# Options of a client

Options are changed one setting at a time (`Options.set`), starting from the
defaults or from other options. A setting with a value that makes no sense is
bent to one that does, or ignored.
-/

namespace ClockSync.Client

/-- What a client may be told. -/
structure Options where
  /-- Milliseconds between two requests. -/
  interval : Int32
  /-- What times are multiplied by when they are asked for. -/
  scale : Float
  /-- Whether the client measures its own accuracy. -/
  measuresAccuracy : Bool
  /-- How far a round trip may be from the median, in microseconds. -/
  outlierThreshold : Int64
  /-- Where the client reports to. -/
  sink : Option LogSink

/-- A change of one option. -/
inductive Setting where
  | interval (milliseconds : Int32)
  | scale (factor : Float)
  | measuresAccuracy (on : Bool)
  | outlierThreshold (microseconds : Int64)
  | sink (sink : Option LogSink)

namespace Options

/-- The scale that leaves times in microseconds. -/
def microseconds : Float := 1.0

/-- The scale that gives times in milliseconds. -/
def milliseconds : Float := microseconds / 1000.0

/-- The scale that gives times in seconds. -/
def seconds : Float := milliseconds / 1000.0

/-- The options of a client that was told nothing. -/
def default : Options where
  interval := 5000
  scale := microseconds
  measuresAccuracy := false
  outlierThreshold := Estimator.defaultThreshold
  sink := none

instance : Inhabited Options := ⟨default⟩

/-- Changes one option. An interval is at least a millisecond and a threshold at
least zero; a scale that is not positive is ignored. -/
def set (o : Options) : Setting → Options
  | .interval ms => { o with interval := if ms < 1 then 1 else ms }
  | .scale factor => if 0.0 < factor then { o with scale := factor } else o
  | .measuresAccuracy on => { o with measuresAccuracy := on }
  | .outlierThreshold us =>
    { o with outlierThreshold := Estimator.atLeastZero us }
  | .sink sink => { o with sink := sink }

/-- Changes options one after the other. -/
def setAll (o : Options) (settings : List Setting) : Options :=
  settings.foldl set o

/-- The options as one line of a report. -/
def text (o : Options) : String :=
  s!"interval={o.interval}ms, scale={Decimal.general o.scale}, accuracy=" ++
    (if o.measuresAccuracy then "on" else "off") ++
      s!", outlier={o.outlierThreshold}us"

end Options

end ClockSync.Client
