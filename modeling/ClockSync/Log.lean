/-!
# Logs

A log sink takes what a client or a reflector has to report. Which events were
reported to which sink is part of what an operation does.
-/

namespace ClockSync

/-- A place that log lines go to, known by a number. -/
structure LogSink where
  id : Nat
deriving DecidableEq, Repr, Inhabited

/-- An event and the sink it was reported to. -/
structure Reported (ε : Type) where
  sink : LogSink
  event : ε
deriving DecidableEq, Repr

/-- Reports an event to a sink, if there is one. -/
def report {ε : Type} (sink : Option LogSink) (event : ε) : List (Reported ε) :=
  match sink with
  | some sink => [⟨sink, event⟩]
  | none => []

end ClockSync
