import ClockSync.Proofs.Reflector.Requests

/-!
# Runs of a reflector

Starting and stopping a reflector, and each receive of its serving loop, are
acts; `run` carries a reflector through a list of them. Every call may end in
any way.

An act counts what it receives and what becomes of it (`counters_step`), keeps
what went wrong last (`lastError_step`), and logs the request that was answered,
if such lines are asked for, and what went wrong (`logged_eq`). So the counters
of a run balance (`Accounts.run`), and none of them ever goes down
(`Counters.Le.run`).
-/

namespace ClockSync.Reflector

open Net Wire

/-! ## Acts -/

/-- Something that is done to a reflector, or that its serving loop does. -/
inductive Act where
  | start (source : ClockSource) (options : Options)
      (bound : Except Error UInt16)
  | stop
  /-- A receive, where a reply is stamped by the clock and its sending ends as
  `send` says. -/
  | receive (clock : Readings) (received : Except SocketError Datagram)
      (send : Endpoint → Bytes → Except SocketError Unit)

/-- What an act makes of a reflector. -/
def step (r : Reflector) : Act → Reflector
  | .start source options bound => (r.start source options bound).2.1
  | .stop => r.stop
  | .receive clock received send => (r.handle clock received send).reflector

/-- What an act logs. -/
def logged (r : Reflector) : Act → Log
  | .start source options bound => (r.start source options bound).2.2
  | .stop => []
  | .receive clock received send => (r.handle clock received send).log

/-- What acts one after the other make of a reflector. -/
def run (r : Reflector) (acts : List Act) : Reflector := acts.foldl step r

/-- What the acts of a run log, oldest first. -/
def allLogged (r : Reflector) : List Act → Log
  | [] => []
  | act :: acts => r.logged act ++ allLogged (r.step act) acts

@[simp] theorem run_nil (r : Reflector) : r.run [] = r := rfl

@[simp] theorem run_cons (r : Reflector) (act : Act) (acts : List Act) :
    r.run (act :: acts) = (r.step act).run acts := rfl

theorem run_append (r : Reflector) (acts later : List Act) :
    r.run (acts ++ later) = (r.run acts).run later := List.foldl_append

theorem allLogged_append (r : Reflector) (acts later : List Act) :
    r.allLogged (acts ++ later) =
      r.allLogged acts ++ (r.run acts).allLogged later := by
  induction acts generalizing r with
  | nil => rfl
  | cons act acts ih => simp [allLogged, ih]

/-! ## What an act does -/

/-- The fate of the receive of an act, if it has one. -/
def fate? (r : Reflector) : Act → Option Fate
  | .start _ _ _ => none
  | .stop => none
  | .receive clock received send => some (r.fate clock send received)

/-- The event that an act answers a request, if it does. -/
def request? (r : Reflector) : Act → Option Event
  | .start _ _ _ => none
  | .stop => none
  | .receive clock received _ => r.processed? clock received

/-- What goes wrong in an act, if anything does: a start that cannot bind a
socket, a receive that fails or gives no request, a reply that is not sent as a
whole. A reflector that serves is not started again. -/
def error? (r : Reflector) : Act → Option Error
  | .start _ _ (.error e) => if r.serving then none else some e
  | .start _ _ (.ok _) => none
  | .stop => none
  | .receive clock received send => (r.fate clock send received).error?

/-- The events of an act, in the order of the log. -/
def events (r : Reflector) (act : Act) : List Event :=
  (if r.options.verbose then (r.request? act).toList else []) ++
    (r.error? act).toList.map .error

theorem counters_step (r : Reflector) (act : Act) :
    (r.step act).counters = (r.fate? act).elim r.counters r.counters.note := by
  cases act with
  | start source options bound =>
    rw [step, start]
    split
    · rfl
    · cases bound <;> rfl
  | stop =>
    rw [step, stop]
    split <;> rfl
  | receive clock received send =>
    rw [step, handle_eq]
    rfl

theorem lastError_step (r : Reflector) (act : Act) :
    (r.step act).lastError = (r.error? act).or r.lastError := by
  cases act with
  | start source options bound =>
    rw [step, start]
    cases bound with
    | ok port => split <;> rfl
    | error e =>
      rw [error?]
      split <;> rfl
  | stop =>
    rw [step, stop]
    split <;> rfl
  | receive clock received send =>
    rw [step, handle_eq]
    rfl

/-- The events of an act are reported to the sink that is in force after it. -/
theorem logged_eq (r : Reflector) (act : Act) :
    r.logged act =
      (r.events act).flatMap (report (r.step act).options.sink) := by
  cases act with
  | start source options bound =>
    rw [logged, events, request?, step, start]
    cases bound with
    | ok port => split <;> simp [error?]
    | error e => split <;> simp_all [error?, fail]
  | stop => simp [logged, events, request?, error?]
  | receive clock received send =>
    rw [logged, step, handle_eq]
    rfl

/-! ## What is logged -/

/-- The lines of a log, each with the sink that it goes to. -/
def lines (portText : UInt16 → String) (log : Log) : List (LogSink × String) :=
  log.map fun reported => (reported.sink, reported.event.text portText)

/-- The texts of the lines that an act is worth: one about a request that is
answered, if such lines are asked for, and one about what goes wrong. -/
def texts (portText : UInt16 → String) (r : Reflector) (act : Act) :
    List String :=
  (if r.options.verbose then (r.request? act).toList.map (·.text portText)
    else []) ++
    (r.error? act).toList.map fun e => "[ReflectorServer] " ++ e.message

/-- The lines that the acts of a run make in the logs of the sinks that are in
force, oldest first. -/
def allLines (portText : UInt16 → String) (r : Reflector) :
    List Act → List (LogSink × String)
  | [] => []
  | act :: acts =>
    ((r.step act).options.sink.toList.flatMap fun sink =>
      (r.texts portText act).map fun text => (sink, text)) ++
    allLines portText (r.step act) acts

theorem map_text_events (portText : UInt16 → String) (r : Reflector)
    (act : Act) :
    (r.events act).map (·.text portText) = r.texts portText act := by
  rw [events, texts, List.map_append, List.map_map]
  split <;> rfl

theorem lines_flatMap_report (portText : UInt16 → String)
    (sink : Option LogSink) (events : List Event) :
    lines portText (events.flatMap (report sink)) =
      sink.toList.flatMap fun sink =>
        (events.map (·.text portText)).map fun text => (sink, text) := by
  cases sink with
  | none => simp [report, lines]
  | some sink =>
    have hreports : events.flatMap (report (some sink)) =
        events.map (⟨sink, ·⟩) :=
      List.map_eq_flatMap.symm
    simp [lines, hreports]

theorem lines_allLogged (portText : UInt16 → String) (r : Reflector)
    (acts : List Act) :
    lines portText (r.allLogged acts) = r.allLines portText acts := by
  induction acts generalizing r with
  | nil => rfl
  | cons act acts ih =>
    rw [allLogged, allLines, lines, List.map_append, ← lines, ← lines, ih,
      logged_eq, lines_flatMap_report, map_text_events]

/-! ## What is counted -/

/-- The counters of so many datagrams, of so many requests among them, and of so
many receives that failed. -/
structure Counters.Balance (c : Counters) (datagrams requests failures : Nat) :
    Prop where
  replied : c.received = c.sent + c.sendErrors
  datagrams : datagrams = c.incomplete + c.mismatched + c.replies + c.received
  requests : requests = c.received
  failures : failures = c.receiveErrors

namespace Counters.Balance

variable {c : Counters} {datagrams requests failures : Nat}

theorem failed (h : c.Balance datagrams requests failures) (e : SocketError) :
    (c.note (.failed e)).Balance datagrams requests (failures + 1) :=
  ⟨h.replied, h.datagrams, h.requests, congrArg (· + 1) h.failures⟩

theorem dropped (h : c.Balance datagrams requests failures) (what : Malformed) :
    (c.note (.dropped what)).Balance (datagrams + 1) requests failures := by
  obtain ⟨hreplied, hdatagrams, hrequests, hfailures⟩ := h
  cases what <;> constructor <;> simp only [note] <;> omega

theorem answered (h : c.Balance datagrams requests failures)
    (sent : Except SocketError Unit) :
    (c.note (.answered sent)).Balance (datagrams + 1) (requests + 1)
      failures := by
  obtain ⟨hreplied, hdatagrams, hrequests, hfailures⟩ := h
  cases sent <;> constructor <;> simp only [note] <;> omega

end Counters.Balance

/-- The datagram that an act receives, as far as it is received, if any. -/
def Act.datagram? : Act → Option Datagram
  | .receive _ received _ => received.toOption
  | _ => none

/-- The error that a receive fails with, if the act is one that does. -/
def Act.failure? : Act → Option SocketError
  | .receive _ (.error e) _ => some e
  | _ => none

/-- The counters balance the acts that were done. -/
def Balances (c : Counters) (acts : List Act) : Prop :=
  c.Balance (acts.filterMap Act.datagram?).length
    ((acts.filterMap Act.datagram?).countP fun d => IsRequest d.payload)
    (acts.filterMap Act.failure?).length

/-- The balance moves with what an act receives. -/
theorem Balances.step {r : Reflector} {acts : List Act}
    (h : Balances r.counters acts) (act : Act) :
    Balances (r.step act).counters (acts ++ [act]) := by
  have hconcat {β : Type} (f : Act → Option β) :
      (acts ++ [act]).filterMap f = acts.filterMap f ++ (f act).toList := by
    cases hact : f act <;> simp [hact]
  rw [Balances] at h ⊢
  rw [counters_step, hconcat, hconcat]
  -- only a receive has a fate, and its fate is decided by what was received
  cases act with
  | start source options bound =>
    simpa [fate?, Act.datagram?, Act.failure?] using h
  | stop => simpa [fate?, Act.datagram?, Act.failure?] using h
  | receive clock received send =>
    rw [fate?, Option.elim_some]
    cases received with
    | error e =>
      simpa [fate, Act.datagram?, Act.failure?, Except.toOption]
        using h.failed e
    | ok d =>
      by_cases hrequest : IsRequest d.payload
      · have hfate : r.fate clock send (.ok d) =
            .answered (send (target d) (echo d.payload (r.now clock))) := by
          rw [fate, defect?_of_isRequest hrequest]
        simpa [hfate, hrequest, Act.datagram?, Act.failure?,
          Except.toOption] using h.answered _
      · obtain ⟨what, hdefect⟩ :=
          Option.ne_none_iff_exists'.mp (mt defect?_eq_none_iff.mp hrequest)
        have hfate : r.fate clock send (.ok d) = .dropped what := by
          rw [fate, hdefect]
        simpa [hfate, hrequest, Act.datagram?, Act.failure?,
          Except.toOption] using h.dropped what

/-- What went wrong in the acts of a run, oldest first. -/
def allErrors (r : Reflector) : List Act → List Error
  | [] => []
  | act :: acts => (r.error? act).toList ++ allErrors (r.step act) acts

/-- A reflector keeps account of the acts that were done, where these errors
came up. -/
structure Accounts (r : Reflector) (acts : List Act) (errors : List Error) :
    Prop where
  counters : Balances r.counters acts
  lastError : r.lastError = errors.getLast?

namespace Accounts

variable {r : Reflector} {acts : List Act} {errors : List Error}

theorem step (h : Accounts r acts errors) (act : Act) :
    Accounts (r.step act) (acts ++ [act]) (errors ++
      (r.error? act).toList) := by
  refine ⟨h.counters.step act, ?_⟩
  rw [lastError_step, List.getLast?_append, h.lastError]
  cases r.error? act <;> rfl

theorem run (h : Accounts r acts errors) (later : List Act) :
    Accounts (r.run later) (acts ++ later) (errors ++ r.allErrors later) := by
  induction later generalizing r acts errors with
  | nil => simpa [allErrors] using h
  | cons act later ih => simpa [allErrors] using ih (h.step act)

end Accounts

/-! ## What only goes up -/

/-- No counter is greater than its later value. -/
structure Counters.Le (c c' : Counters) : Prop where
  received : c.received ≤ c'.received
  sent : c.sent ≤ c'.sent
  receiveErrors : c.receiveErrors ≤ c'.receiveErrors
  incomplete : c.incomplete ≤ c'.incomplete
  mismatched : c.mismatched ≤ c'.mismatched
  replies : c.replies ≤ c'.replies
  sendErrors : c.sendErrors ≤ c'.sendErrors

namespace Counters.Le

variable {c c' c'' : Counters}

theorem refl (c : Counters) : c.Le c :=
  ⟨Nat.le_refl _, Nat.le_refl _, Nat.le_refl _, Nat.le_refl _,
    Nat.le_refl _, Nat.le_refl _,
    Nat.le_refl _⟩

theorem trans (h : c.Le c') (h' : c'.Le c'') : c.Le c'' := by
  constructor
  · exact Nat.le_trans h.received h'.received
  · exact Nat.le_trans h.sent h'.sent
  · exact Nat.le_trans h.receiveErrors h'.receiveErrors
  · exact Nat.le_trans h.incomplete h'.incomplete
  · exact Nat.le_trans h.mismatched h'.mismatched
  · exact Nat.le_trans h.replies h'.replies
  · exact Nat.le_trans h.sendErrors h'.sendErrors

theorem note (c : Counters) (fate : Fate) : c.Le (c.note fate) := by
  cases fate with
  | failed e => constructor <;> simp [Counters.note]
  | dropped what => cases what <;> constructor <;> simp [Counters.note]
  | answered sent => cases sent <;> constructor <;> simp [Counters.note]

theorem step (r : Reflector) (act : Act) :
    r.counters.Le (r.step act).counters := by
  rw [counters_step]
  cases r.fate? act with
  | none => exact refl _
  | some fate => exact note _ fate

theorem run (r : Reflector) (acts : List Act) :
    r.counters.Le (r.run acts).counters := by
  induction acts generalizing r with
  | nil => exact refl _
  | cons act acts ih => exact (step r act).trans (ih (r.step act))

end Counters.Le

end ClockSync.Reflector
