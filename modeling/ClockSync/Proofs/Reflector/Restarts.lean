import ClockSync.Proofs.Reflector.Queues

/-!
# What is left of the past of a reflector

A start leaves two things of a reflector that does not serve: its counters and
its last error. Nothing that a reflector does depends on either. `withPast`
counts on top of other counters and falls back on another error, and every
operation commutes with it (`step_withPast`, `Session.step_withPast`). So a
reflector that is started again does what a new one does, and counts it on top
of what it had counted (`trace_start`, `Session.trace_renewed`).
-/

namespace ClockSync.Reflector

open Net Wire

/-! ## Counters on top of others -/

/-- The counters with those of a past. -/
def Counters.add (past c : Counters) : Counters where
  received := past.received + c.received
  sent := past.sent + c.sent
  receiveErrors := past.receiveErrors + c.receiveErrors
  incomplete := past.incomplete + c.incomplete
  mismatched := past.mismatched + c.mismatched
  replies := past.replies + c.replies
  sendErrors := past.sendErrors + c.sendErrors

theorem Counters.add_zero (past : Counters) : past.add {} = past := rfl

/-- What a receive adds does not depend on the past. -/
theorem Counters.note_add (past c : Counters) (fate : Fate) :
    (past.add c).note fate = past.add (c.note fate) := by
  cases fate with
  | failed e => rfl
  | dropped what => cases what <;> rfl
  | answered sent => cases sent <;> rfl

/-! ## Another past -/

/-- The same reflector, if so much more had been counted before, and the last
error before its own had been another. -/
def withPast (r : Reflector) (past : Counters) (error : Option Error) :
    Reflector :=
  { r with
    counters := past.add r.counters
    lastError := r.lastError.or error }

section Past

variable (r : Reflector) (past : Counters) (error : Option Error)

@[simp] theorem serving_withPast :
    (r.withPast past error).serving = r.serving := rfl

theorem start_withPast (source : ClockSource) (options : Options)
    (bound : Except Error UInt16) :
    (r.withPast past error).start source options bound =
      ((r.start source options bound).1,
        (r.start source options bound).2.1.withPast past error,
        (r.start source options bound).2.2) := by
  rw [start, start, serving_withPast]
  split
  · rfl
  · cases bound <;> rfl

theorem stop_withPast :
    (r.withPast past error).stop = r.stop.withPast past error := by
  rw [stop, stop, serving_withPast]
  split <;> rfl

theorem handle_withPast (clock : Readings)
    (received : Except SocketError Datagram)
    (send : Endpoint → Bytes → Except SocketError Unit) :
    (r.withPast past error).handle clock received send =
      { r.handle clock received send with
        reflector :=
          (r.handle clock received send).reflector.withPast past error } := by
  have hfate : (r.withPast past error).fate clock send received =
      r.fate clock send received := rfl
  rw [handle_eq, handle_eq, hfate]
  simp only [withPast, Counters.note_add, Option.or_assoc]
  rfl

end Past

/-! ## Acts -/

/-- What an act gives. -/
inductive Outcome where
  | started (ok : Bool)
  | handled (clock : Readings) (reply : Option (Endpoint × Bytes))
  | nothing

/-- What an act gives, besides the reflector after it and what it logs. -/
def outcome (r : Reflector) : Act → Outcome
  | .start source options bound => .started (r.start source options bound).1
  | .stop => .nothing
  | .receive clock received send =>
    .handled (r.handle clock received send).clock
      (r.handle clock received send).reply

/-- An act does the same whatever the past, gives the same and logs the same. -/
theorem step_withPast (r : Reflector) (past : Counters) (error : Option Error)
    (act : Act) :
    (r.withPast past error).step act = (r.step act).withPast past error ∧
      (r.withPast past error).outcome act = r.outcome act ∧
      (r.withPast past error).logged act = r.logged act := by
  cases act with
  | start source options bound =>
    rw [step, outcome, logged, start_withPast]
    exact ⟨rfl, rfl, rfl⟩
  | stop => exact ⟨stop_withPast r past error, rfl, rfl⟩
  | receive clock received send =>
    rw [step, outcome, logged, handle_withPast]
    exact ⟨rfl, rfl, rfl⟩

/-- What acts one after the other give and log, each with the reflector after
it. -/
def trace (r : Reflector) : List Act → List (Outcome × Log × Reflector)
  | [] => []
  | act :: acts =>
    (r.outcome act, r.logged act, r.step act) :: trace (r.step act) acts

theorem trace_withPast (r : Reflector) (past : Counters) (error : Option Error)
    (acts : List Act) :
    (r.withPast past error).trace acts =
      (r.trace acts).map fun (outcome, log, r) =>
        (outcome, log, r.withPast past error) := by
  induction acts generalizing r with
  | nil => rfl
  | cons act acts ih =>
    obtain ⟨hstep, houtcome, hlogged⟩ := r.step_withPast past error act
    rw [trace, trace, hstep, houtcome, hlogged, ih]
    rfl

/-- A start makes of a reflector that does not serve what it makes of a new one,
but for the past. -/
theorem start_eq_withPast {r : Reflector} (hserving : r.serving = false)
    (hport : r.port = 0) (source : ClockSource) (options : Options)
    (bound : Except Error UInt16) :
    r.start source options bound =
      ((start {} source options bound).1,
        (start {} source options bound).2.1.withPast r.counters r.lastError,
        (start {} source options bound).2.2) := by
  rw [start, start, if_neg (by simp [hserving]), if_neg (by simp)]
  cases bound with
  | ok port => rfl
  | error e =>
    simp only [fail, withPast, Counters.add_zero, hserving, hport]
    rfl

/-- From a start on, a reflector that does not serve does what a new one does,
on top of its past. -/
theorem trace_start {r : Reflector} (hserving : r.serving = false)
    (hport : r.port = 0) (source : ClockSource) (options : Options)
    (bound : Except Error UInt16) (later : List Act) :
    r.trace (.start source options bound :: later) =
      (trace {} (.start source options bound :: later)).map fun (outcome,
        log, after) =>
        (outcome, log, after.withPast r.counters r.lastError) := by
  have hstart := start_eq_withPast hserving hport source options bound
  rw [trace, trace, outcome, outcome, logged, logged, step, step, hstart,
    trace_withPast]
  rfl

/-! ## Sessions -/

namespace Session

/-- The same session, with another past of the reflector. -/
def withPast (s : Session) (past : Counters) (error : Option Error) : Session :=
  { s with reflector := s.reflector.withPast past error }

section Past

variable (s : Session) (past : Counters) (error : Option Error)

@[simp] theorem reflector_withPast :
    (s.withPast past error).reflector = s.reflector.withPast past error := rfl

@[simp] theorem socket_withPast : (s.withPast past error).socket = s.socket :=
  rfl

@[simp] theorem system_withPast : (s.withPast past error).system = s.system :=
  rfl

@[simp] theorem clock_withPast : (s.withPast past error).clock = s.clock := rfl

@[simp] theorem prepare_withPast (what : Step) :
    (s.withPast past error).prepare what =
      (s.prepare what).withPast past error := rfl

theorem handleOne_withPast :
    (s.withPast past error).handleOne =
      s.handleOne.map fun (s, log) => (s.withPast past error, log) := by
  simp only [handleOne, socket_withPast, system_withPast, clock_withPast,
    reflector_withPast, handle_withPast]
  cases s.socket.receive s.system receiveLimit [] <;> rfl

theorem serve_withPast (fuel : Nat) :
    serve fuel (s.withPast past error) =
      ((serve fuel s).1.withPast past error, (serve fuel s).2) := by
  induction fuel generalizing s with
  | zero => rfl
  | succ fuel ih =>
    rw [serve, serve, socket_withPast, system_withPast]
    rcases s.socket.waitReadable s.system with ⟨ready, socket, system⟩
    have hwaited : ({ s.withPast past error with socket, system } : Session) =
        withPast { s with socket, system } past error := rfl
    have hidle := ih { s with socket, system }
    dsimp only
    rw [hwaited]
    rcases ready with e | _ | _
    · dsimp only
      split
      · exact hidle
      · rfl
    · dsimp only
      split
      · exact hidle
      · rfl
    · dsimp only
      rw [handleOne_withPast]
      rcases handleOne { s with socket, system } with _ | ⟨after, log⟩
      · rfl
      · exact congrArg (fun (s, more) => (s, log ++ more)) (ih after)

theorem start_withPast (clock : ClockSource) (options : Options)
    (port : UInt16) :
    (s.withPast past error).start clock options port =
      ((s.start clock options port).1,
        (s.start clock options port).2.1.withPast past error,
        (s.start clock options port).2.2) := by
  have hbind : (s.withPast past error).bindSocket port =
      s.bindSocket port := rfl
  rw [start, start, hbind, reflector_withPast, serving_withPast]
  split
  · rfl
  · simp only [Reflector.start_withPast]
    rfl

theorem stop_withPast :
    (s.withPast past error).stop = s.stop.withPast past error := by
  rw [stop, stop, reflector_withPast, serving_withPast, Reflector.stop_withPast]
  split <;> rfl

theorem exchange_withPast (payload : Bytes) :
    (s.withPast past error).exchange payload =
      ((s.exchange payload).1, (s.exchange payload).2.1.withPast past error,
        (s.exchange payload).2.2) := by
  have hserve : serve ((s.withPast past error).sent payload).passes
      ((s.withPast past error).sent payload) = _ :=
    serve_withPast (s.sent payload) past error (s.sent payload).passes
  rw [exchange_of_serve hserve, exchange_of_serve rfl]
  rfl

/-- A step does the same whatever the past, with the same result and the same
log. -/
theorem step_withPast (what : Step) :
    (s.withPast past error).step what =
      ((s.step what).1, (s.step what).2.1.withPast past error,
        (s.step what).2.2) := by
  obtain ⟨readings, script, action⟩ := what
  have hprepared := s.prepare_withPast past error ⟨readings, script, action⟩
  rw [prepare, prepare] at hprepared
  rw [step, step, hprepared]
  cases action with
  | start clock options =>
    dsimp only
    rw [start_withPast]
    rfl
  | datagram payload =>
    dsimp only
    rw [exchange_withPast]
    rfl
  | stop =>
    dsimp only
    rw [stop_withPast]
    rfl
  | look => rfl

end Past

/-- What steps one after the other give and log, each with the session after
it. -/
def trace (s : Session) : List Step → List (Result × Log × Session)
  | [] => []
  | what :: steps =>
    ((s.step what).1, (s.step what).2.2, s.next what) ::
      trace (s.next what) steps

theorem trace_withPast (s : Session) (past : Counters) (error : Option Error)
    (steps : List Step) :
    (s.withPast past error).trace steps =
      (s.trace steps).map fun (result, log, s) =>
        (result, log, s.withPast past error) := by
  induction steps generalizing s with
  | nil => rfl
  | cons what steps ih =>
    have hstep := s.step_withPast past error what
    have hnext : (s.withPast past error).next what =
        (s.next what).withPast past error := by
      rw [next, hstep]
      rfl
    rw [trace, trace, hnext, hstep, ih]
    rfl

/-- The same host with a new reflector. -/
def renewed (s : Session) : Session := { s with reflector := {}, socket := {} }

/-- A start makes of a reflector that does not serve what it makes of a new one,
on the same host, but for the past. -/
theorem start_renewed {s : Session} (hserving : s.reflector.serving = false)
    (hport : s.reflector.port = 0) (clock : ClockSource) (options : Options)
    (port : UInt16) :
    s.start clock options port =
      ((s.renewed.start clock options port).1,
        (s.renewed.start clock options port).2.1.withPast s.reflector.counters
          s.reflector.lastError,
        (s.renewed.start clock options port).2.2) := by
  have hbind : s.renewed.bindSocket port = s.bindSocket port := rfl
  have hnew : s.renewed.reflector.serving = false := rfl
  rw [start, start, hbind, if_neg (by simp [hserving]), if_neg (by simp [hnew])]
  dsimp only
  rw [Reflector.start_eq_withPast hserving hport]
  rfl

/-- A step that asks a reflector that does not serve to start makes of it what
it makes of a new one, but for the past. -/
theorem step_renewed {s : Session} (hserving : s.reflector.serving = false)
    (hport : s.reflector.port = 0) {what : Step} {clock : ClockSource}
    {options : Options} (hwhat : what.action = .start clock options) :
    s.step what =
      ((s.renewed.step what).1,
        (s.renewed.step what).2.1.withPast s.reflector.counters
          s.reflector.lastError,
        (s.renewed.step what).2.2) := by
  obtain ⟨readings, script, action⟩ := what
  subst hwhat
  have hstart :=
    start_renewed (s := s.prepare ⟨readings, script, .start clock options⟩)
    hserving hport clock options 0
  rw [prepare] at hstart
  rw [step, step]
  dsimp only
  rw [hstart]
  rfl

/-- From a step that asks a reflector that does not serve to start on, the steps
do what they do with a new reflector on the same host, on top of its past. -/
theorem trace_renewed {s : Session} (hserving : s.reflector.serving = false)
    (hport : s.reflector.port = 0) {what : Step} {clock : ClockSource}
    {options : Options} (hwhat : what.action = .start clock options)
    (later : List Step) :
    s.trace (what :: later) =
      (s.renewed.trace (what :: later)).map fun (result, log, after) =>
        (result, log,
          after.withPast s.reflector.counters s.reflector.lastError) := by
  have hstep := step_renewed hserving hport hwhat
  have hnext : s.next what =
      (s.renewed.next what).withPast s.reflector.counters
        s.reflector.lastError := by
    rw [next, hstep]
    rfl
  rw [trace, trace, hnext, hstep, trace_withPast]
  rfl

/-- What a reflector that serves, and one that does not, does next; be it by
acts, where every call ends in any way, or by the steps of a session on a
host. -/
theorem serves_between_start_and_stop :
    (∀ acts : List Act,
      let r := run {} acts
      (r.serving = true ↔ ∃ before act later, acts = before ++ act :: later ∧
        act.isStart = true ∧ ∀ act ∈ later, act.isStop = false) ∧
      (r.serving = true → ∀ source options bound,
        r.start source options bound = (true, r, [])) ∧
      (r.serving = false → r.port = 0 ∧ r.stop = r ∧
        ∀ source options bound later,
        r.trace (.start source options bound :: later) =
          (Reflector.trace {} (.start source options bound :: later)).map
            fun (outcome, log, after) =>
              (outcome, log, after.withPast r.counters r.lastError))) ∧
    ∀ (host : Host) (steps : List Step),
      let s := ((new host).after steps).1
      (s.reflector.serving = true ↔
        ∃ before what later, steps = before ++ what :: later ∧
        ((new host).after before).1.Starts what ∧
        ∀ what ∈ later, what.isStop = false) ∧
      (s.reflector.serving = true → ∀ clock options port,
        s.start clock options port = (true, s, [])) ∧
      (s.reflector.serving = false →
        s.reflector.port = 0 ∧ s.stop = s ∧
        (∀ payload,
          let sent :=
            (s.system.host.sendTo s.requester ⟨.loopback, 0⟩ payload).2
          let received := sent.receive s.requester packetSize
          ∃ lastError, s.exchange payload =
            (received.1.bind fun outcome =>
              outcome.toOption.map Datagram.payload,
              { s with
                socket.lastError := lastError
                system.host := received.2 }, [])) ∧
        (host.sockets = [] → (∀ what ∈ steps, what.script.MakesNoSocket) →
          ∀ payload, (s.exchange payload).1 = none) ∧
        ∀ (what : Step) (clock : ClockSource) (options : Options)
          (later : List Step),
          what.action = .start clock options →
          s.trace (what :: later) =
            (s.renewed.trace (what :: later)).map fun (result, log, after) =>
              (result, log,
                after.withPast s.reflector.counters
                  s.reflector.lastError)) := by
  refine ⟨?_, ?_⟩
  · intro acts r
    refine ⟨serving_run_iff acts, ?_, ?_⟩
    · intro hserving source options bound
      rw [Reflector.start, if_pos hserving]
    · intro hserving
      have hport : r.port = 0 := port_run (fun _ => rfl) acts hserving
      refine ⟨hport, ?_, Reflector.trace_start hserving hport⟩
      rw [Reflector.stop, if_neg (by simp [hserving])]
  · intro host steps s
    have hsettled : s.Settled := (settled_new host).after steps
    refine ⟨serving_after_iff host steps, start_of_serving, ?_⟩
    intro hserving
    have hclosed := hsettled.handle hserving
    refine ⟨hsettled.port hserving, stop_of_not_serving hserving,
      exchange_of_closed hclosed,
      ?_, ?_⟩
    · intro hnone hscripts payload
      have hquiet : s.Quiet :=
        (Quiet.new hnone).after (settled_new host) hscripts
      obtain ⟨lastError, heq⟩ := hquiet.exchange_of_closed hclosed payload
      rw [heq]
    · intro what clock options later hwhat
      exact trace_renewed hserving (hsettled.port hserving) hwhat later

/-- A reflector whose first start could not bind its socket, and which answered
a request after the second one. Once it is stopped, a request gets nothing back,
and a third start makes it do what a new one does, on top of the request it has
counted. -/
theorem serves_between_start_and_stop_of_retry :
    let request := (Packet.request 5).serialize
    let failed : Step :=
      ⟨[], [(.bind, .fails .addressInUse)], .start .standard ⟨true, none⟩⟩
    let begun : Step := ⟨[], [], .start (.given 0) {}⟩
    let asked : Step := ⟨[7, 8], [], .datagram request⟩
    let ended : Step := ⟨[], [], .stop⟩
    let opened := ((new { loopbackUp := true }).after [failed, begun, asked]).1
    let closed :=
      ((new { loopbackUp := true }).after [failed, begun, asked, ended]).1
    let start : Act := .start .standard {} (.ok 9)
    opened.reflector.serving = true ∧
    opened.start .standard ⟨true, none⟩ 9 = (true, opened, []) ∧
      closed.reflector.serving = false ∧ closed.reflector.counters.sent = 1 ∧
      closed.reflector.port = 0 ∧ (closed.exchange request).1 = none ∧
      closed.trace [begun, asked] =
        (closed.renewed.trace [begun, asked]).map (fun (result, log, after) =>
          (result, log,
            after.withPast closed.reflector.counters
              closed.reflector.lastError)) ∧
      (run {} [start]).start (.given 0) {} (.ok 7) =
        (true, run {} [start], []) ∧
      (run {} [start, .stop]).port = 0 := by
  intro request failed begun asked ended opened closed start
  have hopen : opened.reflector.serving = true := by decide +kernel
  have hclosed : closed.reflector.serving = false := by decide +kernel
  have hscripts : ∀ what ∈ [failed, begun, asked, ended],
      what.script.MakesNoSocket := by
    simp [failed, begun, asked, ended, Script.MakesNoSocket]
  obtain ⟨hacts, hsteps⟩ := serves_between_start_and_stop
  obtain ⟨_, hredundant, _⟩ :=
    hsteps { loopbackUp := true } [failed, begun, asked]
  obtain ⟨_, _, hstopped⟩ :=
    hsteps { loopbackUp := true } [failed, begun, asked, ended]
  obtain ⟨hport, _, _, hsilent, hrestart⟩ := hstopped hclosed
  refine ⟨hopen, hredundant hopen _ _ _, hclosed, by decide +kernel, hport,
    hsilent rfl hscripts request, hrestart begun _ _ [asked] rfl, ?_, ?_⟩
  · exact (hacts [start]).2.1 rfl _ _ _
  · exact ((hacts [start, .stop]).2.2 rfl).1

end Session

end ClockSync.Reflector
