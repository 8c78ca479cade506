import ClockSync.Reflector.Session
import ClockSync.Proofs.Reflector.Runs
import ClockSync.Proofs.Scripts

/-!
# Sessions of a reflector are runs

A session makes system calls on a host, which may be scripted to end in any way.
`acts` lists what a step of it does: starts and stops, and each receive of the
serving loop with what the call gave. What the step makes of the reflector, and
what it logs, is the run of these acts (`step_eq`), so a session counts, keeps
and reports what runs do (`accounts_for_receives`).

A wait changes nothing on the host. One that fails, or finds nothing because it
was scripted to, only uses up its outcome (`serve_of_not_ready`).
-/

namespace ClockSync.Reflector

open Net Wire

namespace Session

/-! ## The serving loop -/

/-- The receive that a session makes next, as an act; `none` if it does not
return. -/
def receiveAct? (s : Session) : Option Act :=
  (s.socket.receive s.system receiveLimit []).map fun (received,
    socket, system) =>
    .receive s.clock received fun target reply =>
      (socket.sendTo system target reply).1

theorem handleOne_cases (s : Session) :
    s.receiveAct? = none ∧ s.handleOne = none ∨
    ∃ act s' log, s.receiveAct? = some act ∧ s.handleOne = some (s', log) ∧
      s'.reflector = s.reflector.step act ∧ log = s.reflector.logged act := by
  rw [receiveAct?, handleOne]
  cases s.socket.receive s.system receiveLimit [] with
  | none => exact Or.inl ⟨rfl, rfl⟩
  | some outcome => exact Or.inr ⟨_, _, _, rfl, rfl, rfl, rfl⟩

/-- The receives of the passes of `serve`, as acts, oldest first. -/
def served : Nat → Session → List Act
  | 0, _ => []
  | fuel + 1, s =>
    let (ready, socket, system) := s.socket.waitReadable s.system
    let scripted := system.script.length < s.system.script.length
    let s := { s with socket, system }
    match ready with
    | .ok true =>
      match s.handleOne with
      | none => []
      | some (after, _) => s.receiveAct?.toList ++ served fuel after
    | _ => if scripted then served fuel s else []

/-- What the serving loop does is the run of its receives. -/
theorem serve_eq (fuel : Nat) (s : Session) :
    (serve fuel s).1.reflector = s.reflector.run (served fuel s) ∧
      (serve fuel s).2 = s.reflector.allLogged (served fuel s) := by
  -- a wait that finds nothing is no act: the passes that are left start from
  -- the same reflector
  induction fuel generalizing s with
  | zero => exact ⟨rfl, rfl⟩
  | succ fuel ih =>
    rw [serve, served]
    generalize s.socket.waitReadable s.system = waited
    obtain ⟨ready, socket, system⟩ := waited
    have hidle := ih { s with socket, system }
    rcases ready with e | _ | _
    · dsimp only
      split
      · exact hidle
      · exact ⟨rfl, rfl⟩
    · dsimp only
      split
      · exact hidle
      · exact ⟨rfl, rfl⟩
    · dsimp only
      rcases handleOne_cases { s with socket, system } with
        ⟨_, hnone⟩ | ⟨act, after, log, hact, hsome, hreflector, hlog⟩
      · rw [hnone]
        exact ⟨rfl, rfl⟩
      · obtain ⟨hrun, hlogged⟩ := ih after
        rw [hsome, hact]
        dsimp only at hreflector hlog ⊢
        rw [hrun, hlogged, hreflector, hlog]
        exact ⟨rfl, rfl⟩

/-! ### Waits -/

/-- A wait changes nothing on the host, and uses up one outcome of the script or
none. -/
theorem waitReadable_cases (socket : DatagramSocket) (system : System) :
    (socket.waitReadable system).2.1.handle = socket.handle ∧
      (socket.waitReadable system).2.2.host = system.host ∧
      ((socket.waitReadable system).2.2.script = system.script ∨
        (socket.waitReadable system).2.2.script.length + 1 =
          system.script.length) := by
  rw [DatagramSocket.waitReadable]
  cases hhandle : socket.handle with
  | none => exact ⟨hhandle, rfl, Or.inl rfl⟩
  | some h =>
    have hhost : (system.poll h).2.host = system.host := System.host_call rfl
    have hscript : (system.poll h).2.script = system.script ∨
        (system.poll h).2.script.length + 1 = system.script.length :=
      system.length_script_call _ _ _
    dsimp only
    generalize system.poll h = polled at hhost hscript ⊢
    obtain ⟨_ | errno | found, later⟩ := polled
    · exact ⟨hhandle, hhost, hscript⟩
    · exact ⟨hhandle, hhost, hscript⟩
    · exact ⟨hhandle, hhost, hscript⟩

/-- A wait that finds nothing although its outcome was scripted leaves the loop
where it was: on the same host, with the same reflector, and with all its
passes. -/
theorem serve_of_not_ready {s : Session} {ready : Except SocketError Bool}
    {socket : DatagramSocket} {system : System}
    (hwait : s.socket.waitReadable s.system = (ready, socket, system))
    (hready : ready ≠ .ok true)
    (hscripted : system.script.length < s.system.script.length) :
    serve s.passes s =
      serve (passes { s with socket, system }) { s with socket, system } := by
  obtain ⟨hhandle, hhost, hscript⟩ := waitReadable_cases s.socket s.system
  rw [hwait] at hhandle hhost hscript
  dsimp only at hhandle hhost hscript
  have hpasses : s.passes = passes { s with socket, system } + 1 := by
    rw [passes, passes, hhandle, hhost]
    dsimp only
    rcases hscript with hsame | hless
    · rw [hsame] at hscripted
      exact absurd hscripted (Nat.lt_irrefl _)
    · omega
  rw [hpasses, serve, hwait]
  rcases ready with e | _ | _
  · exact if_pos hscripted
  · exact if_pos hscripted
  · exact absurd rfl hready

/-! ## Steps -/

/-- A session with what is scripted for a step in force. -/
def prepare (s : Session) (what : Step) : Session :=
  { s with
    clock := s.clock.replace what.readings
    system.script := what.script }

/-- The session after the other side has sent a datagram. -/
def sent (s : Session) (payload : Bytes) : Session :=
  let port := (s.socket.handle.map s.system.host.localPort).getD 0
  { s with
    system.host :=
      (s.system.host.sendTo s.requester ⟨.loopback, port⟩ payload).2 }

/-- After the serving loop the other side reads what it has in its queue, if
anything. -/
theorem exchange_of_serve {s served : Session} {payload : Bytes} {log : Log}
    (hserve : serve (s.sent payload).passes (s.sent payload) = (served, log)) :
    let received := served.system.host.receive served.requester packetSize
    s.exchange payload =
      (received.1.bind fun outcome => outcome.toOption.map Datagram.payload,
        { served with system.host := received.2 }, log) := by
  unfold sent at hserve
  simp only [exchange, hserve]
  rcases served.system.host.receive served.requester packetSize with
    ⟨_ | e | d, host⟩
  · rfl
  · rfl
  · rfl

/-- What a step of a session does, as acts. A reflector that serves is not
started again. -/
def acts (s : Session) (what : Step) : List Act :=
  let s := s.prepare what
  match what.action with
  | .start clock options =>
    if s.reflector.serving then []
    else [.start clock options (s.bindSocket 0).1]
  | .datagram payload => served (s.sent payload).passes (s.sent payload)
  | .stop => [.stop]
  | .look => []

theorem start_eq_run (s : Session) (clock : ClockSource) (options : Options)
    (port : UInt16) :
    (s.start clock options port).2.1.reflector =
        (if s.reflector.serving then s.reflector
          else s.reflector.step (.start clock options (s.bindSocket port).1)) ∧
      (s.start clock options port).2.2 =
        if s.reflector.serving then []
        else
          s.reflector.logged (.start clock options (s.bindSocket port).1) := by
  rw [start]
  split
  · exact ⟨rfl, rfl⟩
  · exact ⟨rfl, rfl⟩

theorem stop_reflector (s : Session) :
    s.stop.reflector = s.reflector.step .stop := by
  by_cases h : s.reflector.serving = true
  · rw [stop, if_pos h]
    rfl
  · rw [stop, if_neg h, Reflector.step, Reflector.stop, if_neg h]

theorem exchange_eq_run (s : Session) (payload : Bytes) :
    (s.exchange payload).2.1.reflector =
        s.reflector.run (served (s.sent payload).passes (s.sent payload)) ∧
      (s.exchange payload).2.2 =
        s.reflector.allLogged
          (served (s.sent payload).passes (s.sent payload)) := by
  rw [exchange_of_serve rfl]
  exact serve_eq (s.sent payload).passes (s.sent payload)

/-- What a step of a session makes of its reflector, and what it logs, is the
run of its acts. -/
theorem step_eq (s : Session) (what : Step) :
    (s.step what).2.1.reflector = s.reflector.run (s.acts what) ∧
      (s.step what).2.2 = s.reflector.allLogged (s.acts what) := by
  obtain ⟨readings, script, action⟩ := what
  cases action with
  | start clock options =>
    obtain ⟨hreflector, hlog⟩ :=
      start_eq_run (s.prepare ⟨readings, script, .start clock options⟩)
        clock options 0
    refine ⟨hreflector.trans ?_, hlog.trans ?_⟩
    · rw [acts]
      dsimp only
      split <;> rfl
    · rw [acts]
      dsimp only
      split <;> simp [prepare, allLogged]
  | datagram payload =>
    exact exchange_eq_run (s.prepare ⟨readings, script, _⟩) payload
  | stop => exact ⟨stop_reflector (s.prepare ⟨readings, script, _⟩), rfl⟩
  | look => exact ⟨rfl, rfl⟩

/-! ## Whole sessions -/

/-- The session after steps, and what was logged. -/
def after (s : Session) : List Step → Session × Log
  | [] => (s, [])
  | what :: steps =>
    let (_, s, log) := s.step what
    let (s, more) := after s steps
    (s, log ++ more)

/-- What the steps of a session do, as acts, oldest first. -/
def allActs (s : Session) : List Step → List Act
  | [] => []
  | what :: steps => s.acts what ++ allActs (s.step what).2.1 steps

theorem after_eq (s : Session) (steps : List Step) :
    (s.after steps).1.reflector = s.reflector.run (s.allActs steps) ∧
      (s.after steps).2 = s.reflector.allLogged (s.allActs steps) := by
  induction steps generalizing s with
  | nil => exact ⟨rfl, rfl⟩
  | cons what steps ih =>
    obtain ⟨hreflector, hlog⟩ := s.step_eq what
    obtain ⟨hrun, hlogged⟩ := ih (s.step what).2.1
    rw [after, allActs, run_append, allLogged_append, ← hreflector, ← hlog,
      ← hrun, ← hlogged]
    exact ⟨rfl, rfl⟩

/-- The clock and the options that a reflector is left with are not used again:
a start puts others in force. -/
theorem start_withSettings {r : Reflector} (h : r.serving = false)
    (clock clock' : ClockSource) (options options' : Options)
    (bound : Except Error UInt16) :
    ({ r with clock, options } : Reflector).start clock' options' bound =
      r.start clock' options' bound := by
  have hstopped : ¬ r.serving = true := by simp [h]
  rw [Reflector.start, Reflector.start, if_neg hstopped, if_neg hstopped]

/-- A start that fails, of a reflector that does not serve, changes nothing of
it but the last error, the clock and the options. -/
theorem start_of_not_ok {s : Session} {clock : ClockSource} {options : Options}
    {port : UInt16} (h : (s.start clock options port).1 = false) :
    ∃ e, s.reflector.serving = false ∧
      (s.start clock options port).2.1.reflector =
        { s.reflector with clock, options, lastError := some e } ∧
      (s.start clock options port).2.2 = report options.sink (.error e) := by
  rw [start] at h ⊢
  by_cases hserving : s.reflector.serving = true
  · rw [if_pos hserving] at h
    cases h
  · rw [if_neg hserving] at h ⊢
    dsimp only at h ⊢
    generalize (s.bindSocket port).1 = bound at h ⊢
    rw [Reflector.start, if_neg hserving] at h ⊢
    cases bound with
    | ok port => cases h
    | error e => exact ⟨e, Bool.eq_false_iff.mpr hserving, rfl, rfl⟩

/-- The counters of a session balance what its receives gave, the last error is
that of the latest act in which something went wrong, and the log has one line
for each of these and, if asked for, one for each request. No later step makes a
counter go down; a start that fails leaves them all and notes its error, and the
clock and the options that it was given are gone with the next start; a wait
that finds nothing leaves the reflector and the host with its queues, and the
loop goes on. -/
theorem accounts_for_receives (host : Host) (steps : List Step) :
    let s := ((new host).after steps).1
    let acts := (new host).allActs steps
    let datagrams := acts.filterMap Act.datagram?
    let c := s.reflector.counters
    c.received = c.sent + c.sendErrors ∧
    datagrams.length = c.incomplete + c.mismatched + c.replies + c.received ∧
    (datagrams.countP fun d => IsRequest d.payload) = c.received ∧
    (acts.filterMap Act.failure?).length = c.receiveErrors ∧
    s.reflector.errorText =
      ((({} : Reflector).allErrors acts).getLast?.map Error.message).getD "" ∧
    (∀ portText, lines portText ((new host).after steps).2 =
      allLines portText {} acts) ∧
    (∀ later, c.Le (s.after later).1.reflector.counters) ∧
    (∀ (s : Session) clock options port,
      (s.start clock options port).1 = false → ∃ e,
      s.reflector.serving = false ∧
      (s.start clock options port).2.1.reflector =
        { s.reflector with clock, options, lastError := some e } ∧
      (s.start clock options port).2.2 = report options.sink (.error e) ∧
      ∀ clock' options' bound,
        (s.start clock options port).2.1.reflector.start clock' options' bound =
          ({ s.reflector with lastError := some e } : Reflector).start
            clock' options' bound) ∧
    ∀ (s : Session) ready socket system,
      s.socket.waitReadable s.system = (ready, socket, system) →
        system.host = s.system.host ∧
        (ready ≠ .ok true → system.script.length < s.system.script.length →
          serve s.passes s =
            serve (passes { s with socket, system })
              { s with socket, system }) := by
  intro s acts datagrams c
  have hreflector : s.reflector = ({} : Reflector).run acts :=
    ((new host).after_eq steps).1
  have hlog : ((new host).after steps).2 = ({} : Reflector).allLogged acts :=
    ((new host).after_eq steps).2
  have hnew : Accounts ({} : Reflector) [] [] := ⟨⟨rfl, rfl, rfl, rfl⟩, rfl⟩
  have haccounts :
      Accounts s.reflector acts (({} : Reflector).allErrors acts) := by
    have hrun : Accounts (({} : Reflector).run acts) ([] ++ acts) ([] ++ _) :=
      hnew.run acts
    rwa [List.nil_append, List.nil_append, ← hreflector] at hrun
  refine ⟨haccounts.counters.replied, haccounts.counters.datagrams,
    haccounts.counters.requests,
    haccounts.counters.failures, ?_, fun portText => ?_,
      fun later => ?_, ?_, ?_⟩
  · rw [errorText, haccounts.lastError]
  · rw [hlog]
    exact lines_allLogged portText _ acts
  · obtain ⟨hlater, _⟩ := s.after_eq later
    rw [hlater]
    exact .run _ _
  · intro s clock options port h
    obtain ⟨e, hstopped, hreflector, hreport⟩ := start_of_not_ok h
    refine ⟨e, hstopped, hreflector, hreport, ?_⟩
    intro clock' options' bound
    rw [hreflector]
    exact start_withSettings (r := { s.reflector with lastError := some e })
      hstopped
      clock clock' options options' bound
  · intro s ready socket system hwait
    refine ⟨?_, serve_of_not_ready hwait⟩
    have hhost := (waitReadable_cases s.socket s.system).2.1
    rwa [hwait] at hhost

/-- A start that fails, one that does not, and a request that comes after an
interrupted wait and a failed receive: it is answered all the same, and the last
error is that of the receive. After a stop, a start that fails leaves the
counters. -/
theorem accounts_for_interrupted_request :
    let steps : List Step :=
      [⟨[7], [(.socket, .fails ⟨24⟩)], .start (.given 0) { sink := some ⟨0⟩ }⟩,
        ⟨[], [], .start (.given 0) { sink := some ⟨1⟩, verbose := true }⟩,
        ⟨[], [(.poll, .fails .interrupted), (.receive, .fails .badDescriptor)],
          .datagram (Packet.request 5).serialize⟩]
    let s := ((new { loopbackUp := true }).after steps).1
    let stopped :=
      { s.stop with system.script := [(.bind, .fails .addressInUse)] }
    s.reflector.counters = { received := 1, sent := 1, receiveErrors := 1 } ∧
      s.reflector.errorText =
        (Error.notReceived (.receive .badDescriptor)).message ∧
      (stopped.start .standard {} 80).1 = false ∧
      (stopped.start .standard {} 80).2.1.reflector.counters =
        s.reflector.counters := by
  intro steps s stopped
  obtain ⟨_, _, _, _, herror, _, _, hstart, _⟩ :=
    accounts_for_receives { loopbackUp := true } steps
  have hfails : (stopped.start .standard {} 80).1 = false := by decide +kernel
  obtain ⟨e, _, hreflector, _⟩ := hstart stopped .standard {} 80 hfails
  refine ⟨by decide +kernel, herror.trans ?_, hfails, ?_⟩
  · have hlast : (({} : Reflector).allErrors
        ((new { loopbackUp := true }).allActs steps)).getLast? =
          some (.notReceived (.receive .badDescriptor)) := by decide +kernel
    rw [hlast]
    rfl
  · rw [hreflector]
    rfl

end Session

end ClockSync.Reflector
