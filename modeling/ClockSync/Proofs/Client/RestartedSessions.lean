import ClockSync.Client.Session
import ClockSync.Proofs.Client.Restarts

/-!
# Sessions of a client with a past

Each part of a session does the same to a client with another past, and gives
the same (`Session.step_withPast`). So from a start that succeeds on, a session
goes on as it would with a new client on the same host
(`Session.restarts_as_new`).
-/

namespace ClockSync.Client

open Net Wire

namespace Session

/-- The same session, with another past of the client. -/
def withPast (s : Session) (past : Nat) (error : Option ChannelError) :
    Session :=
  { s with client := s.client.withPast past error }

/-! ## Requests -/

/-- The client that sends the next request, with so many after it. -/
def sender (s : Session) (count : Nat) : Client :=
  if count = 1 then
    s.client.setOptions (s.client.options.set (.interval 3600000))
  else s.client

/-- The session after a client has sent a request, and what was logged. -/
def afterRequest (s : Session) (client : Client) : Session × Log :=
  let sent := client.sendRequest s.clock fun h request =>
    (sendCall s.system h request).1
  let system := match client.channel.socket with
    | some h => (sendCall s.system h sent.request).2
    | none => s.system
  ({ s with client := sent.client, clock := sent.clock, system }, sent.log)

theorem sendRequests_succ (count : Nat) (s : Session) :
    sendRequests (count + 1) s =
      let (asked, log) := s.afterRequest (s.sender count)
      let (requests, arrived) := asked.arrived
      let (settled, more) := arrived.run
      let (later, after, rest) := sendRequests count settled
      (requests ++ later, after, log ++ more ++ rest) := rfl

/-! ## Shutdowns -/

/-- The system after the socket of the channel was shut down. -/
def silenced (s : Session) : System :=
  match s.client.channel.socket with
  | some h => s.system.shutdown h
  | none => s.system

/-- The session whose client has woken its receiving loop. -/
def woken (s : Session) (client : Client) : Session :=
  { s with
    client
    system := match client.channel.wakeWriter with
      | some h => (wakeCall s.silenced h).2
      | none => s.silenced }

/-- The end of a shutdown, once the client has woken its receiving loop, and
what is logged. -/
def afterWake (s : Session) (client : Client) (woken : Log) : Session × Log :=
  let (settled, log) := (s.woken client).run
  let change := settled.client.endShutdown
  ({ settled with
    client := change.client
    system := closeAll settled.system change.closed },
    woken ++ log ++ change.log)

theorem shutdown_eq (s : Session) :
    s.shutdown =
      if ¬ s.client.running then .ok (s, [])
      else match s.client.beginShutdown.wakeReceiver fun h =>
        (wakeCall s.silenced h).1 with
        | none => .error .neverReturns
        | some (client, woken) => .ok (s.afterWake client woken) := rfl

section Past

variable (s : Session) (past : Nat) (error : Option ChannelError)

@[simp] theorem client_withPast :
    (s.withPast past error).client = s.client.withPast past error := rfl

@[simp] theorem system_withPast : (s.withPast past error).system = s.system :=
  rfl

@[simp] theorem clock_withPast : (s.withPast past error).clock = s.clock := rfl

@[simp] theorem peer_withPast : (s.withPast past error).peer = s.peer := rfl

@[simp] theorem looping_withPast :
    (s.withPast past error).looping = s.looping := rfl

@[simp] theorem buffer_withPast : (s.withPast past error).buffer = s.buffer :=
  rfl

@[simp] theorem polls_withError (system : System) (channel : Channel) :
    polls system (channel.withError error) = polls system channel := rfl

@[simp] theorem silenced_withPast :
    (s.withPast past error).silenced = s.silenced := rfl

@[simp] theorem prepare_withPast (readings : List Int64) (script : Script) :
    (s.withPast past error).prepare readings script =
      (s.prepare readings script).withPast past error := rfl

/-! ## The receiving loop -/

theorem turn_withPast :
    ∃ error', (s.withPast past error).turn =
      (s.turn.1, s.turn.2.1.withPast past error', s.turn.2.2) := by
  rw [turn, turn, client_withPast, system_withPast, clock_withPast,
    buffer_withPast, channel_withPast, polls_withError]
  rcases polls s.system s.client.channel with ⟨outcomes, system⟩
  obtain ⟨error', hturn⟩ :=
    s.client.receiveTurn_withPast past error s.clock outcomes
    fun h => (receiveCall system receiveLimit s.buffer h).1
  refine ⟨error', ?_⟩
  dsimp only
  rw [hturn]
  rfl

theorem settle_withPast (fuel : Nat) :
    ∃ error', settle fuel (s.withPast past error) =
      ((settle fuel s).1.withPast past error', (settle fuel s).2) := by
  -- a turn may note another error, so the rest of the loop starts from any
  induction fuel generalizing s error with
  | zero => exact ⟨error, rfl⟩
  | succ fuel ih =>
    obtain ⟨error₁, hturn⟩ := s.turn_withPast past error
    rw [settle, settle, hturn, looping_withPast]
    split
    · exact ⟨error, rfl⟩
    · rcases s.turn with ⟨turn, after, log⟩
      obtain ⟨error₂, hrest⟩ := ih after error₁
      cases turn with
      | goesOn =>
        dsimp only
        rw [hrest]
        exact ⟨error₂, rfl⟩
      | _ => exact ⟨error₁, rfl⟩

theorem run_withPast :
    ∃ error', (s.withPast past error).run =
      (s.run.1.withPast past error', s.run.2) :=
  s.settle_withPast past error s.turns

/-! ## Starting and stopping -/

theorem arrived_withPast :
    (s.withPast past error).arrived =
      (s.arrived.1, s.arrived.2.withPast past error) := by
  rw [arrived, arrived, system_withPast, peer_withPast]
  cases s.system.host.find? s.peer <;> rfl

theorem afterRequest_withPast (client : Client) :
    ∃ error',
      (s.withPast past error).afterRequest (client.withPast past error) =
      ((s.afterRequest client).1.withPast past error',
        (s.afterRequest client).2) := by
  obtain ⟨error', hsend⟩ := client.sendRequest_withPast past error s.clock
    fun h request => (sendCall s.system h request).1
  refine ⟨error', ?_⟩
  rw [afterRequest, system_withPast, clock_withPast, hsend]
  rfl

theorem sender_withPast (count : Nat) :
    (s.withPast past error).sender count =
      (s.sender count).withPast past error := by
  rw [sender, sender]
  split <;> rfl

theorem sendRequests_withPast (count : Nat) :
    ∃ error', sendRequests count (s.withPast past error) =
      ((sendRequests count s).1,
        (sendRequests count s).2.1.withPast past error',
        (sendRequests count s).2.2) := by
  induction count generalizing s error with
  | zero => exact ⟨error, rfl⟩
  | succ count ih =>
    obtain ⟨error₁, hrequest⟩ :=
      s.afterRequest_withPast past error (s.sender count)
    obtain ⟨error₂, hrun⟩ :=
      (s.afterRequest (s.sender count)).1.arrived.2.run_withPast past error₁
    obtain ⟨error₃, hrest⟩ :=
      ih (s.afterRequest (s.sender count)).1.arrived.2.run.1 error₂
    refine ⟨error₃, ?_⟩
    simp only [sendRequests_succ, sender_withPast, hrequest, arrived_withPast,
      hrun, hrest]

theorem afterWake_withPast (client : Client) (error₁ : Option ChannelError)
    (woken : Log) :
    ∃ error',
      (s.withPast past error).afterWake (client.withPast past error₁) woken =
      ((s.afterWake client woken).1.withPast past error',
        (s.afterWake client woken).2) := by
  have hwoken : (s.withPast past error).woken (client.withPast past error₁) =
      (s.woken client).withPast past error₁ := rfl
  obtain ⟨error', hrun⟩ := (s.woken client).run_withPast past error₁
  refine ⟨error', ?_⟩
  rw [afterWake, hwoken, hrun]
  rfl

theorem shutdown_withPast :
    ∃ error', (s.withPast past error).shutdown =
      s.shutdown.map fun (s, log) => (s.withPast past error', log) := by
  obtain ⟨error₁, hwake⟩ :=
    s.client.beginShutdown.wakeReceiver_withPast past error
    fun h => (wakeCall s.silenced h).1
  rw [shutdown_eq, shutdown_eq, silenced_withPast, client_withPast,
    running_withPast, beginShutdown_withPast, hwake]
  split
  · exact ⟨error, rfl⟩
  · rcases s.client.beginShutdown.wakeReceiver fun h =>
      (wakeCall s.silenced h).1 with
      _ | ⟨client, woken⟩
    · exact ⟨error, rfl⟩
    · obtain ⟨error₂, hafter⟩ :=
        s.afterWake_withPast past error client error₁ woken
      exact ⟨error₂, congrArg Except.ok hafter⟩

/-! ## Steps -/

/-- Two clients that a start makes the same, but for their past, go on the same.
It does not matter whether there was a receiving loop before, and what it
received. -/
theorem startAt_of_ok {s : Session} {client : Client} {past : Nat}
    {error : Option ChannelError} {clock : ClockSource} {options : Options}
    {host : String} {port : UInt16} (hrunning : s.client.running = false)
    (hrunning' : client.running = false)
    (hstart : s.client.start clock options (attempt s.system host port).1 =
      (client.start clock options (attempt s.system host port).1).withPast
        past error)
    (hok : (client.start clock options (attempt s.system host port).1).ok =
      true)
    (looping : Bool) (buffer : Bytes) (requests : Nat) :
    ∃ error', s.startAt clock options host port requests =
      let (result, after, log) :=
        { s with client, looping, buffer }.startAt clock
          options host port requests
      (result, after.withPast past error', log) := by
  rw [startAt, startAt, if_neg (by simp [hrunning]),
    if_neg (by simp [hrunning'])]
  dsimp only
  generalize attempt s.system host port = attempted at hstart hok ⊢
  obtain ⟨attempt, system⟩ := attempted
  dsimp only at hstart hok ⊢
  have hok' : ((client.start clock options attempt).withPast past error).ok =
      true := hok
  rw [hstart, if_pos hok, if_pos hok']
  obtain ⟨error', hsend⟩ := sendRequests_withPast
    { s with
      client := (client.start clock options attempt).client
      system := closeAll system (client.start clock options attempt).closed
      looping := true
      buffer := [] } past error (max 1 requests)
  exact ⟨error', congrArg (fun (requests, after, log) =>
    (Result.started true requests, after,
      (client.start clock options attempt).log ++ log)) hsend⟩

theorem startAt_withPast (clock : ClockSource) (options : Options)
    (host : String) (port : UInt16) (requests : Nat) :
    ∃ error', (s.withPast past error).startAt clock options host port requests =
      ((s.startAt clock options host port requests).1,
        (s.startAt clock options host port requests).2.1.withPast past error',
        (s.startAt clock options host port requests).2.2) := by
  obtain ⟨error', hstart⟩ := s.client.start_withPast past error clock options
    (attempt s.system host port).1
  -- requests are sent only after a start that succeeds
  by_cases hok : s.client.running = false ∧
      (s.client.start clock options (attempt s.system host port).1).ok = true
  · exact startAt_of_ok (s := s.withPast past error) hok.1
      hok.1 hstart hok.2 s.looping s.buffer
      requests
  · rw [startAt, startAt, system_withPast, client_withPast, running_withPast]
    split
    · exact ⟨error, rfl⟩
    · next hstopped =>
      have hfail :
          ¬ (s.client.start clock options (attempt s.system host port).1).ok =
            true :=
        fun h => hok ⟨Bool.eq_false_iff.mpr hstopped, h⟩
      dsimp only
      rw [hstart, if_neg hfail,
        if_neg (show ¬ (Change.withPast _ _ _).ok = true from hfail)]
      exact ⟨error', rfl⟩

theorem start_withPast (clock : ClockSource) (options : Options) (host : String)
    (requests : Nat) (peerClosed : Bool) :
    ∃ error',
      (s.withPast past error).start clock options host requests peerClosed =
      ((s.start clock options host requests peerClosed).1,
        (s.start clock options host requests peerClosed).2.1.withPast
          past error',
        (s.start clock options host requests peerClosed).2.2) := by
  rw [start, start]
  cases peerClosed with
  | false => exact s.startAt_withPast past error clock options host _ requests
  | true =>
    exact s.unusedPort.2.startAt_withPast past error clock
      options host _ requests

theorem disturb_withPast (what : Disturbance) :
    ∃ error', (s.withPast past error).disturb what =
      (s.disturb what).map fun (s, log) => (s.withPast past error', log) := by
  cases what with
  | shutdown => exact s.shutdown_withPast past error
  | datagram payload =>
    rw [disturb, disturb, looping_withPast, system_withPast, peer_withPast,
      client_withPast, channel_withPast, Channel.socket_withError]
    split
    · exact ⟨error, rfl⟩
    · dsimp only
      split
      · exact ⟨error, rfl⟩
      · next host _ =>
        obtain ⟨error', hrun⟩ :=
          run_withPast { s with system.host := host } past error
        exact ⟨error', congrArg Except.ok hrun⟩

theorem disturbAll_withPast (q : Query)
    (during : List (List Int64 × Script × Disturbance)) :
    ∃ error', disturbAll (q.withPast past) (s.withPast past error) during =
      (disturbAll q s during).map fun (q, s, log) =>
        (q.withPast past, s.withPast past error', log) := by
  induction during generalizing q s error with
  | nil => exact ⟨error, rfl⟩
  | cons item during ih =>
    obtain ⟨readings, script, what⟩ := item
    obtain ⟨error₁, hdisturb⟩ :=
      (s.prepare readings script).disturb_withPast past error what
    rw [disturbAll, disturbAll, prepare_withPast, hdisturb]
    rcases (s.prepare readings script).disturb what with e | ⟨after, log⟩
    · exact ⟨error, rfl⟩
    · obtain ⟨error₂, hrest⟩ := ih after error₁ (q.look after.client)
      refine ⟨error₂, ?_⟩
      simp only [Except.map, bind, Except.bind, client_withPast, look_withPast,
        hrest]
      rcases disturbAll (q.look after.client) after during with
        e | ⟨q', s', more⟩
      · rfl
      · rfl

theorem finish_withPast (q : Query) (timeout : Int) :
    (s.withPast past error).finish (q.withPast past) timeout =
      s.finish q timeout := by
  rw [finish, finish, client_withPast, look_withPast, expire_withPast]
  cases q.look s.client <;> rfl

/-- A step of a session does the same whatever the past of its client, and gives
the same. -/
theorem step_withPast (what : Step) :
    ∃ error', (s.withPast past error).step what =
      (s.step what).map fun (result, s, log) =>
        (result, s.withPast past error', log) := by
  obtain ⟨readings, script, action⟩ := what
  rw [step, step, prepare_withPast]
  generalize s.prepare readings script = s
  cases action with
  | start clock settings host requests peerClosed =>
    obtain ⟨error', hstart⟩ := s.start_withPast past error clock
      (Options.default.setAll settings) host requests peerClosed
    exact ⟨error', congrArg Except.ok hstart⟩
  | disturb what =>
    obtain ⟨error', hdisturb⟩ := s.disturb_withPast past error what
    refine ⟨error', ?_⟩
    simp only [hdisturb]
    rcases s.disturb what with e | ⟨after, log⟩
    · rfl
    · rfl
  | fault =>
    obtain ⟨error', hrun⟩ := s.run_withPast past error
    simp only [looping_withPast, hrun]
    split
    · exact ⟨error, rfl⟩
    · exact ⟨error', rfl⟩
  | read start position => exact ⟨error, rfl⟩
  | accuracy waits forgets timeout =>
    dsimp only
    rw [client_withPast, askAccuracy_withPast]
    rcases s.client.askAccuracy waits forgets with ⟨q, client⟩
    have hasked :
        ({ s.withPast past error with client := client.withPast past error } :
          Session) =
        withPast { s with client } past error := rfl
    refine ⟨error, ?_⟩
    dsimp only
    rw [hasked, finish_withPast]
    rcases finish { s with client } q timeout with e | a
    · rfl
    · rfl
  | await forgets timeout during =>
    dsimp only
    rw [client_withPast, askAccuracy_withPast]
    rcases s.client.askAccuracy true forgets with ⟨q, client⟩
    have hasked :
        ({ s.withPast past error with client := client.withPast past error } :
          Session) =
        withPast { s with client } past error := rfl
    obtain ⟨error', hduring⟩ :=
      disturbAll_withPast { s with client } past error q during
    refine ⟨error', ?_⟩
    dsimp only
    rw [hasked, hduring]
    rcases disturbAll q { s with client } during with e | ⟨q', after, log⟩
    · rfl
    · have hfinish := after.finish_withPast past error' q' timeout
      simp only [bind, Except.bind, Except.map, hfinish]
      rcases after.finish q' timeout with e | a
      · rfl
      · cases q <;> rfl
  | setOptions fresh settings => exact ⟨error, rfl⟩

/-! ## What is seen of a session -/

end Past

/-- What is seen of the steps of a session: what came of each, what was logged,
and what the client tells after it. A step that has no results is the last. -/
def observe (s : Session) :
    List Step → List (Except Stuck (Result × Log × View))
  | [] => []
  | what :: steps =>
    match s.step what with
    | .error stuck => [.error stuck]
    | .ok (result, after, log) =>
      .ok (result, log, after.client.view) :: observe after steps

theorem observe_withPast (s : Session) (past : Nat)
    (error : Option ChannelError) (steps : List Step) :
    (s.withPast past error).observe steps = s.observe steps := by
  induction steps generalizing s error with
  | nil => rfl
  | cons what steps ih =>
    obtain ⟨error', hstep⟩ := s.step_withPast past error what
    rw [observe, observe, hstep]
    rcases s.step what with stuck | ⟨result, after, log⟩
    · rfl
    · exact congrArg (_ :: ·) (ih after error')

/-! ## Starting again -/

/-- The same host with a new client. -/
def renewed (s : Session) : Session :=
  { s with client := {}, looping := false, buffer := [] }

/-- Whether a step says that it has started the client. -/
def Result.isStarted : Result → Bool
  | .started ok _ => ok
  | _ => false

section Restart

variable {s : Session} {clock : ClockSource} {options : Options}
  {host : String} {port : UInt16} {requests : Nat}

theorem isStarted_startAt
    (h : (s.startAt clock options host port requests).1.isStarted = true) :
    s.client.running = false ∧
      (s.client.start clock options (attempt s.system host port).1).ok =
        true := by
  rw [startAt] at h
  split at h
  · cases h
  · next hrunning =>
    refine ⟨Bool.eq_false_iff.mpr hrunning, ?_⟩
    dsimp only at h
    split at h
    · next hok => exact hok
    · cases h

theorem startAt_renewed
    (h : (s.startAt clock options host port requests).1.isStarted = true) :
    ∃ past error, s.startAt clock options host port requests =
      let (result, after, log) :=
        s.renewed.startAt clock options host port requests
      (result, after.withPast past error, log) := by
  obtain ⟨hrunning, hok⟩ := isStarted_startAt h
  have hstart := start_eq_withPast hok
  have hok' :
      (Client.start {} clock options (attempt s.system host port).1).ok =
        true := by
    rw [hstart] at hok
    exact hok
  obtain ⟨error, heq⟩ :=
    startAt_of_ok hrunning rfl hstart hok' false [] requests
  exact ⟨_, error, heq⟩

/-- A step that starts the client does the same to a new client, but for the
past. -/
theorem step_renewed {readings : List Int64} {script : Script}
    {settings : List Setting} {peerClosed : Bool}
    (h : (s.step ⟨readings, script,
      .start clock settings host requests peerClosed⟩).toOption.any
        (·.1.isStarted) = true) :
    ∃ past error, s.step ⟨readings, script,
      .start clock settings host requests peerClosed⟩ =
      (s.renewed.step ⟨readings, script,
        .start clock settings host requests peerClosed⟩).map
        fun (result, s, log) => (result, s.withPast past error, log) := by
  have hprepare : s.renewed.prepare readings script =
      (s.prepare readings script).renewed := rfl
  rw [step] at h
  rw [step, step, hprepare]
  generalize s.prepare readings script = s at h ⊢
  have hstarted : (s.start clock (Options.default.setAll settings) host requests
      peerClosed).1.isStarted = true := h
  rw [start] at hstarted
  dsimp only
  rw [start, start]
  cases peerClosed with
  | false =>
    obtain ⟨past, error, heq⟩ := startAt_renewed hstarted
    exact ⟨past, error, congrArg Except.ok heq⟩
  | true =>
    obtain ⟨past, error, heq⟩ := startAt_renewed hstarted
    exact ⟨past, error, congrArg Except.ok heq⟩

end Restart

/-- From a start that succeeds on, a client is not told from a new one, whatever
was done to it before: acts that follow give the same, and let the client and
queries tell the same at any time; the steps of a session that follow have the
same results and logs, and let the client tell the same, as with a new client on
the same host. -/
theorem restarts_as_new :
    (∀ (c : Client) (source : ClockSource) (options : Options)
      (attempt : Attempt)
        (later : List Act),
      (c.start source options attempt).ok = true →
      c.observe [] (.start source options attempt :: later) =
        Client.observe {} [] (.start source options attempt :: later)) ∧
    ∀ (s : Session) (readings : List Int64) (script : Script)
      (clock : ClockSource)
        (settings : List Setting) (host : String) (requests : Nat)
        (peerClosed : Bool)
        (later : List Step),
      let restart : Step :=
        ⟨readings, script, .start clock settings host requests peerClosed⟩
      (s.step restart).toOption.any (·.1.isStarted) = true →
      s.observe (restart :: later) = s.renewed.observe (restart :: later) := by
  refine ⟨?_, ?_⟩
  · intro c source options attempt later hok
    exact Client.observe_start hok later
  · intro s readings script clock settings host requests
      peerClosed later restart hstarted
    obtain ⟨past, error, heq⟩ := step_renewed hstarted
    rw [observe, observe, heq]
    rcases s.renewed.step restart with stuck | ⟨result, after, log⟩
    · rfl
    · exact congrArg (_ :: ·) (after.observe_withPast past error later)

/-- A client that ran before, sent a request and left an error behind: started
again, it is not told from a new one, be it by acts or by the steps of a
session. -/
theorem restarts_as_new_after_shutdown :
    let acts : List Act :=
      [.start (.given 0) .default (.complete ⟨"127.0.0.1", 9⟩ 4 (some (5, 6))),
        .request { next := 7 } fun _ _ => .error (.send .connectionRefused),
        .shutdown [.ok 1] none]
    let c := ({} : Client).run acts
    let restart :=
      Act.start .standard .default (.complete ⟨"127.0.0.1", 9⟩ 7 (some (8, 9)))
    let s : Session :=
      { new { loopbackUp := true } with client := c, buffer := [1, 2] }
    let again : Step := ⟨[5], [], .start (.given 1) [] "127.0.0.1" 1 false⟩
    let read : Step := ⟨[8, 9, 10], [], .read 0 0⟩
    c.statistics.sent = 1 ∧ c.channel.lastError ≠ none ∧
      c.observe [] [restart, .askAccuracy true true] =
        Client.observe {} [] [restart, .askAccuracy true true] ∧
      s.observe [again, read] = s.renewed.observe [again, read] := by
  intro acts c restart s again read
  have hok : (c.start .standard .default
      (.complete ⟨"127.0.0.1", 9⟩ 7 (some (8, 9)))).ok = true := by
    decide +kernel
  have hstarted : (s.step again).toOption.any (·.1.isStarted) = true := by
    decide +kernel
  obtain ⟨hacts, hsteps⟩ := restarts_as_new
  exact ⟨by decide +kernel, by decide +kernel, hacts c _ _ _ _ hok,
    hsteps s [5] [] (.given 1) [] "127.0.0.1" 1 false [read] hstarted⟩

end Session

end ClockSync.Client
