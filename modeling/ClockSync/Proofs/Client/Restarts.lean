import ClockSync.Proofs.Client.LastErrors

/-!
# What is left of the past of a client

A start clears all of a client but two things: the last error of its channel and
the number of measurements that were ever recorded. `withPast` is a client with
other values there. Nobody can tell (`step_withPast`): the error is never read,
and of the number only whether it has changed since a query was made. So a
client that is started again is seen to be a new one (`observe_start`).

An operation may note another error, and does so or not whatever was noted
before; of the error after it the lemmas say only that there is one.
-/

namespace ClockSync

open Net Wire

namespace Client

/-! ## The last error of a channel -/

namespace Channel

/-- The same channel, with another error noted last. -/
def withError (channel : Channel) (error : Option ChannelError) : Channel :=
  { channel with lastError := error }

variable (channel : Channel) (error : Option ChannelError)

@[simp] theorem isOpen_withError :
    (channel.withError error).isOpen = channel.isOpen := rfl

@[simp] theorem socket_withError :
    (channel.withError error).socket = channel.socket := rfl

@[simp] theorem wakeWriter_withError :
    (channel.withError error).wakeWriter = channel.wakeWriter := rfl

@[simp] theorem wakeReader_withError :
    (channel.withError error).wakeReader = channel.wakeReader := rfl

theorem connect_withError (attempt : Attempt) :
    ∃ error', (channel.withError error).connect attempt =
      { channel.connect attempt with
        channel := (channel.connect attempt).channel.withError error' } := by
  rw [connect.eq_def, connect.eq_def, isOpen_withError]
  split
  · exact ⟨_, rfl⟩
  · cases attempt with
    | complete remote socket pair => exact ⟨error, rfl⟩
    | _ => exact ⟨_, rfl⟩

theorem settle_withError {α : Type} (result : Except ChannelError α) :
    ∃ error', (channel.withError error).settle result =
      ((channel.settle result).1,
        (channel.settle result).2.withError error') := by
  cases result with
  | ok a => exact ⟨error, rfl⟩
  | error e => exact ⟨some e, rfl⟩

theorem send_withError (call : Handle → Except SocketError Unit) :
    ∃ error', (channel.withError error).send call =
      ((channel.send call).1, (channel.send call).2.withError error') := by
  rw [send, send, socket_withError]
  cases channel.socket with
  | none => exact channel.settle_withError error _
  | some h => exact channel.settle_withError error _

theorem wait_withError (polls : List (Except Errno (Nat × Nat))) :
    ∃ error', (channel.withError error).wait polls =
      ((channel.wait polls).1, (channel.wait polls).2.withError error') := by
  rw [wait, wait, socket_withError, wakeReader_withError]
  split
  · rcases uninterrupted? polls with _ | ⟨errno | ⟨events, wakeEvents⟩⟩
    · exact ⟨error, rfl⟩
    · exact ⟨some (.poll errno), rfl⟩
    · dsimp only
      cases eventsToWait events wakeEvents with
      | failed e => exact ⟨some e, rfl⟩
      | _ => exact ⟨error, rfl⟩
  · exact ⟨some .notOpen, rfl⟩

theorem receive_withError {α : Type}
    (call : Handle → Option (Except SocketError α)) :
    ∃ error', (channel.withError error).receive call =
      (channel.receive call).map fun (result, channel) =>
        (result, channel.withError error') := by
  rw [receive, receive, socket_withError]
  cases channel.socket with
  | none => exact ⟨some .notOpen, rfl⟩
  | some h =>
    dsimp only
    cases call h with
    | none => exact ⟨error, rfl⟩
    | some result =>
      obtain ⟨error', hsettle⟩ :=
        channel.settle_withError error (result.mapError .socket)
      exact ⟨error', congrArg some hsettle⟩

theorem interrupt_withError (writes : Handle → List (Except Errno Int)) :
    ∃ error', (channel.withError error).interrupt writes =
      (channel.interrupt writes).map fun (result, channel) =>
        (result, channel.withError error') := by
  rw [interrupt, interrupt, wakeWriter_withError]
  cases channel.wakeWriter with
  | none => exact ⟨some .wakeNotOpen, rfl⟩
  | some h =>
    dsimp only
    rcases uninterrupted? (writes h) with _ | ⟨errno | count⟩
    · exact ⟨error, rfl⟩
    · obtain ⟨error', hsettle⟩ := channel.settle_withError error
        (if errno = .tryAgain then .ok () else .error (.wake errno))
      exact ⟨error', congrArg some hsettle⟩
    · exact ⟨error, rfl⟩

end Channel

/-! ## Another past -/

/-- The same client, if so many measurements more had been recorded before and
another error had been noted last. -/
def withPast (c : Client) (past : Nat) (error : Option ChannelError) : Client :=
  { c with
    monitor := { c.monitor with generation := c.monitor.generation + past }
    channel := c.channel.withError error }

/-- The same change, of a client with another past. -/
def Change.withPast (change : Change) (past : Nat)
    (error : Option ChannelError) : Change :=
  { change with client := change.client.withPast past error }

/-- The same request, of a client with another past. -/
def Sent.withPast (sent : Sent) (past : Nat) (error : Option ChannelError) :
    Sent :=
  { sent with client := sent.client.withPast past error }

/-- The same intake, by a client with another past. -/
def Taken.withPast (taken : Taken) (past : Nat) (error : Option ChannelError) :
    Taken :=
  { taken with client := taken.client.withPast past error }

/-- The same query, if it were made of a client with another past. -/
def Query.withPast (past : Nat) : Query → Query
  | answered a => answered a
  | waiting generation => waiting (generation + past)

section Past

variable (c : Client) (past : Nat) (error : Option ChannelError)

@[simp] theorem running_withPast :
    (c.withPast past error).running = c.running := rfl

@[simp] theorem quitting_withPast :
    (c.withPast past error).quitting = c.quitting := rfl

@[simp] theorem options_withPast :
    (c.withPast past error).options = c.options := rfl

@[simp] theorem estimator_withPast :
    (c.withPast past error).estimator = c.estimator := rfl

@[simp] theorem channel_withPast :
    (c.withPast past error).channel = c.channel.withError error := rfl

@[simp] theorem beginShutdown_withPast :
    (c.withPast past error).beginShutdown =
      c.beginShutdown.withPast past error := rfl

/-! ### Starting and stopping -/

theorem start_withPast (source : ClockSource) (options : Options)
    (attempt : Attempt) :
    ∃ error', (c.withPast past error).start source options attempt =
      (c.start source options attempt).withPast past error' := by
  obtain ⟨error', hconnect⟩ := c.channel.connect_withError error attempt
  rw [start_eq, start_eq, running_withPast, channel_withPast, hconnect]
  split
  · exact ⟨error, rfl⟩
  · generalize c.channel.connect attempt = change
    obtain ⟨result, channel, closed⟩ := change
    cases result with
    | error e => exact ⟨error', rfl⟩
    | ok _ => exact ⟨error', rfl⟩

theorem wakeReceiver_withPast (writes : Handle → List (Except Errno Int)) :
    ∃ error', (c.withPast past error).wakeReceiver writes =
      (c.wakeReceiver writes).map fun (c, log) =>
        (c.withPast past error', log) := by
  obtain ⟨error', hinterrupt⟩ := c.channel.interrupt_withError error writes
  refine ⟨error', ?_⟩
  rw [wakeReceiver_eq, wakeReceiver_eq, channel_withPast, hinterrupt]
  cases c.channel.interrupt writes with
  | none => rfl
  | some outcome => rfl

theorem sendRequest_withPast (clock : Readings)
    (call : Handle → Bytes → Except SocketError Unit) :
    ∃ error', (c.withPast past error).sendRequest clock call =
      (c.sendRequest clock call).withPast past error' := by
  obtain ⟨error', hsend⟩ := c.channel.send_withError error
    (call · (Packet.request (c.clock.read clock).1).serialize)
  refine ⟨error', ?_⟩
  simp only [sendRequest_eq, withPast, hsend]
  rfl

theorem takeExchange_withPast (clock : Readings) (x : Exchange) :
    (c.withPast past error).takeExchange clock x =
      (c.takeExchange clock x).withPast past error := by
  have hrecord (m : AccuracyMonitor Float) (measured : Float) :
      ({ m with generation := m.generation + past } :
        AccuracyMonitor Float).record measured =
        { m.record measured with
          generation := (m.record measured).generation + past } := by
    simp only [AccuracyMonitor.record, Nat.add_right_comm]
  rcases hingest : c.estimator.ingest x with ⟨verdict, e⟩
  rw [takeExchange, takeExchange, options_withPast, estimator_withPast, hingest]
  cases verdict with
  | rejected => rfl
  | accepted =>
    dsimp only
    split
    · rw [withPast]
      dsimp only
      rw [hrecord]
      rfl
    · rfl

theorem takeDatagram_withPast (clock : Readings) (data : Bytes) (now : Int64) :
    (c.withPast past error).takeDatagram clock data now =
      (c.takeDatagram clock data now).withPast past error := by
  rw [takeDatagram, takeDatagram]
  cases Packet.decodeReply data with
  | error what => rfl
  | ok reply => exact c.takeExchange_withPast past error clock _

theorem receiveTurn_withPast (clock : Readings)
    (polls : List (Except Errno (Nat × Nat)))
    (call : Handle → Option (Except SocketError Bytes)) :
    ∃ error', (c.withPast past error).receiveTurn clock polls call =
      ((c.receiveTurn clock polls call).1,
        (c.receiveTurn clock polls call).2.withPast past error') := by
  obtain ⟨error₁, hwait⟩ := c.channel.wait_withError error polls
  rw [receiveTurn_eq, receiveTurn_eq, channel_withPast, hwait]
  generalize c.channel.wait polls = waited
  obtain ⟨ready, channel⟩ := waited
  cases ready with
  | none => exact ⟨error₁, rfl⟩
  | some ready =>
    dsimp only
    rw [quitting_withPast]
    split
    · exact ⟨error₁, rfl⟩
    · cases ready with
      | interrupted => exact ⟨error₁, rfl⟩
      | failed e => exact ⟨error₁, rfl⟩
      | readable =>
        obtain ⟨error₂, hreceive⟩ := channel.receive_withError error₁ call
        dsimp only
        rw [hreceive]
        rcases channel.receive call with _ | ⟨e | data, channel⟩
        · exact ⟨error₁, rfl⟩
        · exact ⟨error₂, rfl⟩
        · exact ⟨error₂, congrArg (Prod.mk Turn.goesOn)
            (takeDatagram_withPast { c with channel } past error₂ _ data _)⟩

/-! ### Queries -/

theorem askAccuracy_withPast (waits forgets : Bool) :
    (c.withPast past error).askAccuracy waits forgets =
      ((c.askAccuracy waits forgets).1.withPast past,
        (c.askAccuracy waits forgets).2.withPast past error) := by
  obtain ⟨options, clock, estimator, monitor, running, quitting, channel⟩ := c
  rcases hon : options.measuresAccuracy with _ | _
  · simp [askAccuracy, withPast, hon, Query.withPast]
  · cases forgets <;> cases waits <;> cases quitting <;>
      simp [askAccuracy, withPast, hon, Query.withPast, AccuracyMonitor.clear,
        accuracy, AccuracyMonitor.count, AccuracyMonitor.summarize]

/-- A query sees whether the number of measurements has changed, whatever it
was. -/
theorem look_withPast (q : Query) :
    (q.withPast past).look (c.withPast past error) =
      (q.look c).withPast past := by
  cases q with
  | answered a => rfl
  | waiting generation =>
    have hnew : c.monitor.generation + past ≠ generation + past ↔
        c.monitor.generation ≠ generation := by omega
    simp only [Query.withPast, Query.look, withPast, hnew]
    split
    · rfl
    · split <;> rfl

theorem expire_withPast (q : Query) :
    (q.withPast past).expire (c.withPast past error) = q.expire c := by
  rw [Query.expire, look_withPast, Query.expire]
  cases q.look c <;> rfl

end Past

/-! ## What is seen of a client -/

/-- All that a client tells when it is asked; times at readings of the machine's
clock. -/
structure View where
  running : Bool
  options : Options
  localTime : Int64 → Float
  globalTime : Int64 → Float
  playbackRate : Int64 → Float → Float → Float
  offset : Float
  clockRate : Float
  medianRoundTrip : Float
  statistics : Statistics
  accuracy : Accuracy Float

/-- What a client tells. -/
def view (c : Client) : View where
  running := c.running
  options := c.options
  localTime reading := c.localTime (c.clock.timeAt reading)
  globalTime reading := c.globalTime (c.clock.timeAt reading)
  playbackRate reading := c.playbackRate (c.clock.timeAt reading)
  offset := c.offset
  clockRate := c.clockRate
  medianRoundTrip := c.medianRoundTrip
  statistics := c.statistics
  accuracy := c.accuracy

/-- What an act gives. -/
inductive Outcome where
  | started (ok : Bool) (closed : List Handle) (log : Log)
  | sent (request : Bytes) (clock : Readings) (log : Log)
  | turned (turn : Turn) (clock : Readings) (log : Log)
  | asked (answer : Option (Accuracy Float))
  | stopped (closed : List Handle) (log : Log)
  | nothing

/-- What a query was answered, if it was. -/
def Query.answer? : Query → Option (Accuracy Float)
  | answered a => some a
  | waiting _ => none

/-- What an act gives, besides the client after it. A shutdown whose wake-up
goes on gives nothing yet. -/
def outcome (c : Client) : Act → Outcome
  | .start source options attempt =>
    let change := c.start source options attempt
    .started change.ok change.closed change.log
  | .setOptions _ => .nothing
  | .request clock call =>
    if c.running then
      let sent := c.sendRequest clock call
      .sent sent.request sent.clock sent.log
    else .nothing
  | .turn clock polls received =>
    let (turn, taken) := c.takeTurn clock polls received
    .turned turn taken.clock taken.log
  | .askAccuracy waits forgets => .asked (c.askAccuracy waits forgets).1.answer?
  | .shutdown writes lastPolls =>
    if c.running then
      match c.beginShutdown.wakeReceiver fun _ => writes with
      | none => .nothing
      | some (c, woken) =>
        let change :=
          { c with
            channel :=
              lastPolls.elim c.channel (c.channel.wait · |>.2) }.endShutdown
        .stopped change.closed (woken ++ change.log)
    else .nothing

/-- The query that an act makes, if it makes one. -/
def query? (c : Client) : Act → Option Query
  | .askAccuracy waits forgets => some (c.askAccuracy waits forgets).1
  | _ => none

/-- What is seen of an act: what it gives, what the client tells after it, and
what each query so far is told if it looks now, and if its time is over. -/
structure Seen where
  outcome : Outcome
  view : View
  answers : List (Option (Accuracy Float) × Accuracy Float)

/-- What is seen of acts one after the other, where queries were made before. -/
def observe (c : Client) (queries : List Query) : List Act → List Seen
  | [] => []
  | act :: acts =>
    let after := c.step act
    let queries := queries ++ (c.query? act).toList
    ⟨c.outcome act, after.view,
      queries.map fun q => ((q.look after).answer?, q.expire after)⟩ ::
        observe after queries acts

section Past

variable (c : Client) (past : Nat) (error : Option ChannelError)

theorem answer?_withPast (q : Query) :
    (q.withPast past).answer? = q.answer? := by
  cases q <;> rfl

/-- The last wait of the receiving loop, if there is one, and what is closed
after it. -/
theorem endShutdown_withPast
    (lastPolls : Option (List (Except Errno (Nat × Nat)))) :
    ∃ error', endShutdown { c.withPast past error with
        channel := lastPolls.elim (c.withPast past error).channel
          ((c.withPast past error).channel.wait · |>.2) } =
      (endShutdown { c with
        channel := lastPolls.elim c.channel (c.channel.wait · |>.2)
          }).withPast past error' := by
  cases lastPolls with
  | none => exact ⟨error, rfl⟩
  | some polls =>
    obtain ⟨error', hwait⟩ := c.channel.wait_withError error polls
    rw [Option.elim_some, channel_withPast, hwait]
    exact ⟨error', rfl⟩

/-- An act does the same whatever the past, and gives the same. -/
theorem step_withPast (act : Act) :
    (∃ error', (c.withPast past error).step act =
      (c.step act).withPast past error') ∧
      (c.withPast past error).outcome act = c.outcome act := by
  cases act with
  | start source options attempt =>
    obtain ⟨error', hstart⟩ :=
      c.start_withPast past error source options attempt
    simp only [step, outcome, hstart]
    exact ⟨⟨error', rfl⟩, rfl⟩
  | setOptions options => exact ⟨⟨error, rfl⟩, rfl⟩
  | request clock call =>
    obtain ⟨error', hsend⟩ := c.sendRequest_withPast past error clock call
    simp only [step, outcome, hsend, running_withPast]
    split
    · exact ⟨⟨error', rfl⟩, rfl⟩
    · exact ⟨⟨error, rfl⟩, rfl⟩
  | turn clock polls received =>
    obtain ⟨error', hturn⟩ := c.receiveTurn_withPast past error clock polls
      fun _ => some (received.map (·.take receiveLimit))
    simp only [step, outcome, takeTurn, hturn]
    exact ⟨⟨error', rfl⟩, rfl⟩
  | askAccuracy waits forgets =>
    refine ⟨⟨error, ?_⟩, ?_⟩
    · rw [step, askAccuracy_withPast, step]
    · rw [outcome, askAccuracy_withPast, answer?_withPast, outcome]
  | shutdown writes lastPolls =>
    obtain ⟨error₁, hwake⟩ :=
      c.beginShutdown.wakeReceiver_withPast past error fun _ => writes
    rw [step, step, outcome, outcome, stop, stop, running_withPast,
      beginShutdown_withPast, hwake]
    split
    · rcases c.beginShutdown.wakeReceiver fun _ => writes with _ | ⟨woken, log⟩
      · exact ⟨⟨error, rfl⟩, rfl⟩
      · obtain ⟨error₂, hlast⟩ :=
          woken.endShutdown_withPast past error₁ lastPolls
        dsimp only [Option.map_some]
        rw [hlast]
        exact ⟨⟨error₂, rfl⟩, rfl⟩
    · exact ⟨⟨error, rfl⟩, rfl⟩

theorem query?_withPast (act : Act) :
    (c.withPast past error).query? act =
      (c.query? act).map (·.withPast past) := by
  cases act with
  | askAccuracy waits forgets =>
    rw [query?, askAccuracy_withPast, query?, Option.map_some]
  | _ => rfl

theorem answers_withPast (queries : List Query) :
    (queries.map (·.withPast past)).map (fun q =>
        ((q.look (c.withPast past error)).answer?,
          q.expire (c.withPast past error))) =
      queries.map fun q => ((q.look c).answer?, q.expire c) := by
  rw [List.map_map]
  apply List.map_congr_left
  intro q _
  simp only [Function.comp_apply, look_withPast, answer?_withPast,
    expire_withPast]

/-- Whatever acts are done, a client with another past is not told from the
client. -/
theorem observe_withPast (queries : List Query) (acts : List Act) :
    (c.withPast past error).observe (queries.map (·.withPast past)) acts =
      c.observe queries acts := by
  -- the queries so far remember the past as well, and an act may note another
  -- error
  induction acts generalizing c error queries with
  | nil => rfl
  | cons act acts ih =>
    obtain ⟨⟨error', hstep⟩, houtcome⟩ := c.step_withPast past error act
    have hqueries : queries.map (·.withPast past) ++
        ((c.withPast past error).query? act).toList =
          (queries ++ (c.query? act).toList).map (·.withPast past) := by
      rw [query?_withPast, List.map_append]
      cases c.query? act <;> rfl
    rw [observe, observe, hqueries, houtcome, hstep, answers_withPast, ih]
    rfl

end Past

/-! ## Starting again -/

section Restart

variable {c : Client} {source : ClockSource} {options : Options}
  {attempt : Attempt}

/-- A start that succeeds makes a new client of any, but for its past. -/
theorem start_eq_withPast (h : (c.start source options attempt).ok = true) :
    c.start source options attempt =
      (start {} source options attempt).withPast c.monitor.generation
        c.channel.lastError := by
  rcases c.start_cases source options attempt with
    ⟨hfail, _⟩ | ⟨_, hrunning, hclosed, remote, socket, pair, rfl, _⟩
  · rw [h] at hfail
    cases hfail
  · simp [start, hrunning, Channel.connect, Channel.isOpen, hclosed,
      Change.withPast, withPast, Channel.withError, AccuracyMonitor.clear,
      Estimator.setThreshold, Estimator.reset, Window.clear]

/-- From a start that succeeds on, a client is not told from a new one. -/
theorem observe_start (h : (c.start source options attempt).ok = true)
    (acts : List Act) :
    c.observe [] (.start source options attempt :: acts) =
      observe {} [] (.start source options attempt :: acts) := by
  have hstart := start_eq_withPast h
  have hlater := (start {} source options attempt).client.observe_withPast
    c.monitor.generation
    c.channel.lastError [] acts
  rw [observe, observe, step, step, outcome, outcome, hstart]
  exact congrArg (_ :: ·) hlater

end Restart

end Client

end ClockSync
