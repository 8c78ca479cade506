import ClockSync.Proofs.Client.Turns

/-!
# Runs of a client

What is done to a client, and what its two loops do, are acts; `run` carries a
client through a list of them. The clock may show other readings at each act,
and every call may end in any way.

Once started, a client goes on listening until it is shut down
(`Listening.run`). Acts change its estimator by the calls of `Estimator.Call`
only, so every run of a client is a run of its estimator (`estimator_run`).
-/

namespace ClockSync.Client

open Net Wire

/-! ## Acts -/

/-- Something that is done to a client, or that a loop of it does. -/
inductive Act where
  | start (source : ClockSource) (options : Options) (attempt : Attempt)
  | setOptions (options : Options)
  /-- A turn of the sending loop. -/
  | request (clock : Readings) (call : Handle → Bytes → Except SocketError Unit)
  /-- A turn of the receiving loop, with the whole of a datagram that is
  received. -/
  | turn (clock : Readings) (polls : List (Except Errno (Nat × Nat)))
      (received : Except SocketError Bytes)
  | askAccuracy (waits forgets : Bool)
  /-- Has the loops end, and closes the channel. If the receiving loop is still
  there, it waits a last time. -/
  | shutdown (writes : List (Except Errno Int))
      (lastPolls : Option (List (Except Errno (Nat × Nat))))

/-- Whether an act shuts the client down. -/
def Act.isShutdown : Act → Bool
  | .shutdown _ _ => true
  | _ => false

/-- Shuts a client down, by what the writes of the wake-up and the polls of the
last wait gave. While the writes go on the channel stays open. -/
def stop (c : Client) (writes : List (Except Errno Int))
    (lastPolls : Option (List (Except Errno (Nat × Nat)))) : Client :=
  match c.beginShutdown.wakeReceiver fun _ => writes with
  | none => c.beginShutdown
  | some (c, _) =>
    { c with
      channel :=
        lastPolls.elim c.channel (c.channel.wait · |>.2) }.endShutdown.client

/-- What an act makes of a client. A client that does not run sends no requests
and is not shut down. -/
def step (c : Client) : Act → Client
  | .start source options attempt => (c.start source options attempt).client
  | .setOptions options => c.setOptions options
  | .request clock call =>
    if c.running then (c.sendRequest clock call).client else c
  | .turn clock polls received => (c.takeTurn clock polls received).2.client
  | .askAccuracy waits forgets => (c.askAccuracy waits forgets).2
  | .shutdown writes lastPolls =>
    if c.running then c.stop writes lastPolls else c

/-- What acts one after the other make of a client. -/
def run (c : Client) (acts : List Act) : Client := acts.foldl step c

@[simp] theorem run_nil (c : Client) : c.run [] = c := rfl

@[simp] theorem run_cons (c : Client) (act : Act) (acts : List Act) :
    c.run (act :: acts) = (c.step act).run acts := rfl

theorem run_append (c : Client) (acts later : List Act) :
    c.run (acts ++ later) = (c.run acts).run later := List.foldl_append

/-- The exchange that an act completes, if any. -/
def exchange? (c : Client) : Act → Option Exchange
  | .turn clock polls received =>
    (c.arrival? polls received).bind fun payload =>
      if CarriesReply payload then some (c.exchangeOf clock payload) else none
  | _ => none

/-! ## What an act can do -/

/-- Opening a channel fails and leaves an error behind, or all descriptors are
there. -/
theorem Channel.connect_cases (channel : Channel) (attempt : Attempt) :
    (∃ e, (channel.connect attempt).result = .error e ∧
      (channel.connect attempt).channel =
        { channel with lastError := some e }) ∨
    channel.socket = none ∧
    ∃ remote socket pair, attempt = .complete remote socket pair ∧
      (channel.connect attempt).result = .ok () ∧
      (channel.connect attempt).channel =
        { channel with
          socket := some socket
          wakeWriter := pair.map (·.1)
          wakeReader := pair.map (·.2)
          remote } := by
  rw [connect.eq_def]
  split
  · exact Or.inl ⟨_, rfl, rfl⟩
  · next hclosed =>
    have hnone : channel.socket = none :=
      Option.not_isSome_iff_eq_none.mp hclosed
    cases attempt with
    | complete remote socket pair =>
      exact Or.inr ⟨hnone, remote, socket, pair, rfl, rfl, rfl⟩
    | _ => exact Or.inl ⟨_, rfl, rfl⟩

/-- The client that a start makes of one that does not run, on the channel that
was opened. -/
def startedOn (c : Client) (source : ClockSource) (options : Options)
    (channel : Channel) : Client where
  options
  clock := source
  estimator := (c.estimator.setThreshold options.outlierThreshold).reset
  monitor := c.monitor.clear
  running := true
  quitting := false
  channel

/-- A start that fails changes nothing but the last error. One that succeeds
finds the client stopped and its channel closed. -/
theorem start_cases (c : Client) (source : ClockSource) (options : Options)
    (attempt : Attempt) :
    (c.start source options attempt).ok = false ∧
      (∃ error, (c.start source options attempt).client = c.withError error) ∨
    (c.start source options attempt).ok = true ∧
      c.running = false ∧ c.channel.socket = none ∧
      ∃ remote socket pair, attempt = .complete remote socket pair ∧
        (c.start source options attempt).client = c.startedOn source options
          { c.channel with
            socket := some socket
            wakeWriter := pair.map (·.1)
            wakeReader := pair.map (·.2)
            remote } := by
  rw [start]
  split
  · exact Or.inl ⟨rfl, c.channel.lastError, rfl⟩
  · next hrunning =>
    rcases c.channel.connect_cases attempt with
      ⟨e, hresult, hchannel⟩
        | ⟨hclosed, remote, socket, pair, hattempt, hresult, hchannel⟩
    · dsimp only
      rw [hresult, hchannel]
      exact Or.inl ⟨rfl, some e, rfl⟩
    · dsimp only
      rw [hresult, hchannel]
      exact Or.inr ⟨rfl, Bool.eq_false_iff.mpr hrunning,
        hclosed, remote, socket, pair, hattempt,
        rfl⟩

theorem start_of_ok {c : Client} {source : ClockSource} {options : Options}
    {remote : Endpoint} {socket : Handle} {pair : Option (Handle × Handle)}
    (h : (c.start source options (.complete remote socket pair)).ok = true) :
    (c.start source options (.complete remote socket pair)).client =
      c.startedOn source options
      { c.channel with
        socket := some socket
        wakeWriter := pair.map (·.1)
        wakeReader := pair.map (·.2)
        remote } := by
  rcases c.start_cases source options (.complete remote socket pair) with
    ⟨hfail, _⟩ | ⟨_, _, _, _, _, _, hattempt, hclient⟩
  · rw [h] at hfail
    cases hfail
  · cases hattempt
    exact hclient

/-- A client that listens is not started again. -/
theorem start_of_listening {c : Client} (h : c.Listening) (source : ClockSource)
    (options : Options) (attempt : Attempt) :
    (c.start source options attempt).ok = false ∧
      ∃ error, (c.start source options attempt).client = c.withError error := by
  rcases c.start_cases source options attempt with hfail | ⟨_, _, hclosed, _⟩
  · exact hfail
  · have hopen := h.socket
    rw [hclosed] at hopen
    cases hopen

/-- A request is counted, and may leave an error behind. -/
theorem sendRequest_client (c : Client) (clock : Readings)
    (call : Handle → Bytes → Except SocketError Unit) :
    ∃ error, (c.sendRequest clock call).client =
      { c.withError error with estimator := c.estimator.noteSent } := by
  have hsettle (result : Except ChannelError Unit) :
      ∃ error, (c.channel.settle result).2 =
        { c.channel with lastError := error } := by
    cases result with
    | ok _ => exact ⟨c.channel.lastError, rfl⟩
    | error e => exact ⟨some e, rfl⟩
  have hsend (call : Handle → Except SocketError Unit) :
      ∃ error, (c.channel.send call).2 =
        { c.channel with lastError := error } := by
    rw [Channel.send]
    split
    · exact hsettle _
    · exact hsettle _
  obtain ⟨error, herror⟩ :=
    hsend (call · (Packet.request (c.clock.read clock).1).serialize)
  refine ⟨error, ?_⟩
  rw [withError, ← herror]
  rfl

/-- A turn takes an exchange in, or changes nothing but the last error. -/
theorem step_turn_cases (c : Client) (clock : Readings)
    (polls : List (Except Errno (Nat × Nat)))
    (received : Except SocketError Bytes) :
    (∃ x, c.exchange? (.turn clock polls received) = some x ∧
      c.step (.turn clock polls received) =
        { c with
          estimator := (c.estimator.ingest x).2
          monitor :=
            if c.Measures x then c.monitor.record (c.measured clock x)
            else c.monitor }) ∨
    c.exchange? (.turn clock polls received) = none ∧
      ∃ error, c.step (.turn clock polls received) = c.withError error := by
  rw [step]
  cases harrival : c.arrival? polls received with
  | none =>
    exact Or.inr ⟨by rw [exchange?, harrival]; rfl,
      takeTurn_of_arrival?_none clock harrival⟩
  | some payload =>
    obtain ⟨hlisten, hready, rfl⟩ := arrival?_eq_some harrival
    by_cases hreply : CarriesReply payload
    · refine Or.inl ⟨c.exchangeOf clock payload, ?_, ?_⟩
      · rw [exchange?, harrival, Option.bind_some, if_pos hreply]
      · rw [takeTurn_of_carriesReply hlisten clock hready hreply,
          takeExchange_eq]
    · refine Or.inr ⟨?_, c.channel.lastError, ?_⟩
      · rw [exchange?, harrival, Option.bind_some, if_neg hreply]
      · rw [takeTurn_of_not_carriesReply hlisten clock hready hreply]
        rfl

/-- A turn of the receiving loop leaves a client running that runs. -/
theorem running_step_turn (c : Client) (clock : Readings)
    (polls : List (Except Errno (Nat × Nat)))
    (received : Except SocketError Bytes) :
    (c.step (.turn clock polls received)).running = c.running := by
  rcases c.step_turn_cases clock polls received with
    ⟨x, _, heq⟩ | ⟨_, error, heq⟩
  · rw [heq]
  · rw [heq]
    rfl

/-- Asking for the accuracy may forget the measurements, if the client
measures. -/
theorem askAccuracy_client (c : Client) (waits forgets : Bool) :
    (c.askAccuracy waits forgets).2 =
      if forgets = true ∧ c.options.measuresAccuracy = true then
        { c with monitor := c.monitor.clear }
      else c := by
  rw [askAccuracy]
  split
  · next hoff => rw [if_neg fun h => hoff h.2]
  · next hon =>
    simp only [and_iff_left (not_not.mp hon)]
    generalize (if forgets = true then { c with monitor := c.monitor.clear }
      else c) = kept
    split
    · split <;> rfl
    · rfl

/-- A shutdown changes whether the client runs, and its channel. -/
theorem step_shutdown_cases (c : Client) (writes : List (Except Errno Int))
    (lastPolls : Option (List (Except Errno (Nat × Nat)))) :
    c.running = true ∧
      (∃ channel, c.step (.shutdown writes lastPolls) =
        { c with running := false, quitting := true, channel }) ∨
    c.running = false ∧ c.step (.shutdown writes lastPolls) = c := by
  rw [step, stop, wakeReceiver]
  split
  · next hrunning =>
    refine Or.inl ⟨hrunning, ?_⟩
    cases c.beginShutdown.channel.interrupt fun _ => writes with
    | none => exact ⟨c.channel, rfl⟩
    | some outcome =>
      exact ⟨(lastPolls.elim outcome.2 (outcome.2.wait · |>.2)).close.channel,
        rfl⟩
  · next hrunning => exact Or.inr ⟨Bool.eq_false_iff.mpr hrunning, rfl⟩

/-! ## Listening -/

/-- A client that was started on a whole channel listens. -/
theorem listening_of_start {c : Client} {source : ClockSource}
    {options : Options} {remote : Endpoint} {socket writer reader : Handle}
    (h : (c.start source options
      (.complete remote socket (some (writer, reader)))).ok = true) :
    (c.start source options
      (.complete remote socket (some (writer, reader)))).client.Listening := by
  rw [start_of_ok h]
  exact ⟨rfl, rfl, rfl⟩

namespace Listening

variable {c : Client}

theorem withError (h : c.Listening) (error : Option ChannelError) :
    (c.withError error).Listening :=
  ⟨h.quitting, h.socket, h.wakeReader⟩

/-- Only a shutdown makes a client stop listening. -/
theorem step (h : c.Listening) {act : Act} (hact : act.isShutdown = false) :
    (c.step act).Listening := by
  cases act with
  | start source options attempt =>
    obtain ⟨_, error, heq⟩ := start_of_listening h source options attempt
    rw [Client.step, heq]
    exact h.withError error
  | setOptions options => exact ⟨h.quitting, h.socket, h.wakeReader⟩
  | request clock call =>
    obtain ⟨error, heq⟩ := c.sendRequest_client clock call
    rw [Client.step]
    split
    · rw [heq]
      exact ⟨h.quitting, h.socket, h.wakeReader⟩
    · exact h
  | turn clock polls received =>
    rcases c.step_turn_cases clock polls received with
      ⟨x, _, heq⟩ | ⟨_, error, heq⟩
    · rw [heq]
      exact ⟨h.quitting, h.socket, h.wakeReader⟩
    · rw [heq]
      exact h.withError error
  | askAccuracy waits forgets =>
    rw [Client.step, askAccuracy_client]
    split
    · exact ⟨h.quitting, h.socket, h.wakeReader⟩
    · exact h
  | shutdown writes lastPolls => cases hact

theorem run (h : c.Listening) {acts : List Act}
    (hacts : ∀ act ∈ acts, act.isShutdown = false) :
    (c.run acts).Listening := by
  induction acts generalizing c with
  | nil => exact h
  | cons act acts ih =>
    obtain ⟨hact, hlater⟩ := List.forall_mem_cons.mp hacts
    exact ih (h.step hact) hlater

end Listening

/-! ## The estimator of a client -/

/-- The calls that an act makes on the estimator. -/
def calls (c : Client) : Act → List Estimator.Call
  | .start source options attempt =>
    if (c.start source options attempt).ok then
      [.setThreshold options.outlierThreshold, .reset]
    else []
  | .setOptions options => [.setThreshold options.outlierThreshold]
  | .request _ _ => if c.running then [.noteSent] else []
  | .turn clock polls received =>
    (c.exchange? (.turn clock polls received)).toList.map .ingest
  | .askAccuracy _ _ => []
  | .shutdown _ _ => []

/-- The calls that the acts of a run make on the estimator, oldest first. -/
def allCalls (c : Client) : List Act → List Estimator.Call
  | [] => []
  | act :: acts => c.calls act ++ allCalls (c.step act) acts

theorem estimator_step (c : Client) (act : Act) :
    (c.step act).estimator = c.estimator.run (c.calls act) := by
  cases act with
  | start source options attempt =>
    rw [step, calls]
    rcases c.start_cases source options attempt with
      ⟨hfail, error, heq⟩ | ⟨hok, _, _, _, _, _, _, heq⟩
    · rw [heq, hfail]
      rfl
    · rw [heq, hok]
      rfl
  | setOptions options => rfl
  | request clock call =>
    obtain ⟨error, heq⟩ := c.sendRequest_client clock call
    rw [step, calls]
    split
    · rw [heq]
      rfl
    · rfl
  | turn clock polls received =>
    rw [calls]
    rcases c.step_turn_cases clock polls received with
      ⟨x, hx, heq⟩ | ⟨hnone, error, heq⟩
    · rw [hx, heq]
      rfl
    · rw [hnone, heq]
      rfl
  | askAccuracy waits forgets =>
    rw [step, askAccuracy_client]
    split <;> rfl
  | shutdown writes lastPolls =>
    rcases c.step_shutdown_cases writes lastPolls with
      ⟨_, channel, heq⟩ | ⟨_, heq⟩
    · rw [heq]
      rfl
    · rw [heq]
      rfl

/-- A run of a client is a run of its estimator. -/
theorem estimator_run (c : Client) (acts : List Act) :
    (c.run acts).estimator = c.estimator.run (c.allCalls acts) := by
  induction acts generalizing c with
  | nil => rfl
  | cons act acts ih =>
    rw [run_cons, ih, estimator_step, allCalls, Estimator.run_append]

end ClockSync.Client
