import ClockSync.Proofs.Client.Runs

/-!
# Which error a log line words

Where a call of its channel fails, a client logs the last error of the channel.
Each call that fails notes its own error there (`Channel.lastError_of_send` and
its like), so it is the error of that call which is logged: each operation of a
client has an equation that says so (`sendRequest_eq` and its like).
-/

namespace ClockSync.Client

open Net Wire

/-! ## What a failed call notes -/

namespace Channel

variable {c c' : Channel} {e : ChannelError}

theorem lastError_of_settle {α : Type} {result : Except ChannelError α}
    (h : c.settle result = (.error e, c')) : c'.lastError = some e := by
  cases result with
  | ok a => cases h
  | error noted =>
    cases h
    rfl

theorem lastError_of_connect {attempt : Attempt}
    (h : (c.connect attempt).result = .error e) :
    (c.connect attempt).channel.lastError = some e := by
  rcases c.connect_cases attempt with
    ⟨noted, hresult, hchannel⟩ | ⟨_, _, _, _, _, hresult, _⟩
  · rw [hresult] at h
    cases h
    rw [hchannel]
  · rw [hresult] at h
    cases h

theorem lastError_of_send {call : Handle → Except SocketError Unit}
    (h : c.send call = (.error e, c')) : c'.lastError = some e := by
  rw [send] at h
  split at h
  · exact lastError_of_settle h
  · exact lastError_of_settle h

theorem lastError_of_receive {α : Type}
    {call : Handle → Option (Except SocketError α)}
    (h : c.receive call = some (.error e, c')) : c'.lastError = some e := by
  rw [receive] at h
  split at h
  · exact lastError_of_settle (Option.some.inj h)
  · obtain ⟨_, _, hsettle⟩ := Option.map_eq_some_iff.mp h
    exact lastError_of_settle hsettle

theorem lastError_of_wait {polls : List (Except Errno (Nat × Nat))}
    (h : c.wait polls = (some (.failed e), c')) : c'.lastError = some e := by
  rcases c.wait_cases polls with ⟨noted, heq⟩ | heq | heq | ⟨_, _, heq⟩ <;>
    rw [heq] at h <;> cases h
  rfl

theorem lastError_of_interrupt {writes : Handle → List (Except Errno Int)}
    (h : c.interrupt writes = some (.error e, c')) : c'.lastError = some e := by
  rw [interrupt] at h
  split at h
  · exact lastError_of_settle (Option.some.inj h)
  · obtain ⟨outcome, _, hsettle⟩ := Option.map_eq_some_iff.mp h
    cases outcome with
    | error errno => exact lastError_of_settle hsettle
    | ok count => exact lastError_of_settle hsettle

end Channel

/-! ## What is logged of it -/

theorem reportLastError_of_some {channel : Channel} {e : ChannelError}
    (h : channel.lastError = some e) (sink : Option LogSink)
    (event : ChannelError → Event) :
    reportLastError sink channel event = report sink (event e) := by
  rw [reportLastError, h]

section Logged

variable (c : Client)

/-- A start that fails reports what kept the channel from being opened. -/
theorem start_eq (clock : ClockSource) (options : Options) (attempt : Attempt) :
    c.start clock options attempt =
      if c.running then ⟨false, c, [], []⟩
      else
        let change := c.channel.connect attempt
        let c := { c with channel := change.channel }
        match change.result with
        | .error e =>
          ⟨false, c, change.closed, report options.sink (.openFailed e)⟩
        | .ok () =>
          ⟨true,
            { c with
              clock
              options
              estimator :=
                (c.estimator.setThreshold options.outlierThreshold).reset
              monitor := c.monitor.clear
              running := true
              quitting := false },
            change.closed,
            report options.sink (.started change.channel.remote options)⟩ := by
  rw [start]
  split
  · rfl
  · dsimp only
    cases hresult : (c.channel.connect attempt).result with
    | ok _ => rfl
    | error e =>
      dsimp only
      rw [reportLastError_of_some (Channel.lastError_of_connect hresult)]

/-- A wake-up that fails is logged with its error. -/
theorem wakeReceiver_eq (writes : Handle → List (Except Errno Int)) :
    c.wakeReceiver writes =
      (c.channel.interrupt writes).map fun (result, channel) =>
        let c := { c with channel }
        (c, match result with
          | .ok () => []
          | .error e => c.log (.wakeFailed e)) := by
  rw [wakeReceiver]
  rcases hinterrupt : c.channel.interrupt writes with _ | ⟨_ | e, channel⟩
  · rfl
  · dsimp only [Option.map_some]
    rw [logLastError,
      reportLastError_of_some (Channel.lastError_of_interrupt hinterrupt)]
    rfl
  · rfl

/-- A request that cannot be sent is logged with its error. -/
theorem sendRequest_eq (clock : Readings)
    (call : Handle → Bytes → Except SocketError Unit) :
    c.sendRequest clock call =
      let c := { c with estimator := c.estimator.noteSent }
      let (now, clock) := c.clock.read clock
      let request := (Packet.request now).serialize
      let (result, channel) := c.channel.send (call · request)
      let c := { c with channel }
      ⟨request, c, clock,
        match result with
        | .ok () => []
        | .error e => if c.quitting then [] else c.log (.sendFailed e)⟩ := by
  rw [sendRequest]
  dsimp only
  generalize hsend : c.channel.send _ = sent
  obtain ⟨_ | e, channel⟩ := sent
  · dsimp only
    rw [logLastError,
      reportLastError_of_some (Channel.lastError_of_send hsend)]
    rfl
  · rfl

/-- A wait or a receive that fails is logged with its error. -/
theorem receiveTurn_eq (clock : Readings)
    (polls : List (Except Errno (Nat × Nat)))
    (call : Handle → Option (Except SocketError Bytes)) :
    c.receiveTurn clock polls call =
      let (waited, channel) := c.channel.wait polls
      let c := { c with channel }
      match waited with
      | none => (.blocked, ⟨c, clock, []⟩)
      | some ready =>
        let (now, clock) := c.clock.read clock
        if c.quitting then (.ended, ⟨c, clock, []⟩)
        else match ready with
          | .interrupted => (.ended, ⟨c, clock, []⟩)
          | .failed e => (.goesOn, ⟨c, clock, c.log (.waitFailed e)⟩)
          | .readable =>
            match c.channel.receive call with
            | none => (.blocked, ⟨c, clock, []⟩)
            | some (result, channel) =>
              let c := { c with channel }
              match result with
              | .error e => (.goesOn, ⟨c, clock, c.log (.receiveFailed e)⟩)
              | .ok data => (.goesOn, c.takeDatagram clock data now) := by
  rw [receiveTurn]
  rcases hwait : c.channel.wait polls with ⟨_ | ready, channel⟩
  · rfl
  · dsimp only
    split
    · rfl
    · cases ready with
      | interrupted => rfl
      | failed e =>
        dsimp only
        rw [logLastError,
          reportLastError_of_some (Channel.lastError_of_wait hwait)]
        rfl
      | readable =>
        dsimp only
        rcases hreceive : channel.receive call with
          _ | ⟨e | data, received⟩
        · rfl
        · dsimp only
          rw [logLastError,
            reportLastError_of_some (Channel.lastError_of_receive hreceive)]
          rfl
        · rfl

end Logged

end ClockSync.Client
