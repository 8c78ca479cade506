import ClockSync.Proofs.Client.LastErrors
import ClockSync.Proofs.Client.RepeatedCalls
import ClockSync.Proofs.Client.Sessions
import ClockSync.Proofs.Phases

/-!
# The life cycle of a client

Starting, shutting down and changing options touch only what they are there for.
A start that fails notes an error of the channel and logs one line
(`start_of_not_ok`); a shutdown returns (`Session.shutdown_returns`), and
changes whether the client runs, and its channel.

A client runs from a start that succeeds to the next shutdown
(`running_run_iff`). If all shutdowns have returned, its channel is open exactly
as long (`Settled.run`).
-/

namespace ClockSync.Client

open Net Wire

/-! ## Starts -/

/-- What kept an attempt from opening a channel, if anything did. -/
def Attempt.error? : Attempt → Option ChannelError
  | .unresolved host => some (.unresolved host)
  | .notCreated e => some (.notCreated e)
  | .notConnected _ e => some (.notConnected e)
  | .noPair _ errno => some (.noPair errno)
  | .complete _ _ _ => none

section Starts

variable {c : Client} {source : ClockSource} {options : Options}
  {attempt : Attempt}

theorem start_of_running (h : c.running = true) :
    c.start source options attempt = ⟨false, c, [], []⟩ := by
  rw [start, if_pos h]

/-- A start that fails notes an error of the channel, and reports it to the sink
that it was given. -/
theorem start_of_not_ok (hrunning : c.running = false)
    (h : (c.start source options attempt).ok = false) :
    ∃ e, (c.start source options attempt).client = c.withError (some e) ∧
      (c.start source options attempt).log =
        report options.sink (.openFailed e) := by
  have hstopped : ¬ c.running = true := by simp [hrunning]
  rcases c.channel.connect_cases attempt with
    ⟨e, hresult, hchannel⟩ | ⟨_, remote, socket, pair, _, hresult, _⟩
  · refine ⟨e, ?_, ?_⟩
    · simp only [start_eq, if_neg hstopped, hresult, hchannel]
      rfl
    · simp only [start_eq, if_neg hstopped, hresult]
  · simp [start, hrunning, hresult] at h

/-- An attempt that does not open the channel makes the start fail. -/
theorem start_of_error? {e : ChannelError} (h : attempt.error? = some e) :
    (c.start source options attempt).ok = false := by
  rcases c.start_cases source options attempt with
    ⟨hfail, _⟩ | ⟨_, _, _, remote, socket, pair, rfl, _⟩
  · exact hfail
  · cases h

/-- On a closed channel, a start fails for what kept the attempt from opening
it. -/
theorem start_of_closed {e : ChannelError} (hrunning : c.running = false)
    (hclosed : c.channel.isOpen = false) (h : attempt.error? = some e) :
    (c.start source options attempt).client = c.withError (some e) ∧
      (c.start source options attempt).log =
        report options.sink (.openFailed e) := by
  cases attempt with
  | complete remote socket pair => cases h
  | _ =>
    cases h
    simp [start_eq, hrunning, Channel.connect, hclosed, Channel.settle,
      withError]

end Starts

/-! ## Shutdowns -/

/-- A wake-up whose writes come to an end returns, and touches the channel
alone. -/
theorem wakeReceiver_of_ends {writes : Handle → List (Except Errno Int)}
    (hends : ∀ h, (uninterrupted? (writes h)).isSome = true) (c : Client) :
    ∃ channel log, c.wakeReceiver writes = some ({ c with channel }, log) := by
  rw [wakeReceiver, Channel.interrupt]
  cases c.channel.wakeWriter with
  | none => exact ⟨_, _, rfl⟩
  | some h =>
    obtain ⟨outcome, houtcome⟩ := Option.isSome_iff_exists.mp (hends h)
    dsimp only
    rw [houtcome]
    exact ⟨_, _, rfl⟩

/-- A shutdown has returned if the writes of its wake-up came to an end. Other
acts always return. -/
def Act.Returns : Act → Prop
  | .shutdown writes _ => (uninterrupted? writes).isSome = true
  | _ => True

instance : DecidablePred Act.Returns := fun act =>
  match act with
  | .shutdown writes _ =>
    inferInstanceAs (Decidable ((uninterrupted? writes).isSome = true))
  | .start _ _ _ => instDecidableTrue
  | .setOptions _ => instDecidableTrue
  | .request _ _ => instDecidableTrue
  | .turn _ _ _ => instDecidableTrue
  | .askAccuracy _ _ => instDecidableTrue

/-- The channel is open as long as the client runs, and closed as a whole when
it does not. -/
structure Settled (c : Client) : Prop where
  isOpen : c.channel.isOpen = c.running
  wakeWriter : c.running = false → c.channel.wakeWriter = none
  wakeReader : c.running = false → c.channel.wakeReader = none

namespace Settled

variable {c : Client}

theorem withError (h : c.Settled) (error : Option ChannelError) :
    (c.withError error).Settled :=
  ⟨h.isOpen, h.wakeWriter, h.wakeReader⟩

theorem shutdown (h : c.Settled) {writes : List (Except Errno Int)}
    {lastPolls : Option (List (Except Errno (Nat × Nat)))}
    (hreturns : (uninterrupted? writes).isSome = true) :
    (c.step (.shutdown writes lastPolls)).Settled := by
  by_cases hrunning : c.running = true
  · -- the wake-up comes to an end, if there is anybody to wake
    obtain ⟨channel, woken, hwoken⟩ :=
      wakeReceiver_of_ends (fun _ => hreturns) c.beginShutdown
    rw [Client.step, if_pos hrunning, stop, hwoken]
    exact ⟨rfl, fun _ => rfl, fun _ => rfl⟩
  · rw [Client.step, if_neg hrunning]
    exact h

theorem step (h : c.Settled) {act : Act} (hreturns : act.Returns) :
    (c.step act).Settled := by
  cases act with
  | start source options attempt =>
    rw [Client.step]
    rcases c.start_cases source options attempt with
      ⟨_, error, heq⟩ | ⟨_, _, _, remote, socket, pair, _, heq⟩
    · rw [heq]
      exact h.withError error
    · rw [heq]
      exact ⟨rfl, Bool.noConfusion, Bool.noConfusion⟩
  | setOptions options => exact ⟨h.isOpen, h.wakeWriter, h.wakeReader⟩
  | request clock call =>
    rw [Client.step]
    split
    · obtain ⟨error, heq⟩ := c.sendRequest_client clock call
      rw [heq]
      exact ⟨h.isOpen, h.wakeWriter, h.wakeReader⟩
    · exact h
  | turn clock polls received =>
    rcases c.step_turn_cases clock polls received with
      ⟨x, _, heq⟩ | ⟨_, error, heq⟩
    · rw [heq]
      exact ⟨h.isOpen, h.wakeWriter, h.wakeReader⟩
    · rw [heq]
      exact h.withError error
  | askAccuracy waits forgets =>
    rw [Client.step, askAccuracy_client]
    split
    · exact ⟨h.isOpen, h.wakeWriter, h.wakeReader⟩
    · exact h
  | shutdown writes lastPolls => exact h.shutdown hreturns

theorem run (h : c.Settled) {acts : List Act}
    (hreturns : ∀ act ∈ acts, act.Returns) :
    (c.run acts).Settled := by
  induction acts generalizing c with
  | nil => exact h
  | cons act acts ih =>
    obtain ⟨hact, hlater⟩ := List.forall_mem_cons.mp hreturns
    exact ih (h.step hact) hlater

end Settled

/-! ## From a start to the next shutdown -/

/-- The act starts the client. -/
def Starts (c : Client) : Act → Prop
  | .start source options attempt => (c.start source options attempt).ok = true
  | _ => False

/-- A client runs after an act if that starts it, or if it ran and is not shut
down. -/
theorem running_step_iff (c : Client) (act : Act) :
    (c.step act).running = true ↔
      c.Starts act ∨ c.running = true ∧ act.isShutdown = false := by
  cases act with
  | start source options attempt =>
    rw [step, Starts]
    rcases c.start_cases source options attempt with
      ⟨hfail, error, heq⟩ | ⟨hok, _, _, remote, socket, pair, _, heq⟩
    · rw [heq, hfail]
      simp [withError, Act.isShutdown]
    · rw [heq, hok]
      simp [startedOn]
  | setOptions options => simp [step, setOptions, Starts, Act.isShutdown]
  | request clock call =>
    rw [step]
    split
    · obtain ⟨error, heq⟩ := c.sendRequest_client clock call
      rw [heq]
      simp [withError, Starts, Act.isShutdown]
    · simp [Starts, Act.isShutdown]
  | turn clock polls received =>
    simp [running_step_turn, Starts, Act.isShutdown]
  | askAccuracy waits forgets =>
    rw [step, askAccuracy_client]
    split <;> simp [Starts, Act.isShutdown]
  | shutdown writes lastPolls =>
    rcases c.step_shutdown_cases writes lastPolls with
      ⟨_, channel, heq⟩ | ⟨hstopped, heq⟩
    · rw [heq]
      simp [Starts, Act.isShutdown]
    · rw [heq]
      simp [Starts, Act.isShutdown, hstopped]

/-- A client that did not run runs if and only if the last act that started it
was not followed by a shutdown. -/
theorem running_run_iff {c : Client} (h : c.running = false) (acts : List Act) :
    (c.run acts).running = true ↔
      ∃ before act later, acts = before ++ act :: later ∧
        (c.run before).Starts act ∧
        ∀ act ∈ later, act.isShutdown = false := by
  have hstep (c : Client) (act : Act) : (c.step act).running = true ↔
      c.Starts act ∨ c.running = true ∧ ¬ act.isShutdown = true := by
    rw [running_step_iff, Bool.not_eq_true]
  have hbegun :=
    foldl_iff_begun step (·.running = true) Starts (·.isShutdown = true) hstep
    (s := c) (by simp [h]) acts
  simp only [Bool.not_eq_true] at hbegun
  exact hbegun

/-! ## Sessions -/

namespace Session

variable {s : Session}

theorem shutdown_of_not_running (h : s.client.running = false) :
    s.shutdown = .ok (s, []) := by
  rw [shutdown, if_pos (by simp [h])]

/-- A shutdown returns: its wake-up comes to an end, whatever is scripted. -/
theorem shutdown_returns (s : Session) :
    ∃ s' log, s.shutdown = .ok (s', log) := by
  have hwakes (system : System) :
      (s.client.beginShutdown.wakeReceiver fun h => (wakeCall system h).1) ≠
        none := by
    obtain ⟨channel, woken, hwoken⟩ :=
      wakeReceiver_of_ends (uninterrupted?_wakeCall system)
        s.client.beginShutdown
    rw [hwoken]
    exact Option.some_ne_none _
  rw [shutdown]
  split
  · exact ⟨_, _, rfl⟩
  · dsimp only
    split
    · next hstuck => exact absurd hstuck (hwakes _)
    · exact ⟨_, _, rfl⟩

/-- A shutdown changes of the client whether it runs, and its channel. -/
theorem shutdown_of_running (hrunning : s.client.running = true) :
    ∃ s' log channel, s.shutdown = .ok (s', log) ∧ channel.isOpen = false ∧
      s'.client = { s.client with
        running := false
        quitting := true
        channel } := by
  obtain ⟨s', log, h⟩ := s.shutdown_returns
  refine ⟨s', log, ?_⟩
  rw [h]
  rw [shutdown, if_neg (by simp [hrunning])] at h
  dsimp only at h
  split at h
  · cases h
  · next client woken hwake =>
    cases h
    obtain ⟨⟨result, channel⟩, _, heq⟩ := Option.map_eq_some_iff.mp hwake
    cases heq
    obtain ⟨lastPolls, hlast⟩ := run_of_quitting
      (s := { s with
        client := { s.client.beginShutdown with channel }
        system := _ }) rfl
    refine ⟨(lastPolls.elim channel (channel.wait · |>.2)).close.channel,
      rfl, rfl, ?_⟩
    show (Session.run _).1.client.endShutdown.client = _
    rw [hlast]
    rfl

end Session

/-- A start of a client that runs does nothing; one that fails leaves all but an
error of the channel, and logs one line to the sink that it was given. A
shutdown returns: it does nothing to a client that does not run, and of one that
runs it changes that and the channel. Other options leave all but the threshold
of the estimator. A client runs if the last act that started it was not followed
by a shutdown, and once the shutdowns have returned its channel is open just
then. -/
theorem life_cycle_frames (acts : List Act) :
    let c := ({} : Client).run acts
    (∀ source options attempt,
      (c.running = true → c.start source options attempt = ⟨false, c, [], []⟩) ∧
      (c.running = false → (c.start source options attempt).ok = false → ∃ e,
        (c.start source options attempt).client = c.withError (some e) ∧
        (c.start source options attempt).log =
          report options.sink (.openFailed e)) ∧
      ∀ e, attempt.error? = some e →
        (c.start source options attempt).ok = false) ∧
    (∀ s : Session, s.client = c →
      (c.running = false → s.shutdown = .ok (s, [])) ∧
      (c.running = true → ∃ s' log channel,
        s.shutdown = .ok (s', log) ∧ channel.isOpen = false ∧
        s'.client = { c with running := false, quitting := true, channel })) ∧
    (∀ options, c.setOptions options =
      { c with
        options
        estimator :=
          { c.estimator with
            threshold := Estimator.atLeastZero options.outlierThreshold } }) ∧
    (c.running = true ↔ ∃ before act later, acts = before ++ act :: later ∧
      (({} : Client).run before).Starts act ∧
      ∀ act ∈ later, act.isShutdown = false) ∧
    ((∀ act ∈ acts, act.Returns) →
      c.channel.isOpen = c.running ∧
      ∀ source options attempt e, c.running = false → attempt.error? = some e →
        (c.start source options attempt).client = c.withError (some e) ∧
        (c.start source options attempt).log =
          report options.sink (.openFailed e)) := by
  intro c
  refine ⟨?_, ?_, fun options => rfl, running_run_iff rfl acts, ?_⟩
  · intro source options attempt
    exact ⟨start_of_running, start_of_not_ok, fun e => start_of_error?⟩
  · rintro s hclient
    rw [← hclient]
    exact ⟨Session.shutdown_of_not_running, Session.shutdown_of_running⟩
  · intro hreturns
    have hnew : Settled {} := ⟨rfl, fun _ => rfl, fun _ => rfl⟩
    have hopen : c.channel.isOpen = c.running := (hnew.run hreturns).isOpen
    refine ⟨hopen, ?_⟩
    intro source options attempt e hrunning herror
    exact start_of_closed hrunning (hopen.trans hrunning) herror

/-- A client that was started, was given other options and was shut down: it
does not run, its channel is closed, its counters are kept, and a start that
gets no pair leaves all but the error. -/
theorem life_cycle_frames_after_shutdown :
    let options : Options := { Options.default with sink := some ⟨1⟩ }
    let acts : List Act :=
      [.start (.given 0) .default (.complete ⟨"127.0.0.1", 9⟩ 4 (some (5, 6))),
        .request { next := 7 } fun _ _ => .ok (),
        .setOptions options,
        .shutdown [.error .interrupted, .ok 1] none]
    let c := ({} : Client).run acts
    c.running = false ∧ c.channel.isOpen = false ∧ c.statistics.sent = 1 ∧
      (c.start .standard .default (.noPair 4 .interrupted)).client =
        c.withError (some (.noPair .interrupted)) := by
  intro options acts c
  have hreturns : ∀ act ∈ acts, act.Returns := by decide +kernel
  have hrunning : c.running = false := by decide +kernel
  obtain ⟨_, _, _, _, hsettled⟩ := life_cycle_frames acts
  obtain ⟨hopen, hstart⟩ := hsettled hreturns
  exact ⟨hrunning, hopen.trans hrunning, by decide +kernel,
    (hstart .standard .default (.noPair 4 .interrupted) _ hrunning rfl).1⟩

end ClockSync.Client
