import ClockSync.Client.Session
import ClockSync.Proofs.Client.Runs
import ClockSync.Proofs.Scripts

/-!
# Sessions are runs

A session makes system calls on a host, and after each step its receiving loop
runs until it waits. All of this is a run of acts for the client
(`Session.step_reaches`), so what is shown of runs holds of the client of every
session. The script of a session may have the calls end in any way, except that
a receive may not claim to have received more than it was asked for.
-/

namespace ClockSync.Client

open Net Wire

namespace Session

/-! ## Calls of a session -/

variable (system : System)

theorem script_polls (channel : Channel) :
    (polls system channel).2.script ⊆ system.script := by
  rw [polls]
  split
  · exact System.script_repeated (fun sys => sys.script_call _ _ _) _ _
  · exact List.Subset.refl _

theorem script_sendCall (h : Handle) (payload : Bytes) :
    (sendCall system h payload).2.script ⊆ system.script := by
  rw [sendCall]
  exact DatagramSocket.script_send _ system payload

theorem script_closeAll (handles : List Handle) :
    (closeAll system handles).script = system.script := by
  induction handles generalizing system with
  | nil => rfl
  | cons h handles ih => exact ih (system.close h)

theorem script_attempt (name : String) (port : UInt16) :
    (attempt system name port).2.script ⊆ system.script := by
  have hlookup : (system.lookup name).2.script ⊆ system.script :=
    system.script_call _ _ _
  rw [attempt]
  generalize system.lookup name = looked at hlookup ⊢
  obtain ⟨answer, afterLookup⟩ := looked
  dsimp only
  split
  · exact hlookup
  · next remote _ =>
    have hcreate := DatagramSocket.script_create {} afterLookup
    generalize ({} : DatagramSocket).create afterLookup = created at hcreate ⊢
    obtain ⟨result, socket, afterCreate⟩ := created
    have hcreated := List.Subset.trans hcreate hlookup
    cases result with
    | error e => exact hcreated
    | ok _ =>
      have hconnect := DatagramSocket.script_connect socket afterCreate remote
      dsimp only
      generalize socket.connect afterCreate remote = connected at hconnect ⊢
      obtain ⟨result, _, afterConnect⟩ := connected
      have hconnected := List.Subset.trans hconnect hcreated
      cases result with
      | error e => exact hconnected
      | ok _ =>
        have hpair : afterConnect.pair.2.script ⊆ afterConnect.script :=
          afterConnect.script_call _ _ _
        dsimp only
        generalize afterConnect.pair = paired at hpair ⊢
        obtain ⟨result, afterPair⟩ := paired
        cases result with
        | error errno => exact List.Subset.trans hpair hconnected
        | ok ends => exact List.Subset.trans hpair hconnected

/-- A receive uses up outcomes of the script, and what it gives is cut to its
limit. -/
theorem receiveCall_cases {system : System}
    (hhonest : system.script.Honest receiveLimit) (before : Bytes)
    (h : Handle) :
    (receiveCall system receiveLimit before h).2.script ⊆ system.script ∧
      ((receiveCall system receiveLimit before h).1 = none ∨
        ∃ received : Except SocketError Bytes,
          (receiveCall system receiveLimit before h).1 =
            some (received.map (·.take receiveLimit))) := by
  have hscript : (system.receive h receiveLimit before).2.script ⊆
      system.script :=
    system.script_call _ _ _
  have hlength {d : Datagram}
      (hd : (system.receive h receiveLimit before).1 = some (.ok d)) :
      d.payload.length ≤ receiveLimit := System.length_le_of_receive hhonest hd
  rw [receiveCall, DatagramSocket.receive]
  dsimp only
  generalize system.receive h receiveLimit before =
    received at hscript hlength ⊢
  obtain ⟨result, later⟩ := received
  rcases result with _ | ⟨errno | d⟩
  · exact ⟨List.Subset.refl _, Or.inl rfl⟩
  · exact ⟨hscript, Or.inr ⟨.error (.receive errno), rfl⟩⟩
  · refine ⟨hscript, Or.inr ⟨.ok d.payload, ?_⟩⟩
    have hshort : d.payload.take receiveLimit = d.payload :=
      List.take_of_length_le (hlength rfl)
    show some (Except.ok d.payload) =
      some (Except.ok (d.payload.take receiveLimit))
    rw [hshort]

end Session

/-! ## What a client comes to -/

/-- Some acts make the one client of the other. -/
def Reaches (c c' : Client) : Prop := ∃ acts, c.run acts = c'

namespace Reaches

variable {c c' c'' : Client}

theorem refl (c : Client) : Reaches c c := ⟨[], rfl⟩

theorem act (c : Client) (act : Act) : Reaches c (c.step act) := ⟨[act], rfl⟩

theorem trans (h : Reaches c c') (h' : Reaches c' c'') : Reaches c c'' := by
  obtain ⟨acts, rfl⟩ := h
  obtain ⟨later, rfl⟩ := h'
  exact ⟨acts ++ later, run_append c acts later⟩

end Reaches

namespace Session

/-! ## The receiving loop -/

/-- The client goes on by acts that do not stop it, and the script is used
up. -/
structure Continues (s s' : Session) : Prop where
  client : Reaches s.client s'.client
  running : s'.client.running = s.client.running
  script : s'.system.script ⊆ s.system.script

theorem Continues.refl (s : Session) : s.Continues s :=
  ⟨.refl s.client, rfl, List.Subset.refl _⟩

theorem Continues.trans {s s' s'' : Session} (h : s.Continues s')
    (h' : s'.Continues s'') :
    s.Continues s'' :=
  ⟨h.client.trans h'.client, h'.running.trans h.running,
    List.Subset.trans h'.script h.script⟩

/-- A turn of a session is a turn of its client, unless it blocks and changes
nothing. -/
theorem turn_client {s : Session}
    (hhonest : s.system.script.Honest receiveLimit) :
    s.turn.2.1.client = s.client ∨
      ∃ polls received, s.turn.2.1.client =
        s.client.step (.turn s.clock polls received) := by
  have hlater := hhonest.mono (script_polls s.system s.client.channel)
  show (s.client.receiveTurn s.clock (polls s.system s.client.channel).1
    fun h =>
      (receiveCall (polls s.system s.client.channel).2 receiveLimit
        s.buffer h).1).2.client = _ ∨
    ∃ polls' received,
      (s.client.receiveTurn s.clock (polls s.system s.client.channel).1 fun h =>
      (receiveCall (polls s.system s.client.channel).2 receiveLimit
        s.buffer h).1).2.client = _
  generalize (polls s.system s.client.channel).2 = system at hlater ⊢
  generalize (polls s.system s.client.channel).1 = outcomes
  by_cases hready : (s.client.channel.wait outcomes).1 = some .readable
  · obtain ⟨hopen, hwait⟩ := Channel.wait_of_readable hready
    obtain ⟨socket, hsocket⟩ := Option.isSome_iff_exists.mp hopen
    rcases (receiveCall_cases hlater s.buffer socket).2 with
      hnone | ⟨received, hsome⟩
    · refine Or.inl ?_
      rw [receiveTurn, hwait]
      dsimp only
      split
      · rfl
      · rw [Channel.receive, hsocket]
        dsimp only
        rw [hnone]
        rfl
    · refine Or.inr ⟨outcomes, received, ?_⟩
      rw [Client.step, takeTurn]
      refine congrArg (·.2.client)
        (receiveTurn_congr (fun _ h hsame => ?_) s.clock)
      rw [hsocket] at hsame
      cases hsame
      exact hsome
  · refine Or.inr ⟨outcomes, .error .notInitialized, ?_⟩
    rw [Client.step, takeTurn]
    exact congrArg (·.2.client)
      (receiveTurn_congr (fun h => absurd h hready) s.clock)

theorem script_turn {s : Session}
    (hhonest : s.system.script.Honest receiveLimit) :
    s.turn.2.1.system.script ⊆ s.system.script := by
  have hpolls := script_polls s.system s.client.channel
  have hlater := hhonest.mono hpolls
  rw [turn]
  dsimp only
  cases s.client.channel.socket with
  | none => exact hpolls
  | some h =>
    dsimp only
    split
    · split
      · exact List.Subset.trans (receiveCall_cases hlater s.buffer h).1 hpolls
      · exact hpolls
    · exact hpolls

theorem turn_continues {s : Session}
    (hhonest : s.system.script.Honest receiveLimit) :
    s.Continues s.turn.2.1 := by
  have hscript := script_turn hhonest
  rcases turn_client hhonest with hsame | ⟨polls, received, hstep⟩
  · exact ⟨by rw [hsame]; exact .refl _, by rw [hsame], hscript⟩
  · exact ⟨by rw [hstep]; exact .act _ _,
      by rw [hstep, running_step_turn], hscript⟩

theorem settle_continues (fuel : Nat) {s : Session}
    (hhonest : s.system.script.Honest receiveLimit) :
    s.Continues (settle fuel s).1 := by
  induction fuel generalizing s with
  | zero => exact .refl s
  | succ fuel ih =>
    rw [settle]
    split
    · exact .refl s
    · have hturn := turn_continues hhonest
      have hrest := ih (hhonest.mono hturn.script)
      generalize s.turn = turned at hturn hrest ⊢
      obtain ⟨turn, s', log⟩ := turned
      cases turn with
      | goesOn => exact hturn.trans hrest
      | _ => exact hturn

theorem run_continues {s : Session}
    (hhonest : s.system.script.Honest receiveLimit) :
    s.Continues s.run.1 := settle_continues _ hhonest

/-! ## Requests -/

theorem arrived_continues (s : Session) : s.Continues s.arrived.2 := by
  rw [arrived]
  split
  · exact .refl s
  · exact ⟨.refl s.client, rfl, List.Subset.refl _⟩

/-- A request that a client sends is an act if the client runs. -/
theorem request_reaches {c : Client} (hrunning : c.running = true)
    (clock : Readings) (call : Handle → Bytes → Except SocketError Unit) :
    Reaches c (c.sendRequest clock call).client ∧
      (c.sendRequest clock call).client.running = c.running := by
  constructor
  · refine ⟨[.request clock call], ?_⟩
    rw [run_cons, Client.step, if_pos hrunning]
    rfl
  · obtain ⟨error, heq⟩ := c.sendRequest_client clock call
    rw [heq]
    rfl

theorem setOptions_reaches (c : Client) (p : Prop) [Decidable p]
    (options : Options) :
    Reaches c (if p then c.setOptions options else c) ∧
      (if p then c.setOptions options else c).running = c.running := by
  split
  · exact ⟨.act _ (.setOptions options), rfl⟩
  · exact ⟨.refl _, rfl⟩

theorem sendRequests_continues (count : Nat) {s : Session}
    (hrunning : s.client.running = true)
    (hhonest : s.system.script.Honest receiveLimit) :
    s.Continues (sendRequests count s).2.1 := by
  induction count generalizing s with
  | zero => exact .refl s
  | succ count ih =>
    rw [sendRequests]
    dsimp only
    obtain ⟨hoptions, hkeeps⟩ := setOptions_reaches s.client (count = 1)
      (s.client.options.set (.interval 3600000))
    generalize (if count = 1 then
      s.client.setOptions (s.client.options.set (.interval 3600000))
        else s.client) = client
      at hoptions hkeeps ⊢
    obtain ⟨hrequest, hsent⟩ := request_reaches (hkeeps.trans hrunning) s.clock
      fun h request => (sendCall s.system h request).1
    generalize (client.sendRequest s.clock fun h request =>
      (sendCall s.system h request).1) = sent
      at hrequest hsent ⊢
    have hrest : ∀ system : System, system.script ⊆ s.system.script →
        s.Continues (sendRequests count
          { s with
            client := sent.client
            clock := sent.clock
            system }.arrived.2.run.1).2.1 := by
      intro system hscript
      have hfirst : s.Continues { s with
          client := sent.client
          clock := sent.clock
          system } :=
        ⟨hoptions.trans hrequest, hsent.trans hkeeps, hscript⟩
      have harrived := hfirst.trans (arrived_continues _)
      have hrun := harrived.trans (run_continues (hhonest.mono harrived.script))
      exact hrun.trans (ih (hrun.running.trans hrunning)
        (hhonest.mono hrun.script))
    refine hrest _ ?_
    split
    · exact script_sendCall _ _ _
    · exact List.Subset.refl _

/-! ## Starting and stopping -/

variable {s s' : Session} {log : Log}

theorem startAt_reaches (hhonest : s.system.script.Honest receiveLimit)
    (clock : ClockSource) (options : Options) (host : String) (port : UInt16)
    (requests : Nat) :
    Reaches s.client
      (s.startAt clock options host port requests).2.1.client := by
  have hscript := script_attempt s.system host port
  rw [startAt]
  split
  · exact .refl _
  · dsimp only
    generalize attempt s.system host port = attempted at hscript ⊢
    obtain ⟨attempt, system⟩ := attempted
    have hstart :
        Reaches s.client (s.client.start clock options attempt).client :=
      .act _ (.start clock options attempt)
    dsimp only
    split
    · next hok =>
      have hrunning : (s.client.start clock options attempt).client.running =
          true := by
        rcases s.client.start_cases clock options attempt with
          ⟨hfail, _⟩ | ⟨_, _, _, _, _, _, _, heq⟩
        · rw [hok] at hfail
          cases hfail
        · rw [heq]
          rfl
      have hopened : (closeAll system
          (s.client.start clock options attempt).closed).script.Honest
            receiveLimit := by
        rw [script_closeAll]
        exact hhonest.mono hscript
      exact hstart.trans (sendRequests_continues (max 1 requests)
        (s := { s with
          client := (s.client.start clock options attempt).client
          system :=
            closeAll system (s.client.start clock options attempt).closed
          looping := true
          buffer := [] }) hrunning hopened).client
    · exact hstart

theorem start_reaches (hhonest : s.system.script.Honest receiveLimit)
    (clock : ClockSource) (options : Options) (host : String) (requests : Nat)
    (peerClosed : Bool) :
    Reaches s.client
      (s.start clock options host requests peerClosed).2.1.client := by
  rw [start]
  cases peerClosed with
  | false => exact startAt_reaches hhonest clock options host _ requests
  | true =>
    exact startAt_reaches (s := s.unusedPort.2) hhonest
      clock options host _ requests

/-- A client that is to end waits a last time, if its receiving loop is still
there. -/
theorem run_of_quitting (h : s.client.quitting = true) :
    ∃ lastPolls : Option (List (Except Errno (Nat × Nat))), s.run.1.client =
      { s.client with
        channel :=
          lastPolls.elim s.client.channel (s.client.channel.wait · |>.2) } := by
  rw [run, turns, settle]
  split
  · exact ⟨none, rfl⟩
  · refine ⟨some (polls s.system s.client.channel).1, ?_⟩
    have hturn : s.turn.1 ≠ .goesOn ∧ s.turn.2.1.client =
        { s.client with
          channel :=
            (s.client.channel.wait (polls s.system s.client.channel).1).2 } :=
      receiveTurn_of_quitting h _ _ _
    generalize s.turn = turned at hturn ⊢
    obtain ⟨turn, s', log⟩ := turned
    cases turn with
    | goesOn => exact absurd rfl hturn.1
    | _ => exact hturn.2

/-- Only the descriptor of the channel is written to. -/
theorem exists_wakeReceiver_eq (c : Client)
    (writes : Handle → List (Except Errno Int)) :
    ∃ given, c.wakeReceiver writes = c.wakeReceiver fun _ => given := by
  cases hwriter : c.channel.wakeWriter with
  | none =>
    refine ⟨[], ?_⟩
    rw [wakeReceiver, wakeReceiver, Channel.interrupt, Channel.interrupt,
      hwriter]
  | some h =>
    refine ⟨writes h, ?_⟩
    rw [wakeReceiver, wakeReceiver, Channel.interrupt, Channel.interrupt,
      hwriter]

theorem wakeReceiver_quitting {c c' : Client}
    {writes : Handle → List (Except Errno Int)}
    (h : c.wakeReceiver writes = some (c', log)) :
    c'.quitting = c.quitting := by
  obtain ⟨⟨result, channel⟩, _, heq⟩ := Option.map_eq_some_iff.mp h
  cases heq
  rfl

theorem shutdown_reaches (h : s.shutdown = .ok (s', log)) :
    Reaches s.client s'.client := by
  rw [shutdown] at h
  split at h
  · cases h
    exact .refl _
  · next hrunning =>
    dsimp only at h
    split at h
    · cases h
    · next client woken hwake =>
      cases h
      obtain ⟨writes, hwrites⟩ :=
        exists_wakeReceiver_eq s.client.beginShutdown _
      have hquitting : client.quitting = true := wakeReceiver_quitting hwake
      obtain ⟨lastPolls, hlast⟩ :=
        run_of_quitting (s := { s with client, system := _ }) hquitting
      refine ⟨[.shutdown writes lastPolls], ?_⟩
      rw [run_cons, Client.step, if_pos (not_not.mp hrunning), stop, ← hwrites,
        hwake]
      show _ = (Session.run _).1.client.endShutdown.client
      rw [hlast]
      rfl

/-! ## Steps of a session -/

theorem disturb_reaches {what : Disturbance}
    (hhonest : s.system.script.Honest receiveLimit)
    (h : s.disturb what = .ok (s', log)) : Reaches s.client s'.client := by
  cases what with
  | shutdown => exact shutdown_reaches h
  | datagram payload =>
    rw [disturb] at h
    split at h
    · cases h
    · dsimp only at h
      split at h
      · cases h
      · next host _ =>
        obtain rfl : _ = s' := congrArg Prod.fst (Except.ok.inj h)
        exact (run_continues (s := { s with system.host := host })
          hhonest).client

theorem exists_of_bind_eq_ok {ε α β : Type} {x : Except ε α}
    {f : α → Except ε β} {b : β} (h : (x >>= f) = .ok b) :
    ∃ a, x = .ok a ∧ f a = .ok b := by
  cases x with
  | error e => cases h
  | ok a => exact ⟨a, rfl, h⟩

theorem disturbAll_reaches {q q' : Query}
    {during : List (List Int64 × Script × Disturbance)}
    (hhonest : ∀ item ∈ during, item.2.1.Honest receiveLimit)
    (h : disturbAll q s during = .ok (q', s', log)) :
    Reaches s.client s'.client := by
  induction during generalizing q s log with
  | nil =>
    cases h
    exact .refl _
  | cons item during ih =>
    obtain ⟨readings, script, what⟩ := item
    obtain ⟨hfirst, hlater⟩ := List.forall_mem_cons.mp hhonest
    rw [disturbAll] at h
    obtain ⟨⟨disturbed, log₁⟩, hdisturb, h⟩ := exists_of_bind_eq_ok h
    obtain ⟨⟨q₂, after, log₂⟩, hrest, h⟩ := exists_of_bind_eq_ok h
    have hreaches : Reaches s.client disturbed.client :=
      disturb_reaches (s := s.prepare readings script) hfirst hdisturb
    cases h
    exact hreaches.trans (ih hlater hrest)

/-- No receive is scripted to give more than it was asked for, at any time of
the step. -/
def Step.Honest (what : Step) : Prop :=
  what.script.Honest receiveLimit ∧
    match what.action with
    | .await _ _ during => ∀ item ∈ during, item.2.1.Honest receiveLimit
    | _ => True

/-- What a step of a session does to its client is a run of acts. -/
theorem step_reaches {what : Step} {result : Result} (hhonest : what.Honest)
    (h : s.step what = .ok (result, s', log)) : Reaches s.client s'.client := by
  obtain ⟨readings, script, action⟩ := what
  obtain ⟨hscript, hduring⟩ := hhonest
  cases action with
  | start clock settings host requests peerClosed =>
    obtain rfl : _ = s' := congrArg (·.2.1) (Except.ok.inj h)
    exact start_reaches (s := s.prepare readings script) hscript _ _ _ _ _
  | disturb what =>
    obtain ⟨⟨disturbed, log₁⟩, hdisturb, h⟩ := exists_of_bind_eq_ok h
    cases h
    exact disturb_reaches (s := s.prepare readings script) hscript hdisturb
  | fault =>
    rw [step] at h
    dsimp only at h
    split at h
    · cases h
    · obtain rfl : _ = s' := congrArg (·.2.1) (Except.ok.inj h)
      exact (run_continues (s := s.prepare readings script) hscript).client
  | read start position =>
    obtain rfl : _ = s' := congrArg (·.2.1) (Except.ok.inj h)
    exact .refl _
  | accuracy waits forgets timeout =>
    obtain ⟨answer, _, h⟩ := exists_of_bind_eq_ok h
    obtain rfl : _ = s' := congrArg (·.2.1) (Except.ok.inj h)
    exact .act _ (.askAccuracy waits forgets)
  | await forgets timeout during =>
    obtain ⟨⟨q, after, log₁⟩, hduring', h⟩ := exists_of_bind_eq_ok h
    obtain ⟨answer, _, h⟩ := exists_of_bind_eq_ok h
    cases h
    have hasked : Reaches s.client (s.client.askAccuracy true forgets).2 :=
      .act _ (.askAccuracy true forgets)
    exact hasked.trans (disturbAll_reaches hduring hduring')
  | setOptions fresh settings =>
    obtain rfl : _ = s' := congrArg (·.2.1) (Except.ok.inj h)
    exact .act _ (.setOptions _)

/-- The session after steps, if it comes through all of them. -/
def after (s : Session) : List Step → Except Stuck Session
  | [] => .ok s
  | what :: steps => do
    let (_, s, _) ← s.step what
    after s steps

theorem after_reaches {steps : List Step}
    (hhonest : ∀ what ∈ steps, what.Honest) (h : s.after steps = .ok s') :
    Reaches s.client s'.client := by
  induction steps generalizing s with
  | nil =>
    cases h
    exact .refl _
  | cons what steps ih =>
    obtain ⟨hwhat, hlater⟩ := List.forall_mem_cons.mp hhonest
    obtain ⟨⟨result, next, log⟩, hstep, h⟩ := exists_of_bind_eq_ok h
    exact (step_reaches hwhat hstep).trans (ih hlater h)

/-- The client of any session is one that a run of acts makes of a new
client. -/
theorem exists_run_of_after {host : Host} {steps : List Step}
    (hhonest : ∀ what ∈ steps, what.Honest)
    (h : (new host).after steps = .ok s) :
    ∃ acts, ({} : Client).run acts = s.client := after_reaches hhonest h

end Session

end ClockSync.Client
