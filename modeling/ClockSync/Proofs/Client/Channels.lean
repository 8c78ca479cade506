import ClockSync.Client.ChannelSession
import ClockSync.Proofs.Client.LifeCycle
import ClockSync.Proofs.Client.RepeatedCalls
import ClockSync.Proofs.Client.Restarts
import ClockSync.Proofs.Descriptors

/-!
# Operations on a channel

What may be done with a channel on a host, while other sockets of the host are
used and calls may be scripted to fail (`Operation.Step`). The sessions that are
tested do nothing else with a channel (`ChannelSession.step_follows`).

An operation opens descriptors only if it is to open the channel, one stage
after the other: `Opened` says what an attempt has made of the host, also if it
got stuck at one of them, and `Held` is the stage between the socket and the
pair. All other operations but waking and closing are `Quiet`: they make
traffic, and may note an error.
-/

namespace ClockSync.Client

open Net Wire

/-! ## Opening -/

/-- The descriptors that an attempt was given, in that order. -/
def Attempt.handles : Attempt → List Handle
  | .unresolved _ => []
  | .notCreated _ => []
  | .notConnected socket _ => [socket]
  | .noPair socket _ => [socket]
  | .complete _ socket pair =>
    socket :: (pair.elim [] fun ends => [ends.1, ends.2])

/-- The peer of a socket that is connected to an endpoint; none, if that was
only said. -/
def Joined (said : Prop) (remote : Endpoint) (peer : Option SocketAddress) :
    Prop :=
  ∃ address, remote.toSocketAddress? = some address ∧
    (said ∧ peer = none ∨
      peer = some { address with ip := Host.destination address.ip })

/-- What an attempt has made of a host, where a connection may have been only
said to be made. -/
structure Opened (said : Prop) (host : Host) (attempt : Attempt)
    (later : Host) : Prop where
  nextHandle : later.nextHandle = host.nextHandle + attempt.handles.length
  handles : attempt.handles = List.range' host.nextHandle attempt.handles.length
  /-- What was opened lies behind the others. -/
  behind : ∃ links pairs, later.links = host.links ++ links ∧
    later.pairs = host.pairs ++ pairs ∧
    (∀ l ∈ links, l.1 ∈ attempt.handles) ∧
    ∀ p ∈ pairs, p.writeEnd ∈ attempt.handles
  complete : ∀ remote socket pair, attempt = .complete remote socket pair →
    ∃ writer reader peer, pair = some (writer, reader) ∧
      Joined said remote peer ∧
      later.links = host.links ++ [(socket, peer)] ∧
      later.pairs = host.pairs ++ [⟨writer, reader, 0⟩]

namespace Opened

variable {said : Prop} {host later : Host} {attempt : Attempt}

/-- An attempt that got no socket. -/
theorem of_traffic (h : host.Traffic later) (hhandles : attempt.handles = [])
    (hfails : attempt.error?.isSome) : Opened said host attempt later where
  nextHandle := by rw [h.nextHandle, hhandles]; rfl
  handles := by rw [hhandles]; rfl
  behind := ⟨[], [], by rw [h.links, List.append_nil],
    by rw [h.pairs, List.append_nil], by simp,
    by simp⟩
  complete remote socket pair heq := by
    rw [heq] at hfails
    cases hfails

/-- Once all descriptors of an attempt are closed, the host has those that it
had before. -/
theorem closed (h : Opened said host attempt later) (hfresh : host.Fresh) :
    let closed := attempt.handles.foldl Host.close later
    closed.links = host.links ∧ closed.pairs = host.pairs ∧
      closed.nextHandle = host.nextHandle + attempt.handles.length := by
  obtain ⟨links, pairs, hlinks, hpairs, hsockets, hwriters⟩ := h.behind
  have hothers : ∀ old ∈ host.descriptors, old ∉ attempt.handles := by
    refine hfresh.notMem_of_le fun new hnew => ?_
    rw [h.handles, List.mem_range'_1] at hnew
    exact hnew.1
  obtain ⟨hlinks, hpairs⟩ :=
    Host.closeAll_of_append hlinks hpairs hothers hsockets hwriters
  exact ⟨hlinks, hpairs, by rw [Host.nextHandle_closeAll, h.nextHandle]⟩

end Opened

/-- The socket of an attempt is open, and has this peer. -/
structure Held (host : Host) (peer : Option SocketAddress) (later : Host) :
    Prop where
  links : later.links = host.links ++ [(host.nextHandle, peer)]
  pairs : later.pairs = host.pairs
  nextHandle : later.nextHandle = host.nextHandle + 1

namespace Held

variable {said : Prop} {host later : Host} {peer : Option SocketAddress}

theorem socket (host : Host) : Held host none host.socket.2 :=
  ⟨Host.links_socket host, rfl, rfl⟩

theorem traffic {last : Host} (h : Held host peer later)
    (htraffic : later.Traffic last) :
    Held host peer last :=
  ⟨htraffic.links.trans h.links, htraffic.pairs.trans h.pairs,
    htraffic.nextHandle.trans h.nextHandle⟩

/-- A new socket has no peer if it cannot be connected; else it has one, if that
was not only said. -/
theorem connect (hfresh : host.Fresh) {system : System}
    (hhost : system.host = host.socket.2) {socket : DatagramSocket}
    (hhandle : socket.handle = some host.nextHandle)
    (hsaid : system.script.SaysConnected → said) (remote : Endpoint) :
    let connected := socket.connect system remote
    (∃ e, connected.1 = .error e ∧ Held host none connected.2.2.host) ∨
    connected.1 = .ok () ∧ ∃ peer, Joined said remote peer ∧
      Held host peer connected.2.2.host := by
  have hnew : Held host none system.host := hhost ▸ .socket host
  have hunique : (system.host.sockets.map (·.handle)).Nodup := by
    rw [hhost]
    exact hfresh.socket.unique
  obtain ⟨data, hfind, _⟩ := Host.exists_find?_of_mem_links hunique
    (show (host.nextHandle, none) ∈ system.host.links by simp [hnew.links])
  rcases DatagramSocket.connect_cases hhandle hunique hfind remote with
    ⟨e, hfails, htraffic⟩ |
    ⟨hok, address, haddress, ⟨hpretended, htraffic⟩ | ⟨hlinks, hpairs, hnext⟩⟩
  · exact Or.inl ⟨e, hfails, hnew.traffic htraffic⟩
  · exact Or.inr ⟨hok, none,
      ⟨address, haddress, Or.inl ⟨hsaid hpretended, rfl⟩⟩,
      hnew.traffic htraffic⟩
  · refine Or.inr ⟨hok, _, ⟨address, haddress, Or.inr rfl⟩,
      ?_, hpairs.trans hnew.pairs,
      hnext.trans hnew.nextHandle⟩
    rw [hlinks, hnew.links, hfresh.map_links_new]

/-- An attempt that got no further than to its socket. -/
theorem opened {attempt : Attempt} (h : Held host peer later)
    (hhandles : attempt.handles = [host.nextHandle])
    (hfails : attempt.error?.isSome) : Opened said host attempt later where
  nextHandle := by rw [h.nextHandle, hhandles]; rfl
  handles := by rw [hhandles]; rfl
  behind := ⟨_, [], h.links, by rw [h.pairs, List.append_nil],
    by simp [hhandles], by simp⟩
  complete remote socket pair heq := by
    rw [heq] at hfails
    cases hfails

/-- An attempt that got all it needs. -/
theorem opened_pair {remote : Endpoint} (h : Held host peer later)
    (hjoined : Joined said remote peer) :
    Opened said host
      (.complete remote host.nextHandle
        (some (later.nextHandle, later.nextHandle + 1)))
      later.pair.2 := by
  have hpairs : later.pair.2.pairs =
      host.pairs ++ [⟨later.nextHandle, later.nextHandle + 1, 0⟩] := by
    rw [← h.pairs]
    rfl
  refine ⟨?_, ?_, ⟨_, _, h.links, hpairs, by simp [Attempt.handles],
    by simp [Attempt.handles]⟩, ?_⟩
  · show later.nextHandle + 2 = _
    rw [h.nextHandle]
    rfl
  · rw [h.nextHandle]
    rfl
  · rintro _ _ _ heq
    cases heq
    exact ⟨_, _, peer, rfl, hjoined, h.links, hpairs⟩

end Held

namespace Session

/-- The descriptors of an attempt are new ones. -/
theorem attempt_opened (system : System) (hgenuine : system.script.Genuine)
    {said : Prop} (hsaid : system.script.SaysConnected → said)
    (hfresh : system.host.Fresh) (name : String) (port : UInt16) :
    Opened said system.host (attempt system name port).1
      (attempt system name port).2.host := by
  -- stage by stage: what the script may still do to the later ones is part of
  -- what it may do
  have hlookup : (system.lookup name).2.host = system.host :=
    System.host_call rfl
  have hscript₁ : (system.lookup name).2.script ⊆ system.script :=
    system.script_call _ _ _
  rw [attempt]
  generalize system.lookup name = looked at hlookup hscript₁ ⊢
  obtain ⟨answer, sys₁⟩ := looked
  dsimp only at hlookup hscript₁ ⊢
  rw [← hlookup] at hfresh ⊢
  split
  · exact .of_traffic (.refl _) rfl rfl
  · next remote _ =>
    have hcreate := DatagramSocket.create_cases (hgenuine.mono hscript₁)
    have hscript₂ :=
      List.Subset.trans (DatagramSocket.script_create {} sys₁) hscript₁
    generalize ({} : DatagramSocket).create sys₁ = created at hcreate hscript₂ ⊢
    obtain ⟨result, socket, sys₂⟩ := created
    rcases hcreate with ⟨e, rfl, hhost⟩ | ⟨rfl, hhandle, hhost⟩
    · exact .of_traffic (hhost ▸ .refl _) rfl rfl
    · dsimp only at hhandle hhost hscript₂ ⊢
      rw [hhandle, Option.getD_some]
      have hconnect := Held.connect hfresh hhost hhandle
        (fun hpretended => hsaid (hpretended.mono hscript₂)) remote
      have hscript₃ := List.Subset.trans
        (DatagramSocket.script_connect socket sys₂ remote) hscript₂
      generalize socket.connect sys₂ remote = connected at hconnect hscript₃ ⊢
      obtain ⟨result, _, sys₃⟩ := connected
      rcases hconnect with ⟨e, rfl, hheld⟩ | ⟨rfl, peer, hjoined, hheld⟩
      · exact hheld.opened rfl rfl
      · have hpair := System.pair_cases (hgenuine.mono hscript₃)
        dsimp only at hheld ⊢
        generalize sys₃.pair = paired at hpair ⊢
        obtain ⟨result, sys₄⟩ := paired
        rcases hpair with ⟨errno, rfl, hhost₄⟩ | ⟨rfl, hhost₄⟩
        · dsimp only at hhost₄ ⊢
          rw [hhost₄]
          exact hheld.opened rfl rfl
        · dsimp only at hhost₄ ⊢
          rw [hhost₄]
          exact hheld.opened_pair hjoined

end Session

/-! ## Operations -/

/-- What may be done with a channel. -/
inductive Operation where
  | connect (name : String) (port : UInt16)
  | send (payload : Bytes)
  | wait
  /-- Receives into a buffer that holds other bytes before. -/
  | receive (before : Bytes) (max : Nat)
  | shutdownSocket
  | interrupt
  | close
deriving Repr

/-- What keeps an operation from doing anything on a closed channel, if anything
does. -/
def Operation.needs : Operation → Option ChannelError
  | .send _ => some .notOpen
  | .wait => some .notOpen
  | .receive _ _ => some .notOpen
  | .interrupt => some .wakeNotOpen
  | _ => none

/-- What an operation that goes well gives. -/
inductive Reply where
  | done
  | waited (how : Wait)
  | received (data : Bytes)
deriving DecidableEq, Repr

/-- What a wait gives. -/
def Wait.result : Wait → Except ChannelError Reply
  | failed e => .error e
  | how => .ok (.waited how)

/-- A channel on a host, and the descriptors that were closed so far. -/
structure Site where
  channel : Channel := {}
  host : Host
  closed : List Handle := []

/-- The result of an operation, unless it has not returned yet, and what it
leaves. -/
structure Performed where
  result : Option (Except ChannelError Reply)
  site : Site

namespace Site

/-- What comes of an operation that does nothing but note an error. -/
def refusal (s : Site) (e : ChannelError) : Performed :=
  ⟨some (.error e), { s with channel := s.channel.withError (some e) }⟩

/-- Does something with the channel, where calls may end as scripted. An open
channel is not opened again, so that no call is made for it. -/
def perform (s : Site) (script : Script) : Operation → Performed
  | .connect name port =>
    let (attempt, system) :=
      if s.channel.isOpen then (.notCreated .notInitialized, ⟨s.host, script⟩)
      else Session.attempt ⟨s.host, script⟩ name port
    let change := s.channel.connect attempt
    { result := some (change.result.map fun _ => .done)
      site :=
        { channel := change.channel
          host := (Session.closeAll system change.closed).host
          closed := s.closed ++ change.closed } }
  | .send payload =>
    let call := fun h => Session.sendCall ⟨s.host, script⟩ h payload
    let (result, channel) := s.channel.send fun h => (call h).1
    { result := some (result.map fun _ => .done)
      site :=
        { s with
          channel
          host := s.channel.socket.elim s.host fun h => (call h).2.host } }
  | .wait =>
    let (outcomes, system) := Session.polls ⟨s.host, script⟩ s.channel
    let (waited, channel) := s.channel.wait outcomes
    { result := waited.map Wait.result,
      site := { s with channel, host := system.host } }
  | .receive before max =>
    let call := fun h => Session.receiveCall ⟨s.host, script⟩ max before h
    match s.channel.receive fun h => (call h).1 with
    | none => ⟨none, s⟩
    | some (result, channel) =>
      { result := some (result.map .received)
        site :=
          { s with
            channel
            host := s.channel.socket.elim s.host fun h => (call h).2.host } }
  | .shutdownSocket =>
    { result := some (.ok .done)
      site := { s with host := s.channel.socket.elim s.host s.host.shutdown } }
  | .interrupt =>
    let call := fun h => Session.wakeCall ⟨s.host, script⟩ h
    match s.channel.interrupt fun h => (call h).1 with
    | none => ⟨none, s⟩
    | some (result, channel) =>
      { result := some (result.map fun _ => .done)
        site :=
          { s with
            channel
            host := s.channel.wakeWriter.elim s.host fun h =>
              (call h).2.host } }
  | .close =>
    let change := s.channel.close
    { result := some (.ok .done)
      site :=
        { channel := change.channel
          host := (Session.closeAll ⟨s.host, script⟩ change.closed).host
          closed := s.closed ++ change.closed } }

end Site

/-- An operation, and what happens on the host before it: other sockets may be
used, and calls may be scripted to fail. -/
structure Operation.Step where
  environment : Host → Host
  traffic : ∀ host : Host, host.Fresh → host.Traffic (environment host)
  script : Script
  genuine : script.Genuine
  operation : Operation

namespace Operation.Step

/-- An operation while nothing else happens on the host. -/
def alone (script : Script) (genuine : script.Genuine) (operation : Operation) :
    Step where
  environment := id
  traffic host _ := .refl host
  script
  genuine
  operation

/-- Opens the channel to a port of the host itself, once its interface is up and
no call is made to fail. -/
def connectLocally (port : UInt16) : Step where
  environment host := { host with loopbackUp := true }
  traffic _ _ := ⟨rfl, rfl, rfl⟩
  script := []
  genuine := by decide
  operation := .connect "127.0.0.1" port

end Operation.Step

namespace Site

/-- The site just before the operation of a step. -/
def before (s : Site) (step : Operation.Step) : Site :=
  { s with host := step.environment s.host }

/-- What a step does. -/
def act (s : Site) (step : Operation.Step) : Performed :=
  (s.before step).perform step.script step.operation

/-- What steps one after the other leave. -/
def run (s : Site) (steps : List Operation.Step) : Site :=
  steps.foldl (fun s step => (s.act step).site) s

theorem run_concat (s : Site) (steps : List Operation.Step)
    (step : Operation.Step) :
    s.run (steps ++ [step]) = ((s.run steps).act step).site := by
  rw [run, List.foldl_append]
  rfl

end Site

/-! ## What operations leave alone -/

theorem traffic_sendCall (system : System) (hfresh : system.host.Fresh)
    (h : Handle) (payload : Bytes) :
    system.host.Traffic (Session.sendCall system h payload).2.host := by
  rw [Session.sendCall, DatagramSocket.send]
  dsimp only
  rw [DatagramSocket.settle_system]
  exact System.traffic_call _ _ (Host.traffic_send hfresh h payload)

theorem traffic_receiveCall (system : System) (hfresh : system.host.Fresh)
    (max : Nat) (before : Bytes) (h : Handle) :
    system.host.Traffic (Session.receiveCall system max before h).2.host := by
  have htraffic : system.host.Traffic (system.receive h max before).2.host :=
    System.traffic_call _ _ (Host.traffic_receive hfresh h max)
  rw [Session.receiveCall, DatagramSocket.receive]
  dsimp only
  generalize system.receive h max before = received at htraffic ⊢
  obtain ⟨result, later⟩ := received
  cases result with
  | none => exact .refl _
  | some result =>
    dsimp only
    rw [DatagramSocket.settle_system]
    exact htraffic

/-! ## What operations that open nothing do -/

/-- The descriptors of a channel. -/
def Channel.handles (channel : Channel) : List Handle :=
  [channel.socket, channel.wakeWriter, channel.wakeReader].filterMap id

namespace Site

/-- Only traffic was made, and perhaps an error noted. -/
structure Quiet (s later : Site) : Prop where
  traffic : s.host.Traffic later.host
  channel : ∃ error, later.channel = s.channel.withError error
  closed : later.closed = s.closed

theorem exists_settle_eq {α : Type} (channel : Channel)
    (result : Except ChannelError α) :
    ∃ error, (channel.settle result).2 = channel.withError error := by
  cases result with
  | ok a => exact ⟨channel.lastError, rfl⟩
  | error e => exact ⟨some e, rfl⟩

section Operations

variable {s : Site} {script : Script}

theorem quiet_refusal (e : ChannelError) : s.Quiet (s.refusal e).site :=
  ⟨.refl _, ⟨some e, rfl⟩, rfl⟩

theorem quiet_send (hfresh : s.host.Fresh) (payload : Bytes) :
    s.Quiet (s.perform script (.send payload)).site := by
  rw [perform, Channel.send]
  cases s.channel.socket with
  | none => exact ⟨.refl _, exists_settle_eq _ _, rfl⟩
  | some h =>
    exact ⟨traffic_sendCall ⟨s.host, script⟩ hfresh h payload,
      exists_settle_eq _ _, rfl⟩

theorem quiet_wait : s.Quiet (s.perform script .wait).site := by
  have hchannel :
      ∃ error, (s.channel.wait (Session.polls ⟨s.host, script⟩ s.channel).1).2 =
      s.channel.withError error := by
    rcases s.channel.wait_cases
      (Session.polls ⟨s.host, script⟩ s.channel).1 with
      ⟨e, heq⟩ | heq | heq | ⟨_, _, heq⟩
    · exact ⟨some e, by rw [heq]; rfl⟩
    all_goals exact ⟨s.channel.lastError, by rw [heq]; rfl⟩
  refine ⟨?_, hchannel, rfl⟩
  show s.host.Traffic (Session.polls ⟨s.host, script⟩ s.channel).2.host
  rw [host_polls]
  exact .refl _

theorem quiet_receive (hfresh : s.host.Fresh) (before : Bytes) (max : Nat) :
    s.Quiet (s.perform script (.receive before max)).site := by
  rw [perform, Channel.receive]
  cases s.channel.socket with
  | none => exact ⟨.refl _, exists_settle_eq _ _, rfl⟩
  | some h =>
    dsimp only
    cases (Session.receiveCall ⟨s.host, script⟩ max before h).1 with
    | none => exact ⟨.refl _, ⟨s.channel.lastError, rfl⟩, rfl⟩
    | some result =>
      exact ⟨traffic_receiveCall ⟨s.host, script⟩ hfresh max before h,
        exists_settle_eq _ _, rfl⟩

theorem quiet_shutdownSocket (hfresh : s.host.Fresh) :
    s.Quiet (s.perform script .shutdownSocket).site := by
  refine ⟨?_, ⟨s.channel.lastError, rfl⟩, rfl⟩
  rw [perform]
  cases s.channel.socket with
  | none => exact .refl _
  | some h => exact Host.traffic_shutdown hfresh h

theorem perform_connect_of_isOpen (h : s.channel.isOpen = true) (name : String)
    (port : UInt16) :
    s.perform script (.connect name port) = s.refusal .alreadyOpen := by
  rw [perform, if_pos h]
  dsimp only
  rw [Channel.connect, if_pos h]
  simp [Channel.settle, Session.closeAll, Except.map, refusal,
    Channel.withError]

/-- What is neither waking nor closing, nor opens a closed channel, is quiet. -/
theorem quiet_perform (hfresh : s.host.Fresh) {operation : Operation}
    (hconnect : ∀ name port, operation = .connect name port →
      s.channel.isOpen = true)
    (hinterrupt : operation ≠ .interrupt) (hclose : operation ≠ .close) :
    s.Quiet (s.perform script operation).site := by
  cases operation with
  | connect name port =>
    rw [perform_connect_of_isOpen (hconnect name port rfl)]
    exact quiet_refusal _
  | send payload => exact quiet_send hfresh payload
  | wait => exact quiet_wait
  | receive before max => exact quiet_receive hfresh before max
  | shutdownSocket => exact quiet_shutdownSocket hfresh
  | interrupt => exact absurd rfl hinterrupt
  | close => exact absurd rfl hclose

/-- What a wake-up gives, by what its write gave. -/
def woken : Except Errno Int → Except ChannelError Reply
  | .ok _ => .ok .done
  | .error errno =>
    if errno = .tryAgain then .ok .done else .error (.wake errno)

/-- A wake-up ends as scripted, which leaves the host alone, or by a write into
the pair. -/
theorem perform_interrupt_cases {writer : Handle}
    (hwriter : s.channel.wakeWriter = some writer) (script : Script) :
    ∃ outcome host error, s.perform script .interrupt =
        ⟨some (woken outcome),
          { s with channel := s.channel.withError error, host }⟩ ∧
      ((∃ scripted, (.wake, scripted) ∈ script ∧ outcome = scripted.value ∧
        host = s.host) ∨
        outcome = (s.host.wake writer).1 ∧ host = (s.host.wake writer).2) := by
  have hcall (outcome : Except Errno Int)
      (hends : uninterrupted? (Session.wakeCall ⟨s.host, script⟩ writer).1 =
        some outcome) :
      ∃ error, s.perform script .interrupt =
        ⟨some (woken outcome), { s with
          channel := s.channel.withError error
          host := (Session.wakeCall ⟨s.host, script⟩ writer).2.host }⟩ := by
    rw [perform, Channel.interrupt, hwriter]
    dsimp only
    rw [hends]
    cases outcome with
    | ok count => exact ⟨s.channel.lastError, rfl⟩
    | error errno =>
      by_cases hfull : errno = .tryAgain
      · refine ⟨s.channel.lastError, ?_⟩
        simp only [Option.map_some, woken, if_pos hfull]
        rfl
      · refine ⟨some (.wake errno), ?_⟩
        simp only [Option.map_some, woken, if_neg hfull]
        rfl
  rcases wakeCall_cases ⟨s.host, script⟩ writer with
    ⟨scripted, hmem, _, hends, hhost⟩ | ⟨hends, hhost⟩
  · obtain ⟨error, heq⟩ := hcall _ hends
    exact ⟨_, _, error, heq, Or.inl ⟨scripted, hmem, rfl, hhost⟩⟩
  · obtain ⟨error, heq⟩ := hcall _ hends
    exact ⟨_, _, error, heq, Or.inr ⟨rfl, hhost⟩⟩

theorem perform_receive_of_some {before : Bytes} {max : Nat}
    {result : Except ChannelError Bytes} {channel : Channel}
    (h : s.channel.receive (fun h =>
      (Session.receiveCall ⟨s.host, script⟩ max before h).1) =
        some (result, channel)) :
    s.perform script (.receive before max) =
      ⟨some (result.map .received),
        { s with
          channel
          host := s.channel.socket.elim s.host fun h =>
            (Session.receiveCall ⟨s.host, script⟩ max before h).2.host }⟩ := by
  rw [perform]
  dsimp only
  rw [h]

theorem perform_interrupt_of_some {result : Except ChannelError Unit}
    {channel : Channel}
    (h : s.channel.interrupt (fun h =>
      (Session.wakeCall ⟨s.host, script⟩ h).1) = some (result, channel)) :
    s.perform script .interrupt =
      ⟨some (result.map fun _ => .done),
        { s with
          channel
          host := s.channel.wakeWriter.elim s.host fun h =>
            (Session.wakeCall ⟨s.host, script⟩ h).2.host }⟩ := by
  rw [perform]
  dsimp only
  rw [h]

end Operations

/-- An operation that fails notes its error, and one that does not leaves the
last error as it was. -/
def Notes (channel : Channel) (p : Performed) : Prop :=
  p.site.channel.lastError = match p.result with
    | some (.error e) => some e
    | _ => channel.lastError

/-- What every operation does to the last error. -/
theorem notes_perform (s : Site) (script : Script) (operation : Operation) :
    Notes s.channel (s.perform script operation) := by
  cases operation with
  | connect name port =>
    rw [Notes, perform]
    generalize (if s.channel.isOpen = true then
      ((.notCreated .notInitialized : Attempt), (⟨s.host, script⟩ : System))
      else Session.attempt ⟨s.host, script⟩ name port) = attempted
    obtain ⟨attempt, system⟩ := attempted
    dsimp only
    rcases s.channel.connect_cases attempt with
      ⟨e, hresult, hchannel⟩ | ⟨_, remote, socket, pair, _, hresult, hchannel⟩
    · rw [hresult, hchannel]
      rfl
    · rw [hresult, hchannel]
      rfl
  | send payload =>
    rw [Notes, perform, Channel.send]
    cases s.channel.socket with
    | none => rfl
    | some h =>
      dsimp only
      cases (Session.sendCall ⟨s.host, script⟩ h payload).1 <;> rfl
  | wait =>
    rw [Notes, perform]
    rcases s.channel.wait_cases
      (Session.polls ⟨s.host, script⟩ s.channel).1 with
      ⟨e, heq⟩ | heq | heq | ⟨_, _, heq⟩
    all_goals
      dsimp only
      rw [heq]
      rfl
  | receive before max =>
    rw [Notes, perform, Channel.receive]
    cases s.channel.socket with
    | none => rfl
    | some h =>
      dsimp only
      rcases (Session.receiveCall ⟨s.host, script⟩ max before h).1 with
        _ | ⟨_ | _⟩ <;> rfl
  | shutdownSocket => rfl
  | interrupt =>
    rw [Notes, perform, Channel.interrupt]
    cases s.channel.wakeWriter with
    | none => rfl
    | some h =>
      dsimp only
      rcases uninterrupted? (Session.wakeCall ⟨s.host, script⟩ h).1 with
        _ | ⟨errno | count⟩
      · rfl
      · by_cases hfull : errno = .tryAgain
        · simp only [Option.map_some, if_pos hfull]
          rfl
        · simp only [Option.map_some, if_neg hfull]
          rfl
      · rfl
  | close => rfl

end Site

/-! ## Sessions -/

namespace ChannelSession

/-- The channel of a session on its host. -/
def site (s : ChannelSession) : Site :=
  { channel := s.channel, host := s.system.host }

/-- Operations on the channel make of the one session the other, up to what the
other side did last. -/
def Follows (s s' : ChannelSession) : Prop :=
  ∃ steps : List Operation.Step, (s.site.run steps).channel = s'.channel ∧
    (s.site.run steps).host.Traffic s'.system.host

variable {s s' : ChannelSession} {script : Script}

theorem follows_of_perform (hgenuine : script.Genuine) (operation : Operation)
    (hchannel : (s.site.perform script operation).site.channel = s'.channel)
    (hhost : (s.site.perform script operation).site.host.Traffic
      s'.system.host) :
    s.Follows s' :=
  ⟨[.alone script hgenuine operation], hchannel, hhost⟩

/-- The first of some wake-ups, and the others. -/
theorem exists_of_interrupt_succ {times : Nat} {ok : Bool}
    (h : s.interrupt (times + 1) = .ok (ok, s')) :
    ∃ result channel rest,
      s.channel.interrupt (fun h => (Session.wakeCall s.system h).1) =
        some (result, channel) ∧
      interrupt { s with
        channel
        system := s.channel.wakeWriter.elim s.system fun h =>
          (Session.wakeCall s.system h).2 }
        times = .ok (rest, s') := by
  rw [interrupt] at h
  split at h
  · cases h
  · next result channel hinterrupt =>
    obtain ⟨⟨rest, s''⟩, hrest, h⟩ := Session.exists_of_bind_eq_ok h
    cases h
    refine ⟨result, channel, rest, hinterrupt, ?_⟩
    cases hwriter : s.channel.wakeWriter <;> rwa [hwriter] at hrest

theorem interrupt_follows (times : Nat) {ok : Bool}
    (hgenuine : s.system.script.Genuine)
    (h : s.interrupt times = .ok (ok, s')) :
    ∃ steps : List Operation.Step, s.site.run steps = s'.site := by
  induction times generalizing s ok with
  | zero =>
    cases h
    exact ⟨[], rfl⟩
  | succ times ih =>
    obtain ⟨result, channel, rest, hinterrupt, hrest⟩ :=
      exists_of_interrupt_succ h
    have hscript : (s.channel.wakeWriter.elim s.system
        fun h => (Session.wakeCall s.system h).2).script ⊆ s.system.script := by
      cases s.channel.wakeWriter with
      | none => exact List.Subset.refl _
      | some writer => exact script_wakeCall _ _
    obtain ⟨steps, hsteps⟩ := ih (hgenuine.mono hscript) hrest
    refine ⟨.alone s.system.script hgenuine .interrupt :: steps, ?_⟩
    rw [← hsteps]
    show Site.run (s.site.perform s.system.script .interrupt).site steps = _
    have hperform := Site.perform_interrupt_of_some (s := s.site) hinterrupt
    rw [hperform]
    cases hwriter : s.channel.wakeWriter <;>
      simp only [site, hwriter, Option.elim]

/-- What a session does with its channel are such operations. -/
theorem step_follows (hfresh : s.system.host.Fresh) (hgenuine : script.Genuine)
    {action : Action} {result : Result}
    (h : s.step script action = .ok (result, s')) : s.Follows s' := by
  cases action with
  | connect name =>
    obtain rfl : _ = s' := congrArg Prod.snd (Except.ok.inj h)
    exact follows_of_perform hgenuine
      (.connect name (s.system.host.localPort s.peer)) rfl (.refl _)
  | send payload =>
    obtain rfl : _ = s' := congrArg Prod.snd (Except.ok.inj h)
    refine follows_of_perform hgenuine (.send payload) rfl ?_
    have hquiet : s.site.Quiet (s.site.perform script (.send payload)).site :=
      Site.quiet_send hfresh payload
    have hreceive := Host.traffic_receive (hquiet.traffic.fresh hfresh)
      s.peer Host.longestMessage
    have hhost : (s.site.perform script (.send payload)).site.host =
        s.channel.socket.elim s.system.host
          fun h =>
            (Session.sendCall ⟨s.system.host, script⟩ h payload).2.host := rfl
    rw [hhost] at hreceive ⊢
    rw [send]
    dsimp only
    generalize s.channel.socket = socket at hreceive ⊢
    cases socket <;> exact hreceive
  | peerSends payload =>
    obtain rfl : _ = s' := congrArg Prod.snd (Except.ok.inj h)
    exact ⟨[], rfl, Host.traffic_sendTo hfresh _ _ _⟩
  | wait =>
    rw [step.eq_def] at h
    dsimp only at h
    split at h
    · cases h
    · next how channel hwait =>
      cases h
      refine follows_of_perform hgenuine .wait ?_ (.refl _)
      show (s.channel.wait
        (Session.polls ⟨s.system.host, script⟩ s.channel).1).2 = channel
      rw [hwait]
  | receive before max =>
    rw [step.eq_def] at h
    dsimp only at h
    split at h
    · cases h
    · next received channel hreceive =>
      cases h
      have hperform := Site.perform_receive_of_some (s := s.site) hreceive
      refine follows_of_perform hgenuine (.receive before max)
        (by rw [hperform]) ?_
      rw [hperform]
      show Host.Traffic (s.channel.socket.elim _ _) _
      cases s.channel.socket <;> exact .refl _
  | interrupt times =>
    obtain ⟨⟨ok, s''⟩, hinterrupt, h⟩ := Session.exists_of_bind_eq_ok h
    cases h
    obtain ⟨steps, hsteps⟩ := interrupt_follows times hgenuine hinterrupt
    exact ⟨steps, congrArg Site.channel hsteps, by
      rw [show s.site.run steps = s'.site from hsteps]
      exact .refl _⟩
  | shutdownSocket =>
    obtain rfl : _ = s' := congrArg Prod.snd (Except.ok.inj h)
    refine follows_of_perform hgenuine .shutdownSocket rfl ?_
    have hhost : (s.site.perform script .shutdownSocket).site.host =
        s.channel.socket.elim s.system.host s.system.host.shutdown := rfl
    rw [hhost]
    cases s.channel.socket <;> exact .refl _
  | close =>
    obtain rfl : _ = s' := congrArg Prod.snd (Except.ok.inj h)
    exact follows_of_perform hgenuine .close rfl (.refl _)
  | look =>
    obtain rfl : _ = s' := congrArg Prod.snd (Except.ok.inj h)
    exact ⟨[], rfl, .refl _⟩

end ChannelSession

end ClockSync.Client
