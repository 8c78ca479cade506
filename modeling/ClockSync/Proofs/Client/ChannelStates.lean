import ClockSync.Proofs.Addresses
import ClockSync.Proofs.Client.Channels

/-!
# A channel is open or closed

After any operations, whatever came of the calls in between, a channel has a
connected socket and both ends of a pair, or nothing at all (`Whole`). The
descriptors that were given out for it are accounted for in order: those that it
holds and those that it has closed are all of them, none twice (`Accounts`). So
an attempt to open it that fails has closed what it was given.

Each operation keeps this (`Whole.perform`), and so do steps one after the other
(`Whole.run`).
-/

namespace ClockSync.Client

open Net Wire

/-! ## What is open -/

namespace Site

variable {first : Host} {said : Prop} {s : Site}

/-- The channel is closed, and its host has the descriptors that it had at
first. -/
structure Closed (first : Host) (s : Site) : Prop where
  socket : s.channel.socket = none
  wakeWriter : s.channel.wakeWriter = none
  wakeReader : s.channel.wakeReader = none
  links : s.host.links = first.links
  pairs : s.host.pairs = first.pairs

/-- The descriptors of an open channel, and whom its socket is connected to. -/
structure Connection where
  socket : Handle
  peer : Option SocketAddress
  writer : Handle
  reader : Handle

/-- The channel is open: its host has the descriptors that it had at first, a
socket connected to the remote endpoint, and both ends of a pair with so many
bytes queued. -/
structure Open (first : Host) (said : Prop) (s : Site) (connection : Connection)
    (queued : Nat) : Prop where
  socket : s.channel.socket = some connection.socket
  wakeWriter : s.channel.wakeWriter = some connection.writer
  wakeReader : s.channel.wakeReader = some connection.reader
  joined : Joined said s.channel.remote connection.peer
  links : s.host.links = first.links ++ [(connection.socket, connection.peer)]
  pairs : s.host.pairs =
    first.pairs ++ [⟨connection.writer, connection.reader, queued⟩]

/-- All descriptors that were given out since the first host are held by the
channel, or were closed once. -/
structure Accounts (first : Host) (s : Site) : Prop where
  nextHandle : s.host.nextHandle =
    first.nextHandle + (s.closed ++ s.channel.handles).length
  handles : (s.closed ++ s.channel.handles).Perm
    (List.range' first.nextHandle (s.closed ++ s.channel.handles).length)

/-- The channel is open or closed, never in between, and nothing is lost. -/
structure Whole (first : Host) (said : Prop) (s : Site) : Prop where
  state : Closed first s ∨
    ∃ connection queued, Open first said s connection queued
  accounts : Accounts first s

theorem Closed.handles (h : Closed first s) : s.channel.handles = [] := by
  rw [Channel.handles, h.socket, h.wakeWriter, h.wakeReader]
  rfl

theorem Open.isOpen {connection : Connection} {queued : Nat}
    (h : Open first said s connection queued) : s.channel.isOpen = true := by
  rw [Channel.isOpen, h.socket]
  rfl

theorem Open.handles {connection : Connection} {queued : Nat}
    (h : Open first said s connection queued) :
    s.channel.handles =
      [connection.socket, connection.writer, connection.reader] := by
  rw [Channel.handles, h.socket, h.wakeWriter, h.wakeReader]
  rfl

namespace Whole

theorem closed (h : Whole first said s) (hclosed : s.channel.isOpen = false) :
    Closed first s := by
  rcases h.state with hstate | ⟨connection, queued, hopen⟩
  · exact hstate
  · rw [hopen.isOpen] at hclosed
    cases hclosed

theorem descriptors (h : Whole first said s) :
    s.host.descriptors.Perm (first.descriptors ++ s.channel.handles) := by
  rcases h.state with hclosed | ⟨connection, queued, hopen⟩
  · rw [hclosed.handles, List.append_nil, Host.descriptors, Host.descriptors,
      Host.ends, Host.ends, hclosed.links, hclosed.pairs]
  · rw [hopen.handles, Host.descriptors, Host.descriptors, Host.ends, Host.ends,
      hopen.links, hopen.pairs, List.map_append, List.flatMap_append]
    simp only [List.map_cons, List.map_nil, List.flatMap_cons, List.flatMap_nil,
      List.append_nil, List.append_assoc]
    refine List.Perm.append_left _ ?_
    exact List.perm_append_comm_assoc [connection.socket] _ _

/-- What the channel holds was given out since the first host. -/
theorem handles_bounds (h : Whole first said s) :
    ∀ handle ∈ s.channel.handles,
      first.nextHandle ≤ handle ∧ handle < s.host.nextHandle := by
  intro handle hmem
  have hrange := h.accounts.handles.mem_iff.mp (List.mem_append_right _ hmem)
  rw [List.mem_range'_1] at hrange
  rw [h.accounts.nextHandle]
  exact hrange

theorem fresh (h : Whole first said s) (hfirst : first.Fresh) :
    s.host.Fresh := by
  have hperm := h.descriptors
  have hnew := h.handles_bounds
  have hnodup : s.channel.handles.Nodup :=
    (List.nodup_append.mp
      (h.accounts.handles.nodup_iff.mpr List.nodup_range')).2.1
  constructor
  · refine hperm.nodup_iff.mpr
      (List.nodup_append.mpr ⟨hfirst.nodup, hnodup, ?_⟩)
    intro old hold new hmem heq
    exact hfirst.notMem_of_le (fun handle hheld => (hnew handle hheld).1)
      old hold (heq ▸ hmem)
  · intro handle hmem
    rcases List.mem_append.mp (hperm.mem_iff.mp hmem) with hold | hheld
    · rw [h.accounts.nextHandle]
      exact Nat.lt_of_lt_of_le (hfirst.lt handle hold) (Nat.le_add_right _ _)
    · exact (hnew handle hheld).2

/-- Neither end of the pair of the channel is an end of another pair. -/
theorem other_pairs (h : Whole first said s) (hfirst : first.Fresh)
    {connection : Connection} {queued : Nat}
    (hopen : Open first said s connection queued) :
    ∀ other ∈ first.pairs,
      other.writeEnd ≠ connection.writer ∧
      other.readEnd ≠ connection.reader := by
  intro other hother
  have hends : ∀ e ∈ [other.writeEnd, other.readEnd],
      e ∉ s.channel.handles := fun e he =>
    hfirst.notMem_of_le
      (fun handle hheld => (h.handles_bounds handle hheld).1) e
      (List.mem_append_right _ (List.mem_flatMap.mpr ⟨other, hother, he⟩))
  rw [hopen.handles] at hends
  constructor
  · rintro heq
    exact hends other.writeEnd (by simp) (by simp [heq])
  · rintro heq
    exact hends other.readEnd (by simp) (by simp [heq])

end Whole

/-! ## What a step keeps -/

theorem handles_withError (channel : Channel) (error : Option ChannelError) :
    (channel.withError error).handles = channel.handles := rfl

section Quiet

variable {later : Site}

theorem Closed.quiet (h : Closed first s) (hquiet : s.Quiet later) :
    Closed first later := by
  obtain ⟨error, hchannel⟩ := hquiet.channel
  refine ⟨?_, ?_, ?_, hquiet.traffic.links.trans h.links,
    hquiet.traffic.pairs.trans h.pairs⟩
  · rw [hchannel]
    exact h.socket
  · rw [hchannel]
    exact h.wakeWriter
  · rw [hchannel]
    exact h.wakeReader

theorem Open.quiet {connection : Connection} {queued : Nat}
    (h : Open first said s connection queued) (hquiet : s.Quiet later) :
    Open first said later connection queued := by
  obtain ⟨error, hchannel⟩ := hquiet.channel
  refine ⟨?_, ?_, ?_, ?_, hquiet.traffic.links.trans h.links,
    hquiet.traffic.pairs.trans h.pairs⟩
  · rw [hchannel]
    exact h.socket
  · rw [hchannel]
    exact h.wakeWriter
  · rw [hchannel]
    exact h.wakeReader
  · rw [hchannel]
    exact h.joined

theorem Whole.quiet (h : Whole first said s) (hquiet : s.Quiet later) :
    Whole first said later := by
  have hhandles : later.closed ++ later.channel.handles =
      s.closed ++ s.channel.handles := by
    obtain ⟨error, hchannel⟩ := hquiet.channel
    rw [hquiet.closed, hchannel, handles_withError]
  refine ⟨?_, ?_, ?_⟩
  · rcases h.state with hclosed | ⟨connection, queued, hopen⟩
    · exact Or.inl (hclosed.quiet hquiet)
    · exact Or.inr ⟨connection, queued, hopen.quiet hquiet⟩
  · rw [hhandles, hquiet.traffic.nextHandle]
    exact h.accounts.nextHandle
  · rw [hhandles]
    exact h.accounts.handles

end Quiet

/-! ### Opening -/

/-- On a closed channel, an attempt that fails is undone, and one that does not
opens it. -/
theorem connect_of_closed {channel : Channel} (h : channel.socket = none)
    (attempt : Attempt) :
    (∃ e, attempt.error? = some e ∧
      channel.connect attempt =
        ⟨.error e, channel.withError (some e), attempt.handles⟩) ∨
    ∃ remote socket pair, attempt = .complete remote socket pair ∧
      channel.connect attempt =
        ⟨.ok (), { channel with
          socket := some socket
          wakeWriter := pair.map (·.1)
          wakeReader := pair.map (·.2)
          remote }, []⟩ := by
  have hclosed : ¬ channel.isOpen = true := by
    rw [Channel.isOpen, h]
    decide
  rw [Channel.connect.eq_def, if_neg hclosed]
  cases attempt with
  | complete remote socket pair => exact Or.inr ⟨remote, socket, pair, rfl, rfl⟩
  | _ => exact Or.inl ⟨_, rfl, rfl⟩

/-- Descriptors that were given out are accounted for once the channel holds
them or they are closed. -/
theorem Accounts.extend {later : Site} {handles : List Handle}
    (h : Accounts first s)
    (hnew : handles = List.range' s.host.nextHandle handles.length)
    (hnext : later.host.nextHandle = s.host.nextHandle + handles.length)
    (hall : later.closed ++ later.channel.handles =
      (s.closed ++ s.channel.handles) ++ handles) :
    Accounts first later := by
  obtain ⟨hcount, hperm⟩ := h
  generalize s.closed ++ s.channel.handles = all at hcount hperm hall
  constructor
  · rw [hall, hnext, hcount, List.length_append, Nat.add_assoc]
  · rw [hall, List.length_append, ← List.range'_append_1, ← hcount, ← hnew]
    exact hperm.append_right handles

theorem host_closeAll (system : System) (handles : List Handle) :
    (Session.closeAll system handles).host =
      handles.foldl Host.close system.host := by
  induction handles generalizing system with
  | nil => rfl
  | cons h handles ih => exact ih (system.close h)

/-- What comes of opening a closed channel: it is closed as before and all that
was opened is closed again, or it is open. -/
theorem Whole.connect_of_closed (h : Whole first said s) (hfirst : first.Fresh)
    (hclosed : s.channel.isOpen = false) {script : Script}
    (hgenuine : script.Genuine) (hsaid : script.SaysConnected → said)
    (name : String) (port : UInt16) :
    let p := s.perform script (.connect name port)
    Whole first said p.site ∧
    ((∃ e, p.result = some (.error e) ∧
      p.site.channel = s.channel.withError (some e) ∧
      p.site.host.links = s.host.links ∧ p.site.host.pairs = s.host.pairs ∧
      p.site.closed = s.closed ++
        List.range' s.host.nextHandle (p.site.host.nextHandle -
          s.host.nextHandle)) ∨
    p.result = some (.ok .done) ∧
    p.site.channel.lastError = s.channel.lastError ∧
      p.site.closed = s.closed ∧
      ∃ connection, Open first said p.site connection 0) := by
  have hstate := h.closed hclosed
  have hopened :=
    Session.attempt_opened ⟨s.host, script⟩ hgenuine hsaid (h.fresh hfirst)
    name port
  rw [perform, if_neg (by rw [hclosed]; decide)]
  generalize Session.attempt ⟨s.host, script⟩ name port = attempted at hopened ⊢
  obtain ⟨attempt, system⟩ := attempted
  dsimp only at hopened ⊢
  have hnothing : s.closed ++ s.channel.handles = s.closed := by
    rw [hstate.handles, List.append_nil]
  rcases Site.connect_of_closed hstate.socket attempt with
    ⟨e, herror, hconnect⟩ | ⟨remote, socket, pair, rfl, hconnect⟩
  · -- all that was given out is closed again, which restores the host
    rw [hconnect]
    dsimp only
    obtain ⟨hlinks, hpairs, hnext⟩ := hopened.closed (h.fresh hfirst)
    rw [host_closeAll]
    refine ⟨⟨Or.inl ⟨hstate.socket, hstate.wakeWriter, hstate.wakeReader,
      hlinks.trans hstate.links, hpairs.trans hstate.pairs⟩,
      h.accounts.extend hopened.handles hnext ?_⟩,
      Or.inl ⟨e, rfl, rfl, hlinks, hpairs, ?_⟩⟩
    · show (s.closed ++ attempt.handles) ++ s.channel.handles = _
      rw [hstate.handles]
      simp
    · rw [hnext, Nat.add_sub_cancel_left, ← hopened.handles]
  · -- all that was given out is held by the channel
    rw [hconnect]
    obtain ⟨writer, reader, peer, rfl, hjoined, hlinks, hpairs⟩ :=
      hopened.complete remote socket pair rfl
    have hopen : Open first said
        { channel :=
            { s.channel with
              socket := some socket
              wakeWriter := some writer
              wakeReader := some reader
              remote }
          host := system.host
          closed := s.closed ++ [] } ⟨socket, peer, writer, reader⟩ 0 :=
      ⟨rfl, rfl, rfl, hjoined, by rw [hlinks, hstate.links],
        by rw [hpairs, hstate.pairs]⟩
    refine ⟨⟨Or.inr ⟨_, _, hopen⟩,
      h.accounts.extend hopened.handles hopened.nextHandle ?_⟩,
      Or.inr ⟨rfl, rfl, List.append_nil _, _, hopen⟩⟩
    rw [hnothing]
    show (s.closed ++ []) ++ [socket, writer, reader] = _
    rw [List.append_nil]
    rfl

/-! ### Waking and closing -/

/-- A wake-up is written into the pair, or ends as scripted and leaves the pair
alone. -/
theorem Open.interrupt {connection : Connection} {queued : Nat}
    (h : Open first said s connection queued)
    (hothers : ∀ other ∈ first.pairs, other.writeEnd ≠ connection.writer)
    (script : Script) :
    let p := s.perform script .interrupt
    p.site.closed = s.closed ∧ p.site.host.nextHandle = s.host.nextHandle ∧
    (p.result = some (.ok .done) ∧
      Open first said p.site connection (queued + 1) ∨
    ∃ scripted, (.wake, scripted) ∈ script ∧
      p.result = some (woken scripted.value) ∧
      Open first said p.site connection queued) := by
  obtain ⟨outcome, host, error, heq, hcases⟩ :=
    perform_interrupt_cases h.wakeWriter script
  dsimp only
  rw [heq]
  rcases hcases with ⟨scripted, hmem, rfl, rfl⟩ | ⟨rfl, rfl⟩
  · exact ⟨rfl, rfl, Or.inr ⟨scripted, hmem, rfl,
      ⟨h.socket, h.wakeWriter, h.wakeReader, h.joined, h.links, h.pairs⟩⟩⟩
  · rw [Host.wake_last h.pairs hothers]
    exact ⟨rfl, rfl, Or.inl ⟨rfl,
      ⟨h.socket, h.wakeWriter, h.wakeReader, h.joined, h.links, rfl⟩⟩⟩

/-- Once a channel is closed, its host has the descriptors that it had at
first. -/
theorem Whole.close (h : Whole first said s) (hfirst : first.Fresh)
    (script : Script) :
    Whole first said (s.perform script .close).site := by
  have hclosed : Closed first (s.perform script .close).site := by
    have hhost : (s.perform script .close).site.host =
        s.channel.handles.foldl Host.close s.host := host_closeAll _ _
    have hothers : ∀ handle ∈ first.descriptors, handle ∉ s.channel.handles :=
      hfirst.notMem_of_le fun handle hheld => (h.handles_bounds handle hheld).1
    have hrestored : (s.channel.handles.foldl Host.close s.host).links =
        first.links ∧
        (s.channel.handles.foldl Host.close s.host).pairs = first.pairs := by
      rcases h.state with hstate | ⟨connection, queued, hopen⟩
      · rw [hstate.handles]
        exact ⟨hstate.links, hstate.pairs⟩
      · refine Host.closeAll_of_append hopen.links hopen.pairs hothers ?_ ?_
        · simp [hopen.handles]
        · simp [hopen.handles]
    refine ⟨rfl, rfl, rfl, ?_, ?_⟩
    · rw [hhost]
      exact hrestored.1
    · rw [hhost]
      exact hrestored.2
  refine ⟨Or.inl hclosed, ?_⟩
  have hall : (s.perform script .close).site.closed ++
      (s.perform script .close).site.channel.handles =
        s.closed ++ s.channel.handles := by
    rw [hclosed.handles, List.append_nil]
    rfl
  constructor
  · rw [hall, ← h.accounts.nextHandle]
    show (Session.closeAll _ _).host.nextHandle = _
    rw [host_closeAll, Host.nextHandle_closeAll]
  · rw [hall]
    exact h.accounts.handles

/-! ### On a closed channel -/

theorem Closed.perform (h : Closed first s) {operation : Operation}
    {e : ChannelError} (hneeds : operation.needs = some e) (script : Script) :
    s.perform script operation = s.refusal e := by
  cases operation with
  | send payload =>
    cases hneeds
    rw [Site.perform, Channel.send, h.socket]
    rfl
  | wait =>
    cases hneeds
    have hpolls : Session.polls ⟨s.host, script⟩ s.channel =
        ([], ⟨s.host, script⟩) := by
      rw [Session.polls, h.socket]
    have hwait : s.channel.wait [] =
        (some (.failed .notOpen), s.channel.withError (some .notOpen)) := by
      rw [Channel.wait]
      split
      · next hsocket _ =>
        rw [h.socket] at hsocket
        cases hsocket
      · rfl
    rw [Site.perform, hpolls]
    dsimp only
    rw [hwait]
    rfl
  | receive before max =>
    cases hneeds
    rw [Site.perform, Channel.receive, h.socket]
    rfl
  | interrupt =>
    cases hneeds
    rw [Site.perform, Channel.interrupt, h.wakeWriter]
    rfl
  | _ => cases hneeds

/-! ### Steps -/

namespace Whole

/-- Whatever is done with a channel, it is open or closed afterwards, and
nothing is lost. -/
theorem perform (h : Whole first said s) (hfirst : first.Fresh)
    {script : Script} (hgenuine : script.Genuine)
    (hsaid : script.SaysConnected → said) (operation : Operation) :
    Whole first said (s.perform script operation).site := by
  have hfresh := h.fresh hfirst
  cases operation with
  | connect name port =>
    cases hisOpen : s.channel.isOpen with
    | true =>
      exact h.quiet (quiet_perform hfresh (fun _ _ _ => hisOpen) nofun nofun)
    | false =>
      exact (h.connect_of_closed hfirst hisOpen hgenuine hsaid name port).1
  | interrupt =>
    rcases h.state with hclosed | ⟨connection, queued, hopen⟩
    · rw [hclosed.perform rfl]
      exact h.quiet (quiet_refusal _)
    · have hothers : ∀ other ∈ first.pairs,
          other.writeEnd ≠ connection.writer :=
        fun other hother => (h.other_pairs hfirst hopen other hother).1
      obtain ⟨hsame, hnext, hcases⟩ := hopen.interrupt hothers script
      obtain ⟨queued', hlater⟩ :
          ∃ queued',
            Open first said (s.perform script .interrupt).site
              connection queued' := by
        rcases hcases with ⟨_, hlater⟩ | ⟨_, _, _, hlater⟩
        · exact ⟨_, hlater⟩
        · exact ⟨_, hlater⟩
      have hall : (s.perform script .interrupt).site.closed ++
          (s.perform script .interrupt).site.channel.handles =
            s.closed ++ s.channel.handles := by
        rw [hsame, hlater.handles, hopen.handles]
      refine ⟨Or.inr ⟨connection, queued', hlater⟩, ?_, ?_⟩
      · rw [hall, hnext]
        exact h.accounts.nextHandle
      · rw [hall]
        exact h.accounts.handles
  | close => exact h.close hfirst script
  | _ => exact h.quiet (quiet_perform hfresh nofun nofun nofun)

theorem before (h : Whole first said s) (hfirst : first.Fresh)
    (step : Operation.Step) :
    Whole first said (s.before step) :=
  h.quiet ⟨step.traffic s.host (h.fresh hfirst),
    ⟨s.channel.lastError, rfl⟩, rfl⟩

theorem act (h : Whole first said s) (hfirst : first.Fresh)
    {step : Operation.Step} (hsaid : step.script.SaysConnected → said) :
    Whole first said (s.act step).site :=
  (h.before hfirst step).perform hfirst step.genuine hsaid step.operation

theorem run (h : Whole first said s) (hfirst : first.Fresh)
    {steps : List Operation.Step}
    (hsaid : ∀ step ∈ steps, step.script.SaysConnected → said) :
    Whole first said (s.run steps) := by
  induction steps using List.reverseRecOn with
  | nil => exact h
  | append_singleton steps step ih =>
    obtain ⟨hsteps, hstep⟩ := List.forall_mem_append.mp hsaid
    rw [run_concat]
    exact (ih hsteps).act hfirst (hstep step (List.mem_singleton_self step))

/-- A new channel is closed. -/
theorem new (first : Host) (said : Prop) : Whole first said { host := first } :=
  ⟨Or.inl ⟨rfl, rfl, rfl, rfl, rfl⟩, rfl, .refl _⟩

end Whole

/-! ### Opening again -/

theorem isOk_connect {host : Host} (hup : host.loopbackUp = true) {h : Handle}
    {data : Socket} (hfind : host.find? h = some data) (port : UInt16) :
    (host.connect h ⟨.loopback, port⟩).1 = .ok () := by
  have hreaches : (host.withPort data).2.reaches .loopback = true := by
    have hsame : (host.withPort data).2.loopbackUp = host.loopbackUp := by
      rw [Host.withPort]
      split <;> rfl
    rw [Host.reaches, hsame, hup]
    decide
  rw [Host.connect, hfind]
  dsimp only
  rw [if_pos hreaches]

/-- While the loopback interface is up and no call is made to fail, a channel to
the host itself can be opened. -/
theorem attempt_loopback {host : Host} (hfresh : host.Fresh)
    (hup : host.loopbackUp = true) (port : UInt16) :
    (Session.attempt ⟨host, []⟩ "127.0.0.1" port).1.error? = none := by
  have hlookup : Name.lookup "127.0.0.1" = .ok .loopback := by decide +kernel
  obtain ⟨data, hfind, _⟩ := Host.exists_find?_of_mem_links hfresh.socket.unique
    (show (host.nextHandle, none) ∈
      host.socket.2.links by simp [Host.links_socket])
  have hconnect :=
    isOk_connect (show host.socket.2.loopbackUp = true from hup) hfind port
  have hlooked : (⟨host, []⟩ : System).lookup "127.0.0.1" =
      (.ok (some .loopback), ⟨host, []⟩) := by
    rw [System.lookup, System.call_of_no_script rfl, hlookup]
    rfl
  have hcreated : ({} : DatagramSocket).create ⟨host, []⟩ =
      (.ok (), { handle := some host.nextHandle }, ⟨host.socket.2, []⟩) := by
    rw [DatagramSocket.create, System.socket, System.call_of_no_script rfl]
    rfl
  have hconnected :
      ({ handle := some host.nextHandle } : DatagramSocket).connect
        ⟨host.socket.2, []⟩ (.ofSocketAddress ⟨.loopback, port⟩) =
      (.ok (), { handle := some host.nextHandle },
        ⟨(host.socket.2.connect host.nextHandle ⟨.loopback, port⟩).2, []⟩) := by
    rw [DatagramSocket.connect, Endpoint.toSocketAddress?_ofSocketAddress]
    dsimp only
    rw [System.connect, System.call_of_no_script rfl, hconnect]
    rfl
  rw [Session.attempt, hlooked]
  dsimp only [Name.resolve]
  rw [hcreated]
  dsimp only [Option.getD_some]
  rw [hconnected]
  dsimp only
  rw [System.pair, System.call_of_no_script rfl]
  rfl

/-- A closed channel is opened by an attempt that does not fail. -/
theorem perform_connect_of_attempt (h : s.channel.isOpen = false)
    {script : Script} {name : String} {port : UInt16}
    (hattempt : (Session.attempt ⟨s.host, script⟩ name port).1.error? = none) :
    (s.perform script (.connect name port)).result = some (.ok .done) ∧
      (s.perform script (.connect name port)).site.channel.isOpen = true := by
  have hsocket : s.channel.socket = none :=
    Option.not_isSome_iff_eq_none.mp (Bool.eq_false_iff.mp h)
  rw [Site.perform, if_neg (Bool.eq_false_iff.mp h)]
  generalize Session.attempt ⟨s.host, script⟩ name port =
    attempted at hattempt ⊢
  obtain ⟨attempt, system⟩ := attempted
  dsimp only at hattempt ⊢
  rcases connect_of_closed hsocket attempt with
    ⟨e, herror, _⟩ | ⟨_, _, _, _, hconnect⟩
  · rw [hattempt] at herror
    cases herror
  · rw [hconnect]
    exact ⟨rfl, rfl⟩

/-- A closed channel can be opened, whatever was done with it. -/
theorem Whole.connectLocally (h : Whole first said s) (hfirst : first.Fresh)
    (hclosed : s.channel.isOpen = false) (port : UInt16) :
    (s.act (.connectLocally port)).result = some (.ok .done) ∧
      (s.act (.connectLocally port)).site.channel.isOpen = true := by
  have hfresh := (h.before hfirst (.connectLocally port)).fresh hfirst
  have hact : s.act (.connectLocally port) =
      (s.before (.connectLocally port)).perform []
        (.connect "127.0.0.1" port) := by
    rw [Site.act]
    rfl
  rw [hact]
  exact perform_connect_of_attempt (s := s.before (.connectLocally port))
    hclosed
    (attempt_loopback hfresh rfl port)

/-- After any operations, a channel is open or closed as a whole, and all
descriptors that were opened for it are held by it or were closed once. What
comes of the next operation:
- one that fails leaves its error behind, and any other leaves the last error;
- opening an open channel changes nothing but that error, and an attempt to open
  a closed one that fails leaves it closed, with all descriptors closed that it
  was given;
- a closed channel can still be opened, and does nothing else;
- a shut down socket is kept, and a closed channel stays closed when it is
  closed again. -/
theorem open_or_closed (first : Host) (hfirst : first.Fresh)
    (steps : List Operation.Step) (next : Operation.Step) :
    let said := ∃ step ∈ steps ++ [next], step.script.SaysConnected
    let s := (({ host := first } : Site).run steps).before next
    let p := s.perform next.script next.operation
    Whole first said s ∧ Whole first said p.site ∧ Notes s.channel p ∧
    (∀ e, p.result = some (.error e) → p.site.channel.errorText = e.message) ∧
    (∀ name port, next.operation = .connect name port →
      (s.channel.isOpen = true → p = s.refusal .alreadyOpen) ∧
      (s.channel.isOpen = false →
        (∃ e, p.result = some (.error e) ∧
          p.site.channel = s.channel.withError (some e) ∧
          p.site.host.links = s.host.links ∧ p.site.host.pairs = s.host.pairs ∧
          p.site.closed = s.closed ++
            List.range' s.host.nextHandle (p.site.host.nextHandle -
              s.host.nextHandle)) ∨
        p.result = some (.ok .done) ∧ p.site.closed = s.closed ∧
          ∃ connection, Open first said p.site connection 0)) ∧
    (s.channel.isOpen = false →
      (∀ port, (s.act (.connectLocally port)).result = some (.ok .done) ∧
        (s.act (.connectLocally port)).site.channel.isOpen = true) ∧
      ∀ e, next.operation.needs = some e → p = s.refusal e) ∧
    (next.operation = .shutdownSocket →
      p.result = some (.ok .done) ∧ p.site.channel = s.channel) ∧
    (next.operation = .close → p.result = some (.ok .done) ∧
      p.site.channel.isOpen = false ∧
      p.site.channel.remote = s.channel.remote ∧
      ∀ script, (p.site.perform script .close).site = p.site) := by
  intro said s p
  have hsteps : ∀ step ∈ steps, step.script.SaysConnected →
      said := fun step hstep hpretended =>
    ⟨step, List.mem_append_left _ hstep, hpretended⟩
  have hnext : next.script.SaysConnected → said := fun hpretended =>
    ⟨next, List.mem_append_right _ (List.mem_singleton_self next), hpretended⟩
  have hs : Whole first said s :=
    ((Whole.new first said).run hfirst hsteps).before hfirst next
  have hnotes : Notes s.channel p := notes_perform s next.script next.operation
  refine ⟨hs, hs.perform hfirst next.genuine hnext next.operation,
    hnotes, ?_, ?_, ?_, ?_, ?_⟩
  · intro e he
    rw [Notes, he] at hnotes
    rw [Channel.errorText, hnotes]
    rfl
  · intro name port hop
    refine ⟨fun hopen => ?_, fun hclosed => ?_⟩
    · rw [show p = s.perform next.script (.connect name port) by rw [← hop]]
      exact perform_connect_of_isOpen hopen name port
    · rw [show p = s.perform next.script (.connect name port) by rw [← hop]]
      rcases (hs.connect_of_closed hfirst hclosed next.genuine
        hnext name port).2 with
        hfails | ⟨hdone, _, hsame, hopen⟩
      · exact Or.inl hfails
      · exact Or.inr ⟨hdone, hsame, hopen⟩
  · intro hclosed
    exact ⟨hs.connectLocally hfirst hclosed, fun e hneeds =>
      (hs.closed hclosed).perform hneeds next.script⟩
  · intro hop
    rw [show p = s.perform next.script .shutdownSocket by rw [← hop]]
    exact ⟨rfl, rfl⟩
  · intro hop
    rw [show p = s.perform next.script .close by rw [← hop]]
    refine ⟨rfl, rfl, rfl, fun script => ?_⟩
    show Site.mk _ _ ((s.perform next.script .close).site.closed ++ []) = _
    rw [List.append_nil]
    rfl

/-- A channel whose pair could not be opened at first, and was opened later. -/
theorem open_or_closed_after_failure :
    let host : Host := { loopbackUp := true }
    let fails : Operation.Step :=
      .alone [(.pair, .fails .tryAgain)] (by decide) (.connect "127.0.0.1" 9)
    let next : Operation.Step := .alone [] (by decide) (.connect "127.0.0.1" 10)
    let s := ({ host } : Site).run [fails, .connectLocally 9]
    host.Fresh ∧ s.channel.isOpen = true ∧ s.closed = [3] ∧
    s.host.nextHandle = 7 ∧
      Whole host (∃ step ∈ [fails, .connectLocally 9] ++ [next],
        step.script.SaysConnected) s ∧
      s.act next = s.refusal .alreadyOpen := by
  intro host fails next s
  have hfresh : host.Fresh := ⟨by decide, by decide⟩
  have hopen : s.channel.isOpen = true := by decide +kernel
  obtain ⟨hwhole, _, _, _, hconnect, _⟩ :=
    open_or_closed host hfresh [fails, .connectLocally 9] next
  exact ⟨hfresh, hopen, by decide +kernel, by decide +kernel, hwhole,
    (hconnect "127.0.0.1" 10 rfl).1 hopen⟩

end Site

end ClockSync.Client
