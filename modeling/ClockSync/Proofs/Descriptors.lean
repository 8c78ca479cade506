import ClockSync.Proofs.Hosts
import ClockSync.Proofs.Scripts

/-!
# The descriptors of a host

Traffic on a host changes what its sockets hold, but neither which descriptors
are open nor whom the sockets are connected to (`Host.Traffic`). Descriptors are
given out in ascending order, and none twice. So those opened last lie behind
the others, and once they are closed the others are what is left
(`Host.closeAll_of_append`).
-/

namespace ClockSync.Net

namespace Host

/-! ## Open descriptors -/

/-- The open sockets, and whom each is connected to. -/
def links (host : Host) : List (Handle × Option SocketAddress) :=
  host.sockets.map fun s => (s.handle, s.peer)

/-- The ends of the pairs. -/
def ends (host : Host) : List Handle :=
  host.pairs.flatMap fun p => [p.writeEnd, p.readEnd]

/-- All open descriptors. -/
def descriptors (host : Host) : List Handle := host.links.map (·.1) ++ host.ends

/-- No descriptor is there twice, and the next one is another than all of
them. -/
structure Fresh (host : Host) : Prop where
  nodup : host.descriptors.Nodup
  lt : ∀ h ∈ host.descriptors, h < host.nextHandle

/-- Only what the sockets hold has changed. -/
structure Traffic (host later : Host) : Prop where
  links : later.links = host.links
  pairs : later.pairs = host.pairs
  nextHandle : later.nextHandle = host.nextHandle

namespace Traffic

variable {host later last : Host}

theorem refl (host : Host) : Traffic host host := ⟨rfl, rfl, rfl⟩

theorem trans (h : Traffic host later) (h' : Traffic later last) :
    Traffic host last :=
  ⟨h'.links.trans h.links, h'.pairs.trans h.pairs,
    h'.nextHandle.trans h.nextHandle⟩

theorem descriptors (h : Traffic host later) :
    later.descriptors = host.descriptors := by
  rw [Host.descriptors, Host.descriptors, ends, ends, h.links, h.pairs]

theorem fresh (h : Traffic host later) (hfresh : host.Fresh) : later.Fresh := by
  constructor
  · rw [h.descriptors]
    exact hfresh.nodup
  · rw [h.descriptors, h.nextHandle]
    exact hfresh.lt

end Traffic

section Sockets

variable {host : Host} {s s' : Socket} {h : Handle}

theorem handles_eq (host : Host) :
    host.links.map (·.1) = host.sockets.map (·.handle) := by
  rw [links, List.map_map]
  rfl

theorem Fresh.unique (hfresh : host.Fresh) :
    (host.sockets.map (·.handle)).Nodup := by
  rw [← handles_eq]
  exact (List.nodup_append.mp hfresh.nodup).1

/-- A socket that is open is the one with its descriptor. -/
theorem find?_of_mem (hunique : (host.sockets.map (·.handle)).Nodup)
    (hmem : s ∈ host.sockets) :
    host.find? s.handle = some s := by
  obtain ⟨found, hfound⟩ : ∃ found, host.find? s.handle = some found := by
    refine Option.isSome_iff_exists.mp (List.find?_isSome.mpr ⟨s, hmem, ?_⟩)
    simp
  rw [hfound,
    List.inj_on_of_nodup_map hunique (List.mem_of_find?_eq_some hfound) hmem
    (handle_of_find? hfound)]

/-- Whom a socket is connected to. -/
theorem exists_find?_of_mem_links
    (hunique : (host.sockets.map (·.handle)).Nodup)
    {peer : Option SocketAddress} (hmem : (h, peer) ∈ host.links) :
    ∃ data, host.find? h = some data ∧ data.peer = peer := by
  obtain ⟨data, hdata, heq⟩ := List.mem_map.mp hmem
  cases heq
  exact ⟨data, find?_of_mem hunique hdata, rfl⟩

/-! ## Traffic -/

/-- To put a socket back that is connected as before is traffic. -/
theorem traffic_put (hunique : (host.sockets.map (·.handle)).Nodup)
    (hfind : host.find? h = some s) (hhandle : s'.handle = s.handle)
    (hpeer : s'.peer = s.peer) :
    Traffic host (host.put s') := by
  refine ⟨?_, rfl, rfl⟩
  rw [links, put, List.map_map]
  refine List.map_congr_left fun old hold => ?_
  rw [Function.comp_apply]
  split
  · next hsame =>
    have heq : old = s :=
      List.inj_on_of_nodup_map hunique hold (List.mem_of_find?_eq_some hfind)
      (hsame.trans hhandle)
    rw [heq, hhandle, hpeer]
  · rfl

/-- A socket that gets a port is found again with it. -/
theorem withPort_cases (hunique : (host.sockets.map (·.handle)).Nodup)
    (hfind : host.find? h = some s) :
    Traffic host (host.withPort s).2 ∧
    (host.withPort s).2.find? h = some (host.withPort s).1 := by
  have hhandle := handle_of_find? hfind
  rw [withPort]
  split
  · exact ⟨.refl host, hfind⟩
  · have hput : Traffic host (host.put { s with port := some host.nextPort }) :=
      traffic_put hunique hfind rfl rfl
    exact ⟨⟨hput.links, hput.pairs, hput.nextHandle⟩,
      find?_put_self hfind hhandle⟩

theorem traffic_deliver (hunique : (host.sockets.map (·.handle)).Nodup)
    (hfind : host.find? h = some s) (target : SocketAddress)
    (payload : List UInt8) :
    Traffic host (host.deliver s target payload) := by
  simp only [deliver]
  split
  · next receiver hreceiver =>
    have hfound := find?_of_mem hunique (List.mem_of_find?_eq_some hreceiver)
    exact traffic_put hunique hfound rfl rfl
  · split
    · exact traffic_put hunique hfind rfl rfl
    · exact .refl host

theorem traffic_transmit (hunique : (host.sockets.map (·.handle)).Nodup)
    (hfind : host.find? h = some s) (target : SocketAddress)
    (payload : List UInt8) :
    Traffic host (host.transmit s target payload).2 := by
  rw [transmit]
  split
  · exact .refl host
  · split
    · exact traffic_put hunique hfind rfl rfl
    · split
      · exact .refl host
      · exact traffic_deliver hunique hfind target payload

end Sockets

section Calls

variable {host : Host}

theorem Traffic.unique {later : Host} (h : Traffic host later)
    (hunique : (host.sockets.map (·.handle)).Nodup) :
    (later.sockets.map (·.handle)).Nodup := by
  rwa [← handles_eq, h.links, handles_eq]

theorem traffic_send (hfresh : host.Fresh) (h : Handle) (payload : List UInt8) :
    Traffic host (host.send h payload).2 := by
  rw [send]
  split
  · exact .refl host
  · next s hfind =>
    obtain ⟨hport, hfound⟩ := withPort_cases hfresh.unique hfind
    generalize host.withPort s = ported at hport hfound ⊢
    obtain ⟨s, later⟩ := ported
    dsimp only
    split
    · exact hport
    · split
      · exact hport
      · exact hport.trans
          (traffic_transmit (hport.unique hfresh.unique) hfound _ payload)

theorem traffic_sendTo (hfresh : host.Fresh) (h : Handle)
    (target : SocketAddress) (payload : List UInt8) :
    Traffic host (host.sendTo h target payload).2 := by
  rw [sendTo]
  split
  · exact .refl host
  · next s hfind =>
    obtain ⟨hport, hfound⟩ := withPort_cases hfresh.unique hfind
    generalize host.withPort s = ported at hport hfound ⊢
    obtain ⟨s, later⟩ := ported
    dsimp only
    split
    · exact hport
    · split
      · exact hport
      · split
        · exact hport.trans
            (traffic_transmit (hport.unique hfresh.unique) hfound _ payload)
        · exact hport

theorem traffic_receive (hfresh : host.Fresh) (h : Handle) (max : Nat) :
    Traffic host (host.receive h max).2 := by
  rw [receive]
  split
  · exact .refl host
  · next s hfind =>
    split
    · exact traffic_put hfresh.unique hfind rfl rfl
    · exact traffic_put hfresh.unique hfind rfl rfl
    · exact .refl host

theorem traffic_shutdown (hfresh : host.Fresh) (h : Handle) :
    Traffic host (host.shutdown h) := by
  rw [shutdown]
  split
  · exact .refl host
  · next s hfind => exact traffic_put hfresh.unique hfind rfl rfl

end Calls

/-! ## Opening and closing -/

section Opening

variable {host : Host}

theorem links_put (host : Host) (s : Socket) :
    (host.put s).links =
      host.links.map fun l =>
        if l.1 = s.handle then (s.handle, s.peer) else l := by
  rw [links, put, links, List.map_map, List.map_map]
  refine List.map_congr_left fun old _ => ?_
  rw [Function.comp_apply, Function.comp_apply]
  split <;> rfl

/-- A connection that cannot be made is traffic, and one that is made changes
whom the socket is connected to. -/
theorem connect_cases {h : Handle} {s : Socket}
    (hunique : (host.sockets.map (·.handle)).Nodup)
    (hfind : host.find? h = some s) (target : SocketAddress) :
    (∃ errno, (host.connect h target).1 = .error errno ∧
      Traffic host (host.connect h target).2) ∨
    (host.connect h target).1 = .ok () ∧
      (host.connect h target).2.links = host.links.map (fun l =>
        if l.1 = h then (h, some { target with ip := destination target.ip })
        else l) ∧
      (host.connect h target).2.pairs = host.pairs ∧
      (host.connect h target).2.nextHandle = host.nextHandle := by
  obtain ⟨hport, hfound⟩ := withPort_cases hunique hfind
  rw [connect, hfind]
  dsimp only
  generalize host.withPort s = ported at hport hfound ⊢
  obtain ⟨s, later⟩ := ported
  have hhandle := handle_of_find? hfound
  dsimp only at hhandle ⊢
  split
  · refine Or.inr ⟨rfl, ?_, hport.pairs, hport.nextHandle⟩
    rw [links_put, hport.links]
    dsimp only
    rw [hhandle]
  · exact Or.inl ⟨_, rfl, hport⟩

theorem links_socket (host : Host) :
    host.socket.2.links = host.links ++ [(host.nextHandle, none)] := by
  rw [links, socket, List.map_append]
  rfl

theorem Fresh.socket (hfresh : host.Fresh) : host.socket.2.Fresh := by
  have hperm :
      host.socket.2.descriptors.Perm (host.nextHandle :: host.descriptors) := by
    rw [descriptors, links_socket, List.map_append, List.append_assoc]
    exact List.perm_middle
  constructor
  · refine hperm.nodup_iff.mpr
      (List.nodup_cons.mpr ⟨fun hmem => ?_, hfresh.nodup⟩)
    exact Nat.lt_irrefl _ (hfresh.lt _ hmem)
  · intro h hh
    show h < host.nextHandle + 1
    rcases List.mem_cons.mp (hperm.mem_iff.mp hh) with rfl | hold
    · exact Nat.lt_succ_self _
    · exact Nat.lt_succ_of_lt (hfresh.lt h hold)

/-- Descriptors that are given out are none of those that are open. -/
theorem Fresh.notMem_of_le (hfresh : host.Fresh) {hs : List Handle}
    (hle : ∀ h ∈ hs, host.nextHandle ≤ h) : ∀ h ∈ host.descriptors, h ∉ hs :=
  fun h hold hnew =>
    Nat.lt_irrefl h (Nat.lt_of_lt_of_le (hfresh.lt h hold) (hle h hnew))

/-- No other socket has the descriptor of a new one. -/
theorem Fresh.map_links_new (hfresh : host.Fresh)
    (peer peer' : Option SocketAddress) :
    (host.links ++ [(host.nextHandle, peer)]).map
        (fun l =>
          if l.1 = host.nextHandle then (host.nextHandle, peer') else l) =
      host.links ++ [(host.nextHandle, peer')] := by
  have hothers : host.links.map
      (fun l => if l.1 = host.nextHandle then (host.nextHandle, peer') else l) =
        host.links := by
    rw [List.map_congr_left (g := id), List.map_id]
    intro l hl
    have hlt := hfresh.lt l.1 (List.mem_append_left _ (List.mem_map_of_mem hl))
    exact if_neg (Nat.ne_of_lt hlt)
  rw [List.map_append, hothers]
  simp

theorem links_close (host : Host) (h : Handle) :
    (host.close h).links = host.links.filter (·.1 != h) := by
  rw [links, close, links, List.filter_map]
  rfl

/-- Closing lets go of just the sockets with these descriptors. -/
theorem links_closeAll (host : Host) (hs : List Handle) :
    (hs.foldl close host).links = host.links.filter (·.1 ∉ hs) := by
  induction hs generalizing host with
  | nil => simp
  | cons h hs ih =>
    rw [List.foldl_cons, ih, links_close, List.filter_filter]
    refine List.filter_congr fun l _ => Bool.eq_iff_iff.mpr ?_
    simp only [List.mem_cons, not_or, Bool.and_eq_true, decide_eq_true_eq,
      bne_iff_ne]
    exact And.comm

/-- Closing lets go of just the pairs with one of these descriptors. -/
theorem pairs_closeAll (host : Host) (hs : List Handle) :
    (hs.foldl close host).pairs =
      host.pairs.filter fun p => p.writeEnd ∉ hs ∧ p.readEnd ∉ hs := by
  induction hs generalizing host with
  | nil => simp
  | cons h hs ih =>
    rw [List.foldl_cons, ih, close, List.filter_filter]
    refine List.filter_congr fun p _ => Bool.eq_iff_iff.mpr ?_
    simp only [List.mem_cons, not_or, Bool.and_eq_true, decide_eq_true_eq,
      bne_iff_ne]
    exact ⟨fun ⟨⟨hw, hr⟩, hw', hr'⟩ => ⟨⟨hw', hw⟩, hr', hr⟩,
      fun ⟨⟨hw', hw⟩, hr', hr⟩ => ⟨⟨hw, hr⟩, hw', hr'⟩⟩

theorem nextHandle_closeAll (host : Host) (hs : List Handle) :
    (hs.foldl close host).nextHandle = host.nextHandle := by
  induction hs generalizing host with
  | nil => rfl
  | cons h hs ih =>
    rw [List.foldl_cons, ih]
    rfl

/-- Once what was opened after the others is closed, the others are left. -/
theorem closeAll_of_append {first : Host}
    {links : List (Handle × Option SocketAddress)} {pairs : List WakePair}
    {hs : List Handle} (hlinks : host.links = first.links ++ links)
    (hpairs : host.pairs = first.pairs ++ pairs)
    (hothers : ∀ h ∈ first.descriptors, h ∉ hs)
    (hsockets : ∀ l ∈ links, l.1 ∈ hs)
    (hwriters : ∀ p ∈ pairs, p.writeEnd ∈ hs) :
    (hs.foldl close host).links = first.links ∧
    (hs.foldl close host).pairs = first.pairs := by
  constructor
  · have hkept : first.links.filter (·.1 ∉ hs) = first.links :=
      List.filter_eq_self.mpr fun l hl => decide_eq_true
        (hothers l.1 (List.mem_append_left _ (List.mem_map_of_mem hl)))
    have hgone : links.filter (·.1 ∉ hs) = [] :=
      List.filter_eq_nil_iff.mpr fun l hl => by simpa using hsockets l hl
    rw [links_closeAll, hlinks, List.filter_append, hkept, hgone,
      List.append_nil]
  · have hkept : first.pairs.filter
        (fun p => p.writeEnd ∉ hs ∧ p.readEnd ∉ hs) = first.pairs := by
      refine List.filter_eq_self.mpr fun p hp => decide_eq_true ?_
      have hends : ∀ h ∈ [p.writeEnd, p.readEnd],
          h ∈ first.descriptors := fun h hh =>
        List.mem_append_right _ (List.mem_flatMap.mpr ⟨p, hp, hh⟩)
      exact ⟨hothers _ (hends _ (by simp)), hothers _ (hends _ (by simp))⟩
    have hgone :
        pairs.filter (fun p => p.writeEnd ∉ hs ∧ p.readEnd ∉ hs) = [] :=
      List.filter_eq_nil_iff.mpr fun p hp => by simp [hwriters p hp]
    rw [pairs_closeAll, hpairs, List.filter_append, hkept, hgone,
      List.append_nil]

end Opening

/-! ## The last pair -/

section LastPair

variable {host : Host} {others : List WakePair} {p : WakePair}

/-- A write into the last pair queues a byte there. -/
theorem wake_last (hpairs : host.pairs = others ++ [p])
    (hothers : ∀ other ∈ others, other.writeEnd ≠ p.writeEnd) :
    host.wake p.writeEnd =
      (.ok 1, { host with
        pairs := others ++ [{ p with queued := p.queued + 1 }] }) := by
  have hsame : others.map (fun other => if other.writeEnd = p.writeEnd then
      { other with queued := other.queued + 1 } else other) = others := by
    rw [List.map_congr_left (g := id), List.map_id]
    intro other hother
    exact if_neg (hothers other hother)
  rw [wake, if_pos (by simp [hpairs]), hpairs, List.map_append, hsame]
  simp

/-- The last pair can be read if a byte is queued there. -/
theorem wakeEvents_last (hpairs : host.pairs = others ++ [p])
    (hothers : ∀ other ∈ others, other.readEnd ≠ p.readEnd) :
    host.wakeEvents p.readEnd = if p.queued = 0 then 0 else readable := by
  have hnone : others.find? (·.readEnd == p.readEnd) = none :=
    List.find?_eq_none.mpr fun other hother => by
      simpa using hothers other hother
  have hlast : host.pairs.find? (·.readEnd == p.readEnd) = some p := by
    rw [hpairs, List.find?_append, hnone]
    simp
  rw [wakeEvents, hlast]

end LastPair

end Host

/-! ## Outcomes of calls -/

/-- Calls that open descriptors are scripted only to fail: one that is said to
have opened them would have had to do it. -/
def Script.Genuine (script : Script) : Prop :=
  ∀ entry ∈ script, entry.1 = .socket ∨ entry.1 = .pair →
    entry.2.value.isOk = false

instance : DecidablePred Script.Genuine := fun script =>
  inferInstanceAs (Decidable (∀ entry ∈ script, _ → _))

theorem Script.Genuine.mono {script later : Script} (h : script.Genuine)
    (hsub : later ⊆ script) :
    later.Genuine := fun entry hentry => h entry (hsub hentry)

/-- Some connection is scripted to be made. On the host it is not: the script
speaks for another network. -/
def Script.SaysConnected (script : Script) : Prop :=
  ∃ outcome, (.connect, outcome) ∈ script ∧ outcome.value.isOk = true

theorem Script.SaysConnected.mono {script later : Script}
    (h : later.SaysConnected) (hsub : later ⊆ script) :
    script.SaysConnected := by
  obtain ⟨outcome, hmem, hok⟩ := h
  exact ⟨outcome, hsub hmem, hok⟩

theorem Script.Genuine.value_eq {script : Script} (h : script.Genuine)
    {kind : Call} {outcome : Scripted} (hmem : (kind, outcome) ∈ script)
    (hkind : kind = .socket ∨ kind = .pair) :
    ∃ errno, outcome.value = .error errno := by
  have hfails := h _ hmem hkind
  cases hvalue : outcome.value with
  | error errno => exact ⟨errno, rfl⟩
  | ok value =>
    rw [hvalue] at hfails
    cases hfails

namespace System

variable {α : Type} {sys : System}

/-- A call ends as scripted and does nothing, or does on the host what it
does. -/
theorem call_cases (sys : System) (kind : Call) (scripted : Scripted → α)
    (natural : Host → α × Host) :
    (∃ outcome, (kind, outcome) ∈ sys.script ∧
      (sys.call kind scripted natural).1 = scripted outcome ∧
      (sys.call kind scripted natural).2.host = sys.host) ∨
    (sys.call kind scripted natural).1 = (natural sys.host).1 ∧
      (sys.call kind scripted natural).2.host = (natural sys.host).2 := by
  rw [call]
  cases hnext : sys.script.next kind with
  | none => exact Or.inr ⟨rfl, rfl⟩
  | some found =>
    obtain ⟨outcome, rest⟩ := found
    exact Or.inl ⟨outcome, (Script.next_mem hnext).1, rfl, rfl⟩

/-- Where a call is traffic on the host, it is traffic. -/
theorem traffic_call (kind : Call) (scripted : Scripted → α)
    {natural : Host → α × Host} (h : sys.host.Traffic (natural sys.host).2) :
    sys.host.Traffic (sys.call kind scripted natural).2.host := by
  rcases sys.call_cases kind scripted natural with ⟨_, _, _, heq⟩ | ⟨_, heq⟩
  · rw [heq]
    exact .refl _
  · rwa [heq]

/-- A socket is opened, or the host is left as it was. -/
theorem socket_cases (hgenuine : sys.script.Genuine) :
    (∃ errno, sys.socket.1 = .error errno ∧ sys.socket.2.host = sys.host) ∨
    sys.socket.1 = .ok sys.host.nextHandle ∧
    sys.socket.2.host = sys.host.socket.2 := by
  rw [socket]
  rcases sys.call_cases .socket _ _ with
    ⟨outcome, hmem, hresult, hhost⟩ | ⟨hresult, hhost⟩
  · obtain ⟨errno, hvalue⟩ := hgenuine.value_eq hmem (by simp)
    rw [hresult, hhost, hvalue]
    exact Or.inl ⟨errno, rfl, rfl⟩
  · exact Or.inr ⟨hresult, hhost⟩

/-- The socket that is given is connected or said to be, or only traffic was
made. -/
theorem connect_cases {h : Handle} {s : Socket}
    (hunique : (sys.host.sockets.map (·.handle)).Nodup)
    (hfind : sys.host.find? h = some s) (target : SocketAddress) :
    (∃ errno, (sys.connect h target).1 = .error errno ∧
      sys.host.Traffic (sys.connect h target).2.host) ∨
    (sys.connect h target).1 = .ok () ∧
      (sys.script.SaysConnected ∧
        sys.host.Traffic (sys.connect h target).2.host ∨
      (sys.connect h target).2.host.links = sys.host.links.map (fun l =>
          if l.1 = h then
            (h, some { target with ip := Host.destination target.ip })
          else l) ∧
        (sys.connect h target).2.host.pairs = sys.host.pairs ∧
        (sys.connect h target).2.host.nextHandle = sys.host.nextHandle) := by
  rw [connect]
  rcases sys.call_cases .connect done (·.connect h target) with
    ⟨outcome, hmem, hresult, hhost⟩ | ⟨hresult, hhost⟩
  · rw [hresult, hhost, done]
    cases hvalue : outcome.value with
    | error errno => exact Or.inl ⟨errno, rfl, .refl _⟩
    | ok value =>
      exact Or.inr ⟨rfl, Or.inl ⟨⟨outcome, hmem, by rw [hvalue]; rfl⟩, .refl _⟩⟩
  · rw [hresult, hhost]
    rcases Host.connect_cases hunique hfind target with hfails | ⟨hok, hlater⟩
    · exact Or.inl hfails
    · exact Or.inr ⟨hok, Or.inr hlater⟩

/-- A pair is opened, or the host is left as it was. -/
theorem pair_cases (hgenuine : sys.script.Genuine) :
    (∃ errno, sys.pair.1 = .error errno ∧ sys.pair.2.host = sys.host) ∨
    sys.pair.1 = .ok (some (sys.host.nextHandle, sys.host.nextHandle + 1)) ∧
      sys.pair.2.host = sys.host.pair.2 := by
  rw [pair]
  rcases sys.call_cases .pair _ _ with
    ⟨outcome, hmem, hresult, hhost⟩ | ⟨hresult, hhost⟩
  · obtain ⟨errno, hvalue⟩ := hgenuine.value_eq hmem (by simp)
    rw [hresult, hhost, hvalue]
    exact Or.inl ⟨errno, rfl, rfl⟩
  · exact Or.inr ⟨hresult, hhost⟩

end System

namespace DatagramSocket

variable {sys : System}

/-- A socket is opened, or the host is left as it was. -/
theorem create_cases (hgenuine : sys.script.Genuine) :
    (∃ e, (({} : DatagramSocket).create sys).1 = .error e ∧
      (({} : DatagramSocket).create sys).2.2.host = sys.host) ∨
    (({} : DatagramSocket).create sys).1 = .ok () ∧
      (({} : DatagramSocket).create sys).2.1.handle = some sys.host.nextHandle ∧
      (({} : DatagramSocket).create sys).2.2.host = sys.host.socket.2 := by
  have hcases := System.socket_cases hgenuine
  rw [create]
  generalize sys.socket = called at hcases ⊢
  obtain ⟨result, later⟩ := called
  rcases hcases with ⟨errno, rfl, hhost⟩ | ⟨rfl, hhost⟩
  · exact Or.inl ⟨_, rfl, hhost⟩
  · exact Or.inr ⟨rfl, rfl, hhost⟩

/-- The socket is connected to the endpoint or said to be, or only traffic was
made. -/
theorem connect_cases {socket : DatagramSocket} {h : Handle} {s : Socket}
    (hhandle : socket.handle = some h)
    (hunique : (sys.host.sockets.map (·.handle)).Nodup)
    (hfind : sys.host.find? h = some s) (target : Endpoint) :
    (∃ e, (socket.connect sys target).1 = .error e ∧
      sys.host.Traffic (socket.connect sys target).2.2.host) ∨
    (socket.connect sys target).1 = .ok () ∧
    ∃ address, target.toSocketAddress? = some address ∧
      (sys.script.SaysConnected ∧
        sys.host.Traffic (socket.connect sys target).2.2.host ∨
      (socket.connect sys target).2.2.host.links = sys.host.links.map (fun l =>
          if l.1 = h then
            (h, some { address with ip := Host.destination address.ip })
          else l) ∧
        (socket.connect sys target).2.2.host.pairs = sys.host.pairs ∧
        (socket.connect sys target).2.2.host.nextHandle =
          sys.host.nextHandle) := by
  rw [connect, hhandle]
  cases htarget : target.toSocketAddress? with
  | none => exact Or.inl ⟨_, rfl, .refl _⟩
  | some address =>
    have hcases := System.connect_cases hunique hfind address
    dsimp only
    rw [settle_system]
    generalize sys.connect h address = called at hcases ⊢
    obtain ⟨result, later⟩ := called
    rcases hcases with ⟨errno, rfl, htraffic⟩ | ⟨rfl, hlater⟩
    · exact Or.inl ⟨_, rfl, htraffic⟩
    · exact Or.inr ⟨rfl, address, rfl, hlater⟩

end DatagramSocket

end ClockSync.Net
