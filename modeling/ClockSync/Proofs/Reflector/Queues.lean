import ClockSync.Proofs.Reflector.Exchanges
import ClockSync.Proofs.Reflector.LifeCycle

/-!
# What is left in the queues of a session

On a host that had no sockets, a session has that of the other side and, while
the reflector serves, its own (`Facing`). Each step sends at most one datagram
to the reflector, which is handled within the step, and the reply to it is read
at its end. So whatever the calls of a step are scripted to give, nothing lies
in the queues between two steps (`Quiet.after`), and a datagram that comes while
the reflector does not serve gets nothing back (`Quiet.exchange_of_closed`).
-/

namespace ClockSync

open Net Wire

namespace Net

/-- The socket is connected to nobody, takes datagrams, and has no error to
tell. -/
structure Socket.Plain (s : Socket) : Prop where
  peer : s.peer = none
  isShut : s.isShut = false
  pending : s.pending = none

namespace Host

/-- What a plain socket sends is delivered, or is not sent at all. -/
theorem sendTo_cases {host later : Host} {s s' : Socket} {h : Handle}
    (hfind : host.find? h = some s) (hwith : host.withPort s = (s', later))
    (hplain : s'.Plain) (target : SocketAddress) (payload : List UInt8) :
    (host.sendTo h target payload).2 = later ∨
      target.port ≠ 0 ∧
      (host.sendTo h target payload).2 = later.deliver s' target payload := by
  rw [sendTo, hfind]
  dsimp only
  rw [hwith]
  dsimp only
  split
  · exact Or.inl rfl
  · split
    · exact Or.inl rfl
    · next hport =>
      split
      · rw [transmit, hplain.pending, hplain.isShut]
        split
        · exact Or.inl rfl
        · exact Or.inr ⟨hport, rfl⟩
      · exact Or.inl rfl

/-! ## A host with two sockets -/

/-- A host with the sockets of both sides and no others. Only the other side
sends to the reflector. -/
structure Facing (host : Host) (peer own : Socket) : Prop where
  sockets : host.sockets = [peer, own]
  distinct : own.handle ≠ peer.handle
  port : peer.port.isSome = true
  plain_peer : peer.Plain
  plain_own : own.Plain
  sender : ∀ d ∈ own.queue, d.sender = peer.address
  lt : peer.handle < host.nextHandle

namespace Facing

variable {host : Host} {peer own : Socket}

theorem find_peer (h : host.Facing peer own) :
    host.find? peer.handle = some peer := by
  simp [find?, h.sockets]

theorem find_own (h : host.Facing peer own) :
    host.find? own.handle = some own := by
  simp [find?, h.sockets, h.distinct.symm]

/-- Another socket in the place of that of the reflector. -/
theorem put_own (h : host.Facing peer own) {own' : Socket}
    (hhandle : own'.handle = own.handle) (hplain : own'.Plain)
    (hsender : ∀ d ∈ own'.queue, d.sender = peer.address) :
    (host.put own').Facing peer own' := by
  refine ⟨?_, hhandle ▸ h.distinct, h.port, h.plain_peer, hplain, hsender, h.lt⟩
  simp [put, h.sockets, hhandle, h.distinct.symm]

/-- Another queue of the reflector. -/
theorem put_queue (h : host.Facing peer own) {queue : List Datagram}
    (hsender : ∀ d ∈ queue, d.sender = peer.address) :
    (host.put { own with queue }).Facing peer { own with queue } :=
  h.put_own rfl ⟨h.plain_own.peer, h.plain_own.isShut, h.plain_own.pending⟩
    hsender

/-- Another queue of the other side. -/
theorem put_peer (h : host.Facing peer own) (queue : List Datagram) :
    (host.put { peer with queue }).Facing { peer with queue } own := by
  refine ⟨?_, h.distinct, h.port,
    ⟨h.plain_peer.peer, h.plain_peer.isShut, h.plain_peer.pending⟩,
    h.plain_own, h.sender, h.lt⟩
  simp [put, h.sockets, h.distinct]

theorem withPort_own (h : host.Facing peer own) :
    ∃ own' later, host.withPort own = (own', later) ∧ later.Facing peer own' ∧
      own'.handle = own.handle ∧ own'.queue = own.queue := by
  rw [withPort]
  split
  · exact ⟨own, host, rfl, h, rfl, rfl⟩
  · let placed : Socket := { own with port := some host.nextPort }
    have hput : (host.put placed).Facing peer placed := h.put_own rfl
      ⟨h.plain_own.peer, h.plain_own.isShut, h.plain_own.pending⟩ h.sender
    exact ⟨_, _, rfl,
      ⟨hput.sockets, hput.distinct, hput.port, hput.plain_peer, hput.plain_own,
      hput.sender, hput.lt⟩, rfl, rfl⟩

theorem withPort_peer (h : host.Facing peer own) :
    host.withPort peer = (peer, host) := by
  obtain ⟨port, hport⟩ := Option.isSome_iff_exists.mp h.port
  rw [withPort, hport]

/-- The socket of the reflector may get a port. -/
theorem bind (h : host.Facing peer own) :
    ∃ own', (host.bind own.handle 0).2.Facing peer own' ∧
      own'.handle = own.handle ∧
      own'.queue = own.queue := by
  obtain ⟨own', later, hwith, hlater, hhandle, hqueue⟩ := h.withPort_own
  rw [Host.bind, h.find_own]
  dsimp only
  split
  · exact ⟨own, h, rfl, rfl⟩
  · rw [if_pos rfl, hwith]
    exact ⟨own', hlater, hhandle, hqueue⟩

/-! ### Traffic -/

/-- The reply to the other side lies in its queue, or is not sent. -/
theorem reply (h : host.Facing peer own) (payload : List UInt8) :
    ∃ peer' own',
      (host.sendTo own.handle peer.address payload).2.Facing peer' own' ∧
      peer'.handle = peer.handle ∧ own'.handle = own.handle ∧
      own'.queue = own.queue ∧
      peer'.queue.length ≤ peer.queue.length + 1 := by
  obtain ⟨own', later, hwith, hlater, hhandle, hqueue⟩ := h.withPort_own
  obtain ⟨port, hport⟩ := Option.isSome_iff_exists.mp h.port
  rcases sendTo_cases h.find_own hwith hlater.plain_own
    peer.address payload with
    heq | ⟨_, heq⟩
  · rw [heq]
    exact ⟨peer, own', hlater, rfl, hhandle, hqueue, Nat.le_succ _⟩
  · have hdeliver : later.deliver own' peer.address payload =
        later.put { peer with
          queue := peer.queue ++ [⟨own'.address, payload⟩] } := by
      simp [deliver, hlater.sockets, accepts, Socket.address, hport,
        h.plain_peer.peer]
    rw [heq, hdeliver]
    exact ⟨_, own', hlater.put_peer _, rfl, hhandle, hqueue, by simp⟩

/-- What the other side sends lies in the queue of the reflector or in its own,
or is not sent. -/
theorem request (h : host.Facing peer own) (target : SocketAddress)
    (payload : List UInt8) :
    ∃ peer' own', (host.sendTo peer.handle target payload).2.Facing peer' own' ∧
      peer'.handle = peer.handle ∧ own'.handle = own.handle ∧
      peer'.queue.length + own'.queue.length ≤
        peer.queue.length + own.queue.length + 1 := by
  rcases sendTo_cases h.find_peer h.withPort_peer h.plain_peer
    target payload with
    heq | ⟨_, heq⟩
  · rw [heq]
    exact ⟨peer, own, h, rfl, rfl, Nat.le_succ _⟩
  · rw [heq, deliver]
    split
    · next receiver hreceiver =>
      have hmem := List.mem_of_find?_eq_some hreceiver
      rw [h.sockets] at hmem
      rcases List.mem_pair.mp hmem with rfl | rfl
      · refine ⟨_, own, h.put_peer _, rfl, rfl, ?_⟩
        simp only [List.length_append, List.length_singleton]
        omega
      · refine ⟨peer, _, h.put_queue ?_, rfl, rfl, ?_⟩
        · exact List.forall_mem_append.mpr ⟨h.sender,
            List.forall_mem_singleton.mpr rfl⟩
        · simp only [List.length_append, List.length_singleton]
          omega
    · rw [if_neg (by simp [h.plain_peer.peer])]
      exact ⟨peer, own, h, rfl, rfl, Nat.le_succ _⟩

end Facing

/-! ## A host with one socket -/

/-- A host with the socket of the other side and no others, and nothing to
read. -/
structure Alone (host : Host) (peer : Socket) : Prop where
  sockets : host.sockets = [peer]
  port : peer.port.isSome = true
  plain : peer.Plain
  queue : peer.queue = []
  lt : peer.handle < host.nextHandle

theorem Facing.close {host : Host} {peer own : Socket}
    (h : host.Facing peer own) (hqueue : peer.queue = []) :
    (host.close own.handle).Alone peer := by
  refine ⟨?_, h.port, h.plain_peer, hqueue, h.lt⟩
  simp [Host.close, h.sockets, h.distinct.symm]

namespace Alone

variable {host : Host} {peer : Socket}

theorem find_peer (h : host.Alone peer) :
    host.find? peer.handle = some peer := by
  simp [find?, h.sockets]

/-- A socket that is opened faces the one that is there. -/
theorem socket (h : host.Alone peer) :
    host.socket.2.Facing peer { handle := host.nextHandle } := by
  refine ⟨?_, Nat.ne_of_gt h.lt, h.port, h.plain, ⟨rfl, rfl, rfl⟩,
    by simp, Nat.lt_succ_of_lt h.lt⟩
  simp [Host.socket, h.sockets]

/-- What is sent to no port is not sent. -/
theorem sendTo (h : host.Alone peer) (ip : IPv4) (payload : List UInt8) :
    (host.sendTo peer.handle ⟨ip, 0⟩ payload).2 = host := by
  obtain ⟨port, hport⟩ := Option.isSome_iff_exists.mp h.port
  have hwith : host.withPort peer = (peer, host) := by rw [withPort, hport]
  rcases sendTo_cases h.find_peer hwith h.plain ⟨ip, 0⟩ payload with
    heq | ⟨hne, _⟩
  · exact heq
  · exact absurd rfl hne

theorem receive (h : host.Alone peer) (max : Nat) :
    host.receive peer.handle max = (none, host) :=
  receive_of_empty h.find_peer h.plain.pending h.plain.isShut h.queue max

end Alone

end Host

/-- No call that asks for a socket is scripted to say that it made one. -/
def Script.MakesNoSocket (script : Script) : Prop :=
  ∀ outcome, (.socket, outcome) ∈ script → ∃ errno, outcome.value = .error errno

end Net

namespace Reflector

/-- What a receive leaves behind that is only said to have received is no
request. -/
theorem not_isRequest_leftOver (max count : Nat) :
    ¬ IsRequest (System.leftOver [] max count) := by
  intro h
  have hlength : count = packetSize :=
    (System.length_leftOver _ _ _).symm.trans h.1.1
  have hzeros : System.leftOver [] max count = List.replicate count 0 := by
    simp [System.leftOver]
  rw [hzeros, hlength] at h
  exact absurd h (by decide)

namespace Session

/-! ## Within a step -/

/-- The reflector serves on one of the two sockets of the host, and the other
side has the other. -/
structure UnderWay (s : Session) (peer own : Socket) : Prop where
  facing : s.system.host.Facing peer own
  requester : s.requester = peer.handle
  handle : s.socket.handle = some own.handle

section Calls

variable {socket : DatagramSocket} {system : System} {peer own : Socket}

/-- A receive does on the host what it does, or is scripted, and then gives no
request. -/
theorem receive_cases (h : system.host.Facing peer own)
    (hhandle : socket.handle = some own.handle) :
    socket.receive system receiveLimit [] = none ∧ own.queue = [] ∨
    ∃ received later system',
      socket.receive system receiveLimit [] = some (received, later, system') ∧
      later.handle = some own.handle ∧
      ((∃ d rest, own.queue = d :: rest ∧
          received = .ok { d with payload := d.payload.take receiveLimit } ∧
          system' = { system with
            host := system.host.put { own with queue := rest } }) ∨
        system'.host = system.host ∧
        system'.script.length + 1 = system.script.length ∧
          ∀ d, received = .ok d → ¬ IsRequest d.payload) := by
  rw [DatagramSocket.receive, hhandle]
  dsimp only
  rw [System.receive]
  cases hnext : system.script.next .receive with
  | none =>
    rw [System.call_of_next_none hnext]
    cases hqueue : own.queue with
    | nil =>
      refine Or.inl ⟨?_, rfl⟩
      simp [Host.receive, h.find_own, h.plain_own.pending, h.plain_own.isShut,
        hqueue]
    | cons d rest =>
      rw [Host.receive_of_queue h.find_own h.plain_own.pending hqueue]
      exact Or.inr ⟨_, _, _, rfl, hhandle, Or.inl ⟨d, rest, rfl, rfl, rfl⟩⟩
  | some found =>
    obtain ⟨outcome, script⟩ := found
    rw [System.call_of_next hnext]
    cases hvalue : outcome.value with
    | error errno =>
      refine Or.inr ⟨_, _, _, rfl, hhandle,
        Or.inr ⟨rfl, Script.length_next hnext, fun d hd => ?_⟩⟩
      cases hd
    | ok count =>
      refine Or.inr ⟨_, _, _, rfl, hhandle,
        Or.inr ⟨rfl, Script.length_next hnext, fun d hd => ?_⟩⟩
      cases hd
      exact not_isRequest_leftOver receiveLimit count.toNat

/-- The reply to a datagram of the other side lies in its queue, or is not
sent. -/
theorem sendTo_target (h : system.host.Facing peer own)
    (hhandle : socket.handle = some own.handle) {d : Datagram}
    (hd : d.sender = peer.address) (payload : Bytes) :
    ∃ later system' peer' own',
      (socket.sendTo system (target d) payload).2 = (later, system') ∧
      later.handle = some own'.handle ∧ system'.host.Facing peer' own' ∧
      peer'.handle = peer.handle ∧ own'.queue = own.queue ∧
      peer'.queue.length ≤ peer.queue.length + 1 ∧
      system'.script.length ≤ system.script.length := by
  rw [DatagramSocket.sendTo, hhandle, target, hd,
    Endpoint.toSocketAddress?_ofSocketAddress]
  dsimp only
  have hlength :
      (system.sendTo own.handle peer.address payload).2.script.length ≤
      system.script.length := by
    rcases system.length_script_call .sendTo Scripted.value
      (·.sendTo own.handle peer.address payload) with heq | hless
    · exact Nat.le_of_eq (congrArg List.length heq)
    · exact Nat.le_of_succ_le (Nat.le_of_eq hless)
  have hhost : ∃ peer' own',
      (system.sendTo own.handle peer.address payload).2.host.Facing
      peer' own' ∧ peer'.handle = peer.handle ∧ own'.handle = own.handle ∧
      own'.queue = own.queue ∧ peer'.queue.length ≤ peer.queue.length + 1 := by
    rw [System.sendTo]
    rcases system.host_call_cases .sendTo Scripted.value
      (·.sendTo own.handle peer.address payload) with heq | heq
    · rw [heq]
      exact ⟨peer, own, h, rfl, rfl, rfl, Nat.le_succ _⟩
    · rw [heq]
      exact h.reply payload
  obtain ⟨peer', own', hfacing, hpeer, hown, hqueue, hle⟩ := hhost
  refine ⟨_, _, peer', own', rfl, ?_, ?_, hpeer, hqueue, hle, ?_⟩
  · rw [DatagramSocket.handle_settle, hhandle, hown]
  · rw [DatagramSocket.settle_system]
    exact hfacing
  · rw [DatagramSocket.settle_system]
    exact hlength

end Calls

/-- What is sent for a receive, and where to. -/
def reply? (s : Session) :
    Except SocketError Datagram → Option (Endpoint × Bytes)
  | .ok d =>
    if IsRequest d.payload then
      some (target d, echo d.payload (s.reflector.now s.clock))
    else none
  | .error _ => none

theorem handleOne_of_receive {s : Session}
    {received : Except SocketError Datagram} {socket : DatagramSocket}
    {system : System}
    (h : s.socket.receive s.system receiveLimit [] =
      some (received, socket, system)) :
    ∃ later log, s.handleOne = some (later, log) ∧
      later.requester = s.requester ∧
      (later.socket, later.system) =
        match s.reply? received with
        | some (target, reply) => (socket.sendTo system target reply).2
        | none => (socket, system) := by
  have hreply : (s.reflector.handle s.clock received fun target reply =>
      (socket.sendTo system target reply).1).reply = s.reply? received := by
    rw [handle_eq]
    cases received <;> rfl
  rw [handleOne, h]
  dsimp only
  generalize (s.reflector.handle s.clock received _) = handled at hreply ⊢
  rw [hreply]
  exact ⟨_, _, rfl, rfl, rfl⟩

namespace UnderWay

variable {s : Session} {peer own : Socket}

/-- A datagram that is handled leaves the queue of the reflector, and at most
one reply to it comes into that of the other side. -/
theorem handleOne (h : s.UnderWay peer own)
    (hfew : peer.queue.length + own.queue.length ≤ 1) :
    s.handleOne = none ∧ own.queue = [] ∨
    ∃ later log peer' own', s.handleOne = some (later, log) ∧
      later.UnderWay peer' own' ∧
      peer'.queue.length + own'.queue.length ≤ 1 ∧
      later.system.script.length + own'.queue.length + 1 ≤
        s.system.script.length + own.queue.length := by
  rcases receive_cases h.facing h.handle with
    ⟨hnone, hqueue⟩ | ⟨received, socket, system, hsome, hhandle, hcases⟩
  · refine Or.inl ⟨?_, hqueue⟩
    rw [Session.handleOne, hnone]
  · obtain ⟨later, log, hone, hrequester, hlater⟩ := handleOne_of_receive hsome
    refine Or.inr ⟨later, log, ?_⟩
    have hrequester' : later.requester = peer.handle :=
      hrequester.trans h.requester
    rcases hcases with ⟨d, rest, hqueue, rfl, rfl⟩ | ⟨hhost, hscript, hnot⟩
    · -- there was one datagram, so nothing else is under way
      rw [hqueue, List.length_cons] at hfew
      obtain rfl : rest = [] := List.length_eq_zero_iff.mp (by omega)
      let emptied : Socket := { own with queue := [] }
      let system : System := { s.system with host := s.system.host.put emptied }
      have hfacing : system.host.Facing peer emptied :=
        h.facing.put_queue (by simp)
      have hemptied : socket.handle = some emptied.handle := hhandle
      by_cases hrequest : IsRequest (d.payload.take receiveLimit)
      · have hsender : d.sender = peer.address :=
          h.facing.sender d (by rw [hqueue]; exact List.mem_singleton_self d)
        obtain ⟨_, _, peer', own', hsend, hhandle', hfacing',
          hpeer, hown, hle, hscript⟩ :=
          sendTo_target (d := { d with payload := d.payload.take receiveLimit })
            hfacing hemptied
            hsender (echo (d.payload.take receiveLimit)
              (s.reflector.now s.clock))
        have hreply :
            s.reply? (.ok { d with payload := d.payload.take receiveLimit }) =
              some _ :=
          if_pos hrequest
        rw [hreply] at hlater
        obtain ⟨hsocket, hsystem⟩ := Prod.mk.inj (hlater.trans hsend)
        have hempty : own'.queue.length = 0 := by rw [hown]; rfl
        refine ⟨peer', own', hone,
          ⟨hsystem ▸ hfacing', hrequester'.trans hpeer.symm,
          hsocket ▸ hhandle'⟩, by omega, ?_⟩
        rw [hsystem, hempty, hqueue, List.length_singleton]
        exact Nat.succ_le_succ hscript
      · have hreply :
            s.reply? (.ok { d with payload := d.payload.take receiveLimit }) =
              none :=
          if_neg hrequest
        rw [hreply] at hlater
        obtain ⟨hsocket, hsystem⟩ := Prod.mk.inj hlater
        refine ⟨peer, emptied, hone,
          ⟨hsystem ▸ hfacing, hrequester', hsocket ▸ hemptied⟩,
          Nat.le_of_succ_le hfew, ?_⟩
        rw [hsystem, hqueue, List.length_singleton]
        exact Nat.le_refl _
    · -- what is only said to have been received is not answered
      have hreply : s.reply? received = none := by
        cases received with
        | error e => rfl
        | ok d => exact if_neg (hnot d rfl)
      rw [hreply] at hlater
      obtain ⟨hsocket, hsystem⟩ := Prod.mk.inj hlater
      refine ⟨peer, own, hone, ⟨?_, hrequester', hsocket ▸ hhandle⟩, hfew, ?_⟩
      · rw [hsystem, hhost]
        exact h.facing
      · rw [hsystem]
        omega

/-- A wait that finds nothing although nothing was scripted for it has nothing
to find. -/
theorem queue_of_not_ready (h : s.UnderWay peer own)
    {ready : Except SocketError Bool} {socket : DatagramSocket}
    {system : System}
    (hwait : s.socket.waitReadable s.system = (ready, socket, system))
    (hready : ready ≠ .ok true)
    (hscripted : ¬ system.script.length < s.system.script.length) :
    own.queue = [] := by
  by_contra hqueue
  rw [DatagramSocket.waitReadable, h.handle] at hwait
  dsimp only at hwait
  rw [System.poll] at hwait
  cases hnext : s.system.script.next .poll with
  | none =>
    rw [System.call_of_next_none hnext, Host.events_of_queue h.facing.find_own
      h.facing.plain_own.pending h.facing.plain_own.isShut hqueue] at hwait
    cases hwait
    exact hready rfl
  | some found =>
    obtain ⟨outcome, script⟩ := found
    have hless := Script.length_next hnext
    rw [System.call_of_next hnext] at hwait
    have hscript : system.script = script := by
      cases hvalue : outcome.value with
      | error errno =>
        rw [hvalue] at hwait
        cases hwait
        rfl
      | ok count =>
        rw [hvalue] at hwait
        cases hwait
        rfl
    rw [hscript] at hscripted
    omega

/-- The serving loop has passes enough to empty the queue of the reflector. -/
theorem serve (h : s.UnderWay peer own)
    (hfew : peer.queue.length + own.queue.length ≤ 1) {fuel : Nat}
    (hfuel : s.system.script.length + own.queue.length ≤ fuel) :
    ∃ peer' own', (serve fuel s).1.UnderWay peer' own' ∧
      peer'.queue.length ≤ 1 ∧
      own'.queue = [] := by
  -- each pass uses up an outcome of the script or takes the datagram
  induction fuel generalizing s peer own with
  | zero =>
    exact ⟨peer, own, h, by omega, List.length_eq_zero_iff.mp (by omega)⟩
  | succ fuel ih =>
    obtain ⟨hhandle, hhost, hscript⟩ := waitReadable_cases s.socket s.system
    have hdone := @h.queue_of_not_ready
    rw [Session.serve]
    generalize s.socket.waitReadable s.system =
      waited at hhandle hhost hscript hdone ⊢
    obtain ⟨ready, socket, system⟩ := waited
    dsimp only at hhandle hhost hscript
    have hwaited : UnderWay { s with socket, system } peer own :=
      ⟨by rw [hhost]; exact h.facing, h.requester, hhandle.trans h.handle⟩
    have hshorter : system.script.length ≤ s.system.script.length := by
      rcases hscript with heq | hless
      · exact Nat.le_of_eq (congrArg List.length heq)
      · omega
    have hidle (hready : ready ≠ .ok true) : ∃ peer' own',
        (if system.script.length < s.system.script.length then
            Session.serve fuel { s with socket, system }
          else ({ s with socket, system }, [])).1.UnderWay peer' own' ∧
        peer'.queue.length ≤ 1 ∧ own'.queue = [] := by
      split
      · exact ih hwaited hfew (by dsimp only; omega)
      · next hscripted =>
        exact ⟨peer, own, hwaited, by omega, hdone rfl hready hscripted⟩
    rcases ready with e | _ | _
    · exact hidle (by simp)
    · exact hidle (by simp)
    · dsimp only
      rcases hwaited.handleOne hfew with
        ⟨hnone, hqueue⟩ | ⟨later, log, peer', own', hone,
          hlater, hfew', hscript'⟩
      · rw [hnone]
        exact ⟨peer, own, hwaited, by omega, hqueue⟩
      · rw [hone]
        dsimp only at hscript'
        exact ih hlater hfew' (by omega)

/-- Where nothing is under way, nothing is after what is sent was handled and
the reply was read. -/
theorem exchange (h : s.UnderWay peer own) (hpeer : peer.queue = [])
    (hown : own.queue = []) (payload : Bytes) :
    ∃ peer' own', (s.exchange payload).2.1.UnderWay peer' own' ∧
      peer'.queue = [] ∧
      own'.queue = [] := by
  have hsent : ∃ peer' own', (s.sent payload).UnderWay peer' own' ∧
      peer'.queue.length + own'.queue.length ≤ 1 := by
    obtain ⟨peer', own', hfacing, hpeer', hown', hle⟩ := h.facing.request
      ⟨.loopback, (s.socket.handle.map s.system.host.localPort).getD 0⟩ payload
    rw [hpeer, hown] at hle
    rw [← h.requester] at hfacing
    exact ⟨peer', own',
      ⟨hfacing, h.requester.trans hpeer'.symm, h.handle.trans (by rw [hown'])⟩,
      hle⟩
  obtain ⟨peer₁, own₁, h₁, hfew⟩ := hsent
  have hpasses : (s.sent payload).system.script.length + own₁.queue.length ≤
      (s.sent payload).passes := by
    simp [passes, h₁.handle, h₁.facing.find_own]
  obtain ⟨peer₂, own₂, h₂, hle, hempty⟩ := h₁.serve hfew hpasses
  generalize hserve : Session.serve (s.sent payload).passes (s.sent payload) =
    outcome at h₂
  obtain ⟨served, log⟩ := outcome
  dsimp only at h₂
  cases hqueue : peer₂.queue with
  | nil =>
    have hreceive : served.system.host.receive served.requester packetSize =
        (none, served.system.host) := by
      rw [h₂.requester]
      exact Host.receive_of_empty h₂.facing.find_peer
        h₂.facing.plain_peer.pending
        h₂.facing.plain_peer.isShut hqueue _
    rw [exchange_of_silence hserve hreceive]
    exact ⟨peer₂, own₂, h₂, hqueue, hempty⟩
  | cons d rest =>
    rw [hqueue, List.length_cons] at hle
    obtain rfl : rest = [] := List.length_eq_zero_iff.mp (by omega)
    have hreceive : served.system.host.receive served.requester packetSize =
        (some (.ok { d with payload := d.payload.take packetSize }),
          served.system.host.put { peer₂ with queue := [] }) := by
      rw [h₂.requester]
      exact Host.receive_of_queue h₂.facing.find_peer
        h₂.facing.plain_peer.pending hqueue _
    rw [exchange_of_reply hserve hreceive]
    exact ⟨{ peer₂ with queue := [] }, own₂,
      ⟨h₂.facing.put_peer [], h₂.requester, h₂.handle⟩, rfl, hempty⟩

end UnderWay

/-! ## Between steps -/

/-- Nothing lies in the queues. -/
inductive Quiet (s : Session) : Prop where
  | closed (peer : Socket) (alone : s.system.host.Alone peer)
      (requester : s.requester = peer.handle) (handle : s.socket.handle = none)
  | faced (peer own : Socket) (underWay : s.UnderWay peer own)
      (queue_peer : peer.queue = [])
      (queue_own : own.queue = [])

namespace Quiet

variable {s : Session}

theorem new {host : Host} (h : host.sockets = []) : (new host).Quiet := by
  refine .closed { handle := host.nextHandle, port := some host.nextPort }
    ⟨?_, rfl,
    ⟨rfl, rfl, rfl⟩, rfl, ?_⟩ rfl rfl
  · simp [Session.new, Host.socket, Host.bind, Host.find?, Host.withPort,
      Host.put, h]
  · simp [Session.new, Host.socket, Host.bind, Host.find?, Host.withPort,
      Host.put, h]

/-- A socket is opened and bound beside that of the other side, or closed
again. -/
theorem bindSocket {peer : Socket} (h : s.system.host.Alone peer)
    (hscript : s.system.script.MakesNoSocket) :
    (s.bindSocket 0).2.1.handle = none ∧ (s.bindSocket 0).2.2.host.Alone peer ∨
      ∃ own, own.queue = [] ∧ (s.bindSocket 0).2.1.handle = some own.handle ∧
        (s.bindSocket 0).2.2.host.Facing peer own := by
  rw [Session.bindSocket, DatagramSocket.create, System.socket]
  cases hsocket : s.system.script.next .socket with
  | some found =>
    obtain ⟨outcome, script⟩ := found
    obtain ⟨errno, hvalue⟩ := hscript outcome (Script.next_mem hsocket).1
    rw [System.call_of_next hsocket, hvalue]
    exact Or.inl ⟨rfl, h⟩
  | none =>
    rw [System.call_of_next_none hsocket]
    generalize hsystem :
      ({ s.system with host := s.system.host.socket.2 } : System) = system
    have hopened :
        system.host.Facing peer { handle := s.system.host.nextHandle } := by
      rw [← hsystem]
      exact h.socket
    have hbound :
        ∃ own, (system.bind s.system.host.nextHandle 0).2.host.Facing peer own ∧
        own.handle = s.system.host.nextHandle ∧ own.queue = [] := by
      rw [System.bind]
      rcases system.host_call_cases .bind System.done
        (·.bind s.system.host.nextHandle 0) with heq | heq
      · rw [heq]
        exact ⟨_, hopened, rfl, rfl⟩
      · rw [heq]
        exact hopened.bind
    obtain ⟨own, hfacing, hhandle, hqueue⟩ := hbound
    have hnew : s.system.host.socket.1 = s.system.host.nextHandle := rfl
    dsimp only [DatagramSocket.bind]
    rw [hnew]
    rcases hbind : system.bind s.system.host.nextHandle 0 with
      ⟨errno | _, later⟩
    · -- the socket that could not be bound is closed again
      rw [hbind] at hfacing
      have hclosed := hfacing.close h.queue
      rw [hhandle] at hclosed
      exact Or.inl ⟨rfl, hclosed⟩
    · rw [hbind] at hfacing
      have hhost : (later.localPort s.system.host.nextHandle).2.host =
          later.host :=
        System.host_call rfl
      refine Or.inr ⟨own, hqueue, congrArg some hhandle.symm, ?_⟩
      show (later.localPort s.system.host.nextHandle).2.host.Facing peer own
      rw [hhost]
      exact hfacing

theorem start (h : s.Quiet) (hsettled : s.Settled)
    (hscript : s.system.script.MakesNoSocket) (clock : ClockSource)
    (options : Options) : (s.start clock options 0).2.1.Quiet := by
  cases hserving : s.reflector.serving with
  | true =>
    rw [start_of_serving hserving]
    exact h
  | false =>
    obtain ⟨reflector, heq⟩ : ∃ reflector, (s.start clock options 0).2.1 =
        { s with
          reflector, socket := (s.bindSocket 0).2.1,
          system := (s.bindSocket 0).2.2 } := by
      rcases s.bindSocket_cases 0 with ⟨e, hbound, _⟩ | ⟨bound, _, hbound, _⟩
      · exact ⟨_, by rw [start_of_not_bound hserving hbound]⟩
      · exact ⟨_, by rw [start_of_bound hserving hbound]⟩
    rw [heq]
    cases h with
    | closed peer alone requester handle =>
      rcases bindSocket alone hscript with
        ⟨hhandle, halone⟩ | ⟨own, hqueue, hhandle, hfacing⟩
      · exact .closed peer halone requester hhandle
      · exact .faced peer own ⟨hfacing, requester, hhandle⟩ alone.queue hqueue
    | faced peer own underWay queue_peer queue_own =>
      have hhandle := (hsettled.handle hserving).symm.trans underWay.handle
      cases hhandle

theorem stop (h : s.Quiet) : s.stop.Quiet := by
  rw [Session.stop]
  split
  · cases h with
    | closed peer alone requester handle =>
      simp only [DatagramSocket.close, handle]
      exact .closed peer alone requester rfl
    | faced peer own underWay queue_peer queue_own =>
      simp only [DatagramSocket.close, underWay.handle]
      exact .closed peer (underWay.facing.close queue_peer)
        underWay.requester rfl
  · exact h

/-- While the socket is closed, nothing comes back for a datagram, and nobody
but the other side did anything. -/
theorem exchange_of_closed (h : s.Quiet) (hclosed : s.socket.handle = none)
    (payload : Bytes) :
    ∃ lastError, s.exchange payload =
      (none, { s with socket.lastError := lastError }, []) := by
  cases h with
  | closed peer alone requester handle =>
    obtain ⟨lastError, heq⟩ := Session.exchange_of_closed hclosed payload
    have hsent : (s.system.host.sendTo s.requester ⟨.loopback, 0⟩ payload).2 =
        s.system.host := by
      rw [requester, alone.sendTo]
    have hreceive : s.system.host.receive s.requester packetSize =
        (none, s.system.host) := by
      rw [requester, alone.receive]
    rw [hsent, hreceive] at heq
    exact ⟨lastError, heq⟩
  | faced peer own underWay queue_peer queue_own =>
    have hhandle := hclosed.symm.trans underWay.handle
    cases hhandle

theorem exchange (h : s.Quiet) (payload : Bytes) :
    (s.exchange payload).2.1.Quiet := by
  cases h with
  | closed peer alone requester handle =>
    obtain ⟨lastError, heq⟩ :=
      exchange_of_closed (.closed peer alone requester handle) handle payload
    rw [heq]
    exact .closed peer alone requester handle
  | faced peer own underWay queue_peer queue_own =>
    obtain ⟨peer', own', hunder, hpeer, hown⟩ :=
      underWay.exchange queue_peer queue_own payload
    exact .faced peer' own' hunder hpeer hown

/-- Another script is in force. -/
theorem scripted (h : s.Quiet) (clock : Readings) (script : Script) :
    Quiet { s with clock, system := { s.system with script } } := by
  cases h with
  | closed peer alone requester handle =>
    exact .closed peer alone requester handle
  | faced peer own underWay queue_peer queue_own =>
    exact .faced peer own ⟨underWay.facing, underWay.requester, underWay.handle⟩
      queue_peer
      queue_own

theorem next (h : s.Quiet) (hsettled : s.Settled) (what : Step)
    (hscript : what.script.MakesNoSocket) : (s.next what).Quiet := by
  have hprepared : (s.prepare what).Quiet := h.scripted _ _
  have hacted : ((s.prepare what).acted what.action).Quiet := by
    cases what.action with
    | start clock options =>
      exact hprepared.start ⟨hsettled.isOpen, hsettled.port⟩
        hscript clock options
    | datagram payload => exact hprepared.exchange payload
    | stop => exact hprepared.stop
    | look => exact hprepared
  rw [next_eq]
  exact hacted.scripted _ []

/-- Whatever else is scripted, nothing lies in the queues between two steps. -/
theorem after (h : s.Quiet) (hsettled : s.Settled) {steps : List Step}
    (hscripts : ∀ what ∈ steps, what.script.MakesNoSocket) :
    (s.after steps).1.Quiet := by
  rw [fst_after]
  induction steps generalizing s with
  | nil => exact h
  | cons what steps ih =>
    obtain ⟨hscript, hlater⟩ := List.forall_mem_cons.mp hscripts
    exact ih (h.next hsettled what hscript) (hsettled.next what) hlater

end Quiet

end Session

end Reflector

end ClockSync
