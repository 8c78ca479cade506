import ClockSync.Proofs.Addresses
import ClockSync.Proofs.Hosts
import ClockSync.Proofs.Reflector.Sessions
import Mathlib.Data.List.ReduceOption

/-!
# Who answers whom

A datagram that lies whole in a queue is received only in part, yet all of it
decides what is done about it (`reply_takeDatagram`, `clock_takeDatagram`). A
reflector never answers what a reflector sent (`takeDatagram_of_reply`).

On a host where the reflector's socket and that of the other side are
`Connected`, an exchange is the handling of that one datagram
(`Connected.exchange_eq`), and it leaves the two connected
(`Connected.exchange`). Hence what comes back for a list of datagrams: requests
are answered, each with the next reading, and nothing else is
(`answers_requests`).
-/

namespace ClockSync.Reflector

open Net Wire

theorem not_long_of_isRequest {payload : Bytes} (h : IsRequest payload) :
    ¬ Host.longestDatagram < payload.length := by
  rw [h.1.1]
  decide

/-! ## A datagram that lies whole in the queue -/

/-- All that is done about a datagram, of which a prefix is received. -/
def takeDatagram (r : Reflector) (clock : Readings) (d : Datagram)
    (send : Endpoint → Bytes → Except SocketError Unit) : Handled :=
  r.handle clock (.ok { d with payload := d.payload.take receiveLimit }) send

section Datagrams

variable (r : Reflector) (clock : Readings) (d : Datagram)
  (send : Endpoint → Bytes → Except SocketError Unit)

theorem reply_takeDatagram :
    (r.takeDatagram clock d send).reply =
      if IsRequest d.payload then some (target d, echo d.payload (r.now clock))
      else none := by
  rw [takeDatagram, handle_eq]
  by_cases h : IsRequest d.payload
  · simp [h, take_of_isRequest h]
  · simp [h, isRequest_take]

theorem clock_takeDatagram :
    (r.takeDatagram clock d send).clock =
      if IsRequest d.payload then clock.advance else clock := by
  rw [takeDatagram, handle_eq]
  simp [isRequest_take]

/-- A datagram changes nothing of a reflector but its counters and its last
error. -/
theorem reflector_takeDatagram :
    (r.takeDatagram clock d send).reflector =
      { r with
        counters := (r.takeDatagram clock d send).reflector.counters
        lastError := (r.takeDatagram clock d send).reflector.lastError } :=
  r.reflector_handle clock send _

/-- How sending ends matters only for the reply that is sent, if there is
one. -/
theorem takeDatagram_congr
    {send send' : Endpoint → Bytes → Except SocketError Unit}
    (h : IsRequest d.payload → send (target d) (echo d.payload (r.now clock)) =
      send' (target d) (echo d.payload (r.now clock))) :
    r.takeDatagram clock d send = r.takeDatagram clock d send' := by
  rw [takeDatagram, takeDatagram]
  -- what is no request is dropped before anything is sent
  by_cases hrequest : IsRequest d.payload
  · rw [take_of_isRequest hrequest, handle_of_isRequest r clock send hrequest,
      handle_of_isRequest r clock send' hrequest]
    simp only [h hrequest]
  · obtain ⟨what, hdefect⟩ := Option.ne_none_iff_exists'.mp
      (mt (defect?_eq_none_iff.trans isRequest_take).mp hrequest)
    have hprefix :
        defect? ({ d with payload := d.payload.take receiveLimit } :
          Datagram).payload =
        some what := hdefect
    rw [handle_of_defect? r clock send hprefix,
      handle_of_defect? r clock send' hprefix]

variable {r clock d send}

theorem reply_eq_some {receiver : Endpoint} {reply : Bytes}
    (h : (r.takeDatagram clock d send).reply = some (receiver, reply)) :
    IsRequest d.payload ∧ reply = echo d.payload (r.now clock) := by
  rw [reply_takeDatagram] at h
  split at h
  · next hrequest => exact ⟨hrequest, (Prod.mk.inj (Option.some.inj h)).2.symm⟩
  · cases h

/-- What one reflector sent, another drops as a reply, whatever its state is. -/
theorem takeDatagram_of_reply {receiver : Endpoint} {reply : Bytes}
    (h : (r.takeDatagram clock d send).reply = some (receiver, reply))
    (other : Reflector) (clock' : Readings) (sender : SocketAddress)
    (send' : Endpoint → Bytes → Except SocketError Unit) :
    other.takeDatagram clock' ⟨sender, reply⟩ send' =
      ⟨{ other with
          counters :=
            { other.counters with replies := other.counters.replies + 1 }
          lastError := some (.malformed .direction) },
        clock', none,
          report other.options.sink (.error (.malformed .direction))⟩ := by
  obtain ⟨hrequest, rfl⟩ := reply_eq_some h
  have hwhole : (echo d.payload (r.now clock)).take receiveLimit =
      echo d.payload (r.now clock) :=
    List.take_of_length_le (by rw [Packet.length_echo hrequest.1.1]; decide)
  rw [takeDatagram]
  dsimp only
  rw [hwhole, handle_of_defect? other clock' send' (defect?_echo hrequest.1 _)]
  rfl

end Datagrams

namespace Session

/-! ## One exchange -/

/-- Where nothing is scripted, the oldest datagram in the queue is handled as a
whole. -/
theorem handleOne_of_queue {s : Session} (own : Socket) {d : Datagram}
    {rest : List Datagram} (hscript : s.system.script = [])
    (hhandle : s.socket.handle = some own.handle)
    (hfind : s.system.host.find? own.handle = some own)
    (hpending : own.pending = none) (hqueue : own.queue = d :: rest) :
    let system :=
      { s.system with host := s.system.host.put { own with queue := rest } }
    let handled := s.reflector.takeDatagram s.clock d
      fun target reply => (s.socket.sendTo system target reply).1
    let (socket, system) := match handled.reply with
      | some (target, reply) => (s.socket.sendTo system target reply).2
      | none => (s.socket, system)
    s.handleOne =
      some
        ({ s with
          reflector := handled.reflector
          clock := handled.clock
          socket
          system },
        handled.log) := by
  have hreceive : s.socket.receive s.system receiveLimit [] =
      some (.ok { d with payload := d.payload.take receiveLimit }, s.socket,
        { s.system with
          host := s.system.host.put { own with queue := rest } }) := by
    rw [DatagramSocket.receive, hhandle]
    dsimp only
    rw [System.receive, System.call_of_no_script hscript,
      Host.receive_of_queue hfind hpending hqueue]
    rfl
  rw [handleOne, hreceive]
  rfl

section Exchange

variable {s served : Session} {payload : Bytes} {log : Log} {host : Host}

theorem exchange_of_reply {d : Datagram}
    (hserve : serve (s.sent payload).passes (s.sent payload) = (served, log))
    (hreceive : served.system.host.receive served.requester packetSize =
      (some (.ok d), host)) :
    s.exchange payload =
      (some d.payload, { served with system.host := host }, log) := by
  rw [exchange_of_serve hserve, hreceive]
  rfl

theorem exchange_of_silence
    (hserve : serve (s.sent payload).passes (s.sent payload) = (served, log))
    (hreceive : served.system.host.receive served.requester packetSize =
      (none, host)) :
    s.exchange payload = (none, { served with system.host := host }, log) := by
  rw [exchange_of_serve hserve, hreceive]
  rfl

end Exchange

/-- The reflector serves on one socket and the other side has another, no call
is scripted, and there is nothing between the two. -/
structure Connected (s : Session) (own peer : Socket) : Prop where
  serving : s.reflector.serving = true
  script : s.system.script = []
  handle : s.socket.handle = some own.handle
  requester : s.requester = peer.handle
  linked : s.system.host.Linked own peer

/-- The session with a datagram of the other side in the queue of the
reflector. -/
def queued (s : Session) (own peer : Socket) (payload : Bytes) : Session :=
  { s with system.host := s.system.host.sent peer own payload }

/-- What is done about a datagram of the other side, the reply to which can be
sent. -/
def handled (s : Session) (peer : Socket) (payload : Bytes) : Handled :=
  s.reflector.takeDatagram s.clock ⟨peer.address, payload⟩ fun _ _ => .ok ()

/-- The session after a datagram was handled. -/
def settled (s : Session) (handled : Handled) : Session :=
  { s with reflector := handled.reflector, clock := handled.clock }

/-- The session with the reply, if there is one, in the queue of the other
side. -/
def replied (s : Session) (own peer : Socket) (handled : Handled) : Session :=
  { s.settled handled with
    system.host := handled.reply.elim s.system.host fun (_, reply) =>
      s.system.host.sent own peer reply }

namespace Connected

variable {s : Session} {own peer : Socket}

theorem waitReadable_queued (h : s.Connected own peer) (payload : Bytes) :
    s.socket.waitReadable (s.queued own peer payload).system =
      (.ok true, s.socket, (s.queued own peer payload).system) := by
  have hscript : (s.queued own peer payload).system.script = [] := h.script
  have hevents : (s.queued own peer payload).system.host.events own.handle =
      Host.readable :=
    h.linked.symm.events_sent payload
  rw [DatagramSocket.waitReadable, h.handle]
  dsimp only
  rw [System.poll, System.call_of_no_script hscript, hevents]
  rfl

/-- The reply to a request of the other side lies in its queue. -/
theorem sendTo (h : s.Connected own peer) {payload : Bytes}
    (hrequest : IsRequest payload) :
    let reply := echo payload (s.reflector.now s.clock)
    s.socket.sendTo s.system (target ⟨peer.address, payload⟩) reply =
      (.ok (), s.socket,
        { s.system with host := s.system.host.sent own peer reply }) := by
  intro reply
  have hfit : ¬ Host.longestDatagram < reply.length := by
    rw [Packet.length_echo hrequest.1.1]
    decide
  rw [DatagramSocket.sendTo, h.handle, target,
    Endpoint.toSocketAddress?_ofSocketAddress]
  dsimp only
  rw [System.sendTo, System.call_of_no_script h.script, h.linked.sendTo,
    if_neg hfit, checkSent, if_pos rfl]
  rfl

theorem handleOne_queued (h : s.Connected own peer) (payload : Bytes) :
    (s.queued own peer payload).handleOne =
      some (s.replied own peer (s.handled peer payload),
        (s.handled peer payload).log) := by
  have hread :
      (s.system.host.sent peer own payload).put { own with queue := [] } =
      s.system.host := h.linked.symm.put_read _
  have hone := handleOne_of_queue (s := s.queued own peer payload)
    { own with queue := [⟨peer.address, payload⟩] } h.script h.handle
    (h.linked.symm.find_sent _) h.linked.idle_left.pending rfl
  have hhandled : s.reflector.takeDatagram s.clock ⟨peer.address, payload⟩
      (fun target reply => (s.socket.sendTo s.system target reply).1) =
        s.handled peer payload :=
    takeDatagram_congr _ _ _ fun hrequest => by rw [h.sendTo hrequest]
  have hreply : (s.handled peer payload).reply = if IsRequest payload then
      some (target ⟨peer.address, payload⟩,
        echo payload (s.reflector.now s.clock)) else none :=
    reply_takeDatagram _ _ _ _
  simp only [queued, hread, hhandled] at hone ⊢
  rw [hone, replied, settled, hreply]
  by_cases hrequest : IsRequest payload
  · simp [hrequest, h.sendTo hrequest]
  · simp [hrequest]

theorem serve_queued (h : s.Connected own peer) (payload : Bytes) :
    serve (passes (s.queued own peer payload)) (s.queued own peer payload) =
      (s.replied own peer (s.handled peer payload),
        (s.handled peer payload).log) := by
  have hpasses : (s.queued own peer payload).passes = 1 := by
    have hfind := h.linked.symm.find_sent payload
    simp [passes, queued, h.script, h.handle, hfind]
  have hwait : (s.queued own peer payload).socket.waitReadable
      (s.queued own peer payload).system =
        (.ok true, s.socket, (s.queued own peer payload).system) :=
    h.waitReadable_queued payload
  have hone : ({ s.queued own peer payload with
      socket := s.socket, system := (s.queued own peer payload).system } :
        Session).handleOne =
        _ := h.handleOne_queued payload
  rw [hpasses]
  simp only [serve, hwait, hone, List.append_nil]

theorem sent_eq (h : s.Connected own peer) (payload : Bytes) :
    s.sent payload =
      if Host.longestDatagram < payload.length then s
      else s.queued own peer payload := by
  have hport : (s.socket.handle.map s.system.host.localPort).getD 0 =
      own.port.getD 0 := by
    rw [h.handle, Option.map_some, h.linked.localPort, Option.getD_some]
  have hsend := h.linked.symm.sendTo payload
  rw [← h.requester, Socket.address] at hsend
  simp only [sent, hport, hsend, queued]
  split <;> rfl

/-- An exchange is the handling of the datagram that is sent, unless that is too
long to be sent at all. -/
theorem exchange_eq (h : s.Connected own peer) (payload : Bytes) :
    s.exchange payload =
      if Host.longestDatagram < payload.length then (none, s, [])
      else
        let handled := s.handled peer payload
        (handled.reply.map Prod.snd, s.settled handled, handled.log) := by
  by_cases hlong : Host.longestDatagram < payload.length
  · -- nothing lies in the queue, so the loop has nothing to do
    have hserve : serve (s.sent payload).passes (s.sent payload) = (s, []) := by
      rw [h.sent_eq, if_pos hlong]
      have hpasses : s.passes = 0 := by
        simp [passes, h.script, h.handle, h.linked.find_left,
          h.linked.idle_left.queue]
      rw [hpasses, serve]
    have hreceive : s.system.host.receive s.requester packetSize =
        (none, s.system.host) := by
      rw [h.requester, h.linked.receive_nothing]
    rw [if_pos hlong]
    exact exchange_of_silence hserve hreceive
  · have hserve : serve (s.sent payload).passes (s.sent payload) =
        (s.replied own peer (s.handled peer payload),
          (s.handled peer payload).log) := by
      rw [h.sent_eq, if_neg hlong, h.serve_queued]
    have hreply : (s.handled peer payload).reply = _ :=
      reply_takeDatagram _ _ _ _
    rw [if_neg hlong]
    by_cases hrequest : IsRequest payload
    · rw [if_pos hrequest] at hreply
      have hreceive :
          (s.replied own peer (s.handled peer payload)).system.host.receive
          (s.replied own peer (s.handled peer payload)).requester packetSize =
            (some (.ok ⟨own.address, echo payload (s.reflector.now s.clock)⟩),
              s.system.host) := by
        have hwhole : (echo payload (s.reflector.now s.clock)).take packetSize =
            echo payload (s.reflector.now s.clock) :=
          List.take_of_length_le
            (Nat.le_of_eq (Packet.length_echo hrequest.1.1 _))
        have hlinked :=
          h.linked.receive (echo payload (s.reflector.now s.clock)) packetSize
        rw [← h.requester, hwhole] at hlinked
        rw [replied, hreply]
        exact hlinked
      rw [exchange_of_reply hserve hreceive]
      dsimp only
      rw [hreply]
      rfl
    · rw [if_neg hrequest] at hreply
      have hreceive :
          (s.replied own peer (s.handled peer payload)).system.host.receive
          (s.replied own peer (s.handled peer payload)).requester packetSize =
            (none, s.system.host) := by
        have hlinked := h.linked.receive_nothing packetSize
        rw [← h.requester] at hlinked
        rw [replied, hreply]
        exact hlinked
      rw [exchange_of_silence hserve hreceive]
      dsimp only
      rw [hreply]
      rfl

/-- What comes back is the reply to a request. Anything too long to be sent is
none. -/
theorem reply_exchange (h : s.Connected own peer) (payload : Bytes) :
    (s.exchange payload).1 =
      if IsRequest payload then some (echo payload (s.reflector.now s.clock))
      else none := by
  rw [h.exchange_eq]
  by_cases hlong : Host.longestDatagram < payload.length
  · have hrequest : ¬ IsRequest payload :=
      fun hrequest => not_long_of_isRequest hrequest hlong
    simp [hlong, hrequest]
  · simp only [hlong, if_false, handled, reply_takeDatagram]
    split <;> rfl

/-- What comes from a reflector is dropped as a reply, and nothing comes
back. -/
theorem exchange_of_reply (h : s.Connected own peer) {r : Reflector}
    {clock : Readings} {d : Datagram}
    {send : Endpoint → Bytes → Except SocketError Unit} {receiver : Endpoint}
    {reply : Bytes}
    (hreply : (r.takeDatagram clock d send).reply = some (receiver, reply)) :
    (s.exchange reply).1 = none ∧
      (s.exchange reply).2.1.reflector.counters =
        { s.reflector.counters with
          replies := s.reflector.counters.replies + 1 } := by
  have hshort : ¬ Host.longestDatagram < reply.length := by
    obtain ⟨hrequest, rfl⟩ := reply_eq_some hreply
    rw [Packet.length_echo hrequest.1.1]
    decide
  rw [h.exchange_eq, if_neg hshort, handled, takeDatagram_of_reply hreply]
  exact ⟨rfl, rfl⟩

theorem clock_exchange (h : s.Connected own peer) (payload : Bytes) :
    (s.exchange payload).2.1.clock =
      if IsRequest payload then s.clock.advance else s.clock := by
  rw [h.exchange_eq]
  by_cases hlong : Host.longestDatagram < payload.length
  · have hrequest : ¬ IsRequest payload :=
      fun hrequest => not_long_of_isRequest hrequest hlong
    simp [hlong, hrequest]
  · simp only [hlong, if_false, handled, settled, clock_takeDatagram]

theorem exchange (h : s.Connected own peer) (payload : Bytes) :
    (s.exchange payload).2.1.Connected own peer := by
  rw [h.exchange_eq]
  split
  · exact h
  · have hreflector :=
      s.reflector.reflector_takeDatagram s.clock ⟨peer.address, payload⟩
      fun _ _ => .ok ()
    exact ⟨(congrArg Reflector.serving hreflector).trans h.serving,
      h.script, h.handle, h.requester,
      h.linked⟩

/-- The reflector goes on reading the same clock. -/
theorem source_exchange (h : s.Connected own peer) (payload : Bytes) :
    (s.exchange payload).2.1.reflector.clock = s.reflector.clock := by
  rw [h.exchange_eq]
  split
  · rfl
  · have hreflector :=
      s.reflector.reflector_takeDatagram s.clock ⟨peer.address, payload⟩
      fun _ _ => .ok ()
    show (s.handled peer payload).reflector.clock = _
    rw [handled, hreflector]

end Connected

/-! ## Any number of exchanges -/

/-- What comes back for datagrams that are sent one after the other, and the
session after them. -/
def exchanges (s : Session) : List Bytes → List (Option Bytes) × Session
  | [] => ([], s)
  | payload :: payloads =>
    let (reply, s, _) := s.exchange payload
    let (replies, s) := exchanges s payloads
    (reply :: replies, s)

theorem exchanges_cons (s : Session) (payload : Bytes) (payloads : List Bytes) :
    s.exchanges (payload :: payloads) =
      ((s.exchange payload).1 ::
        ((s.exchange payload).2.1.exchanges payloads).1,
        ((s.exchange payload).2.1.exchanges payloads).2) := rfl

namespace Connected

variable {s : Session} {own peer : Socket}

theorem isSome_exchanges (h : s.Connected own peer) (payloads : List Bytes) :
    (s.exchanges payloads).1.map Option.isSome =
      payloads.map fun payload => decide (IsRequest payload) := by
  induction payloads generalizing s with
  | nil => rfl
  | cons payload payloads ih =>
    rw [exchanges_cons, List.map_cons, List.map_cons, ih (h.exchange payload),
      h.reply_exchange]
    by_cases hrequest : IsRequest payload <;> simp [hrequest]

/-- The requests among the datagrams are answered in turn, the `i`-th at the
`i`-th reading. -/
theorem reduceOption_exchanges (h : s.Connected own peer)
    (payloads : List Bytes) :
    (s.exchanges payloads).1.reduceOption =
      (payloads.filter (IsRequest ·)).mapIdx fun i payload =>
        echo payload (s.reflector.clock.timeAt (s.clock.nth i)) := by
  induction payloads generalizing s with
  | nil => rfl
  | cons payload payloads ih =>
    -- later requests count their readings from the clock that this exchange
    -- leaves
    have hlater := ih (h.exchange payload)
    rw [h.source_exchange, h.clock_exchange] at hlater
    rw [exchanges_cons, h.reply_exchange]
    by_cases hrequest : IsRequest payload
    · rw [if_pos hrequest] at hlater
      rw [if_pos hrequest, List.filter_cons_of_pos (by simpa using hrequest),
        List.mapIdx_cons]
      simp only [List.reduceOption_cons_of_some, hlater]
      rfl
    · rw [if_neg hrequest] at hlater
      rw [if_neg hrequest, List.filter_cons_of_neg (by simpa using hrequest)]
      simp only [List.reduceOption_cons_of_none, hlater]

theorem taken_exchanges (h : s.Connected own peer) (payloads : List Bytes) :
    (s.exchanges payloads).2.clock.taken =
      s.clock.taken + payloads.countP (IsRequest ·) := by
  induction payloads generalizing s with
  | nil => rfl
  | cons payload payloads ih =>
    rw [exchanges_cons, ih (h.exchange payload), h.clock_exchange]
    by_cases hrequest : IsRequest payload
    · simp [hrequest]
      omega
    · simp [hrequest]

/-- No more bytes come back than are sent. -/
theorem length_exchanges (h : s.Connected own peer) (payloads : List Bytes) :
    (s.exchanges payloads).1.reduceOption.flatten.length ≤
      payloads.flatten.length := by
  induction payloads generalizing s with
  | nil => exact Nat.le_refl _
  | cons payload payloads ih =>
    have hlater := ih (h.exchange payload)
    rw [exchanges_cons, h.reply_exchange]
    by_cases hrequest : IsRequest payload
    · have hlength : (echo payload (s.reflector.now s.clock)).length =
          payload.length :=
        (Packet.length_echo hrequest.1.1 _).trans hrequest.1.1.symm
      simp only [if_pos hrequest, List.reduceOption_cons_of_some,
        List.flatten_cons, List.length_append, hlength]
      omega
    · simp only [if_neg hrequest, List.reduceOption_cons_of_none,
        List.flatten_cons, List.length_append]
      omega

end Connected

/-- A request is answered with its own bytes, marked and stamped with the next
reading, and nothing else is answered or takes a reading; so the requests among
any datagrams are answered in turn, and no more bytes come back than are sent.
What a reflector sent no reflector answers: it counts one reply that was
dropped. -/
theorem answers_requests :
    (∀ (r : Reflector) (clock : Readings) (d : Datagram)
        (send : Endpoint → Bytes → Except SocketError Unit),
      (r.takeDatagram clock d send).reply =
        (if IsRequest d.payload then
          some (target d, echo d.payload (r.now clock)) else none) ∧
      (r.takeDatagram clock d send).clock =
        if IsRequest d.payload then clock.advance else clock) ∧
    (∀ (s : Session) (own : Socket) (d : Datagram) (rest : List Datagram),
      s.system.script = [] → s.socket.handle = some own.handle →
      s.system.host.find? own.handle = some own → own.pending = none →
      own.queue = d :: rest →
      ∃ send after log, s.handleOne = some (after, log) ∧
        after.reflector = (s.reflector.takeDatagram s.clock d send).reflector ∧
        after.clock = (s.reflector.takeDatagram s.clock d send).clock ∧
        log = (s.reflector.takeDatagram s.clock d send).log) ∧
    (∀ (s : Session) (own peer : Socket), s.Connected own peer →
      ∀ payloads : List Bytes,
      (s.exchanges payloads).1.map Option.isSome =
        (payloads.map fun payload => decide (IsRequest payload)) ∧
      (s.exchanges payloads).1.reduceOption =
        ((payloads.filter (IsRequest ·)).mapIdx fun i payload =>
          echo payload (s.reflector.clock.timeAt (s.clock.nth i))) ∧
      (s.exchanges payloads).2.clock.taken =
        s.clock.taken + payloads.countP (IsRequest ·) ∧
      (s.exchanges payloads).1.reduceOption.flatten.length ≤
        payloads.flatten.length) ∧
    ∀ (r : Reflector) (clock : Readings) (d : Datagram)
        (send : Endpoint → Bytes → Except SocketError Unit)
        (receiver : Endpoint) (reply : Bytes),
      (r.takeDatagram clock d send).reply = some (receiver, reply) →
      (∀ (other : Reflector) (clock : Readings) (sender : SocketAddress)
          (send : Endpoint → Bytes → Except SocketError Unit),
        (other.takeDatagram clock ⟨sender, reply⟩ send).reply = none ∧
        (other.takeDatagram clock ⟨sender, reply⟩ send).clock = clock ∧
        (other.takeDatagram clock ⟨sender, reply⟩ send).reflector.counters =
          { other.counters with replies := other.counters.replies + 1 }) ∧
      ∀ (s : Session) (own peer : Socket), s.Connected own peer →
        (s.exchange reply).1 = none ∧
        (s.exchange reply).2.1.reflector.counters =
          { s.reflector.counters with
            replies := s.reflector.counters.replies + 1 } := by
  refine ⟨?_, ?_, ?_, ?_⟩
  · intro r clock d send
    exact ⟨reply_takeDatagram r clock d send, clock_takeDatagram r clock d send⟩
  · intro s own d rest hscript hhandle hfind hpending hqueue
    exact ⟨_, _, _,
      handleOne_of_queue own hscript hhandle hfind hpending hqueue,
        rfl, rfl, rfl⟩
  · intro s own peer h payloads
    exact ⟨h.isSome_exchanges payloads, h.reduceOption_exchanges payloads,
      h.taken_exchanges payloads, h.length_exchanges payloads⟩
  · intro r clock d send receiver reply hreply
    refine ⟨?_, ?_⟩
    · intro other clock' sender send'
      rw [takeDatagram_of_reply hreply]
      exact ⟨rfl, rfl, rfl⟩
    · intro s own peer h
      exact h.exchange_of_reply hreply

/-- Two requests among other datagrams, the second of them with all it can
carry: each is answered with its reading, and the first reply is dropped when it
comes back. -/
theorem answers_requests_among_others :
    let s := { ((new { loopbackUp := true }).start (.given 0) {} 0).2.1 with
      clock := { next := 7, later := [-1] } }
    let own : Socket := { handle := 4, port := some 32769 }
    let peer : Socket := { handle := 3, port := some 32768 }
    let plain := (Packet.request 5).serialize
    let full : Bytes := [0x64, 0x72, 0x66, 0x74] ++ List.replicate 28 254
    s.Connected own peer ∧
      (s.exchanges [plain, plain ++ [0], full, echo plain 7]).1.reduceOption =
        [echo plain 7, echo full (-1)] ∧
      (s.exchange (echo plain 7)).1 = none := by
  intro s own peer plain full
  have hlinked : s.system.host.Linked own peer :=
    ⟨by decide +kernel, by decide +kernel, by decide +kernel, by decide +kernel,
      ⟨by decide, rfl, rfl, rfl⟩, ⟨by decide, rfl, rfl, rfl⟩, by decide +kernel,
      by decide +kernel⟩
  have h : s.Connected own peer :=
    ⟨by decide +kernel, by decide +kernel, by decide +kernel,
      by decide +kernel, hlinked⟩
  obtain ⟨_, _, hexchanges, hreplies⟩ := answers_requests
  obtain ⟨_, hanswers, _, _⟩ :=
    hexchanges s own peer h [plain, plain ++ [0], full, echo plain 7]
  have hreply :
      (s.reflector.takeDatagram s.clock ⟨peer.address, plain⟩ fun _ _ =>
        .ok ()).reply =
      some (target ⟨peer.address, plain⟩, echo plain 7) := by decide +kernel
  refine ⟨h, hanswers.trans (by decide +kernel), ?_⟩
  exact ((hreplies _ _ _ _ _ _ hreply).2 s own peer h).1

end Session

end ClockSync.Reflector
