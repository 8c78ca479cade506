import ClockSync.Net.Host
import Mathlib.Data.List.Nodup

/-!
# Datagrams between two sockets of a host

Sockets are looked up by their descriptors, and put back under them: a socket
that was put back is found again (`find?_put_self`), and if no two sockets have
one descriptor, putting back what was there changes nothing (`put_of_find?`).

`Linked` are two sockets with nothing on the way between them, each of which
gets what the other sends to its address. A datagram that one of them sends and
the other receives leaves the host as it was (`Linked.sendTo`,
`Linked.receive`).
-/

namespace ClockSync.Net

/-- The address that a socket sends from. -/
def Socket.address (s : Socket) : SocketAddress := ⟨.loopback, s.port.getD 0⟩

/-- The socket has a port, no error to tell and nothing to read. -/
structure Socket.Idle (s : Socket) : Prop where
  port : s.port.getD 0 ≠ 0
  pending : s.pending = none
  isShut : s.isShut = false
  queue : s.queue = []

/-- The socket once it has told its error. -/
def Socket.told (s : Socket) : Socket := { s with pending := none }

theorem Socket.pending_told (s : Socket) : s.told.pending = none := rfl

namespace Host

/-! ## Looking up and putting back -/

section Sockets

variable {host : Host} {s s' : Socket} {h : Handle}

theorem handle_of_find? (hfind : host.find? h = some s) : s.handle = h := by
  have hfound := List.find?_some hfind
  simpa using hfound

theorem find?_put (host : Host) (s' : Socket) (h : Handle) :
    (host.put s').find? h =
      (host.find? h).map fun old =>
        if old.handle = s'.handle then s' else old := by
  have hsame : (fun old : Socket => old.handle == h) ∘
      (fun old => if old.handle = s'.handle then s' else old) = fun old =>
        old.handle == h := by
    funext old
    simp only [Function.comp_apply]
    split
    · next heq => rw [heq]
    · rfl
  rw [find?, put, List.find?_map, hsame, ← find?]

theorem find?_put_self (hfind : host.find? h = some s) (hs : s'.handle = h) :
    (host.put s').find? h = some s' := by
  rw [find?_put, hfind, Option.map_some,
    if_pos (by rw [handle_of_find? hfind, hs])]

theorem put_put (host : Host) (hs : s'.handle = s.handle) :
    (host.put s).put s' = host.put s' := by
  simp only [put, List.map_map]
  congr 1
  apply List.map_congr_left
  intro old _
  simp only [Function.comp_apply, hs]
  split <;> simp_all

/-- A socket that has told its error has none to tell when its queue changes. -/
theorem put_told (host : Host) (s : Socket) (queue : List Datagram) :
    (host.put s.told).put { s.told.told with queue } =
      host.put { s.told with queue } :=
  put_put host rfl

theorem put_of_find? (hunique : (host.sockets.map (·.handle)).Nodup)
    (hfind : host.find? h = some s) : host.put s = host := by
  have hmem : s ∈ host.sockets := List.mem_of_find?_eq_some hfind
  have hsame :
      host.sockets.map (fun old => if old.handle = s.handle then s else old) =
      host.sockets := by
    rw [List.map_congr_left (g := id), List.map_id]
    -- no other socket has the descriptor of the one that is put back
    intro old hold
    split
    · next heq => exact (List.inj_on_of_nodup_map hunique hold hmem heq).symm
    · rfl
  rw [put, hsame]

end Sockets

/-! ## Reading what is queued -/

section Queues

variable {host : Host} {s : Socket} {h : Handle}

theorem receive_of_queue {d : Datagram} {rest : List Datagram}
    (hfind : host.find? h = some s) (hpending : s.pending = none)
    (hqueue : s.queue = d :: rest) (max : Nat) :
    host.receive h max =
      (some (.ok { d with payload := d.payload.take max }),
        host.put { s with queue := rest }) := by
  simp [receive, hfind, hpending, hqueue]

theorem receive_of_empty (hfind : host.find? h = some s)
    (hpending : s.pending = none) (hshut : s.isShut = false)
    (hqueue : s.queue = []) (max : Nat) :
    host.receive h max = (none, host) := by
  simp [receive, hfind, hpending, hshut, hqueue]

theorem receive_of_pending {errno : Errno} (hfind : host.find? h = some s)
    (hpending : s.pending = some errno) (max : Nat) :
    host.receive h max = (some (.error errno), host.put s.told) := by
  simp [receive, hfind, hpending, Socket.told]

theorem events_of_queue (hfind : host.find? h = some s)
    (hpending : s.pending = none) (hshut : s.isShut = false)
    (hqueue : s.queue ≠ []) : host.events h = readable := by
  simp [events, hfind, hpending, hshut, hqueue]

end Queues

/-! ## Two sockets and nothing between them -/

/-- Two sockets of a host with nothing to read, each of which takes what the
other sends to its address. -/
structure Linked (host : Host) (s t : Socket) : Prop where
  up : host.loopbackUp = true
  unique : (host.sockets.map (·.handle)).Nodup
  find_left : host.find? s.handle = some s
  find_right : host.find? t.handle = some t
  idle_left : s.Idle
  idle_right : t.Idle
  to_left : host.sockets.find? (accepts · (s.port.getD 0) t.address) = some s
  to_right : host.sockets.find? (accepts · (t.port.getD 0) s.address) = some t

/-- The host after one socket has sent a datagram to another that had nothing to
read. -/
def sent (host : Host) (s t : Socket) (payload : List UInt8) : Host :=
  host.put { t with queue := [⟨s.address, payload⟩] }

namespace Linked

variable {host : Host} {s t : Socket}

theorem symm (h : host.Linked s t) : host.Linked t s :=
  ⟨h.up, h.unique, h.find_right, h.find_left, h.idle_right,
    h.idle_left, h.to_right, h.to_left⟩

theorem withPort (h : host.Linked s t) : host.withPort s = (s, host) := by
  obtain ⟨port, hport⟩ : ∃ port, s.port = some port := by
    refine Option.ne_none_iff_exists'.mp fun hnone => h.idle_left.port ?_
    rw [hnone]
    rfl
  rw [Host.withPort, hport]

theorem transmit (h : host.Linked s t) (payload : List UInt8) :
    host.transmit s t.address payload =
      if longestDatagram < payload.length then (.error .messageTooLong, host)
      else (.ok payload.length, host.sent s t payload) := by
  have hreceiver : host.sockets.find? (accepts · t.address.port s.address) =
      some t := h.to_right
  have hdeliver : host.deliver s t.address payload = host.sent s t payload := by
    simp only [deliver]
    rw [← Socket.address, hreceiver]
    dsimp only
    rw [h.idle_right.queue, List.nil_append, sent]
  rw [Host.transmit, h.idle_left.pending, h.idle_left.isShut, hdeliver]
  rfl

/-- A datagram that fits lies in the queue of the other socket, one that does
not is not sent at all. -/
theorem sendTo (h : host.Linked s t) (payload : List UInt8) :
    host.sendTo s.handle t.address payload =
      if longestDatagram < payload.length then (.error .messageTooLong, host)
      else (.ok payload.length, host.sent s t payload) := by
  have hport : ¬ t.address.port = 0 := h.idle_right.port
  have hroute : host.reaches t.address.ip = true := by
    show host.reaches .loopback = true
    rw [reaches, h.up]
    decide
  rw [Host.sendTo, h.find_left]
  dsimp only
  rw [h.withPort]
  dsimp only
  rw [if_neg hport, if_pos hroute, h.transmit]
  by_cases hlong : longestDatagram < payload.length
  · rw [if_pos hlong]
    exact ite_self _
  · have hmessage : ¬ longestMessage < payload.length := fun hlt =>
      hlong (Nat.lt_trans (by decide) hlt)
    rw [if_neg hmessage]

theorem find_sent (h : host.Linked s t) (payload : List UInt8) :
    (host.sent s t payload).find? t.handle =
      some { t with queue := [⟨s.address, payload⟩] } :=
  find?_put_self h.find_right rfl

/-- Once the datagram is read, the host is as it was. -/
theorem put_read (h : host.Linked s t) (payload : List UInt8) :
    (host.sent s t payload).put { t with queue := [] } = host := by
  have hsame : { t with queue := [] } = t := by rw [← h.idle_right.queue]
  calc (host.sent s t payload).put { t with queue := [] }
    _ = host.put { t with queue := [] } := put_put host rfl
    _ = host := by rw [hsame, put_of_find? h.unique h.find_right]

theorem receive (h : host.Linked s t) (payload : List UInt8) (max : Nat) :
    (host.sent s t payload).receive t.handle max =
      (some (.ok ⟨s.address, payload.take max⟩), host) := by
  rw [receive_of_queue (h.find_sent payload) h.idle_right.pending rfl,
    h.put_read]

theorem events_sent (h : host.Linked s t) (payload : List UInt8) :
    (host.sent s t payload).events t.handle = readable :=
  events_of_queue (h.find_sent payload) h.idle_right.pending
    h.idle_right.isShut (by simp)

theorem receive_nothing (h : host.Linked s t) (max : Nat) :
    host.receive t.handle max = (none, host) :=
  receive_of_empty h.find_right h.idle_right.pending h.idle_right.isShut
    h.idle_right.queue max

theorem localPort (h : host.Linked s t) :
    host.localPort s.handle = s.port.getD 0 := by
  rw [Host.localPort, h.find_left]
  rfl

end Linked

end Host

end ClockSync.Net
