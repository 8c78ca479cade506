import ClockSync.Reflector.Basic
import ClockSync.Proofs.Packets

/-!
# What a reflector does with a datagram

A reflector answers a datagram exactly if it is a packet that is not marked as a
reply (`IsRequest`), and the answer is the datagram itself with a mark and a
time put in (`echo`). Only a prefix of the datagram is received, but one that is
long enough to tell (`isRequest_take`).

All that is done about a receive is said in `handle_eq`, by its `fate`. As the
answer is marked, it is no request itself and would be dropped as a reply
(`defect?_echo`).
-/

namespace ClockSync

open Net Wire

namespace Wire

/-! ## The bytes of a reply -/

/-- To set the lowest bit of a number is to set that of its first byte. -/
theorem LittleEndian.write_or_one (k n : Nat) :
    write (k + 1) (n ||| 1) = (UInt8.ofNat n ||| 1) :: write k (n / 256) := by
  have hlow : UInt8.ofNat (n ||| 1) = UInt8.ofNat n ||| 1 := by
    apply UInt8.toNat_inj.mp
    simp
  have hhigh : (n ||| 1) / 256 = n / 256 := by
    have hor := Nat.or_div_two_pow (a := n) (b := 1) (n := 8)
    simpa using hor
  rw [write, hlow, hhigh]

/-- The reply to a packet at a time: the bytes of the packet up to the
requester's stamp, with the lowest bit of the fifth set, then the time and eight
zeros. -/
def echo (payload : Bytes) (now : Int64) : Bytes :=
  payload.take 4 ++ [payload.getD 4 0 ||| 1] ++ (payload.drop 5).take 11 ++
    LittleEndian.write 8 now.toUInt64.toNat ++ List.replicate 8 0

namespace Packet

/-- The flags of a reply are those of the request, with the lowest bit of their
first byte set. -/
theorem write_flags_or_replyFlag {bytes : Bytes}
    (h : bytes.length = packetSize) :
    LittleEndian.write 4 (word32 bytes 4 ||| replyFlag).toNat =
      (bytes.getD 4 0 ||| 1) :: (bytes.drop 5).take 3 := by
  have hlong : 4 < bytes.length := by
    rw [h]
    decide
  have hwrite : LittleEndian.write 4 (word32 bytes 4).toNat =
      (bytes.drop 4).take 4 :=
    write_word32 (by rw [h]; decide)
  rw [List.drop_eq_getElem_cons hlong, List.take_succ_cons,
    LittleEndian.write] at hwrite
  obtain ⟨hfirst, hrest⟩ := List.cons.inj hwrite
  have hbyte : bytes.getD 4 0 = bytes[4] := by simp [hlong]
  rw [UInt32.toNat_or, show replyFlag.toNat = 1 from rfl,
    LittleEndian.write_or_one, hfirst, hrest, hbyte]

theorem serialize_reply {bytes : Bytes} (h : bytes.length = packetSize)
    (now : Int64) :
    ((ofBytes bytes).reply now).serialize = echo bytes now := by
  have hmagic : LittleEndian.write 4 (word32 bytes 0).toNat =
      (bytes.drop 0).take 4 :=
    write_word32 (by rw [h]; decide)
  have hstamp : LittleEndian.write 8 (word64 bytes 8).toNat =
      (bytes.drop 8).take 8 :=
    write_word64 (by rw [h]; decide)
  have hmiddle : (bytes.drop 5).take 11 =
      (bytes.drop 5).take 3 ++ (bytes.drop 8).take 8 := by
    rw [show 11 = 3 + 8 from rfl, List.take_add, List.drop_drop]
  have hzeros : LittleEndian.write 8 (0 : UInt64).toNat =
      List.replicate 8 0 := rfl
  rw [serialize, reply, ofBytes, hmagic, write_flags_or_replyFlag h, hstamp,
    hzeros, echo, hmiddle, List.drop_zero]
  simp

theorem length_echo {bytes : Bytes} (h : bytes.length = packetSize)
    (now : Int64) :
    (echo bytes now).length = packetSize := by
  rw [← serialize_reply h, length_serialize]

end Packet

end Wire

namespace Reflector

/-! ## Requests -/

/-- The datagram is a packet that is not marked as a reply. -/
def IsRequest (payload : Bytes) : Prop := IsPacket payload ∧ ¬ IsMarked payload

instance : DecidablePred IsRequest := fun payload =>
  inferInstanceAs (Decidable (IsPacket payload ∧ ¬ IsMarked payload))

/-- What a datagram that was received is dropped for, if it is. -/
def defect? (payload : Bytes) : Option Malformed :=
  if payload.length ≠ packetSize then some (.size payload.length)
  else if ¬ IsPacket payload then some .signature
  else if IsMarked payload then some .direction
  else none

theorem defect?_eq_none_iff {payload : Bytes} :
    defect? payload = none ↔ IsRequest payload := by
  by_cases hpacket : IsPacket payload
  · have hsize : payload.length = packetSize := hpacket.1
    simp [defect?, IsRequest, hsize, hpacket]
  · by_cases hsize : payload.length = packetSize
    · simp [defect?, IsRequest, hsize, hpacket]
    · simp [defect?, IsRequest, hsize, hpacket]

theorem defect?_of_isRequest {payload : Bytes} (h : IsRequest payload) :
    defect? payload = none :=
  defect?_eq_none_iff.mpr h

theorem decodeRequest_eq (payload : Bytes) :
    Packet.decodeRequest payload =
      match defect? payload with
      | none => .ok (Packet.ofBytes payload)
      | some what => .error what := by
  rw [defect?, Packet.decodeRequest, Packet.parse_eq]
  by_cases hpacket : IsPacket payload
  · have hsize : payload.length = packetSize := hpacket.1
    have hreply := Packet.isReply_ofBytes hsize
    rw [if_pos hpacket, if_neg (not_not_intro hsize),
      if_neg (not_not_intro hpacket)]
    show (if (Packet.ofBytes payload).isReply = true then _ else _) = _
    by_cases hmarked : IsMarked payload
    · rw [if_pos hmarked, if_pos (hreply.mpr hmarked)]
    · rw [if_neg hmarked, if_neg (mt hreply.mp hmarked)]
  · rw [if_neg hpacket, if_pos hpacket]
    by_cases hsize : payload.length = packetSize
    · rw [if_pos hsize, if_neg (not_not_intro hsize)]
      rfl
    · rw [if_neg hsize, if_pos hsize]
      rfl

/-- The prefix that is received is a request exactly if the datagram is: it is
the whole of a packet, and of what is longer than a packet it is longer than a
packet, too. -/
theorem isRequest_take {payload : Bytes} :
    IsRequest (payload.take receiveLimit) ↔ IsRequest payload := by
  by_cases hlong : receiveLimit < payload.length
  · have hlimit : receiveLimit = packetSize + 1 := rfl
    have hsize : packetSize = 32 := rfl
    refine iff_of_false (fun h => ?_) (fun h => ?_)
    · have hlength := h.1.1
      rw [List.length_take] at hlength
      omega
    · have hlength := h.1.1
      omega
  · rw [List.take_of_length_le (Nat.not_lt.mp hlong)]

theorem take_of_isRequest {payload : Bytes} (h : IsRequest payload) :
    payload.take receiveLimit = payload :=
  List.take_of_length_le (by rw [h.1.1]; decide)

/-! ## Replies are no requests -/

theorem isPacket_echo {payload : Bytes} (h : IsPacket payload) (now : Int64) :
    IsPacket (echo payload now) := by
  have hfront : (payload.take 4).length = 4 := by
    rw [List.length_take, h.1]
    rfl
  refine ⟨Packet.length_echo h.1 now, ?_⟩
  simp only [echo, List.append_assoc]
  rw [List.take_left' hfront, h.2]

theorem isMarked_echo {payload : Bytes} (h : IsPacket payload) (now : Int64) :
    IsMarked (echo payload now) := by
  have hfront : (payload.take 4).length = 4 := by
    rw [List.length_take, h.1]
    rfl
  have hbyte : (echo payload now).getD 4 0 = payload.getD 4 0 ||| 1 := by
    simp [echo, hfront]
  rw [IsMarked, hbyte]
  apply UInt8.toNat_inj.mp
  simp [Nat.and_one_is_mod]

/-- A reply is dropped as a reply. -/
theorem defect?_echo {payload : Bytes} (h : IsPacket payload) (now : Int64) :
    defect? (echo payload now) = some .direction := by
  have hsize : (echo payload now).length = packetSize :=
    Packet.length_echo h.1 now
  rw [defect?, if_neg (not_not_intro hsize),
    if_neg (not_not_intro (isPacket_echo h now)), if_pos (isMarked_echo h now)]

/-! ## One receive -/

/-- The time of the next reading. -/
def now (r : Reflector) (clock : Readings) : Int64 := r.clock.timeAt clock.next

/-- Where the reply to a datagram goes. -/
def target (d : Datagram) : Endpoint := .ofSocketAddress d.sender

/-- What becomes of a receive. -/
inductive Fate where
  /-- It failed. -/
  | failed (error : SocketError)
  /-- It gave a datagram that is no request. -/
  | dropped (what : Malformed)
  /-- It gave a request, and sending the reply ended so. -/
  | answered (sent : Except SocketError Unit)

/-- The fate of a receive, where a reply that is sent at the next reading ends
as `send` says. -/
def fate (r : Reflector) (clock : Readings)
    (send : Endpoint → Bytes → Except SocketError Unit) :
    Except SocketError Datagram → Fate
  | .error e => .failed e
  | .ok d =>
    match defect? d.payload with
    | some what => .dropped what
    | none => .answered (send (target d) (echo d.payload (r.now clock)))

/-- What went wrong, if anything did. -/
def Fate.error? : Fate → Option Error
  | failed e => some (.notReceived e)
  | dropped what => some (.malformed what)
  | answered (.ok ()) => none
  | answered (.error e) => some (.notSent e)

/-- The counters after a receive. A request counts twice, as received and by
what became of its reply; anything else counts once. -/
def Counters.note (c : Counters) : Fate → Counters
  | .failed _ => { c with receiveErrors := c.receiveErrors + 1 }
  | .dropped (.size _) => { c with incomplete := c.incomplete + 1 }
  | .dropped .signature => { c with mismatched := c.mismatched + 1 }
  | .dropped .direction => { c with replies := c.replies + 1 }
  | .answered (.ok ()) =>
    { c with received := c.received + 1, sent := c.sent + 1 }
  | .answered (.error _) =>
    { c with received := c.received + 1, sendErrors := c.sendErrors + 1 }

/-- The event that a request was answered, if there was one. -/
def processed? (r : Reflector) (clock : Readings) :
    Except SocketError Datagram → Option Event
  | .error _ => none
  | .ok d =>
    if IsRequest d.payload then
      some (.processed (target d) (Packet.ofBytes d.payload).requesterTime
        (r.now clock).toUInt64)
    else none

section Receives

variable (r : Reflector) (clock : Readings) {d : Datagram}
  (send : Endpoint → Bytes → Except SocketError Unit)

theorem handle_of_defect? {what : Malformed}
    (h : defect? d.payload = some what) :
    r.handle clock (.ok d) send =
      ⟨{ r with
          counters := r.counters.note (.dropped what)
          lastError := some (.malformed what) },
        clock, none, report r.options.sink (.error (.malformed what))⟩ := by
  have hdecode : Packet.decodeRequest d.payload = .error what := by
    rw [decodeRequest_eq, h]
  rw [handle, examine, hdecode]
  cases what <;> rfl

theorem handle_of_isRequest (h : IsRequest d.payload) :
    r.handle clock (.ok d) send =
      let reply := echo d.payload (r.now clock)
      let fate := Fate.answered (send (target d) reply)
      ⟨{ r with
          counters := r.counters.note fate
          lastError := fate.error?.or r.lastError },
        clock.advance, some (target d, reply),
        ((if r.options.verbose then (r.processed? clock (.ok d)).toList
          else []) ++
          fate.error?.toList.map Event.error).flatMap (report
            r.options.sink)⟩ := by
  have hdecode : Packet.decodeRequest d.payload =
      .ok (Packet.ofBytes d.payload) := by
    rw [decodeRequest_eq, defect?_of_isRequest h]
  have hread : r.clock.read clock = (r.now clock, clock.advance) := rfl
  have hreply : replyTo ⟨target d, Packet.ofBytes d.payload⟩ (r.now clock) =
      echo d.payload (r.now clock) := Packet.serialize_reply h.1.1 _
  rw [handle, examine, hdecode]
  dsimp only
  rw [hread, ← target]
  dsimp only
  rw [hreply, processed?, if_pos h]
  generalize send (target d) (echo d.payload (r.now clock)) = sent
  cases sent with
  | ok _ =>
    cases hverbose : r.options.verbose <;>
      simp [answer, hverbose, Fate.error?, Counters.note]
  | error e =>
    cases hverbose : r.options.verbose <;>
      simp [answer, fail, hverbose, Fate.error?, Counters.note]

/-- All that is done about one receive. -/
theorem handle_eq (received : Except SocketError Datagram) :
    r.handle clock received send =
      ⟨{ r with
          counters := r.counters.note (r.fate clock send received)
          lastError := (r.fate clock send received).error?.or r.lastError },
        match received with
          | .ok d => if IsRequest d.payload then clock.advance else clock
          | .error _ => clock,
        match received with
          | .ok d =>
            if IsRequest d.payload then
              some (target d, echo d.payload (r.now clock))
            else none
          | .error _ => none,
        ((if r.options.verbose then (r.processed? clock received).toList
          else []) ++
          (r.fate clock send received).error?.toList.map Event.error).flatMap
            (report r.options.sink)⟩ := by
  cases received with
  | error e =>
    simp [fate, processed?, Fate.error?, handle, examine, fail, Counters.note]
  | ok d =>
    cases hdefect : defect? d.payload with
    | none =>
      have hrequest : IsRequest d.payload := defect?_eq_none_iff.mp hdefect
      rw [handle_of_isRequest r clock send hrequest, fate, hdefect]
      simp only [hrequest, if_true]
    | some what =>
      have hrequest : ¬ IsRequest d.payload := by
        intro h
        rw [defect?_of_isRequest h] at hdefect
        cases hdefect
      rw [handle_of_defect? r clock send hdefect, fate, hdefect]
      simp [hrequest, processed?, Fate.error?]

/-- A receive changes nothing of a reflector but its counters and its last
error. -/
theorem reflector_handle (received : Except SocketError Datagram) :
    (r.handle clock received send).reflector =
      { r with
        counters := (r.handle clock received send).reflector.counters
        lastError := (r.handle clock received send).reflector.lastError } := by
  rw [handle_eq]

end Receives

end Reflector

end ClockSync
