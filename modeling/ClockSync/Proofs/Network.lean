import ClockSync.Proofs.Client.Datagrams
import ClockSync.Proofs.Client.LifeCycle
import ClockSync.Proofs.Client.Restarts
import ClockSync.Proofs.Reflector.Exchanges

/-!
# A client and a reflector

A request that is stamped `t` is no reply, is answered by every reflector, and
with the answer every client learns just `t` and the time at which it was
answered (`Understood`).

In a `Network` a client and a reflector send each other requests and replies.
Any of those that were ever sent may come to the other side at any time, any
number of times, or never. Whatever happens, what is under way is what they made
of their readings, and nothing of it is thrown away (`Network.Sound`).
-/

namespace ClockSync

open Net Wire

/-! ## A request and its reply -/

section Exchange

variable (t s : Int64)

theorem isRequest_request :
    Reflector.IsRequest (Packet.request t).serialize := by
  have hreply : (Packet.request t).isReply = false :=
    show ((0 : UInt32) &&& replyFlag != 0) = false by decide
  refine ⟨Packet.isPacket_serialize.mpr rfl, ?_⟩
  rw [← Packet.isReply_ofBytes (Packet.length_serialize _),
    Packet.ofBytes_serialize, hreply]
  exact Bool.false_ne_true

theorem carriesReply_reply :
    Client.CarriesReply ((Packet.request t).reply s).serialize := by
  have hreply : ((Packet.request t).reply s).isReply = true :=
    show ((0 ||| replyFlag) &&& replyFlag != 0) = true by decide
  refine ⟨Packet.isPacket_serialize.mpr rfl, ?_⟩
  rw [← Packet.isReply_ofBytes (Packet.length_serialize _),
    Packet.ofBytes_serialize, hreply]

theorem echo_request : echo (Packet.request t).serialize s =
    ((Packet.request t).reply s).serialize := by
  rw [← Packet.serialize_reply (Packet.length_serialize _),
    Packet.ofBytes_serialize]

/-- The exchange that a reply completes that comes in at a time. -/
def exchangeAt (receivedAt : Int64) : Exchange where
  sentAt := t.toUInt64
  remoteTime := s.toUInt64
  receivedAt

theorem exchangeOf_reply (c : Client) (clock : Readings) :
    c.exchangeOf clock ((Packet.request t).reply s).serialize =
      exchangeAt t s (c.reading clock 0) := by
  rw [Client.exchangeOf, Packet.ofBytes_serialize]
  rfl

theorem Stamp.signed_toUInt64 : Stamp.signed t.toUInt64 = t := by
  rw [Stamp.signed, Stamp.difference_eq, UInt64.sub_zero]
  rfl

/-- If the exchange is accepted, its readings are kept as they were taken. -/
theorem newest_of_accepted {α : Type} [Scalar α] {e : Estimator α}
    {receivedAt : Int64}
    (h : (e.ingest (exchangeAt t s receivedAt)).1 = .accepted) :
    (e.ingest (exchangeAt t s receivedAt)).2.samples.newest? = some ⟨t, s⟩ ∧
      (e.ingest (exchangeAt t s receivedAt)).2.offsets.newest? =
        some (Int64.ofInt (s.toInt - t.toInt)) := by
  rw [(Estimator.ingest_of_accepted h).2]
  constructor
  · show (e.samples.push (.ofExchange (exchangeAt t s receivedAt))).newest? = _
    rw [Window.newest?_push, Sample.ofExchange, exchangeAt,
      Stamp.signed_toUInt64, Stamp.signed_toUInt64]
  · show (e.offsets.push (Stamp.elapsed s t)).newest? = _
    rw [Window.newest?_push, Stamp.elapsed_eq_ofInt]

/-- A reflector answers the request, and counts it as one that it has
received. -/
theorem takeDatagram_request (r : Reflector) (clock : Readings)
    (sender : SocketAddress)
    (send : Endpoint → Bytes → Except SocketError Unit) :
    let handled :=
      r.takeDatagram clock ⟨sender, (Packet.request t).serialize⟩ send
    handled.reply =
        some (.ofSocketAddress sender,
          ((Packet.request t).reply (r.now clock)).serialize) ∧
      ∃ fate, handled.reflector.counters =
        r.counters.note (.answered fate) := by
  have hrequest := isRequest_request t
  intro handled
  constructor
  · show (r.takeDatagram clock _ send).reply = _
    rw [Reflector.reply_takeDatagram, if_pos hrequest, echo_request]
    rfl
  · show ∃ fate, (r.takeDatagram clock _ send).reflector.counters = _
    rw [Reflector.takeDatagram]
    dsimp only
    rw [Reflector.take_of_isRequest hrequest,
      Reflector.handle_of_isRequest
        (d := ⟨sender, (Packet.request t).serialize⟩) r clock send
        hrequest]
    exact ⟨_, rfl⟩

/-- What becomes of a request that is stamped `t` and answered at the time
`s`. -/
structure Understood : Prop where
  notReply : Packet.decodeReply (Packet.request t).serialize = .error .direction
  answered : ∀ (r : Reflector) (clock : Readings) (sender : SocketAddress)
    (send : Endpoint → Bytes → Except SocketError Unit), r.now clock = s →
    let handled :=
      r.takeDatagram clock ⟨sender, (Packet.request t).serialize⟩ send
    handled.reply = some (.ofSocketAddress sender,
      ((Packet.request t).reply s).serialize) ∧
      ∃ fate, handled.reflector.counters = r.counters.note (.answered fate)
  decoded : Packet.decodeReply ((Packet.request t).reply s).serialize =
    .ok ((Packet.request t).reply s)
  /-- The words of the exchange are the readings modulo the range of words. -/
  words : ∀ now, ((exchangeAt t s now).sentAt.toNat : Int) = t.toInt % 2 ^ 64 ∧
    ((exchangeAt t s now).remoteTime.toNat : Int) = s.toInt % 2 ^ 64 ∧
    (exchangeAt t s now).receivedAt = now
  ingested : ∀ (c : Client) (clock : Readings)
    (polls : List (Except Errno (Nat × Nat))),
    c.Listening → Client.waitEnd? polls = some .readable →
    let act : Client.Act :=
      .turn clock polls (.ok ((Packet.request t).reply s).serialize)
    let x := exchangeAt t s (c.reading clock 0)
    c.calls act = [.ingest x] ∧
    (c.step act).estimator = (c.estimator.ingest x).2 ∧
      ((c.estimator.ingest x).1 = .accepted →
        (c.step act).estimator.samples.newest? = some ⟨t, s⟩ ∧
        (c.step act).estimator.offsets.newest? =
          some (Int64.ofInt (s.toInt - t.toInt)))

theorem understood : Understood t s where
  notReply := by
    obtain ⟨hpacket, hmarked⟩ := isRequest_request t
    rw [Packet.decodeReply_eq, if_neg fun h => hmarked h.2, if_pos hpacket]
  answered := by
    rintro r clock sender send rfl
    exact takeDatagram_request t r clock sender send
  decoded := by
    rw [Packet.decodeReply_eq, if_pos (show _ ∧ _ from carriesReply_reply t s),
      Packet.ofBytes_serialize]
  words _ := ⟨Stamp.toNat_toUInt64 t, Stamp.toNat_toUInt64 s, rfl⟩
  ingested := by
    intro c clock polls hlisten hready act x
    have hexchange : c.exchange? act = some x := by
      rw [Client.exchange?, Client.arrival?, if_pos ⟨hlisten, hready⟩,
        Except.toOption, Option.bind_some, if_pos (carriesReply_reply t s),
        exchangeOf_reply]
    have hcalls : c.calls act = [.ingest x] := by
      rw [Client.calls, hexchange]
      rfl
    have hstep : (c.step act).estimator = (c.estimator.ingest x).2 := by
      rw [Client.estimator_step, hcalls]
      rfl
    refine ⟨hcalls, hstep, fun haccepted => ?_⟩
    rw [hstep]
    exact newest_of_accepted t s haccepted

end Exchange

namespace Network

/-- A request that was built, and the reading of the client that it was to
carry. -/
structure Request where
  reading : Int64
  bytes : Bytes
deriving DecidableEq, Repr

/-- A reply that was made, the reading of the request that it answers and that
of the reflector. -/
structure Reply where
  requested : Int64
  replied : Int64
  bytes : Bytes
deriving DecidableEq, Repr

end Network

/-! ## What a client sends and logs -/

namespace Client

/-- The request that an act builds, if it builds one, however its sending
ends. -/
def built? (c : Client) : Act → Option Network.Request
  | .request clock call =>
    if c.running then
      some ⟨c.reading clock 0, (c.sendRequest clock call).request⟩
    else none
  | _ => none

theorem bytes_of_built? {c : Client} {act : Act} {request : Network.Request}
    (h : c.built? act = some request) :
    request.bytes = (Packet.request request.reading).serialize := by
  cases act with
  | request clock call =>
    rw [built?] at h
    split at h
    · cases h
      rfl
    · cases h
  | _ => cases h

instance (c : Client) : DecidablePred c.Starts := fun act =>
  match act with
  | .start source options attempt =>
    inferInstanceAs (Decidable ((c.start source options attempt).ok = true))
  | .setOptions _ => instDecidableFalse
  | .request _ _ => instDecidableFalse
  | .turn _ _ _ => instDecidableFalse
  | .askAccuracy _ _ => instDecidableFalse
  | .shutdown _ _ => instDecidableFalse

/-- A start sets the counter of requests to zero, and each request that is built
counts. -/
theorem sent_step (c : Client) (act : Act) :
    (c.step act).statistics.sent =
      (if c.Starts act then 0 else c.statistics.sent) +
        (c.built? act).toList.length := by
  rw [statistics, estimator_step, statistics]
  cases act with
  | start source options attempt =>
    by_cases hok : (c.start source options attempt).ok = true
    · rw [calls, if_pos hok,
        if_pos (show c.Starts (.start source options attempt) from hok)]
      rfl
    · rw [calls, if_neg hok,
        if_neg (show ¬ c.Starts (.start source options attempt) from hok)]
      rfl
  | request clock call =>
    rw [calls, built?]
    split <;> rfl
  | turn clock polls received =>
    rw [calls]
    cases c.exchange? (.turn clock polls received) with
    | none => rfl
    | some x => exact Estimator.ingest_sent c.estimator x
  | _ => rfl

/-- Turns of the sending loop, each with the clock that the one before it has
left, where the sends end in these ways: the requests, and the client and the
clock after them. -/
def sendAll (c : Client) (clock : Readings) :
    List (Handle → Bytes → Except SocketError Unit) →
    List Bytes × Client × Readings
  | [] => ([], c, clock)
  | call :: calls =>
    let sent := c.sendRequest clock call
    let (requests, after) := sendAll sent.client sent.clock calls
    (sent.request :: requests, after)

/-- The requests of the loop carry its readings in turn, and all of them
count. -/
theorem sendAll_eq (c : Client) (clock : Readings)
    (calls : List (Handle → Bytes → Except SocketError Unit)) :
    (c.sendAll clock calls).1 = (List.range calls.length).map
        (fun i => (Packet.request (c.reading clock i)).serialize) ∧
      (c.sendAll clock calls).2.1.statistics.sent =
        c.statistics.sent + calls.length ∧
      (c.sendAll clock calls).2.2 = Readings.advance^[calls.length] clock := by
  induction calls generalizing c clock with
  | nil => exact ⟨rfl, rfl, rfl⟩
  | cons call calls ih =>
    obtain ⟨hrequests, hsent, hclock⟩ :=
      ih (c.sendRequest clock call).client clock.advance
    refine ⟨?_, ?_, hclock⟩
    · rw [List.length_cons, List.range_succ_eq_map, List.map_cons, List.map_map]
      exact congrArg (_ :: ·) hrequests
    · have hcount : (c.sendRequest clock call).client.statistics.sent =
          c.statistics.sent + 1 := rfl
      rw [List.length_cons, Nat.add_comm calls.length, ← Nat.add_assoc,
        ← hcount]
      exact hsent

/-- An exchange that goes into the estimator is that of a datagram. -/
theorem exists_exchangeOf_of_ingest_mem {c : Client} {act : Act} {x : Exchange}
    (h : .ingest x ∈ c.calls act) :
    ∃ clock payload, act.datagram? = some payload ∧
      x = c.exchangeOf clock payload := by
  cases act with
  | start source options attempt =>
    rw [calls] at h
    split at h <;> simp at h
  | setOptions options => simp [calls] at h
  | request clock call =>
    rw [calls] at h
    split at h <;> simp at h
  | turn clock polls received =>
    obtain ⟨y, hy, hxy⟩ := List.mem_map.mp h
    cases hxy
    obtain ⟨payload, harrival, hreply⟩ :=
      Option.bind_eq_some_iff.mp (Option.mem_toList.mp hy)
    obtain ⟨_, hready, rfl⟩ := arrival?_eq_some harrival
    split at hreply
    · cases hreply
      exact ⟨clock, payload, by rw [Act.datagram?, if_pos hready]; rfl, rfl⟩
    · cases hreply
  | askAccuracy waits forgets => cases h
  | shutdown writes lastPolls => cases h

/-- What an act logs. -/
def Outcome.log : Outcome → Log
  | .started _ _ log => log
  | .sent _ _ log => log
  | .turned _ _ log => log
  | .asked _ => []
  | .stopped _ log => log
  | .nothing => []

/-- Nothing is said of a datagram that was thrown away. -/
def DiscardsNothing (log : Log) : Prop :=
  ∀ reported ∈ log, ∀ what, reported.event ≠ .discarded what

namespace DiscardsNothing

theorem nil : DiscardsNothing [] := by
  intro reported h
  cases h

theorem append {log more : Log} (h : DiscardsNothing log)
    (h' : DiscardsNothing more) :
    DiscardsNothing (log ++ more) := fun reported hmem =>
  (List.mem_append.mp hmem).elim (h reported) (h' reported)

theorem report {e : Event} (h : ∀ what, e ≠ .discarded what)
    (sink : Option LogSink) :
    DiscardsNothing (ClockSync.report sink e) := by
  intro reported hmem
  cases sink with
  | none => cases hmem
  | some sink =>
    rw [List.mem_singleton.mp hmem]
    exact h

end DiscardsNothing

/-- A client that gets replies only throws nothing away. -/
theorem discardsNothing_turn (c : Client) (clock : Readings)
    (polls : List (Except Errno (Nat × Nat)))
    {received : Except SocketError Bytes}
    (h : ∀ payload, c.arrival? polls received = some payload →
      CarriesReply payload) :
    DiscardsNothing (c.takeTurn clock polls received).2.log := by
  cases harrival : c.arrival? polls received with
  | some payload =>
    obtain ⟨hlisten, hready, rfl⟩ := arrival?_eq_some harrival
    rw [takeTurn_of_carriesReply hlisten clock hready (h payload harrival),
      takeExchange_eq]
    dsimp only
    split
    · exact .report (by simp) _
    · exact .nil
  | none =>
    rw [takeTurn, receiveTurn_eq]
    rcases c.channel.wait_cases polls with
      ⟨e, heq⟩ | heq | heq | ⟨hsocket, hreader, heq⟩
    · rw [heq]
      dsimp only
      split
      · exact .nil
      · exact .report (by simp) _
    · rw [heq]
      exact .nil
    · rw [heq]
      dsimp only
      split <;> exact .nil
    · have hready : waitEnd? polls = some .readable := by
        rw [← Channel.wait_fst hsocket hreader, heq]
      rw [heq]
      dsimp only
      split
      · exact .nil
      · next hquitting =>
        rw [Bool.not_eq_true] at hquitting
        rw [arrival?,
          if_pos ⟨⟨hquitting, hsocket, hreader⟩, hready⟩] at harrival
        -- the wait was for a receive, which has failed
        cases received with
        | ok payload => cases harrival
        | error e =>
          obtain ⟨socket, hsocket⟩ := Option.isSome_iff_exists.mp hsocket
          rw [Channel.receive, hsocket]
          exact .report (by simp) _

theorem discardsNothing_outcome (c : Client) {act : Act}
    (h : ∀ payload, act.datagram? = some payload → CarriesReply payload) :
    DiscardsNothing (c.outcome act).log := by
  cases act with
  | start source options attempt =>
    rw [outcome, start_eq]
    split
    · exact .nil
    · generalize c.channel.connect attempt = change
      obtain ⟨result, channel, closed⟩ := change
      cases result with
      | error e => exact .report (by simp) _
      | ok _ => exact .report (by simp) _
  | setOptions options => exact .nil
  | request clock call =>
    rw [outcome]
    split
    · rw [sendRequest_eq]
      dsimp only [Outcome.log]
      split
      · exact .nil
      · split
        · exact .nil
        · exact .report (by simp) _
    · exact .nil
  | turn clock polls received =>
    refine c.discardsNothing_turn clock polls fun payload harrival =>
      h payload ?_
    obtain ⟨_, hready, rfl⟩ := arrival?_eq_some harrival
    rw [Act.datagram?, if_pos hready]
    rfl
  | askAccuracy waits forgets => exact .nil
  | shutdown writes lastPolls =>
    rw [outcome]
    split
    · rw [wakeReceiver_eq]
      rcases c.beginShutdown.channel.interrupt fun _ => writes with
        _ | ⟨result, channel⟩
      · exact .nil
      · cases result with
        | ok _ => exact .append .nil (.report (by simp) _)
        | error e => exact .append (.report (by simp) _) (.report (by simp) _)
    · exact .nil

end Client

/-! ## A client, a reflector and what is between them -/

/-- A client and a reflector, with all that they ever sent to each other. -/
structure Network where
  client : Client := {}
  reflector : Reflector := {}
  requests : List Network.Request := []
  replies : List Network.Reply := []
  /-- How many requests there were when the client was started last. -/
  before : Nat := 0
  /-- The calls that were made on the estimator of the client. -/
  calls : List Estimator.Call := []
  /-- What the client has logged. -/
  log : Client.Log := []

namespace Network

/-- What may happen. Which request or reply comes in, and when, is left open; so
they may be lost, come in another order, or come more than once. -/
inductive Move where
  /-- The client does something that brings it no datagram. -/
  | client (act : Client.Act) (h : act.datagram? = none)
  /-- The reflector does something that brings it no datagram. -/
  | reflector (act : Reflector.Act) (h : act.datagram? = none)
  /-- A request comes to the reflector. -/
  | request (index : Nat) (sender : SocketAddress) (clock : Readings)
      (send : Endpoint → Bytes → Except SocketError Unit)
  /-- A reply lies in the queue of the client while its loop makes a turn. -/
  | reply (index : Nat) (clock : Readings)
      (polls : List (Except Errno (Nat × Nat)))

/-- The network after an act of the client. -/
def act (n : Network) (act : Client.Act) : Network :=
  { n with
    client := n.client.step act
    requests := n.requests ++ (n.client.built? act).toList
    before := if n.client.Starts act then n.requests.length else n.before
    calls := n.calls ++ n.client.calls act
    log := n.log ++ (n.client.outcome act).log }

/-- The network after the reflector has taken in a request. -/
def deliver (n : Network) (request : Request) (sender : SocketAddress)
    (clock : Readings) (send : Endpoint → Bytes → Except SocketError Unit) :
    Network :=
  let handled := n.reflector.takeDatagram clock ⟨sender, request.bytes⟩ send
  { n with
    reflector := handled.reflector
    replies := n.replies ++ handled.reply.toList.map fun (_, bytes) =>
      ⟨request.reading, n.reflector.now clock, bytes⟩ }

/-- What a move makes of a network. -/
def step (n : Network) : Move → Network
  | .client act _ => n.act act
  | .reflector act _ => { n with reflector := n.reflector.step act }
  | .request index sender clock send =>
    match n.requests[index]? with
    | none => n
    | some request => n.deliver request sender clock send
  | .reply index clock polls =>
    match n.replies[index]? with
    | none => n
    | some reply => n.act (.turn clock polls (.ok reply.bytes))

/-- What moves one after the other make of a network. -/
def run (n : Network) (moves : List Move) : Network := moves.foldl step n

/-- What is under way was made of the readings that it belongs to, and nothing
of it was thrown away. -/
structure Sound (n : Network) : Prop where
  requests : ∀ r ∈ n.requests, r.bytes = (Packet.request r.reading).serialize
  replies : ∀ r ∈ n.replies,
    r.bytes = ((Packet.request r.requested).reply r.replied).serialize
  /-- The exchanges of the client are those of replies. -/
  exchanges : ∀ x, .ingest x ∈ n.calls → ∃ r ∈ n.replies, ∃ now,
    x = exchangeAt r.requested r.replied now
  estimator : n.client.estimator =
    (Estimator.new Estimator.defaultThreshold).run n.calls
  /-- The client counts the requests since it was started last. -/
  before : n.before ≤ n.requests.length
  sent : n.client.statistics.sent = (n.requests.drop n.before).length
  log : Client.DiscardsNothing n.log
  incomplete : n.reflector.counters.incomplete = 0
  mismatched : n.reflector.counters.mismatched = 0
  dropped : n.reflector.counters.replies = 0

namespace Sound

variable {n : Network}

theorem new : Sound {} where
  requests _ h := by cases h
  replies _ h := by cases h
  exchanges _ h := by cases h
  estimator := rfl
  before := Nat.le_refl _
  sent := rfl
  log := .nil
  incomplete := rfl
  mismatched := rfl
  dropped := rfl

/-- The client may get any of the replies, and nothing else. -/
theorem act (h : n.Sound) {act : Client.Act}
    (hact : ∀ payload, act.datagram? = some payload →
      ∃ r ∈ n.replies, payload = r.bytes) :
    (n.act act).Sound where
  requests := by
    intro r hr
    rcases List.mem_append.mp hr with hr | hr
    · exact h.requests r hr
    · exact Client.bytes_of_built? (Option.mem_toList.mp hr)
  replies := h.replies
  exchanges := by
    intro x hx
    rcases List.mem_append.mp hx with hx | hx
    · exact h.exchanges x hx
    · obtain ⟨clock, payload, hpayload, rfl⟩ :=
        Client.exists_exchangeOf_of_ingest_mem hx
      obtain ⟨r, hr, rfl⟩ := hact payload hpayload
      exact ⟨r, hr, n.client.reading clock 0,
        by rw [h.replies r hr, exchangeOf_reply]⟩
  estimator := by
    show (n.client.step act).estimator =
      Estimator.run _ (n.calls ++ n.client.calls act)
    rw [Client.estimator_step, Estimator.run_append, ← h.estimator]
  before := by
    have hbefore := h.before
    show (if n.client.Starts act then n.requests.length else n.before) ≤
      (n.requests ++ (n.client.built? act).toList).length
    rw [List.length_append]
    split <;> omega
  sent := by
    show (n.client.step act).statistics.sent =
      ((n.requests ++ (n.client.built? act).toList).drop
      (if n.client.Starts act then n.requests.length else n.before)).length
    rw [Client.sent_step]
    split
    · rw [List.drop_left, Nat.zero_add]
    · rw [List.drop_append_of_le_length h.before, List.length_append, h.sent]
  log := by
    refine h.log.append
      (n.client.discardsNothing_outcome fun payload hpayload => ?_)
    obtain ⟨r, hr, rfl⟩ := hact payload hpayload
    rw [h.replies r hr]
    exact carriesReply_reply _ _
  incomplete := h.incomplete
  mismatched := h.mismatched
  dropped := h.dropped

/-- Where the reflector gets no datagram, it drops none. -/
theorem reflectorAct (h : n.Sound) {act : Reflector.Act}
    (hact : act.datagram? = none) :
    Sound { n with reflector := n.reflector.step act } := by
  have hcounters : (n.reflector.step act).counters = n.reflector.counters ∨
      ∃ e, (n.reflector.step act).counters =
        n.reflector.counters.note (.failed e) := by
    rw [Reflector.counters_step]
    cases act with
    | start source options bound => exact Or.inl rfl
    | stop => exact Or.inl rfl
    | receive clock received send =>
      cases received with
      | error e => exact Or.inr ⟨e, rfl⟩
      | ok d => cases hact
  have hkept : (n.reflector.step act).counters.incomplete = 0 ∧
      (n.reflector.step act).counters.mismatched = 0 ∧
      (n.reflector.step act).counters.replies = 0 := by
    rcases hcounters with heq | ⟨e, heq⟩
    · rw [heq]
      exact ⟨h.incomplete, h.mismatched, h.dropped⟩
    · rw [heq]
      exact ⟨h.incomplete, h.mismatched, h.dropped⟩
  exact { h with
    incomplete := hkept.1
    mismatched := hkept.2.1
    dropped := hkept.2.2 }

/-- A request that comes to the reflector is answered. -/
theorem deliver (h : n.Sound) {request : Request}
    (hrequest : request ∈ n.requests) (sender : SocketAddress)
    (clock : Readings) (send : Endpoint → Bytes → Except SocketError Unit) :
    (n.deliver request sender clock send).Sound := by
  have hbytes := h.requests request hrequest
  obtain ⟨hreply, fate, hcounters⟩ :=
    takeDatagram_request request.reading n.reflector clock sender send
  rw [← hbytes] at hreply hcounters
  have hnote : (n.reflector.counters.note (.answered fate)).incomplete = 0 ∧
      (n.reflector.counters.note (.answered fate)).mismatched = 0 ∧
      (n.reflector.counters.note (.answered fate)).replies = 0 := by
    cases fate <;> exact ⟨h.incomplete, h.mismatched, h.dropped⟩
  rw [← hcounters] at hnote
  refine { h with
    replies := ?_
    exchanges := ?_
    incomplete := hnote.1
    mismatched := hnote.2.1
    dropped := hnote.2.2 }
  · intro r hr
    rcases List.mem_append.mp hr with hr | hr
    · exact h.replies r hr
    · rw [hreply] at hr
      rw [List.mem_singleton.mp hr]
  · intro x hx
    obtain ⟨r, hr, now, hx⟩ := h.exchanges x hx
    exact ⟨r, List.mem_append_left _ hr, now, hx⟩

theorem step (h : n.Sound) (move : Move) : (n.step move).Sound := by
  cases move with
  | client act hact =>
    exact h.act fun payload hpayload => by rw [hact] at hpayload; cases hpayload
  | reflector act hact => exact h.reflectorAct hact
  | request index sender clock send =>
    rw [Network.step]
    cases hrequest : n.requests[index]? with
    | none => exact h
    | some request =>
      exact h.deliver (List.mem_of_getElem? hrequest) sender clock send
  | reply index clock polls =>
    rw [Network.step]
    cases hreply : n.replies[index]? with
    | none => exact h
    | some reply =>
      refine h.act fun payload hpayload =>
        ⟨reply, List.mem_of_getElem? hreply, ?_⟩
      rw [Client.Act.datagram?] at hpayload
      split at hpayload
      · cases hpayload
        rfl
      · cases hpayload

theorem run (h : n.Sound) (moves : List Move) : (n.run moves).Sound := by
  induction moves generalizing n with
  | nil => exact h
  | cons move moves ih => exact ih (h.step move)

end Sound

/-- Whatever a client and a reflector send each other, each understands what the
other meant. In any order, with any loss and any repetition, nothing that is
under way between them is thrown away, and every request counts. -/
theorem exchanges_agree :
    (∀ t s, Understood t s) ∧
    (∀ moves, (({} : Network).run moves).Sound) ∧
    ∀ (c : Client) (clock : Readings)
      (calls : List (Handle → Bytes → Except SocketError Unit)),
      (c.sendAll clock calls).1 = (List.range calls.length).map
        (fun i => (Packet.request (c.reading clock i)).serialize) ∧
      (c.sendAll clock calls).2.1.statistics.sent =
        c.statistics.sent + calls.length ∧
      (c.sendAll clock calls).2.2 = Readings.advance^[calls.length] clock :=
  ⟨understood, Sound.new.run, Client.sendAll_eq⟩

/-- A request is lost, and another one comes twice, before the zero of both
clocks. The replies come in the other order. -/
theorem exchanges_agree_of_repeated_request :
    let start : Client.Act :=
      .start (.given 0) .default (.complete {} 3 (some (4, 5)))
    let n := ({} : Network).run
      [.client start rfl,
        .client (.request { next := -7 } fun _ _ =>
          .error (.send .networkUnreachable)) rfl,
        .client (.request { next := -5 } fun _ _ => .ok ()) rfl,
        .request 1 ⟨.loopback, 9⟩ { next := -1000 } fun _ _ => .ok (),
        .request 1 ⟨.loopback, 9⟩ { next := -990 } fun _ _ => .ok (),
        .reply 1 { next := 20 } [.ok (1, 0)],
        .reply 0 { next := 30 } [.ok (1, 0)]]
    n.Sound ∧ n.client.statistics.sent = 2 ∧ n.client.statistics.received = 2 ∧
      n.client.estimator.samples.toList = [⟨-5, -990⟩, ⟨-5, -1000⟩] ∧
      n.client.estimator.offsets.toList = [-985, -995] := by
  intro start n
  obtain ⟨_, hsound, _⟩ := exchanges_agree
  exact ⟨hsound _, by decide +kernel, by decide +kernel,
    by decide +kernel, by decide +kernel⟩

end Network

end ClockSync
