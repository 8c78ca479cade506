import ClockSync.Client.Basic
import ClockSync.Proofs.Estimator.Runs
import ClockSync.Proofs.Packets

/-!
# What a client does with a datagram

`receiveTurn` waits, reads the clock, receives and takes in what it received. A
client that is `Listening` and whose wait ends with something to read takes in
the datagram that lies in the queue of its socket (`takeTurn_of_readable`); in
every other turn it learns nothing (`takeTurn_of_arrival?_none`).

Whether a datagram carries a reply is a matter of its bytes alone. Only a prefix
of it is received, but one that is long enough to tell (`decodeReply_take`). All
that the reply does is said once, in `takeExchange_eq`: it goes into the
estimator, and if the client measures its accuracy it may be measured too.
-/

namespace ClockSync.Client

open Net Wire

/-! ## Datagrams with and without a reply -/

/-- The datagram is a packet that is marked as a reply. -/
def CarriesReply (payload : Bytes) : Prop := IsPacket payload ∧ IsMarked payload

instance : DecidablePred CarriesReply := fun payload =>
  inferInstanceAs (Decidable (IsPacket payload ∧ IsMarked payload))

/-- What is wrong with a datagram that carries no reply, as far as its received
prefix tells. -/
def defect (payload : Bytes) : Malformed :=
  if IsPacket payload then .direction
  else if payload.length = packetSize then .signature
  else .size (min payload.length receiveLimit)

/-- The prefix that is received tells as much as the datagram: it is the whole
of a packet, and of what is longer than a packet it is longer than a packet,
too. -/
theorem decodeReply_take (payload : Bytes) :
    Packet.decodeReply (payload.take receiveLimit) =
      if CarriesReply payload then .ok (Packet.ofBytes payload)
      else .error (defect payload) := by
  have hlimit : receiveLimit = packetSize + 1 := rfl
  by_cases hlong : receiveLimit < payload.length
  · have hlength : (payload.take receiveLimit).length = receiveLimit :=
      List.length_take_of_le (Nat.le_of_lt hlong)
    have hnot : ¬ IsPacket (payload.take receiveLimit) := by
      rintro ⟨hsize, _⟩
      rw [hlength] at hsize
      exact absurd hsize (by decide)
    have hsize : payload.length ≠ packetSize := by omega
    have hpacket : ¬ IsPacket payload := fun h => hsize h.1
    rw [Packet.decodeReply_eq, if_neg fun h => hnot h.1, if_neg hnot, hlength,
      if_neg (by decide), if_neg fun h => hpacket h.1, defect, if_neg hpacket,
      if_neg hsize, Nat.min_eq_right (Nat.le_of_lt hlong)]
  · have hshort : payload.length ≤ receiveLimit := Nat.not_lt.mp hlong
    rw [List.take_of_length_le hshort, Packet.decodeReply_eq, defect,
      Nat.min_eq_left hshort]
    by_cases hreply : IsPacket payload ∧ IsMarked payload
    · rw [if_pos hreply, if_pos (show CarriesReply payload from hreply)]
    · rw [if_neg hreply, if_neg (show ¬ CarriesReply payload from hreply)]
      split
      · rfl
      · split <;> rfl

/-! ## Turns -/

/-- How a wait ends by what the polls gave, if the channel is open. -/
def waitEnd? (polls : List (Except Errno (Nat × Nat))) : Option Wait :=
  (uninterrupted? polls).map fun
    | .error errno => .failed (.poll errno)
    | .ok (events, wakeEvents) => Channel.eventsToWait events wakeEvents

theorem Channel.wait_fst {channel : Channel} (hsocket : channel.socket.isSome)
    (hreader : channel.wakeReader.isSome)
    (polls : List (Except Errno (Nat × Nat))) :
    (channel.wait polls).1 = waitEnd? polls := by
  obtain ⟨socket, hsocket⟩ := Option.isSome_iff_exists.mp hsocket
  obtain ⟨reader, hreader⟩ := Option.isSome_iff_exists.mp hreader
  rw [wait, hsocket, hreader, waitEnd?]
  rcases uninterrupted? polls with _ | ⟨errno | ⟨events, wakeEvents⟩⟩
  · rfl
  · rfl
  · simp only [Option.map_some]
    split
    · next heq => rw [heq]
    · rfl

/-- A wait changes nothing but the last error, and that only if it fails. -/
theorem Channel.wait_cases (channel : Channel)
    (polls : List (Except Errno (Nat × Nat))) :
    (∃ e, channel.wait polls =
      (some (.failed e), { channel with lastError := some e })) ∨
    channel.wait polls = (none, channel) ∨
    channel.wait polls = (some .interrupted, channel) ∨
    channel.socket.isSome ∧ channel.wakeReader.isSome ∧
      channel.wait polls = (some .readable, channel) := by
  rw [wait]
  split
  · next hsocket hreader =>
    split
    · exact Or.inr (Or.inl rfl)
    · exact Or.inl ⟨_, rfl⟩
    · next events wakeEvents _ =>
      cases hend : eventsToWait events wakeEvents with
      | readable =>
        exact Or.inr
          (Or.inr (Or.inr ⟨by rw [hsocket]; rfl, by rw [hreader]; rfl, rfl⟩))
      | interrupted => exact Or.inr (Or.inr (Or.inl rfl))
      | failed e => exact Or.inl ⟨e, rfl⟩
  · exact Or.inl ⟨_, rfl⟩

theorem Channel.wait_of_readable {channel : Channel}
    {polls : List (Except Errno (Nat × Nat))}
    (h : (channel.wait polls).1 = some .readable) :
    channel.socket.isSome ∧ channel.wait polls = (some .readable, channel) := by
  rcases channel.wait_cases polls with ⟨e, heq⟩ | heq | heq | ⟨hsocket, _, heq⟩
  · rw [heq] at h
    cases h
  · rw [heq] at h
    cases h
  · rw [heq] at h
    cases h
  · exact ⟨hsocket, heq⟩

/-- The same client, with another error noted last by its channel. -/
def withError (c : Client) (error : Option ChannelError) : Client :=
  { c with channel := { c.channel with lastError := error } }

/-- The loops of the client are to go on, and its channel is open. -/
structure Listening (c : Client) : Prop where
  quitting : c.quitting = false
  socket : c.channel.socket.isSome = true
  wakeReader : c.channel.wakeReader.isSome = true

theorem listening_iff (c : Client) :
    c.Listening ↔ c.quitting = false ∧ c.channel.socket.isSome = true ∧
      c.channel.wakeReader.isSome = true :=
  ⟨fun ⟨hquitting, hsocket, hreader⟩ => ⟨hquitting, hsocket, hreader⟩,
    fun ⟨hquitting, hsocket, hreader⟩ => ⟨hquitting, hsocket, hreader⟩⟩

instance : DecidablePred Listening :=
  fun c => decidable_of_iff _ c.listening_iff.symm

/-- A turn of the receiving loop, where a datagram that is received lies in the
queue of the socket as a whole. -/
def takeTurn (c : Client) (clock : Readings)
    (polls : List (Except Errno (Nat × Nat)))
    (received : Except SocketError Bytes) : Turn × Taken :=
  c.receiveTurn clock polls fun _ => some (received.map (·.take receiveLimit))

/-- The time that the clock of the client shows at the reading after `i`
others. -/
def reading (c : Client) (clock : Readings) (i : Nat) : Int64 :=
  c.clock.timeAt (clock.nth i)

theorem takeTurn_of_readable {c : Client} (h : c.Listening) (clock : Readings)
    {polls : List (Except Errno (Nat × Nat))}
    (hready : waitEnd? polls = some .readable) (payload : Bytes) :
    c.takeTurn clock polls (.ok payload) =
      (.goesOn,
        c.takeDatagram clock.advance (payload.take receiveLimit)
          (c.reading clock 0)) := by
  obtain ⟨_, hwait⟩ := Channel.wait_of_readable
    ((Channel.wait_fst h.socket h.wakeReader polls).trans hready)
  obtain ⟨socket, hsocket⟩ := Option.isSome_iff_exists.mp h.socket
  rw [takeTurn, receiveTurn, hwait]
  dsimp only
  rw [if_neg (by rw [h.quitting]; decide), Channel.receive, hsocket]
  rfl

/-- The datagram that a turn takes in, if any. -/
def arrival? (c : Client) (polls : List (Except Errno (Nat × Nat)))
    (received : Except SocketError Bytes) : Option Bytes :=
  if c.Listening ∧ waitEnd? polls = some .readable then
    received.toOption
  else none

theorem arrival?_eq_some {c : Client} {polls : List (Except Errno (Nat × Nat))}
    {received : Except SocketError Bytes} {payload : Bytes}
    (h : c.arrival? polls received = some payload) :
    c.Listening ∧ waitEnd? polls = some .readable ∧ received = .ok payload := by
  rw [arrival?] at h
  split at h
  · next hboth =>
    cases received with
    | error e => cases h
    | ok data =>
      cases h
      exact ⟨hboth.1, hboth.2, rfl⟩
  · cases h

/-- Where nothing arrives, a turn changes nothing but the last error. -/
theorem takeTurn_of_arrival?_none {c : Client} (clock : Readings)
    {polls : List (Except Errno (Nat × Nat))}
    {received : Except SocketError Bytes}
    (h : c.arrival? polls received = none) :
    ∃ error, (c.takeTurn clock polls received).2.client =
      c.withError error := by
  rw [takeTurn, receiveTurn]
  rcases c.channel.wait_cases polls with
    ⟨e, heq⟩ | heq | heq | ⟨hsocket, hreader, heq⟩
  · rw [heq]
    refine ⟨some e, ?_⟩
    dsimp only
    split <;> rfl
  · rw [heq]
    exact ⟨c.channel.lastError, rfl⟩
  · rw [heq]
    refine ⟨c.channel.lastError, ?_⟩
    dsimp only
    split <;> rfl
  · have hready : waitEnd? polls = some .readable := by
      rw [← Channel.wait_fst hsocket hreader, heq]
    rw [heq]
    dsimp only
    split
    · exact ⟨c.channel.lastError, rfl⟩
    · next hquitting =>
      rw [Bool.not_eq_true] at hquitting
      rw [arrival?, if_pos ⟨⟨hquitting, hsocket, hreader⟩, hready⟩] at h
      cases received with
      | ok payload => cases h
      | error e =>
        obtain ⟨socket, hsocket⟩ := Option.isSome_iff_exists.mp hsocket
        rw [Channel.receive, hsocket]
        exact ⟨some (.socket e), rfl⟩

/-- A turn of a client that is to end is the last one. -/
theorem receiveTurn_of_quitting {c : Client} (h : c.quitting = true)
    (clock : Readings) (polls : List (Except Errno (Nat × Nat)))
    (call : Handle → Option (Except SocketError Bytes)) :
    (c.receiveTurn clock polls call).1 ≠ .goesOn ∧
      (c.receiveTurn clock polls call).2.client =
        { c with channel := (c.channel.wait polls).2 } := by
  rw [receiveTurn]
  generalize c.channel.wait polls = waited
  obtain ⟨ready, channel⟩ := waited
  cases ready with
  | none => exact ⟨Turn.noConfusion, rfl⟩
  | some ready =>
    dsimp only
    rw [if_pos h]
    exact ⟨Turn.noConfusion, rfl⟩

/-- A receive is made only if there is something to read, and on the socket of
the channel. -/
theorem receiveTurn_congr {c : Client}
    {call call' : Handle → Option (Except SocketError Bytes)}
    {polls : List (Except Errno (Nat × Nat))}
    (h : (c.channel.wait polls).1 = some .readable →
      ∀ socket, c.channel.socket = some socket → call socket = call' socket)
    (clock : Readings) :
    c.receiveTurn clock polls call = c.receiveTurn clock polls call' := by
  by_cases hready : (c.channel.wait polls).1 = some .readable
  · obtain ⟨hopen, hwait⟩ := Channel.wait_of_readable hready
    obtain ⟨socket, hsocket⟩ := Option.isSome_iff_exists.mp hopen
    have hreceive : c.channel.receive call = c.channel.receive call' := by
      rw [Channel.receive, Channel.receive, hsocket]
      dsimp only
      rw [h hready socket hsocket]
    rw [receiveTurn, receiveTurn, hwait]
    dsimp only
    rw [hreceive]
  · rw [receiveTurn, receiveTurn]
    rcases c.channel.wait_cases polls with ⟨e, heq⟩ | heq | heq | ⟨_, _, heq⟩
    · rw [heq]
    · rw [heq]
    · rw [heq]
    · rw [heq] at hready
      exact absurd rfl hready

/-! ## Replies -/

/-- The exchange that a reply completes, whose datagram was noticed at the first
of the readings. -/
def exchangeOf (c : Client) (clock : Readings) (payload : Bytes) :
    Exchange where
  sentAt := (Packet.ofBytes payload).requesterTime
  remoteTime := (Packet.ofBytes payload).responderTime
  receivedAt := c.reading clock 0

/-- Whether an exchange is measured: the client measures its accuracy, accepts
the exchange and had a sample before. -/
def Measures (c : Client) (x : Exchange) : Prop :=
  c.options.measuresAccuracy = true ∧ (c.estimator.ingest x).1 = .accepted ∧
    c.estimator.samples.toList ≠ []

instance (c : Client) (x : Exchange) : Decidable (c.Measures x) :=
  inferInstanceAs (Decidable (_ ∧ _ ∧ _))

/-- What is measured for an exchange: by how much the advance of global time
differs from that of local time. After the reading at which the datagram was
noticed there are four, of the local time before, of the global time before, of
the global time after and of the local time after. -/
def measured (c : Client) (clock : Readings) (x : Exchange) : Float :=
  Float.abs ((c.estimator.globalAt (c.reading clock 2) -
      (c.estimator.ingest x).2.globalAt (c.reading clock 3)) -
    Scalar.ofInt64 (c.reading clock 1 - c.reading clock 4))

/-- How many readings an exchange takes: two before it if the client measures
its accuracy, and two after it if the exchange is measured. -/
def readingsFor (c : Client) (x : Exchange) : Nat :=
  (if c.options.measuresAccuracy then 2 else 0) + if c.Measures x then 2 else 0

/-- The samples tell after an exchange whether there was one before it. -/
theorem measures_iff {c : Client} {x : Exchange}
    (h : (c.estimator.ingest x).1 = .accepted) :
    c.Measures x ↔
      c.options.measuresAccuracy = true ∧
      1 < (c.estimator.ingest x).2.samples.size := by
  have hpush : (c.estimator.ingest x).2.samples =
      c.estimator.samples.push (.ofExchange x) := by
    rw [(Estimator.ingest_of_accepted h).2]
    rfl
  have hsize : (c.estimator.ingest x).2.samples.size =
      min 10 (c.estimator.samples.toList.length + 1) := by
    rw [Window.size, hpush, Window.toList_push, length_rtake,
      List.length_append]
    rfl
  rw [Measures, hsize, ← List.length_pos_iff]
  constructor
  · rintro ⟨hon, _, hbefore⟩
    exact ⟨hon, by omega⟩
  · rintro ⟨hon, hafter⟩
    exact ⟨hon, h, by omega⟩

/-- All that an exchange does. -/
theorem takeExchange_eq (c : Client) (clock : Readings) (x : Exchange) :
    c.takeExchange clock.advance x =
      ⟨{ c with
          estimator := (c.estimator.ingest x).2
          monitor :=
            if c.Measures x then c.monitor.record (c.measured clock x)
            else c.monitor },
        Readings.advance^[c.readingsFor x + 1] clock,
        if (c.estimator.ingest x).1 = .rejected then
          c.log (.rejected x (c.estimator.ingest x).2.medianRoundTrip)
        else []⟩ := by
  have hiff := measures_iff (c := c) (x := x)
  have haccepted : c.Measures x → (c.estimator.ingest x).1 = .accepted :=
    fun h => h.2.1
  rw [takeExchange, readingsFor, measured]
  generalize c.estimator.ingest x = ingested at hiff haccepted ⊢
  obtain ⟨verdict, e⟩ := ingested
  by_cases hmeasures : c.Measures x
  · obtain rfl : verdict = .accepted := haccepted hmeasures
    have hboth := (hiff rfl).mp hmeasures
    rw [if_pos hmeasures, if_pos hmeasures, if_pos hboth.1, if_pos hboth.1]
    dsimp only
    rw [if_pos hboth]
    rfl
  · rw [if_neg hmeasures, if_neg hmeasures]
    by_cases hon : c.options.measuresAccuracy = true
    · rw [if_pos hon, if_pos hon]
      cases verdict with
      | rejected => rfl
      | accepted => exact if_neg (mt (hiff rfl).mpr hmeasures)
    · rw [if_neg hon, if_neg hon]
      cases verdict with
      | rejected => rfl
      | accepted => exact if_neg (mt (hiff rfl).mpr hmeasures)

section Arrivals

variable {c : Client} {polls : List (Except Errno (Nat × Nat))}
  {payload : Bytes}

/-- A datagram without a reply is thrown away. -/
theorem takeTurn_of_not_carriesReply (hlisten : c.Listening) (clock : Readings)
    (hready : waitEnd? polls = some .readable) (h : ¬ CarriesReply payload) :
    c.takeTurn clock polls (.ok payload) =
      (.goesOn, ⟨c, clock.advance, c.log (.discarded (defect payload))⟩) := by
  rw [takeTurn_of_readable hlisten clock hready, takeDatagram, decodeReply_take,
    if_neg h]

theorem takeTurn_of_carriesReply (hlisten : c.Listening) (clock : Readings)
    (hready : waitEnd? polls = some .readable) (h : CarriesReply payload) :
    c.takeTurn clock polls (.ok payload) =
      (.goesOn, c.takeExchange clock.advance (c.exchangeOf clock payload)) := by
  rw [takeTurn_of_readable hlisten clock hready, takeDatagram, decodeReply_take,
    if_pos h]
  rfl

end Arrivals

end ClockSync.Client
