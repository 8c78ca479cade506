import ClockSync.Proofs.Client.Runs

/-!
# What becomes of datagrams

While a client listens, each datagram that arrives either carries a reply and
makes one exchange for the estimator, or is thrown away with one line of a log
and no other trace. So the counters of the estimator count datagrams
(`accounts_for_datagrams`), whatever else is done to the client in the meantime.
-/

namespace ClockSync

namespace Estimator

variable {α : Type} [Scalar α]

/-! ## Counting replies -/

theorem encounters_append (e : Estimator α) (calls later : List Call) :
    e.encounters (calls ++ later) =
      e.encounters calls ++ (e.run calls).encounters later := by
  induction calls generalizing e with
  | nil => rfl
  | cons c calls ih =>
    cases c with
    | ingest x => exact congrArg (_ :: ·) (ih (e.ingest x).2)
    | _ => exact ih _

theorem received_run {e : Estimator α} {calls : List Call}
    (h : .reset ∉ calls) :
    (e.run calls).stats.received =
      e.stats.received + (e.encounters calls).length := by
  induction calls generalizing e with
  | nil => rfl
  | cons c calls ih =>
    rw [run_cons, ih (List.not_mem_of_not_mem_cons h)]
    cases c with
    | ingest x =>
      rw [step, ingest_received, encounters, List.length_cons]
      omega
    | reset => exact absurd List.mem_cons_self h
    | _ => rfl

theorem rejected_run {e : Estimator α} {calls : List Call}
    (h : .reset ∉ calls) :
    (e.run calls).stats.rejected =
      e.stats.rejected +
        (e.encounters calls).countP fun (e, x) => (e.ingest x).1 =
          .rejected := by
  induction calls generalizing e with
  | nil => rfl
  | cons c calls ih =>
    rw [run_cons, ih (List.not_mem_of_not_mem_cons h)]
    cases c with
    | ingest x =>
      rw [step, ingest_rejected, encounters, List.countP_cons]
      simp only [decide_eq_true_eq]
      omega
    | reset => exact absurd List.mem_cons_self h
    | _ => rfl

end Estimator

namespace Client

open Net Wire

/-! ## What is logged -/

/-- The lines of a log, each with the sink that it goes to. -/
def lines (portText : UInt16 → String) (log : Log) : List (LogSink × String) :=
  log.map fun r => (r.sink, r.event.text portText)

theorem lines_log (c : Client) (portText : UInt16 → String) (e : Event) :
    lines portText (c.log e) = c.options.sink.toList.map fun sink =>
      (sink, e.text portText) := by
  rw [log]
  cases c.options.sink <;> rfl

/-- The words that a datagram without a reply is thrown away with. -/
structure Worded (payload : Bytes) (reason : String) : Prop where
  incomplete : reason = s!"incomplete packet of {min payload.length 33}" ↔
    payload.length ≠ 32
  mismatch : reason = "protocol mismatch" ↔
    payload.length = 32 ∧ payload.take 4 ≠ [0x64, 0x72, 0x66, 0x74]
  request : reason = "request packet" ↔ IsPacket payload ∧ ¬ IsMarked payload

/-- The words for a wrong size are told from the others by their first
letter. -/
theorem incomplete_ne {text : String} (h : text.toList.head? ≠ some 'i')
    (size : Nat) :
    s!"incomplete packet of {size}" ≠ text := by
  rintro rfl
  rw [String.toList_append] at h
  exact h rfl

theorem worded_discardText {payload : Bytes} (h : ¬ CarriesReply payload) :
    Worded payload (discardText (defect payload)) := by
  have hmismatch : s!"incomplete packet of {min payload.length 33}" ≠
      "protocol mismatch" :=
    incomplete_ne (by decide) _
  have hrequest : s!"incomplete packet of {min payload.length 33}" ≠
      "request packet" :=
    incomplete_ne (by decide) _
  by_cases hpacket : IsPacket payload
  · have hmarked : ¬ IsMarked payload := fun hmarked => h ⟨hpacket, hmarked⟩
    rw [defect, if_pos hpacket]
    exact ⟨iff_of_false hrequest.symm (not_not_intro hpacket.1),
      iff_of_false (by decide) fun hboth => hboth.2 hpacket.2,
      iff_of_true rfl ⟨hpacket, hmarked⟩⟩
  · by_cases hsize : payload.length = packetSize
    · rw [defect, if_neg hpacket, if_pos hsize]
      exact ⟨iff_of_false hmismatch.symm (not_not_intro hsize),
        iff_of_true rfl ⟨hsize, fun hmagic => hpacket ⟨hsize, hmagic⟩⟩,
        iff_of_false (by decide) fun hboth => hpacket hboth.1⟩
    · rw [defect, if_neg hpacket, if_neg hsize]
      exact ⟨iff_of_true rfl hsize,
        iff_of_false hmismatch fun hboth => hsize hboth.1,
        iff_of_false hrequest fun hboth => hpacket hboth.1⟩

/-! ## One datagram -/

theorem text_discarded (portText : UInt16 → String) (what : Malformed) :
    (Event.discarded what).text portText =
      "[SyncClient] discarded datagram: " ++ discardText what :=
  String.append_assoc.symm

/-- The datagram is thrown away: it takes one reading and leaves one line in the
log, if there is one, that says what is wrong with it. -/
structure Discards (c : Client) (clock : Readings) (payload : Bytes)
    (taken : Taken) : Prop where
  client : taken.client = c
  clock : taken.clock = clock.advance
  lines : ∃ reason, Worded payload reason ∧
    ∀ portText, lines portText taken.log =
      c.options.sink.toList.map fun sink =>
        (sink, "[SyncClient] discarded datagram: " ++ reason)

/-- The line about an exchange that was rejected, and the median at that
time. -/
def rejectionLine (x : Exchange) (median : Int64) : String :=
  "[SyncClient] " ++
    s!"rejected sample: sent={x.sentAt}us, received={x.receivedAt}us, median rtt={median}us"

/-- The exchange goes into the estimator, and leaves one line in the log, if
there is one and the exchange is rejected. -/
structure Ingests (c : Client) (x : Exchange) (taken : Taken) : Prop where
  estimator : taken.client.estimator = (c.estimator.ingest x).2
  accepted : (c.estimator.ingest x).1 = .accepted → taken.log = []
  rejected : (c.estimator.ingest x).1 = .rejected →
    ∀ portText, lines portText taken.log =
      c.options.sink.toList.map fun sink =>
        (sink, rejectionLine x (c.estimator.ingest x).2.medianRoundTrip)

section Arrivals

variable {c : Client} {polls : List (Except Errno (Nat × Nat))}
  {payload : Bytes}

theorem discards_of_not_carriesReply (hlisten : c.Listening) (clock : Readings)
    (hready : waitEnd? polls = some .readable) (h : ¬ CarriesReply payload) :
    c.Discards clock payload (c.takeTurn clock polls (.ok payload)).2 := by
  rw [takeTurn_of_not_carriesReply hlisten clock hready h]
  refine ⟨rfl, rfl, _, worded_discardText h, fun portText => ?_⟩
  rw [lines_log, text_discarded]

theorem ingests_of_carriesReply (hlisten : c.Listening) (clock : Readings)
    (hready : waitEnd? polls = some .readable) (h : CarriesReply payload) :
    c.Ingests (c.exchangeOf clock payload)
      (c.takeTurn clock polls (.ok payload)).2 := by
  rw [takeTurn_of_carriesReply hlisten clock hready h, takeExchange_eq]
  refine ⟨rfl, fun haccepted => ?_, fun hrejected portText => ?_⟩
  · rw [haccepted]
    rfl
  · rw [if_pos hrejected, lines_log]
    rfl

end Arrivals

/-! ## All datagrams of a session -/

/-- The datagram that an act brings to a client that listens, if any. -/
def Act.datagram? : Act → Option Bytes
  | .turn _ polls received =>
    if waitEnd? polls = some .readable then received.toOption else none
  | _ => none

section Sessions

variable {c : Client}

/-- To a client that listens, each datagram with a reply brings an exchange. -/
theorem length_encounters_calls (h : c.Listening) (act : Act) :
    (c.estimator.encounters (c.calls act)).length =
      act.datagram?.toList.countP fun payload => CarriesReply payload := by
  cases act with
  | start source options attempt =>
    rw [calls, (start_of_listening h source options attempt).1]
    rfl
  | request clock call =>
    rw [calls]
    split <;> rfl
  | turn clock polls received =>
    simp only [calls, exchange?, arrival?, Act.datagram?, and_iff_right h]
    split
    · cases received with
      | error e => rfl
      | ok payload =>
        by_cases hreply : CarriesReply payload
        · simp [Except.toOption, Estimator.encounters, hreply]
        · simp [Except.toOption, Estimator.encounters, hreply]
    · rfl
  | _ => rfl

theorem reset_notMem_calls (h : c.Listening) (act : Act) :
    .reset ∉ c.calls act := by
  cases act with
  | start source options attempt =>
    rw [calls, (start_of_listening h source options attempt).1]
    exact List.not_mem_nil
  | turn clock polls received =>
    rw [calls]
    simp
  | request clock call =>
    rw [calls]
    split <;> decide
  | _ => simp [calls]

theorem calls_of_listening {acts : List Act} (h : c.Listening)
    (hacts : ∀ act ∈ acts, act.isShutdown = false) :
    .reset ∉ c.allCalls acts ∧
      (c.estimator.encounters (c.allCalls acts)).length =
        (acts.filterMap Act.datagram?).countP fun payload =>
          CarriesReply payload := by
  induction acts generalizing c with
  | nil => exact ⟨List.not_mem_nil, rfl⟩
  | cons act acts ih =>
    obtain ⟨hact, hlater⟩ := List.forall_mem_cons.mp hacts
    obtain ⟨hreset, hlength⟩ := ih (h.step hact) hlater
    have hcons : (act :: acts).filterMap Act.datagram? =
        act.datagram?.toList ++ acts.filterMap Act.datagram? := by
      cases hd : act.datagram? <;> simp [hd]
    rw [allCalls]
    constructor
    · rw [List.mem_append, not_or]
      exact ⟨reset_notMem_calls h act, hreset⟩
    · rw [Estimator.encounters_append, List.length_append,
        length_encounters_calls h, ← estimator_step, hlength, hcons,
        List.countP_append]

theorem received_run (h : c.Listening) {acts : List Act}
    (hacts : ∀ act ∈ acts, act.isShutdown = false) :
    (c.run acts).statistics.received = c.statistics.received +
      (acts.filterMap Act.datagram?).countP fun payload =>
        CarriesReply payload := by
  obtain ⟨hreset, hlength⟩ := calls_of_listening h hacts
  rw [statistics, estimator_run, Estimator.received_run hreset, hlength]
  rfl

theorem rejected_run (h : c.Listening) {acts : List Act}
    (hacts : ∀ act ∈ acts, act.isShutdown = false) :
    (c.run acts).statistics.rejected = c.statistics.rejected +
      (c.estimator.encounters (c.allCalls acts)).countP fun (e, x) =>
        (e.ingest x).1 = .rejected := by
  obtain ⟨hreset, _⟩ := calls_of_listening h hacts
  rw [statistics, estimator_run, Estimator.rejected_run hreset]
  rfl

end Sessions

/-- From a start on, as long as the client is not shut down: the counters of
received and of rejected replies are the number of datagrams with a reply and of
exchanges that were rejected, and a shutdown leaves them so. A further datagram
without a reply is thrown away, and the reply of any other goes into the
estimator. -/
theorem accounts_for_datagrams {c₀ : Client} {source : ClockSource}
    {options : Options} {remote : Endpoint} {socket writer reader : Handle}
    {acts : List Act}
    (hstart : (c₀.start source options
      (.complete remote socket (some (writer, reader)))).ok = true)
    (hacts : ∀ act ∈ acts, act.isShutdown = false) :
    let started :=
      (c₀.start source options
        (.complete remote socket (some (writer, reader)))).client
    let c := started.run acts
    c.statistics.received =
      ((acts.filterMap Act.datagram?).countP fun payload =>
        CarriesReply payload) ∧
    c.statistics.rejected =
      ((started.estimator.encounters (started.allCalls acts)).countP
        fun (e, x) =>
        (e.ingest x).1 = .rejected) ∧
    c.statistics.rejected ≤ c.statistics.received ∧
    (∀ writes lastPolls,
      (c.step (.shutdown writes lastPolls)).statistics = c.statistics) ∧
    ∀ clock polls payload, waitEnd? polls = some .readable →
      (¬ CarriesReply payload →
        c.Discards clock payload (c.takeTurn clock polls (.ok payload)).2) ∧
      (CarriesReply payload →
        c.Ingests (c.exchangeOf clock payload)
          (c.takeTurn clock polls (.ok payload)).2) := by
  intro started c
  have hlisten : started.Listening := listening_of_start hstart
  have hfresh : started.statistics = {} := by
    show (c₀.start _ _ _).client.statistics = {}
    rw [start_of_ok hstart]
    rfl
  have hreceived := received_run hlisten hacts
  have hrejected := rejected_run hlisten hacts
  rw [hfresh, Nat.zero_add] at hreceived hrejected
  refine ⟨hreceived, hrejected, ?_, fun writes lastPolls => ?_,
    fun clock polls payload hready => ?_⟩
  · rw [hreceived, hrejected, ← (calls_of_listening hlisten hacts).2]
    exact List.countP_le_length
  · rw [statistics, estimator_step]
    rfl
  · have hlistening : c.Listening := hlisten.run hacts
    exact ⟨discards_of_not_carriesReply hlistening clock hready,
      ingests_of_carriesReply hlistening clock hready⟩

/-- One reply, then a fragment of one: one reply was received, and another
fragment is thrown away. -/
theorem accounts_for_reply_and_fragment :
    let options := { Options.default with sink := some ⟨0⟩ }
    let started :=
      (({} : Client).start (.given 0) options
        (.complete {} 3 (some (4, 5)))).client
    let reply := ((Packet.request 100).reply 5000).serialize
    let c := started.run
      [.turn ⟨300, [], 0⟩ [.ok (1, 0)] (.ok reply),
        .turn ⟨400, [], 1⟩ [.ok (1, 0)] (.ok [0x64])]
    c.statistics.received = 1 ∧
      c.Discards ⟨500, [], 2⟩ [0x64]
        (c.takeTurn ⟨500, [], 2⟩ [.ok (1, 0)] (.ok [0x64])).2 ∧
      c.Ingests (c.exchangeOf ⟨500, [], 2⟩ reply)
        (c.takeTurn ⟨500, [], 2⟩ [.ok (1, 0)] (.ok reply)).2 := by
  intro options started reply c
  obtain ⟨hreceived, _, _, _, harrival⟩ :=
    @accounts_for_datagrams {} (.given 0) options {} 3 4 5
      [.turn ⟨300, [], 0⟩ [.ok (1, 0)] (.ok reply),
        .turn ⟨400, [], 1⟩ [.ok (1, 0)] (.ok [0x64])]
      rfl (by simp [Act.isShutdown])
  refine ⟨hreceived.trans (by decide +kernel),
    (harrival _ _ _ (by decide)).1 (by decide),
    (harrival _ _ _ (by decide)).2 (by decide +kernel)⟩

end Client

end ClockSync
