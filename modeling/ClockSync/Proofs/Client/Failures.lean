import ClockSync.Proofs.Client.Datagrams
import ClockSync.Proofs.Client.RestartedSessions
import ClockSync.Proofs.Client.Sessions
import ClockSync.Proofs.Hosts

/-!
# Calls of the receiving loop that fail

A poll or a receive may fail for a while. The datagram that lies in the queue is
taken in once the calls succeed, as if nothing had failed but at a later reading
of the clock (`Session.loses_nothing`). A poll that was interrupted is made
again within the same wait and leaves no trace; any other failure takes one
reading and one line in the log.

A script plays a sequence of failures (`Plays`) if the calls of the loop meet
them one after the other; among them is the error that the socket has to tell,
if any. Each of them costs the loop at most a turn, so the argument is by
induction on the failures, with one turn of the loop for each constructor.
-/

namespace ClockSync

/-- The next reading, after `i` others were taken. -/
theorem Readings.next_iterate_advance (r : Readings) (i : Nat) :
    (Readings.advance^[i] r).next = r.nth i := by
  induction i generalizing r with
  | zero => rfl
  | succ i ih => exact ih r.advance

namespace Client

open Net Wire

/-! ## Failures -/

/-- A call of the receiving loop that failed. -/
inductive Failure where
  | poll (errno : Errno)
  | receive (errno : Errno)
deriving DecidableEq, Repr

namespace Failure

/-- What is logged of the failure. A poll that was interrupted is made again. -/
def event? : Failure → Option Event
  | poll errno =>
    if errno = .interrupted then none else some (.waitFailed (.poll errno))
  | receive errno => some (.receiveFailed (.socket (.receive errno)))

/-- The error that the failure leaves behind. -/
def error? : Failure → Option ChannelError
  | poll errno => if errno = .interrupted then none else some (.poll errno)
  | receive errno => some (.socket (.receive errno))

/-- The line of the failure. -/
def line? : Failure → Option String
  | poll errno =>
    if errno = .interrupted then none
    else some ("[SyncClient] wait failed: " ++ errno.describe "poll failed")
  | receive errno =>
    some ("[SyncClient] failed to receive: " ++
      errno.describe "recvfrom failed")

theorem text_event? (portText : UInt16 → String) (f : Failure) :
    f.event?.map (Event.text portText) = f.line? := by
  cases f with
  | poll errno =>
    rw [event?, line?]
    split
    · rfl
    · exact congrArg some String.append_assoc.symm
  | receive errno => exact congrArg some String.append_assoc.symm

end Failure

/-! ## Scripts that play failures -/

/-- The next poll says that there is something to read, by itself or as it is
scripted. -/
inductive Ready : Script → Script → Prop where
  | unscripted {script : Script} (h : script.next .poll = none) :
      Ready script script
  | scripted {script later : Script} {value : Int} {events : List Nat}
      (h : script.next .poll = some (.returns value events, later))
      (hvalue : 0 ≤ value)
      (hevents : Channel.eventsToWait (events.headD 0)
        ((events.drop 1).headD 0) = .readable) :
      Ready script later

theorem Ready.length_le {script later : Script} (h : Ready script later) :
    later.length ≤ script.length := by
  cases h with
  | unscripted _ => exact Nat.le_refl _
  | scripted hpoll _ _ => exact Nat.le_of_succ_le (Script.length_next hpoll).le

/-- The script has these failures happen one after the other, and then lets the
next datagram be received. An error that the socket has to tell is the failure
of the first receive that is not scripted. The last script is what is left. -/
inductive Plays : Script → Option Errno → List Failure → Script → Prop where
  | received {script later : Script} (hready : Ready script later)
      (hreceive : later.next .receive = none) : Plays script none [] later
  | poll {script later rest : Script} {pending : Option Errno}
      {outcome : Scripted}
      {errno : Errno} {failures : List Failure}
      (hpoll : script.next .poll = some (outcome, later))
      (hfails : outcome.value = .error errno)
      (hplays : Plays later pending failures rest) :
      Plays script pending (.poll errno :: failures) rest
  | receive {script polled later rest : Script} {pending : Option Errno}
      {outcome : Scripted}
      {errno : Errno} {failures : List Failure} (hready : Ready script polled)
      (hreceive : polled.next .receive = some (outcome, later))
      (hfails : outcome.value = .error errno)
      (hplays : Plays later pending failures rest) :
      Plays script pending (.receive errno :: failures) rest
  | pending {script polled rest : Script} {errno : Errno}
      {failures : List Failure}
      (hready : Ready script polled) (hreceive : polled.next .receive = none)
      (hplays : Plays polled none failures rest) :
      Plays script (some errno) (.receive errno :: failures) rest

/-- A script that plays the failures: where a receive is to fail, the poll
before it succeeds. -/
def Failure.script : List Failure → Script
  | [] => []
  | .poll errno :: failures => (.poll, .fails errno) :: script failures
  | .receive errno :: failures =>
    (.poll, .returns 1 [Host.readable]) :: (.receive, .fails errno) ::
      script failures

/-- Every sequence of failures can happen, before the error that the socket has
to tell. -/
theorem plays_script (failures : List Failure) (pending : Option Errno) :
    Plays (Failure.script failures) pending (failures ++
      (pending.map Failure.receive).toList)
      [] := by
  induction failures with
  | nil =>
    cases pending with
    | none => exact .received (.unscripted rfl) rfl
    | some errno =>
      exact .pending (.unscripted rfl) rfl (.received (.unscripted rfl) rfl)
  | cons f failures ih =>
    cases f with
    | poll errno => exact .poll rfl rfl ih
    | receive errno => exact .receive (.scripted rfl (by decide) rfl) rfl rfl ih

namespace Session

/-! ## One turn -/

/-- The receiving loop waits, and a datagram lies first in the queue of its
socket. -/
structure Queued (s : Session) (socket reader : Handle) (data : Socket)
    (d : Datagram) (rest : List Datagram) : Prop where
  looping : s.looping = true
  quitting : s.client.quitting = false
  channel : s.client.channel.socket = some socket
  wakeReader : s.client.channel.wakeReader = some reader
  found : s.system.host.find? socket = some data
  queue : data.queue = d :: rest
  awake : s.system.host.wakeEvents reader = 0

section Turns

variable {s : Session} {socket reader : Handle} {data : Socket} {d : Datagram}
  {rest : List Datagram} {later : Script}

/-- A poll that is scripted, with what follows it if it was interrupted. -/
theorem polls_of_next {outcome : Scripted}
    (h : s.Queued socket reader data d rest)
    (hpoll : s.system.script.next .poll = some (outcome, later)) :
    polls s.system s.client.channel =
      match outcome.value with
      | .error errno =>
        if errno = .interrupted then
          let (outcomes, system) :=
            polls { s.system with script := later } s.client.channel
          (.error errno :: outcomes, system)
        else ([.error errno], { s.system with script := later })
      | .ok _ =>
        ([.ok (outcome.events.headD 0, (outcome.events.drop 1).headD 0)],
          { s.system with script := later }) := by
  have hattempts :
      s.system.attempts =
        ({ s.system with script := later } : System).attempts + 1 := by
    rw [System.attempts, System.attempts, Script.length_next hpoll]
  have hcall : s.system.pollBoth socket reader =
      (some (outcome.value.map fun _ =>
        (outcome.events.headD 0, (outcome.events.drop 1).headD 0)),
        { s.system with script := later }) := System.call_of_next hpoll _ _
  simp only [polls, h.channel, h.wakeReader]
  rw [hattempts, System.repeated, hcall]
  cases outcome.value <;> rfl

/-- A poll that is interrupted is made again, and nothing is seen of it. -/
theorem turn_of_interrupted {outcome : Scripted}
    (h : s.Queued socket reader data d rest)
    (hpoll : s.system.script.next .poll = some (outcome, later))
    (hfails : outcome.value = .error .interrupted) :
    s.turn = { s with system.script := later }.turn := by
  have hpolls := polls_of_next h hpoll
  rw [hfails] at hpolls
  rw [turn, turn, hpolls]
  rfl

/-- A socket with a datagram in its queue can be read, also if it has an error
to tell. -/
theorem eventsToWait_of_queued {host : Host} {socket : Handle} {data : Socket}
    (hfind : host.find? socket = some data) (hqueue : data.queue ≠ []) :
    host.events socket ≠ 0 ∧
    Channel.eventsToWait (host.events socket) 0 = .readable := by
  rw [Host.events, hfind]
  dsimp only
  rw [if_pos (Or.inl hqueue)]
  cases data.pending.isSome <;> cases data.isShut <;> decide

theorem polls_of_ready (h : s.Queued socket reader data d rest)
    (hready : Ready s.system.script later) :
    ∃ events wakeEvents, Channel.eventsToWait events wakeEvents = .readable ∧
      polls s.system s.client.channel =
        ([.ok (events, wakeEvents)], { s.system with script := later }) := by
  generalize hscript : s.system.script = script at hready
  cases hready with
  | unscripted hpoll =>
    rw [← hscript] at hpoll ⊢
    obtain ⟨hevents, hend⟩ := eventsToWait_of_queued h.found (by simp [h.queue])
    have hcall : s.system.pollBoth socket reader =
        (some (.ok (s.system.host.events socket, 0)), s.system) := by
      rw [System.pollBoth, System.call_of_next_none hpoll, h.awake]
      simp [hevents]
    refine ⟨_, _, hend, ?_⟩
    simp only [polls, h.channel, h.wakeReader]
    rw [System.attempts, System.repeated, hcall]
  | @scripted _ value events hpoll hvalue hevents =>
    have hok : (Scripted.returns value events).value = .ok value :=
      if_neg (Int.not_lt.mpr hvalue)
    rw [← hscript] at hpoll
    refine ⟨_, _, hevents, ?_⟩
    rw [polls_of_next h hpoll, hok]
    rfl

/-- What the client takes in of the result of a receive. -/
def intake (s : Session) : Except SocketError Bytes → Taken
  | .ok data =>
    s.client.takeDatagram s.clock.advance data (s.client.reading s.clock 0)
  | .error e =>
    ⟨s.client.withError (some (.socket e)), s.clock.advance,
      s.client.log (.receiveFailed (.socket e))⟩

theorem turn_of_received {system : System} (result : Except SocketError Bytes)
    (h : s.Queued socket reader data d rest)
    (hready : Ready s.system.script later)
    (hcall : receiveCall { s.system with script := later }
      receiveLimit s.buffer socket = (some result, system)) :
    s.turn = (.goesOn,
      { s with
        client := (s.intake result).client
        clock := (s.intake result).clock
        system
        buffer := result.toOption.getD []
        looping := true },
      (s.intake result).log) := by
  obtain ⟨events, wakeEvents, hend, hpolls⟩ := polls_of_ready h hready
  have hwait : s.client.channel.wait [.ok (events, wakeEvents)] =
      (some .readable, s.client.channel) := by
    refine (Channel.wait_of_readable ?_).2
    rw [Channel.wait_fst (by simp [h.channel]) (by simp [h.wakeReader])]
    exact congrArg some hend
  have hreceive : s.client.receiveTurn s.clock [.ok (events, wakeEvents)]
      (fun h =>
        (receiveCall { s.system with script := later } receiveLimit
          s.buffer h).1) =
        (.goesOn, s.intake result) := by
    rw [receiveTurn, hwait]
    dsimp only
    rw [if_neg (by rw [h.quitting]; decide), Channel.receive, h.channel]
    dsimp only
    rw [hcall]
    cases result <;> rfl
  simp only [turn, hpolls, hreceive, uninterrupted?, hend, h.quitting,
    h.channel]
  cases result with
  | ok data => simp [hcall, Except.toOption]
  | error e => simp [hcall, Except.toOption]

/-- A poll that fails leaves its error and one line, and takes one reading. -/
theorem turn_of_poll_failed {outcome : Scripted} {errno : Errno}
    (h : s.Queued socket reader data d rest)
    (hpoll : s.system.script.next .poll = some (outcome, later))
    (hfails : outcome.value = .error errno) (herrno : errno ≠ .interrupted) :
    s.turn = (.goesOn,
      { s with
        client := s.client.withError (some (.poll errno))
        clock := s.clock.advance
        system := { s.system with script := later }
        looping := true },
      s.client.log (.waitFailed (.poll errno))) := by
  have hpolls := polls_of_next h hpoll
  rw [hfails] at hpolls
  dsimp only at hpolls
  rw [if_neg herrno] at hpolls
  have hwait : s.client.channel.wait [.error errno] =
      (some (.failed (.poll errno)),
        { s.client.channel with lastError := some (.poll errno) }) := by
    simp only [Channel.wait, h.channel, h.wakeReader, uninterrupted?,
      if_neg herrno]
  have hreceive (call : Handle → Option (Except SocketError Bytes)) :
      s.client.receiveTurn s.clock [.error errno] call =
        (.goesOn, ⟨s.client.withError (some (.poll errno)), s.clock.advance,
          s.client.log (.waitFailed (.poll errno))⟩) := by
    rw [receiveTurn, hwait]
    dsimp only
    rw [if_neg (by rw [h.quitting]; decide)]
    rfl
  simp only [turn, hpolls, hreceive, uninterrupted?, if_neg herrno, h.channel]
  simp

/-- A receive that fails leaves its error and one line, and takes one
reading. -/
theorem turn_of_receive_failed {polled : Script} {system : System}
    {errno : Errno} (h : s.Queued socket reader data d rest)
    (hready : Ready s.system.script polled)
    (hcall : { s.system with script := polled }.receive
      socket receiveLimit s.buffer = (some (.error errno), system)) :
    s.turn = (.goesOn,
      { s with
        client := s.client.withError (some (.socket (.receive errno)))
        clock := s.clock.advance
        system
        buffer := []
        looping := true },
      s.client.log (.receiveFailed (.socket (.receive errno)))) := by
  refine turn_of_received (.error (.receive errno)) h hready ?_
  rw [receiveCall, DatagramSocket.receive]
  dsimp only
  rw [hcall]
  rfl

/-- A receive that succeeds takes the first datagram off the queue. -/
theorem turn_of_queue (h : s.Queued socket reader data d rest)
    (hpending : data.pending = none) (hready : Ready s.system.script later)
    (hreceive : later.next .receive = none) :
    s.turn = (.goesOn,
      { s with
        client := (s.intake (.ok (d.payload.take receiveLimit))).client
        clock := (s.intake (.ok (d.payload.take receiveLimit))).clock
        system := ⟨s.system.host.put { data with queue := rest }, later⟩
        buffer := d.payload.take receiveLimit
        looping := true },
      (s.intake (.ok (d.payload.take receiveLimit))).log) := by
  refine turn_of_received (.ok (d.payload.take receiveLimit)) h hready ?_
  rw [receiveCall, DatagramSocket.receive]
  dsimp only
  rw [System.receive, System.call_of_next_none hreceive,
    Host.receive_of_queue h.found hpending h.queue]
  rfl

end Turns

/-! ## All turns up to the datagram -/

/-- What the client takes in of the bytes that it receives, if it notices them
at the reading after `i` others. -/
def takenAt (s : Session) (i : Nat) (data : Bytes) : Taken :=
  s.client.takeDatagram (Readings.advance^[i + 1] s.clock)
    data (s.client.reading s.clock i)

/-- The session once the bytes are taken in, after failures that left these
errors. Of the client, that changes the estimator, what was measured and the
last error. -/
def afterErrors (s : Session) (errors : List ChannelError) (data : Bytes)
    (system : System) :
    Session :=
  let taken := s.takenAt errors.length data
  { s with
    client :=
      { s.client.withError (errors.getLast?.or s.client.channel.lastError) with
        estimator := taken.client.estimator
        monitor := taken.client.monitor }
    clock := taken.clock
    system
    looping := true
    buffer := data }

section Failures

variable {s s' : Session} {socket reader : Handle} {data : Socket}
  {d : Datagram}
  {rest : List Datagram} {later : Script}

/-- Taking in a datagram changes the estimator and what was measured. -/
theorem client_takenAt (s : Session) (i : Nat) (data : Bytes) :
    (s.takenAt i data).client =
      { s.client with
        estimator := (s.takenAt i data).client.estimator
        monitor := (s.takenAt i data).client.monitor } := by
  rw [takenAt, Function.iterate_succ_apply', takeDatagram]
  cases Packet.decodeReply data with
  | error what => rfl
  | ok reply =>
    dsimp only
    rw [takeExchange_eq]

theorem afterErrors_nil (s : Session) (data : Bytes) (system : System) :
    s.afterErrors [] data system =
      { s with
        client := (s.takenAt 0 data).client
        clock := (s.takenAt 0 data).clock
        system
        looping := true
        buffer := data } := by
  rw [client_takenAt]
  rfl

/-- The session after a failure: the clock may have been read, and nobody was
woken. -/
structure Failed (s s' : Session) (clock : Readings)
    (error : Option ChannelError) : Prop where
  client : s'.client = s.client.withError error
  clock : s'.clock = clock
  pairs : s'.system.host.pairs = s.system.host.pairs
  peer : s'.peer = s.peer
  looping : s'.looping = true

theorem Queued.find_told (h : s.Queued socket reader data d rest) :
    (s.system.host.put data.told).find? socket = some data.told :=
  have hhandle : data.handle = socket := Host.handle_of_find? h.found
  Host.find?_put_self h.found hhandle

/-- The datagram is still there, also if the socket has told its error. -/
theorem Queued.of_failed {clock : Readings} {error : Option ChannelError}
    {data' : Socket} (h : s.Queued socket reader data d rest)
    (hfailed : s.Failed s' clock error)
    (hfound : s'.system.host.find? socket = some data')
    (hqueue : data'.queue = d :: rest) :
    s'.Queued socket reader data' d rest where
  looping := hfailed.looping
  quitting := by rw [hfailed.client]; exact h.quitting
  channel := by rw [hfailed.client]; exact h.channel
  wakeReader := by rw [hfailed.client]; exact h.wakeReader
  found := hfound
  queue := hqueue
  awake := by rw [Host.wakeEvents, hfailed.pairs]; exact h.awake

theorem settle_of_goesOn {log : Log} (hlooping : s.looping = true)
    (hturn : s.turn = (.goesOn, s', log)) (fuel : Nat) :
    settle (fuel + 1) s = ((settle fuel s').1, log ++ (settle fuel s').2) := by
  rw [settle, if_neg (by simp [hlooping]), hturn]

/-- The loop comes to take the datagram in after failures that left these errors
and events. -/
def Recovers (s : Session) (errors : List ChannelError) (events : List Event)
    (data : Bytes) (system : System) : Prop :=
  ∀ fuel, settle (errors.length + 1 + fuel) s =
    ((settle fuel (s.afterErrors errors data system)).1,
      events.flatMap s.client.log ++ (s.takenAt errors.length data).log ++
        (settle fuel (s.afterErrors errors data system)).2)

/-- A failure that took a reading comes before the others. -/
theorem Recovers.cons {e : ChannelError} {event : Event}
    {errors : List ChannelError} {events : List Event} {data : Bytes}
    {system : System} (hlooping : s.looping = true)
    (hturn : s.turn = (.goesOn, s', s.client.log event))
    (hfailed : s.Failed s' s.clock.advance (some e))
    (h : s'.Recovers errors events data system) :
    s.Recovers (e :: errors) (event :: events) data system := by
  intro fuel
  have htaken : s'.takenAt errors.length data =
      (s.takenAt (errors.length + 1) data).withPast 0 (some e) := by
    rw [takenAt, hfailed.client, hfailed.clock]
    exact s.client.takeDatagram_withPast 0 (some e) _ data _
  have hlast : (e :: errors).getLast?.or s.client.channel.lastError =
      errors.getLast?.or (some e) := by
    rw [List.getLast?_cons]
    cases errors.getLast? <;> rfl
  have hafter : s'.afterErrors errors data system =
      s.afterErrors (e :: errors) data system := by
    rw [afterErrors, afterErrors, htaken, hlast, hfailed.peer, hfailed.client]
    rfl
  have hlog : s'.client.log = s.client.log := by
    rw [hfailed.client]
    rfl
  have hlength : (e :: errors).length + 1 + fuel =
      errors.length + 1 + fuel + 1 := by
    rw [List.length_cons]
    omega
  rw [hlength, settle_of_goesOn hlooping hturn, h fuel, hafter, htaken, hlog,
    List.flatMap_cons, List.append_assoc, List.append_assoc, List.append_assoc]
  rfl

/-- If its next turn is the same, a session with another script recovers the
same. -/
theorem Recovers.of_turn {script : Script} {errors : List ChannelError}
    {events : List Event} {data : Bytes} {system : System}
    (hlooping : s.looping = true)
    (hturn : s.turn = { s with system.script := script }.turn)
    (h : { s with system.script := script }.Recovers errors
      events data system) :
    s.Recovers errors events data system := by
  intro fuel
  have hsame : settle (errors.length + fuel + 1) s =
      settle (errors.length + fuel + 1) { s with system.script := script } := by
    have hruns : ¬ ¬ s.looping = true := by simp [hlooping]
    rw [settle, settle, hturn, if_neg hruns, if_neg hruns]
  rw [Nat.add_right_comm, hsame, Nat.add_right_comm]
  exact h fuel

/-- The loop meets the failures one after the other and then takes the datagram
in. -/
theorem recovers_of_plays {script : Script} {pending : Option Errno}
    {failures : List Failure} (hplays : Plays script pending failures later)
    (hscript : s.system.script = script) (hpending : data.pending = pending)
    (h : s.Queued socket reader data d rest) :
    s.Recovers (failures.filterMap Failure.error?)
      (failures.filterMap Failure.event?)
      (d.payload.take receiveLimit)
      ⟨s.system.host.put { data.told with queue := rest }, later⟩ := by
  induction hplays generalizing s data with
  | received hready hreceive =>
    subst hscript
    intro fuel
    have hturn := turn_of_queue h hpending hready hreceive
    rw [List.filterMap_nil, List.length_nil, Nat.zero_add, Nat.add_comm,
      settle_of_goesOn h.looping hturn, afterErrors_nil, Socket.told,
      ← hpending]
    rfl
  | @poll _ polled _ _ _ errno failures hpoll hfails _ ih =>
    subst hscript
    by_cases herrno : errno = .interrupted
    · subst herrno
      have hfailed : s.Failed { s with system.script := polled } s.clock
          s.client.channel.lastError := ⟨rfl, rfl, rfl, rfl, h.looping⟩
      have hlater := ih rfl hpending (h.of_failed hfailed h.found h.queue)
      exact hlater.of_turn h.looping (turn_of_interrupted h hpoll hfails)
    · have herror : Failure.error? (.poll errno) = some (.poll errno) :=
        if_neg herrno
      have hevent : Failure.event? (.poll errno) =
          some (.waitFailed (.poll errno)) :=
        if_neg herrno
      rw [List.filterMap_cons_some herror, List.filterMap_cons_some hevent]
      have hturn := turn_of_poll_failed h hpoll hfails herrno
      exact Recovers.cons h.looping hturn ⟨rfl, rfl, rfl, rfl, rfl⟩
        (ih rfl hpending (h.of_failed ⟨rfl, rfl, rfl, rfl, rfl⟩
          h.found h.queue))
  | receive hready hreceive hfails _ ih =>
    subst hscript
    have hturn := turn_of_receive_failed h hready
      (by rw [System.receive, System.call_of_next hreceive, hfails]; rfl)
    exact Recovers.cons h.looping hturn ⟨rfl, rfl, rfl, rfl, rfl⟩
      (ih rfl hpending (h.of_failed ⟨rfl, rfl, rfl, rfl, rfl⟩ h.found h.queue))
  | pending hready hreceive _ ih =>
    subst hscript
    have hturn := turn_of_receive_failed h hready
      (by rw [System.receive, System.call_of_next_none hreceive,
        Host.receive_of_pending h.found hpending])
    rw [← Host.put_told s.system.host data rest]
    exact Recovers.cons h.looping hturn ⟨rfl, rfl, rfl, rfl, rfl⟩
      (ih rfl data.pending_told
        (h.of_failed ⟨rfl, rfl, rfl, rfl, rfl⟩ h.find_told h.queue))

/-! ## What is left -/

/-- Each failure that is noted uses up an outcome of the script, or the error
that the socket has to tell. -/
theorem length_of_plays {script : Script} {pending : Option Errno}
    {failures : List Failure} (hplays : Plays script pending failures later) :
    (failures.filterMap Failure.error?).length ≤
      script.length + pending.toList.length := by
  induction hplays with
  | received _ _ => exact Nat.zero_le _
  | @poll _ _ _ _ _ errno failures hpoll _ _ ih =>
    have hshorter := Script.length_next hpoll
    have herrors :
        ((Failure.poll errno :: failures).filterMap Failure.error?).length ≤
        (failures.filterMap Failure.error?).length + 1 := by
      rw [List.filterMap_cons]
      split
      · exact Nat.le_succ _
      · exact Nat.le_refl _
    omega
  | @receive _ _ _ _ _ _ errno failures hready hreceive _ _ ih =>
    have hshorter := Script.length_next hreceive
    have hpolled := hready.length_le
    have herrors :
        ((Failure.receive errno :: failures).filterMap Failure.error?).length =
        (failures.filterMap Failure.error?).length + 1 := rfl
    omega
  | @pending _ _ _ errno failures hready _ _ ih =>
    have hpolled := hready.length_le
    have herrors :
        ((Failure.receive errno :: failures).filterMap Failure.error?).length =
        (failures.filterMap Failure.error?).length + 1 := rfl
    simp only [Option.toList, List.length_nil, List.length_singleton] at ih ⊢
    omega

/-- With nothing in the queue the loop waits, and nothing changes. -/
theorem settle_of_nothing (hlooping : s.looping = true)
    (hchannel : s.client.channel.socket = some socket)
    (hreader : s.client.channel.wakeReader = some reader)
    (hfound : s.system.host.find? socket = some data)
    (hpending : data.pending = none) (hqueue : data.queue = [])
    (hshut : data.isShut = false) (hawake : s.system.host.wakeEvents reader = 0)
    (hpoll : s.system.script.next .poll = none) (fuel : Nat) :
    settle fuel s = (s, []) := by
  have hcall : s.system.pollBoth socket reader = (none, s.system) := by
    rw [System.pollBoth, System.call_of_next_none hpoll, hawake]
    simp [Host.events, hfound, hpending, hqueue, hshut]
  have hpolls : polls s.system s.client.channel = ([], s.system) := by
    simp only [polls, hchannel, hreader]
    rw [System.attempts, System.repeated, hcall]
  have hturn : s.turn = (.blocked, s, []) := by
    have hwait : s.client.channel.wait [] = (none, s.client.channel) := by
      simp only [Channel.wait, hchannel, hreader, uninterrupted?]
    simp only [turn, hpolls, receiveTurn, hwait, uninterrupted?, hchannel]
    show (Turn.blocked, { s with looping := true }, ([] : Log)) = _
    rw [← hlooping]
  cases fuel with
  | zero => rfl
  | succ fuel => rw [settle, if_neg (by simp [hlooping]), hturn]

/-- The same session, with another error noted last by the channel. -/
def withError (s : Session) (error : Option ChannelError) : Session :=
  { s with client := s.client.withError error }

/-- The session at the reading after `i` others, on another system. -/
def calm (s : Session) (i : Nat) (system : System) : Session :=
  { s with clock := Readings.advance^[i] s.clock, system }

theorem takenAt_calm (s : Session) (i : Nat) (system : System) (data : Bytes) :
    (s.calm i system).takenAt 0 data = s.takenAt i data := by
  have hnow : (s.calm i system).client.reading (s.calm i system).clock 0 =
      s.client.reading s.clock i :=
    congrArg s.client.clock.timeAt (s.clock.next_iterate_advance i)
  rw [takenAt, hnow, takenAt, Function.iterate_succ_apply' _ i]
  rfl

/-- But for the last error, failures come to what comes of none at a later
reading. -/
theorem afterErrors_eq_calm (s : Session) (errors : List ChannelError)
    (data : Bytes) (system left : System) :
    s.afterErrors errors data left =
      ((s.calm errors.length system).afterErrors [] data left).withError
        (errors.getLast?.or s.client.channel.lastError) := by
  rw [afterErrors, afterErrors, List.length_nil, takenAt_calm]
  rfl

/-- But for the last error and what is logged of the failures, the loop comes to
what it would have come to without them at a later reading. -/
theorem Recovers.calm {system left : System} {errors : List ChannelError}
    {events : List Event} {data : Bytes}
    (h : s.Recovers errors events data left)
    (hcalm : (s.calm errors.length system).Recovers [] [] data left)
    (fuel : Nat) :
    ∃ error, settle (errors.length + 1 + fuel) s =
      ((settle (1 + fuel) (s.calm errors.length system)).1.withError error,
        events.flatMap s.client.log ++
          (settle (1 + fuel) (s.calm errors.length system)).2) := by
  obtain ⟨error, hlater⟩ :=
    ((s.calm errors.length system).afterErrors [] data left).settle_withPast 0
      (errors.getLast?.or s.client.channel.lastError) fuel
  have hafter : settle fuel (s.afterErrors errors data left) =
      ((settle fuel ((s.calm errors.length system).afterErrors
        [] data left)).1.withError error,
        (settle fuel ((s.calm errors.length system).afterErrors
          [] data left)).2) := by
    rw [s.afterErrors_eq_calm errors data system]
    exact hlater
  have hsettle := hcalm fuel
  rw [List.length_nil, Nat.zero_add, List.flatMap_nil, List.nil_append,
    takenAt_calm] at hsettle
  refine ⟨error, ?_⟩
  rw [h fuel, hafter, hsettle, List.append_assoc]

theorem lines_flatMap_log (c : Client) (portText : UInt16 → String)
    (failures : List Failure) :
    lines portText ((failures.filterMap Failure.event?).flatMap c.log) =
      (failures.filterMap Failure.line?).flatMap fun line =>
        c.options.sink.toList.map fun sink => (sink, line) := by
  have htexts : failures.filterMap Failure.line? =
      (failures.filterMap Failure.event?).map (Event.text portText) := by
    rw [List.map_filterMap]
    exact List.filterMap_congr fun f _ => (f.text_event? portText).symm
  rw [htexts, lines, List.map_flatMap, List.flatMap_map]
  congr 1
  funext event
  exact lines_log c portText event

/-- Whatever polls and receives fail before, the datagram that lies in the queue
is taken in once. -/
theorem loses_nothing {failures : List Failure}
    (h : s.Queued socket reader data d rest)
    (hplays : Plays s.system.script data.pending failures later) :
    let errors := failures.filterMap Failure.error?
    let noted := (failures.filterMap Failure.event?).flatMap s.client.log
    let received := d.payload.take receiveLimit
    let after := s.afterErrors errors received
      ⟨s.system.host.put { data.told with queue := rest }, later⟩
    let log := noted ++ (s.takenAt errors.length received).log
    errors.length < s.turns ∧
    (∀ fuel, settle (errors.length + 1 + fuel) s =
      ((settle fuel after).1, log ++ (settle fuel after).2)) ∧
    (∀ script, Plays script none [] later → ∀ fuel, ∃ error,
      let calm := settle (1 + fuel) (s.calm errors.length
        ⟨s.system.host.put data.told, script⟩)
      settle (errors.length + 1 + fuel) s =
        (calm.1.withError error, noted ++ calm.2)) ∧
    (rest = [] → data.isShut = false → later.next .poll = none →
      s.run = (after, log)) ∧
    ∀ portText, lines portText noted =
      (failures.filterMap Failure.line?).flatMap fun line =>
      s.client.options.sink.toList.map fun sink => (sink, line) := by
  intro errors noted received after log
  have hrecovers : s.Recovers errors _ received _ :=
    recovers_of_plays hplays rfl rfl h
  have hturns : errors.length < s.turns := by
    have hlength : errors.length ≤
        s.system.script.length + data.pending.toList.length :=
      length_of_plays hplays
    have htold : data.pending.toList.length ≤ 1 := by
      cases data.pending with
      | none => exact Nat.zero_le 1
      | some _ => exact Nat.le_refl 1
    rw [turns]
    omega
  refine ⟨hturns, hrecovers, ?_, ?_, (lines_flatMap_log s.client · failures)⟩
  · intro script hcalm fuel
    have hqueued :
        (s.calm errors.length ⟨s.system.host.put data.told, script⟩).Queued
        socket reader data.told d rest :=
      ⟨h.looping, h.quitting, h.channel, h.wakeReader, h.find_told,
        h.queue, h.awake⟩
    have hnone :
        (s.calm errors.length ⟨s.system.host.put data.told, script⟩).Recovers
          [] [] received
          ⟨s.system.host.put { data.told with queue := rest }, later⟩ := by
      rw [← Host.put_told s.system.host data rest]
      exact recovers_of_plays hcalm rfl data.pending_told hqueued
    exact hrecovers.calm hnone fuel
  · intro hrest hshut hpoll
    subst hrest
    obtain ⟨fuel, hfuel⟩ := Nat.exists_eq_add_of_lt hturns
    have hhandle : data.handle = socket := Host.handle_of_find? h.found
    have hfound : after.system.host.find? socket =
        some { data.told with queue := [] } :=
      Host.find?_put_self h.found hhandle
    have hnothing : settle fuel after = (after, []) :=
      settle_of_nothing (s := after) rfl h.channel h.wakeReader hfound rfl rfl
        hshut h.awake hpoll fuel
    rw [run, hfuel, Nat.add_right_comm, hrecovers fuel, hnothing,
      List.append_nil]

end Failures

/-- A receive is interrupted, then so is a poll, another poll fails, and a
receive is told that an earlier request was refused. The reply is received once,
at the fourth reading, after three lines. -/
theorem loses_nothing_of_four_failures :
    let options := { Options.default with sink := some ⟨1⟩ }
    let failures : List Failure :=
      [.receive .interrupted, .poll .interrupted, .poll ⟨12⟩]
    let d : Datagram :=
      ⟨⟨.loopback, 9⟩, ((Packet.request 100).reply 5000).serialize⟩
    let data : Socket :=
      { handle := 3, pending := some .connectionRefused, queue := [d] }
    let s : Session :=
      { client := (({} : Client).start (.given 0) options
        (.complete {} 3 (some (4, 5)))).client
        system :=
          { host :=
              { loopbackUp := true
                sockets := [data]
                pairs := [{ writeEnd := 4, readEnd := 5 }] }
            script := Failure.script failures }
        clock := { next := 300, later := [301, 302, 303, 304] }
        peer := 6
        looping := true }
    s.run.1.client.statistics.received = 1 ∧
    s.run.1.client.estimator.roundTrips.toList = [203] ∧
      s.run.1.clock.taken = 4 ∧ s.run.1.looping = true ∧
      lines (fun _ => "PORT") s.run.2 =
        [(⟨1⟩, "[SyncClient] failed to receive: recvfrom failed (errno 4: " ++
            "Interrupted system call)"),
          (⟨1⟩,
            "[SyncClient] wait failed: poll failed (errno 12: Cannot allocate memory)"),
          (⟨1⟩,
            "[SyncClient] failed to receive: recvfrom failed (errno 111: " ++
            "Connection refused)")] := by
  intro options failures d data s
  have hqueued : s.Queued 3 5 data d [] := ⟨rfl, rfl, rfl, rfl, rfl, rfl, rfl⟩
  obtain ⟨_, _, _, hrun, hlines⟩ :=
    loses_nothing hqueued (plays_script failures (some .connectionRefused))
  have hlog : (s.takenAt 3 (d.payload.take receiveLimit)).log = [] := by
    decide +kernel
  rw [hrun rfl rfl rfl]
  refine ⟨by decide +kernel, by decide +kernel, by decide +kernel, rfl, ?_⟩
  show lines _ (_ ++ (s.takenAt 3 (d.payload.take receiveLimit)).log) = _
  rw [hlog, List.append_nil, hlines]
  decide +kernel

end Session

end Client

end ClockSync
