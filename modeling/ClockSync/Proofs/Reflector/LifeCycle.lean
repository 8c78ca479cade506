import ClockSync.Proofs.Phases
import ClockSync.Proofs.Reflector.Sessions

/-!
# The life cycle of a reflector

A session starts and stops its reflector and lets it serve in between. Serving
changes neither whether it serves nor where, nor what it was started with
(`Receives.exchange`). So the socket is open and the port known only while the
reflector serves (`Settled`), and it serves from a start that binds a socket to
the next stop (`serving_run_iff`, `serving_after_iff`). A datagram that comes
while it does not serve reaches nobody (`exchange_of_closed`).
-/

namespace ClockSync

namespace Net.DatagramSocket

/-! ## Traffic on a socket -/

variable (socket : DatagramSocket) (system : System)

theorem handle_settle {α : Type} (result : Except SocketError α) :
    (socket.settle system result).2.1.handle = socket.handle := by
  cases result <;> rfl

theorem handle_sendTo (target : Endpoint) (payload : List UInt8) :
    (socket.sendTo system target payload).2.1.handle = socket.handle := by
  rw [sendTo]
  split
  · exact handle_settle _ _ _
  · exact handle_settle _ _ _
  · exact handle_settle _ _ _

theorem handle_receive {socket : DatagramSocket} {system : System} {max : Nat}
    {before : List UInt8} {outcome : Outcome Datagram}
    (h : socket.receive system max before = some outcome) :
    outcome.2.1.handle = socket.handle := by
  rw [receive] at h
  split at h
  · cases h
    exact handle_settle _ _ _
  · split at h
    · cases h
    · cases h
      exact handle_settle _ _ _

end Net.DatagramSocket

namespace Reflector

open Net Wire

/-! ## Acts -/

/-- Whether an act starts a reflector that does not serve. -/
def Act.isStart : Act → Bool
  | .start _ _ (.ok _) => true
  | _ => false

/-- Whether an act stops the reflector. -/
def Act.isStop : Act → Bool
  | .stop => true
  | _ => false

/-- A reflector serves after an act if that is a start with a socket that could
be bound, or if it served and is not stopped. -/
theorem serving_step_iff (r : Reflector) (act : Act) :
    (r.step act).serving = true ↔
      act.isStart = true ∨ r.serving = true ∧ ¬ act.isStop = true := by
  cases act with
  | start source options bound =>
    cases hserving : r.serving <;> cases bound <;>
      simp [step, start, fail, hserving, Act.isStart, Act.isStop]
  | stop =>
    cases hserving : r.serving <;>
      simp [step, stop, hserving, Act.isStart, Act.isStop]
  | receive clock received send =>
    rw [step, reflector_handle]
    simp [Act.isStart, Act.isStop]

/-- A new reflector serves if and only if the last start that could bind a
socket was not followed by a stop. -/
theorem serving_run_iff (acts : List Act) :
    (run {} acts).serving = true ↔
      ∃ before act later, acts = before ++ act :: later ∧ act.isStart = true ∧
        ∀ act ∈ later, act.isStop = false := by
  have hbegun :=
    foldl_iff_begun step (·.serving = true) (fun _ act => act.isStart = true)
    (·.isStop = true) serving_step_iff (s := {}) Bool.noConfusion acts
  simp only [Bool.not_eq_true] at hbegun
  exact hbegun

/-- A reflector that does not serve has no port. -/
theorem port_run {r : Reflector} (h : r.serving = false → r.port = 0)
    (acts : List Act) :
    (r.run acts).serving = false → (r.run acts).port = 0 := by
  induction acts generalizing r with
  | nil => exact h
  | cons act acts ih =>
    refine ih ?_
    cases act with
    | start source options bound =>
      rw [step, start]
      split
      · exact h
      · cases bound with
        | ok port => exact Bool.noConfusion
        | error e => exact h
    | stop =>
      rw [step, stop]
      split
      · exact fun _ => rfl
      · exact h
    | receive clock received send =>
      rw [step, reflector_handle]
      exact h

namespace Session

/-! ## Serving -/

/-- The reflector did nothing but receive. -/
structure Receives (s later : Session) : Prop where
  reflector : later.reflector =
    { s.reflector with
      counters := later.reflector.counters
      lastError := later.reflector.lastError }
  handle : later.socket.handle = s.socket.handle
  requester : later.requester = s.requester

namespace Receives

variable {s later last : Session}

theorem refl (s : Session) : Receives s s := ⟨rfl, rfl, rfl⟩

theorem trans (h : Receives s later) (h' : Receives later last) :
    Receives s last := by
  refine ⟨?_, h'.handle.trans h.handle, h'.requester.trans h.requester⟩
  rw [h'.reflector, h.reflector]

theorem serving (h : Receives s later) :
    later.reflector.serving = s.reflector.serving := by
  rw [h.reflector]

theorem port (h : Receives s later) :
    later.reflector.port = s.reflector.port := by
  rw [h.reflector]

theorem handleOne {log : Log} (h : s.handleOne = some (later, log)) :
    Receives s later := by
  rw [Session.handleOne] at h
  split at h
  · cases h
  · next received socket system hreceive =>
    have hhandle : socket.handle = s.socket.handle :=
      DatagramSocket.handle_receive hreceive
    cases h
    refine ⟨reflector_handle _ _ _ _, ?_, rfl⟩
    dsimp only
    split
    · exact (DatagramSocket.handle_sendTo _ _ _ _).trans hhandle
    · exact hhandle

theorem serve (fuel : Nat) (s : Session) : Receives s (serve fuel s).1 := by
  induction fuel generalizing s with
  | zero => exact refl s
  | succ fuel ih =>
    have hhandle := (waitReadable_cases s.socket s.system).1
    rw [Session.serve]
    generalize s.socket.waitReadable s.system = waited at hhandle ⊢
    obtain ⟨ready, socket, system⟩ := waited
    have hwaited : Receives s { s with socket, system } := ⟨rfl, hhandle, rfl⟩
    have hidle := hwaited.trans (ih { s with socket, system })
    rcases ready with e | _ | _
    · dsimp only
      split
      · exact hidle
      · exact hwaited
    · dsimp only
      split
      · exact hidle
      · exact hwaited
    · dsimp only
      split
      · exact hwaited
      · next after log hone =>
          exact (hwaited.trans (handleOne hone)).trans (ih after)

theorem exchange (s : Session) (payload : Bytes) :
    Receives s (s.exchange payload).2.1 := by
  have hsent : Receives s (s.sent payload) := ⟨rfl, rfl, rfl⟩
  have hserve := hsent.trans (serve (s.sent payload).passes (s.sent payload))
  rw [exchange_of_serve rfl]
  exact hserve.trans ⟨rfl, rfl, rfl⟩

end Receives

/-! ## Starts and stops -/

/-- A socket that was bound is open, and one that was not is closed. -/
theorem bindSocket_cases (s : Session) (port : UInt16) :
    (∃ e, (s.bindSocket port).1 = .error e ∧
      (s.bindSocket port).2.1.handle = none) ∨
      ∃ bound h, (s.bindSocket port).1 = .ok bound ∧
        (s.bindSocket port).2.1.handle = some h := by
  rw [bindSocket, DatagramSocket.create]
  rcases s.system.socket with ⟨errno | h, system⟩
  · exact Or.inl ⟨_, rfl, rfl⟩
  · dsimp only
    rw [DatagramSocket.bind]
    dsimp only
    rcases system.bind h port with ⟨errno | _, system⟩
    · exact Or.inl ⟨_, rfl, rfl⟩
    · exact Or.inr ⟨_, h, rfl, rfl⟩

section Frames

variable {s : Session}

theorem start_of_serving (h : s.reflector.serving = true) (clock : ClockSource)
    (options : Options) (port : UInt16) :
    s.start clock options port = (true, s, []) := by
  rw [start, if_pos h]

theorem stop_of_not_serving (h : s.reflector.serving = false) : s.stop = s := by
  rw [stop, if_neg (by simp [h])]

theorem start_of_bound {bound : UInt16} {port : UInt16}
    (h : s.reflector.serving = false)
    (hbound : (s.bindSocket port).1 = .ok bound) (clock : ClockSource)
    (options : Options) :
    s.start clock options port =
      (true,
        { s with
          reflector :=
            { s.reflector with clock, options, serving := true, port := bound }
          socket := (s.bindSocket port).2.1
          system := (s.bindSocket port).2.2 },
        []) := by
  rw [start, if_neg (by simp [h])]
  simp only [hbound, Reflector.start,
    if_neg (show ¬ s.reflector.serving = true by simp [h])]

theorem start_of_not_bound {e : Error} {port : UInt16}
    (h : s.reflector.serving = false)
    (hbound : (s.bindSocket port).1 = .error e) (clock : ClockSource)
    (options : Options) :
    s.start clock options port =
      (false,
        { s with
          reflector := { s.reflector with clock, options, lastError := some e }
          socket := (s.bindSocket port).2.1
          system := (s.bindSocket port).2.2 },
        report options.sink (.error e)) := by
  rw [start, if_neg (by simp [h])]
  simp only [hbound, Reflector.start,
    if_neg (show ¬ s.reflector.serving = true by simp [h]), fail]

/-- While the socket is closed there is nobody to send to: the other side gets
what it has in its queue, if anything. -/
theorem exchange_of_closed (h : s.socket.handle = none) (payload : Bytes) :
    let sent := (s.system.host.sendTo s.requester ⟨.loopback, 0⟩ payload).2
    let received := sent.receive s.requester packetSize
    ∃ lastError, s.exchange payload =
      (received.1.bind fun outcome => outcome.toOption.map Datagram.payload,
        { s with socket.lastError := lastError, system.host := received.2 },
          []) := by
  intro sent received
  have hsent : s.sent payload = { s with system.host := sent } := by
    simp [Session.sent, h, sent]
  have hserve (fuel : Nat) : ∃ lastError, serve fuel (s.sent payload) =
      ({ s with socket.lastError := lastError, system.host := sent }, []) := by
    rw [hsent]
    cases fuel with
    | zero => exact ⟨s.socket.lastError, rfl⟩
    | succ fuel =>
      refine ⟨some .notInitialized, ?_⟩
      simp [serve, DatagramSocket.waitReadable, h, DatagramSocket.settle]
  obtain ⟨lastError, hserved⟩ := hserve (s.sent payload).passes
  exact ⟨lastError, exchange_of_serve hserved⟩

end Frames

/-! ## Steps -/

/-- The session after an action. -/
def acted (s : Session) : Action → Session
  | .start clock options => (s.start clock options 0).2.1
  | .datagram payload => (s.exchange payload).2.1
  | .stop => s.stop
  | .look => s

/-- The session after a step. -/
def next (s : Session) (what : Step) : Session := (s.step what).2.1

theorem next_eq (s : Session) (what : Step) :
    s.next what =
      { (s.prepare what).acted what.action with
        system :=
          { ((s.prepare what).acted what.action).system with
            script := [] } } := by
  obtain ⟨readings, script, action⟩ := what
  cases action <;> rfl

theorem fst_after (s : Session) (steps : List Step) :
    (s.after steps).1 = steps.foldl next s := by
  induction steps generalizing s with
  | nil => rfl
  | cons what steps ih => exact ih (s.next what)

/-! ## Closed while it does not serve -/

/-- The socket is open just while the reflector serves, and the port is known
only then. -/
structure Settled (s : Session) : Prop where
  isOpen : s.socket.isOpen = s.reflector.serving
  port : s.reflector.serving = false → s.reflector.port = 0

namespace Settled

variable {s later : Session}

theorem handle (h : s.Settled) (hserving : s.reflector.serving = false) :
    s.socket.handle = none := by
  have hclosed : s.socket.isOpen = false := h.isOpen.trans hserving
  simpa [DatagramSocket.isOpen] using hclosed

theorem receives (h : s.Settled) (hreceives : Receives s later) :
    later.Settled := by
  constructor
  · rw [DatagramSocket.isOpen, hreceives.handle, hreceives.serving]
    exact h.isOpen
  · rw [hreceives.serving, hreceives.port]
    exact h.port

theorem start (h : s.Settled) (clock : ClockSource) (options : Options)
    (port : UInt16) :
    (s.start clock options port).2.1.Settled := by
  cases hserving : s.reflector.serving with
  | true =>
    rw [start_of_serving hserving]
    exact h
  | false =>
    rcases s.bindSocket_cases port with
      ⟨e, hbound, hhandle⟩ | ⟨bound, handle, hbound, hhandle⟩
    · rw [start_of_not_bound hserving hbound]
      exact ⟨by simp [DatagramSocket.isOpen, hhandle, hserving], h.port⟩
    · rw [start_of_bound hserving hbound]
      exact ⟨by simp [DatagramSocket.isOpen, hhandle], Bool.noConfusion⟩

theorem stop (h : s.Settled) : s.stop.Settled := by
  cases hserving : s.reflector.serving with
  | true =>
    rw [Session.stop, if_pos hserving, Reflector.stop, if_pos hserving]
    exact ⟨rfl, fun _ => rfl⟩
  | false => rwa [stop_of_not_serving hserving]

theorem next (h : s.Settled) (what : Step) : (s.next what).Settled := by
  have hprepared : (s.prepare what).Settled := ⟨h.isOpen, h.port⟩
  have hacted : ((s.prepare what).acted what.action).Settled := by
    cases what.action with
    | start clock options => exact hprepared.start clock options 0
    | datagram payload => exact hprepared.receives (.exchange _ payload)
    | stop => exact hprepared.stop
    | look => exact hprepared
  rw [next_eq]
  exact ⟨hacted.isOpen, hacted.port⟩

theorem after (h : s.Settled) (steps : List Step) :
    (s.after steps).1.Settled := by
  rw [fst_after]
  induction steps generalizing s with
  | nil => exact h
  | cons what steps ih => exact ih (h.next what)

end Settled

theorem settled_new (host : Host) : (new host).Settled := ⟨rfl, fun _ => rfl⟩

/-! ## From a start to the next stop -/

/-- The step starts the reflector: it does not serve, and a socket is made and
bound for it. -/
def Starts (s : Session) (what : Step) : Prop :=
  s.reflector.serving = false ∧
  (∃ clock options, what.action = .start clock options) ∧
    ∃ bound, ((s.prepare what).bindSocket 0).1 = .ok bound

/-- Whether a step stops the reflector. -/
def Step.isStop (what : Step) : Bool :=
  match what.action with
  | .stop => true
  | _ => false

/-- A reflector serves after a step if that starts it, or if it served and is
not stopped. -/
theorem serving_next_iff (s : Session) (what : Step) :
    (s.next what).reflector.serving = true ↔
      s.Starts what ∨ s.reflector.serving = true ∧ ¬ what.isStop = true := by
  rw [next_eq, Starts]
  obtain ⟨readings, script, action⟩ := what
  generalize hprepared : s.prepare ⟨readings, script, action⟩ = prepared
  have hsame : s.reflector = prepared.reflector := by rw [← hprepared]; rfl
  rw [hsame]
  cases action with
  | start clock options =>
    cases hserving : prepared.reflector.serving with
    | true => simp [acted, start_of_serving hserving, hserving, Step.isStop]
    | false =>
      rcases prepared.bindSocket_cases 0 with
        ⟨e, hbound, _⟩ | ⟨bound, handle, hbound, _⟩
      · simp [acted, start_of_not_bound hserving hbound, hserving, hbound]
      · simp [acted, start_of_bound hserving hbound, hbound]
  | datagram payload =>
    have hreceives := Receives.exchange prepared payload
    simp [acted, hreceives.serving, Step.isStop]
  | stop =>
    cases hserving : prepared.reflector.serving with
    | true => simp [acted, Session.stop, Reflector.stop, hserving, Step.isStop]
    | false => simp [acted, stop_of_not_serving hserving, hserving, Step.isStop]
  | look => simp [acted, Step.isStop]

/-- A reflector serves if and only if the last step that started it was not
followed by one that stops it. -/
theorem serving_after_iff (host : Host) (steps : List Step) :
    ((new host).after steps).1.reflector.serving = true ↔
      ∃ before what later, steps = before ++ what :: later ∧
        ((new host).after before).1.Starts what ∧
        ∀ what ∈ later, what.isStop = false := by
  have hbegun :=
    foldl_iff_begun next (·.reflector.serving = true) Starts (·.isStop = true)
    serving_next_iff (s := new host) Bool.noConfusion steps
  simp only [Bool.not_eq_true, ← fst_after] at hbegun
  exact hbegun

end Session

end Reflector

end ClockSync
