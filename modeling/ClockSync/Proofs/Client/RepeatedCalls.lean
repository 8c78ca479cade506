import ClockSync.Client.Session
import ClockSync.Proofs.Scripts

/-!
# Calls that are repeated

A poll and the write of a wake-up are made again as long as they are
interrupted. The outcome that counts was scripted, or is that of the call itself
(`uninterrupted?_repeated`); so a wake-up comes to an end whatever is scripted
(`uninterrupted?_wakeCall`), while a poll may wait.
-/

namespace ClockSync.Client

open Net Wire

section Repeated

variable {α : Type}

/-- Of a call that is repeated as long as it is interrupted, the outcome that
counts was scripted, or is that of the call itself. -/
theorem uninterrupted?_repeated (kind : Call)
    (scripted : Scripted → Except Errno α)
    (natural : Host → Option (Except Errno α) × Host) {sys : System}
    {fuel : Nat} (hnatural : (natural sys.host).1 ≠ some (.error .interrupted))
    (hfuel : sys.script.length < fuel) :
    let made := System.repeated
      (fun sys =>
        sys.call kind (fun outcome => some (scripted outcome)) natural) fuel sys
    (∃ outcome, (kind, outcome) ∈ sys.script ∧
      scripted outcome ≠ .error .interrupted ∧
      uninterrupted? made.1 = some (scripted outcome) ∧
      made.2.host = sys.host) ∨
    uninterrupted? made.1 = (natural sys.host).1 ∧
    made.2.host = (natural sys.host).2 := by
  -- each interruption uses up an entry of the script, so that the fuel outlasts
  -- them
  induction fuel generalizing sys with
  | zero => exact absurd hfuel (Nat.not_lt_zero _)
  | succ fuel ih =>
    dsimp only
    rw [System.repeated]
    cases hnext : sys.script.next kind with
    | none =>
      refine Or.inr ?_
      rw [System.call_of_next_none hnext]
      generalize natural sys.host = ended at hnatural ⊢
      obtain ⟨result, host⟩ := ended
      rcases result with _ | errno | a
      · exact ⟨rfl, rfl⟩
      · have hdecisive : errno ≠ .interrupted := fun h => hnatural (by rw [h])
        dsimp only
        rw [if_neg hdecisive]
        exact ⟨by rw [uninterrupted?, if_neg hdecisive], rfl⟩
      · exact ⟨rfl, rfl⟩
    | some found =>
      obtain ⟨outcome, rest⟩ := found
      obtain ⟨hmem, hsub⟩ := Script.next_mem hnext
      have hlength := Script.length_next hnext
      rw [System.call_of_next hnext]
      cases houtcome : scripted outcome with
      | ok a =>
        exact Or.inl ⟨outcome, hmem, by rw [houtcome]; simp,
          by rw [houtcome]; rfl, rfl⟩
      | error errno =>
        dsimp only
        by_cases hdecisive : errno = .interrupted
        · rw [if_pos hdecisive]
          dsimp only
          rw [uninterrupted?, if_pos hdecisive]
          rcases @ih { sys with script := rest } hnatural
            (by dsimp only; omega) with
            ⟨later, hlater, hends⟩ | hends
          · exact Or.inl ⟨later, hsub hlater, hends⟩
          · exact Or.inr hends
        · rw [if_neg hdecisive]
          refine Or.inl ⟨outcome, hmem, ?_, ?_, rfl⟩
          · rw [houtcome]
            exact fun h => hdecisive (Except.error.inj h)
          · dsimp only
            rw [uninterrupted?, if_neg hdecisive, houtcome]

end Repeated

/-! ## Polls -/

/-- What a scripted poll tells: the events of the socket and of the pair. -/
def polled (outcome : Scripted) : Except Errno (Nat × Nat) :=
  outcome.value.map fun _ =>
    (outcome.events.headD 0, (outcome.events.drop 1).headD 0)

theorem value_of_polled {outcome : Scripted} {errno : Errno}
    (h : polled outcome = .error errno) :
    outcome.value = .error errno := by
  rw [polled] at h
  cases hvalue : outcome.value with
  | error errno' =>
    rw [hvalue] at h
    cases h
    rfl
  | ok value =>
    rw [hvalue] at h
    cases h

/-- What polls tell: what one of them was scripted to tell, or the events that
there are. They change nothing on the host. -/
theorem polls_cases (system : System) {channel : Channel}
    {socket reader : Handle} (hsocket : channel.socket = some socket)
    (hreader : channel.wakeReader = some reader) :
    (Session.polls system channel).2.host = system.host ∧
    ((∃ outcome, (.poll, outcome) ∈ system.script ∧
      polled outcome ≠ .error .interrupted ∧
      uninterrupted? (Session.polls system channel).1 = some (polled outcome)) ∨
    uninterrupted? (Session.polls system channel).1 =
      if (system.host.events socket, system.host.wakeEvents reader) = (0, 0)
      then none
      else
        some (.ok (system.host.events socket,
          system.host.wakeEvents reader))) := by
  let natural := fun host : Host =>
    let events := (host.events socket, host.wakeEvents reader)
    (if events = (0, 0) then none else some (Except.ok (ε := Errno) events),
      host)
  have hnatural : (natural system.host).1 ≠ some (.error .interrupted) := by
    dsimp only [natural]
    split <;> simp
  have hcases := uninterrupted?_repeated .poll polled natural hnatural
    (Nat.lt_succ_self system.script.length)
  rw [Session.polls, hsocket, hreader]
  rcases hcases with ⟨outcome, hmem, hdecisive, hends, hhost⟩ | ⟨hends, hhost⟩
  · exact ⟨hhost, Or.inl ⟨outcome, hmem, hdecisive, hends⟩⟩
  · exact ⟨hhost, Or.inr hends⟩

theorem host_polls (system : System) (channel : Channel) :
    (Session.polls system channel).2.host = system.host := by
  cases hsocket : channel.socket with
  | none => rw [Session.polls, hsocket]
  | some socket =>
    cases hreader : channel.wakeReader with
    | none => rw [Session.polls, hsocket, hreader]
    | some reader => exact (polls_cases system hsocket hreader).1

/-! ## Wake-ups -/

/-- What a write of a wake-up does if it is not scripted. -/
def write (h : Handle) (host : Host) : Option (Except Errno Int) × Host :=
  (some (host.wake h).1, (host.wake h).2)

theorem wakeCall_eq (system : System) (h : Handle) :
    Session.wakeCall system h = System.repeated
      (fun system =>
        system.call .wake (fun outcome => some outcome.value) (write h))
      system.attempts system := by
  rw [Session.wakeCall]
  congr 1
  funext system
  rw [System.wake, System.call, System.call]
  cases system.script.next .wake <;> rfl

theorem script_wakeCall (system : System) (h : Handle) :
    (Session.wakeCall system h).2.script ⊆ system.script := by
  rw [wakeCall_eq]
  exact System.script_repeated (fun system => system.script_call _ _ _) _ _

/-- What writes of a wake-up tell: what one of them was scripted to tell, which
queues nothing, or what a write gives, which may queue a byte. -/
theorem wakeCall_cases (system : System) (h : Handle) :
    (∃ outcome, (.wake, outcome) ∈ system.script ∧
      outcome.value ≠ .error .interrupted ∧
      uninterrupted? (Session.wakeCall system h).1 = some outcome.value ∧
      (Session.wakeCall system h).2.host = system.host) ∨
    uninterrupted? (Session.wakeCall system h).1 = some (system.host.wake h).1 ∧
      (Session.wakeCall system h).2.host = (system.host.wake h).2 := by
  have hnatural : (write h system.host).1 ≠ some (.error .interrupted) := by
    rw [write, Host.wake]
    split
    · simp
    · simp [Errno.badDescriptor, Errno.interrupted]
  rw [wakeCall_eq]
  exact uninterrupted?_repeated .wake Scripted.value (write h) hnatural
    (Nat.lt_succ_self system.script.length)

/-- The writes of a wake-up come to an end. -/
theorem uninterrupted?_wakeCall (system : System) (h : Handle) :
    (uninterrupted? (Session.wakeCall system h).1).isSome = true := by
  rcases wakeCall_cases system h with ⟨_, _, _, hends, _⟩ | ⟨hends, _⟩
  · rw [hends]
    rfl
  · rw [hends]
    rfl

end ClockSync.Client
