import ClockSync.Net.DatagramSocket

/-!
# What calls leave of a script

System calls use up the outcomes in store for them and add none
(`System.script_call`), so what holds of all outcomes of a script goes on
holding while calls are made. Of the outcomes of receives it matters how much
they claim to have received: if that is never more than was asked for, what is
received is never longer (`System.length_le_of_receive`).
-/

namespace ClockSync.Net

/-! ## Outcomes in store -/

/-- No receive of so many bytes is scripted to give more than these. -/
def Script.Honest (limit : Nat) (script : Script) : Prop :=
  ∀ value events, (.receive, .returns value events) ∈ script →
    value.toNat ≤ limit

theorem Script.Honest.mono {limit : Nat} {script later : Script}
    (h : script.Honest limit) (hsub : later ⊆ script) : later.Honest limit :=
  fun value events hmem => h value events (hsub hmem)

theorem Script.next_mem {call : Call} {script rest : Script}
    {outcome : Scripted} (h : script.next call = some (outcome, rest)) :
    (call, outcome) ∈ script ∧ rest ⊆ script := by
  induction script generalizing rest with
  | nil => cases h
  | cons entry script ih =>
    rw [next] at h
    split at h
    · next hcall =>
      cases h
      exact ⟨by rw [← hcall]; exact List.mem_cons_self,
        List.subset_cons_self _ _⟩
    · obtain ⟨⟨found, rest'⟩, hnext, heq⟩ := Option.map_eq_some_iff.mp h
      cases heq
      obtain ⟨hmem, hsub⟩ := ih hnext
      exact ⟨List.mem_cons_of_mem _ hmem, List.cons_subset_cons _ hsub⟩

/-! ## Calls -/

namespace System

variable {α : Type}

/-- A call uses up outcomes of the script and adds none. -/
theorem script_call (sys : System) (kind : Call) (scripted : Scripted → α)
    (natural : Host → α × Host) :
    (sys.call kind scripted natural).2.script ⊆ sys.script := by
  rw [call]
  cases h : sys.script.next kind with
  | none => exact List.Subset.refl _
  | some found => exact (Script.next_mem h).2

/-- A call uses up one outcome of the script, or none. -/
theorem length_script_call (sys : System) (kind : Call)
    (scripted : Scripted → α) (natural : Host → α × Host) :
    (sys.call kind scripted natural).2.script = sys.script ∨
      (sys.call kind scripted natural).2.script.length + 1 =
        sys.script.length := by
  rw [call]
  cases h : sys.script.next kind with
  | none => exact Or.inl rfl
  | some found => exact Or.inr (Script.length_next h)

/-- A call does on a host what it does, or nothing. -/
theorem host_call_cases (sys : System) (kind : Call) (scripted : Scripted → α)
    (natural : Host → α × Host) :
    (sys.call kind scripted natural).2.host = sys.host ∨
      (sys.call kind scripted natural).2.host = (natural sys.host).2 := by
  rw [call]
  cases sys.script.next kind with
  | none => exact Or.inr rfl
  | some found => exact Or.inl rfl

/-- A call that does nothing on a host does nothing if it is scripted,
either. -/
theorem host_call {sys : System} {kind : Call} {scripted : Scripted → α}
    {natural : Host → α × Host} (h : (natural sys.host).2 = sys.host) :
    (sys.call kind scripted natural).2.host = sys.host :=
  (sys.host_call_cases kind scripted natural).elim id (·.trans h)

/-- A call for which nothing is scripted does on the host what it does. -/
theorem call_of_no_script {sys : System} (h : sys.script = [])
    (kind : Call) (scripted : Scripted → α) (natural : Host → α × Host) :
    sys.call kind scripted natural =
      ((natural sys.host).1, { sys with host := (natural sys.host).2 }) := by
  obtain ⟨host, script⟩ := sys
  subst h
  rfl

theorem call_of_next {sys : System} {kind : Call} {outcome : Scripted}
    {later : Script} (h : sys.script.next kind = some (outcome, later))
    (scripted : Scripted → α) (natural : Host → α × Host) :
    sys.call kind scripted natural =
      (scripted outcome, { sys with script := later }) := by
  rw [call, h]

theorem call_of_next_none {sys : System} {kind : Call}
    (h : sys.script.next kind = none) (scripted : Scripted → α)
    (natural : Host → α × Host) :
    sys.call kind scripted natural =
      ((natural sys.host).1, { sys with host := (natural sys.host).2 }) := by
  rw [call, h]

theorem script_repeated {make : System → Option (Except Errno α) × System}
    (hmake : ∀ sys, (make sys).2.script ⊆ sys.script) (fuel : Nat)
    (sys : System) :
    (repeated make fuel sys).2.script ⊆ sys.script := by
  induction fuel generalizing sys with
  | zero => exact List.Subset.refl _
  | succ fuel ih =>
    have hfirst := hmake sys
    rw [repeated]
    split
    · next heq => rwa [heq] at hfirst
    · next heq =>
      rw [heq] at hfirst
      split
      · exact List.Subset.trans (ih _) hfirst
      · exact hfirst
    · next heq => rwa [heq] at hfirst

/-- What a host receives is cut to the limit. -/
theorem length_le_of_hostReceive {host : Host} {h limit : Nat} {d : Datagram}
    (hd : (host.receive h limit).1 = some (.ok d)) :
    d.payload.length ≤ limit := by
  rw [Host.receive] at hd
  split at hd
  · cases hd
  · split at hd
    · cases hd
    · cases hd
      exact List.length_take_le _ _
    · split at hd
      · cases hd
        exact Nat.zero_le _
      · cases hd

theorem length_le_of_receive {sys : System} {limit : Nat}
    (hhonest : sys.script.Honest limit) {h : Handle} {before : List UInt8}
    {d : Datagram} (hd : (sys.receive h limit before).1 = some (.ok d)) :
    d.payload.length ≤ limit := by
  rw [receive, call] at hd
  cases hnext : sys.script.next .receive with
  | none =>
    rw [hnext] at hd
    exact length_le_of_hostReceive hd
  | some found =>
    obtain ⟨outcome, rest⟩ := found
    rw [hnext] at hd
    cases outcome with
    | fails errno => cases hd
    | returns value events =>
      have hle := hhonest value events (Script.next_mem hnext).1
      simp only [Scripted.value] at hd
      split at hd
      · cases hd
      · cases hd
        rwa [length_leftOver]

end System

/-! ## Sockets -/

namespace DatagramSocket

theorem settle_system {α : Type} (s : DatagramSocket) (sys : System)
    (result : Except SocketError α) : (s.settle sys result).2.2 = sys := by
  cases result <;> rfl

variable (s : DatagramSocket) (sys : System)

theorem script_create : (s.create sys).2.2.script ⊆ sys.script := by
  have hcall : sys.socket.2.script ⊆ sys.script := sys.script_call _ _ _
  rw [create]
  split
  · next heq => rwa [heq] at hcall
  · next heq =>
    rw [settle_system]
    rwa [heq] at hcall

theorem script_connect (target : Endpoint) :
    (s.connect sys target).2.2.script ⊆ sys.script := by
  rw [connect]
  split
  · exact List.Subset.refl _
  · exact List.Subset.refl _
  · rw [settle_system]
    exact sys.script_call _ _ _

theorem script_send (payload : List UInt8) :
    (s.send sys payload).2.2.script ⊆ sys.script := by
  rw [send]
  split
  · exact List.Subset.refl _
  · rw [settle_system]
    exact sys.script_call _ _ _

end DatagramSocket

end ClockSync.Net
