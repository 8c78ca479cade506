import ClockSync.Net.Errno

/-!
# Scripted outcomes of system calls

A script says how the next calls of certain kinds are to end, whatever they
would have done otherwise. The entries for one kind of call apply to consecutive
calls of that kind; a call without an entry does what it does.
-/

namespace ClockSync.Net

/-- The kinds of system calls whose outcome can be scripted. -/
inductive Call where
  | lookup
  | socket
  | bind
  | connect
  | localName
  | pair
  | poll
  | receive
  | sendTo
  | send
  | wake
deriving DecidableEq, Repr

/-- The outcome that is put in place of what a call would have done. -/
inductive Scripted where
  /-- The call fails. -/
  | fails (errno : Errno)
  /-- The call returns a value and does nothing. What a poll so puts into the
  descriptors it was asked about are `events`. -/
  | returns (value : Int) (events : List Nat)
deriving DecidableEq, Repr

/-- The outcomes in store. -/
abbrev Script := List (Call × Scripted)

namespace Script

/-- The next outcome for a kind of call, and the script without it. -/
def next (call : Call) : Script → Option (Scripted × Script)
  | [] => none
  | (c, outcome) :: rest =>
    if c = call then some (outcome, rest)
    else (next call rest).map fun (found, rest) => (found, (c, outcome) :: rest)

/-- An outcome that is used up leaves a shorter script. -/
theorem length_next {call : Call} {s rest : Script} {outcome : Scripted}
    (h : s.next call = some (outcome, rest)) : rest.length + 1 = s.length := by
  induction s generalizing rest with
  | nil => simp [next] at h
  | cons entry s ih =>
    simp only [next] at h
    split at h
    · cases h; rfl
    · obtain ⟨⟨found, rest'⟩, hnext, heq⟩ := Option.map_eq_some_iff.mp h
      cases heq
      simp [ih hnext]

end Script

/-- A scripted outcome for a call that returns zero or a count: a negative value
says that the call failed, and not why. -/
def Scripted.value : Scripted → Except Errno Int
  | .fails errno => .error errno
  | .returns value _ => if value < 0 then .error default else .ok value

/-- What a scripted poll puts into the descriptors it was asked about. -/
def Scripted.events : Scripted → List Nat
  | .fails _ => []
  | .returns _ events => events

end ClockSync.Net
