import ClockSync.Proofs.Windows

/-!
# Runs of a window

A window is changed by pushes and clears, in any order. Of the values pushed
since the last clear (`sinceClear`) it holds the last ones, as many as it has
room for: one more call makes one more call of the history (`toList_step`), so
this is true after every run (`toList_run`). A value that is in the window stays
until as many others as it has room for were pushed after it
(`toList_run_map_push`).
-/

namespace ClockSync.Window

/-- A call that changes a window. -/
inductive Call (α : Type) where
  | push (a : α)
  | clear
deriving DecidableEq, Repr

variable {requested : Nat} {α : Type}

/-! ## What was pushed -/

/-- The value that a call pushes. -/
def Call.value? : Call α → Option α
  | push a => some a
  | clear => none

/-- The values pushed after the last clear, oldest first. -/
def sinceClear (calls : List (Call α)) : List α :=
  (calls.rtakeWhile fun c => c.value?.isSome).filterMap Call.value?

@[simp] theorem sinceClear_nil : sinceClear ([] : List (Call α)) = [] := rfl

@[simp] theorem sinceClear_concat_push (calls : List (Call α)) (a : α) :
    sinceClear (calls ++ [.push a]) = sinceClear calls ++ [a] := by
  rw [sinceClear, List.rtakeWhile_concat_pos _ _ _ rfl, List.filterMap_append]
  rfl

@[simp] theorem sinceClear_concat_clear (calls : List (Call α)) :
    sinceClear (calls ++ [.clear]) = [] := by
  rw [sinceClear, List.rtakeWhile_concat_neg _ _ _ (by simp [Call.value?]),
    List.filterMap_nil]

/-! ## What is kept of it -/

/-- What a call makes of a window. -/
def step (w : Window requested α) : Call α → Window requested α
  | .push a => w.push a
  | .clear => w.clear

/-- What calls one after the other make of a window. -/
def run (w : Window requested α) (calls : List (Call α)) : Window requested α :=
  calls.foldl step w

theorem run_concat (w : Window requested α) (calls : List (Call α))
    (c : Call α) :
    w.run (calls ++ [c]) = (w.run calls).step c := List.foldl_concat ..

/-- A window that holds the last values pushed since the last clear does so
after another call. -/
theorem toList_step {w : Window requested α} {calls : List (Call α)}
    (h : w.toList = (sinceClear calls).rtake (max 1 requested)) (c : Call α) :
    (w.step c).toList =
      (sinceClear (calls ++ [c])).rtake (max 1 requested) := by
  cases c with
  | push a =>
    rw [step, toList_push, h, rtake_append_rtake, sinceClear_concat_push]
  | clear => rw [step, toList_clear, sinceClear_concat_clear, List.rtake_nil]

/-- After any calls a new window holds the last values pushed since the last
clear. -/
theorem toList_run (calls : List (Call α)) :
    ((empty : Window requested α).run calls).toList =
      (sinceClear calls).rtake (max 1 requested) := by
  induction calls using List.reverseRecOn with
  | nil =>
    rw [sinceClear_nil, List.rtake_nil]
    rfl
  | append_singleton calls c ih =>
    rw [run_concat]
    exact toList_step ih c

/-- Of what a window holds, each of some values pushed into it takes away the
room for one. -/
theorem toList_run_map_push (w : Window requested α) (later : List α) :
    (w.run (later.map .push)).toList =
      w.toList.rtake (max 1 requested - later.length) ++
        later.rtake (max 1 requested) := by
  -- together these are the last of what it holds and what is pushed, which
  -- every push keeps
  rw [← rtake_append]
  induction later using List.reverseRecOn with
  | nil =>
    have hroom : w.toList.length - max 1 requested = 0 :=
      Nat.sub_eq_zero_of_le w.length_le
    rw [List.append_nil, List.rtake, hroom, List.drop_zero]
    rfl
  | append_singleton later a ih =>
    rw [List.map_append, List.map_singleton, run_concat, step, toList_push, ih,
      rtake_append_rtake, List.append_assoc]

/-! ## The whole account -/

/-- After any pushes and clears, a window holds the last of the values pushed
since the last clear, as many as there is room for, oldest first; a window asked
to hold nothing has room for one. The newest value is the one pushed last, the
oldest is the first for which there is room, and the values in between are those
that were pushed in between, each in its place. Of what the window holds,
nothing goes before its room is needed: values pushed later drive out the oldest
ones, each at most one. -/
theorem keeps_last_pushed (requested : Nat) (calls : List (Call α)) :
    let w : Window requested α := empty.run calls
    let pushed := sinceClear calls
    let room := max 1 requested
    w.toList = pushed.rtake room ∧ w.size = min room pushed.length ∧
    w.capacity = room ∧
    w.newest? = pushed.getLast? ∧ w.oldest? = pushed[pushed.length - room]? ∧
    (∀ i, w.toList[i]? = pushed[pushed.length - w.size + i]?) ∧
    ∀ later : List α, (w.run (later.map .push)).toList =
      w.toList.rtake (room - later.length) ++ later.rtake room := by
  intro w pushed room
  have hlist : w.toList = pushed.drop (pushed.length - room) := toList_run calls
  have hsize : w.size = min room pushed.length := by
    rw [size, toList_run, length_rtake]
  have hnewest : w.newest? = pushed.getLast? := by
    rw [newest?, hlist, List.getLast?_drop]
    -- there is room for at least one value, so nothing is left only if nothing
    -- was pushed
    split
    · have hnone : pushed = [] := List.length_eq_zero_iff.mp (by omega)
      rw [hnone, List.getLast?_nil]
    · rfl
  have holdest : w.oldest? = pushed[pushed.length - room]? := by
    rw [oldest?, hlist, List.head?_drop]
  have hplace : ∀ i, w.toList[i]? = pushed[pushed.length - w.size + i]? := by
    intro i
    have hgone : pushed.length - w.size = pushed.length - room := by omega
    rw [hlist, List.getElem?_drop, hgone]
  exact ⟨hlist, hsize, rfl, hnewest, holdest, hplace, toList_run_map_push w⟩

example :
    ((empty : Window 0 Nat).run [.push 1, .clear, .push 7, .push 8]).toList =
      [8] := by
  decide

end ClockSync.Window
