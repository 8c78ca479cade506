import ClockSync.Window
import Mathlib.Data.List.DropRight

/-!
# A window is a suffix of what was pushed

`List.rtake n` is the list of the last `n` values. A push keeps the last values,
as many as the window may hold, of the contents and the new value
(`toList_push`); since a suffix of a suffix is one of the whole
(`rtake_append_rtake`), a window that holds the last values of a list goes on
doing so while the list grows (`map_toList_push`).
-/

namespace ClockSync

section Suffixes

variable {α : Type}

theorem length_rtake (n : Nat) (xs : List α) :
    (xs.rtake n).length = min n xs.length := by
  rw [List.rtake, List.length_drop]
  omega

theorem map_rtake {β : Type} (f : α → β) (n : Nat) (xs : List α) :
    (xs.rtake n).map f = (xs.map f).rtake n := by
  rw [List.rtake, List.rtake, List.map_drop, List.length_map]

/-- The last values of two lists are those of the second, and those of the first
for which it leaves room. -/
theorem rtake_append (n : Nat) (xs ys : List α) :
    (xs ++ ys).rtake n = xs.rtake (n - ys.length) ++ ys.rtake n := by
  simp only [List.rtake_eq_reverse_take_reverse, List.reverse_append,
    List.take_append, List.length_reverse]

theorem rtake_rtake_of_le {k n : Nat} (h : k ≤ n) (xs : List α) :
    (xs.rtake n).rtake k = xs.rtake k := by
  simp only [List.rtake_eq_reverse_take_reverse, List.reverse_reverse,
    List.take_take, Nat.min_eq_left h]

/-- Whether values that are too old go early or late makes no difference. -/
theorem rtake_append_rtake (n : Nat) (xs ys : List α) :
    (xs.rtake n ++ ys).rtake n = (xs ++ ys).rtake n := by
  rw [rtake_append, rtake_append, rtake_rtake_of_le (Nat.sub_le _ _)]

/-- A list that loses its first value and gets `a` at the end, and is the same
then, holds nothing else. -/
theorem eq_of_mem_of_eq_drop_one {a : α} {l : List α}
    (h : l = l.drop 1 ++ [a]) :
    ∀ b ∈ l, b = a := by
  induction l with
  | nil => cases h
  | cons c l ih =>
    rw [List.drop_one, List.tail_cons] at h
    cases l with
    | nil =>
      intro b hb
      rw [List.nil_append] at h
      rwa [h, List.mem_singleton] at hb
    | cons d l =>
      obtain ⟨rfl, htail⟩ := List.cons.inj h
      have hall := ih htail
      intro b hb
      rcases List.mem_cons.mp hb with rfl | hb
      · exact hall b List.mem_cons_self
      · exact hall b hb

end Suffixes

namespace Window

variable {requested : Nat} {α : Type} {w : Window requested α}

theorem toList_push (w : Window requested α) (a : α) :
    (w.push a).toList = (w.toList ++ [a]).rtake (max 1 requested) := by
  show (w.toList ++ [a]).drop (w.size + 1 - w.capacity) = _
  rw [List.rtake, List.length_append]
  rfl

/-- If the contents are, seen through `f`, the last of some values, then after a
push they are the last of those and the new one. -/
theorem map_toList_push {β : Type} {f : α → β} {bs : List β}
    (h : w.toList.map f = bs.rtake (max 1 requested)) (a : α) :
    (w.push a).toList.map f = (bs ++ [f a]).rtake (max 1 requested) := by
  rw [toList_push, map_rtake, List.map_append, h, rtake_append_rtake]
  rfl

theorem push_ne_nil (w : Window requested α) (a : α) :
    (w.push a).toList ≠ [] := by
  intro h
  have hlen := length_rtake (max 1 requested) (w.toList ++ [a])
  rw [← toList_push, h, List.length_append] at hlen
  simp only [List.length_nil, List.length_singleton] at hlen
  omega

/-- What holds of all values of a window and of one more holds of all values
after a push. -/
theorem forall_mem_push {P : α → Prop} (h : ∀ b ∈ w.toList, P b) {a : α}
    (ha : P a) :
    ∀ b ∈ (w.push a).toList, P b := by
  intro b hb
  rw [toList_push] at hb
  rcases List.mem_append.mp (List.mem_of_mem_drop hb) with hb | hb
  · exact h b hb
  · rwa [List.mem_singleton.mp hb]

/-- A push drives out at most one of the values with a property. -/
theorem countP_le_push (w : Window requested α) (a : α) (p : α → Bool) :
    w.toList.countP p ≤ (w.push a).toList.countP p + 1 := by
  have hle : w.toList.length ≤ max 1 requested := w.length_le
  have hsplit : (w.toList ++ [a]).countP p =
      ((w.toList ++ [a]).take (w.size + 1 - w.capacity)).countP p +
        (w.push a).toList.countP p := by
    rw [push, ← List.countP_append, List.take_append_drop]
  have hgone : ((w.toList ++ [a]).take (w.size + 1 - w.capacity)).countP p ≤
      1 := by
    refine Nat.le_trans List.countP_le_length ?_
    rw [List.length_take, size, capacity]
    omega
  rw [List.countP_append] at hsplit
  omega

/-- Only a window full of copies of a value is the same after a push of it. -/
theorem eq_of_mem_of_push_eq {a : α} (h : w.push a = w) :
    ∀ b ∈ w.toList, b = a := by
  -- a window that gains a value and is as long as before lost its oldest one
  obtain ⟨m, hm⟩ : ∃ m, max 1 requested = m + 1 :=
    ⟨max 1 requested - 1, by omega⟩
  have hlist : w.toList = w.toList.drop (w.toList.length - m) ++ [a] := by
    have hpush := toList_push w a
    rwa [h, hm, List.rtake_concat_succ] at hpush
  have hone : w.toList.length - m = 1 := by
    have hlen := congrArg List.length hlist
    rw [List.length_append, List.length_drop, List.length_singleton] at hlen
    omega
  rw [hone] at hlist
  exact eq_of_mem_of_eq_drop_one hlist

end Window

end ClockSync
