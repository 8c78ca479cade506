/-!
# Sliding windows

A window keeps the newest values pushed into it, up to a bound, oldest first.
The bound is part of the type; a window asked to keep nothing keeps one value.
A push puts the value at the end (`toList_push_of_lt`), and if the window was
full its oldest value goes (`toList_push_of_eq`).
-/

namespace ClockSync

/-- The newest values of a sequence, oldest first, at most `max 1 requested` of
them. -/
structure Window (requested : Nat) (α : Type) where
  toList : List α
  length_le : toList.length ≤ max 1 requested

namespace Window

variable {requested : Nat} {α : Type}

/-- A window without values. -/
def empty : Window requested α := ⟨[], Nat.zero_le _⟩

instance : Inhabited (Window requested α) := ⟨empty⟩

/-- How many values the window keeps at most. -/
def capacity (_ : Window requested α) : Nat := max 1 requested

/-- How many values the window keeps now. -/
def size (w : Window requested α) : Nat := w.toList.length

/-- Whether the window keeps no value. -/
def isEmpty (w : Window requested α) : Bool := w.toList.isEmpty

/-- The oldest value kept. -/
def oldest? (w : Window requested α) : Option α := w.toList.head?

/-- The newest value kept. -/
def newest? (w : Window requested α) : Option α := w.toList.getLast?

/-- Takes in a value and lets go of the oldest ones for which there is no
room. -/
def push (w : Window requested α) (a : α) : Window requested α where
  toList := (w.toList ++ [a]).drop (w.size + 1 - w.capacity)
  length_le := by
    simp only [size, capacity, List.length_drop, List.length_append,
      List.length_cons, List.length_nil]
    omega

/-- Lets go of every value. -/
def clear (_ : Window requested α) : Window requested α := empty

/-! ## What the operations do to the contents -/

@[simp] theorem toList_empty : (empty : Window requested α).toList = [] := rfl

@[simp] theorem toList_clear (w : Window requested α) : w.clear.toList = [] :=
  rfl

/-- Into a window with room a value is put at the end. -/
theorem toList_push_of_lt {w : Window requested α} (h : w.size < w.capacity)
    (a : α) :
    (w.push a).toList = w.toList ++ [a] := by
  show (w.toList ++ [a]).drop (w.size + 1 - w.capacity) = _
  rw [show w.size + 1 - w.capacity = 0 by omega, List.drop_zero]

/-- A full window lets go of its oldest value for a new one. -/
theorem toList_push_of_eq {w : Window requested α} (h : w.size = w.capacity)
    (a : α) :
    (w.push a).toList = w.toList.drop 1 ++ [a] := by
  have hpos : 1 ≤ w.toList.length := by
    have : w.toList.length = max 1 requested := h
    omega
  show (w.toList ++ [a]).drop (w.size + 1 - w.capacity) = _
  rw [show w.size + 1 - w.capacity = 1 by omega,
    List.drop_append_of_le_length hpos]

theorem newest?_push (w : Window requested α) (a : α) :
    (w.push a).newest? = some a := by
  have h : w.size + 1 - w.capacity ≤ w.toList.length := by
    have : 1 ≤ w.capacity := Nat.le_max_left _ _
    simp only [size]
    omega
  simp [newest?, push, List.drop_append_of_le_length h]

theorem ext_toList {v w : Window requested α} (h : v.toList = w.toList) :
    v = w := by
  cases v; cases w; cases h; rfl

end Window

end ClockSync
