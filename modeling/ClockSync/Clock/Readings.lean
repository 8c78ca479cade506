/-!
# Readings of a clock

What a clock is going to show, reading by reading. The last reading is shown
again for ever. `taken` counts the readings that were taken.
-/

namespace ClockSync

/-- The readings still to come, the next one first. -/
structure Readings where
  next : Int64
  later : List Int64 := []
  /-- How many readings were taken so far. -/
  taken : Nat := 0
deriving DecidableEq, Repr, Inhabited

namespace Readings

/-- The clock after one reading was taken. -/
def advance (r : Readings) : Readings :=
  match r.later with
  | [] => { r with taken := r.taken + 1 }
  | next :: later => { next, later, taken := r.taken + 1 }

/-- Takes a reading. -/
def take (r : Readings) : Int64 × Readings := (r.next, r.advance)

/-- The reading after `i` others. -/
def nth (r : Readings) : Nat → Int64
  | 0 => r.next
  | i + 1 => r.advance.nth i

/-- Replaces all readings that are still to come. Nothing is replaced by
nothing. -/
def replace (r : Readings) : List Int64 → Readings
  | [] => r
  | next :: later => { r with next, later }

@[simp] theorem taken_advance (r : Readings) :
    r.advance.taken = r.taken + 1 := by
  simp only [advance]; split <;> rfl

end Readings

end ClockSync
