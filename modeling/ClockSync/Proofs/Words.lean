import ClockSync.Numeric.Scalar
import Mathlib.Algebra.Order.Field.Rat
import Mathlib.Tactic.Linarith

/-!
# Whole numbers in signed words

A whole number from `-2 ^ 63` on and below `2 ^ 63` is held by a signed word as
it is, and while sums and differences stay among these numbers (`IsWord`) the
words add up as the numbers do. A fraction is put into a word by rounding it to
the nearest whole number, a half going away from zero. That moves it by at most
a half (`abs_roundHalfAway_sub_le`), leaves a whole number where it is and keeps
the order of fractions (`roundHalfAway_mono`).
-/

namespace ClockSync

/-- A number that a signed word holds as it is. -/
def IsWord (n : Int) : Prop := -2 ^ 63 ≤ n ∧ n < 2 ^ 63

instance : DecidablePred IsWord := fun n =>
  inferInstanceAs (Decidable (-2 ^ 63 ≤ n ∧ n < 2 ^ 63))

namespace IsWord

theorem toInt_ofInt {n : Int} (h : IsWord n) : (Int64.ofInt n).toInt = n :=
  Int64.toInt_ofInt_of_le h.1 h.2

theorem toInt_add {a b : Int64} (h : IsWord (a.toInt + b.toInt)) :
    (a + b).toInt = a.toInt + b.toInt := by
  rw [← h.toInt_ofInt, Int64.ofInt_add, Int64.ofInt_toInt, Int64.ofInt_toInt]

theorem toInt_sub {a b : Int64} (h : IsWord (a.toInt - b.toInt)) :
    (a - b).toInt = a.toInt - b.toInt := by
  rw [← h.toInt_ofInt, Int64.ofInt_sub, Int64.ofInt_toInt, Int64.ofInt_toInt]

end IsWord

namespace Scalar

/-! ## Rounding -/

theorem abs_roundHalfAway_sub_le (q : Rat) :
    |(roundHalfAway q : Rat) - q| ≤ 1 / 2 := by
  unfold roundHalfAway
  split
  · have hle := Rat.floor_le (-q + 1 / 2)
    have hlt := Rat.lt_floor_add_one (-q + 1 / 2)
    push_cast at hlt ⊢
    rw [abs_le]
    constructor <;> linarith
  · have hle := Rat.floor_le (q + 1 / 2)
    have hlt := Rat.lt_floor_add_one (q + 1 / 2)
    push_cast at hlt
    rw [abs_le]
    constructor <;> linarith

theorem roundHalfAway_intCast (n : Int) : roundHalfAway n = n := by
  have hnear := abs_le.mp (abs_roundHalfAway_sub_le n)
  -- a whole number less than one away is the number itself
  have hlow : (n : Rat) < roundHalfAway n + 1 := by linarith [hnear.1]
  have hhigh : (roundHalfAway n : Rat) < n + 1 := by linarith [hnear.2]
  have hlow' : n < roundHalfAway n + 1 := by exact_mod_cast hlow
  have hhigh' : roundHalfAway n < n + 1 := by exact_mod_cast hhigh
  omega

theorem roundHalfAway_mono {p q : Rat} (h : p ≤ q) :
    roundHalfAway p ≤ roundHalfAway q := by
  unfold roundHalfAway
  split_ifs with hp hq hq
  · have hfloor : (-q + 1 / 2).floor ≤ (-p + 1 / 2).floor :=
      Rat.floor_monotone (by linarith)
    omega
  · have hlow : 0 ≤ (-p + 1 / 2).floor :=
      Rat.le_floor_iff.mpr (by push_cast; linarith)
    have hhigh : 0 ≤ (q + 1 / 2).floor :=
      Rat.le_floor_iff.mpr (by push_cast; linarith)
    omega
  · exact absurd (lt_of_le_of_lt h hq) hp
  · exact Rat.floor_monotone (by linarith)

theorem abs_sum_roundHalfAway_sub_le (qs : List Rat) :
    |((qs.map roundHalfAway).sum : Rat) - qs.sum| ≤ (qs.length : Rat) / 2 := by
  induction qs with
  | nil => simp
  | cons q qs ih =>
    have hone := abs_le.mp (abs_roundHalfAway_sub_le q)
    have hrest := abs_le.mp ih
    rw [List.map_cons, List.sum_cons, List.sum_cons, List.length_cons,
      Int.cast_add, Nat.cast_add, Nat.cast_one, abs_le]
    constructor <;> linarith [hone.1, hone.2, hrest.1, hrest.2]

theorem sum_roundHalfAway_of_whole {qs : List Rat}
    (h : ∀ q ∈ qs, ∃ n : Int, q = n) :
    ((qs.map roundHalfAway).sum : Rat) = qs.sum := by
  induction qs with
  | nil => simp
  | cons q qs ih =>
    obtain ⟨⟨n, rfl⟩, hrest⟩ := List.forall_mem_cons.mp h
    rw [List.map_cons, List.sum_cons, List.sum_cons, Int.cast_add, ih hrest,
      roundHalfAway_intCast]

/-- A fraction that rounds to a signed word becomes that word. -/
theorem toInt_toInt64 {q : Rat} (h : IsWord (roundHalfAway q)) :
    (toInt64 q).toInt = roundHalfAway q := by
  have hword : toInt64 q = Int64.ofInt (roundHalfAway q) := by
    refine if_pos ⟨?_, ?_⟩
    · exact h.1
    · exact Int.le_of_lt_add_one h.2
  rw [hword, h.toInt_ofInt]

end Scalar

end ClockSync
