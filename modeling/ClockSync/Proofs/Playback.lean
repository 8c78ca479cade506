import ClockSync.Client.Basic
import ClockSync.Proofs.Numeric.Arithmetic
import Mathlib.Tactic.FieldSimp
import Mathlib.Tactic.GCongr

/-!
# Bounds and order of playback rates

A suggested rate is one, one of the two bounds, or strictly between them, and
only comparisons decide which (`rateFor_cases`). So it is between the bounds for
all doubles, those that are no numbers included (`rateFor_between`): a lag that
is no number is not above the slowest rate, which is what remains
(`rateFor_of_isNaN`).

Reckoned exactly, the rate grows with the lag (`rateFor_mono`). The formula does
so where it is used; at the borders of the dead zone the rate steps from below
one up to one, and from one up to above it (`rateFor_lt_one`, `one_lt_rateFor`).
The lag itself does not depend on the unit of the times (`lag_unit`).
-/

namespace ClockSync.Playback

/-! ## Cases -/

section Cases

variable {α : Type} [Scalar α]

/-- How far playback lags behind the global timeline, in microseconds. -/
def lag (globalNow start position scale : α) : α :=
  (globalNow - start / scale) - position / scale

theorem suggest_eq (globalNow start position scale : α) :
    suggest globalNow start position scale =
      rateFor (lag globalNow start position scale) := rfl

/-- A rate is one of three numbers, or lies between the outer two of them. What
the arithmetic gave does not matter for that. -/
theorem rateFor_cases (lag : α) :
    rateFor lag = Scalar.one ∨ rateFor lag = slowest ∨ rateFor lag = fastest ∨
      Scalar.less slowest (rateFor lag) = true ∧
      Scalar.less (rateFor lag) fastest = true := by
  rw [rateFor]
  split
  · exact .inl rfl
  · right
    generalize (Scalar.one + lag / Scalar.ofInt 1000 / Scalar.ofInt 1000 : α) =
      rate
    by_cases hslow : Scalar.less slowest rate = true
    · by_cases hfast : Scalar.less rate fastest = true
      · simp [Scalar.smaller, Scalar.larger, hslow, hfast]
      · simp [Scalar.smaller, Scalar.larger, hslow, hfast]
    · by_cases hfast : Scalar.less slowest (fastest : α) = true
      · simp [Scalar.smaller, Scalar.larger, hslow, hfast]
      · simp [Scalar.smaller, Scalar.larger, hslow, hfast]

end Cases

/-! ## Doubles -/

section Doubles

theorem slowest_float : (slowest : Float) = 0.5 := by decide +kernel

theorem fastest_float : (fastest : Float) = 2.0 := by decide +kernel

theorem rateFor_between (lag : Float) :
    0.5 ≤ rateFor lag ∧ rateFor lag ≤ 2.0 := by
  rcases rateFor_cases lag with h | h | h | ⟨hslow, hfast⟩
  · rw [h]
    decide +kernel
  · rw [h]
    decide +kernel
  · rw [h]
    decide +kernel
  · rw [slowest_float] at hslow
    rw [fastest_float] at hfast
    exact ⟨Binary64.le_of_lt (of_decide_eq_true hslow),
      Binary64.le_of_lt (of_decide_eq_true hfast)⟩

/-- A lag that is no number is above no rate. -/
theorem rateFor_of_isNaN {lag : Float} (h : lag.isNaN = true) :
    rateFor lag = 0.5 := by
  have hzone : Scalar.less (Scalar.magnitude lag) (deadZone : Float) = false :=
    decide_eq_false (Binary64.not_lt_of_isNaN_left (Binary64.isNaN_abs h) _)
  have hrate :
      (Scalar.one + lag / Scalar.ofInt 1000 / Scalar.ofInt 1000 : Float).isNaN =
        true :=
    Binary64.isNaN_add_right _
      (Binary64.isNaN_div_left (Binary64.isNaN_div_left h _) _)
  rw [rateFor, hzone]
  generalize (Scalar.one + lag / Scalar.ofInt 1000 /
    Scalar.ofInt 1000 : Float) = rate at hrate
  have hlarger : Scalar.larger slowest rate = slowest :=
    if_neg fun hless =>
      Binary64.not_lt_of_isNaN_right slowest hrate (of_decide_eq_true hless)
  rw [hlarger]
  decide +kernel

end Doubles

/-! ## Exact reckoning -/

section Fractions

theorem magnitude_rat (q : Rat) : Scalar.magnitude q = |q| := by
  rcases lt_or_ge q 0 with hneg | hpos
  · rw [abs_of_neg hneg]
    exact if_pos hneg
  · rw [abs_of_nonneg hpos]
    exact if_neg (not_lt.mpr hpos)

theorem larger_rat (p q : Rat) : Scalar.larger p q = max p q := by
  simp [Scalar.larger, Scalar.less, max_def_lt]

theorem smaller_rat (p q : Rat) : Scalar.smaller p q = min p q := by
  simp [Scalar.smaller, Scalar.less, min_comm p, min_def_lt]

/-- The rate of exact arithmetic. -/
theorem rateFor_rat (lag : Rat) :
    rateFor lag = if |lag| < 5000 then 1
      else min 2 (max (1 / 2) (1 + lag / 1000000)) := by
  have hmillion : lag / Scalar.ofInt 1000 / Scalar.ofInt 1000 =
      lag / 1000000 := by
    show lag / (1000 : Int) / (1000 : Int) = _
    rw [div_div]
    norm_num
  have hless : Scalar.less |lag| (deadZone : Rat) = decide (|lag| < 5000) := rfl
  rw [rateFor, magnitude_rat, larger_rat, smaller_rat, hmillion, hless]
  simp only [decide_eq_true_eq]
  rfl

theorem rateFor_of_inside {lag : Rat} (h : |lag| < 5000) : rateFor lag = 1 := by
  rw [rateFor_rat, if_pos h]

/-- Playback that lags by the dead zone or more is to be faster. -/
theorem one_lt_rateFor {lag : Rat} (h : 5000 ≤ lag) : 1 < rateFor lag := by
  rw [rateFor_rat, if_neg (not_lt.mpr (h.trans (le_abs_self lag)))]
  exact lt_min (by norm_num) (lt_max_of_lt_right (by linarith))

/-- Playback that leads by the dead zone or more is to be slower. -/
theorem rateFor_lt_one {lag : Rat} (h : lag ≤ -5000) : rateFor lag < 1 := by
  have houtside : 5000 ≤ |lag| := (le_neg_of_le_neg h).trans (neg_le_abs lag)
  rw [rateFor_rat, if_neg (not_lt.mpr houtside)]
  exact min_lt_of_right_lt (max_lt (by norm_num) (by linarith))

theorem rateFor_eq_one_iff (lag : Rat) : rateFor lag = 1 ↔ |lag| < 5000 := by
  constructor
  · intro hone
    by_contra houtside
    rcases le_abs.mp (not_lt.mp houtside) with hlag | hlead
    · exact absurd hone (one_lt_rateFor hlag).ne'
    · exact absurd hone (rateFor_lt_one (le_neg_of_le_neg hlead)).ne
  · exact rateFor_of_inside

/-- The larger the lag, the faster: within a piece the formula grows, and across
the border of the dead zone the rate goes from below one to one, and from one to
above. -/
theorem rateFor_mono : Monotone (rateFor : Rat → Rat) := by
  intro p q hle
  by_cases hp : |p| < 5000
  · rw [rateFor_of_inside hp]
    by_cases hq : |q| < 5000
    · exact (rateFor_of_inside hq).ge
    · -- what is not less than a lag inside the dead zone is no lead
      have hlag : 5000 ≤ q := by
        rcases le_abs.mp (not_lt.mp hq) with hlag | hlead
        · exact hlag
        · linarith [(abs_lt.mp hp).1]
      exact (one_lt_rateFor hlag).le
  · by_cases hq : |q| < 5000
    · rw [rateFor_of_inside hq]
      have hlead : p ≤ -5000 := by
        rcases le_abs.mp (not_lt.mp hp) with hlag | hlead
        · linarith [(abs_lt.mp hq).2]
        · exact le_neg_of_le_neg hlead
      exact (rateFor_lt_one hlead).le
    · rw [rateFor_rat, rateFor_rat, if_neg hp, if_neg hq]
      gcongr

/-- Times in another unit have the same lag, as long as all are in it. -/
theorem lag_unit {unit : Rat} (h : unit ≠ 0) (globalNow start position : Rat) :
    lag globalNow (unit * start) (unit * position) unit =
      lag globalNow start position 1 := by
  simp only [lag]
  field_simp

end Fractions

/-! ## Suggestions -/

/-- Whatever kind of number times are reckoned in, only comparisons decide
between the three fixed rates and the numbers between them. So the rate
suggested for any doubles is a number between one half and two, also by a client
at any time, and one half if the lag is no number.

Reckoned exactly, with any positive scale, the rate never falls as the global
time goes on, and never rises with the start or the position. It is one exactly
inside the dead zone, and does not change if start, position and scale are put
in another unit. -/
theorem suggest_within_and_ordered :
    (∀ (α : Type) [Scalar α] (lag : α),
      rateFor lag = Scalar.one ∨ rateFor lag = slowest ∨ rateFor lag = fastest ∨
        Scalar.less slowest (rateFor lag) = true ∧
        Scalar.less (rateFor lag) fastest = true) ∧
    (∀ globalNow start position scale : Float,
      let rate := suggest globalNow start position scale
      0.5 ≤ rate ∧ rate ≤ 2.0 ∧ rate.isNaN = false ∧
        ((lag globalNow start position scale).isNaN = true → rate = 0.5)) ∧
    (∀ (c : Client) (now : Int64) (start position : Float),
      let rate := c.playbackRate now start position
      0.5 ≤ rate ∧ rate ≤ 2.0 ∧ rate.isNaN = false) ∧
    (∀ scale : Rat, 0 < scale →
      (∀ start position, Monotone fun globalNow =>
        suggest globalNow start position scale) ∧
      (∀ globalNow position, Antitone fun start =>
        suggest globalNow start position scale) ∧
      (∀ globalNow start, Antitone fun position =>
        suggest globalNow start position scale) ∧
      (∀ globalNow start position, suggest globalNow start position scale = 1 ↔
        |globalNow - start / scale - position / scale| < 5000) ∧
      ∀ globalNow start position,
        suggest globalNow (scale * start) (scale * position) scale =
          suggest globalNow start position 1) := by
  have hdoubles (lag : Float) :
      0.5 ≤ rateFor lag ∧ rateFor lag ≤ 2.0 ∧ (rateFor lag).isNaN = false := by
    obtain ⟨hlow, hhigh⟩ := rateFor_between lag
    exact ⟨hlow, hhigh, (Binary64.not_isNaN_of_le hlow).2⟩
  refine ⟨fun α _ lag => rateFor_cases lag, ?_,
    fun c now start position => hdoubles _,
    fun scale hscale => ⟨?_, ?_, ?_, ?_, ?_⟩⟩
  · intro globalNow start position scale
    obtain ⟨hlow, hhigh, hnumber⟩ :=
      hdoubles (lag globalNow start position scale)
    exact ⟨hlow, hhigh, hnumber, rateFor_of_isNaN⟩
  · intro start position earlier later hle
    simp only [suggest_eq, lag]
    refine rateFor_mono ?_
    gcongr
  · intro globalNow position earlier later hle
    simp only [suggest_eq, lag]
    refine rateFor_mono ?_
    gcongr
  · intro globalNow start earlier later hle
    simp only [suggest_eq, lag]
    refine rateFor_mono ?_
    gcongr
  · intro globalNow start position
    exact rateFor_eq_one_iff _
  · intro globalNow start position
    rw [suggest_eq, suggest_eq, lag_unit hscale.ne']

/-- Playback in milliseconds that is a second behind, and playback in a unit of
zero. -/
theorem suggest_within_and_ordered_of_second_behind :
    (0 : Rat) < 1 / 1000 ∧
      suggest (9000000 : Rat) (1 / 1000 * 1000000) (1 / 1000 * 7000000)
        (1 / 1000) =
        suggest 9000000 1000000 7000000 1 ∧
      suggest (9000000 : Rat) 1000 7000 (1 / 1000) ≤
        suggest 9001000 1000 7000 (1 / 1000) ∧
      (lag 9000000.0 0.0 7000.0 (0.0 : Float)).isNaN = true ∧
      suggest 9000000.0 0.0 7000.0 (0.0 : Float) = 0.5 := by
  have hscale : (0 : Rat) < 1 / 1000 := by norm_num
  have hnan : (lag 9000000.0 0.0 7000.0 (0.0 : Float)).isNaN = true := by
    decide +kernel
  obtain ⟨-, hdoubles, -, hfractions⟩ := suggest_within_and_ordered
  obtain ⟨hmono, -, -, -, hunit⟩ := hfractions (1 / 1000) hscale
  exact ⟨hscale, hunit 9000000 1000000 7000000,
    hmono 1000 7000 (by norm_num), hnan,
    (hdoubles _ _ _ _).2.2.2 hnan⟩

end ClockSync.Playback
