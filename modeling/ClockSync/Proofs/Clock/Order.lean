import ClockSync.Proofs.Clock.Runs
import Mathlib.Algebra.Order.BigOperators.Group.List

/-!
# A served clock does not go backwards

With a rate that is not negative the clock shows more the later it is read
(`valueAt_mono`). An act moves the anchor to what is shown at that moment,
rounded as it is, so nothing is lost when the rate changes, and what is shown
moves by the shifts only. Hence between two readings the clock goes on by at
least the shifts between them (`add_shifts_le`), and backwards only if it is
shifted backwards (`never_backwards`).
-/

namespace ClockSync.ServedClock

variable {c : ServedClock Rat}

/-! ## Rates that are not negative -/

/-- No act sets a negative rate. -/
def Forward (acts : List (Act Rat)) : Prop :=
  ∀ (raw : Int64) (rate : Rat), .setRate raw rate ∈ acts → 0 ≤ rate

theorem Forward.tail {a : Act Rat} {acts : List (Act Rat)}
    (h : Forward (a :: acts)) :
    Forward acts :=
  fun raw rate hmem => h raw rate (List.mem_cons_of_mem a hmem)

theorem rate_step {a : Act Rat} {acts : List (Act Rat)} (hrate : 0 ≤ c.rate)
    (h : Forward (a :: acts)) : 0 ≤ (c.step a).rate := by
  cases a with
  | read raw => exact hrate
  | addOffset raw delta => exact hrate
  | setRate raw rate => exact h raw rate List.mem_cons_self
  | reset raw => exact zero_le_one

theorem rate_run {acts : List (Act Rat)} (hrate : 0 ≤ c.rate)
    (h : Forward acts) :
    0 ≤ (c.run acts).rate := by
  induction acts generalizing c with
  | nil => exact hrate
  | cons a acts ih => exact ih (rate_step hrate h) h.tail

/-! ## One reading after another -/

theorem gone_mono (hrate : 0 ≤ c.rate) {raw raw' : Int64} (hraw : raw ≤ raw') :
    c.gone raw ≤ c.gone raw' := by
  refine Scalar.roundHalfAway_mono (mul_le_mul_of_nonneg_right ?_ hrate)
  have hle := Int64.le_iff_toInt_le.mp hraw
  exact Int.cast_le.mpr (Int.sub_le_sub_right hle _)

theorem valueAt_mono (hrate : 0 ≤ c.rate) {raw raw' : Int64} (h : c.Fits raw)
    (h' : c.Fits raw') (hraw : raw ≤ raw') :
    (c.valueAt raw).toInt ≤ (c.valueAt raw').toInt := by
  rw [toInt_valueAt h, toInt_valueAt h']
  exact Int.add_le_add_left (gone_mono hrate hraw) _

/-- While the raw clock does not go backwards, a clock goes on by its shifts at
least. -/
theorem add_shifts_le {acts : List (Act Rat)} {raw raw' : Int64}
    (hrate : 0 ≤ c.rate) (hforward : Forward acts)
    (hreset : ∀ a ∈ acts, a.isReset = false)
    (hraw : (raw :: (acts.map Act.raw ++ [raw'])).Pairwise (· ≤ ·))
    (hnow : c.Fits raw) (hfits : c.RunFits (acts ++ [.read raw'])) :
    (c.valueAt raw).toInt + shifts acts ≤
      ((c.run acts).valueAt raw').toInt := by
  induction acts generalizing c raw with
  | nil =>
    have hle : raw ≤ raw' := List.rel_of_pairwise_cons hraw List.mem_cons_self
    simpa [shifts] using valueAt_mono hrate hnow hfits.1 hle
  | cons a acts ih =>
    obtain ⟨hfirst, hlater⟩ := hfits
    obtain ⟨ha, hacts⟩ := List.forall_mem_cons.mp hreset
    have hle : raw ≤ a.raw := List.rel_of_pairwise_cons hraw List.mem_cons_self
    -- up to the act the clock goes on at its old rate, and then it has been
    -- shifted
    have hbefore := valueAt_mono hrate hnow (fits_of_stepFits hfirst ha) hle
    obtain ⟨hthen, hvalue⟩ := toInt_valueAt_step hfirst ha
    have hafter := ih (rate_step hrate hforward) hforward.tail hacts
      (List.Pairwise.of_cons hraw) hthen hlater
    have hshifts : shifts (a :: acts) = a.delta + shifts acts := rfl
    rw [run_cons, hshifts]
    omega

/-- Shifts that are not negative are not negative in all. -/
theorem shifts_nonneg {acts : List (Act Rat)} (h : ∀ a ∈ acts, 0 ≤ a.delta) :
    0 ≤ shifts acts :=
  List.sum_nonneg (by simpa using h)

/-- In a run with rates that are not negative, let the raw clock not go
backwards from one reading to another, and let no reset come between them. Then
the clock shows at the second one at least what it showed at the first and the
shifts in between, and so no less than at the first if none of these is
negative. -/
theorem never_backwards (first : Int64) (acts between : List (Act Rat))
    (raw raw' : Int64) (hforward : Forward (acts ++ between))
    (hreset : ∀ a ∈ between, a.isReset = false)
    (hraw : (raw :: (between.map Act.raw ++ [raw'])).Pairwise (· ≤ ·))
    (hfits :
      (start first).RunFits (acts ++ .read raw :: between ++ [.read raw'])) :
    let c : ServedClock Rat := (start first).run acts
    let later : ServedClock Rat := c.run (.read raw :: between)
    (c.valueAt raw).toInt + shifts between ≤ (later.valueAt raw').toInt ∧
      ((∀ a ∈ between, 0 ≤ a.delta) → c.valueAt raw ≤ later.valueAt raw') := by
  intro c later
  have hrate : 0 ≤ c.rate := rate_run zero_le_one fun now rate hmem =>
    hforward now rate (List.mem_append_left _ hmem)
  have hbetween : Forward between := fun now rate hmem =>
    hforward now rate (List.mem_append_right _ hmem)
  rw [List.append_assoc, runFits_append] at hfits
  obtain ⟨_, hnow, hlater⟩ := hfits
  have hle := add_shifts_le hrate hbetween hreset hraw hnow hlater
  refine ⟨hle, fun hdeltas => ?_⟩
  have hshifts := shifts_nonneg hdeltas
  rw [Int64.le_iff_toInt_le]
  exact Int.le_trans (Int.le_add_of_nonneg_right hshifts) hle

/-- The clock slows down to a third, stands still and goes on at a half, and the
raw time between two changes is too short to be seen each time. -/
theorem never_backwards_at_low_rates :
    let acts : List (Act Rat) := [.addOffset 1000 (-400), .setRate 1001 (1 / 3)]
    let between : List (Act Rat) :=
      [.setRate 1002 0, .setRate 1009 (1 / 2), .addOffset 1009 20,
        .read 1010, .addOffset 1010 (-3)]
    let c : ServedClock Rat := (start 1000).run acts
    let later : ServedClock Rat := c.run (.read 1001 :: between)
    (c.valueAt 1001).toInt = 601 ∧ (later.valueAt 1010).toInt = 619 ∧
      (c.valueAt 1001).toInt + 17 ≤ (later.valueAt 1010).toInt := by
  intro acts between c later
  have hforward : Forward (acts ++ between) := by
    intro raw rate hmem
    simp only [acts, between, List.cons_append, List.nil_append, List.mem_cons,
      reduceCtorEq, Act.setRate.injEq, List.not_mem_nil, or_false,
      false_or] at hmem
    obtain ⟨_, rfl⟩ | ⟨_, rfl⟩ | ⟨_, rfl⟩ := hmem <;> decide +kernel
  obtain ⟨hle, _⟩ :=
    never_backwards 1000 acts between 1001 1010 hforward (by decide)
    (by decide) (by decide +kernel)
  exact ⟨by decide +kernel, by decide +kernel, hle⟩

end ClockSync.ServedClock
