import ClockSync.Proofs.Estimator.Runs

/-!
# Where the rate comes from

The rate is the slope between the ends of a window of samples, but not always of
the present one: a window whose ends have the same local time has no slope, and
the rate stays as it was. So the rate is the slope of the last window that had
one among those that the accepted replies since the last reset left
(`rate_eq_lastSlope`).
-/

namespace ClockSync.Estimator

variable {α : Type} [Scalar α]

/-! ## Slopes of windows -/

/-- There are two samples or more, and the first and the last of them have
different local times. -/
def HasSlope (w : List Sample) : Prop :=
  2 ≤ w.length ∧ w.head?.map Sample.localTime ≠ w.getLast?.map Sample.localTime

instance : DecidablePred HasSlope := fun w =>
  inferInstanceAs (Decidable (2 ≤ w.length ∧
    w.head?.map Sample.localTime ≠ w.getLast?.map Sample.localTime))

theorem not_hasSlope_nil : ¬ HasSlope [] := by decide

/-- The remote time from the first sample to the last divided by the local time,
both as the signed words congruent to their exact values. -/
def endSlope (w : List Sample) : α :=
  let first := w.head?.getD default
  let last := w.getLast?.getD default
  Scalar.ofInt64
    (Int64.ofInt (last.remoteTime.toInt - first.remoteTime.toInt)) /
    Scalar.ofInt64 (Int64.ofInt (last.localTime.toInt - first.localTime.toInt))

/-- The slope of the last window that has one; `rate` if there is none. -/
def lastSlope (rate : α) (ws : List (List Sample)) : α :=
  ((ws.filter HasSlope).getLast?.map endSlope).getD rate

@[simp] theorem lastSlope_nil (rate : α) : lastSlope rate [] = rate := rfl

theorem lastSlope_cons (rate : α) (w : List Sample) (ws : List (List Sample)) :
    lastSlope rate (w :: ws) =
      lastSlope (if HasSlope w then endSlope w else rate) ws := by
  by_cases h : HasSlope w
  · rw [lastSlope, lastSlope, List.filter_cons_of_pos (by simpa using h),
      if_pos h, List.getLast?_cons]
    cases (ws.filter HasSlope).getLast? <;> rfl
  · rw [lastSlope, lastSlope, List.filter_cons_of_neg (by simpa using h),
      if_neg h]

theorem lastSlope_concat (rate : α) (ws : List (List Sample))
    (w : List Sample) :
    lastSlope rate (ws ++ [w]) =
      if HasSlope w then endSlope w else lastSlope rate ws := by
  by_cases h : HasSlope w
  · simp [lastSlope, h]
  · simp [lastSlope, h]

theorem exists_ends {w : List Sample} (h : w ≠ []) :
    ∃ first last, w.head? = some first ∧ w.getLast? = some last :=
  ⟨w.head h, w.getLast h, List.head?_eq_some_head h,
    List.getLast?_eq_some_getLast h⟩

/-- A window gives a slope exactly if it has one, and then that one. -/
theorem slopeOf?_eq (w : Window windowCapacity Sample) :
    (slopeOf? w : Option α) = if HasSlope w.toList then some (endSlope w.toList)
      else none := by
  by_cases hsize : w.toList.length < 2
  · have hno : ¬ HasSlope w.toList := fun h => absurd h.1 (Nat.not_le.mpr hsize)
    rw [if_neg hno]
    exact if_pos hsize
  · have hne : w.toList ≠ [] := by
      intro hnil
      rw [hnil] at hsize
      exact hsize (by decide)
    obtain ⟨first, last, hfirst, hlast⟩ := exists_ends hne
    have hslope : (slopeOf? w : Option α) = slope? first last := by
      unfold slopeOf? Window.size Window.oldest? Window.newest?
      rw [if_neg hsize, hfirst, hlast]
    -- two readings are no time apart only if they are equal
    have hiff : HasSlope w.toList ↔
        Stamp.elapsed last.localTime first.localTime ≠ 0 := by
      simp [HasSlope, hfirst, hlast, Stamp.elapsed_eq_zero_iff,
        Nat.not_lt.mp hsize, @eq_comm _ first.localTime]
    rw [hslope, slope?]
    by_cases h : Stamp.elapsed last.localTime first.localTime = 0
    · rw [if_neg fun hs => hiff.mp hs h]
      exact if_pos h
    · rw [if_pos (hiff.mpr h), endSlope, hfirst, hlast,
        ← Stamp.elapsed_eq_ofInt, ← Stamp.elapsed_eq_ofInt]
      exact if_neg h

/-! ## What a reply does to the rate -/

theorem rate_of_accepted {e : Estimator α} {x : Exchange}
    (h : (e.ingest x).1 = .accepted) :
    (e.ingest x).2.rate =
      if HasSlope (e.ingest x).2.samples.toList then
        endSlope (e.ingest x).2.samples.toList
      else e.rate := by
  obtain ⟨_, heq⟩ := ingest_of_accepted h
  have hrate : (e.ingest x).2.rate =
      (slopeOf? (e.ingest x).2.samples).getD e.rate := by
    rw [heq]
    rfl
  rw [hrate, slopeOf?_eq]
  split <;> rfl

/-- The windows of samples that the accepted replies of a run left, oldest
first. -/
def windowsLeft (e : Estimator α) (calls : List Call) : List (List Sample) :=
  ((e.encounters calls).filter fun p => (p.1.ingest p.2).1 = .accepted).map
    fun p => (p.1.ingest p.2).2.samples.toList

/-- Without a reset, a run leaves the slope of the last window that had one. -/
theorem rate_run {calls : List Call} (h : .reset ∉ calls) (e : Estimator α) :
    (e.run calls).rate = lastSlope e.rate (e.windowsLeft calls) := by
  induction calls generalizing e with
  | nil => rfl
  | cons c calls ih =>
    rw [List.mem_cons, not_or] at h
    obtain ⟨hc, hcalls⟩ := h
    rw [run_cons, ih hcalls]
    cases c with
    | ingest x =>
      by_cases hacc : (e.ingest x).1 = .accepted
      · have hleft : e.windowsLeft (.ingest x :: calls) =
            (e.ingest x).2.samples.toList ::
              (e.ingest x).2.windowsLeft calls := by
          simp [windowsLeft, encounters, hacc]
        rw [hleft, lastSlope_cons, ← rate_of_accepted hacc]
        rfl
      · have hleft : e.windowsLeft (.ingest x :: calls) =
            (e.ingest x).2.windowsLeft calls := by
          simp [windowsLeft, encounters, hacc]
        have hrej : (e.ingest x).1 = .rejected := by
          cases hv : (e.ingest x).1 with
          | accepted => exact absurd hv hacc
          | rejected => rfl
        rw [hleft, step, (ingest_of_rejected hrej).rate]
    | noteSent => rfl
    | setThreshold threshold => rfl
    | reset => exact absurd rfl hc

/-! ## The slope of the present window -/

/-- If the window of samples has a slope, the rate is it. -/
def RateFits (e : Estimator α) : Prop :=
  HasSlope e.samples.toList → e.rate = endSlope e.samples.toList

theorem rateFits_step (e : Estimator α) (c : Call) (h : e.RateFits) :
    (e.step c).RateFits := by
  cases c with
  | ingest x =>
    cases hv : (e.ingest x).1 with
    | accepted =>
      intro hslope
      exact (rate_of_accepted hv).trans (if_pos hslope)
    | rejected =>
      have hsame := ingest_of_rejected hv
      rw [RateFits, step, hsame.samples, hsame.rate]
      exact h
  | noteSent => exact h
  | setThreshold threshold => exact h
  | reset =>
    intro hslope
    exact absurd hslope not_hasSlope_nil

/-- The rate of an estimator after any calls. It is one if since the last reset
no accepted reply left a window of samples with a slope, and else the slope of
the last such window. That is the present window if it has a slope; and no call
but a reset or an accepted reply changes the rate. -/
theorem rate_eq_lastSlope (threshold : Int64) (calls : List Call) :
    let e : Estimator α := (new threshold).run calls
    let start : Estimator α := (new threshold).run (untilReset calls)
    e.rate = lastSlope Scalar.one (start.windowsLeft (sinceReset calls)) ∧
      (HasSlope e.samples.toList → e.rate = endSlope e.samples.toList) ∧
      ∀ c, c ≠ .reset → (∀ x, c = .ingest x → (e.ingest x).1 = .rejected) →
        (e.step c).rate = e.rate := by
  intro e start
  refine ⟨?_, ?_, ?_⟩
  · have hstart : start.rate = Scalar.one := by
      show ((new threshold : Estimator α).run (untilReset calls)).rate =
        Scalar.one
      rw [← reset_run_untilReset]
      rfl
    rw [← hstart, ← rate_run (reset_notMem_sinceReset calls), run_sinceReset]
  · have hnew : (new threshold : Estimator α).RateFits := fun hslope =>
      absurd hslope not_hasSlope_nil
    exact run_induction rateFits_step hnew calls
  · intro c hreset hrej
    cases c with
    | ingest x => exact (ingest_of_rejected (hrej x rfl)).rate
    | noteSent => rfl
    | setThreshold threshold => rfl
    | reset => exact absurd rfl hreset

end ClockSync.Estimator
