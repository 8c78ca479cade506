import ClockSync.Proofs.Median
import ClockSync.Proofs.Stamps
import ClockSync.Proofs.Windows

/-!
# Runs of an estimator

An estimator is changed by four kinds of calls. `ingest_cases` says all that
taking in a reply can do; what it leaves alone follows from it field by field.
`run` carries an estimator through a list of calls, and `encounters` lists the
replies of a run, each with the estimator that took it in.
-/

namespace ClockSync.Estimator

variable {α : Type}

/-! ## Taking in a reply -/

/-- The estimator after the round trip of a reply was recorded. -/
def recorded (e : Estimator α) (x : Exchange) : Estimator α :=
  { e with roundTrips := e.roundTrips.push (Int64.ofInt x.delay) }

/-- How far the round trip of a reply is from the median of the round trips,
once it is among them. -/
def deviation (e : Estimator α) (x : Exchange) : Int :=
  |x.delay - lowerMiddle ((e.recorded x).roundTrips.toList.map Int64.toInt)|

theorem map_recorded_ne_nil (e : Estimator α) (x : Exchange) :
    (e.recorded x).roundTrips.toList.map Int64.toInt ≠ [] :=
  mt List.map_eq_nil_iff.mp
    (Window.push_ne_nil e.roundTrips (Int64.ofInt x.delay))

/-- Round trips that are not negative are not too far from each other to be
compared. -/
theorem deviation_lt {e : Estimator α} {x : Exchange} (hvalid : x.Valid)
    (h : ∀ r ∈ e.roundTrips.toList, 0 ≤ r.toInt) : e.deviation x < 2 ^ 63 := by
  have hnonneg := x.delay_nonneg
  have hrecorded : ∀ r ∈ (e.recorded x).roundTrips.toList, 0 ≤ r.toInt :=
    Window.forall_mem_push h (by rwa [Exchange.toInt_ofInt_delay hvalid])
  obtain ⟨median, hmem, hmedian⟩ :=
    List.mem_map.mp (lowerMiddle_mem (map_recorded_ne_nil e x))
  have hlow := hrecorded median hmem
  have hhigh := median.toInt_lt
  rw [deviation, ← hmedian, abs_lt]
  rw [Exchange.Valid] at hvalid
  constructor <;> omega

/-- The estimators agree on all that times are estimated from. -/
structure SameModel (e e' : Estimator α) : Prop where
  samples : e'.samples = e.samples
  offsets : e'.offsets = e.offsets
  offset : e'.offset = e.offset
  rate : e'.rate = e.rate

theorem SameModel.refl (e : Estimator α) : SameModel e e := ⟨rfl, rfl, rfl, rfl⟩

theorem SameModel.trans {e e' e'' : Estimator α} (h : SameModel e e')
    (h' : SameModel e' e'') :
    SameModel e e'' :=
  ⟨h'.samples.trans h.samples, h'.offsets.trans h.offsets,
    h'.offset.trans h.offset,
    h'.rate.trans h.rate⟩

variable [Scalar α]

/-- All that taking in a reply can do: one that is not valid is only counted,
the round trip of any other is recorded, and if it is no outlier the reply is
used. -/
theorem ingest_cases (e : Estimator α) (x : Exchange) :
    (¬ x.Valid ∧ e.ingest x = (.rejected, e.noteReceived.noteRejected)) ∨
    (x.Valid ∧
      e.threshold < (Int64.ofInt x.delay - (e.recorded x).medianRoundTrip).abs ∧
      e.ingest x = (.rejected, (e.noteReceived.recorded x).noteRejected)) ∨
    (x.Valid ∧ ¬ e.threshold <
      (Int64.ofInt x.delay - (e.recorded x).medianRoundTrip).abs ∧
      e.ingest x = (.accepted, (e.noteReceived.recorded x).accept x)) := by
  by_cases hvalid : x.Valid
  · have htrip := Exchange.roundTrip?_of_valid hvalid
    by_cases hfar :
      e.threshold < (Int64.ofInt x.delay - (e.recorded x).medianRoundTrip).abs
    · refine Or.inr (Or.inl ⟨hvalid, hfar, ?_⟩)
      simp only [ingest, htrip]
      exact if_pos hfar
    · refine Or.inr (Or.inr ⟨hvalid, hfar, ?_⟩)
      simp only [ingest, htrip]
      exact if_neg hfar
  · refine Or.inl ⟨hvalid, ?_⟩
    simp only [ingest, Exchange.roundTrip?_of_not_valid hvalid]

theorem ingest_of_accepted {e : Estimator α} {x : Exchange}
    (h : (e.ingest x).1 = .accepted) :
    x.Valid ∧ (e.ingest x).2 = (e.noteReceived.recorded x).accept x := by
  rcases e.ingest_cases x with ⟨_, heq⟩ | ⟨_, _, heq⟩ | ⟨hvalid, _, heq⟩
  · rw [heq] at h
    cases h
  · rw [heq] at h
    cases h
  · exact ⟨hvalid, by rw [heq]⟩

/-- A rejected reply leaves the model alone. -/
theorem ingest_of_rejected {e : Estimator α} {x : Exchange}
    (h : (e.ingest x).1 = .rejected) :
    SameModel e (e.ingest x).2 := by
  rcases e.ingest_cases x with ⟨_, heq⟩ | ⟨_, _, heq⟩ | ⟨_, _, heq⟩
  · rw [heq]
    exact ⟨rfl, rfl, rfl, rfl⟩
  · rw [heq]
    exact ⟨rfl, rfl, rfl, rfl⟩
  · rw [heq] at h
    cases h

@[simp] theorem ingest_threshold (e : Estimator α) (x : Exchange) :
    (e.ingest x).2.threshold = e.threshold := by
  rcases e.ingest_cases x with ⟨_, heq⟩ | ⟨_, _, heq⟩ | ⟨_, _, heq⟩ <;>
    rw [heq] <;> rfl

theorem ingest_roundTrips_of_valid (e : Estimator α) {x : Exchange}
    (h : x.Valid) :
    (e.ingest x).2.roundTrips = e.roundTrips.push (Int64.ofInt x.delay) := by
  rcases e.ingest_cases x with ⟨hnot, _⟩ | ⟨_, _, heq⟩ | ⟨_, _, heq⟩
  · exact absurd h hnot
  · rw [heq]
    rfl
  · rw [heq]
    rfl

theorem ingest_of_not_valid (e : Estimator α) {x : Exchange} (h : ¬ x.Valid) :
    e.ingest x = (.rejected, e.noteReceived.noteRejected) := by
  rcases e.ingest_cases x with ⟨_, heq⟩ | ⟨hvalid, _⟩ | ⟨hvalid, _⟩
  · exact heq
  · exact absurd hvalid h
  · exact absurd hvalid h

theorem ingest_of_far (e : Estimator α) {x : Exchange} (h : x.Valid)
    (hfar : e.threshold <
      (Int64.ofInt x.delay - (e.recorded x).medianRoundTrip).abs) :
    e.ingest x = (.rejected, (e.noteReceived.recorded x).noteRejected) := by
  rcases e.ingest_cases x with ⟨hnot, _⟩ | ⟨_, _, heq⟩ | ⟨_, hnear, _⟩
  · exact absurd h hnot
  · exact heq
  · exact absurd hfar hnear

theorem ingest_of_near (e : Estimator α) {x : Exchange} (h : x.Valid)
    (hnear : ¬ e.threshold <
      (Int64.ofInt x.delay - (e.recorded x).medianRoundTrip).abs) :
    e.ingest x = (.accepted, (e.noteReceived.recorded x).accept x) := by
  rcases e.ingest_cases x with ⟨hnot, _⟩ | ⟨_, hfar, _⟩ | ⟨_, _, heq⟩
  · exact absurd h hnot
  · exact absurd hfar hnear
  · exact heq

@[simp] theorem ingest_sent (e : Estimator α) (x : Exchange) :
    (e.ingest x).2.stats.sent = e.stats.sent := by
  rcases e.ingest_cases x with ⟨_, heq⟩ | ⟨_, _, heq⟩ | ⟨_, _, heq⟩ <;>
    rw [heq] <;> rfl

@[simp] theorem ingest_received (e : Estimator α) (x : Exchange) :
    (e.ingest x).2.stats.received = e.stats.received + 1 := by
  rcases e.ingest_cases x with ⟨_, heq⟩ | ⟨_, _, heq⟩ | ⟨_, _, heq⟩ <;>
    rw [heq] <;> rfl

theorem ingest_rejected (e : Estimator α) (x : Exchange) :
    (e.ingest x).2.stats.rejected =
      e.stats.rejected + if (e.ingest x).1 = .rejected then 1 else 0 := by
  rcases e.ingest_cases x with ⟨_, heq⟩ | ⟨_, _, heq⟩ | ⟨_, _, heq⟩ <;>
    rw [heq] <;> rfl

/-- The verdict in whole numbers: a reply is accepted if it is valid and its
deviation is within the threshold. -/
theorem ingest_accepted_iff {e : Estimator α} {x : Exchange}
    (hsmall : x.Valid → e.deviation x < 2 ^ 63) :
    (e.ingest x).1 = .accepted ↔ x.Valid ∧
      e.deviation x ≤ e.threshold.toInt := by
  have hmedian : (e.recorded x).medianRoundTrip.toInt =
      lowerMiddle ((e.recorded x).roundTrips.toList.map Int64.toInt) :=
    toInt_lowerMedian _
  have hfar : x.Valid →
      (e.threshold <
        (Int64.ofInt x.delay - (e.recorded x).medianRoundTrip).abs ↔
        e.threshold.toInt < e.deviation x) := by
    intro hvalid
    have hdev : e.deviation x =
        |(Int64.ofInt x.delay).toInt -
          (e.recorded x).medianRoundTrip.toInt| := by
      rw [hmedian, Exchange.toInt_ofInt_delay hvalid, deviation]
    rw [Stamp.lt_abs_sub_iff (by rw [← hdev]; exact hsmall hvalid), hdev]
  rcases e.ingest_cases x with
    ⟨hnot, heq⟩ | ⟨hvalid, hout, heq⟩ | ⟨hvalid, hin, heq⟩
  · simp [heq, hnot]
  · have := (hfar hvalid).mp hout
    simp [heq, hvalid, this]
  · have := mt (hfar hvalid).mpr hin
    simp [heq, hvalid, Int.not_lt.mp this]

/-! ## Runs -/

/-- A call that changes an estimator. -/
inductive Call where
  | ingest (x : Exchange)
  | noteSent
  | setThreshold (threshold : Int64)
  | reset
deriving DecidableEq, Repr

/-- What a call makes of an estimator. -/
def step (e : Estimator α) : Call → Estimator α
  | .ingest x => (e.ingest x).2
  | .noteSent => e.noteSent
  | .setThreshold threshold => e.setThreshold threshold
  | .reset => e.reset

/-- What calls one after the other make of an estimator. -/
def run (e : Estimator α) (calls : List Call) : Estimator α :=
  calls.foldl step e

@[simp] theorem run_nil (e : Estimator α) : e.run [] = e := rfl

@[simp] theorem run_cons (e : Estimator α) (c : Call) (calls : List Call) :
    e.run (c :: calls) = (e.step c).run calls := rfl

theorem run_append (e : Estimator α) (calls later : List Call) :
    e.run (calls ++ later) = (e.run calls).run later := List.foldl_append

/-- What every call preserves, every run preserves. -/
theorem run_induction {P : Estimator α → Prop}
    (hstep : ∀ e c, P e → P (e.step c)) {e : Estimator α} (h : P e)
    (calls : List Call) : P (e.run calls) := by
  induction calls generalizing e with
  | nil => exact h
  | cons c calls ih => exact ih (hstep e c h)

/-- The replies of a run, oldest first, each with the estimator that took it
in. -/
def encounters (e : Estimator α) : List Call → List (Estimator α × Exchange)
  | [] => []
  | .ingest x :: calls => (e, x) :: encounters (e.ingest x).2 calls
  | c :: calls => encounters (e.step c) calls

/-! ### Since the last reset -/

/-- The calls after the last reset. -/
def sinceReset (calls : List Call) : List Call := calls.rtakeWhile (· ≠ .reset)

/-- The calls up to the last reset, which comes last among them if there was
one. -/
def untilReset (calls : List Call) : List Call := calls.rdropWhile (· ≠ .reset)

theorem run_sinceReset (e : Estimator α) (calls : List Call) :
    (e.run (untilReset calls)).run (sinceReset calls) = e.run calls := by
  rw [← run_append, untilReset, sinceReset, List.rdropWhile_append_rtakeWhile]

theorem reset_notMem_sinceReset (calls : List Call) :
    .reset ∉ sinceReset calls := by
  intro h
  have := List.mem_rtakeWhile_imp h
  simp at this

/-- At the last reset the estimator has seen nothing: another reset changes
nothing. -/
theorem reset_run_untilReset (threshold : Int64) (calls : List Call) :
    ((new threshold : Estimator α).run (untilReset calls)).reset =
      (new threshold).run (untilReset calls) := by
  -- the calls up to the last reset end in a reset, or there was none and they
  -- are none
  induction calls using List.reverseRecOn with
  | nil => rfl
  | append_singleton calls c ih =>
    by_cases hc : c = .reset
    · have hkeep : untilReset (calls ++ [c]) = calls ++ [c] :=
        List.rdropWhile_concat_neg _ _ _ (by simp [hc])
      rw [hkeep, run_append, hc]
      rfl
    · have hdrop : untilReset (calls ++ [c]) = untilReset calls :=
        List.rdropWhile_concat_pos _ _ _ (by simp [hc])
      rw [hdrop, ih]

/-! ### The threshold -/

theorem toInt_atLeastZero (threshold : Int64) :
    (atLeastZero threshold).toInt = max 0 threshold.toInt := by
  have hiff : threshold < 0 ↔ threshold.toInt < 0 := Int64.lt_iff_toInt_lt
  rw [atLeastZero]
  by_cases h : threshold < 0
  · rw [if_pos h, max_eq_left (Int.le_of_lt (hiff.mp h))]
    rfl
  · rw [if_neg h, max_eq_right (Int.not_lt.mp (mt hiff.mpr h))]

theorem atLeastZero_nonneg (threshold : Int64) :
    0 ≤ (atLeastZero threshold).toInt := by
  rw [toInt_atLeastZero]
  exact le_max_left _ _

theorem threshold_nonneg_step (e : Estimator α) (c : Call)
    (h : 0 ≤ e.threshold.toInt) :
    0 ≤ (e.step c).threshold.toInt := by
  cases c with
  | ingest x => rwa [step, ingest_threshold]
  | noteSent => exact h
  | setThreshold threshold => exact atLeastZero_nonneg threshold
  | reset => exact h

/-- The threshold in force is never negative. -/
theorem threshold_nonneg_run (threshold : Int64) (calls : List Call) :
    0 ≤ ((new threshold : Estimator α).run calls).threshold.toInt := by
  have hnew : 0 ≤ (new threshold : Estimator α).threshold.toInt := by
    exact atLeastZero_nonneg threshold
  exact run_induction (P := fun e => 0 ≤ e.threshold.toInt)
    threshold_nonneg_step hnew calls

/-! ### The round trips -/

theorem roundTrips_nonneg_step (e : Estimator α) (c : Call)
    (h : ∀ r ∈ e.roundTrips.toList, 0 ≤ r.toInt) :
    ∀ r ∈ (e.step c).roundTrips.toList, 0 ≤ r.toInt := by
  cases c with
  | ingest x =>
    by_cases hvalid : x.Valid
    · rw [step, ingest_roundTrips_of_valid e hvalid]
      refine Window.forall_mem_push h ?_
      rw [Exchange.toInt_ofInt_delay hvalid]
      exact x.delay_nonneg
    · rw [step, ingest_of_not_valid e hvalid]
      exact h
  | noteSent => exact h
  | setThreshold threshold => exact h
  | reset => simp [step, reset]

/-- No round trip in the window is negative. -/
theorem roundTrips_nonneg_run (threshold : Int64) (calls : List Call) :
    ∀ r ∈ ((new threshold : Estimator α).run calls).roundTrips.toList,
      0 ≤ r.toInt := by
  have hnew : ∀ r ∈ (new threshold : Estimator α).roundTrips.toList,
      0 ≤ r.toInt := by
    simp [new]
  exact run_induction (P := fun e => ∀ r ∈ e.roundTrips.toList, 0 ≤ r.toInt)
    roundTrips_nonneg_step hnew calls

/-! ### The offset -/

theorem offset_step (e : Estimator α) (c : Call)
    (h : e.offset = meanOffset e.offsets) :
    (e.step c).offset = meanOffset (e.step c).offsets := by
  cases c with
  | ingest x =>
    cases hverdict : (e.ingest x).1 with
    | accepted =>
      rw [step, (ingest_of_accepted hverdict).2]
      rfl
    | rejected =>
      have hmodel := ingest_of_rejected hverdict
      rw [step, hmodel.offset, hmodel.offsets]
      exact h
  | noteSent => exact h
  | setThreshold threshold => exact h
  | reset => rfl

/-- The offset is the mean of the offsets in the window. -/
theorem offset_run (threshold : Int64) (calls : List Call) :
    ((new threshold : Estimator α).run calls).offset =
      meanOffset ((new threshold : Estimator α).run calls).offsets := by
  have hnew : (new threshold : Estimator α).offset =
      meanOffset (new threshold : Estimator α).offsets :=
    rfl
  exact run_induction (P := fun e => e.offset = meanOffset e.offsets)
    offset_step hnew calls

end ClockSync.Estimator
