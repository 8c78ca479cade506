import ClockSync.Proofs.Estimator.Verdicts

/-!
# A minority of outliers

While more than half of the round trips in the window are in a range, so is
their median (`median_of_mostBetween`), whatever the others are. So a reply
whose round trip is further from that range than the threshold is rejected and
leaves no trace but its round trip (`rejected_of_mostBetween`).

A round trip that is recorded takes the place of at most one other
(`within_recorded`). So a full window in the range can take four of any size:
six are left, which are more than half of ten.
-/

namespace ClockSync

namespace Estimator

variable {α : Type}

/-! ## Round trips in a range -/

/-- How many round trips in the window are between `a` and `b`. -/
def within (e : Estimator α) (a b : Int) : Nat :=
  e.roundTrips.toList.countP fun r => a ≤ r.toInt ∧ r.toInt ≤ b

/-- More than half of the round trips in the window are between `a` and `b`. -/
def MostBetween (e : Estimator α) (a b : Int) : Prop :=
  e.roundTrips.size < 2 * e.within a b

instance (e : Estimator α) (a b : Int) : Decidable (e.MostBetween a b) :=
  inferInstanceAs (Decidable (_ < _))

/-- The round trip of the reply is further from the range than the threshold. -/
def FarFrom (e : Estimator α) (a b : Int) (x : Exchange) : Prop :=
  x.delay < a - e.threshold.toInt ∨ b + e.threshold.toInt < x.delay

instance (e : Estimator α) (a b : Int) : DecidablePred (e.FarFrom a b) :=
  fun _ =>
  inferInstanceAs (Decidable (_ ∨ _))

theorem median_of_mostBetween {e : Estimator α} {a b : Int}
    (h : e.MostBetween a b) :
    a ≤ e.medianRoundTrip.toInt ∧ e.medianRoundTrip.toInt ≤ b := by
  rw [medianRoundTrip, toInt_lowerMedian]
  apply lowerMiddle_mem_of_majority
  rw [List.length_map, List.countP_map]
  exact h

/-- Six round trips are more than half of any window. -/
theorem mostBetween_of_six {e : Estimator α} {a b : Int}
    (h : 6 ≤ e.within a b) :
    e.MostBetween a b := by
  have hle : e.roundTrips.size ≤ 10 := e.roundTrips.length_le
  rw [MostBetween]
  omega

/-! ## One outlier -/

variable [Scalar α]

theorem within_recorded {e : Estimator α} {x : Exchange} (hvalid : x.Valid)
    (a b : Int) :
    e.within a b ≤ (e.ingest x).2.within a b + 1 := by
  rw [within, within, ingest_roundTrips_of_valid e hvalid]
  exact Window.countP_le_push e.roundTrips _ _

theorem rejected_of_mostBetween {e : Estimator α} {x : Exchange} {a b : Int}
    (hnonneg : ∀ r ∈ e.roundTrips.toList, 0 ≤ r.toInt) (hvalid : x.Valid)
    (hmost : (e.ingest x).2.MostBetween a b) (hfar : e.FarFrom a b x) :
    (e.ingest x).1 = .rejected := by
  have hmedian := median_of_mostBetween hmost
  have hdeviation : e.deviation x =
      |x.delay - (e.ingest x).2.medianRoundTrip.toInt| := by
    rw [deviation, medianRoundTrip, toInt_lowerMedian,
      ingest_roundTrips_of_valid e hvalid]
    rfl
  have hbeyond : e.threshold.toInt < e.deviation x := by
    rw [hdeviation, lt_abs]
    rw [FarFrom] at hfar
    omega
  cases hverdict : (e.ingest x).1 with
  | rejected => rfl
  | accepted =>
    obtain ⟨_, hwithin⟩ :=
      (ingest_accepted_iff fun _ => deviation_lt hvalid hnonneg).mp hverdict
    exact absurd hwithin (Int.not_le.mpr hbeyond)

/-! ## Some outliers -/

/-- As many outliers as there are round trips in the range beyond six are all
rejected. Replies without a round trip do not count. -/
theorem rejected_of_within {threshold : Int64} {a b : Int} {calls : List Call}
    (hreset : .reset ∉ calls)
    (hset : ∀ t, .setThreshold t ∈ calls → atLeastZero t = threshold)
    (hfar : ∀ x, .ingest x ∈ calls → x.Valid →
      x.delay < a - threshold.toInt ∨ b + threshold.toInt < x.delay)
    {e : Estimator α} (hthreshold : e.threshold = threshold)
    (hnonneg : ∀ r ∈ e.roundTrips.toList, 0 ≤ r.toInt)
    (hwithin : (e.validEncounters calls).length + 6 ≤ e.within a b) :
    (∀ p ∈ e.encounters calls, (p.1.ingest p.2).1 = .rejected) ∧
    SameModel e (e.run calls) := by
  -- each outlier takes away one of the round trips in the range, and six are
  -- never touched
  induction calls generalizing e with
  | nil => exact ⟨fun p hp => absurd hp List.not_mem_nil, SameModel.refl e⟩
  | cons c calls ih =>
    rw [List.mem_cons, not_or] at hreset
    have hrest := @ih hreset.2 (fun t ht => hset t (List.mem_cons_of_mem c ht))
      (fun x hx => hfar x (List.mem_cons_of_mem c hx))
    cases c with
    | ingest x =>
      have hthreshold' := (ingest_threshold e x).trans hthreshold
      have hnonneg' := roundTrips_nonneg_step e (.ingest x) hnonneg
      obtain ⟨hrejected, hleft⟩ : (e.ingest x).1 = .rejected ∧
          ((e.ingest x).2.validEncounters calls).length + 6 ≤
            (e.ingest x).2.within a b := by
        by_cases hvalid : x.Valid
        · rw [validEncounters_of_valid e calls hvalid,
            List.length_cons] at hwithin
          have hone := within_recorded (e := e) hvalid a b
          have hmost : (e.ingest x).2.MostBetween a b :=
            mostBetween_of_six (by omega)
          refine ⟨rejected_of_mostBetween hnonneg hvalid hmost ?_, by omega⟩
          rw [FarFrom, hthreshold]
          exact hfar x List.mem_cons_self hvalid
        · rw [validEncounters_of_not_valid e calls hvalid] at hwithin
          have hdiscards := discards_of_not_valid e hvalid
          refine ⟨hdiscards.verdict, ?_⟩
          rwa [within, hdiscards.roundTrips]
      obtain ⟨hverdicts, hmodel⟩ := hrest hthreshold' hnonneg' hleft
      exact ⟨List.forall_mem_cons.mpr ⟨hrejected, hverdicts⟩,
        (ingest_of_rejected hrejected).trans hmodel⟩
    | noteSent =>
      obtain ⟨hverdicts, hmodel⟩ :=
        hrest (e := e.noteSent) hthreshold hnonneg hwithin
      have hsame : SameModel e e.noteSent := ⟨rfl, rfl, rfl, rfl⟩
      exact ⟨hverdicts, hsame.trans hmodel⟩
    | setThreshold t =>
      obtain ⟨hverdicts, hmodel⟩ :=
        hrest (e := e.setThreshold t) (hset t List.mem_cons_self)
        hnonneg hwithin
      have hsame : SameModel e (e.setThreshold t) := ⟨rfl, rfl, rfl, rfl⟩
      exact ⟨hverdicts, hsame.trans hmodel⟩
    | reset => exact absurd rfl hreset.1

/-- After any calls: if more than half of the round trips are in a range once
that of a valid reply is among them, then so is their median, and if the reply
is further from the range than the threshold it is rejected and only its round
trip is kept. So if the window is full of round trips in the range, and the
threshold stays in force, then of what comes in next four replies far from the
range are all rejected, whatever their round trips are. -/
theorem minority_rejected (threshold : Int64) (calls : List Call) (a b : Int) :
    let e : Estimator α := (new threshold).run calls
    (∀ x : Exchange, x.Valid → (e.ingest x).2.MostBetween a b →
      (a ≤ (e.ingest x).2.medianRoundTrip.toInt ∧
        (e.ingest x).2.medianRoundTrip.toInt ≤ b) ∧
      (e.FarFrom a b x → (e.ingest x).1 = .rejected ∧
        SameModel e (e.ingest x).2 ∧
        (e.ingest x).2.roundTrips = e.roundTrips.push (Int64.ofInt x.delay))) ∧
    (e.roundTrips.size = 10 →
      (∀ r ∈ e.roundTrips.toList, a ≤ r.toInt ∧ r.toInt ≤ b) →
      ∀ later : List Call, .reset ∉ later →
        (∀ t, .setThreshold t ∈ later → atLeastZero t = e.threshold) →
        (∀ x, .ingest x ∈ later → x.Valid → e.FarFrom a b x) →
        (e.validEncounters later).length ≤ 4 →
        (∀ p ∈ e.encounters later, (p.1.ingest p.2).1 = .rejected) ∧
          SameModel e (e.run later)) := by
  intro e
  have hnonneg := roundTrips_nonneg_run (α := α) threshold calls
  constructor
  · intro x hvalid hmost
    refine ⟨median_of_mostBetween hmost, fun hfar => ?_⟩
    have hrejected := rejected_of_mostBetween hnonneg hvalid hmost hfar
    exact ⟨hrejected, ingest_of_rejected hrejected,
      ingest_roundTrips_of_valid e hvalid⟩
  · intro hfull hall later hreset hset hfar hfew
    have hwithin : e.within a b = 10 := by
      rw [← hfull, within, Window.size, List.countP_eq_length]
      simpa using hall
    exact rejected_of_within hreset hset hfar rfl hnonneg (by omega)

/-- Of ten round trips of about a hundred microseconds, six are left when four
long ones have been taken for outliers, the last of them by a microsecond; a
reply from the future comes in between. -/
theorem minority_rejected_of_four :
    let calls : List Call :=
      List.replicate 5 (.ingest ⟨0, 0, 90⟩) ++
        List.replicate 5 (.ingest ⟨0, 0, 110⟩)
    let later : List Call :=
      [.ingest ⟨0, 0, 50000⟩, .noteSent, .ingest ⟨1, 0, 0⟩,
        .ingest ⟨0, 0, 5000⟩,
        .ingest ⟨0, 0, 0x4000000000000000⟩, .ingest ⟨0, 0, 1111⟩]
    let e : Estimator Rat := (new 1000).run calls
    (e.ingest ⟨0, 0, 50000⟩).1 = .rejected ∧
      (∀ p ∈ e.encounters later, (p.1.ingest p.2).1 = .rejected) ∧
      SameModel e (e.run later) ∧
      (e.run later).within 90 110 = 6 := by
  intro calls later e
  obtain ⟨hone, hfour⟩ := minority_rejected (α := Rat) 1000 calls 90 110
  have hfar : ∀ x, .ingest x ∈ later → x.Valid → e.FarFrom 90 110 x := by
    intro x hx hvalid
    simp only [later, List.mem_cons, List.not_mem_nil, or_false, false_or,
      reduceCtorEq, Call.ingest.injEq] at hx
    obtain rfl | rfl | rfl | rfl | rfl := hx
    · decide +kernel
    · exact absurd hvalid (by decide)
    · decide +kernel
    · decide +kernel
    · decide +kernel
  have hwindow : ((new 1000 : Estimator Rat).run calls).roundTrips.toList =
      List.replicate 5 90 ++ List.replicate 5 110 := by
    decide +kernel
  have hrange : ∀ r ∈ ((new 1000 : Estimator Rat).run calls).roundTrips.toList,
      90 ≤ r.toInt ∧ r.toInt ≤ 110 := by
    intro r hr
    rw [hwindow] at hr
    obtain hr | hr := List.mem_append.mp hr
    · rw [List.eq_of_mem_replicate hr]
      decide
    · rw [List.eq_of_mem_replicate hr]
      decide
  have hfirst :=
    (hone ⟨0, 0, 50000⟩ (by decide) (by decide +kernel)).2 (by decide +kernel)
  obtain ⟨hverdicts, hmodel⟩ :=
    hfour (by decide +kernel) hrange later (by decide)
    (fun t ht => by simp [later] at ht) hfar (by decide +kernel)
  exact ⟨hfirst.1, hverdicts, hmodel, by decide +kernel⟩

end Estimator

end ClockSync
