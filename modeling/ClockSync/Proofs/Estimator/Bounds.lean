import ClockSync.Proofs.Estimator.History
import Mathlib.Algebra.Order.BigOperators.Group.List
import Mathlib.Algebra.Order.Field.Rat
import Mathlib.Algebra.Order.Ring.Cast

/-!
# How far the offset is from the truth

Say the remote clock is ahead of the local one by `theta`, and each request
takes some part of its round trip to get there (`Exchange.Took`). Then the
offset of a reply is too large by that part, so it is between `theta` and
`theta` plus the round trip. A reply that is accepted has a round trip near the
median; and while most of the round trips in the window are at most `b`, so is
the median (`lowerMiddle_le_of_majority`). So the offsets that are kept, and
with them their mean, are at most `theta + b` and the threshold, however long
the other round trips are (`offset_within`).

That a reply was accepted is decided when it comes in. The round trips of that
time may be gone from their window when the offset is still in its own, so the
bound is kept for the offsets (`Bounded`) and not read off the round trips of
the present.
-/

namespace ClockSync

/-! ## A single exchange -/

/-- The request left at the time `sent` of the local clock and reached the other
side after `forward`, and the reply was back after `roundTrip`. The words of the
exchange are these times, the remote clock being ahead by `theta`; neither the
round trip nor the offset goes beyond the signed words. -/
structure Exchange.Took (x : Exchange) (theta sent forward roundTrip : Int) :
    Prop where
  sentAt : (x.sentAt.toNat : Int) = sent % 2 ^ 64
  remoteTime : (x.remoteTime.toNat : Int) = (sent + theta + forward) % 2 ^ 64
  receivedAt : x.receivedAt.toInt = sent + roundTrip
  forward_nonneg : 0 ≤ forward
  forward_le : forward ≤ roundTrip
  roundTrip_lt : roundTrip < 2 ^ 63
  offset_ge : -2 ^ 63 ≤ theta + forward
  offset_lt : theta + forward < 2 ^ 63

namespace Exchange.Took

variable {x : Exchange} {theta sent forward roundTrip : Int}

theorem delay (h : x.Took theta sent forward roundTrip) :
    x.delay = roundTrip := by
  obtain ⟨hsent, _, hreceived, hnonneg, hle, hlt, _, _⟩ := h
  rw [Exchange.delay, hsent, hreceived]
  omega

/-- The offset is too large by the time that the request was on its way. -/
theorem difference (h : x.Took theta sent forward roundTrip) :
    (Stamp.difference x.remoteTime x.sentAt).toInt = theta + forward := by
  obtain ⟨hsent, hremote, _, _, _, _, hge, hlt⟩ := h
  have hsize : Int64.size = 2 ^ 64 := rfl
  rw [Stamp.difference_eq_ofInt, Int64.toInt_ofInt, Int.bmod_def, hsize, hsent,
    hremote]
  omega

end Exchange.Took

/-! ## Means -/

theorem Scalar.mean_eq (xs : List Rat) : mean xs = xs.sum / xs.length := by
  rw [List.sum_eq_foldl]
  rfl

/-- A mean is between bounds of the numbers. -/
theorem Scalar.mean_mem {xs : List Rat} {low high : Rat} (hne : xs ≠ [])
    (h : ∀ x ∈ xs, low ≤ x ∧ x ≤ high) : low ≤ mean xs ∧ mean xs ≤ high := by
  have hpos : (0 : Rat) < xs.length := by
    exact_mod_cast List.length_pos_iff.mpr hne
  have hlow := List.card_nsmul_le_sum xs low fun x hx => (h x hx).1
  have hhigh := List.sum_le_card_nsmul xs high fun x hx => (h x hx).2
  rw [nsmul_eq_mul, mul_comm] at hlow hhigh
  rw [mean_eq, le_div_iff₀ hpos, div_le_iff₀ hpos]
  exact ⟨hlow, hhigh⟩

namespace Estimator

variable {α : Type}

/-! ## What is kept in bounds -/

/-- Most of the round trips in the window are at most `b`. -/
def MostWithin (e : Estimator α) (b : Int) : Prop :=
  e.roundTrips.toList.length < 2 * e.roundTrips.toList.countP fun r =>
    r.toInt ≤ b

instance (e : Estimator α) (b : Int) : Decidable (e.MostWithin b) :=
  inferInstanceAs (Decidable (_ < _))

variable [Scalar α]

/-- The round trip of a reply that is accepted is within the threshold of those
that most round trips are within. -/
theorem delay_le_of_accepted {e : Estimator α} {x : Exchange} {b : Int}
    (h : ∀ r ∈ e.roundTrips.toList, 0 ≤ r.toInt)
    (haccepted : (e.ingest x).1 = .accepted)
    (hmost : (e.ingest x).2.MostWithin b) :
    x.delay ≤ b + e.threshold.toInt := by
  obtain ⟨hvalid, hdeviation⟩ :=
    (ingest_accepted_iff fun hvalid => deviation_lt hvalid h).mp haccepted
  have hmedian :
      lowerMiddle ((e.recorded x).roundTrips.toList.map Int64.toInt) ≤ b := by
    rw [MostWithin, ingest_roundTrips_of_valid e hvalid] at hmost
    refine lowerMiddle_le_of_majority ?_
    rw [List.length_map, List.countP_map]
    exact hmost
  rw [deviation, abs_le] at hdeviation
  omega

/-- The offsets that are kept are between two bounds, and the offset is their
mean. -/
structure Bounded (e : Estimator α) (threshold : Int64) (low high : Int) :
    Prop where
  threshold : e.threshold = threshold
  roundTrips : ∀ r ∈ e.roundTrips.toList, 0 ≤ r.toInt
  offset : e.offset = meanOffset e.offsets
  offsets : ∀ o ∈ e.offsets.toList, low ≤ o.toInt ∧ o.toInt ≤ high

/-- The reply is from a remote clock that is ahead by `theta`, and came in when
most of the round trips, its own among them, were at most `b`. -/
def Timely (e : Estimator α) (x : Exchange) (theta b : Int) : Prop :=
  (∃ sent forward roundTrip, x.Took theta sent forward roundTrip) ∧
    (e.ingest x).2.MostWithin b

namespace Bounded

variable {e : Estimator α} {threshold : Int64} {theta b : Int}

theorem new (threshold : Int64) (low high : Int) :
    Bounded (Estimator.new threshold : Estimator α)
      (atLeastZero threshold) low high :=
  ⟨rfl, by simp [Estimator.new], rfl, by simp [Estimator.new]⟩

theorem ingest (h : Bounded e threshold theta (theta + b + threshold.toInt))
    {x : Exchange} (hreply : (e.ingest x).1 = .accepted → e.Timely x theta b) :
    Bounded (e.ingest x).2 threshold theta (theta + b + threshold.toInt) := by
  have htrips := roundTrips_nonneg_step e (.ingest x) h.roundTrips
  have hmean := offset_step e (.ingest x) h.offset
  refine ⟨(ingest_threshold e x).trans h.threshold, htrips, hmean, ?_⟩
  cases hverdict : (e.ingest x).1 with
  | accepted =>
    obtain ⟨⟨sent, forward, roundTrip, htook⟩, hmost⟩ := hreply hverdict
    have hdelay := delay_le_of_accepted h.roundTrips hverdict hmost
    rw [htook.delay, h.threshold] at hdelay
    have hoffset := htook.difference
    have hnonneg := htook.forward_nonneg
    have hle := htook.forward_le
    obtain ⟨_, heq⟩ := ingest_of_accepted hverdict
    have hpush : (e.ingest x).2.offsets =
        e.offsets.push (Stamp.difference x.remoteTime x.sentAt) := by
      rw [heq]
      rfl
    rw [hpush]
    exact Window.forall_mem_push h.offsets (by omega)
  | rejected =>
    rw [(ingest_of_rejected hverdict).offsets]
    exact h.offsets

theorem run (h : Bounded e threshold theta (theta + b + threshold.toInt))
    {calls : List Call}
    (hset : ∀ t, .setThreshold t ∈ calls → atLeastZero t = threshold)
    (hreplies : ∀ p ∈ e.encounters calls, (p.1.ingest p.2).1 = .accepted →
      p.1.Timely p.2 theta b) :
    Bounded (e.run calls) threshold theta (theta + b + threshold.toInt) := by
  induction calls generalizing e with
  | nil => exact h
  | cons c calls ih =>
    have hlater := fun t ht => hset t (List.mem_cons_of_mem c ht)
    cases c with
    | ingest x =>
      obtain ⟨hfirst, hrest⟩ := List.forall_mem_cons.mp hreplies
      exact ih (h.ingest hfirst) hlater hrest
    | noteSent =>
      exact ih ⟨h.threshold, h.roundTrips, h.offset, h.offsets⟩ hlater hreplies
    | setThreshold t =>
      exact ih ⟨hset t List.mem_cons_self, h.roundTrips, h.offset, h.offsets⟩
        hlater hreplies
    | reset =>
      exact ih ⟨h.threshold, by simp [step, reset], rfl, by simp [step, reset]⟩
        hlater hreplies

end Bounded

/-! ## Accepted replies leave offsets -/

/-- While nothing is forgotten, there are offsets once a reply was accepted. -/
theorem offsets_ne_nil {e : Estimator α} {calls : List Call}
    (hreset : .reset ∉ calls)
    (h : e.offsets.toList ≠ [] ∨ ∃ p ∈ e.encounters calls,
      (p.1.ingest p.2).1 = .accepted) :
    (e.run calls).offsets.toList ≠ [] := by
  induction calls generalizing e with
  | nil => simpa [encounters] using h
  | cons c calls ih =>
    rw [List.mem_cons, not_or] at hreset
    refine ih hreset.2 ?_
    cases c with
    | ingest x =>
      cases hverdict : (e.ingest x).1 with
      | accepted =>
        obtain ⟨_, heq⟩ := ingest_of_accepted hverdict
        refine Or.inl ?_
        rw [step, heq]
        exact Window.push_ne_nil _ _
      | rejected =>
        rw [step, (ingest_of_rejected hverdict).offsets]
        simpa [encounters, hverdict] using h
    | noteSent => exact h
    | setThreshold t => exact h
    | reset => exact absurd rfl hreset.1

/-- While one threshold is in force: if each accepted reply is from a clock that
is ahead by `theta`, and came in when most of the round trips were at most `b`,
then once a reply was accepted since the last reset the mean of the offsets is
at least `theta`, and at most `theta`, `b` and the threshold together. The other
replies may have been anything. -/
theorem offset_within (threshold : Int64) (calls : List Call) (theta b : Int)
    (hset : ∀ t, .setThreshold t ∈ calls →
      atLeastZero t = atLeastZero threshold)
    (hreplies : ∀ p ∈ (new threshold : Estimator α).encounters calls,
      (p.1.ingest p.2).1 = .accepted → p.1.Timely p.2 theta b)
    (haccepted : ∃ p ∈
      ((new threshold : Estimator α).run (untilReset calls)).encounters
        (sinceReset calls), (p.1.ingest p.2).1 = .accepted) :
    let e : Estimator α := (new threshold).run calls
    e.offset = meanOffset e.offsets ∧ (theta : Rat) ≤ meanOffset e.offsets ∧
      (meanOffset e.offsets : Rat) ≤
        theta + b + (atLeastZero threshold).toInt := by
  intro e
  have hbounded :=
    (Bounded.new threshold _ _ : Bounded (α := α) _ _ _ _).run hset hreplies
  have hne : e.offsets.toList ≠ [] := by
    have hsince :=
      offsets_ne_nil (reset_notMem_sinceReset calls) (Or.inr haccepted)
    rwa [run_sinceReset] at hsince
  have hempty : e.offsets.isEmpty = false := by
    rwa [Window.isEmpty, List.isEmpty_eq_false_iff]
  have hmean : (theta : Rat) ≤
      Scalar.mean (e.offsets.toList.map Scalar.ofInt64) ∧
      Scalar.mean (e.offsets.toList.map Scalar.ofInt64) ≤
        ((theta + b + (atLeastZero threshold).toInt : Int) : Rat) := by
    refine Scalar.mean_mem (mt List.map_eq_nil_iff.mp hne) ?_
    rw [List.forall_mem_map]
    intro o ho
    obtain ⟨hlow, hhigh⟩ := hbounded.offsets o ho
    exact ⟨Int.cast_le.mpr hlow, Int.cast_le.mpr hhigh⟩
  refine ⟨hbounded.offset, ?_⟩
  rw [meanOffset, hempty]
  push_cast at hmean
  exact hmean

/-- A local clock that is before its zero at first, and a reply that is delayed
on its way to the other side: the delay is not seen in the offset. -/
theorem offset_within_with_delayed_reply :
    let calls : List Call :=
      [.ingest ⟨0, 5040, 100⟩, .reset, .ingest ⟨0xffffffffffffffce, 4980, 50⟩,
        .noteSent,
        .ingest ⟨1000, 6010, 1090⟩, .ingest ⟨2000, 16000, 11100⟩,
          .ingest ⟨20000, 25110, 20110⟩]
    let e : Estimator Rat := (new 20).run calls
    e.samples.size = 3 ∧ 5000 ≤ e.offset ∧ e.offset ≤ 5000 + 110 + 20 := by
  intro calls e
  have hset : ∀ t, .setThreshold t ∈ calls →
      atLeastZero t = atLeastZero 20 := by
    intro t ht
    simp [calls] at ht
  have hreplies : ∀ p ∈ (new 20 : Estimator Rat).encounters calls,
      (p.1.ingest p.2).1 = .accepted → p.1.Timely p.2 5000 110 := by
    intro p hp haccepted
    simp only [calls, encounters, List.mem_cons, List.not_mem_nil,
      or_false] at hp
    obtain rfl | rfl | rfl | rfl | rfl := hp
    · exact ⟨⟨0, 40, 100, by constructor <;> decide⟩, by decide +kernel⟩
    · exact ⟨⟨-50, 30, 100, by constructor <;> decide⟩, by decide +kernel⟩
    · exact ⟨⟨1000, 10, 90, by constructor <;> decide⟩, by decide +kernel⟩
    · exact absurd haccepted (by decide +kernel)
    · exact ⟨⟨20000, 110, 110, by constructor <;> decide⟩, by decide +kernel⟩
  obtain ⟨hoffset, hlow, hhigh⟩ :=
    offset_within (α := Rat) 20 calls 5000 110 hset hreplies
    ⟨_, List.mem_cons_self, by decide +kernel⟩
  have hthreshold : (atLeastZero 20).toInt = 20 := by decide
  rw [← hoffset] at hlow hhigh
  rw [hthreshold] at hhigh
  exact ⟨by decide +kernel, by exact_mod_cast hlow, by exact_mod_cast hhigh⟩

end Estimator

end ClockSync
