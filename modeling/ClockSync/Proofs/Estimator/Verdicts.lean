import ClockSync.Proofs.Estimator.Runs
import Mathlib.Algebra.Order.Group.Abs

/-!
# Which replies are accepted

Two laws of the verdicts, for estimators with any past.

* A reply is discarded without a trace in the model or the round trips exactly
  if it is not valid (`discards_iff`). So a reply to a request from the future
  is, unless the request is more than half a turn of the clock ahead.
* If the round trips move to another range that is no wider than the threshold,
  then five of them may be taken for outliers, and no more. Six are a majority
  of any window, so the median is among them (`NewestWithin.median`).
-/

namespace ClockSync.Estimator

variable {α : Type}

/-! ## Replies to requests from the future -/

section Future

variable [Scalar α]

/-- The reply is counted as received and as rejected, and nothing is learnt from
it. -/
structure Discards (e : Estimator α) (x : Exchange) : Prop where
  verdict : (e.ingest x).1 = .rejected
  received : (e.ingest x).2.stats.received = e.stats.received + 1
  rejected : (e.ingest x).2.stats.rejected = e.stats.rejected + 1
  roundTrips : (e.ingest x).2.roundTrips = e.roundTrips
  model : SameModel e (e.ingest x).2

theorem discards_of_not_valid (e : Estimator α) {x : Exchange} (h : ¬ x.Valid) :
    e.Discards x := by
  have heq := ingest_of_not_valid e h
  constructor
  · rw [heq]
  · exact ingest_received e x
  · rw [ingest_rejected, heq, if_pos rfl]
  · rw [heq]
    rfl
  · exact ingest_of_rejected (by rw [heq])

/-- Recording a round trip changes the window, unless it is full of that round
trip already; but then the reply is no outlier. -/
theorem accepted_of_roundTrips_eq {e : Estimator α} {x : Exchange}
    (hvalid : x.Valid) (hthreshold : 0 ≤ e.threshold.toInt)
    (h : (e.ingest x).2.roundTrips = e.roundTrips) :
    (e.ingest x).1 = .accepted := by
  rw [ingest_roundTrips_of_valid e hvalid] at h
  -- the window held copies of the delay only, so that is the median too
  have hall : ∀ r ∈ (e.recorded x).roundTrips.toList.map Int64.toInt,
      r = x.delay := by
    intro r hr
    rw [recorded, h] at hr
    obtain ⟨w, hw, rfl⟩ := List.mem_map.mp hr
    rw [Window.eq_of_mem_of_push_eq h w hw, Exchange.toInt_ofInt_delay hvalid]
  have hmedian := hall _ (lowerMiddle_mem (map_recorded_ne_nil e x))
  have hdev : e.deviation x = 0 := by
    rw [deviation, hmedian, Int.sub_self, abs_zero]
  rw [ingest_accepted_iff fun _ => by rw [hdev]; decide, hdev]
  exact ⟨hvalid, hthreshold⟩

/-- After any calls exactly the replies that are not valid are discarded. -/
theorem discards_iff (threshold : Int64) (calls : List Call) (x : Exchange) :
    ((new threshold : Estimator α).run calls).Discards x ↔ ¬ x.Valid := by
  constructor
  · intro h hvalid
    have hacc :=
      accepted_of_roundTrips_eq hvalid (threshold_nonneg_run threshold calls)
      h.roundTrips
    rw [h.verdict] at hacc
    cases hacc
  · exact discards_of_not_valid _

/-- After any calls a reply to a request from the future is discarded exactly if
the request is at most half a turn of the clock ahead. A request further ahead
counts as one from the past, and what is missing to a whole turn is recorded as
its round trip. -/
theorem discards_future_iff (threshold : Int64) (calls : List Call)
    {x : Exchange} (hnow : 0 ≤ x.receivedAt.toInt)
    (hfuture : x.receivedAt.toInt < x.sentAt.toNat) :
    let e : Estimator α := (new threshold).run calls
    let ahead : Int := x.sentAt.toNat - x.receivedAt.toInt
    (e.Discards x ↔ ahead ≤ 2 ^ 63) ∧
      (2 ^ 63 < ahead →
        (e.ingest x).2.roundTrips =
          e.roundTrips.push (Int64.ofInt (2 ^ 64 - ahead))) := by
  intro e ahead
  have hdelay : x.delay = 2 ^ 64 - ahead :=
    Exchange.delay_of_future hnow hfuture
  have hvalid : x.Valid ↔ 2 ^ 63 < ahead := by
    rw [Exchange.Valid, hdelay]
    omega
  constructor
  · rw [discards_iff, hvalid, Int.not_lt]
  · intro hahead
    rw [← hdelay]
    exact ingest_roundTrips_of_valid e (hvalid.mpr hahead)

/-- A request half a turn ahead is the furthest whose reply is discarded. -/
theorem discards_future_half_turn :
    let x : Exchange := ⟨0x8000000000000000, 5, 0⟩
    0 ≤ x.receivedAt.toInt ∧ x.receivedAt.toInt < x.sentAt.toNat ∧
      ((new 10000 : Estimator Float).run [.noteSent]).Discards x :=
  ⟨by decide, by decide,
    (discards_future_iff 10000 [.noteSent] (by decide) (by decide)).1.mpr
      (by decide)⟩

/-- A request that leaves at the last moment before the clock starts anew, and
is answered when it does, counts as answered after a microsecond. -/
theorem not_discards_future_whole_turn :
    let x : Exchange := ⟨0xffffffffffffffff, 5, 0⟩
    0 ≤ x.receivedAt.toInt ∧ x.receivedAt.toInt < x.sentAt.toNat ∧
      ¬ (new 10000 : Estimator Float).Discards x :=
  ⟨by decide, by decide, fun h => absurd h.verdict (by decide)⟩

end Future

/-! ## A change of the path delay -/

/-- The round trips of the window are the last of some among which the newest
`n` are between `a` and `b`. -/
def NewestWithin (w : Window windowCapacity Int64) (a b : Int) (n : Nat) :
    Prop :=
  ∃ old near : List Int,
    w.toList.map Int64.toInt = (old ++ near).rtake windowCapacity ∧
    near.length = n ∧ ∀ r ∈ near, a ≤ r ∧ r ≤ b

namespace NewestWithin

variable {w : Window windowCapacity Int64} {a b : Int} {n : Nat}

/-- Of no round trip at all anything can be said. -/
theorem zero (w : Window windowCapacity Int64) (a b : Int) :
    NewestWithin w a b 0 := by
  refine ⟨w.toList.map Int64.toInt, [], ?_, rfl, by simp⟩
  have hle : (w.toList.map Int64.toInt).length - windowCapacity = 0 := by
    rw [List.length_map]
    exact Nat.sub_eq_zero_of_le w.length_le
  rw [List.append_nil, List.rtake, hle, List.drop_zero]

theorem push {r : Int64} (h : NewestWithin w a b n) (ha : a ≤ r.toInt)
    (hb : r.toInt ≤ b) :
    NewestWithin (w.push r) a b (n + 1) := by
  obtain ⟨old, near, hlist, rfl, hnear⟩ := h
  refine ⟨old, near ++ [r.toInt], ?_, List.length_append, ?_⟩
  · rw [← List.append_assoc]
    exact Window.map_toList_push hlist r
  · intro s hs
    rcases List.mem_append.mp hs with hs | hs
    · exact hnear s hs
    · rw [List.mem_singleton.mp hs]
      exact ⟨ha, hb⟩

/-- Six round trips are a majority of every window, be it full or not. -/
theorem median (h : NewestWithin w a b n) (hn : 6 ≤ n) :
    a ≤ lowerMiddle (w.toList.map Int64.toInt) ∧
    lowerMiddle (w.toList.map Int64.toInt) ≤ b := by
  obtain ⟨old, near, hlist, rfl, hnear⟩ := h
  have hcount : (near.rtake windowCapacity).countP (fun r => a ≤ r ∧ r ≤ b) =
      (near.rtake windowCapacity).length := by
    rw [List.countP_eq_length]
    intro r hr
    simpa using hnear r (List.mem_of_mem_drop hr)
  -- at most four older ones are left beside six, and none beside ten
  apply lowerMiddle_mem_of_majority
  rw [hlist, rtake_append, List.countP_append, List.length_append, hcount,
    length_rtake, length_rtake, windowCapacity]
  omega

end NewestWithin

/-- A valid reply within the range makes one more round trip within it. -/
theorem NewestWithin.recorded {e : Estimator α} {x : Exchange} {a b : Int}
    {n : Nat} (h : NewestWithin e.roundTrips a b n) (hvalid : x.Valid)
    (ha : a ≤ x.delay) (hb : x.delay ≤ b) :
    NewestWithin (e.recorded x).roundTrips a b (n + 1) := by
  rw [← Exchange.toInt_ofInt_delay hvalid] at ha hb
  exact h.push ha hb

variable [Scalar α]

/-- A reply within the range of at least five before it is accepted. -/
theorem accepted_of_newestWithin {e : Estimator α} {x : Exchange} {a b : Int}
    {n : Nat} (h : NewestWithin e.roundTrips a b n) (hn : 5 ≤ n)
    (hvalid : x.Valid) (ha : a ≤ x.delay) (hb : x.delay ≤ b)
    (hwidth : b - a ≤ e.threshold.toInt) :
    (e.ingest x).1 = .accepted := by
  -- with the reply itself there are six, so the median of the window is in the
  -- range too
  obtain ⟨hlow, hhigh⟩ := (h.recorded hvalid ha hb).median (by omega)
  have hdev : e.deviation x ≤ e.threshold.toInt := by
    rw [deviation, abs_le]
    constructor <;> omega
  have hmax : e.threshold.toInt < 2 ^ 63 := e.threshold.toInt_lt
  exact (ingest_accepted_iff fun _ => Int.lt_of_le_of_lt hdev hmax).mpr
    ⟨hvalid, hdev⟩

/-- The valid replies of a run, oldest first, each with the estimator that took
it in. -/
def validEncounters (e : Estimator α) (calls : List Call) :
    List (Estimator α × Exchange) :=
  (e.encounters calls).filter fun p => p.2.Valid

theorem validEncounters_of_valid (e : Estimator α) (calls : List Call)
    {x : Exchange} (h : x.Valid) :
    e.validEncounters (.ingest x :: calls) =
      (e, x) :: (e.ingest x).2.validEncounters calls := by
  simp [validEncounters, encounters, h]

theorem validEncounters_of_not_valid (e : Estimator α) (calls : List Call)
    {x : Exchange} (h : ¬ x.Valid) :
    e.validEncounters (.ingest x :: calls) =
      (e.ingest x).2.validEncounters calls := by
  simp [validEncounters, encounters, h]

/-- If the newest `n` round trips are within the range of those to come, then
all valid replies but the first `5 - n` are accepted. -/
theorem accepted_of_mem_drop {threshold : Int64} {a b : Int} {calls : List Call}
    (hwidth : b - a ≤ threshold.toInt) (hreset : .reset ∉ calls)
    (hset : ∀ t, .setThreshold t ∈ calls → atLeastZero t = threshold)
    (hdelay : ∀ x, .ingest x ∈ calls → x.Valid → a ≤ x.delay ∧ x.delay ≤ b)
    {e : Estimator α} {n : Nat} (hthreshold : e.threshold = threshold)
    (h : NewestWithin e.roundTrips a b n) :
    ∀ p ∈ (e.validEncounters calls).drop (5 - n),
      (p.1.ingest p.2).1 = .accepted := by
  -- the number of round trips in the range grows along the run, up to five and
  -- beyond
  induction calls generalizing e n with
  | nil =>
    intro p hp
    cases List.mem_of_mem_drop hp
  | cons c calls ih =>
    rw [List.mem_cons, not_or] at hreset
    have hrest := @ih hreset.2 (fun t ht => hset t (List.mem_cons_of_mem c ht))
      (fun x hx => hdelay x (List.mem_cons_of_mem c hx))
    cases c with
    | ingest x =>
      have hthreshold' := (ingest_threshold e x).trans hthreshold
      by_cases hvalid : x.Valid
      · obtain ⟨ha, hb⟩ := hdelay x List.mem_cons_self hvalid
        have hnewest : NewestWithin (e.ingest x).2.roundTrips a b (n + 1) := by
          rw [ingest_roundTrips_of_valid e hvalid]
          exact h.recorded hvalid ha hb
        intro p hp
        rw [validEncounters_of_valid e calls hvalid] at hp
        by_cases hn : 5 ≤ n
        · rw [Nat.sub_eq_zero_of_le hn, List.drop_zero] at hp
          rcases List.mem_cons.mp hp with rfl | hp
          · exact accepted_of_newestWithin h hn hvalid ha
              hb (by rwa [hthreshold])
          · exact hrest hthreshold' hnewest p
              (by rwa [Nat.sub_eq_zero_of_le (by omega)])
        · rw [show 5 - n = 5 - (n + 1) + 1 by omega, List.drop_succ_cons] at hp
          exact hrest hthreshold' hnewest p hp
      · have hnewest : NewestWithin (e.ingest x).2.roundTrips a b n := by
          rw [ingest_of_not_valid e hvalid]
          exact h
        rw [validEncounters_of_not_valid e calls hvalid]
        exact hrest hthreshold' hnewest
    | noteSent => exact hrest hthreshold h
    | setThreshold t => exact hrest (hset t List.mem_cons_self) h
    | reset => exact absurd rfl hreset.1

/-- Whatever the estimator went through before: while the threshold stays in
force and nothing is forgotten, and the round trips of the valid replies are in
a range as wide as the threshold, each of these replies from the sixth on is
accepted, and so at most five are rejected. -/
theorem accepted_from_sixth {e : Estimator α} {calls : List Call} {a : Int}
    (hreset : .reset ∉ calls)
    (hset : ∀ t, .setThreshold t ∈ calls → atLeastZero t = e.threshold)
    (hdelay : ∀ x, .ingest x ∈ calls → x.Valid →
      a ≤ x.delay ∧ x.delay ≤ a + e.threshold.toInt) :
    (∀ p ∈ (e.validEncounters calls).drop 5, (p.1.ingest p.2).1 = .accepted) ∧
      (e.validEncounters calls).countP
        (fun p => (p.1.ingest p.2).1 = .rejected) ≤ 5 := by
  have hacc :=
    accepted_of_mem_drop (Int.le_of_eq (add_sub_cancel_left a _)) hreset hset
    hdelay rfl (NewestWithin.zero e.roundTrips a _)
  refine ⟨hacc, ?_⟩
  have hnone : ((e.validEncounters calls).drop 5).countP
      (fun p => (p.1.ingest p.2).1 = .rejected) = 0 := by
    rw [List.countP_eq_zero]
    intro p hp
    simp [hacc p hp]
  rw [← List.take_append_drop 5 (e.validEncounters calls), List.countP_append,
    hnone]
  exact Nat.le_trans List.countP_le_length (by simp)

/-- After ten short round trips the round trips become long; a reply from the
future comes in between. -/
theorem accepted_from_sixth_of_longer_path :
    let e : Estimator Float :=
      (new 1000).run (List.replicate 10 (.ingest ⟨0, 0, 100⟩))
    let calls : List Call :=
      .ingest ⟨1, 0, 0⟩ :: List.replicate 7 (.ingest ⟨0, 0, 50000⟩)
    (∀ p ∈ (e.validEncounters calls).drop 5, (p.1.ingest p.2).1 = .accepted) ∧
      (e.validEncounters calls).countP
        (fun p => (p.1.ingest p.2).1 = .rejected) ≤ 5 := by
  intro e calls
  have hthreshold : e.threshold = 1000 := by
    simp only [e, List.replicate, run_cons, run_nil, step, ingest_threshold]
    rfl
  refine accepted_from_sixth (a := 50000) (by decide) ?_ ?_
  · intro t ht
    simp [calls] at ht
  · intro x hx hvalid
    rcases List.mem_cons.mp hx with hx | hx
    · rw [Call.ingest.inj hx] at hvalid
      exact absurd hvalid (by decide)
    · rw [Call.ingest.inj (List.eq_of_mem_replicate hx), hthreshold]
      decide

end ClockSync.Estimator
