import ClockSync.Proofs.Estimator.Rate
import Mathlib.Data.List.Infix

/-!
# An estimator is a function of its history

What an estimator knows is determined by the calls since its last reset and the
threshold that was in force then. This module says how, in whole numbers and
without going through the estimator: `History` reads off a list of calls which
replies are accepted and what the windows hold, and `Reflects` says that an
estimator agrees with it. One more call makes one more call of the history
(`Reflects.step`), so every run reflects its history (`reflects_run`).
-/

namespace ClockSync.Estimator

/-- The reply that a call takes in. -/
def Call.reply? : Call → Option Exchange
  | .ingest x => some x
  | _ => none

/-- The threshold that a call puts in force. One below zero counts as zero. -/
def Call.threshold? : Call → Option Int
  | .setThreshold threshold => some (max 0 threshold.toInt)
  | _ => none

/-! ## What calls say, oldest first -/

namespace History

/-- The replies that came in. -/
def replies (calls : List Call) : List Exchange := calls.filterMap Call.reply?

/-- The threshold set last, or the one that was in force before the calls. -/
def threshold (before : Int) (calls : List Call) : Int :=
  (calls.filterMap Call.threshold?).getLast?.getD before

/-- The round trips of the valid replies. -/
def roundTrips (calls : List Call) : List Int :=
  ((replies calls).filter fun x => x.Valid).map Exchange.delay

/-- Whether a reply that comes in after the calls is accepted: it is valid, and
its round trip is within the threshold of the median of the last round trips,
its own among them. -/
def Accepts (before : Int) (calls : List Call) (x : Exchange) : Prop :=
  x.Valid ∧
    |x.delay -
      lowerMiddle ((roundTrips calls ++ [x.delay]).rtake windowCapacity)| ≤
      threshold before calls

instance (before : Int) (calls : List Call) :
    DecidablePred (Accepts before calls) := fun x =>
  inferInstanceAs (Decidable (x.Valid ∧
    |x.delay -
      lowerMiddle ((roundTrips calls ++ [x.delay]).rtake windowCapacity)| ≤
      threshold before calls))

/-- The replies among the later calls that are accepted. -/
def acceptedAfter (before : Int) (calls : List Call) : List Call → List Exchange
  | [] => []
  | c :: later =>
    (c.reply?.toList.filter fun x => Accepts before calls x) ++
      acceptedAfter before (calls ++ [c]) later

/-- The accepted replies. -/
def accepted (before : Int) (calls : List Call) : List Exchange :=
  acceptedAfter before [] calls

/-- The words of a reply as signed numbers congruent to them modulo `2 ^ 64`. -/
def sample (x : Exchange) : Sample :=
  ⟨Int64.ofInt x.sentAt.toNat, Int64.ofInt x.remoteTime.toNat⟩

/-- The samples of the accepted replies. -/
def samples (before : Int) (calls : List Call) : List Sample :=
  (accepted before calls).map sample

/-- The signed number congruent to the remote time less the local time. -/
def offset (s : Sample) : Int64 :=
  Int64.ofInt (s.remoteTime.toInt - s.localTime.toInt)

end History

/-! ## Agreeing with a history -/

variable {α : Type} [Scalar α]

/-- The estimator holds what the calls since the last reset say, `before` being
the threshold at that reset. -/
structure Reflects (e : Estimator α) (before : Int) (calls : List Call) :
    Prop where
  threshold : e.threshold.toInt = History.threshold before calls
  roundTrips : e.roundTrips.toList.map Int64.toInt =
    (History.roundTrips calls).rtake windowCapacity
  samples : e.samples.toList =
    (History.samples before calls).rtake windowCapacity
  offsets : e.offsets.toList = e.samples.toList.map History.offset
  offset : e.offset =
    if History.accepted before calls = [] then Scalar.zero
    else
      (e.offsets.toList.foldl (fun sum o => sum + Scalar.ofInt64 o)
          Scalar.zero) /
        Scalar.ofNat e.offsets.toList.length
  rate : e.rate = lastSlope Scalar.one
    ((History.samples before calls).inits.map fun ss => ss.rtake windowCapacity)
  sent : e.stats.sent = calls.count .noteSent
  received : e.stats.received = (History.replies calls).length
  rejected : e.stats.rejected + (History.accepted before calls).length =
    (History.replies calls).length

namespace History

variable {before : Int} {calls : List Call} {x : Exchange}

theorem acceptedAfter_concat (calls later : List Call) (c : Call) :
    acceptedAfter before calls (later ++ [c]) =
      acceptedAfter before calls later ++
        c.reply?.toList.filter fun x => Accepts before (calls ++ later) x := by
  induction later generalizing calls with
  | nil => simp [acceptedAfter]
  | cons d later ih => simp [acceptedAfter, ih]

theorem accepted_concat (c : Call) :
    accepted before (calls ++ [c]) =
      accepted before calls ++ c.reply?.toList.filter fun x =>
        Accepts before calls x :=
  acceptedAfter_concat [] calls c

theorem replies_concat (calls : List Call) (c : Call) :
    replies (calls ++ [c]) = replies calls ++ c.reply?.toList := by
  rw [replies, List.filterMap_append]
  cases h : c.reply? <;> simp [replies, h]

theorem roundTrips_concat (calls : List Call) (c : Call) :
    roundTrips (calls ++ [c]) =
      roundTrips calls ++
        (c.reply?.toList.filter fun x => x.Valid).map Exchange.delay := by
  rw [roundTrips, replies_concat, List.filter_append, List.map_append]
  rfl

theorem threshold_concat (c : Call) :
    threshold before (calls ++ [c]) =
      c.threshold?.getD (threshold before calls) := by
  rw [threshold, List.filterMap_append]
  cases h : c.threshold? <;> simp [threshold, h]

/-- A recorded round trip is a signed word that is not negative. -/
theorem mem_roundTrips {r : Int} (h : r ∈ roundTrips calls) :
    0 ≤ r ∧ r < 2 ^ 63 := by
  obtain ⟨x, hx, rfl⟩ := List.mem_map.mp h
  have hvalid : x.Valid := by simpa using (List.mem_filter.mp hx).2
  exact ⟨x.delay_nonneg, hvalid⟩

theorem sample_eq_ofExchange (x : Exchange) :
    Sample.ofExchange x = sample x := by
  rw [Sample.ofExchange, Stamp.signed_eq_ofInt, Stamp.signed_eq_ofInt, sample]

theorem difference_eq_offset (x : Exchange) :
    Stamp.difference x.remoteTime x.sentAt = offset (sample x) := by
  rw [Stamp.difference_eq_ofInt_signed, Stamp.signed_eq_ofInt,
    Stamp.signed_eq_ofInt]
  rfl

end History

theorem inits_concat {β : Type} (as : List β) (a : β) :
    (as ++ [a]).inits = as.inits ++ [as ++ [a]] := by
  rw [List.inits_append]
  rfl

theorem meanOffset_of_ne_nil {w : Window windowCapacity Int64}
    (h : w.toList ≠ []) :
    (meanOffset w : α) =
      (w.toList.foldl (fun sum o => sum + Scalar.ofInt64 o) Scalar.zero) /
        Scalar.ofNat w.toList.length := by
  have hempty : w.isEmpty = false := by
    rwa [Window.isEmpty, List.isEmpty_eq_false_iff]
  rw [meanOffset, hempty, Scalar.mean, Scalar.sum, List.foldl_map,
    List.length_map]
  rfl

namespace Reflects

variable {e : Estimator α} {before : Int} {calls : List Call} {x : Exchange}

theorem map_recorded (h : e.Reflects before calls) (hvalid : x.Valid) :
    (e.recorded x).roundTrips.toList.map Int64.toInt =
      (History.roundTrips calls ++ [x.delay]).rtake windowCapacity := by
  have hpush := Window.map_toList_push h.roundTrips (Int64.ofInt x.delay)
  rwa [Exchange.toInt_ofInt_delay hvalid] at hpush

/-- The estimator accepts a reply exactly if the history does. -/
theorem accepted_iff (h : e.Reflects before calls) :
    (e.ingest x).1 = .accepted ↔ History.Accepts before calls x := by
  have hdev : x.Valid → e.deviation x =
      |x.delay - lowerMiddle
        ((History.roundTrips calls ++ [x.delay]).rtake windowCapacity)| :=
    fun hvalid => by rw [deviation, h.map_recorded hvalid]
  -- both round trip and median are at least zero, so that neither is far from
  -- the other
  have hsmall : x.Valid → e.deviation x < 2 ^ 63 := by
    intro hvalid
    have hmem : lowerMiddle
        ((History.roundTrips calls ++ [x.delay]).rtake windowCapacity) ∈ _ :=
      lowerMiddle_mem
        (by rw [← h.map_recorded hvalid]; exact map_recorded_ne_nil e x)
    have hbounds : ∀ r ∈ History.roundTrips calls ++ [x.delay], 0 ≤ r ∧
        r < 2 ^ 63 := by
      intro r hr
      rcases List.mem_append.mp hr with hr | hr
      · exact History.mem_roundTrips hr
      · rw [List.mem_singleton.mp hr]
        exact ⟨x.delay_nonneg, hvalid⟩
    obtain ⟨hlow, hhigh⟩ := hbounds _ (List.mem_of_mem_drop hmem)
    have hnonneg := x.delay_nonneg
    rw [hdev hvalid, abs_lt]
    rw [Exchange.Valid] at hvalid
    constructor <;> omega
  rw [ingest_accepted_iff hsmall, h.threshold, History.Accepts]
  constructor
  · rintro ⟨hvalid, hle⟩
    exact ⟨hvalid, by rwa [← hdev hvalid]⟩
  · rintro ⟨hvalid, hle⟩
    exact ⟨hvalid, by rwa [hdev hvalid]⟩

/-- Before the first call an estimator with nothing to forget reflects the empty
history. -/
theorem of_reset (h : e.reset = e) : e.Reflects e.threshold.toInt [] := by
  rw [← h]
  exact ⟨rfl, rfl, rfl, rfl, rfl, rfl, rfl, rfl, rfl⟩

/-- A call that brings no accepted reply makes no difference but to the
threshold, the round trips and the counts. -/
theorem of_sameModel {e' : Estimator α} {c : Call} (h : e.Reflects before calls)
    (hnone : ∀ x, c.reply? = some x → ¬ History.Accepts before calls x)
    (hmodel : SameModel e e')
    (hthreshold : e'.threshold.toInt = c.threshold?.getD e.threshold.toInt)
    (htrips : e'.roundTrips.toList.map Int64.toInt =
      (History.roundTrips (calls ++ [c])).rtake windowCapacity)
    (hsent : e'.stats.sent = e.stats.sent + [c].count .noteSent)
    (hreceived : e'.stats.received = e.stats.received + c.reply?.toList.length)
    (hrejected : e'.stats.rejected =
      e.stats.rejected + c.reply?.toList.length) :
    e'.Reflects before (calls ++ [c]) := by
  have haccepted : History.accepted before (calls ++ [c]) =
      History.accepted before calls := by
    rw [History.accepted_concat]
    cases hx : c.reply? with
    | none => exact List.append_nil _
    | some x => simp [hnone x hx]
  have hsamples : History.samples before (calls ++ [c]) =
      History.samples before calls := by
    rw [History.samples, haccepted, History.samples]
  constructor
  · rw [hthreshold, History.threshold_concat, h.threshold]
  · exact htrips
  · rw [hmodel.samples, hsamples, h.samples]
  · rw [hmodel.offsets, hmodel.samples, h.offsets]
  · rw [hmodel.offset, hmodel.offsets, haccepted, h.offset]
  · rw [hmodel.rate, hsamples, h.rate]
  · rw [hsent, List.count_append, h.sent]
  · rw [hreceived, History.replies_concat, List.length_append, h.received]
  · rw [hrejected, haccepted, History.replies_concat, List.length_append,
      ← h.rejected]
    omega

/-- A call without a reply brings no round trip. -/
theorem roundTrips_of_no_reply {c : Call} (h : e.Reflects before calls)
    (hc : c.reply? = none) :
    e.roundTrips.toList.map Int64.toInt =
      (History.roundTrips (calls ++ [c])).rtake windowCapacity := by
  rw [History.roundTrips_concat, hc, h.roundTrips]
  simp

/-! ### Replies -/

theorem roundTrips_ingest (h : e.Reflects before calls) :
    (e.ingest x).2.roundTrips.toList.map Int64.toInt =
      (History.roundTrips (calls ++ [.ingest x])).rtake windowCapacity := by
  by_cases hvalid : x.Valid
  · have htrips : History.roundTrips (calls ++ [.ingest x]) =
        History.roundTrips calls ++ [x.delay] := by
      simp [History.roundTrips_concat, Call.reply?, hvalid]
    rw [ingest_roundTrips_of_valid e hvalid, htrips]
    exact h.map_recorded hvalid
  · have htrips : History.roundTrips (calls ++ [.ingest x]) =
        History.roundTrips calls := by
      simp [History.roundTrips_concat, Call.reply?, hvalid]
    rw [ingest_of_not_valid e hvalid, htrips]
    exact h.roundTrips

theorem ingest_of_rejected (h : e.Reflects before calls)
    (hrej : (e.ingest x).1 = .rejected) :
    (e.ingest x).2.Reflects before (calls ++ [.ingest x]) := by
  have hnot : ¬ History.Accepts before calls x := by
    rw [← h.accepted_iff, hrej]
    exact Verdict.noConfusion
  refine h.of_sameModel ?_ (Estimator.ingest_of_rejected hrej)
    ?_ h.roundTrips_ingest ?_ ?_ ?_
  · intro y hy
    rwa [← Option.some.inj hy]
  · rw [ingest_threshold]
    rfl
  · rw [ingest_sent]
    rfl
  · rw [ingest_received]
    rfl
  · rw [ingest_rejected, if_pos hrej]
    rfl

theorem ingest_of_accepted (h : e.Reflects before calls)
    (hacc : (e.ingest x).1 = .accepted) :
    (e.ingest x).2.Reflects before (calls ++ [.ingest x]) := by
  obtain ⟨_, heq⟩ := Estimator.ingest_of_accepted hacc
  have haccepts : History.Accepts before calls x := h.accepted_iff.mp hacc
  have haccepted : History.accepted before (calls ++ [.ingest x]) =
      History.accepted before calls ++ [x] := by
    simp [History.accepted_concat, Call.reply?, haccepts]
  have hsamples : History.samples before (calls ++ [.ingest x]) =
      History.samples before calls ++ [History.sample x] := by
    rw [History.samples, haccepted, List.map_append]
    rfl
  have hpush : (e.ingest x).2.samples = e.samples.push (History.sample x) := by
    rw [heq, ← History.sample_eq_ofExchange]
    rfl
  have hpushOffset : (e.ingest x).2.offsets =
      e.offsets.push (History.offset (History.sample x)) := by
    rw [heq, ← History.difference_eq_offset]
    rfl
  have hwindow : (e.ingest x).2.samples.toList =
      (History.samples before (calls ++ [.ingest x])).rtake windowCapacity := by
    rw [hpush, hsamples]
    have hmap :=
      Window.map_toList_push (f := id) (by rw [List.map_id]; exact h.samples)
      (History.sample x)
    rwa [List.map_id] at hmap
  have hoffsets : (e.ingest x).2.offsets.toList =
      (e.ingest x).2.samples.toList.map History.offset := by
    rw [hpushOffset, hpush, Window.toList_push, Window.toList_push, h.offsets,
      map_rtake, List.map_append]
    rfl
  have hmean : (e.ingest x).2.offset = meanOffset (e.ingest x).2.offsets := by
    rw [heq]
    rfl
  constructor
  · rw [ingest_threshold, History.threshold_concat, h.threshold]
    rfl
  · exact h.roundTrips_ingest
  · exact hwindow
  · exact hoffsets
  · rw [if_neg (by simp [haccepted]), hmean, hpushOffset]
    exact meanOffset_of_ne_nil (Window.push_ne_nil _ _)
  · rw [rate_of_accepted hacc, hwindow, h.rate, ← lastSlope_concat, hsamples,
      inits_concat, List.map_append]
    rfl
  · rw [ingest_sent, h.sent, List.count_append]
    rfl
  · rw [ingest_received, h.received, History.replies_concat, List.length_append]
    rfl
  · have hcount : (e.ingest x).2.stats.rejected = e.stats.rejected := by
      rw [ingest_rejected, hacc]
      rfl
    rw [hcount, haccepted, History.replies_concat, List.length_append,
      List.length_append, ← h.rejected]
    exact (Nat.add_assoc _ _ _).symm

/-- One more call makes one more call of the history. -/
theorem step {c : Call} (h : e.Reflects before calls) (hc : c ≠ .reset) :
    (e.step c).Reflects before (calls ++ [c]) := by
  cases c with
  | ingest x =>
    cases hv : (e.ingest x).1 with
    | accepted => exact h.ingest_of_accepted hv
    | rejected => exact h.ingest_of_rejected hv
  | noteSent =>
    exact h.of_sameModel (by simp [Call.reply?]) ⟨rfl, rfl, rfl, rfl⟩ rfl
      (h.roundTrips_of_no_reply rfl) rfl rfl rfl
  | setThreshold threshold =>
    exact h.of_sameModel (by simp [Call.reply?]) ⟨rfl, rfl, rfl, rfl⟩
      (toInt_atLeastZero threshold) (h.roundTrips_of_no_reply rfl) rfl rfl rfl
  | reset => exact absurd rfl hc

theorem run {later : List Call} (h : e.Reflects before calls)
    (hlater : .reset ∉ later) :
    (e.run later).Reflects before (calls ++ later) := by
  induction later generalizing e calls with
  | nil => rwa [List.append_nil]
  | cons c later ih =>
    rw [List.mem_cons, not_or] at hlater
    have hrest := ih (h.step (Ne.symm hlater.1)) hlater.2
    rwa [List.append_assoc] at hrest

end Reflects

/-- The threshold in force is the one set last. -/
theorem threshold_run (e : Estimator α) (calls : List Call) :
    (e.run calls).threshold.toInt =
      History.threshold e.threshold.toInt calls := by
  induction calls using List.reverseRecOn with
  | nil => rfl
  | append_singleton calls c ih =>
    rw [run_append, History.threshold_concat, ← ih]
    cases c with
    | ingest x => exact congrArg Int64.toInt (ingest_threshold _ x)
    | noteSent => rfl
    | setThreshold threshold => exact toInt_atLeastZero threshold
    | reset => rfl

/-- After any calls an estimator holds what the calls since the last reset say,
the threshold at that reset being the one set last before it or else the one the
estimator began with; and it accepts exactly the replies that they say are
accepted. -/
theorem reflects_run (threshold : Int64) (calls : List Call) :
    let e : Estimator α := (new threshold).run calls
    let before := History.threshold (max 0 threshold.toInt) (untilReset calls)
    e.Reflects before (sinceReset calls) ∧
      ∀ x, (e.ingest x).1 = .accepted ↔
        History.Accepts before (sinceReset calls) x := by
  intro e before
  have hthreshold :
      ((new threshold : Estimator α).run (untilReset calls)).threshold.toInt =
      before := by
    rw [threshold_run]
    exact congrArg (History.threshold · (untilReset calls))
      (toInt_atLeastZero threshold)
  have hstart :=
    Reflects.of_reset (reset_run_untilReset (α := α) threshold calls)
  have hreflects := hstart.run (reset_notMem_sinceReset calls)
  rw [hthreshold, run_sinceReset, List.nil_append] at hreflects
  exact ⟨hreflects, fun x => hreflects.accepted_iff⟩

end ClockSync.Estimator
