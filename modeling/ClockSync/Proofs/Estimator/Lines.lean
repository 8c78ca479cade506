import ClockSync.Proofs.Estimator.Bounds
import ClockSync.Proofs.Words
import Mathlib.Tactic.FieldSimp
import Mathlib.Tactic.Ring

/-!
# Tracking a clock without errors

Say that for all replies that are accepted the remote time is `a` times the
local time and `b` more, and that nothing is rounded and no difference wraps
around. Then any two of the samples have the slope `a`, and that is the rate
(`endSlope_of_onLine`). The offsets are on a line too, so the offset, their
mean, is the one that belongs to the mean of the local times
(`meanOffset_of_onLine`). The estimate adds it to the newest of the local times.
So the remote clock is found exactly if `a` is one, and else the estimate is off
by `1 - a` times the time from the mean to the newest of the samples that are
kept (`tracks_line`).
-/

namespace ClockSync

/-- Means go along with lines. -/
theorem Scalar.mean_map_line {xs : List Rat} (hne : xs ≠ []) (a b : Rat) :
    mean (xs.map fun x => a * x + b) = a * mean xs + b := by
  have hlength : (xs.length : Rat) ≠ 0 := by
    exact_mod_cast (List.length_pos_iff.mpr hne).ne'
  have hsum : (xs.map fun x => a * x + b).sum = a * xs.sum + b * xs.length := by
    clear hne hlength
    induction xs with
    | nil => simp
    | cons x xs ih =>
      rw [List.map_cons, List.sum_cons, ih, List.sum_cons, List.length_cons,
        Nat.cast_add, Nat.cast_one]
      ring
  rw [mean_eq, mean_eq, List.length_map, hsum]
  field_simp

/-- The remote time of a sample is `a` times its local time and `b` more. -/
def Sample.OnLine (a b : Rat) (s : Sample) : Prop :=
  (s.remoteTime.toInt : Rat) = a * s.localTime.toInt + b

instance (a b : Rat) : DecidablePred (Sample.OnLine a b) := fun _ =>
  inferInstanceAs (Decidable (_ = _))

namespace Estimator

/-! ## Accepted replies -/

section Accepted

variable {α : Type} [Scalar α]

/-- The replies of a run that are accepted, oldest first. -/
def acceptedReplies (e : Estimator α) (calls : List Call) : List Exchange :=
  ((e.encounters calls).filter fun p => (p.1.ingest p.2).1 = .accepted).map
    Prod.snd

/-- The replies that an estimator accepts are those that its history says are
accepted. -/
theorem acceptedReplies_eq {e : Estimator α} {before : Int}
    {calls later : List Call} (h : e.Reflects before calls)
    (hreset : .reset ∉ later) :
    e.acceptedReplies later = History.acceptedAfter before calls later := by
  induction later generalizing e calls with
  | nil => rfl
  | cons c later ih =>
    rw [List.mem_cons, not_or] at hreset
    have hrest := ih (h.step (Ne.symm hreset.1)) hreset.2
    cases c with
    | ingest x =>
      have hiff : (e.ingest x).1 = .accepted ↔ History.Accepts before calls x :=
        h.accepted_iff
      rw [step] at hrest
      by_cases hx : History.Accepts before calls x
      · simpa [acceptedReplies, encounters, History.acceptedAfter, Call.reply?,
          hiff, hx] using hrest
      · simpa [acceptedReplies, encounters, History.acceptedAfter, Call.reply?,
          hiff, hx] using hrest
    | noteSent => exact hrest
    | setThreshold t => exact hrest
    | reset => exact absurd rfl hreset.1

/-- The replies that an estimator accepted since its last reset. -/
def acceptedSinceReset (threshold : Int64) (calls : List Call) :
    List Exchange :=
  acceptedReplies ((new threshold : Estimator Rat).run (untilReset calls))
    (sinceReset calls)

end Accepted

/-! ## Samples on a line -/

/-- The differences that the model is made of do not wrap around: those of each
sample, and those between the oldest and the newest of them. -/
structure Unwrapped (e : Estimator Rat) : Prop where
  offsets : ∀ s ∈ e.samples.toList,
    IsWord (s.remoteTime.toInt - s.localTime.toInt)
  ends : ∀ first ∈ e.samples.oldest?, ∀ last ∈ e.samples.newest?,
    IsWord (last.localTime.toInt - first.localTime.toInt) ∧
      IsWord (last.remoteTime.toInt - first.remoteTime.toInt)

/-- The mean of the local times of the samples. -/
def meanLocalTime (e : Estimator Rat) : Rat :=
  Scalar.mean (e.samples.toList.map fun s => (s.localTime.toInt : Rat))

/-- Two samples or more, of different local times, have a slope. -/
theorem hasSlope_of_nodup {w : List Sample} (htwo : 2 ≤ w.length)
    (hnodup : (w.map Sample.localTime).Nodup) : HasSlope w := by
  refine ⟨htwo, ?_⟩
  cases w with
  | nil => simp at htwo
  | cons first rest =>
    have hne : rest ≠ [] := by
      rintro rfl
      simp at htwo
    rw [List.map_cons, List.nodup_cons] at hnodup
    intro h
    rw [List.head?_cons, List.getLast?_cons_of_ne_nil hne,
      List.getLast?_eq_some_getLast hne, Option.map_some, Option.map_some,
      Option.some.injEq] at h
    exact hnodup.1 (h ▸ List.mem_map_of_mem (List.getLast_mem hne))

theorem endSlope_of_onLine {e : Estimator Rat} {a b : Rat} (hwrap : e.Unwrapped)
    (hslope : HasSlope e.samples.toList)
    (hline : ∀ s ∈ e.samples.toList, s.OnLine a b) :
    (endSlope e.samples.toList : Rat) = a := by
  obtain ⟨htwo, hends⟩ := hslope
  have hne : e.samples.toList ≠ [] := by
    intro hnil
    rw [hnil] at htwo
    simp at htwo
  obtain ⟨first, last, hfirst, hlast⟩ := exists_ends hne
  rw [hfirst, hlast] at hends
  obtain ⟨hlocal, hremote⟩ := hwrap.ends first hfirst last hlast
  have honFirst : (first.remoteTime.toInt : Rat) =
      a * first.localTime.toInt + b :=
    hline first (List.mem_of_head? hfirst)
  have honLast : (last.remoteTime.toInt : Rat) = a * last.localTime.toInt + b :=
    hline last (List.mem_of_getLast? hlast)
  have hapart : (last.localTime.toInt : Rat) - first.localTime.toInt ≠ 0 := by
    rw [sub_ne_zero]
    intro heq
    exact hends (congrArg some
      (Int64.toInt_inj.mp (Int.cast_injective heq)).symm)
  have hquotient : (endSlope e.samples.toList : Rat) =
      ((last.remoteTime.toInt - first.remoteTime.toInt : Int) : Rat) /
        ((last.localTime.toInt - first.localTime.toInt : Int) : Rat) := by
    rw [endSlope, hfirst, hlast]
    show
      ((Int64.ofInt (last.remoteTime.toInt - first.remoteTime.toInt)).toInt :
        Rat) /
      (Int64.ofInt (last.localTime.toInt - first.localTime.toInt)).toInt = _
    rw [hremote.toInt_ofInt, hlocal.toInt_ofInt]
  rw [hquotient, Int.cast_sub, Int.cast_sub, div_eq_iff hapart, honFirst,
    honLast]
  ring

theorem meanOffset_of_onLine {e : Estimator Rat} {a b : Rat}
    (hwrap : e.Unwrapped)
    (hoffsets : e.offsets.toList = e.samples.toList.map History.offset)
    (hne : e.samples.toList ≠ [])
    (hline : ∀ s ∈ e.samples.toList, s.OnLine a b) :
    meanOffset e.offsets = (a - 1) * e.meanLocalTime + b := by
  have hempty : e.offsets.isEmpty = false := by
    rw [Window.isEmpty, List.isEmpty_eq_false_iff, hoffsets]
    exact mt List.map_eq_nil_iff.mp hne
  have hvalues : e.offsets.toList.map Scalar.ofInt64 =
      (e.samples.toList.map fun s => (s.localTime.toInt : Rat)).map fun t =>
        (a - 1) * t + b := by
    rw [hoffsets, List.map_map, List.map_map]
    refine List.map_congr_left fun s hs => ?_
    have hon : (s.remoteTime.toInt : Rat) = a * s.localTime.toInt + b :=
      hline s hs
    show ((History.offset s).toInt : Rat) = (a - 1) * s.localTime.toInt + b
    rw [History.offset, (hwrap.offsets s hs).toInt_ofInt, Int.cast_sub, hon]
    ring
  rw [meanOffset, hempty, hvalues]
  exact Scalar.mean_map_line (mt List.map_eq_nil_iff.mp hne) _ _

/-! ## Runs -/

theorem reflects_sinceReset (threshold : Int64) (calls : List Call) :
    ((new threshold : Estimator Rat).run calls).Reflects
      ((new threshold : Estimator Rat).run (untilReset calls)).threshold.toInt
      (sinceReset calls) := by
  have hrun :=
    (Reflects.of_reset (reset_run_untilReset (α := Rat) threshold calls)).run
    (reset_notMem_sinceReset calls)
  rwa [run_sinceReset, List.nil_append] at hrun

/-- The samples are the last ones of the replies that were accepted. -/
theorem samples_eq_rtake (threshold : Int64) (calls : List Call) :
    ((new threshold : Estimator Rat).run calls).samples.toList =
      ((acceptedSinceReset threshold calls).map Sample.ofExchange).rtake
        windowCapacity := by
  have haccepted : acceptedSinceReset threshold calls =
      History.accepted _ (sinceReset calls) :=
    acceptedReplies_eq
      (Reflects.of_reset (reset_run_untilReset threshold calls))
      (reset_notMem_sinceReset calls)
  rw [(reflects_sinceReset threshold calls).samples, haccepted, History.samples]
  refine congrArg (List.rtake · windowCapacity)
    (List.map_congr_left fun x _ => ?_)
  exact (History.sample_eq_ofExchange x).symm

/-- Let two replies or more be accepted since the last reset, with different
local times, and let the remote time of each of them be `a` times its local time
and `b` more. Then the rate is `a`, and for every present time whose difference
to the newest local time does not wrap around, the estimate is off by `1 - a`
times what the newest local time is ahead of their mean. So it is exact if `a`
is one. Replies that were rejected may have been anything. -/
theorem tracks_line (threshold : Int64) (calls : List Call) (a b : Rat)
    (hline : ∀ x ∈ acceptedSinceReset threshold calls,
      (Sample.ofExchange x).OnLine a b)
    (hdistinct :
      ((acceptedSinceReset threshold calls).map Exchange.sentAt).Nodup)
    (htwo : 2 ≤ (acceptedSinceReset threshold calls).length)
    (hwrap : ((new threshold : Estimator Rat).run calls).Unwrapped) :
    let e : Estimator Rat := (new threshold).run calls
    e.rate = a ∧ ∃ newest, e.samples.newest? = some newest ∧
      ∀ now : Int64, IsWord (now.toInt - newest.localTime.toInt) →
        e.globalAt now =
          a * now.toInt + b + (1 - a) *
            (newest.localTime.toInt - e.meanLocalTime) ∧
        (a = 1 → e.globalAt now = now.toInt + b) := by
  intro e
  have hsamples : e.samples.toList = _ := samples_eq_rtake threshold calls
  have hreflects := reflects_sinceReset threshold calls
  have hon : ∀ s ∈ e.samples.toList, s.OnLine a b := by
    intro s hs
    rw [hsamples] at hs
    obtain ⟨x, hx, rfl⟩ := List.mem_map.mp (List.mem_of_mem_drop hs)
    exact hline x hx
  have hlength : 2 ≤ e.samples.toList.length := by
    rw [hsamples, length_rtake, List.length_map, windowCapacity]
    omega
  have hne : e.samples.toList ≠ [] := List.length_pos_iff.mp (by omega)
  have hnodup : (e.samples.toList.map Sample.localTime).Nodup := by
    have hlocal :
        (((acceptedSinceReset threshold calls).map Sample.ofExchange).map
        Sample.localTime).Nodup := by
      have hsigned := hdistinct.map Stamp.signed_injective
      rwa [List.map_map] at hsigned ⊢
    rw [hsamples, map_rtake]
    exact hlocal.sublist (List.drop_sublist _ _)
  have hslope := hasSlope_of_nodup hlength hnodup
  have hrate : e.rate = a := by
    have hfits : e.RateFits := run_induction rateFits_step
      (fun hslope => absurd hslope not_hasSlope_nil) calls
    rw [hfits hslope]
    exact endSlope_of_onLine hwrap hslope hon
  have hoffset : e.offset = (a - 1) * e.meanLocalTime + b := by
    rw [← meanOffset_of_onLine hwrap hreflects.offsets hne hon]
    exact offset_run threshold calls
  obtain ⟨_, newest, _, hnewest⟩ := exists_ends hne
  refine ⟨hrate, newest, hnewest, fun now hnow => ?_⟩
  have hestimate : e.globalAt now =
      a * now.toInt + b + (1 - a) *
        (newest.localTime.toInt - e.meanLocalTime) := by
    have helapsed : (Stamp.elapsed now newest.localTime).toInt =
        now.toInt - newest.localTime.toInt := by
      rw [Stamp.elapsed_eq_sub, hnow.toInt_sub]
    rw [globalAt, Window.newest?, hnewest]
    show (newest.localTime.toInt : Rat) + e.offset +
      ((Stamp.elapsed now newest.localTime).toInt : Rat) * e.rate = _
    rw [helapsed, hoffset, hrate, Int.cast_sub]
    ring
  refine ⟨hestimate, fun hone => ?_⟩
  rw [hestimate, hone]
  ring

/-- Twelve replies of a clock that goes half as fast again, of which ten are
kept, then an outlier and a reply from the future. The estimate is too small by
half of nine microseconds. -/
theorem tracks_line_of_faster_clock :
    let reply (i : Nat) : Call := .ingest
      ⟨UInt64.ofNat (2 * i), UInt64.ofNat (3 * i + 7),
        Int64.ofNat (2 * i + 100)⟩
    let calls : List Call :=
      [.ingest ⟨0, 1, 5⟩, .reset] ++ (List.range 12).map reply ++
      [.ingest ⟨500, 9, 50000⟩, .ingest ⟨7, 0, 0⟩]
    let e : Estimator Rat := (new 1000).run calls
    e.rate = 3 / 2 ∧ e.meanLocalTime = 13 ∧
      e.globalAt 100 = 3 / 2 * 100 + 7 + (1 - 3 / 2) * (22 - 13) := by
  intro reply calls e
  have hmean : e.meanLocalTime = 13 := by decide +kernel
  have hnewest : e.samples.newest? = some ⟨22, 40⟩ := by decide +kernel
  have hwrap : ((new 1000 : Estimator Rat).run calls).Unwrapped := by
    constructor <;> decide +kernel
  obtain ⟨hrate, newest, hsome, hglobal⟩ := tracks_line 1000 calls (3 / 2) 7
    (by decide +kernel) (by decide +kernel) (by decide +kernel) hwrap
  obtain rfl : newest = ⟨22, 40⟩ := Option.some.inj (hsome.symm.trans hnewest)
  obtain ⟨hestimate, _⟩ := hglobal 100 (by decide)
  rw [hmean] at hestimate
  exact ⟨hrate, hmean, hestimate⟩

end Estimator

end ClockSync
