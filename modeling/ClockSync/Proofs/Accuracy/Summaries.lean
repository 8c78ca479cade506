import ClockSync.Client.Basic
import ClockSync.Proofs.Accuracy.Extremes
import ClockSync.Proofs.Numeric.Arithmetic
import ClockSync.Proofs.Windows
import Mathlib.Algebra.Order.BigOperators.Group.List

/-!
# Summaries of measurements

The least and the greatest of some measurements are found by comparing doubles,
which is exact, so they are among the measurements and all others are between
them (`Accuracy.Encloses`). The mean is a sum of doubles divided by their
number. The division keeps the mean between the extremes, since rounding keeps
the order of fractions and leaves the extremes as they are (`mean_between`). The
additions need not: three tenths add up to more than three times a tenth
(`AccuracyMonitor.not_ascending_of_tenths`). So the three numbers are in order
if the sum is not beyond what so many numbers between the extremes can sum to
(`SumWithin`). That is so for up to two measurements, and for any that have so
few places that no addition rounds.
-/

namespace ClockSync

open Binary64

/-! ## Sums of sizes -/

theorem rankedBy_toRat : RankedBy toRat IsSize := fun _ _ ha hb =>
  decide_eq_true_iff.trans (ha.lt_iff hb)

theorem holds_zero_add {a : Float} (ha : IsSize a) :
    Holds (Scalar.zero + a) (toRat a) := by
  have hadd := Holds.add (y := a) (x := Scalar.zero) holds_zero ha
  rwa [zero_add, Holds.nearest_eq ha] at hadd

/-- The sum of sizes is a size or infinite. -/
theorem holds_sum {xs : List Float} (h : ∀ x ∈ xs, IsSize x) :
    ∃ v, Holds (Scalar.sum xs) v := by
  have hzero : ∃ v, Holds (Scalar.zero : Float) v := ⟨0, holds_zero⟩
  show ∃ v, Holds (xs.foldl (· + ·) Scalar.zero) v
  generalize (Scalar.zero : Float) = start at hzero
  induction xs generalizing start with
  | nil => exact hzero
  | cons x xs ih =>
    obtain ⟨v, hv⟩ := hzero
    exact ih (fun y hy => h y (List.mem_cons_of_mem x hy)) _
      ⟨_, hv.add (h x List.mem_cons_self)⟩

/-- Numbers with one last place are added exactly as long as 53 places are
enough for the sum. -/
theorem holds_foldl_add {e : Int} (he : -1074 ≤ e) (he' : e ≤ 971)
    {xs : List Float} (hsizes : ∀ x ∈ xs, IsSize x)
    (hplaces : ∀ x ∈ xs, ∃ k : Nat, toRat x = k * 2 ^ e) {start : Float}
    {n : Nat} (hstart : Holds start ((n * 2 ^ e : Rat) : WithTop Rat))
    (hfits : n * 2 ^ e + (xs.map toRat).sum < 2 ^ (53 + e)) :
    Holds (xs.foldl (· + ·) start) ((n * 2 ^ e + (xs.map toRat).sum : Rat) :
      WithTop Rat) := by
  induction xs generalizing start n with
  | nil => simpa using hstart
  | cons x xs ih =>
    have hx := hsizes x List.mem_cons_self
    have hsizes' : ∀ y ∈ xs, IsSize y :=
      fun y hy => hsizes y (List.mem_cons_of_mem x hy)
    obtain ⟨k, hk⟩ := hplaces x List.mem_cons_self
    have hrest : 0 ≤ (xs.map toRat).sum :=
      List.sum_nonneg (List.forall_mem_map.mpr fun y hy =>
        (hsizes' y hy).toRat_nonneg)
    have htogether : n * 2 ^ e + toRat x = ((n + k : Nat) : Rat) * 2 ^ e := by
      rw [hk]
      push_cast
      ring
    rw [List.map_cons, List.sum_cons, ← add_assoc, htogether] at hfits ⊢
    -- the next sum has 53 places, too, so it is not rounded
    have hfew : n + k < 2 ^ 53 := by
      have hlt := (le_add_of_nonneg_right hrest).trans_lt hfits
      rw [zpow_add₀ (by norm_num)] at hlt
      exact_mod_cast lt_of_mul_lt_mul_right hlt (two_zpow_pos e).le
    have hsum := hstart.add hx
    rw [← WithTop.coe_add, htogether,
      Representable.nearest_eq ⟨n + k, e, hfew, he, rfl⟩] at hsum
    · exact ih hsizes' (fun y hy => hplaces y (List.mem_cons_of_mem x hy))
        hsum hfits
    · calc ((n + k : Nat) : Rat) * 2 ^ e < 2 ^ (53 + e) :=
            (le_add_of_nonneg_right hrest).trans_lt hfits
        _ ≤ limit := zpow_le_zpow_right₀ (by norm_num) (by omega)

/-- The sum of so many numbers between these two, as doubles give it, is not
beyond what such numbers can sum to. -/
structure SumWithin (xs : List Float) (least greatest : Float) : Prop where
  isFinite : (Scalar.sum xs).isFinite
  le_sum : xs.length * toRat least ≤ toRat (Scalar.sum xs)
  sum_le : toRat (Scalar.sum xs) ≤ xs.length * toRat greatest

namespace SumWithin

variable {xs : List Float} {least greatest : Float}

/-- A sum that is not rounded is within the bounds. -/
theorem of_exact (hspans : Spans toRat least greatest xs)
    (h : Holds (Scalar.sum xs) ((xs.map toRat).sum : Rat)) :
    SumWithin xs least greatest := by
  refine ⟨h.isFinite_iff.mpr WithTop.coe_ne_top, ?_, ?_⟩ <;> rw [h.toRat_eq]
  · have hle := List.card_nsmul_le_sum (xs.map toRat) (toRat least)
      (List.forall_mem_map.mpr hspans.least_le)
    rwa [List.length_map, nsmul_eq_mul] at hle
  · have hle := List.sum_le_card_nsmul (xs.map toRat) (toRat greatest)
      (List.forall_mem_map.mpr hspans.le_greatest)
    rwa [List.length_map, nsmul_eq_mul] at hle

/-- So is the sum of numbers with one last place, if 53 places are enough for
it. -/
theorem of_multiples {e : Int} (he : -1074 ≤ e) (he' : e ≤ 971)
    (hspans : Spans toRat least greatest xs) (hsizes : ∀ x ∈ xs, IsSize x)
    (hplaces : ∀ x ∈ xs, ∃ k : Nat, toRat x = k * 2 ^ e)
    (hfits : (xs.map toRat).sum < 2 ^ (53 + e)) :
    SumWithin xs least greatest := by
  have hstart : Holds (Scalar.zero : Float)
      ((((0 : Nat) : Rat) * 2 ^ e : Rat) : WithTop Rat) := by
    rw [Nat.cast_zero, zero_mul]
    exact holds_zero
  have hsum :=
    holds_foldl_add he he' hsizes hplaces hstart (by simpa using hfits)
  rw [Nat.cast_zero, zero_mul, zero_add] at hsum
  exact of_exact hspans hsum

/-- So is the sum of two numbers, rounded or not, since twice a double is a
double. -/
theorem of_pair {a b : Float} (hspans : Spans toRat least greatest [a, b])
    (hsizes : ∀ x ∈ [a, b], IsSize x) (hfinite : (Scalar.sum [a, b]).isFinite) :
    SumWithin [a, b] least greatest := by
  have ha := hsizes a (by simp)
  have hb := hsizes b (by simp)
  have hleast := hsizes least hspans.least_mem
  have hgreatest := hsizes greatest hspans.greatest_mem
  have hsum : Holds (Scalar.sum [a, b]) (nearest ↑(toRat a + toRat b)) :=
    (holds_zero_add ha).add hb
  obtain ⟨total, htotal⟩ :=
    WithTop.ne_top_iff_exists.mp (hsum.isFinite_iff.mp hfinite)
  rw [← htotal] at hsum
  have hvalue : total = rounded (toRat a + toRat b) :=
    eq_rounded_of_nearest htotal.symm
  have hlow : 2 * toRat least ≤ toRat a + toRat b := by
    linarith [hspans.least_le a (by simp), hspans.least_le b (by simp)]
  have hhigh : toRat a + toRat b ≤ 2 * toRat greatest := by
    linarith [hspans.le_greatest a (by simp), hspans.le_greatest b (by simp)]
  have hnonneg := hleast.toRat_nonneg
  refine ⟨hfinite, ?_, ?_⟩ <;> rw [hsum.toRat_eq, hvalue]
  · have hmono := rounded_mono (by positivity) hlow
    rw [hleast.representable.two_mul.rounded_eq] at hmono
    exact_mod_cast hmono
  · have hmono := rounded_mono (by linarith) hhigh
    rw [hgreatest.representable.two_mul.rounded_eq] at hmono
    exact_mod_cast hmono

theorem of_length_le_two (hlength : xs.length ≤ 2)
    (hspans : Spans toRat least greatest xs) (hsizes : ∀ x ∈ xs, IsSize x)
    (hfinite : (Scalar.sum xs).isFinite) :
    SumWithin xs least greatest := by
  match xs with
  | [] => exact absurd hspans.least_mem List.not_mem_nil
  | [a] =>
    refine of_exact hspans ?_
    rw [List.map_singleton, List.sum_singleton]
    exact holds_zero_add (hsizes a List.mem_cons_self)
  | [a, b] => exact of_pair hspans hsizes hfinite
  | _ :: _ :: _ :: _ => simp at hlength

end SumWithin

/-! ## Means and scales -/

theorem mean_between {xs : List Float} {least greatest : Float}
    (hsizes : ∀ x ∈ xs, IsSize x) (hleast : IsSize least)
    (hgreatest : IsSize greatest) (hpos : 0 < xs.length)
    (hfew : xs.length < 2 ^ 53) (h : SumWithin xs least greatest) :
    IsSize (Scalar.mean xs) ∧ least ≤ Scalar.mean xs ∧
    Scalar.mean xs ≤ greatest := by
  obtain ⟨v, hv⟩ := holds_sum hsizes
  obtain ⟨total, rfl⟩ :=
    WithTop.ne_top_iff_exists.mp (hv.isFinite_iff.mp h.isFinite)
  have hcount :
      Holds (Scalar.ofNat xs.length) ((xs.length : Rat) : WithTop Rat) := by
    have hn := holds_ofNat xs.length
    rwa [(Representable.natCast hfew).nearest_eq (lt_limit_of_lt hfew)] at hn
  have hcountPos : (0 : Rat) < xs.length := by exact_mod_cast hpos
  have hmean : Holds (Scalar.mean xs) (nearest ↑(total / xs.length)) :=
    hv.div hcount hcountPos.ne'
  have htotal := hv.toRat_eq
  have hlow : toRat least ≤ total / xs.length := by
    rw [le_div_iff₀ hcountPos, mul_comm, ← htotal]
    exact h.le_sum
  have hhigh : total / xs.length ≤ toRat greatest := by
    rw [div_le_iff₀ hcountPos, mul_comm, ← htotal]
    exact h.sum_le
  have hlow' : (toRat least : WithTop Rat) ≤ nearest ↑(total / xs.length) := by
    rw [← Holds.nearest_eq hleast]
    exact nearest_mono hleast.toRat_nonneg hlow
  have hhigh' : nearest ↑(total / xs.length) ≤
      (toRat greatest : WithTop Rat) := by
    rw [← Holds.nearest_eq hgreatest]
    exact nearest_mono (hleast.toRat_nonneg.trans hlow) hhigh
  refine ⟨?_, (Holds.le_iff hleast hmean).mpr hlow',
    (Holds.le_iff hmean hgreatest).mpr hhigh'⟩
  obtain ⟨q, hq⟩ :=
    WithTop.ne_top_iff_exists.mp (hhigh'.trans_lt (WithTop.coe_lt_top _)).ne
  rw [← hq] at hmean
  exact hmean.isSize

theorem mul_le_mul_of_size {x y scale : Float} {q : Rat}
    (hscale : Holds scale q) (hq : 0 ≤ q) (hx : IsSize x) (hy : IsSize y)
    (h : x ≤ y) : x * scale ≤ y * scale := by
  refine ((Holds.mul hx hscale).le_iff (Holds.mul hy hscale)).mpr
    (nearest_mono ?_ ?_)
  · exact mul_nonneg hx.toRat_nonneg hq
  · exact mul_le_mul_of_nonneg_right ((hx.le_iff hy).mp h) hq

/-! ## Monitors -/

namespace AccuracyMonitor

/-- What is asked of a monitor. -/
inductive Call (α : Type) where
  | record (localBefore : Int64) (globalBefore : α) (localAfter : Int64)
      (globalAfter : α)
  | clear

variable {α : Type} [Scalar α]

/-- The monitor after a call. -/
def step (m : AccuracyMonitor α) : Call α → AccuracyMonitor α
  | .record localBefore globalBefore localAfter globalAfter =>
    m.record (measurement localBefore globalBefore localAfter globalAfter)
  | .clear => m.clear

/-- The monitor after some calls. -/
def run (m : AccuracyMonitor α) (calls : List (Call α)) : AccuracyMonitor α :=
  calls.foldl step m

/-- Every measurement is a difference without its sign. -/
theorem exists_magnitude_of_mem_run (m : AccuracyMonitor α)
    (h : ∀ x ∈ m.measurements.toList, ∃ d : α, x = Scalar.magnitude d)
    (calls : List (Call α)) :
    ∀ x ∈ (m.run calls).measurements.toList,
      ∃ d : α, x = Scalar.magnitude d := by
  induction calls generalizing m with
  | nil => exact h
  | cons call calls ih =>
    refine ih (m.step call) ?_
    cases call with
    | record lb gb la ga => exact Window.forall_mem_push h ⟨_, rfl⟩
    | clear => exact fun x hx => absurd hx List.not_mem_nil

theorem isSize_of_mem_run {calls : List (Call Float)} {x : Float}
    (hx : x ∈ (run {} calls).measurements.toList) (hfinite : x.isFinite) :
    IsSize x := by
  have hempty : ∀ x ∈ ({} : AccuracyMonitor Float).measurements.toList,
      ∃ d : Float, x = Scalar.magnitude d :=
    fun _ h => absurd h List.not_mem_nil
  obtain ⟨d, rfl⟩ := exists_magnitude_of_mem_run {} hempty calls x hx
  exact isSize_abs hfinite

/-- The summary of a window that is not empty. -/
theorem summarize_eq {m : AccuracyMonitor Float}
    (hne : m.measurements.toList ≠ [])
    (hsizes : ∀ x ∈ m.measurements.toList, IsSize x) :
    Spans toRat m.summarize.least m.summarize.greatest m.measurements.toList ∧
      m.summarize.average = Scalar.mean m.measurements.toList := by
  obtain ⟨least, greatest, heq, hspans⟩ :=
    Spans.extremes? rankedBy_toRat hsizes hne
  rw [summarize, heq]
  exact ⟨hspans, rfl⟩

end AccuracyMonitor

/-! ## Order -/

namespace Accuracy

/-- The mean is between the extremes. -/
def Ascending (a : Accuracy Float) : Prop :=
  a.least ≤ a.average ∧ a.average ≤ a.greatest

instance : DecidablePred Ascending := fun a =>
  inferInstanceAs (Decidable (a.least ≤ a.average ∧ a.average ≤ a.greatest))

/-- The extremes are numbers of a list, and no number of it is beyond them or
below zero. -/
structure Encloses (a : Accuracy Float) (xs : List Float) : Prop where
  least_mem : a.least ∈ xs
  greatest_mem : a.greatest ∈ xs
  between : ∀ x ∈ xs, a.least ≤ x ∧ x ≤ a.greatest
  nonneg : 0 ≤ a.least

theorem encloses_of_spans {a : Accuracy Float} {xs : List Float}
    (hsizes : ∀ x ∈ xs, IsSize x) (h : Spans toRat a.least a.greatest xs) :
    a.Encloses xs := by
  have hleast := hsizes _ h.least_mem
  have hgreatest := hsizes _ h.greatest_mem
  refine ⟨h.least_mem, h.greatest_mem, fun x hx => ⟨?_, ?_⟩, hleast.nonneg⟩
  · exact (hleast.le_iff (hsizes x hx)).mpr (h.least_le x hx)
  · exact ((hsizes x hx).le_iff hgreatest).mpr (h.le_greatest x hx)

end Accuracy

namespace Client

/-- Whatever was recorded and forgotten, as long as the measurements kept are
finite: the extremes are measurements, the others are between them, and the mean
is between them if the sum is not beyond its bounds; all of that in every unit
of time. The sum is not beyond its bounds if there are no more than two
measurements, or if 53 places are enough for it. -/
theorem accuracy_in_order (c : Client)
    (calls : List (AccuracyMonitor.Call Float))
    (hmonitor : c.monitor = AccuracyMonitor.run {} calls)
    (hmeasured : c.monitor.measurements.toList ≠ [])
    (hfinite : ∀ x ∈ c.monitor.measurements.toList, x.isFinite)
    (hscale : 0 < c.options.scale) (hscale' : c.options.scale.isFinite) :
    let xs := c.monitor.measurements.toList
    let a := c.monitor.summarize
    a.Encloses xs ∧ c.accuracy.least ≤ c.accuracy.greatest ∧
    0 ≤ c.accuracy.least ∧
      (SumWithin xs a.least a.greatest → a.Ascending ∧ c.accuracy.Ascending) ∧
      (xs.length ≤ 2 → (Scalar.sum xs).isFinite →
        SumWithin xs a.least a.greatest) ∧
      ∀ e : Int, -1074 ≤ e → e ≤ 971 →
        (∀ x ∈ xs, ∃ k : Nat, toRat x = k * 2 ^ e) →
        (xs.map toRat).sum < 2 ^ (53 + e) →
        SumWithin xs a.least a.greatest := by
  intro xs a
  have hsizes : ∀ x ∈ xs, IsSize x := fun x hx =>
    AccuracyMonitor.isSize_of_mem_run (by rw [← hmonitor]; exact hx)
      (hfinite x hx)
  obtain ⟨hspans, hmean⟩ := AccuracyMonitor.summarize_eq hmeasured hsizes
  obtain ⟨q, hq, hholds⟩ := holds_of_pos hscale hscale'
  have hscaled : c.accuracy = a.scaled c.options.scale :=
    if_neg (mt List.length_eq_zero_iff.mp hmeasured)
  have hleast := hsizes _ hspans.least_mem
  have hgreatest := hsizes _ hspans.greatest_mem
  have hencloses := Accuracy.encloses_of_spans hsizes hspans
  refine ⟨hencloses, ?_, ?_, fun hsum => ?_,
    fun hlength => .of_length_le_two hlength hspans hsizes,
    fun e he he' => .of_multiples he he' hspans hsizes⟩
  · rw [hscaled]
    exact mul_le_mul_of_size hholds hq.le hleast hgreatest
      (hencloses.between _ hspans.greatest_mem).1
  · rw [hscaled]
    exact (Holds.mul hleast hholds).nonneg
  · have hlength : 0 < xs.length := List.length_pos_of_ne_nil hmeasured
    have hfew : xs.length ≤ 10 := c.monitor.measurements.length_le
    obtain ⟨haverage, hlow, hhigh⟩ :=
      mean_between hsizes hleast hgreatest hlength (by omega) hsum
    rw [← hmean] at haverage hlow hhigh
    refine ⟨⟨hlow, hhigh⟩, ?_⟩
    rw [hscaled]
    exact ⟨mul_le_mul_of_size hholds hq.le hleast haverage hlow,
      mul_le_mul_of_size hholds hq.le haverage hgreatest hhigh⟩

/-- Two measurements in milliseconds. -/
theorem accuracy_in_order_of_two :
    let c : Client :=
      { ({} : Client) with
        options :=
          { Client.Options.default with scale := Client.Options.milliseconds }
        monitor :=
          AccuracyMonitor.run {} [.record 0 0.1 0 0, .record 0 0.3 0 0] }
    c.monitor.measurements.toList = [0.1, 0.3] ∧ c.monitor.summarize.Ascending ∧
      c.accuracy.Ascending := by
  intro c
  have hlist : c.monitor.measurements.toList = [0.1, 0.3] := by decide +kernel
  obtain ⟨_, _, _, hascending, hpair, _⟩ := accuracy_in_order c
    [.record 0 0.1 0 0, .record 0 0.3 0 0] rfl (by decide +kernel)
    (by decide +kernel) (by decide +kernel) (by decide +kernel)
  refine ⟨hlist, hascending (hpair ?_ ?_)⟩
  · rw [hlist]
    decide
  · rw [hlist]
    decide +kernel

end Client

/-- Three tenths have a mean above a tenth. -/
theorem AccuracyMonitor.not_ascending_of_tenths :
    let monitor : AccuracyMonitor Float :=
      run {} [.record 0 0.1 0 0, .record 0 0.1 0 0, .record 0 0.1 0 0]
    monitor.measurements.toList = [0.1, 0.1, 0.1] ∧
      (∀ x ∈ monitor.measurements.toList, x.isFinite) ∧
      ¬ monitor.summarize.Ascending := by
  decide +kernel

end ClockSync
