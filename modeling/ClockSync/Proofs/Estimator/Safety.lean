import ClockSync.Proofs.Checked
import ClockSync.Proofs.Estimator.Medians

/-!
# An estimator never stops

The functions of the estimator over again, by operations that check what they
are given: signed words that must not overflow, ends and elements of windows
that must be there, divisors that must not be zero. In every state that calls
lead to they give what the estimator gives, for all words that a reply or a
clock can show (`Estimator.never_stops`).

Most of it holds in every state whatsoever, because a window that was pushed to
is not empty and because samples of one local time are left out. Only the
comparison of a round trip with the median needs more: round trips are read from
the lower half of the unsigned words, so none in the window is negative, and two
such numbers are less than half the range apart (`deviation_eq`).
-/

namespace ClockSync

namespace Checked

/-! ## Stamps -/

/-- `Stamp.difference` step by step. -/
def difference (a b : UInt64) : Except Fault Int64 := do
  let d := a - b
  if d ≤ Stamp.largestSigned then ofUnsigned d
  else
    let complement ← ofUnsigned (~~~d)
    let negated ← neg complement
    sub negated 1

/-- `Stamp.elapsed` step by step. -/
def elapsed (later earlier : Int64) : Except Fault Int64 :=
  difference later.toUInt64 earlier.toUInt64

theorem toInt_toInt64 {a : UInt64} (h : a ≤ Stamp.largestSigned) :
    a.toInt64.toInt = a.toNat := by
  have hle : a.toNat ≤ 2 ^ 63 - 1 := UInt64.le_iff_toNat_le.mp h
  rw [Stamp.toInt64_eq_ofInt, IsWord.toInt_ofInt ⟨by omega, by omega⟩]

/-- The negated complement of a word in the upper half is not the least signed
word, so one may be taken off it. -/
theorem difference_eq (a b : UInt64) :
    difference a b = .ok (Stamp.difference a b) := by
  rw [difference, Stamp.difference]
  generalize a - b = d
  by_cases h : d ≤ Stamp.largestSigned
  · simp only [if_pos h]
    exact ofUnsigned_eq h
  · have hlargest : Stamp.largestSigned.toNat = 2 ^ 63 - 1 := rfl
    have hcomplement : (~~~d).toNat = 2 ^ 64 - 1 - d.toNat := UInt64.toNat_not d
    have hd : 2 ^ 63 - 1 < d.toNat := by
      rw [UInt64.le_iff_toNat_le] at h
      omega
    have hsmall : ~~~d ≤ Stamp.largestSigned := by
      rw [UInt64.le_iff_toNat_le]
      omega
    have hvalue := toInt_toInt64 hsmall
    have hneg : IsWord (-(~~~d).toInt64.toInt) := ⟨by omega, by omega⟩
    have hnegated : (-(~~~d).toInt64).toInt = -(~~~d).toInt64.toInt := by
      rw [← hneg.toInt_ofInt, Int64.ofInt_neg, Int64.ofInt_toInt]
    have hone : (1 : Int64).toInt = 1 := rfl
    simp only [if_neg h]
    rw [ofUnsigned_eq hsmall]
    show (neg (~~~d).toInt64 >>= fun negated => sub negated 1) = _
    rw [neg_eq hneg]
    exact sub_eq ⟨by omega, by omega⟩

theorem elapsed_eq (later earlier : Int64) :
    elapsed later earlier = .ok (Stamp.elapsed later earlier) :=
  difference_eq _ _

/-! ## The estimator, step by step -/

/-- `Exchange.roundTrip?` step by step. -/
def roundTrip? (x : Exchange) : Except Fault (Option Int64) :=
  let d := x.receivedAt.toUInt64 - x.sentAt
  if d ≤ Stamp.largestSigned then some <$> ofUnsigned d else pure none

/-- `Estimator.medianRoundTrip` step by step. -/
def medianRoundTrip (e : Estimator Float) : Except Fault Int64 :=
  if e.roundTrips.isEmpty then pure 0
  else elementAt (inOrder e.roundTrips.toList) ((e.roundTrips.size - 1) / 2)

/-- How far a round trip is from the median. -/
def deviation (e : Estimator Float) (roundTrip : Int64) :
    Except Fault Int64 := do
  let median ← medianRoundTrip e
  let difference ← sub roundTrip median
  abs difference

/-- The oldest value of a window. -/
def oldest {α : Type} (w : Window windowCapacity α) : Except Fault α :=
  elementAt w.toList 0

/-- The newest value of a window. -/
def newest {α : Type} (w : Window windowCapacity α) : Except Fault α :=
  elementAt w.toList (w.size - 1)

/-- `Estimator.slopeOf?` step by step. -/
def slopeOf? (w : Window windowCapacity Sample) : Except Fault (Option Float) :=
  if w.size < 2 then pure none
  else do
    let first ← oldest w
    let last ← newest w
    let dt ← elapsed last.localTime first.localTime
    if dt = 0 then pure none
    else
      let rise ← elapsed last.remoteTime first.remoteTime
      some <$> div (Scalar.ofInt64 rise) (Scalar.ofInt64 dt)

/-- `Estimator.meanOffset` step by step. -/
def meanOffset (w : Window windowCapacity Int64) : Except Fault Float :=
  if w.isEmpty then pure Scalar.zero
  else div (Scalar.sum (w.toList.map Scalar.ofInt64)) (Scalar.ofNat w.size)

/-- `Estimator.accept` step by step. -/
def accept (e : Estimator Float) (x : Exchange) :
    Except Fault (Estimator Float) := do
  let localTime ← difference x.sentAt 0
  let remoteTime ← difference x.remoteTime 0
  let samples := e.samples.push ⟨localTime, remoteTime⟩
  let slope ← slopeOf? samples
  let offset ← difference x.remoteTime x.sentAt
  let offsets := e.offsets.push offset
  let mean ← meanOffset offsets
  pure { e with samples, offsets, rate := slope.getD e.rate, offset := mean }

/-- `Estimator.ingest` step by step. -/
def ingest (e : Estimator Float) (x : Exchange) :
    Except Fault (Verdict × Estimator Float) := do
  let e := e.noteReceived
  match ← roundTrip? x with
  | none => pure (.rejected, e.noteRejected)
  | some roundTrip =>
    let e := { e with roundTrips := e.roundTrips.push roundTrip }
    let far ← deviation e roundTrip
    if e.threshold < far then pure (.rejected, e.noteRejected)
    else do
      let accepted ← accept e x
      pure (.accepted, accepted)

/-- `Estimator.globalAt` step by step. -/
def globalAt (e : Estimator Float) (now : Int64) : Except Fault Float :=
  if e.samples.isEmpty then pure Scalar.zero
  else do
    let last ← newest e.samples
    let passed ← elapsed now last.localTime
    pure (Scalar.ofInt64 last.localTime + e.offset +
      Scalar.ofInt64 passed * e.rate)

/-! ## Nothing stops them -/

theorem roundTrip?_eq (x : Exchange) : roundTrip? x = .ok x.roundTrip? := by
  rw [roundTrip?, Exchange.roundTrip?]
  by_cases h : x.receivedAt.toUInt64 - x.sentAt ≤ Stamp.largestSigned
  · simp only [if_pos h]
    rw [ofUnsigned_eq h]
    rfl
  · simp only [if_neg h]
    rfl

theorem roundTrip_nonneg {x : Exchange} {roundTrip : Int64}
    (h : x.roundTrip? = some roundTrip) :
    0 ≤ roundTrip.toInt := by
  rw [Exchange.roundTrip?] at h
  by_cases hle : x.receivedAt.toUInt64 - x.sentAt ≤ Stamp.largestSigned
  · simp only [if_pos hle, Option.some_inj] at h
    rw [← h, toInt_toInt64 hle]
    exact Int.natCast_nonneg _
  · simp only [if_neg hle] at h
    cases h

theorem length_inOrder (xs : List Int64) : (inOrder xs).length = xs.length := by
  rw [← List.length_map Int64.toInt, map_inOrder, List.length_insertionSort,
    List.length_map]

theorem medianRoundTrip_eq (e : Estimator Float) :
    medianRoundTrip e = .ok e.medianRoundTrip := by
  rw [medianRoundTrip, Estimator.medianRoundTrip, lowerMedian, Window.isEmpty,
    Window.size]
  generalize e.roundTrips.toList = xs
  cases xs with
  | nil => rfl
  | cons x xs =>
    refine elementAt_eq ?_ 0
    rw [length_inOrder, List.length_cons]
    omega

theorem oldest_eq {α : Type} {w : Window windowCapacity α} {a : α}
    (h : w.oldest? = some a) :
    oldest w = .ok a := by
  rw [Window.oldest?, List.head?_eq_getElem?] at h
  rw [oldest, elementAt, h]

theorem newest_eq {α : Type} {w : Window windowCapacity α} {a : α}
    (h : w.newest? = some a) :
    newest w = .ok a := by
  rw [Window.newest?, List.getLast?_eq_getElem?] at h
  rw [newest, elementAt, Window.size, h]

/-- Local times that differ give a divisor that is not zero, as a double
neither. -/
theorem slopeOf?_eq (w : Window windowCapacity Sample) :
    slopeOf? w = .ok (Estimator.slopeOf? w) := by
  rw [slopeOf?, Estimator.slopeOf?]
  by_cases hfew : w.size < 2
  · rw [if_pos hfew, if_pos hfew]
    rfl
  · have hne : w.toList ≠ [] := by
      intro hnil
      rw [Window.size, hnil] at hfew
      exact hfew (by decide)
    obtain ⟨first, hfirst⟩ : ∃ a, w.oldest? = some a :=
      ⟨_, List.head?_eq_some_head hne⟩
    obtain ⟨last, hlast⟩ : ∃ a, w.newest? = some a :=
      ⟨_, List.getLast?_eq_some_getLast hne⟩
    rw [if_neg hfew, if_neg hfew, oldest_eq hfirst, newest_eq hlast, hfirst,
      hlast]
    show (elapsed last.localTime first.localTime >>= _) =
      .ok (Estimator.slope? first last)
    rw [elapsed_eq, Estimator.slope?]
    show (if Stamp.elapsed last.localTime first.localTime = 0 then _ else _) = _
    by_cases hzero : Stamp.elapsed last.localTime first.localTime = 0
    · simp only [if_pos hzero]
      rfl
    · simp only [if_neg hzero]
      rw [elapsed_eq]
      show some <$> div _
        (Scalar.ofInt (Stamp.elapsed last.localTime first.localTime).toInt) = _
      rw [div_ofInt (fun h => hzero (Int64.toInt_inj.mp h))]
      rfl

theorem meanOffset_eq (w : Window windowCapacity Int64) :
    meanOffset w = .ok (Estimator.meanOffset w) := by
  rw [meanOffset, Estimator.meanOffset]
  by_cases hempty : w.isEmpty
  · rw [if_pos hempty, if_pos hempty]
    rfl
  · rw [if_neg hempty, if_neg hempty, Scalar.mean, List.length_map]
    have hne : w.toList ≠ [] := mt List.isEmpty_iff.mpr hempty
    have hcount : (w.toList.length : Int) ≠ 0 := by
      have hpos := List.length_pos_iff.mpr hne
      omega
    exact div_ofInt hcount

theorem accept_eq (e : Estimator Float) (x : Exchange) :
    accept e x = .ok (e.accept x) := by
  rw [accept, difference_eq, difference_eq]
  show (slopeOf? (e.samples.push (.ofExchange x)) >>= _) = _
  rw [slopeOf?_eq, difference_eq]
  show (meanOffset (e.offsets.push (Stamp.difference x.remoteTime x.sentAt)) >>=
    _) = _
  rw [meanOffset_eq]
  rfl

theorem medianRoundTrip_nonneg {e : Estimator Float}
    (h : ∀ r ∈ e.roundTrips.toList, 0 ≤ r.toInt) :
    0 ≤ e.medianRoundTrip.toInt := by
  by_cases hnone : e.roundTrips.toList = []
  · rw [Estimator.medianRoundTrip, hnone]
    exact le_rfl
  · exact h _ (lowerMedian_mem hnone)

/-- Numbers in the upper half are less than half the range apart. -/
theorem deviation_eq {e : Estimator Float}
    (h : ∀ r ∈ e.roundTrips.toList, 0 ≤ r.toInt) {roundTrip : Int64}
    (hnonneg : 0 ≤ roundTrip.toInt) :
    deviation e roundTrip = .ok (roundTrip - e.medianRoundTrip).abs := by
  have hmedian := medianRoundTrip_nonneg h
  have hlt := roundTrip.toInt_lt
  have hmedianLt := e.medianRoundTrip.toInt_lt
  have hword : IsWord (roundTrip.toInt - e.medianRoundTrip.toInt) :=
    ⟨by omega, by omega⟩
  have hfar : |(roundTrip - e.medianRoundTrip).toInt| < 2 ^ 63 := by
    rw [hword.toInt_sub, abs_lt]
    constructor <;> omega
  rw [deviation, medianRoundTrip_eq]
  show (sub roundTrip e.medianRoundTrip >>= _) = _
  rw [sub_eq hword]
  exact abs_eq hfar

/-- The one place where the state matters. -/
theorem ingest_eq {e : Estimator Float}
    (h : ∀ r ∈ e.roundTrips.toList, 0 ≤ r.toInt) (x : Exchange) :
    ingest e x = .ok (e.ingest x) := by
  rw [ingest, roundTrip?_eq, Estimator.ingest]
  cases htrip : x.roundTrip? with
  | none => rfl
  | some roundTrip =>
    have hnonneg := roundTrip_nonneg htrip
    let recorded :=
      { e.noteReceived with roundTrips := e.roundTrips.push roundTrip }
    have hrecorded : ∀ r ∈ recorded.roundTrips.toList, 0 ≤ r.toInt :=
      Window.forall_mem_push h hnonneg
    show (deviation recorded roundTrip >>= _) = _
    rw [deviation_eq hrecorded hnonneg]
    show (if recorded.threshold <
      (roundTrip - recorded.medianRoundTrip).abs then _ else _) =
      Except.ok (if recorded.threshold <
        (roundTrip - recorded.medianRoundTrip).abs then _ else _)
    split
    · rfl
    · rw [accept_eq]
      rfl

theorem globalAt_eq (e : Estimator Float) (now : Int64) :
    globalAt e now = .ok (e.globalAt now) := by
  rw [globalAt, Estimator.globalAt]
  cases hlast : e.samples.newest? with
  | none =>
    have hempty : e.samples.isEmpty = true :=
      List.isEmpty_iff.mpr (List.getLast?_eq_none_iff.mp hlast)
    rw [if_pos hempty]
    rfl
  | some last =>
    have hnonempty : ¬ e.samples.isEmpty = true := by
      intro hempty
      rw [Window.newest?, List.isEmpty_iff.mp hempty] at hlast
      cases hlast
    rw [if_neg hnonempty, newest_eq hlast]
    show (elapsed now last.localTime >>= _) = _
    rw [elapsed_eq]
    rfl

end Checked

/-! ## All states -/

/-- The difference of two stamps is the only signed word that is congruent to
it. -/
theorem Stamp.eq_difference_iff {a b : UInt64} {d : Int64} :
    d = difference a b ↔ (2 ^ 64 : Int) ∣ d.toInt - (a.toNat - b.toNat) := by
  have hsize : Int64.size = 2 ^ 64 := rfl
  have hlow := d.le_toInt
  have hhigh := d.toInt_lt
  rw [difference_eq_ofInt, ← Int64.toInt_inj, Int64.toInt_ofInt, Int.bmod_def,
    hsize]
  omega

namespace Estimator

/-- In every state an estimator can be in, and for all words, nothing overflows,
nothing is looked for where it is not, and nothing is divided by zero. -/
theorem never_stops (threshold : Int64) (calls : List Call) :
    let e := (new threshold : Estimator Float).run calls
    (∀ r ∈ e.roundTrips.toList, 0 ≤ r.toInt) ∧
      (∀ x, Checked.ingest e x = .ok (e.ingest x)) ∧
      (∀ now, Checked.globalAt e now = .ok (e.globalAt now)) ∧
      Checked.medianRoundTrip e = .ok e.medianRoundTrip ∧
      ∀ (a b : UInt64) (d : Int64),
        d = Stamp.difference a b ↔
        (2 ^ 64 : Int) ∣ d.toInt - (a.toNat - b.toNat) := by
  intro e
  have hnonneg : ∀ r ∈ e.roundTrips.toList, 0 ≤ r.toInt :=
    roundTrips_nonneg_run threshold calls
  exact ⟨hnonneg, Checked.ingest_eq hnonneg, Checked.globalAt_eq e,
    Checked.medianRoundTrip_eq e,
    fun _ _ _ => Stamp.eq_difference_iff⟩

end Estimator

end ClockSync
