import ClockSync.Proofs.Estimator.Runs

/-!
# The median of the round trips

The median that replies are measured by is the round trip of the lower middle
rank among those in the window (`hasRank_lowerMedian`). Only one word has that
rank (`eq_lowerMedian`). So it does not matter how it is found: by sorting, or
by moving the words about until the one in the middle is in its place
(`Selected`). Nor does the order of the window matter (`lowerMedian_of_perm`),
and longer round trips make no smaller median (`lowerMedian_mono`).
-/

namespace ClockSync

section Words

variable {xs ys : List Int64} {m : Int64}

theorem hasRank_map_toInt_iff {k : Nat} :
    HasRank (xs.map Int64.toInt) k m.toInt ↔
      xs.countP (· < m) ≤ k ∧ k + 1 ≤ xs.countP (· ≤ m) := by
  have hbelow : (xs.map Int64.toInt).countP (· < m.toInt) =
      xs.countP (· < m) := by
    simp only [List.countP_map, Function.comp_def, Int64.lt_iff_toInt_lt]
  have hupTo : (xs.map Int64.toInt).countP (· ≤ m.toInt) =
      xs.countP (· ≤ m) := by
    simp only [List.countP_map, Function.comp_def, Int64.le_iff_toInt_le]
  rw [← hbelow, ← hupTo]
  exact ⟨fun h => ⟨h.below, h.upTo⟩, fun h => ⟨h.1, h.2⟩⟩

theorem hasRank_lowerMedian (h : xs ≠ []) :
    HasRank (xs.map Int64.toInt) ((xs.length - 1) / 2)
      (lowerMedian xs).toInt := by
  have hvalues : xs.map Int64.toInt ≠ [] := mt List.map_eq_nil_iff.mp h
  have hrank := hasRank_lowerMiddle hvalues
  rwa [List.length_map, ← toInt_lowerMedian] at hrank

theorem lowerMedian_mem (h : xs ≠ []) : lowerMedian xs ∈ xs := by
  have hvalues : xs.map Int64.toInt ≠ [] := mt List.map_eq_nil_iff.mp h
  have hmem := lowerMiddle_mem hvalues
  rw [← toInt_lowerMedian] at hmem
  obtain ⟨r, hr, heq⟩ := List.mem_map.mp hmem
  rwa [← Int64.toInt_inj.mp heq]

/-- The median is the only word of its rank. -/
theorem eq_lowerMedian
    (h : HasRank (xs.map Int64.toInt) ((xs.length - 1) / 2) m.toInt) :
    m = lowerMedian xs := by
  have hne : xs ≠ [] := by
    rintro rfl
    exact Nat.not_lt_zero _ h.upTo
  exact Int64.toInt_inj.mp (h.unique (hasRank_lowerMedian hne))

/-! ## Finding it -/

/-- The words of `xs` stand in an order in which `s` is where an ascending order
would have it: none of the `k` words before it is greater, and none of those
after it is smaller. -/
structure Selected (xs : List Int64) (k : Nat) (before : List Int64) (s : Int64)
    (after : List Int64) : Prop where
  perm : (before ++ s :: after).Perm xs
  length_before : before.length = k
  before_le : ∀ a ∈ before, a ≤ s
  le_after : ∀ b ∈ after, s ≤ b

/-- Whoever selects the word of the lower middle rank finds the median. -/
theorem Selected.eq_lowerMedian {before after : List Int64}
    (h : Selected xs ((xs.length - 1) / 2) before m after) :
    m = lowerMedian xs := by
  have hlength : (before.map Int64.toInt).length = (xs.length - 1) / 2 := by
    rw [List.length_map, h.length_before]
  have hbefore : ∀ a ∈ before.map Int64.toInt, a ≤ m.toInt :=
    List.forall_mem_map.mpr fun a ha =>
      Int64.le_iff_toInt_le.mp (h.before_le a ha)
  have hafter : ∀ b ∈ after.map Int64.toInt, m.toInt ≤ b :=
    List.forall_mem_map.mpr fun b hb =>
      Int64.le_iff_toInt_le.mp (h.le_after b hb)
  -- a number has its rank wherever the others stand, so it had the same one in
  -- `xs`
  have hperm := h.perm.map Int64.toInt
  rw [List.map_append, List.map_cons] at hperm
  have hrank := (HasRank.of_append hbefore hafter).of_perm hperm
  rw [hlength] at hrank
  exact ClockSync.eq_lowerMedian hrank

/-- The median stands in the lower middle of the sorted words. -/
theorem getElem?_mergeSort (h : xs ≠ []) :
    xs.mergeSort[(xs.length - 1) / 2]? = some (lowerMedian xs) := by
  have hk : (xs.length - 1) / 2 < xs.mergeSort.length := by
    have hpos := List.length_pos_iff.mpr h
    rw [List.length_mergeSort]
    omega
  have hwords : xs.mergeSort.Pairwise fun a b => decide (a ≤ b) = true := by
    apply List.pairwise_mergeSort
    · intro a b c hab hbc
      rw [decide_eq_true_eq] at hab hbc ⊢
      exact Int64.le_trans hab hbc
    · intro a b
      rw [Bool.or_eq_true, decide_eq_true_eq, decide_eq_true_eq]
      exact Int64.le_total a b
  have hsorted : (xs.mergeSort.map Int64.toInt).Pairwise (· ≤ ·) := by
    rw [List.pairwise_map]
    exact hwords.imp fun hab => Int64.le_iff_toInt_le.mp (of_decide_eq_true hab)
  have hrank := HasRank.getElem hsorted (by rwa [List.length_map])
  rw [List.getElem_map] at hrank
  rw [List.getElem?_eq_getElem hk,
    eq_lowerMedian (hrank.of_perm ((List.mergeSort_perm xs _).map _))]

/-! ## Other windows -/

theorem lowerMedian_of_perm (h : xs.Perm ys) :
    lowerMedian ys = lowerMedian xs := by
  cases xs with
  | nil => rw [List.nil_perm.mp h]
  | cons x xs =>
    have hrank :=
      (hasRank_lowerMedian (List.cons_ne_nil x xs)).of_perm (h.map _)
    rw [h.length_eq] at hrank
    exact (eq_lowerMedian hrank).symm

theorem lowerMedian_mono (h : xs ≠ []) (hraised : List.Forall₂ (· ≤ ·) xs ys) :
    lowerMedian xs ≤ lowerMedian ys := by
  have hlength := hraised.length_eq
  have hne : ys ≠ [] := by
    rintro rfl
    exact h (List.length_eq_zero_iff.mp hlength)
  have hrank := hasRank_lowerMedian hne
  rw [← hlength] at hrank
  refine Int64.le_iff_toInt_le.mpr ((hasRank_lowerMedian h).mono hrank ?_)
  rw [List.forall₂_map_left_iff, List.forall₂_map_right_iff]
  exact hraised.imp fun _ _ => Int64.le_iff_toInt_le.mp

end Words

namespace Estimator

variable {α : Type} [Scalar α]

/-- Taking in a reply changes the window of round trips by a push or not at all,
though the median of the window is looked for on the way. -/
theorem ingest_roundTrips (e : Estimator α) (x : Exchange) :
    (e.ingest x).2.roundTrips =
      x.roundTrip?.elim e.roundTrips e.roundTrips.push := by
  by_cases hvalid : x.Valid
  · rw [ingest_roundTrips_of_valid e hvalid,
      Exchange.roundTrip?_of_valid hvalid]
    rfl
  · rw [ingest_of_not_valid e hvalid, Exchange.roundTrip?_of_not_valid hvalid]
    rfl

/-- The median of the `n` round trips in a window that is not empty is one of
them. At most `(n - 1) / 2` of them are below it, and more than that are not
above it; it stands at that place when they are sorted, and also when they are
only moved about until the one at that place is in order with all others. It is
the same whatever the order of the window, and does not become smaller where
round trips become longer. The window keeps its order while its median is looked
for: taking in a reply adds at most the round trip of the reply. -/
theorem median_lower_middle (e : Estimator α) (hne : e.roundTrips.toList ≠ []) :
    let trips := e.roundTrips.toList
    let middle := (trips.length - 1) / 2
    let m := e.medianRoundTrip
    m ∈ trips ∧ trips.countP (· < m) ≤ middle ∧
    middle + 1 ≤ trips.countP (· ≤ m) ∧
    trips.mergeSort[middle]? = some m ∧
    (∀ before s after, Selected trips middle before s after → s = m) ∧
    (∀ e' : Estimator α, trips.Perm e'.roundTrips.toList →
      e'.medianRoundTrip = m) ∧
    (∀ e' : Estimator α, List.Forall₂ (· ≤ ·) trips e'.roundTrips.toList →
      m ≤ e'.medianRoundTrip) ∧
    ∀ x : Exchange,
      (e.ingest x).2.roundTrips =
        x.roundTrip?.elim e.roundTrips e.roundTrips.push := by
  intro trips middle m
  obtain ⟨hbelow, hupTo⟩ := hasRank_map_toInt_iff.mp (hasRank_lowerMedian hne)
  exact ⟨lowerMedian_mem hne, hbelow, hupTo, getElem?_mergeSort hne,
    fun _ _ _ hselected => hselected.eq_lowerMedian,
      fun _ => lowerMedian_of_perm,
    fun _ => lowerMedian_mono hne, e.ingest_roundTrips⟩

/-- The lower middle one of four round trips, with the shortest moved to the
front to find it; in the opposite order, and with two of them longer. -/
theorem median_lower_middle_of_four :
    let took (trips : List Int64) : Estimator Rat :=
      (new 1000).run (trips.map fun r => .ingest ⟨0, 0, r⟩)
    let e := took [400, 100, 300, 200]
    Selected e.roundTrips.toList 1 [100] 200 [400, 300] ∧
    e.medianRoundTrip = 200 ∧
      (took [200, 300, 100, 400]).medianRoundTrip = 200 ∧
      200 ≤ (took [400, 250, 300, 350]).medianRoundTrip := by
  intro took e
  have htrips : e.roundTrips.toList = [400, 100, 300, 200] := by decide +kernel
  have hreversed : (took [200, 300, 100, 400]).roundTrips.toList =
      [200, 300, 100, 400] := by
    decide +kernel
  have hlonger : (took [400, 250, 300, 350]).roundTrips.toList =
      [400, 250, 300, 350] := by
    decide +kernel
  have hselected : Selected [400, 100, 300, 200] 1 [100] 200 [400, 300] :=
    ⟨by decide, rfl, List.forall_mem_singleton.mpr (by decide),
      List.forall_mem_cons.mpr ⟨by decide,
        List.forall_mem_singleton.mpr (by decide)⟩⟩
  obtain ⟨_, _, _, _, hfound, hperm, hmono, _⟩ :=
    median_lower_middle e (by rw [htrips]; exact List.cons_ne_nil _ _)
  rw [htrips] at hfound hperm hmono ⊢
  have hmedian : 200 = e.medianRoundTrip :=
    hfound [100] 200 [400, 300] hselected
  rw [← hmedian] at hperm hmono ⊢
  exact ⟨hselected, rfl, hperm _ (by rw [hreversed]; decide),
    hmono _ (by rw [hlonger]; decide)⟩

end Estimator

end ClockSync
