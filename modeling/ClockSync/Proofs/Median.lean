import ClockSync.Estimator
import Mathlib.Algebra.Order.Ring.Int
import Mathlib.Data.List.Sort

/-!
# The median as an order statistic

The lower median of signed words is the element in the lower middle of the
sorted list of their values (`toInt_lowerMedian`). At most half of the values
are below it and more than half, or exactly half of an even number, are not
above it (`hasRank_lowerMiddle`). So a bound that a majority of the values
keeps to is one of the median (`lowerMiddle_mem_of_majority`), whatever the
others are. Only one number has a rank (`HasRank.unique`), so the median is the
same in whatever way and order it is looked for.
-/

namespace ClockSync

/-- The middle one of some whole numbers in ascending order; of two middle ones
the lower, and zero if there are none. -/
def lowerMiddle (xs : List Int) : Int :=
  (xs.insertionSort (· ≤ ·)).getD ((xs.length - 1) / 2) 0

theorem map_insertInOrder (x : Int64) (ys : List Int64) :
    (insertInOrder x ys).map Int64.toInt =
      (ys.map Int64.toInt).orderedInsert (· ≤ ·) x.toInt := by
  induction ys with
  | nil => rfl
  | cons y ys ih =>
    rw [insertInOrder, List.map_cons]
    by_cases h : y < x
    · have hnle : ¬ x.toInt ≤ y.toInt :=
        Int.not_le.mpr (Int64.lt_iff_toInt_lt.mp h)
      rw [if_pos h, List.map_cons, ih, List.orderedInsert_of_not_le _ _ hnle]
    · have hle : x.toInt ≤ y.toInt :=
        Int.not_lt.mp (mt Int64.lt_iff_toInt_lt.mpr h)
      rw [if_neg h, List.map_cons, List.map_cons,
        List.orderedInsert_cons_of_le _ _ hle]

theorem map_inOrder (xs : List Int64) :
    (inOrder xs).map Int64.toInt =
      (xs.map Int64.toInt).insertionSort (· ≤ ·) := by
  induction xs with
  | nil => rfl
  | cons x xs ih =>
    rw [List.map_cons, List.insertionSort_cons, ← ih, ← map_insertInOrder]
    rfl

/-- The lower median of words is the lower middle of their values. -/
theorem toInt_lowerMedian (xs : List Int64) :
    (lowerMedian xs).toInt = lowerMiddle (xs.map Int64.toInt) := by
  rw [lowerMiddle, lowerMedian, ← map_inOrder, List.length_map,
    List.getD_eq_getElem?_getD, List.getD_eq_getElem?_getD, List.getElem?_map]
  cases (inOrder xs)[(xs.length - 1) / 2]? <;> rfl

/-! ## Ranks -/

/-- Where whatever satisfies `q` came from something that satisfies `p`, at
least as many satisfied `p` before. -/
theorem countP_le_of_forall₂ {α β : Type} {R : α → β → Prop} {p : α → Bool}
    {q : β → Bool} (himp : ∀ a b, R a b → q b → p a) {xs : List α} {ys : List β}
    (h : List.Forall₂ R xs ys) :
    ys.countP q ≤ xs.countP p := by
  induction h with
  | nil => exact Nat.le_refl _
  | @cons a b xs ys hab _ ih =>
    by_cases hb : q b
    · rw [List.countP_cons_of_pos hb, List.countP_cons_of_pos (himp a b hab hb)]
      exact Nat.succ_le_succ ih
    · rw [List.countP_cons_of_neg hb]
      exact Nat.le_trans ih (List.sublist_cons_self a xs).countP_le

/-- At most `k` of some numbers are below `m`, and more than `k` are not above
it. -/
structure HasRank (xs : List Int) (k : Nat) (m : Int) : Prop where
  below : xs.countP (· < m) ≤ k
  upTo : k < xs.countP (· ≤ m)

namespace HasRank

variable {xs ys : List Int} {k : Nat} {m m' : Int}

/-- A number has the rank at which it stands if none before it is greater and
none after it is smaller. -/
theorem of_append {before after : List Int} (hbefore : ∀ a ∈ before, a ≤ m)
    (hafter : ∀ b ∈ after, m ≤ b) :
    HasRank (before ++ m :: after) before.length m := by
  constructor
  · have hnone : (m :: after).countP (· < m) = 0 := by
      rw [List.countP_eq_zero]
      intro b hb
      rcases List.mem_cons.mp hb with rfl | hb
      · simp
      · simpa using hafter b hb
    rw [List.countP_append, hnone]
    exact List.countP_le_length
  · have hall : before.countP (· ≤ m) = before.length := by
      rw [List.countP_eq_length]
      intro a ha
      simpa using hbefore a ha
    rw [List.countP_append, hall, List.countP_cons_of_pos (by simp)]
    omega

theorem of_perm (h : HasRank xs k m) (hperm : xs.Perm ys) : HasRank ys k m :=
  ⟨by rw [← hperm.countP_eq]; exact h.below,
    by rw [← hperm.countP_eq]; exact h.upTo⟩

/-- In ascending order every number stands at its rank. -/
theorem getElem (hs : xs.Pairwise (· ≤ ·)) (hk : k < xs.length) :
    HasRank xs k xs[k] := by
  have hsplit : xs.take k ++ xs[k] :: xs.drop (k + 1) = xs := by
    rw [← List.drop_eq_getElem_cons hk, List.take_append_drop]
  have hlen : (xs.take k).length = k := List.length_take_of_le (Nat.le_of_lt hk)
  rw [← hsplit, List.pairwise_append, List.pairwise_cons] at hs
  obtain ⟨_, ⟨hafter, _⟩, hbefore⟩ := hs
  have h := of_append (fun a ha => hbefore a ha _ List.mem_cons_self) hafter
  rwa [hsplit, hlen] at h

/-- A number of rank `k` is at most `b` if more than `k` numbers are. -/
theorem le_of_lt_countP {b : Int} (h : HasRank xs k m)
    (hb : k < xs.countP (· ≤ b)) : m ≤ b := by
  by_contra hlt
  have hsub : xs.countP (· ≤ b) ≤ xs.countP (· < m) :=
    List.countP_mono_left fun x _ hx => by
      simp only [decide_eq_true_eq] at hx ⊢
      omega
  have hbelow := h.below
  omega

/-- A number of rank `k` is at least `a` if at most `k` numbers are below
that. -/
theorem le_of_countP_le {a : Int} (h : HasRank xs k m)
    (ha : xs.countP (· < a) ≤ k) : a ≤ m := by
  by_contra hlt
  have hsub : xs.countP (· ≤ m) ≤ xs.countP (· < a) :=
    List.countP_mono_left fun x _ hx => by
      simp only [decide_eq_true_eq] at hx ⊢
      omega
  have hupTo := h.upTo
  omega

/-- Where no number gets smaller, none of a rank does. -/
theorem mono (h : HasRank xs k m) (h' : HasRank ys k m')
    (hraised : List.Forall₂ (· ≤ ·) xs ys) : m ≤ m' := by
  -- what is up to `m'` now was so before it was raised
  have hsub : ys.countP (· ≤ m') ≤ xs.countP (· ≤ m') :=
    countP_le_of_forall₂ (fun a b hab hb => by
      simp only [decide_eq_true_eq] at hb ⊢
      omega) hraised
  exact h.le_of_lt_countP (Nat.lt_of_lt_of_le h'.upTo hsub)

theorem unique (h : HasRank xs k m) (h' : HasRank xs k m') : m = m' := by
  have hrefl : List.Forall₂ (· ≤ ·) xs xs := List.forall₂_refl xs
  exact Int.le_antisymm (h.mono h' hrefl) (h'.mono h hrefl)

end HasRank

/-! ## The rank of the lower middle -/

variable {xs : List Int}

/-- The lower middle of some numbers is the one of that rank among them. -/
theorem lowerMiddle_eq_getElem (h : xs ≠ []) :
    ∃ hk : (xs.length - 1) / 2 < (xs.insertionSort (· ≤ ·)).length,
      lowerMiddle xs = (xs.insertionSort (· ≤ ·))[(xs.length - 1) / 2] := by
  have hpos := List.length_pos_iff.mpr h
  have hk : (xs.length - 1) / 2 < (xs.insertionSort (· ≤ ·)).length := by
    rw [List.length_insertionSort]
    omega
  exact ⟨hk, by
    simp [lowerMiddle, List.getD_eq_getElem?_getD, List.getElem?_eq_getElem hk]⟩

theorem lowerMiddle_mem (h : xs ≠ []) : lowerMiddle xs ∈ xs := by
  obtain ⟨hk, heq⟩ := lowerMiddle_eq_getElem h
  rw [heq]
  exact (List.mem_insertionSort _).mp (List.getElem_mem hk)

theorem hasRank_lowerMiddle (h : xs ≠ []) :
    HasRank xs ((xs.length - 1) / 2) (lowerMiddle xs) := by
  obtain ⟨hk, heq⟩ := lowerMiddle_eq_getElem h
  have hrank := HasRank.getElem (List.pairwise_insertionSort (· ≤ ·) xs) hk
  rw [← heq] at hrank
  exact hrank.of_perm (List.perm_insertionSort (· ≤ ·) xs)

/-! ## What a majority decides -/

/-- If most of some numbers are at most `b`, so is their lower middle. -/
theorem lowerMiddle_le_of_majority {b : Int}
    (h : xs.length < 2 * xs.countP (· ≤ b)) :
    lowerMiddle xs ≤ b := by
  have hne : xs ≠ [] := by
    rintro rfl
    exact Nat.not_lt_zero _ h
  exact (hasRank_lowerMiddle hne).le_of_lt_countP (by omega)

/-- If most of some numbers are at least `a`, so is their lower middle. -/
theorem le_lowerMiddle_of_majority {a : Int}
    (h : xs.length < 2 * xs.countP (a ≤ ·)) :
    a ≤ lowerMiddle xs := by
  have hne : xs ≠ [] := by
    rintro rfl
    exact Nat.not_lt_zero _ h
  have hrest : xs.length = xs.countP (a ≤ ·) + xs.countP (· < a) := by
    rw [List.length_eq_countP_add_countP (a ≤ ·)]
    simp only [decide_eq_true_eq, Int.not_le]
  exact (hasRank_lowerMiddle hne).le_of_countP_le (by omega)

/-- An interval with more than half of the numbers holds their lower middle. -/
theorem lowerMiddle_mem_of_majority {a b : Int}
    (h : xs.length < 2 * xs.countP (fun x => a ≤ x ∧ x ≤ b)) :
    a ≤ lowerMiddle xs ∧ lowerMiddle xs ≤ b := by
  have hlow : xs.countP (fun x => a ≤ x ∧ x ≤ b) ≤ xs.countP (a ≤ ·) :=
    List.countP_mono_left fun x _ hin =>
      decide_eq_true (of_decide_eq_true hin).1
  have hhigh : xs.countP (fun x => a ≤ x ∧ x ≤ b) ≤ xs.countP (· ≤ b) :=
    List.countP_mono_left fun x _ hin =>
      decide_eq_true (of_decide_eq_true hin).2
  exact ⟨le_lowerMiddle_of_majority (by omega),
    lowerMiddle_le_of_majority (by omega)⟩

end ClockSync
