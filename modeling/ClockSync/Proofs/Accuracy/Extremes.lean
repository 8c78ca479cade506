import ClockSync.Accuracy
import Mathlib.Order.Lattice
import Mathlib.Order.MinMax

/-!
# The extremes of a list

The extremes are found by comparing two numbers with each other first, and then
each of them with one extreme only. What that gives is said once for two lists:
if each list has its extremes, the lesser of the least and the greater of the
greatest are those of both together (`Spans.append`). The pass over a list is
this step again and again, with two numbers at a time.

Doubles are compared by `less`, which need not be an order where something is no
number. So the lemmas are about numbers that `less` ranks (`RankedBy`).
-/

namespace ClockSync

section Extremes

variable {α : Type} [Scalar α] {β : Type} [LinearOrder β]
  {rank : α → β} {s : α → Prop}

/-- Of these numbers `less` tells how they are ranked. -/
def RankedBy (rank : α → β) (s : α → Prop) : Prop :=
  ∀ ⦃a b⦄, s a → s b → (Scalar.less a b = true ↔ rank a < rank b)

/-- Two numbers of a list between which all its numbers are. -/
structure Spans (rank : α → β) (least greatest : α) (xs : List α) : Prop where
  least_mem : least ∈ xs
  greatest_mem : greatest ∈ xs
  least_le : ∀ x ∈ xs, rank least ≤ rank x
  le_greatest : ∀ x ∈ xs, rank x ≤ rank greatest

namespace Spans

omit [Scalar α] in
theorem single (a : α) : Spans rank a a [a] := by
  constructor <;> simp

theorem pair (hrank : RankedBy rank s) {a b : α} (ha : s a) (hb : s b) :
    if Scalar.less b a then Spans rank b a [a, b]
    else Spans rank a b [a, b] := by
  have hless := hrank hb ha
  split
  next h =>
    have hle := (hless.mp h).le
    constructor <;> simp [hle]
  next h =>
    have hle := not_lt.mp (mt hless.mpr h)
    constructor <;> simp [hle]

variable {l g l' g' : α} {xs ys : List α}

/-- The lesser of the least and the greater of the greatest span two lists
together. -/
theorem append (hrank : RankedBy rank s) (h : Spans rank l g xs)
    (h' : Spans rank l' g' ys) (hs : ∀ x ∈ xs ++ ys, s x) :
    Spans rank (if Scalar.less l' l then l' else l)
      (if Scalar.less g' g then g else g')
      (xs ++ ys) := by
  have hlow := hrank (hs l' (List.mem_append_right _ h'.least_mem))
    (hs l (List.mem_append_left _ h.least_mem))
  have hhigh := hrank (hs g' (List.mem_append_right _ h'.greatest_mem))
    (hs g (List.mem_append_left _ h.greatest_mem))
  have hmin : rank (if Scalar.less l' l then l' else l) =
      min (rank l) (rank l') := by
    split
    next hlt => exact (min_eq_right (hlow.mp hlt).le).symm
    next hlt => exact (min_eq_left (not_lt.mp (mt hlow.mpr hlt))).symm
  have hmax : rank (if Scalar.less g' g then g else g') =
      max (rank g) (rank g') := by
    split
    next hlt => exact (max_eq_left (hhigh.mp hlt).le).symm
    next hlt => exact (max_eq_right (not_lt.mp (mt hhigh.mpr hlt))).symm
  refine ⟨?_, ?_, ?_, ?_⟩
  · split
    · exact List.mem_append_right _ h'.least_mem
    · exact List.mem_append_left _ h.least_mem
  · split
    · exact List.mem_append_left _ h.greatest_mem
    · exact List.mem_append_right _ h'.greatest_mem
  · intro x hx
    rw [hmin]
    obtain hx | hx := List.mem_append.mp hx
    · exact (min_le_left _ _).trans (h.least_le x hx)
    · exact (min_le_right _ _).trans (h'.least_le x hx)
  · intro x hx
    rw [hmax]
    obtain hx | hx := List.mem_append.mp hx
    · exact (h.le_greatest x hx).trans (le_max_left _ _)
    · exact (h'.le_greatest x hx).trans (le_max_right _ _)

/-- Carried through a list, the extremes span what was seen before and the
list. -/
theorem extremesFrom (hrank : RankedBy rank s) (h : Spans rank l g xs)
    (hs : ∀ x ∈ xs ++ ys, s x) :
    Spans rank (extremesFrom l g ys).1 (extremesFrom l g ys).2 (xs ++ ys) := by
  fun_induction ClockSync.extremesFrom l g ys generalizing xs with
  | case1 l g => simpa using h
  | case2 l g a hless =>
    -- what is below the least is below the greatest, too
    have hlg := h.least_le g h.greatest_mem
    have hla := (hrank (hs a (by simp)) (hs l (by simp [h.least_mem]))).mp hless
    have hless' : Scalar.less a g = true :=
      (hrank (hs a (by simp)) (hs g (by simp [h.greatest_mem]))).mpr
        (hla.trans_le hlg)
    have happend := h.append hrank (single a) hs
    rwa [if_pos hless, if_pos hless'] at happend
  | case3 l g a hless hless' =>
    have happend := h.append hrank (single a) hs
    rwa [if_neg hless, if_pos hless'] at happend
  | case4 l g a hless hless' =>
    have happend := h.append hrank (single a) hs
    rwa [if_neg hless, if_neg hless'] at happend
  | case5 l g a b rest lesser greater heq ih =>
    have hpair : Spans rank lesser greater [a, b] := by
      have hspans := pair hrank (hs a (by simp)) (hs b (by simp))
      split at heq <;> cases heq
      next hless => rwa [if_pos hless] at hspans
      next hless => rwa [if_neg hless] at hspans
    have hsplit : xs ++ a :: b :: rest = (xs ++ [a, b]) ++ rest := by simp
    rw [hsplit] at hs ⊢
    refine ih ?_ hs
    exact h.append hrank hpair fun x hx => hs x (List.mem_append_left _ hx)

/-- The extremes of a list that is not empty span it. -/
theorem extremes? (hrank : RankedBy rank s) (hs : ∀ x ∈ xs, s x)
    (hne : xs ≠ []) :
    ∃ least greatest, ClockSync.extremes? xs = some (least, greatest) ∧
      Spans rank least greatest xs := by
  match xs, hne with
  | [a], _ => exact ⟨a, a, rfl, single a⟩
  | a :: b :: rest, _ =>
    have hpair := pair hrank (hs a (by simp)) (hs b (by simp))
    have hs' : ∀ x ∈ [a, b] ++ rest, s x := hs
    rw [ClockSync.extremes?]
    by_cases hless : Scalar.less b a = true
    · rw [if_pos hless] at hpair ⊢
      exact ⟨_, _, rfl, hpair.extremesFrom hrank hs'⟩
    · rw [if_neg hless] at hpair ⊢
      exact ⟨_, _, rfl, hpair.extremesFrom hrank hs'⟩

end Spans

end Extremes

end ClockSync
