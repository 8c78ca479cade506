import Mathlib.Data.List.Induction
import Mathlib.Data.List.Nodup

/-!
# The last value counts

Options and configurations are changed one field at a time. A field that every
step either sets anew or leaves alone has the value that was given last
(`foldl_eq_lastValue`), so steps that set different fields may be taken in any
order (`foldl_of_perm`).
-/

namespace ClockSync

variable {σ τ κ α : Type}

/-- The value that was given last by some steps, or the one from before them if
none of them gives any. -/
def lastValue (value? : τ → Option α) (before : α) (steps : List τ) : α :=
  (steps.filterMap value?).getLast?.getD before

@[simp] theorem lastValue_nil (value? : τ → Option α) (before : α) :
    lastValue value? before [] = before := rfl

@[simp] theorem lastValue_concat (value? : τ → Option α) (before : α)
    (steps : List τ) (t : τ) :
    lastValue value? before (steps ++ [t]) =
      (value? t).getD (lastValue value? before steps) := by
  rw [lastValue, List.filterMap_append]
  cases h : value? t <;> simp [lastValue, h]

/-- What each step sets anew or leaves alone is what was set last. -/
theorem foldl_eq_lastValue {step : σ → τ → σ} (field : σ → α)
    {value? : τ → Option α}
    (hstep : ∀ s t, field (step s t) = (value? t).getD (field s)) (s : σ)
    (steps : List τ) :
    field (steps.foldl step s) = lastValue value? (field s) steps := by
  induction steps using List.reverseRecOn with
  | nil => simp
  | append_singleton steps t ih =>
    rw [List.foldl_append, List.foldl_cons, List.foldl_nil, hstep,
      lastValue_concat, ih]

/-- Steps of different kinds can be put in any order, if two of different kinds
can be exchanged. -/
theorem foldl_of_perm {step : σ → τ → σ} {kind : τ → κ}
    (hcomm : ∀ s a b, kind a ≠ kind b → step (step s a) b = step (step s b) a)
    {xs ys : List τ} (hkinds : (xs.map kind).Nodup) (hperm : xs.Perm ys)
    (s : σ) :
    xs.foldl step s = ys.foldl step s := by
  refine hperm.foldl_eq' (fun a ha b hb z => ?_) s
  by_cases hsame : a = b
  · rw [hsame]
  · -- two steps of the list that differ are of different kinds
    exact hcomm z a b fun hkind =>
      hsame (List.inj_on_of_nodup_map hkinds ha hb hkind)

end ClockSync
