import ClockSync.Clock.Served
import ClockSync.Proofs.Words
import Mathlib.Data.List.DropRight

/-!
# Runs of a served clock

A clock is read, shifted, given another rate and reset, each at some reading of
the raw clock (`Act`), and the raw readings may be anything. After a reset the
clock is a new one, so a run is as good as its acts since the last reset
(`run_sinceReset`).

For a clock whose rate is an exact fraction, and while all values fit into
signed words (`RunFits`), the words can be read as whole numbers: what the clock
shows is what it showed at its anchor and the rounded time since then
(`toInt_valueAt`). An act moves the anchor to the present, where nothing has
been rounded yet, so at that moment it changes what the clock shows by the shift
and nothing else (`toInt_valueAt_step`).
-/

namespace ClockSync.ServedClock

variable {α : Type}

/-- What is done with a clock, and at which reading of the raw clock. -/
inductive Act (α : Type) where
  | read (raw : Int64)
  | addOffset (raw delta : Int64)
  | setRate (raw : Int64) (rate : α)
  | reset (raw : Int64)

namespace Act

/-- The reading of the raw clock. -/
def raw : Act α → Int64
  | read raw => raw
  | addOffset raw _ => raw
  | setRate raw _ => raw
  | reset raw => raw

/-- By how much the clock is shifted. -/
def delta : Act α → Int
  | addOffset _ delta => delta.toInt
  | _ => 0

/-- Whether the offset or the rate is changed. -/
def isChange : Act α → Bool
  | addOffset _ _ => true
  | setRate _ _ => true
  | _ => false

/-- Whether the clock is reset. -/
def isReset : Act α → Bool
  | reset _ => true
  | _ => false

end Act

/-- How far some acts shift a clock in all. -/
def shifts (acts : List (Act α)) : Int := (acts.map Act.delta).sum

/-- The acts after the last reset. -/
def sinceReset (acts : List (Act α)) : List (Act α) :=
  acts.rtakeWhile fun a => !a.isReset

/-- The raw reading at the last reset, or else at the start. -/
def epoch (first : Int64) (acts : List (Act α)) : Int64 :=
  ((acts.filter Act.isReset).getLast?.map Act.raw).getD first

theorem isReset_of_mem_sinceReset {acts : List (Act α)} {a : Act α}
    (h : a ∈ sinceReset acts) :
    a.isReset = false := by
  simpa using List.mem_rtakeWhile_imp h

/-! ## Runs -/

section Runs

variable [Scalar α]

/-- What an act makes of a clock. -/
def step (c : ServedClock α) : Act α → ServedClock α
  | .read _ => c
  | .addOffset raw delta => c.addOffset raw delta
  | .setRate raw rate => c.setRate raw rate
  | .reset raw => c.reset raw

/-- What acts one after the other make of a clock. -/
def run (c : ServedClock α) (acts : List (Act α)) : ServedClock α :=
  acts.foldl step c

@[simp] theorem run_nil (c : ServedClock α) : c.run [] = c := rfl

@[simp] theorem run_cons (c : ServedClock α) (a : Act α) (acts : List (Act α)) :
    c.run (a :: acts) = (c.step a).run acts := rfl

theorem run_append (c : ServedClock α) (acts later : List (Act α)) :
    c.run (acts ++ later) = (c.run acts).run later := List.foldl_append

/-- A reset leaves a clock that was started at that moment. -/
theorem run_sinceReset (first : Int64) (acts : List (Act α)) :
    (start first : ServedClock α).run acts =
      (start (epoch first acts)).run (sinceReset acts) := by
  induction acts using List.reverseRecOn with
  | nil => rfl
  | append_singleton acts a ih =>
    cases ha : a.isReset with
    | true =>
      have hsince : sinceReset (acts ++ [a]) = [] := by
        rw [sinceReset, List.rtakeWhile_concat, ha]
        rfl
      have hepoch : epoch first (acts ++ [a]) = a.raw := by
        simp [epoch, ha]
      rw [hsince, hepoch, run_append]
      cases a with
      | reset raw => rfl
      | _ => cases ha
    | false =>
      have hsince : sinceReset (acts ++ [a]) = sinceReset acts ++ [a] := by
        rw [sinceReset, List.rtakeWhile_concat, ha]
        rfl
      have hepoch : epoch first (acts ++ [a]) = epoch first acts := by
        simp [epoch, ha]
      rw [hsince, hepoch, run_append, run_append, ih]

end Runs

/-! ## Exact rates -/

/-- The time that the clock has gone since its anchor, rounded. -/
def gone (c : ServedClock Rat) (raw : Int64) : Int :=
  Scalar.roundHalfAway ((raw.toInt - c.anchor.toInt : Int) * c.rate)

/-- Reading the clock takes none of its values out of the signed words. -/
structure Fits (c : ServedClock Rat) (raw : Int64) : Prop where
  elapsed : IsWord (raw.toInt - c.anchor.toInt)
  gone : IsWord (c.gone raw)
  shown : IsWord (c.shown.toInt + c.gone raw)

instance (c : ServedClock Rat) (raw : Int64) : Decidable (c.Fits raw) :=
  decidable_of_iff (IsWord (raw.toInt - c.anchor.toInt) ∧ IsWord (c.gone raw) ∧
      IsWord (c.shown.toInt + c.gone raw))
    ⟨fun ⟨helapsed, hgone, hshown⟩ => ⟨helapsed, hgone, hshown⟩,
      fun h => ⟨h.elapsed, h.gone, h.shown⟩⟩

/-- An act takes none of the values of the clock out of the signed words. -/
def StepFits (c : ServedClock Rat) : Act Rat → Prop
  | .read raw => c.Fits raw
  | .addOffset raw delta =>
    c.Fits raw ∧ IsWord ((c.valueAt raw).toInt + delta.toInt)
  | .setRate raw _ => c.Fits raw
  | .reset _ => True

instance (c : ServedClock Rat) : DecidablePred c.StepFits
  | .read raw => inferInstanceAs (Decidable (c.Fits raw))
  | .addOffset raw delta =>
    inferInstanceAs (Decidable (c.Fits raw ∧
      IsWord ((c.valueAt raw).toInt + delta.toInt)))
  | .setRate raw _ => inferInstanceAs (Decidable (c.Fits raw))
  | .reset _ => inferInstanceAs (Decidable True)

/-- None of the acts takes a value of the clock out of the signed words. -/
def RunFits (c : ServedClock Rat) : List (Act Rat) → Prop
  | [] => True
  | a :: acts => c.StepFits a ∧ (c.step a).RunFits acts

instance decidableRunFits (c : ServedClock Rat) : DecidablePred c.RunFits
  | [] => inferInstanceAs (Decidable True)
  | a :: acts =>
    have := decidableRunFits (c.step a) acts
    inferInstanceAs (Decidable (c.StepFits a ∧ (c.step a).RunFits acts))

theorem runFits_append (c : ServedClock Rat) (acts later : List (Act Rat)) :
    c.RunFits (acts ++ later) ↔ c.RunFits acts ∧
      (c.run acts).RunFits later := by
  induction acts generalizing c with
  | nil => simp [RunFits]
  | cons a acts ih => simp [RunFits, ih, and_assoc]

section Words

variable {c : ServedClock Rat} {raw : Int64}

theorem toInt_valueAt (h : c.Fits raw) :
    (c.valueAt raw).toInt = c.shown.toInt + c.gone raw := by
  have hgone :
      (Scalar.toInt64 (Scalar.ofInt64 (raw - c.anchor) * c.rate)).toInt =
        c.gone raw := by
    rw [Scalar.ofInt64, h.elapsed.toInt_sub]
    exact Scalar.toInt_toInt64 h.gone
  rw [valueAt, IsWord.toInt_add (by rw [hgone]; exact h.shown), hgone]

theorem gone_anchor (c : ServedClock Rat) : c.gone c.anchor = 0 := by
  rw [gone, Int.sub_self, Int.cast_zero, zero_mul]
  exact Scalar.roundHalfAway_intCast 0

/-- At its anchor a clock can be read. -/
theorem fits_anchor (c : ServedClock Rat) : c.Fits c.anchor := by
  constructor
  · rw [Int.sub_self]
    decide
  · rw [gone_anchor]
    decide
  · rw [gone_anchor, Int.add_zero]
    exact ⟨c.shown.le_toInt, c.shown.toInt_lt⟩

theorem valueAt_anchor (c : ServedClock Rat) :
    c.valueAt c.anchor = c.shown := by
  rw [← Int64.toInt_inj, toInt_valueAt c.fits_anchor, gone_anchor, Int.add_zero]

/-- A new rate makes no difference to what the clock shows at the moment. -/
theorem valueAt_setRate (c : ServedClock Rat) (raw : Int64) (rate : Rat) :
    (c.setRate raw rate).valueAt raw = c.valueAt raw :=
  valueAt_anchor (c.setRate raw rate)

/-- A shift is seen at once. -/
theorem valueAt_addOffset (c : ServedClock Rat) (raw delta : Int64) :
    (c.addOffset raw delta).valueAt raw = c.valueAt raw + delta :=
  valueAt_anchor (c.addOffset raw delta)

theorem fits_of_stepFits {a : Act Rat} (h : c.StepFits a)
    (ha : a.isReset = false) :
    c.Fits a.raw := by
  cases a with
  | read raw => exact h
  | addOffset raw delta => exact h.1
  | setRate raw rate => exact h
  | reset raw => cases ha

/-- Right after an act the clock can be read, and shows what it showed before
and the shift. -/
theorem toInt_valueAt_step {a : Act Rat} (h : c.StepFits a)
    (ha : a.isReset = false) :
    (c.step a).Fits a.raw ∧
      ((c.step a).valueAt a.raw).toInt = (c.valueAt a.raw).toInt + a.delta := by
  cases a with
  | read raw => exact ⟨h, (Int.add_zero _).symm⟩
  | addOffset raw delta =>
    refine ⟨fits_anchor (c.addOffset raw delta), ?_⟩
    rw [step, Act.raw, valueAt_addOffset]
    exact h.2.toInt_add
  | setRate raw rate =>
    refine ⟨fits_anchor (c.setRate raw rate), ?_⟩
    rw [step, Act.raw, valueAt_setRate]
    exact (Int.add_zero _).symm
  | reset raw => cases ha

end Words

end ClockSync.ServedClock
