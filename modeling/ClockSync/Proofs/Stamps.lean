import ClockSync.Estimator
import Mathlib.Algebra.Order.Ring.Int

/-!
# Stamps as whole numbers

What the word arithmetic of stamps and exchanges comes to in whole numbers. A
signed stamp or difference is the signed word congruent to its exact value
modulo `2 ^ 64`, which is what `Int64.ofInt` makes of that value. The round trip
of an exchange is its delay (`Exchange.delay`), if that is below `2 ^ 63`.
-/

namespace ClockSync

namespace Stamp

theorem toInt64_eq_ofInt (a : UInt64) : a.toInt64 = Int64.ofInt a.toNat := by
  apply Int64.toBitVec_inj.mp
  simp [Int64.ofInt]
  rfl

theorem signed_eq_ofInt (a : UInt64) : signed a = Int64.ofInt a.toNat := by
  rw [signed, difference_eq, UInt64.sub_zero, toInt64_eq_ofInt]

theorem difference_eq_ofInt (a b : UInt64) :
    difference a b = Int64.ofInt (a.toNat - b.toNat) := by
  rw [Int64.ofInt_sub, ← toInt64_eq_ofInt, ← toInt64_eq_ofInt, difference_eq]
  rfl

theorem elapsed_eq_sub (later earlier : Int64) :
    elapsed later earlier = later - earlier := by
  rw [elapsed, difference_eq]
  rfl

theorem elapsed_eq_ofInt (later earlier : Int64) :
    elapsed later earlier = Int64.ofInt (later.toInt - earlier.toInt) := by
  rw [elapsed_eq_sub, Int64.ofInt_sub, Int64.ofInt_toInt, Int64.ofInt_toInt]

/-- Only equal readings are no time apart. -/
theorem elapsed_eq_zero_iff {later earlier : Int64} :
    elapsed later earlier = 0 ↔ later = earlier := by
  rw [elapsed_eq_sub]
  constructor
  · intro h
    rw [← Int64.sub_add_cancel later earlier, h, Int64.zero_add]
  · rintro rfl
    exact Int64.sub_self later

/-- The difference of two words is that of the numbers they are read as. -/
theorem difference_eq_ofInt_signed (a b : UInt64) :
    difference a b = Int64.ofInt ((signed a).toInt - (signed b).toInt) := by
  rw [difference_eq_ofInt, Int64.ofInt_sub, Int64.ofInt_sub, Int64.ofInt_toInt,
    Int64.ofInt_toInt, signed_eq_ofInt, signed_eq_ofInt]

theorem signed_injective : Function.Injective signed := by
  intro a b h
  rw [signed, signed, difference_eq, difference_eq, UInt64.sub_zero,
    UInt64.sub_zero] at h
  rw [← a.toUInt64_toInt64, h, UInt64.toUInt64_toInt64]

theorem toNat_toUInt64 (a : Int64) :
    (a.toUInt64.toNat : Int) = a.toInt % 2 ^ 64 := by
  have h : a.toInt =
      if 2 * a.toUInt64.toNat < 2 ^ 64 then (a.toUInt64.toNat : Int)
      else a.toUInt64.toNat - (2 ^ 64 : Nat) :=
    BitVec.toInt_eq_toNat_cond a.toBitVec
  have hlt := a.toUInt64.toNat_lt
  split at h <;> omega

/-! ## How far two readings are apart -/

theorem toInt_sub_of_abs_lt {a b : Int64} (h : |a.toInt - b.toInt| < 2 ^ 63) :
    (a - b).toInt = a.toInt - b.toInt := by
  rw [abs_lt] at h
  rw [Int64.toInt_sub, Int.bmod_eq_of_le (by omega) (by omega)]

/-- Of the least signed word alone the absolute value is not itself a signed
word. -/
theorem toInt_abs_of_abs_lt {a : Int64} (h : |a.toInt| < 2 ^ 63) :
    a.abs.toInt = |a.toInt| := by
  have hne : a.toBitVec ≠ BitVec.intMin 64 := by
    intro heq
    have hmin : a.toInt = -2 ^ 63 := congrArg BitVec.toInt heq
    rw [hmin] at h
    exact absurd h (by decide)
  have habs : a.abs.toInt = (a.toInt.natAbs : Int) :=
    BitVec.toInt_abs_eq_natAbs_of_ne_intMin hne
  rw [habs, Int.natCast_natAbs]

/-- Readings less than half the range apart are compared without overflow. -/
theorem lt_abs_sub_iff {a b t : Int64} (h : |a.toInt - b.toInt| < 2 ^ 63) :
    t < (a - b).abs ↔ t.toInt < |a.toInt - b.toInt| := by
  have hsub := toInt_sub_of_abs_lt h
  rw [Int64.lt_iff_toInt_lt, toInt_abs_of_abs_lt (by rwa [hsub]), hsub]

end Stamp

namespace Exchange

/-- How much later the reply came in than the request left, on a clock whose
readings wrap around: from zero to `2 ^ 64 - 1`. -/
def delay (x : Exchange) : Int := (x.receivedAt.toInt - x.sentAt.toNat) % 2 ^ 64

/-- The reply did not come in before the request left, as far as a clock that
wraps around can tell. -/
def Valid (x : Exchange) : Prop := x.delay < 2 ^ 63

instance : DecidablePred Valid :=
  fun x => inferInstanceAs (Decidable (x.delay < 2 ^ 63))

theorem delay_nonneg (x : Exchange) : 0 ≤ x.delay :=
  Int.emod_nonneg _ (by decide)

theorem delay_eq_toNat (x : Exchange) :
    x.delay = (x.receivedAt.toUInt64 - x.sentAt).toNat := by
  have hnow := Stamp.toNat_toUInt64 x.receivedAt
  have hsent := x.sentAt.toNat_lt
  rw [delay, UInt64.toNat_sub]
  push_cast
  omega

theorem roundTrip?_of_valid {x : Exchange} (h : x.Valid) :
    x.roundTrip? = some (Int64.ofInt x.delay) := by
  have hle : x.receivedAt.toUInt64 - x.sentAt ≤ Stamp.largestSigned := by
    rw [UInt64.le_iff_toNat_le,
      show Stamp.largestSigned.toNat = 2 ^ 63 - 1 from rfl]
    rw [Valid, delay_eq_toNat] at h
    omega
  rw [roundTrip?, if_pos hle, Stamp.toInt64_eq_ofInt, ← delay_eq_toNat]

theorem roundTrip?_of_not_valid {x : Exchange} (h : ¬ x.Valid) :
    x.roundTrip? = none := by
  have hgt : ¬ x.receivedAt.toUInt64 - x.sentAt ≤ Stamp.largestSigned := by
    rw [UInt64.le_iff_toNat_le,
      show Stamp.largestSigned.toNat = 2 ^ 63 - 1 from rfl]
    rw [Valid, delay_eq_toNat] at h
    omega
  rw [roundTrip?, if_neg hgt]

/-- The round trip of a valid exchange as a signed word loses nothing. -/
theorem toInt_ofInt_delay {x : Exchange} (h : x.Valid) :
    (Int64.ofInt x.delay).toInt = x.delay := by
  have hnonneg := x.delay_nonneg
  rw [Valid] at h
  exact Int64.toInt_ofInt_of_le (by omega) h

/-- If the request leaves only after the reply came in, the delay is what is
missing to a whole turn of the clock. -/
theorem delay_of_future {x : Exchange} (hnow : 0 ≤ x.receivedAt.toInt)
    (hfuture : x.receivedAt.toInt < x.sentAt.toNat) :
    x.delay = 2 ^ 64 - (x.sentAt.toNat - x.receivedAt.toInt) := by
  have hsent := x.sentAt.toNat_lt
  rw [delay]
  omega

end Exchange

end ClockSync
