import ClockSync.Proofs.Numeric.Mantissas
import Mathlib

/-!
# Doubles in 64 bits

A double is a sign, a field for the exponent and a field for the mantissa. What
the fields stand for is said once for each of the five kinds of doubles
(`unpack_normal` and the lemmas before it); that a number is not changed by
being put into the fields (`unpack_pack_finite`), that every finite double has a
mantissa with all its places (`unpack_finite`), and that `Binary64.ofFloat`
reads the same parts (`ofFloat_eq`), all follow from these.
-/

namespace ClockSync.Binary64

open Float.Model Float.Model.UnpackedFloat

/-! ## Fields -/

section Fields

variable {b : BitVec Format.binary64.numBits}

/-- The field of the exponent. -/
def exponentField (b : BitVec Format.binary64.numBits) : Nat :=
  (unpackExponent b).toNat

/-- The field of the mantissa. -/
def mantissaField (b : BitVec Format.binary64.numBits) : Nat :=
  (unpackMantissa b).toNat

/-- The sign by its bit. -/
def signOf (b : BitVec Format.binary64.numBits) : Sign :=
  .ofBitVec (unpackSign b)

theorem exponentField_lt : exponentField b < 2048 := (unpackExponent b).isLt

theorem mantissaField_lt : mantissaField b < 2 ^ 52 := (unpackMantissa b).isLt

theorem unpackExponent_eq_last :
    unpackExponent b = -1#11 ↔ exponentField b = 2047 := by
  rw [← BitVec.toNat_inj]
  rfl

theorem unpackExponent_eq_zero :
    unpackExponent b = 0#11 ↔ exponentField b = 0 := by
  rw [← BitVec.toNat_inj]
  rfl

theorem unpackMantissa_eq_zero :
    unpackMantissa b = 0#52 ↔ mantissaField b = 0 := by
  rw [← BitVec.toNat_inj]
  rfl

theorem finite_congr {s : Sign} {m n : Nat} {e f : Int} (hm : 0 < m)
    (hn : 0 < n) (h : m = n) (he : e = f) :
    UnpackedFloat.finite s m e hm = .finite s n f hn := by
  subst h he
  rfl

theorem unpack_infinite (he : exponentField b = 2047)
    (hm : mantissaField b = 0) :
    unpack Format.binary64 b = .infinity (signOf b) := by
  rw [UnpackedFloat.unpack, if_pos (unpackExponent_eq_last.mpr he),
    if_pos (unpackMantissa_eq_zero.mpr hm)]
  rfl

theorem unpack_nan (he : exponentField b = 2047) (hm : mantissaField b ≠ 0) :
    unpack Format.binary64 b = .notANumber := by
  rw [UnpackedFloat.unpack, if_pos (unpackExponent_eq_last.mpr he),
    if_neg (mt unpackMantissa_eq_zero.mp hm)]

theorem unpack_zero (he : exponentField b = 0) (hm : mantissaField b = 0) :
    unpack Format.binary64 b = .zero (signOf b) := by
  rw [UnpackedFloat.unpack, if_neg (mt unpackExponent_eq_last.mp (by omega)),
    if_pos (unpackExponent_eq_zero.mpr he),
    dif_pos (unpackMantissa_eq_zero.mpr hm)]
  rfl

theorem unpack_subnormal (he : exponentField b = 0) (hm : 0 < mantissaField b) :
    unpack Format.binary64 b =
      .finite (signOf b) (mantissaField b) (-1074) hm := by
  rw [UnpackedFloat.unpack, if_neg (mt unpackExponent_eq_last.mp (by omega)),
    if_pos (unpackExponent_eq_zero.mpr he),
    dif_neg (mt unpackMantissa_eq_zero.mp (by omega))]
  refine finite_congr _ _ rfl ?_
  show (exponentField b : Int) - 1075 + 1 = -1074
  omega

theorem toNat_implicit_append (f : BitVec 52) :
    (1#1 ++ f).toNat = 2 ^ 52 + f.toNat := by
  rw [BitVec.toNat_append, ← Nat.shiftLeft_add_eq_or_of_lt f.isLt]
  rfl

theorem unpack_normal (hpos : 0 < exponentField b)
    (hlt : exponentField b < 2047) :
    unpack Format.binary64 b =
      .finite (signOf b) (2 ^ 52 + mantissaField b) (exponentField b - 1075)
        (by omega) := by
  rw [UnpackedFloat.unpack, if_neg (mt unpackExponent_eq_last.mp (by omega)),
    if_neg (mt unpackExponent_eq_zero.mp (by omega))]
  exact finite_congr _ _ (toNat_implicit_append _) rfl

/-- What is read off the fields is a number with all its places, and not too
large. -/
theorem unpack_finite {b : BitVec Format.binary64.numBits} {s : Sign} {m : Nat}
    {e : Int} {hm}
    (h : UnpackedFloat.unpack Format.binary64 b = .finite s m e hm) :
    Canonical m e ∧ e ≤ 971 := by
  have hexponent := exponentField_lt (b := b)
  have hmantissa := mantissaField_lt (b := b)
  obtain hlast | hnormal : exponentField b = 2047 ∨
    exponentField b < 2047 := by omega
  · by_cases hzero : mantissaField b = 0
    · rw [unpack_infinite hlast hzero] at h
      cases h
    · rw [unpack_nan hlast hzero] at h
      cases h
  · obtain hfirst | hpos := (exponentField b).eq_zero_or_pos
    · by_cases hzero : mantissaField b = 0
      · rw [unpack_zero hfirst hzero] at h
        cases h
      · rw [unpack_subnormal hfirst (Nat.pos_of_ne_zero hzero)] at h
        cases h
        exact ⟨⟨hm, by omega, le_rfl, .inr rfl⟩, by omega⟩
    · rw [unpack_normal hpos hnormal] at h
      cases h
      exact ⟨⟨hm, by omega, by omega, .inl (by omega)⟩, by omega⟩

end Fields

/-! ## Packing -/

section Packed

variable (s : Sign) (exponent : BitVec 11) (mantissa : BitVec 52)

theorem exponentField_pack :
    exponentField (packComponents Format.binary64 s exponent mantissa) =
      exponent.toNat :=
  congrArg BitVec.toNat unpackExponent_packComponents

theorem mantissaField_pack :
    mantissaField (packComponents Format.binary64 s exponent mantissa) =
      mantissa.toNat :=
  congrArg BitVec.toNat unpackMantissa_packComponents

theorem signOf_pack :
    signOf (packComponents Format.binary64 s exponent mantissa) = s := by
  rw [signOf, unpackSign_packComponents, Sign.ofBitVec_toBitVec]

end Packed

theorem unpack_pack_zero (s : Sign) :
    unpack Format.binary64 (UnpackedFloat.pack Format.binary64 (.zero s)) =
      .zero s := by
  cases s <;> rfl

theorem unpack_pack_infinity (s : Sign) :
    unpack Format.binary64 (UnpackedFloat.pack Format.binary64 (.infinity s)) =
      .infinity s := by
  cases s <;> rfl

/-- A number whose exponent is not too large fits into the fields. -/
theorem unpack_pack_finite {m : Nat} {e : Int} (s : Sign) (h : Canonical m e)
    (he : e ≤ 971) :
    unpack Format.binary64
      (UnpackedFloat.pack Format.binary64 (.finite s m e h.pos)) =
      .finite s m e h.pos := by
  obtain ⟨hpos, hlt, hleast, hfull⟩ := h
  have hbias : (Format.binary64.exponentBias : Int) = 1023 := rfl
  have hbits : Format.binary64.mantissaBits = 53 := rfl
  rw [UnpackedFloat.pack]
  simp only [hbias, hbits]
  rw [if_neg (by omega)]
  by_cases hnormal : 2 ^ 52 ≤ m
  · have hlow := (Nat.le_log2 hpos.ne').mpr hnormal
    have hhigh := (Nat.log2_lt hpos.ne').mpr hlt
    rw [if_pos (by omega)]
    have hexponent : (BitVec.ofNat 11 (e + 1023 + (52 : Nat)).toNat).toNat =
        (e + 1075).toNat := by
      rw [BitVec.toNat_ofNat]
      omega
    have hmantissa : (BitVec.ofNat 52 m).toNat = m - 2 ^ 52 := by
      rw [BitVec.toNat_ofNat]
      omega
    rw [unpack_normal (by rw [exponentField_pack, hexponent]; omega)
      (by rw [exponentField_pack, hexponent]; omega), signOf_pack]
    refine finite_congr _ _ ?_ ?_
    · rw [mantissaField_pack, hmantissa]
      omega
    · rw [exponentField_pack, hexponent]
      omega
  · have hhigh := (Nat.log2_lt hpos.ne').mpr (not_le.mp hnormal)
    have hmantissa : (BitVec.ofNat 52 m).toNat = m := by
      rw [BitVec.toNat_ofNat]
      omega
    rw [if_neg (by omega), unpack_subnormal (by rw [exponentField_pack]; rfl)
      (by rw [mantissaField_pack, hmantissa]; exact hpos), signOf_pack]
    refine finite_congr _ _ ?_ ?_
    · rw [mantissaField_pack, hmantissa]
    · omega

/-- A larger exponent is the field of infinity. -/
theorem unpack_pack_overflow {m : Nat} {e : Int} (s : Sign) (hm : 0 < m)
    (he : 971 < e) :
    unpack Format.binary64
      (UnpackedFloat.pack Format.binary64 (.finite s m e hm)) =
      .infinity s := by
  have hbias : (Format.binary64.exponentBias : Int) = 1023 := rfl
  rw [UnpackedFloat.pack]
  simp only [hbias]
  rw [if_pos (by omega)]
  exact unpack_pack_infinity s

/-! ## The parts of a double -/

theorem value?_finite (negative : Bool) (m : Nat) (e : Int) :
    (Binary64.finite negative m e).value? =
      some (if negative then -((m : Rat) * 2 ^ e) else m * 2 ^ e) := by
  have hfraction : ((fraction m e).1 : Rat) / (fraction m e).2 = m * 2 ^ e := by
    rw [fraction]
    split
    next h =>
      rw [Nat.pow_eq]
      push_cast
      rw [← zpow_natCast, Int.toNat_of_nonneg h, div_one]
    next h =>
      rw [Nat.pow_eq]
      push_cast
      rw [← zpow_natCast, Int.toNat_of_nonneg (by omega), zpow_neg,
        div_inv_eq_mul]
  rw [value?]
  simp only [Rat.mkRat_eq_div]
  rw [← hfraction]
  cases negative
  · simp
  · simp [neg_div]

theorem mantissaField_eq (x : Float) :
    (x.toBits &&& 0xfffffffffffff).toNat =
      mantissaField x.toModel.toBits.toBitVec := by
  show (x.toModel.toBits &&& 0xfffffffffffff).toNat = _
  generalize x.toModel.toBits = bits
  rw [UInt64.toNat_and, mantissaField, unpackMantissa, BitVec.toNat_cast,
    BitVec.extractLsb_toNat]
  have hmask : (0xfffffffffffff : UInt64).toNat = 2 ^ 52 - 1 := rfl
  rw [hmask, Nat.and_two_pow_sub_one_eq_mod]
  simp

theorem exponentField_eq (x : Float) :
    (x.toBits >>> 52 &&& 0x7ff).toNat =
      exponentField x.toModel.toBits.toBitVec := by
  show (x.toModel.toBits >>> 52 &&& 0x7ff).toNat = _
  generalize x.toModel.toBits = bits
  rw [UInt64.toNat_and, exponentField, unpackExponent, BitVec.toNat_cast,
    BitVec.extractLsb_toNat]
  have hmask : (0x7ff : UInt64).toNat = 2 ^ 11 - 1 := rfl
  rw [hmask, Nat.and_two_pow_sub_one_eq_mod, UInt64.toNat_shiftRight]
  simp

/-- Whether a sign is that of numbers below zero. -/
def isNegative : Sign → Bool
  | .negative => true
  | .positive => false

theorem isNegative_signOf (x : Float) :
    isNegative (signOf x.toModel.toBits.toBitVec) = (x.toBits >>> 63 == 1) := by
  show _ = (x.toModel.toBits >>> 63 == 1)
  generalize x.toModel.toBits = bits
  have hlt := bits.toNat_lt
  have hone : (1 : UInt64).toNat = 1 := rfl
  have hnone : (0#1).toNat = 0 := rfl
  have hword : (bits >>> 63).toNat = bits.toNat / 2 ^ 63 := by
    rw [UInt64.toNat_shiftRight]
    simp [Nat.shiftRight_eq_div_pow]
  have hbit : (@unpackSign Format.binary64 bits.toBitVec).toNat =
      (bits >>> 63).toNat := by
    rw [unpackSign, BitVec.toNat_cast, BitVec.extractLsb_toNat, hword]
    simp [Nat.shiftRight_eq_div_pow]
    omega
  rw [signOf, Sign.ofBitVec]
  split
  next hzero =>
    rw [← BitVec.toNat_inj, hbit] at hzero
    exact (beq_eq_false_iff_ne.mpr fun h => by rw [h] at hzero; omega).symm
  next hzero =>
    rw [← BitVec.toNat_inj, hbit] at hzero
    refine (beq_iff_eq.mpr (UInt64.toNat_inj.mp ?_)).symm
    omega

/-- The parts of an unpacked double. -/
def ofUnpacked : UnpackedFloat → Binary64
  | .notANumber => .nan
  | .infinity s => .infinite (isNegative s)
  | .zero s => .finite (isNegative s) 0 (-1074)
  | .finite s m e _ => .finite (isNegative s) m e

/-- The parts read off the bits are those that the operations on doubles work
with. -/
theorem ofFloat_eq (x : Float) : ofFloat x = ofUnpacked x.toModel.unpack := by
  show _ =
    ofUnpacked (UnpackedFloat.unpack Format.binary64 x.toModel.toBits.toBitVec)
  rw [ofFloat]
  simp only [mantissaField_eq, exponentField_eq, ← isNegative_signOf]
  generalize x.toModel.toBits.toBitVec = b
  have hlt := @exponentField_lt b
  obtain hlast | hnormal : exponentField b = 2047 ∨
    exponentField b < 2047 := by omega
  · rw [if_pos hlast]
    by_cases hzero : mantissaField b = 0
    · rw [if_pos hzero, unpack_infinite hlast hzero]
      rfl
    · rw [if_neg hzero, unpack_nan hlast hzero]
      rfl
  · rw [if_neg hnormal.ne]
    obtain hfirst | hpos := (exponentField b).eq_zero_or_pos
    · rw [if_pos hfirst]
      obtain hzero | hmantissa := (mantissaField b).eq_zero_or_pos
      · rw [unpack_zero hfirst hzero, hzero]
        rfl
      · rw [unpack_subnormal hfirst hmantissa]
        rfl
    · rw [if_neg hpos.ne', unpack_normal hpos hnormal]
      rfl

end ClockSync.Binary64
