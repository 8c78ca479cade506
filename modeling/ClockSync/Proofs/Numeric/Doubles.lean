import ClockSync.Proofs.Numeric.Packing

/-!
# The numbers that doubles stand for

A double that is not below zero stands for a fraction or for infinity (`Holds`),
and every such double stands for something (`holds_of_nonneg`). Doubles are
compared by their exponents first and then by their mantissas. Because all
places are used, that is the order of the numbers they stand for
(`Holds.lt_iff`, `Holds.le_iff`). A rounded number is put into 64 bits as it is,
or becomes infinite (`Rounds.packed`).
-/

namespace ClockSync.Binary64

open Float.Model Float.Model.UnpackedFloat

/-- The numbers that doubles which are not below zero stand for. Infinity is
above all others. -/
inductive Stands : UnpackedFloat → WithTop Rat → Prop where
  | zero (s : Sign) : Stands (.zero s) 0
  | finite {m : Nat} {e : Int} (h : Canonical m e) (he : e ≤ 971) :
    Stands (.finite .positive m e h.pos) ↑((m : Rat) * 2 ^ e)
  | infinity : Stands (.infinity .positive) ⊤

/-- The double `x` is not below zero and stands for `v`. -/
def Holds (x : Float) (v : WithTop Rat) : Prop := Stands x.toModel.unpack v

/-! ## Order -/

/-- A larger exponent makes a larger number: with it all places are used. -/
theorem Canonical.lt_of_exponent_lt {m n : Nat} {e f : Int} (h : Canonical m e)
    (h' : Canonical n f) (hlt : e < f) : (m : Rat) * 2 ^ e < n * 2 ^ f := by
  have hleast := h.le
  calc (m : Rat) * 2 ^ e < 2 ^ (53 + e) := h.value_lt
    _ ≤ 2 ^ (52 + f) := zpow_le_zpow_right₀ (by norm_num) (by omega)
    _ ≤ n * 2 ^ f := h'.le_value (by omega)

/-- Comparing the exponents and then the mantissas compares the numbers. -/
theorem Canonical.compare_eq {m n : Nat} {e f : Int} (h : Canonical m e)
    (h' : Canonical n f) :
    (compare e f).then (compare m n) =
      compare ((m : Rat) * 2 ^ e) (n * 2 ^ f) := by
  obtain hlt | rfl | hgt := lt_trichotomy e f
  · rw [compare_lt_iff_lt.mpr hlt,
      compare_lt_iff_lt.mpr (h.lt_of_exponent_lt h' hlt)]
    rfl
  · have hmono : StrictMono fun k : Nat => (k : Rat) * 2 ^ e := fun _ _ hlt =>
      mul_lt_mul_of_pos_right (by exact_mod_cast hlt) (two_zpow_pos e)
    rw [compare_eq_iff_eq.mpr rfl, ← cmp_eq_compare, ← cmp_eq_compare]
    exact (hmono.cmp_map_eq m n).symm
  · rw [compare_gt_iff_gt.mpr hgt,
      compare_gt_iff_gt.mpr (h'.lt_of_exponent_lt h hgt)]
    rfl

theorem Stands.compare_eq {a b : UnpackedFloat} {p q : WithTop Rat}
    (ha : Stands a p) (hb : Stands b q) : a.compare b = some (compare p q) := by
  cases ha with
  | zero s =>
    cases hb with
    | zero s' => exact congrArg some (compare_eq_iff_eq.mpr rfl).symm
    | finite h' he' =>
      exact congrArg some
        (compare_lt_iff_lt.mpr (by exact_mod_cast h'.value_pos)).symm
    | infinity =>
      exact congrArg some (compare_lt_iff_lt.mpr (WithTop.coe_lt_top 0)).symm
  | finite h he =>
    cases hb with
    | zero s' =>
      exact congrArg some
        (compare_gt_iff_gt.mpr (by exact_mod_cast h.value_pos)).symm
    | finite h' he' =>
      refine congrArg some ?_
      rw [h.compare_eq h', ← cmp_eq_compare, ← cmp_eq_compare]
      exact (WithTop.coe_strictMono.cmp_map_eq _ _).symm
    | infinity =>
      exact congrArg some (compare_lt_iff_lt.mpr (WithTop.coe_lt_top _)).symm
  | infinity =>
    cases hb with
    | zero s' =>
      exact congrArg some (compare_gt_iff_gt.mpr (WithTop.coe_lt_top 0)).symm
    | finite h' he' =>
      exact congrArg some (compare_gt_iff_gt.mpr (WithTop.coe_lt_top _)).symm
    | infinity => exact congrArg some (compare_eq_iff_eq.mpr rfl).symm

theorem Stands.nonneg {u : UnpackedFloat} {p : WithTop Rat} (h : Stands u p) :
    0 ≤ p := by
  cases h with
  | zero s => exact le_rfl
  | finite h he => exact_mod_cast h.value_pos.le
  | infinity => exact le_top

theorem Stands.isFinite_iff {u : UnpackedFloat} {p : WithTop Rat}
    (h : Stands u p) :
    u.isFinite = true ↔ p ≠ ⊤ := by
  cases h with
  | zero s => exact iff_of_true rfl WithTop.zero_ne_top
  | finite h he => exact iff_of_true rfl WithTop.coe_ne_top
  | infinity => exact iff_of_false Bool.false_ne_true (not_not.mpr rfl)

/-! ## Into 64 bits -/

/-- A double stands for a number that rounding keeps. -/
theorem Stands.nearest_eq {u : UnpackedFloat} {v : WithTop Rat}
    (h : Stands u v) :
    nearest v = v := by
  cases h with
  | zero s =>
    exact (Representable.natCast (n := 0) (by norm_num)).nearest_eq limit_pos
  | finite h he => exact h.representable.nearest_eq (h.lt_limit he)
  | infinity => rfl

@[simp] theorem nearest_zero : nearest ((0 : Rat) : WithTop Rat) = 0 :=
  Stands.nearest_eq (.zero .positive)

/-- What stands for a fraction is a zero or has a mantissa. -/
theorem Stands.coe_cases {u : UnpackedFloat} {q : Rat} (h : Stands u q) :
    (∃ s, u = .zero s ∧ q = 0) ∨
      ∃ m e, ∃ h : Canonical m e, u = .finite .positive m e h.pos ∧
        e ≤ 971 ∧ q = m * 2 ^ e := by
  generalize hv : (q : WithTop Rat) = v at h
  cases h with
  | zero s => exact .inl ⟨s, rfl, by exact_mod_cast hv⟩
  | finite h he => exact .inr ⟨_, _, h, rfl, he, by exact_mod_cast hv⟩
  | infinity => exact absurd hv WithTop.coe_ne_top

/-- A double that is put into 64 bits. -/
theorem Stands.packed {u : UnpackedFloat} {v : WithTop Rat} (h : Stands u v) :
    Holds (.ofModel (.pack u)) v := by
  show Stands (UnpackedFloat.unpack Format.binary64
    (UnpackedFloat.pack Format.binary64 u)) v
  cases h with
  | zero s =>
    rw [unpack_pack_zero]
    exact .zero s
  | finite h he =>
    rw [unpack_pack_finite _ h he]
    exact .finite h he
  | infinity =>
    rw [unpack_pack_infinity]
    exact .infinity

/-- A rounded number is put into 64 bits. -/
theorem Rounds.packed {u : UnpackedFloat} {q : Rat} (h : Rounds .positive q u) :
    Holds (.ofModel (.pack u)) (nearest q) := by
  show Stands (UnpackedFloat.unpack Format.binary64
    (UnpackedFloat.pack Format.binary64 u)) _
  cases h with
  | zero h =>
    rw [unpack_pack_zero, nearest_coe_of_lt (h ▸ limit_pos), h]
    exact .zero .positive
  | finite hm hcanonical h =>
    obtain hle | hlt := le_or_gt _ (971 : Int)
    · rw [unpack_pack_finite _ hcanonical hle,
        nearest_coe_of_lt (h ▸ hcanonical.lt_limit hle), h]
      exact .finite hcanonical hle
    · rw [unpack_pack_overflow _ hm hlt,
        nearest_coe_of_le (h ▸ hcanonical.limit_le hlt)]
      exact .infinity

/-! ## Comparisons -/

theorem holds_zero : Holds 0 0 := Stands.zero .positive

theorem lt_iff_compare {x y : Float} :
    x < y ↔ x.toModel.unpack.compare y.toModel.unpack = some .lt := by
  have hmodel : x < y ↔
      (x.toModel.unpack.compare y.toModel.unpack == some .lt) = true :=
    decide_eq_true_iff
  rw [hmodel, beq_iff_eq]

theorem le_iff_compare {x y : Float} :
    x ≤ y ↔ ∃ o, x.toModel.unpack.compare y.toModel.unpack = some o ∧
      o ≠ .gt := by
  have hmodel : x ≤ y ↔
      (x.toModel.unpack.compare y.toModel.unpack).any (·.isLE) = true :=
    decide_eq_true_iff
  simp only [hmodel, Option.any_eq_true, Ordering.isLE_iff_ne_gt]

/-- A double that is not below zero stands for a number or for infinity. -/
theorem holds_of_nonneg {x : Float} (h : 0 ≤ x) : ∃ v, Holds x v := by
  obtain ⟨o, ho, hle⟩ := le_iff_compare.mp h
  have hzero : (0 : Float).toModel.unpack = .zero .positive := rfl
  rw [hzero] at ho
  unfold Holds
  cases hx : x.toModel.unpack with
  | notANumber =>
    rw [hx] at ho
    cases ho
  | infinity s =>
    rw [hx] at ho
    cases s with
    | positive => exact ⟨_, .infinity⟩
    | negative =>
      cases ho
      exact absurd rfl hle
  | zero s => exact ⟨_, .zero s⟩
  | finite s m e hm =>
    rw [hx] at ho
    obtain ⟨hcanonical, he⟩ := unpack_finite hx
    cases s with
    | positive => exact ⟨_, .finite hcanonical he⟩
    | negative =>
      cases ho
      exact absurd rfl hle

namespace Holds

variable {x y : Float} {p q : WithTop Rat}

theorem lt_iff (hx : Holds x p) (hy : Holds y q) : x < y ↔ p < q := by
  rw [lt_iff_compare, Stands.compare_eq hx hy, Option.some_inj,
    compare_lt_iff_lt]

theorem le_iff (hx : Holds x p) (hy : Holds y q) : x ≤ y ↔ p ≤ q := by
  rw [le_iff_compare, Stands.compare_eq hx hy, ← compare_le_iff_le]
  simp

theorem nearest_eq (hx : Holds x p) : nearest p = p := Stands.nearest_eq hx

theorem nonneg (hx : Holds x p) : 0 ≤ x :=
  (holds_zero.le_iff hx).mpr (Stands.nonneg hx)

theorem isFinite_iff (hx : Holds x p) : x.isFinite ↔ p ≠ ⊤ :=
  Stands.isFinite_iff hx

end Holds

/-- A finite double above zero stands for a fraction above zero. -/
theorem holds_of_pos {x : Float} (h : 0 < x) (hfinite : x.isFinite) :
    ∃ q : Rat, 0 < q ∧ Holds x q := by
  obtain ⟨v, hv⟩ :=
    holds_of_nonneg (le_iff_compare.mpr ⟨.lt, lt_iff_compare.mp h, by decide⟩)
  obtain ⟨q, rfl⟩ := WithTop.ne_top_iff_exists.mp (hv.isFinite_iff.mp hfinite)
  exact ⟨q, by exact_mod_cast (holds_zero.lt_iff hv).mp h, hv⟩

/-! ## Signs -/

theorem unpack_neg (x : Float) :
    (-x).toModel.unpack = x.toModel.unpack.neg := by
  show UnpackedFloat.unpack _
    (UnpackedFloat.pack Format.binary64 x.toModel.unpack.neg) = _
  cases hx : x.toModel.unpack with
  | notANumber => rfl
  | infinity s => exact unpack_pack_infinity (-s)
  | zero s => exact unpack_pack_zero (-s)
  | finite s m e hm =>
    obtain ⟨hcanonical, he⟩ := unpack_finite hx
    exact unpack_pack_finite (-s) hcanonical he

theorem unpack_abs (x : Float) :
    x.abs.toModel.unpack = x.toModel.unpack.abs := by
  show UnpackedFloat.unpack _
    (UnpackedFloat.pack Format.binary64 x.toModel.unpack.abs) = _
  cases hx : x.toModel.unpack with
  | notANumber => rfl
  | infinity s => exact unpack_pack_infinity .positive
  | zero s => exact unpack_pack_zero .positive
  | finite s m e hm =>
    obtain ⟨hcanonical, he⟩ := unpack_finite hx
    exact unpack_pack_finite .positive hcanonical he

/-- A finite size stands for a fraction. -/
theorem holds_abs {x : Float} (h : x.abs.isFinite) :
    ∃ q : Rat, Holds x.abs q := by
  have hfinite : x.abs.toModel.unpack.isFinite = true := h
  unfold Holds
  rw [unpack_abs] at hfinite ⊢
  cases hx : x.toModel.unpack with
  | notANumber => rw [hx] at hfinite; cases hfinite
  | infinity s => rw [hx] at hfinite; cases hfinite
  | zero s => exact ⟨0, .zero .positive⟩
  | finite s m e hm =>
    obtain ⟨hcanonical, he⟩ := unpack_finite hx
    exact ⟨_, .finite hcanonical he⟩

/-- The number that the parts of a double make is the one it stands for. -/
theorem Holds.value?_eq {x : Float} {q : Rat} (h : Holds x q) :
    (ofFloat x).value? = some q := by
  rw [ofFloat_eq]
  obtain ⟨s, hx, rfl⟩ | ⟨m, e, h, hx, he, rfl⟩ := Stands.coe_cases h
  · rw [hx, ofUnpacked, value?_finite]
    simp
  · rw [hx, ofUnpacked, value?_finite]
    rfl

/-! ## Sizes -/

/-- The number that a finite double stands for, and zero for what is none. -/
def toRat (x : Float) : Rat := (ofFloat x).value?.getD 0

/-- A finite double that is not below zero. -/
def IsSize (x : Float) : Prop := Holds x (toRat x)

theorem Holds.toRat_eq {x : Float} {q : Rat} (h : Holds x q) : toRat x = q := by
  rw [toRat, h.value?_eq, Option.getD_some]

theorem Holds.isSize {x : Float} {q : Rat} (h : Holds x q) : IsSize x := by
  rw [IsSize, h.toRat_eq]
  exact h

theorem isSize_abs {x : Float} (h : x.abs.isFinite) : IsSize x.abs := by
  obtain ⟨q, hq⟩ := holds_abs h
  exact hq.isSize

namespace IsSize

variable {x y : Float}

theorem lt_iff (hx : IsSize x) (hy : IsSize y) : x < y ↔ toRat x < toRat y := by
  rw [Holds.lt_iff hx hy, WithTop.coe_lt_coe]

theorem le_iff (hx : IsSize x) (hy : IsSize y) : x ≤ y ↔ toRat x ≤ toRat y := by
  rw [Holds.le_iff hx hy, WithTop.coe_le_coe]

theorem toRat_nonneg (hx : IsSize x) : 0 ≤ toRat x := by
  exact_mod_cast Stands.nonneg hx

theorem representable (hx : IsSize x) : Representable (toRat x) := by
  obtain ⟨_, _, hzero⟩ | ⟨m, e, h, _, _, hvalue⟩ := Stands.coe_cases hx
  · rw [hzero]
    exact Representable.natCast (n := 0) (by norm_num)
  · rw [hvalue]
    exact h.representable

end IsSize

end ClockSync.Binary64
