import ClockSync.Proofs.Numeric.Doubles

/-!
# Arithmetic of doubles

Sums, products and quotients of doubles that are not below zero, and the doubles
made of whole numbers, stand for the exact result rounded (`Holds.add`,
`Holds.mul`, `Holds.div`, `holds_ofNat`). A whole number other than zero does
not become zero on the way (`ofInt_ne_zero`).
-/

namespace ClockSync.Binary64

open Float.Model Float.Model.UnpackedFloat

/-! ## Results of operations -/

theorem rounds_normalize {k : Int} (hk : 0 < k) (e : Int) (s : Sign) :
    Rounds .positive (k * 2 ^ e)
      (UnpackedFloat.normalize Format.binary64 k e s) := by
  rw [UnpackedFloat.normalize, compare_gt_iff_gt.mpr hk]
  have hrounds := rounds_round (m := k.toNat) (by omega) .positive e
  rwa [← Int.cast_natCast, Int.toNat_of_nonneg hk.le] at hrounds

theorem decreaseExponent_value {m : Nat} {e t : Int} (h : t ≤ e) :
    ((decreaseExponent m e t).1 : Rat) * 2 ^ t = m * 2 ^ e := by
  rw [decreaseExponent, Nat.shiftLeft_eq]
  push_cast
  rw [mul_assoc, ← zpow_natCast, ← zpow_add₀ (by norm_num)]
  congr 2
  omega

theorem decreaseExponent_pos {m : Nat} (e t : Int) (h : 0 < m) :
    0 < (decreaseExponent m e t).1 := by
  rw [decreaseExponent, Nat.shiftLeft_eq]
  positivity

/-- A product of two mantissas has no place behind the last one. -/
theorem Canonical.add_le_lastPlace {m n : Nat} {e f : Int} (h : Canonical m e)
    (h' : Canonical n f) : e + f ≤ lastPlace ((m * n : Nat) * 2 ^ (e + f)) := by
  have hpos : 0 < m * n := Nat.mul_pos h.pos h'.pos
  rw [lastPlace, log_eq hpos le_rfl (lt_add_one _)]
  by_cases hfull : 2 ^ 52 ≤ m * n
  · have hlog := (Nat.le_log2 hpos.ne').mpr hfull
    omega
  · have hm : m ≤ m * n := Nat.le_mul_of_pos_right m h'.pos
    have hn : n ≤ m * n := Nat.le_mul_of_pos_left n h.pos
    have := h.full
    have := h'.full
    omega

namespace Holds

variable {x y : Float} {p q : Rat} {v w : WithTop Rat}

/-! ## Sums -/

theorem add (hx : Holds x v) (hy : Holds y w) :
    Holds (x + y) (nearest (v + w)) := by
  show Holds
    (.ofModel (.pack (UnpackedFloat.add _ x.toModel.unpack y.toModel.unpack))) _
  have hxv := hx.nearest_eq
  have hyw := hy.nearest_eq
  unfold Holds at hx hy
  generalize x.toModel.unpack = a at hx ⊢
  generalize y.toModel.unpack = b at hy ⊢
  cases hx with
  | zero s =>
    rw [zero_add, hyw]
    cases hy with
    | zero s' =>
      show Holds
        (.ofModel (.pack (if s == s' then .zero s else .zero .positive))) 0
      split
      · exact (Stands.zero s).packed
      · exact (Stands.zero .positive).packed
    | finite h he => exact (Stands.finite h he).packed
    | infinity => exact Stands.infinity.packed
  | @finite m e h he =>
    cases hy with
    | zero s' =>
      rw [add_zero, hxv]
      exact (Stands.finite h he).packed
    | @finite n f h' he' =>
      show Holds (.ofModel
        (.pack (UnpackedFloat.normalize _ ((decreaseExponent m e (min e f)).1 +
        (decreaseExponent n f (min e f)).1) (min e f) .positive))) _
      have hpos := decreaseExponent_pos e (min e f) h.pos
      have hrounds := rounds_normalize
        (k := (decreaseExponent m e (min e f)).1 +
          (decreaseExponent n f (min e f)).1)
        (by omega) (min e f) .positive
      push_cast at hrounds
      rw [add_mul, decreaseExponent_value (min_le_left e f),
        decreaseExponent_value (min_le_right e f)] at hrounds
      exact hrounds.packed
    | infinity =>
      rw [WithTop.add_top]
      exact Stands.infinity.packed
  | infinity =>
    rw [WithTop.top_add]
    cases hy with
    | zero s' => exact Stands.infinity.packed
    | finite h he => exact Stands.infinity.packed
    | infinity => exact Stands.infinity.packed

/-! ## Products and quotients -/

theorem mul (hx : Holds x p) (hy : Holds y q) :
    Holds (x * y) (nearest ↑(p * q)) := by
  show Holds
    (.ofModel (.pack (UnpackedFloat.mul _ x.toModel.unpack y.toModel.unpack))) _
  obtain ⟨s, ha, rfl⟩ | ⟨m, e, h, ha, he, rfl⟩ := Stands.coe_cases hx <;>
    obtain ⟨s', hb, rfl⟩ | ⟨n, f, h', hb, he', rfl⟩ := Stands.coe_cases hy <;>
    rw [ha, hb]
  · rw [mul_zero, nearest_zero]
    exact (Stands.zero _).packed
  · rw [zero_mul, nearest_zero]
    exact (Stands.zero _).packed
  · rw [mul_zero, nearest_zero]
    exact (Stands.zero _).packed
  · show Holds (.ofModel
      (.pack (roundWithAccuracy _ .positive (m * n) (e + f) .exact))) _
    have hvalue : ((m * n : Nat) : Rat) * 2 ^ (e + f) =
        m * 2 ^ e * (n * 2 ^ f) := by
      rw [zpow_add₀ (by norm_num)]
      push_cast
      ring
    have hrounds :=
      rounds_exact (Nat.mul_pos h.pos h'.pos) .positive (h.add_le_lastPlace h')
    rw [hvalue] at hrounds
    exact hrounds.packed

theorem div (hx : Holds x p) (hy : Holds y q) (hq : q ≠ 0) :
    Holds (x / y) (nearest ↑(p / q)) := by
  show Holds
    (.ofModel (.pack (UnpackedFloat.div _ x.toModel.unpack y.toModel.unpack))) _
  obtain ⟨s', hb, rfl⟩ | ⟨n, f, h', hb, he', rfl⟩ := Stands.coe_cases hy
  · exact absurd rfl hq
  · rw [hb]
    obtain ⟨s, ha, rfl⟩ | ⟨m, e, h, ha, he, rfl⟩ := Stands.coe_cases hx
    · rw [ha, zero_div, nearest_zero]
      exact (Stands.zero _).packed
    · rw [ha]
      exact (rounds_div h.pos h'.pos .positive).packed

end Holds

/-! ## Whole numbers -/

/-- The bits of one. -/
theorem holds_one : Holds (Float.ofBits 0x3FF0000000000000) (1 : Rat) := by
  have hcanonical : Canonical (2 ^ 52) (-52) :=
    ⟨by norm_num, by norm_num, by norm_num, .inl le_rfl⟩
  have hpacked := (Stands.finite hcanonical (by norm_num)).packed
  have hone : (((2 ^ 52 : Nat) : Rat)) * 2 ^ (-52 : Int) = 1 := by norm_num
  rw [hone] at hpacked
  have hunpack : UnpackedFloat.unpack Format.binary64
      (0x3FF0000000000000 : UInt64).toBitVec =
      .finite .positive (2 ^ 52) (-52) (by norm_num) :=
    (unpack_normal (by decide) (by decide)).trans
      (finite_congr _ _ (by decide) (by decide))
  show Holds (.ofModel (.pack (UnpackedFloat.unpack Format.binary64
    (0x3FF0000000000000 : UInt64).toBitVec))) _
  rwa [hunpack]

theorem holds_toFloat (n : UInt64) :
    Holds n.toFloat (nearest (n.toNat : Rat)) := by
  show Holds (.ofModel (.pack
    (UnpackedFloat.normalize Format.binary64 (n.toNat : Int) 0 .positive))) _
  obtain hzero | hpos := n.toNat.eq_zero_or_pos
  · simp only [hzero, Nat.cast_zero, nearest_zero]
    exact (Stands.zero .positive).packed
  · have hrounds := rounds_normalize (k := n.toNat) (by omega) 0 .positive
    rw [zpow_zero, mul_one] at hrounds
    exact hrounds.packed

theorem lt_limit_of_lt {n : Nat} (h : n < 2 ^ 53) : (n : Rat) < limit := by
  calc (n : Rat) < 2 ^ (53 : Int) := by exact_mod_cast h
    _ ≤ limit := zpow_le_zpow_right₀ (by norm_num) (by norm_num)

/-- A whole number becomes the nearest double. A small one is multiplied by one,
of a large one all places are taken before it is rounded. -/
theorem holds_ofNat (n : Nat) : Holds (Float.ofNat n) (nearest (n : Rat)) := by
  show Holds (Float.ofScientific n false 0) _
  rw [Float.ofScientific]
  by_cases hsmall : n < 2 ^ 53
  · have hkept : nearest (n : Rat) = (n : Rat) :=
      (Representable.natCast hsmall).nearest_eq (lt_limit_of_lt hsmall)
    have hword : n.toUInt64.toNat = n := Nat.mod_eq_of_lt (by omega)
    have hn := holds_toFloat n.toUInt64
    rw [hword, hkept] at hn
    have hproduct := hn.mul holds_one
    rw [mul_one] at hproduct
    rw [dif_pos ⟨hsmall, Nat.zero_le _⟩]
    exact hproduct
  · have hpos : 0 < n := by omega
    rw [dif_neg (fun h => hsmall h.1)]
    show Holds
      (.ofModel (.pack (UnpackedFloat.ofScientific Format.binary64 n 0))) _
    have hbits : Format.binary64.mantissaBits = 53 := rfl
    have hexponent : (2 : Int) ^ Format.binary64.exponentBits = 2048 := rfl
    rw [UnpackedFloat.ofScientific, dif_neg hpos.ne', hexponent,
      if_neg (by norm_num), if_neg (by omega), if_pos le_rfl]
    simp only [UnpackedFloat.mul, hbits]
    have hvalue :
        ((n <<< 53 * 10 ^ (0 : Int).toNat : Nat) : Rat) *
          2 ^ (-((53 : Nat) : Int) + 0) = n := by
      rw [Nat.shiftLeft_eq]
      norm_num
      ring
    have hall : 0 < n <<< 53 * 10 ^ (0 : Int).toNat := by
      rw [Nat.shiftLeft_eq]
      positivity
    have hlog : 0 ≤ Int.log 2 (n : Rat) := le_log (by exact_mod_cast hpos)
    have hrounds := rounds_exact hall .positive (e := -((53 : Nat) : Int) + 0)
      (by rw [hvalue, lastPlace]; omega)
    rw [hvalue] at hrounds
    exact hrounds.packed

/-! ## Zero -/

theorem beq_zero_iff {x : Float} :
    (x == 0) = true ↔ ∃ s, x.toModel.unpack = .zero s := by
  have hmodel :
      (x == 0) = (x.toModel.unpack.compare (.zero .positive) == some .eq) := rfl
  rw [hmodel, beq_iff_eq]
  cases x.toModel.unpack with
  | notANumber => exact iff_of_false (by rintro ⟨⟩) (by rintro ⟨_, ⟨⟩⟩)
  | infinity s =>
    cases s <;> exact iff_of_false (by rintro ⟨⟩) (by rintro ⟨_, ⟨⟩⟩)
  | zero s => exact iff_of_true rfl ⟨s, rfl⟩
  | finite s m e hm =>
    cases s <;> exact iff_of_false (by rintro ⟨⟩) (by rintro ⟨_, ⟨⟩⟩)

theorem ofNat_ne_zero {n : Nat} (h : 0 < n) (s : Sign) :
    (Float.ofNat n).toModel.unpack ≠ .zero s := by
  intro hzero
  have hone : nearest (1 : Rat) = (1 : Rat) := holds_one.nearest_eq
  have hle : nearest (1 : Rat) ≤ nearest (n : Rat) :=
    nearest_mono (by norm_num) (by exact_mod_cast h)
  have hn : Stands (.zero s) (nearest (n : Rat)) := hzero ▸ holds_ofNat n
  rw [hone] at hle
  generalize nearest (n : Rat) = v at hle hn
  cases hn
  exact absurd hle (by norm_num)

/-- A whole number other than zero does not become zero. -/
theorem ofInt_ne_zero {n : Int} (h : n ≠ 0) : (Float.ofInt n == 0) = false := by
  rw [Bool.eq_false_iff, ne_eq, beq_zero_iff]
  rintro ⟨s, hs⟩
  cases n with
  | ofNat k =>
    exact ofNat_ne_zero (Nat.pos_of_ne_zero (by rintro rfl; exact h rfl)) s hs
  | negSucc k =>
    have hneg : (-Float.ofNat (k + 1)).toModel.unpack = .zero s := hs
    rw [unpack_neg] at hneg
    cases hk : (Float.ofNat (k + 1)).toModel.unpack with
    | zero s' => exact ofNat_ne_zero k.succ_pos s' hk
    | _ => rw [hk] at hneg; cases hneg

/-! ## What is no number -/

section NotANumber

variable {x y : Float}

theorem isNaN_iff : x.isNaN = true ↔ x.toModel.unpack = .notANumber := by
  have hmodel : x.isNaN = x.toModel.unpack.isNaN := rfl
  rw [hmodel]
  cases x.toModel.unpack <;> simp [UnpackedFloat.isNaN]

theorem unpack_pack_notANumber :
    UnpackedFloat.unpack Format.binary64
      (UnpackedFloat.pack Format.binary64 .notANumber) =
      .notANumber := rfl

/-- What is no number is below none, and none is below it. -/
theorem not_isNaN_of_le (h : x ≤ y) : x.isNaN = false ∧ y.isNaN = false := by
  obtain ⟨o, ho, -⟩ := le_iff_compare.mp h
  refine ⟨?_, ?_⟩ <;> rw [Bool.eq_false_iff, ne_eq, isNaN_iff] <;>
    intro hnan <;> rw [hnan] at ho
  · cases ho
  · cases hx : x.toModel.unpack <;> rw [hx] at ho <;> cases ho

theorem le_of_lt (h : x < y) : x ≤ y :=
  le_iff_compare.mpr ⟨.lt, lt_iff_compare.mp h, by decide⟩

theorem not_lt_of_isNaN_left (h : x.isNaN = true) (y : Float) : ¬ x < y := by
  intro hlt
  rw [(not_isNaN_of_le (le_of_lt hlt)).1] at h
  cases h

theorem not_lt_of_isNaN_right (x : Float) (h : y.isNaN = true) : ¬ x < y := by
  intro hlt
  rw [(not_isNaN_of_le (le_of_lt hlt)).2] at h
  cases h

theorem isNaN_abs (h : x.isNaN = true) : x.abs.isNaN = true := by
  rw [isNaN_iff] at h ⊢
  rw [unpack_abs, h]
  rfl

theorem isNaN_div_left (h : x.isNaN = true) (y : Float) :
    (x / y).isNaN = true := by
  rw [isNaN_iff] at h ⊢
  show UnpackedFloat.unpack _ (UnpackedFloat.pack Format.binary64
    (UnpackedFloat.div _ x.toModel.unpack y.toModel.unpack)) = _
  rw [h]
  exact unpack_pack_notANumber

theorem isNaN_add_right (x : Float) (h : y.isNaN = true) :
    (x + y).isNaN = true := by
  rw [isNaN_iff] at h ⊢
  show UnpackedFloat.unpack _ (UnpackedFloat.pack Format.binary64
    (UnpackedFloat.add _ x.toModel.unpack y.toModel.unpack)) = _
  rw [h]
  cases x.toModel.unpack <;> exact unpack_pack_notANumber

end NotANumber

end ClockSync.Binary64
