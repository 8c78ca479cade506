import ClockSync.Proofs.Numeric.Rounding

/-!
# Mantissas

How doubles are rounded when they are computed. The exact result of an operation
is a mantissa and an exponent, and if the division did not come out even, two
bits for the places that are missing (`Keeps`). The mantissa is moved to the
right until its exponent is that of the last place, then rounded, and moved once
more if it has become too long. That gives the double nearest to the exact
result (`rounds_roundWithAccuracy`), provided that the exponent was not above
the last place to begin with. Where places are missing that the rounding would
need, no later step brings them back, so this is what has to be shown for each
operation.
-/

namespace ClockSync.Binary64

open Float.Model Float.Model.UnpackedFloat

/-! ## Places that are cut off -/

/-- A mantissa is what is left of a number whose places after the point were cut
off. Two bits tell what these were: whether a half was among them, and whether
anything else was. -/
def Keeps : ExtendedMantissa → Rat → Prop
  | ⟨m, false, false⟩, q => q = m
  | ⟨m, false, true⟩, q => m < q ∧ q < m + 1 / 2
  | ⟨m, true, false⟩, q => q = m + 1 / 2
  | ⟨m, true, true⟩, q => m + 1 / 2 < q ∧ q < m + 1

namespace Keeps

variable {em : ExtendedMantissa} {q : Rat}

theorem mantissa_le (h : Keeps em q) : em.mantissa ≤ q := by
  obtain ⟨m, half, rest⟩ := em
  cases half <;> cases rest <;> simp only [Keeps] at h ⊢ <;> linarith

theorem lt_mantissa (h : Keeps em q) : q < em.mantissa + 1 := by
  obtain ⟨m, half, rest⟩ := em
  cases half <;> cases rest <;> simp only [Keeps] at h ⊢ <;> linarith

theorem floor_eq (h : Keeps em q) : ⌊q⌋ = em.mantissa :=
  Int.floor_eq_iff.mpr ⟨by exact_mod_cast h.mantissa_le,
    by exact_mod_cast h.lt_mantissa⟩

/-- The bits are enough to round to the nearest whole number. -/
theorem roundedMantissa_eq (h : Keeps em q) :
    (em.roundedMantissa : Int) = nearestEven q := by
  have hfloor := h.floor_eq
  unfold nearestEven
  rw [hfloor]
  obtain ⟨m, half, rest⟩ := em
  cases half <;> cases rest <;>
    simp only [Keeps, ExtendedMantissa.roundedMantissa,
      ExtendedMantissa.accuracy, Accuracy.roundToNearestEven,
      Int.cast_natCast] at h ⊢
  · rw [if_pos (by linarith)]
  · rw [if_pos (by linarith)]
  · rw [if_neg (by linarith), if_neg (by linarith)]
    push_cast
    rfl
  · rw [if_neg (by linarith), if_pos (by linarith)]
    push_cast
    rfl

theorem shiftRightOne (h : Keeps em q) : Keeps em.shiftRightOne (q / 2) := by
  obtain ⟨m, half, rest⟩ := em
  have hbit : m % 2 = 0 ∨ m % 2 = 1 := by omega
  have hm : (m : Rat) = 2 * (m / 2 : Nat) + (m % 2 : Nat) := by
    exact_mod_cast (Nat.div_add_mod m 2).symm
  obtain hbit | hbit := hbit <;> rw [hbit] at hm <;> push_cast at hm <;>
    cases half <;> cases rest <;>
    simp only [Keeps, ExtendedMantissa.shiftRightOne, hbit] at h ⊢ <;>
    simp <;> first | linarith | (constructor <;> linarith)

theorem shiftRight (h : Keeps em q) (n : Nat) :
    Keeps (em >>> n) (q / 2 ^ n) := by
  show Keeps (n.repeat ExtendedMantissa.shiftRightOne em) _
  induction n with
  | zero => simpa [Nat.repeat] using h
  | succ n ih =>
    rw [Nat.repeat, pow_succ, ← div_div]
    exact ih.shiftRightOne

end Keeps

/-! ## The last place of a mantissa -/

theorem targetExponent_eq (t : Int) :
    Format.binary64.targetExponent t = max (t - 53) (-1074) :=
  rfl

/-- The leading place of a number is that of its mantissa. -/
theorem log_eq {m : Nat} {x : Rat} (hm : 0 < m) (hle : m ≤ x) (hlt : x < m + 1)
    (e : Int) :
    Int.log 2 (x * 2 ^ e) = m.log2 + e := by
  have hscale := two_zpow_pos e
  have hx : 0 < x := lt_of_lt_of_le (by exact_mod_cast hm) hle
  refine le_antisymm (Int.lt_add_one_iff.mp (log_lt (mul_pos hx hscale) ?_))
    (le_log ?_)
  · rw [show (m.log2 : Int) + e + 1 =
      ((m.log2 + 1 : Nat) : Int) + e by push_cast; ring,
      zpow_add₀ (by norm_num), zpow_natCast]
    have hpow : m + 1 ≤ 2 ^ (m.log2 + 1) := Nat.lt_log2_self
    exact mul_lt_mul_of_pos_right (hlt.trans_le (by exact_mod_cast hpow)) hscale
  · rw [zpow_add₀ (by norm_num), zpow_natCast]
    have hpow : 2 ^ m.log2 ≤ m := Nat.log2_self_le hm.ne'
    exact mul_le_mul_of_nonneg_right (le_trans (by exact_mod_cast hpow) hle)
      hscale.le

/-- The exponent chosen for a mantissa is that of the last place, also if
nothing but cut off places is left. -/
theorem targetExponent_eq_lastPlace {m : Nat} {e : Int} {x : Rat} (hle : m ≤ x)
    (hlt : x < m + 1) (hx : 0 < x) (he : e ≤ lastPlace (x * 2 ^ e)) :
    Format.binary64.targetExponent (totalExponent m e) =
      lastPlace (x * 2 ^ e) := by
  rw [targetExponent_eq, totalExponent]
  obtain rfl | hm := m.eq_zero_or_pos
  · have hscale := two_zpow_pos e
    have hlog : Int.log 2 (x * 2 ^ e) < e := by
      refine log_lt (mul_pos hx hscale) ?_
      push_cast at hlt
      nlinarith
    have hzero : Nat.log2 0 = 0 := rfl
    rw [hzero]
    simp only [lastPlace] at he ⊢
    omega
  · rw [lastPlace, log_eq hm hle hlt]
    omega

/-! ## Rounded mantissas -/

/-- Two whole numbers that make a finite double: 53 places, all of them used
unless the last one is the least there is. -/
structure Canonical (m : Nat) (e : Int) : Prop where
  pos : 0 < m
  lt : m < 2 ^ 53
  le : -1074 ≤ e
  full : 2 ^ 52 ≤ m ∨ e = -1074

namespace Canonical

variable {m : Nat} {e : Int}

theorem value_pos (h : Canonical m e) : (0 : Rat) < m * 2 ^ e :=
  mul_pos (by exact_mod_cast h.pos) (two_zpow_pos e)

theorem value_lt (h : Canonical m e) : (m : Rat) * 2 ^ e < 2 ^ (53 + e) := by
  rw [zpow_add₀ (by norm_num)]
  exact mul_lt_mul_of_pos_right (by exact_mod_cast h.lt) (two_zpow_pos e)

theorem le_value (h : Canonical m e) (he : -1074 < e) :
    (2 : Rat) ^ (52 + e) ≤ m * 2 ^ e := by
  have hfull : 2 ^ 52 ≤ m := by
    have := h.full
    omega
  rw [zpow_add₀ (by norm_num)]
  exact mul_le_mul_of_nonneg_right (by exact_mod_cast hfull) (two_zpow_pos e).le

theorem representable (h : Canonical m e) : Representable (m * 2 ^ e) :=
  ⟨m, e, h.lt, h.le, rfl⟩

theorem lt_limit (h : Canonical m e) (he : e ≤ 971) :
    (m : Rat) * 2 ^ e < limit :=
  h.value_lt.trans_le (zpow_le_zpow_right₀ (by norm_num) (by omega))

theorem limit_le (h : Canonical m e) (he : 971 < e) :
    limit ≤ (m : Rat) * 2 ^ e :=
  le_trans (zpow_le_zpow_right₀ (by norm_num) (by omega))
    (h.le_value (by omega))

end Canonical

/-- What a rounded number is before it is put into 64 bits. -/
inductive Rounds (s : Sign) (q : Rat) : UnpackedFloat → Prop where
  | zero (h : rounded q = 0) : Rounds s q (.zero s)
  | finite {m : Nat} {e : Int} (hm : 0 < m) (hcanonical : Canonical m e)
      (h : rounded q = m * 2 ^ e) :
      Rounds s q (.finite s m e hm)

/-- Cutting off the places behind the last one and rounding what is left gives
the significand. -/
theorem shiftToTargetExponent_keeps {m : Nat} {e : Int} {accuracy : Accuracy}
    {x : Rat} (hkeeps : Keeps (.ofMantissaAndAccuracy m accuracy) x)
    (hx : 0 < x) (he : e ≤ lastPlace (x * 2 ^ e)) :
    ((shiftToTargetExponent Format.binary64 m e accuracy).1.roundedMantissa :
      Int) =
        significand (x * 2 ^ e) ∧
      (shiftToTargetExponent Format.binary64 m e accuracy).2 =
        lastPlace (x * 2 ^ e) := by
  have hmantissa :
      (ExtendedMantissa.ofMantissaAndAccuracy m accuracy).mantissa = m := by
    obtain _ | _ | _ | _ := accuracy <;> rfl
  have htarget : Format.binary64.targetExponent (totalExponent m e) =
      lastPlace (x * 2 ^ e) :=
    targetExponent_eq_lastPlace (hmantissa ▸ hkeeps.mantissa_le)
      (hmantissa ▸ hkeeps.lt_mantissa)
      hx he
  rw [shiftToTargetExponent, htarget, shiftToExponent, significand]
  generalize lastPlace (x * 2 ^ e) = t at he ⊢
  have hplace : e + ((t - e).toNat : Int) = t := by omega
  refine ⟨?_, hplace⟩
  rw [(hkeeps.shiftRight _).roundedMantissa_eq]
  congr 1
  rw [div_eq_div_iff (by positivity) (two_zpow_pos t).ne', mul_assoc,
    ← zpow_natCast, ← zpow_add₀ (by norm_num), hplace]

/-- A mantissa of at most 53 places stays as it is, and one that has just
reached the next power of two loses a place. -/
theorem shiftToTargetExponent_exact {k : Nat} {t : Int} (hk : k ≤ 2 ^ 53)
    (ht : -1074 ≤ t) :
    shiftToTargetExponent Format.binary64 k t .exact =
      if k = 2 ^ 53 then (⟨2 ^ 52, false, false⟩, t + 1)
      else (⟨k, false, false⟩, t) := by
  rw [shiftToTargetExponent, targetExponent_eq, totalExponent]
  by_cases heq : k = 2 ^ 53
  · subst heq
    rw [if_pos rfl, Nat.log2_two_pow, shiftToExponent,
      show (max ((53 : Nat) + 1 + t - 53) (-1074) - t).toNat = 1 by omega]
    rfl
  · have hlog : k.log2 < 53 := by
      obtain rfl | hpos := k.eq_zero_or_pos
      · decide
      · exact (Nat.log2_lt hpos.ne').mpr (by omega)
    rw [if_neg heq, shiftToExponent,
      show (max (k.log2 + 1 + t - 53) (-1074) - t).toNat = 0 by omega]
    exact Prod.ext rfl (add_zero t)

/-- Rounding in two steps, the second one for a mantissa that has become too
long, gives the double nearest to the number. -/
theorem rounds_roundWithAccuracy {m : Nat} {e : Int} {accuracy : Accuracy}
    {x : Rat} (s : Sign) (hkeeps : Keeps (.ofMantissaAndAccuracy m accuracy) x)
    (hx : 0 < x) (he : e ≤ lastPlace (x * 2 ^ e)) :
    Rounds s (x * 2 ^ e)
      (roundWithAccuracy Format.binary64 s m e accuracy) := by
  obtain ⟨hk, ht⟩ := shiftToTargetExponent_keeps hkeeps hx he
  rw [roundWithAccuracy]
  generalize shiftToTargetExponent Format.binary64 m e accuracy =
    first at hk ht ⊢
  obtain ⟨em, t⟩ := first
  dsimp only at hk ht ⊢
  generalize em.roundedMantissa = k at hk ⊢
  have hvalue : rounded (x * 2 ^ e) = k * 2 ^ t := by
    rw [rounded, ← hk, ← ht, Int.cast_natCast]
  have hbound : k ≤ 2 ^ 53 := by
    have := significand_le_two_pow (q := x * 2 ^ e)
    omega
  have hleast : -1074 ≤ t := by
    rw [ht]
    exact le_max_right _ _
  have hfull : 2 ^ 52 ≤ k ∨ t = -1074 := by
    by_cases hplace : t = -1074
    · exact .inr hplace
    · have hlow :=
        two_pow_le_significand (mul_pos hx (two_zpow_pos e)) (ht ▸ hplace)
      exact .inl (by omega)
  rw [shiftToTargetExponent_exact hbound hleast]
  by_cases heq : k = 2 ^ 53
  · rw [if_pos heq]
    refine .finite _ ⟨by norm_num, by norm_num, by omega, .inl le_rfl⟩ ?_
    rw [hvalue, heq, zpow_add_one₀ (by norm_num)]
    push_cast
    ring
  · rw [if_neg heq]
    obtain rfl | hpos := k.eq_zero_or_pos
    · exact .zero (by rw [hvalue, Nat.cast_zero, zero_mul])
    · rw [dif_neg hpos.ne']
      exact .finite hpos ⟨hpos, by omega, hleast, hfull⟩ hvalue

/-- Rounding of a mantissa that is the whole number. -/
theorem rounds_exact {m : Nat} {e : Int} (hm : 0 < m) (s : Sign)
    (he : e ≤ lastPlace (m * 2 ^ e)) :
    Rounds s (m * 2 ^ e) (roundWithAccuracy Format.binary64 s m e .exact) :=
  rounds_roundWithAccuracy s rfl (by exact_mod_cast hm) he

/-- A number with few places is moved to its last place first. -/
theorem rounds_round {m : Nat} (hm : 0 < m) (s : Sign) (e : Int) :
    Rounds s (m * 2 ^ e) (UnpackedFloat.round Format.binary64 s m e) := by
  rw [UnpackedFloat.round, targetExponent_eq, totalExponent, decreaseExponent]
  have hplace : max ((m.log2 : Int) + 1 + e - 53) (-1074) =
      lastPlace (m * 2 ^ e) := by
    rw [lastPlace, log_eq hm le_rfl (lt_add_one _)]
    omega
  rw [hplace]
  generalize hshift : (e - lastPlace (m * 2 ^ e)).toNat = n
  have hvalue : ((m <<< n : Nat) : Rat) * 2 ^ (e - n) = m * 2 ^ e := by
    rw [Nat.shiftLeft_eq, zpow_sub₀ (by norm_num), zpow_natCast]
    push_cast
    field_simp
  have hpos : 0 < m <<< n := by
    rw [Nat.shiftLeft_eq]
    positivity
  have hrounds := rounds_exact hpos s (e := e - n) (by rw [hvalue]; omega)
  rwa [hvalue] at hrounds

/-! ## Quotients -/

/-- What is left over by a division tells what is missing from the quotient. -/
theorem keeps_accuracyOfFraction {q num den : Nat} (h : num < den) :
    Keeps (.ofMantissaAndAccuracy q (accuracyOfFraction num den))
      (q + num / den) := by
  have hden : (0 : Rat) < den := by exact_mod_cast (Nat.zero_le num).trans_lt h
  have hlt : (num : Rat) / den < 1 :=
    (div_lt_one hden).mpr (by exact_mod_cast h)
  unfold accuracyOfFraction
  split
  next hzero => simp [ExtendedMantissa.ofMantissaAndAccuracy, Keeps, hzero]
  next hzero =>
    have hpos : (0 : Rat) < num / den :=
      div_pos (by exact_mod_cast Nat.pos_of_ne_zero hzero) hden
    cases hcompare : compare (2 * num) den with
    | lt =>
      have hhalf : 2 * num < den := Nat.compare_eq_lt.mp hcompare
      have : (num : Rat) / den < 1 / 2 := by
        rw [div_lt_div_iff₀ hden (by norm_num), one_mul, mul_comm]
        exact_mod_cast hhalf
      exact ⟨by linarith, by linarith⟩
    | eq =>
      have hhalf : 2 * num = den := Nat.compare_eq_eq.mp hcompare
      show (q : Rat) + num / den = q + 1 / 2
      rw [← hhalf]
      push_cast
      field_simp
    | gt =>
      have hhalf : den < 2 * num := Nat.compare_eq_gt.mp hcompare
      have : 1 / 2 < (num : Rat) / den := by
        rw [div_lt_div_iff₀ (by norm_num) hden, one_mul, mul_comm]
        exact_mod_cast hhalf
      exact ⟨by linarith, by linarith⟩

/-- The quotient of two mantissas has a leading one in one of two places. -/
theorem le_log_div {m₁ m₂ : Nat} (h₁ : 0 < m₁) (h₂ : 0 < m₂) (e₁ e₂ : Int) :
    (m₁.log2 : Int) + e₁ - (m₂.log2 + e₂) - 1 ≤
      Int.log 2 ((m₁ : Rat) * 2 ^ e₁ / (m₂ * 2 ^ e₂)) := by
  have hpos₂ : (0 : Rat) < m₂ * 2 ^ e₂ :=
    mul_pos (by exact_mod_cast h₂) (two_zpow_pos e₂)
  have hlow : (2 : Rat) ^ ((m₁.log2 : Int) + e₁) ≤ m₁ * 2 ^ e₁ := by
    rw [zpow_add₀ (by norm_num), zpow_natCast]
    exact mul_le_mul_of_nonneg_right (by exact_mod_cast Nat.log2_self_le h₁.ne')
      (two_zpow_pos e₁).le
  have hhigh : (m₂ : Rat) * 2 ^ e₂ ≤ 2 ^ ((m₂.log2 : Int) + e₂ + 1) := by
    rw [show (m₂.log2 : Int) + e₂ + 1 =
      ((m₂.log2 + 1 : Nat) : Int) + e₂ by push_cast; ring,
      zpow_add₀ (by norm_num), zpow_natCast]
    exact mul_le_mul_of_nonneg_right (by exact_mod_cast Nat.lt_log2_self.le)
      (two_zpow_pos e₂).le
  refine le_log ((le_div_iff₀ hpos₂).mpr ?_)
  calc (2 : Rat) ^ ((m₁.log2 : Int) + e₁ - (m₂.log2 + e₂) - 1) * (m₂ * 2 ^ e₂)
      ≤ 2 ^ ((m₁.log2 : Int) + e₁ - (m₂.log2 + e₂) - 1) *
        2 ^ ((m₂.log2 : Int) + e₂ + 1) :=
        mul_le_mul_of_nonneg_left hhigh (two_zpow_pos _).le
    _ = 2 ^ ((m₁.log2 : Int) + e₁) := by
        rw [← zpow_add₀ (by norm_num)]
        congr 1
        ring
    _ ≤ m₁ * 2 ^ e₁ := hlow

/-- The dividend is given enough places for a quotient that reaches to the last
place. -/
theorem rounds_div {m₁ m₂ : Nat} {e₁ e₂ : Int} (h₁ : 0 < m₁) (h₂ : 0 < m₂)
    (s : Sign) :
    Rounds s (m₁ * 2 ^ e₁ / (m₂ * 2 ^ e₂))
      (roundWithAccuracy Format.binary64 s
        (divCore Format.binary64 m₁ e₁ m₂ e₂).1
        (divCore Format.binary64 m₁ e₁ m₂ e₂).2.1
          (divCore Format.binary64 m₁ e₁ m₂ e₂).2.2) := by
  rw [divCore, targetExponent_eq, totalExponent, totalExponent]
  have hlog := le_log_div h₁ h₂ e₁ e₂
  have hleast : min (e₁ - e₂)
      (max ((m₁.log2 : Int) + 1 + e₁ - (m₂.log2 + 1 + e₂) - 53) (-1074)) ≤
      lastPlace ((m₁ : Rat) * 2 ^ e₁ / (m₂ * 2 ^ e₂)) := by
    simp only [lastPlace]
    omega
  have hshift : min (e₁ - e₂)
      (max ((m₁.log2 : Int) + 1 + e₁ - (m₂.log2 + 1 + e₂) - 53) (-1074)) ≤
        e₁ - e₂ := min_le_left _ _
  generalize min (e₁ - e₂)
    (max ((m₁.log2 : Int) + 1 + e₁ - (m₂.log2 + 1 + e₂) - 53) (-1074)) = t
    at hleast hshift ⊢
  simp only
  generalize hn : (e₁ - e₂ - t).toNat = n
  have hm₂ : (m₂ : Rat) ≠ 0 := by exact_mod_cast h₂.ne'
  have hsplit : ((m₁ <<< n / m₂ : Nat) : Rat) +
      ((m₁ <<< n % m₂ : Nat) : Rat) / m₂ =
      (m₁ * 2 ^ n : Nat) / m₂ := by
    rw [Nat.shiftLeft_eq, eq_div_iff hm₂, add_mul, div_mul_cancel₀ _ hm₂]
    exact_mod_cast Nat.div_add_mod' (m₁ * 2 ^ n) m₂
  have hvalue : (m₁ * 2 ^ n : Nat) / (m₂ : Rat) * 2 ^ t =
      m₁ * 2 ^ e₁ / (m₂ * 2 ^ e₂) := by
    have hexponent : (2 : Rat) ^ e₁ = 2 ^ n * 2 ^ t * 2 ^ e₂ := by
      rw [← zpow_natCast, ← zpow_add₀ (by norm_num), ← zpow_add₀ (by norm_num)]
      congr 1
      omega
    rw [hexponent]
    have := (two_zpow_pos e₂).ne'
    push_cast
    field_simp
  have hkeeps :=
    keeps_accuracyOfFraction (q := m₁ <<< n / m₂) (Nat.mod_lt (m₁ <<< n) h₂)
  rw [hsplit] at hkeeps
  rw [← hvalue] at hleast ⊢
  exact rounds_roundWithAccuracy s hkeeps (by positivity) hleast

end ClockSync.Binary64
