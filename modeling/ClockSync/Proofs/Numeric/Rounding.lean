import ClockSync.Numeric.Binary64
import Mathlib.Algebra.Order.Field.Rat
import Mathlib.Data.Int.Log
import Mathlib.Data.Rat.Floor
import Mathlib.Tactic.Linarith
import Mathlib.Tactic.NormNum

/-!
# Rounding to doubles

What the operations on doubles do to fractions that are not negative. A double
has 53 places, the first of them that of the leading one of the number, unless
this put the last one below `2 ^ -1074` (`lastPlace`). A fraction is replaced by
the nearest multiple of its last place, a half going to the even one
(`rounded`), and by infinity if that is too large (`nearest`).

Two facts about this carry everything else: rounding keeps the order of
fractions (`rounded_mono`), and a number that a double stands for is left as it
is (`Representable.rounded_eq`). The first is not plain where the last place
changes. There a power of two lies in between, and it is a multiple of both last
places.
-/

namespace ClockSync.Binary64

/-! ## The nearest whole number -/

/-- The whole number nearest to `q`, a half going to the even one. -/
def nearestEven (q : Rat) : Int :=
  if q - ⌊q⌋ < 1 / 2 then ⌊q⌋
  else if 1 / 2 < q - ⌊q⌋ then ⌊q⌋ + 1
  else ⌊q⌋ + ⌊q⌋ % 2

theorem abs_nearestEven_sub_le (q : Rat) :
    |(nearestEven q : Rat) - q| ≤ 1 / 2 := by
  have hle := Int.floor_le q
  have hlt := Int.lt_floor_add_one q
  have hbit : ⌊q⌋ % 2 = 0 ∨ ⌊q⌋ % 2 = 1 := Int.emod_two_eq_zero_or_one ⌊q⌋
  unfold nearestEven
  rw [abs_le]
  split
  · constructor <;> linarith
  · split
    · push_cast
      constructor <;> linarith
    · obtain hbit | hbit := hbit <;>
      · rw [hbit]
        push_cast
        constructor <;> linarith

theorem nearestEven_intCast (n : Int) : nearestEven n = n := by
  simp [nearestEven]

theorem nearestEven_mono {p q : Rat} (h : p ≤ q) :
    nearestEven p ≤ nearestEven q := by
  by_contra hnot
  have hstep : (nearestEven q : Rat) + 1 ≤ nearestEven p := by
    exact_mod_cast (not_le.mp hnot : nearestEven q < nearestEven p)
  have hp := abs_le.mp (abs_nearestEven_sub_le p)
  have hq := abs_le.mp (abs_nearestEven_sub_le q)
  -- each is at most a half away from its own result, so the fractions are one
  have heq : p = q := by linarith
  exact hnot (heq ▸ le_refl _)

/-! ## Powers of two -/

theorem two_zpow_pos (e : Int) : (0 : Rat) < 2 ^ e := zpow_pos (by norm_num) e

theorem two_zpow_eq_mul {a b : Int} (h : a ≤ b) :
    (2 : Rat) ^ b = ((2 ^ (b - a).toNat : Int) : Rat) * 2 ^ a := by
  push_cast
  rw [← zpow_natCast, Int.toNat_of_nonneg (by omega), ← zpow_add₀ (by norm_num)]
  congr 1
  omega

theorem log_lt {q : Rat} {k : Int} (hpos : 0 < q) (h : q < 2 ^ k) :
    Int.log 2 q < k :=
  (Int.lt_zpow_iff_log_lt (by norm_num) hpos).mp (by exact_mod_cast h)

theorem le_log {q : Rat} {k : Int} (h : 2 ^ k ≤ q) : k ≤ Int.log 2 q :=
  (Int.zpow_le_iff_le_log (by norm_num) ((two_zpow_pos k).trans_le h)).mp
    (by exact_mod_cast h)

/-! ## The nearest double -/

/-- The exponent of the last place of a double next to `q`: the 53rd place from
the leading one of `q` on, but never below the least exponent there is. -/
def lastPlace (q : Rat) : Int := max (Int.log 2 q - 52) (-1074)

/-- How many last places the double next to `q` has. -/
def significand (q : Rat) : Int := nearestEven (q / 2 ^ lastPlace q)

/-- The double nearest to `q`, were there no greatest exponent. -/
def rounded (q : Rat) : Rat := significand q * 2 ^ lastPlace q

/-- The first power of two that no double reaches. -/
def limit : Rat := 2 ^ (1024 : Int)

theorem limit_pos : 0 < limit := two_zpow_pos 1024

/-- The double nearest to a number. What is too large for a double becomes
infinite. -/
def nearest : WithTop Rat → WithTop Rat
  | ⊤ => ⊤
  | (q : Rat) => if rounded q < limit then ↑(rounded q) else ⊤

theorem significand_le {q : Rat} {n : Int} (h : q ≤ n * 2 ^ lastPlace q) :
    significand q ≤ n := by
  rw [← nearestEven_intCast n]
  exact nearestEven_mono ((div_le_iff₀ (two_zpow_pos _)).mpr h)

theorem le_significand {q : Rat} {n : Int} (h : n * 2 ^ lastPlace q ≤ q) :
    n ≤ significand q := by
  rw [← nearestEven_intCast n]
  exact nearestEven_mono ((le_div_iff₀ (two_zpow_pos _)).mpr h)

/-- A multiple of the last place that is not below the number is not below its
double. -/
theorem rounded_le {q : Rat} {n : Int} (h : q ≤ n * 2 ^ lastPlace q) :
    rounded q ≤ n * 2 ^ lastPlace q :=
  mul_le_mul_of_nonneg_right (by exact_mod_cast significand_le h)
    (two_zpow_pos _).le

theorem le_rounded {q : Rat} {n : Int} (h : n * 2 ^ lastPlace q ≤ q) :
    n * 2 ^ lastPlace q ≤ rounded q :=
  mul_le_mul_of_nonneg_right (by exact_mod_cast le_significand h)
    (two_zpow_pos _).le

/-- 53 places are enough, but the rounded number may have the next power of
two. -/
theorem significand_le_two_pow {q : Rat} : significand q ≤ 2 ^ 53 := by
  refine significand_le ?_
  calc q ≤ (2 : Rat) ^ (Int.log 2 q + 1) :=
    (Int.lt_zpow_succ_log_self (by norm_num) q).le
    _ ≤ 2 ^ (53 + lastPlace q) :=
      zpow_le_zpow_right₀ (by norm_num) (by simp only [lastPlace]; omega)
    _ = ((2 ^ 53 : Int) : Rat) * 2 ^ lastPlace q := by
      rw [zpow_add₀ (by norm_num)]
      norm_num

theorem two_pow_le_significand {q : Rat} (hpos : 0 < q)
    (h : lastPlace q ≠ -1074) :
    2 ^ 52 ≤ significand q := by
  refine le_significand ?_
  have hplace : Int.log 2 q = 52 + lastPlace q := by
    simp only [lastPlace] at h ⊢
    omega
  have hle := Int.zpow_log_le_self (R := Rat) (b := 2) (by norm_num) hpos
  rw [hplace, zpow_add₀ (by norm_num)] at hle
  exact_mod_cast hle

theorem rounded_zero : rounded 0 = 0 := by
  rw [rounded, significand, zero_div, ← Int.cast_zero, nearestEven_intCast,
    Int.cast_zero, zero_mul]

theorem rounded_nonneg {q : Rat} (h : 0 ≤ q) : 0 ≤ rounded q := by
  have hzero : ((0 : Int) : Rat) * 2 ^ lastPlace q ≤ q := by simpa using h
  simpa using le_rounded hzero

/-! ## Order -/

theorem lastPlace_mono {p q : Rat} (hp : 0 < p) (h : p ≤ q) :
    lastPlace p ≤ lastPlace q := by
  have hlog := Int.log_mono_right (b := 2) hp h
  simp only [lastPlace]
  omega

/-- Rounding keeps the order of fractions. -/
theorem rounded_mono {p q : Rat} (hp : 0 ≤ p) (h : p ≤ q) :
    rounded p ≤ rounded q := by
  obtain rfl | hpos := hp.eq_or_lt
  · rw [rounded_zero]
    exact rounded_nonneg h
  obtain heq | hlt := (lastPlace_mono hpos h).eq_or_lt
  · have hscale := two_zpow_pos (lastPlace q)
    have hle : significand p ≤ significand q := by
      rw [significand, significand, heq]
      exact nearestEven_mono (div_le_div_of_nonneg_right h hscale.le)
    rw [rounded, rounded, heq]
    exact mul_le_mul_of_nonneg_right (by exact_mod_cast hle) hscale.le
  · -- a power of two lies between the numbers, and it is a multiple of both
    -- last places
    have hlog : Int.log 2 p + 1 ≤ Int.log 2 q ∧ lastPlace q ≤ Int.log 2 q := by
      simp only [lastPlace] at hlt ⊢
      omega
    have hbelow : p ≤ (2 : Rat) ^ Int.log 2 q :=
      (Int.lt_zpow_succ_log_self (by norm_num) p).le.trans
        (zpow_le_zpow_right₀ (by norm_num) hlog.1)
    have habove : (2 : Rat) ^ Int.log 2 q ≤ q :=
      Int.zpow_log_le_self (by norm_num) (hpos.trans_le h)
    calc rounded p ≤ 2 ^ Int.log 2 q := by
          rw [two_zpow_eq_mul (hlt.le.trans hlog.2)] at hbelow ⊢
          exact rounded_le hbelow
      _ ≤ rounded q := by
          rw [two_zpow_eq_mul hlog.2] at habove ⊢
          exact le_rounded habove

theorem nearest_coe_of_lt {q : Rat} (h : rounded q < limit) :
    nearest q = rounded q := if_pos h

theorem nearest_coe_of_le {q : Rat} (h : limit ≤ rounded q) : nearest q = ⊤ :=
  if_neg (not_lt.mpr h)

/-- What does not become infinite is rounded. -/
theorem eq_rounded_of_nearest {q r : Rat} (h : nearest q = r) :
    r = rounded q := by
  obtain hq | hq := lt_or_ge (rounded q) limit
  · rw [nearest_coe_of_lt hq] at h
    exact_mod_cast h.symm
  · rw [nearest_coe_of_le hq] at h
    exact absurd h.symm WithTop.coe_ne_top

theorem nearest_mono {p q : Rat} (hp : 0 ≤ p) (h : p ≤ q) :
    nearest p ≤ nearest q := by
  have hle := rounded_mono hp h
  obtain hq | hq := lt_or_ge (rounded q) limit
  · rw [nearest_coe_of_lt hq, nearest_coe_of_lt (hle.trans_lt hq)]
    exact_mod_cast hle
  · rw [nearest_coe_of_le hq]
    exact le_top

/-! ## Numbers that are kept -/

/-- The numbers that doubles stand for, were there no greatest exponent. -/
def Representable (q : Rat) : Prop :=
  ∃ (m : Nat) (e : Int), m < 2 ^ 53 ∧ -1074 ≤ e ∧ q = m * 2 ^ e

namespace Representable

variable {q : Rat}

theorem two_mul (h : Representable q) : Representable (2 * q) := by
  obtain ⟨m, e, hm, he, rfl⟩ := h
  refine ⟨m, e + 1, hm, by omega, ?_⟩
  rw [zpow_add_one₀ (by norm_num)]
  ring

theorem natCast {n : Nat} (h : n < 2 ^ 53) : Representable n :=
  ⟨n, 0, h, by omega, by simp⟩

/-- A number that a double stands for is a multiple of its last place. -/
theorem rounded_eq (h : Representable q) : rounded q = q := by
  obtain ⟨m, e, hm, he, rfl⟩ := h
  obtain rfl | hpos := m.eq_zero_or_pos
  · rw [Nat.cast_zero, zero_mul, rounded_zero]
  have hscale := two_zpow_pos e
  have hlog : Int.log 2 ((m : Rat) * 2 ^ e) < 53 + e := by
    refine log_lt (mul_pos (by exact_mod_cast hpos) hscale) ?_
    rw [zpow_add₀ (by norm_num)]
    exact mul_lt_mul_of_pos_right (by exact_mod_cast hm) hscale
  have hplace : lastPlace ((m : Rat) * 2 ^ e) ≤ e := by
    simp only [lastPlace]
    omega
  have hmul : (m * 2 ^ e : Rat) =
      ((m * 2 ^ (e - lastPlace (m * 2 ^ e)).toNat : Int) : Rat) *
        2 ^ lastPlace (m * 2 ^ e) := by
    conv_lhs => rw [two_zpow_eq_mul hplace]
    push_cast
    ring
  exact le_antisymm ((rounded_le hmul.le).trans hmul.ge)
    (hmul.le.trans (le_rounded hmul.ge))

theorem nearest_eq (h : Representable q) (hlt : q < limit) : nearest q = q := by
  rw [nearest_coe_of_lt (h.rounded_eq.trans_lt hlt), h.rounded_eq]

end Representable

end ClockSync.Binary64
