import ClockSync.Proofs.Numeric.Arithmetic
import ClockSync.Proofs.Stamps
import ClockSync.Proofs.Words

/-!
# Operations that check what they are given

Signed subtraction, negation and size wrap around, an index outside a list gives
nothing and a division by zero gives infinity. The operations of this module do
the same work and stop with a `Fault` where that happens. For each of them a
lemma says what has to be known of the operands for it to give what the
operation without a check gives.
-/

namespace ClockSync

/-- What stops an operation that checks its operands. -/
inductive Fault where
  /-- The result is no signed word. -/
  | overflow
  /-- There is no such element. -/
  | outside
  | zeroDivisor
deriving DecidableEq, Repr

namespace Checked

/-! ## Signed words -/

/-- A whole number as a signed word. -/
def word (n : Int) : Except Fault Int64 :=
  if IsWord n then .ok (Int64.ofInt n) else .error .overflow

def sub (a b : Int64) : Except Fault Int64 := word (a.toInt - b.toInt)

def neg (a : Int64) : Except Fault Int64 := word (-a.toInt)

def abs (a : Int64) : Except Fault Int64 := word |a.toInt|

/-- An unsigned word read as a signed one. -/
def ofUnsigned (a : UInt64) : Except Fault Int64 := word a.toNat

theorem sub_eq {a b : Int64} (h : IsWord (a.toInt - b.toInt)) :
    sub a b = .ok (a - b) := by
  rw [sub, word, if_pos h, Int64.ofInt_sub, Int64.ofInt_toInt,
    Int64.ofInt_toInt]

theorem neg_eq {a : Int64} (h : IsWord (-a.toInt)) : neg a = .ok (-a) := by
  rw [neg, word, if_pos h, Int64.ofInt_neg, Int64.ofInt_toInt]

theorem abs_eq {a : Int64} (h : |a.toInt| < 2 ^ 63) : abs a = .ok a.abs := by
  have hword : IsWord |a.toInt| := ⟨by have := abs_nonneg a.toInt; omega, h⟩
  rw [abs, word, if_pos hword, ← Stamp.toInt_abs_of_abs_lt h, Int64.ofInt_toInt]

theorem ofUnsigned_eq {a : UInt64} (h : a ≤ Stamp.largestSigned) :
    ofUnsigned a = .ok a.toInt64 := by
  have hle : a.toNat ≤ 2 ^ 63 - 1 := UInt64.le_iff_toNat_le.mp h
  rw [ofUnsigned, word, if_pos ⟨by omega, by omega⟩, Stamp.toInt64_eq_ofInt]

/-! ## Elements and quotients -/

/-- The element of a list at an index. -/
def elementAt {α : Type} (xs : List α) (i : Nat) : Except Fault α :=
  match xs[i]? with
  | some x => .ok x
  | none => .error .outside

theorem elementAt_eq {α : Type} {xs : List α} {i : Nat} (h : i < xs.length)
    (default : α) :
    elementAt xs i = .ok (xs.getD i default) := by
  rw [elementAt, List.getD_eq_getElem?_getD, List.getElem?_eq_getElem h]
  rfl

/-- The quotient of two doubles. -/
def div (x y : Float) : Except Fault Float :=
  if y == 0 then .error .zeroDivisor else .ok (x / y)

theorem div_ofInt {x : Float} {n : Int} (h : n ≠ 0) :
    div x (Scalar.ofInt n) = .ok (x / Scalar.ofInt n) := by
  have hzero : ((Scalar.ofInt n : Float) == 0) = false :=
    Binary64.ofInt_ne_zero h
  rw [div, hzero]
  rfl

end Checked

end ClockSync
