/-!
# Differences of time stamps

A stamp is a 64-bit word of microseconds on some clock, and stamps are compared
by differences that wrap around: `difference a b` is the signed number that is
congruent to `a - b` modulo `2 ^ 64` (`difference_eq`). It is worked out without
ever leaving the range of signed words.
-/

namespace ClockSync.Stamp

/-- The largest word that is the same number when read as a signed one. -/
def largestSigned : UInt64 := 0x7fffffffffffffff

/-- The signed difference of two words, wrapping around. A difference in the
upper half is a negative number: one below the negated complement. -/
def difference (a b : UInt64) : Int64 :=
  let d := a - b
  if d ≤ largestSigned then d.toInt64 else -(~~~d).toInt64 - 1

/-- A word read as a signed number. -/
def signed (a : UInt64) : Int64 := difference a 0

/-- The signed difference of two signed readings, wrapping around. -/
def elapsed (later earlier : Int64) : Int64 :=
  difference later.toUInt64 earlier.toUInt64

theorem neg_complement_sub_one (d : UInt64) :
    -(~~~d).toInt64 - 1 = d.toInt64 := by
  apply Int64.toBitVec_inj.mp
  simp only [Int64.toBitVec_sub, Int64.toBitVec_neg, UInt64.toBitVec_toInt64,
    UInt64.toBitVec_not, BitVec.neg_eq_not_add, BitVec.not_not,
    Int64.toBitVec_one, BitVec.add_sub_cancel]

/-- Both branches of `difference` give the wrapped difference of the words. -/
theorem difference_eq (a b : UInt64) : difference a b = (a - b).toInt64 := by
  simp only [difference, neg_complement_sub_one, ite_self]

end ClockSync.Stamp
