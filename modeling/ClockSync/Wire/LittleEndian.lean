/-!
# Little-endian words

A number written in a fixed count of bytes, least significant byte first, and
read back. The one statement everything on the wire rests on is `read_write`:
reading the `k` bytes of `n` gives `n` back, reduced modulo `256 ^ k`.
-/

namespace ClockSync.Wire

/-- A byte string, as a datagram carries it. -/
abbrev Bytes := List UInt8

namespace LittleEndian

/-- The `k` low bytes of `n`, least significant first. -/
def write : Nat → Nat → Bytes
  | 0, _ => []
  | k + 1, n => UInt8.ofNat n :: write k (n / 256)

/-- The number whose bytes, least significant first, are given. -/
def read : Bytes → Nat
  | [] => 0
  | b :: bs => b.toNat + 256 * read bs

@[simp] theorem length_write (k n : Nat) : (write k n).length = k := by
  induction k generalizing n with
  | zero => rfl
  | succ k ih => simp [write, ih]

theorem read_lt (bs : Bytes) : read bs < Nat.pow 256 bs.length := by
  induction bs with
  | nil => simp [read]
  | cons b bs ih =>
    have hb : b.toNat < 256 := b.toNat_lt
    have step : Nat.pow 256 (bs.length + 1) = Nat.pow 256 bs.length * 256 := rfl
    simp only [read, List.length_cons]
    omega

/-- Reading what was written gives the number modulo the width. -/
theorem read_write (k n : Nat) : read (write k n) = n % Nat.pow 256 k := by
  induction k generalizing n with
  | zero => simp [write, read, Nat.mod_one]
  | succ k ih =>
    have low : (UInt8.ofNat n).toNat = n % 256 := by simp
    have step : Nat.pow 256 (k + 1) = 256 * Nat.pow 256 k := Nat.mul_comm ..
    rw [write, read, ih, low, step, Nat.mod_mul]

/-- Writing what was read gives the bytes back. -/
theorem write_read (bs : Bytes) : write bs.length (read bs) = bs := by
  induction bs with
  | nil => rfl
  | cons b bs ih =>
    have hb : b.toNat < 256 := b.toNat_lt
    have hlow : UInt8.ofNat (b.toNat + 256 * read bs) = b := by
      apply UInt8.toNat_inj.mp
      rw [UInt8.toNat_ofNat']
      omega
    have hhigh : (b.toNat + 256 * read bs) / 256 = read bs := by omega
    simp only [List.length_cons, write, read, hlow, hhigh, ih]

end LittleEndian

end ClockSync.Wire
