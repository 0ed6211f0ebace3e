import Columnar.Arithmetic

/-!
Byte strings. `ofNat w n` is the little-endian word of `w` bytes that stands for `n`, and `toNat`
reads a word back (`toNat_ofNat`, `ofNat_toNat`). `padded` fills a byte string with zeros up to a
multiple of an alignment.
-/
namespace Columnar

abbrev Bytes := List UInt8

namespace Bytes

/-- The little-endian word of `width` bytes for `n`, taken modulo `256 ^ width`. -/
def ofNat : Nat → Nat → Bytes
  | 0, _ => []
  | width + 1, n => UInt8.ofNat n :: ofNat width (n / 256)

def toNat : Bytes → Nat
  | [] => 0
  | b :: rest => b.toNat + 256 * toNat rest

/-- The signed number that a word of `width` bytes stands for in two's complement. -/
def toInt (width : Nat) (word : Bytes) : Int :=
  let n := toNat word
  if n < 256 ^ width / 2 then n else (n : Int) - (256 ^ width : Nat)

def slice (bytes : Bytes) (offset length : Nat) : Bytes :=
  (bytes.drop offset).take length

def slice? (bytes : Bytes) (offset length : Nat) : Option Bytes :=
  let part := bytes.slice offset length
  if part.length = length then some part else none

/-- How many bytes bring `length` up to a multiple of `alignment`. -/
def gap (alignment length : Nat) : Nat :=
  (alignment - length % alignment) % alignment

def roundUp (alignment length : Nat) : Nat :=
  length + gap alignment length

def zeros (count : Nat) : Bytes :=
  List.replicate count 0

def padded (alignment : Nat) (bytes : Bytes) : Bytes :=
  bytes ++ zeros (gap alignment bytes.length)

@[simp] theorem length_ofNat (width n : Nat) : (ofNat width n).length = width := by
  induction width generalizing n with
  | zero => rfl
  | succ width ih => simp [ofNat, ih]

@[simp] theorem length_zeros (count : Nat) : (zeros count).length = count := by
  simp [zeros]

theorem toNat_ofNat (width n : Nat) : toNat (ofNat width n) = n % 256 ^ width := by
  induction width generalizing n with
  | zero => simp [ofNat, toNat, Nat.mod_one]
  | succ width ih =>
    have byte : (UInt8.ofNat n).toNat = n % 256 := by simp
    rw [ofNat, toNat, ih, byte, Nat.pow_succ, Nat.mul_comm (256 ^ width) 256, Nat.mod_mul]

theorem toNat_ofNat_of_lt {width n : Nat} (fits : n < 256 ^ width) :
    toNat (ofNat width n) = n := by
  rw [toNat_ofNat, Nat.mod_eq_of_lt fits]

theorem toNat_lt (bytes : Bytes) : toNat bytes < 256 ^ bytes.length := by
  induction bytes with
  | nil => simp [toNat]
  | cons b rest ih =>
    have hb : b.toNat < 256 := b.toNat_lt
    simp only [toNat, List.length_cons, Nat.pow_succ]
    omega

theorem ofNat_toNat (bytes : Bytes) : ofNat bytes.length (toNat bytes) = bytes := by
  induction bytes with
  | nil => rfl
  | cons b rest ih =>
    have hb : b.toNat < 256 := b.toNat_lt
    have head : UInt8.ofNat (b.toNat + 256 * toNat rest) = b := by
      apply UInt8.toNat_inj.mp
      simp only [UInt8.toNat_ofNat']
      omega
    have tail : (b.toNat + 256 * toNat rest) / 256 = toNat rest := by omega
    rw [toNat, List.length_cons, ofNat, head, tail, ih]

end Bytes

end Columnar
