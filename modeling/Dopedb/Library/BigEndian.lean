import Mathlib.Algebra.Order.Ring.Int
import Mathlib.Data.List.Induction

/-!
# Big-endian numbers

Numbers as a fixed count of bytes, the most significant byte first, and signed numbers in two's
complement.
-/

namespace Dopedb.Library

/-- The number that bytes write, most significant byte first. -/
def beNat (bytes : List UInt8) : Nat := bytes.foldl (fun n byte => n * 256 + byte.toNat) 0

/-- A number as so many bytes, most significant byte first. -/
def beBytes : Nat → Nat → List UInt8
  | 0, _ => []
  | width + 1, n => beBytes width (n / 256) ++ [UInt8.ofNat n]

/-- The signed number that so many bits write. -/
def signedOf (bits n : Nat) : Int := if n < 2 ^ (bits - 1) then n else (n : Int) - 2 ^ bits

/-- The bits of a signed number. -/
def signedBits (bits : Nat) (z : Int) : Nat := (z % 2 ^ bits).toNat

@[simp] theorem length_be_bytes (width n : Nat) : (beBytes width n).length = width := by
  induction width generalizing n with
  | zero => rfl
  | succ width ih =>
      rw [beBytes, List.length_append, ih]
      rfl

/-- One more byte behind a number. -/
theorem be_nat_append_byte (bytes : List UInt8) (byte : UInt8) :
    beNat (bytes ++ [byte]) = beNat bytes * 256 + byte.toNat := by
  unfold beNat
  rw [List.foldl_append]
  rfl

/-- A number is below the power of its width. -/
theorem be_nat_lt (bytes : List UInt8) : beNat bytes < 256 ^ bytes.length := by
  induction bytes using List.reverseRecOn with
  | nil => exact Nat.one_pos
  | append_singleton bytes byte ih =>
      have hbyte : byte.toNat < 256 := byte.toNat_lt
      rw [be_nat_append_byte, List.length_append, List.length_singleton, pow_succ]
      omega

/-- A number that fits its width is read back. -/
theorem be_nat_be_bytes {width n : Nat} (h : n < 256 ^ width) : beNat (beBytes width n) = n := by
  induction width generalizing n with
  | zero =>
      have hzero : n = 0 := by
        rw [pow_zero] at h
        omega
      rw [hzero]
      rfl
  | succ width ih =>
      have hdiv : n / 256 < 256 ^ width := by
        rw [pow_succ] at h
        omega
      have hmod : (UInt8.ofNat n).toNat = n % 256 := UInt8.toNat_ofNat'
      rw [beBytes, be_nat_append_byte, ih hdiv, hmod]
      omega

/-- Bytes are those of the number they write. -/
theorem be_bytes_be_nat (bytes : List UInt8) : beBytes bytes.length (beNat bytes) = bytes := by
  induction bytes using List.reverseRecOn with
  | nil => rfl
  | append_singleton bytes byte ih =>
      have hbyte : byte.toNat < 256 := byte.toNat_lt
      have hdiv : (beNat bytes * 256 + byte.toNat) / 256 = beNat bytes := by omega
      have hlast : UInt8.ofNat (beNat bytes * 256 + byte.toNat) = byte := by
        apply UInt8.toNat_inj.mp
        rw [UInt8.toNat_ofNat']
        omega
      rw [be_nat_append_byte, List.length_append, List.length_singleton, beBytes, hdiv, ih, hlast]

/-- A signed number that fits its bits is read back. -/
theorem signed_of_bits {bits : Nat} (hbits : 0 < bits) {z : Int} (hlow : -2 ^ (bits - 1) ≤ z)
    (hhigh : z < 2 ^ (bits - 1)) : signedOf bits (signedBits bits z) = z := by
  obtain ⟨half, hhalf⟩ : ∃ half : Nat, half = 2 ^ (bits - 1) := ⟨_, rfl⟩
  have hpow : (2 : Nat) ^ bits = 2 * half := by
    rw [hhalf, mul_comm, ← pow_succ]
    congr 1
    omega
  have hpow' : (2 : Int) ^ bits = 2 * half := by exact_mod_cast hpow
  have hhalf' : (2 : Int) ^ (bits - 1) = half := by exact_mod_cast hhalf.symm
  rw [hhalf'] at hlow hhigh
  have hmod : z % (2 * half) = if 0 ≤ z then z else z + 2 * half := by
    split
    case isTrue hpos => exact Int.emod_eq_of_lt hpos (by omega)
    case isFalse hneg =>
        rw [← Int.add_mul_emod_self_left z (2 * half) 1, mul_one]
        exact Int.emod_eq_of_lt (by omega) (by omega)
  unfold signedOf signedBits
  rw [← hhalf, hpow', hmod]
  split <;> split <;> omega

/-- The bits of a signed number fit. -/
theorem signed_bits_lt (bits : Nat) (z : Int) : signedBits bits z < 2 ^ bits := by
  have hpos : (0 : Int) < 2 ^ bits := Int.pow_pos (by decide)
  have hlt := Int.emod_lt_of_pos z hpos
  have hcast : ((2 ^ bits : Nat) : Int) = 2 ^ bits := by push_cast; rfl
  unfold signedBits
  omega

/-- What bits write fits their signed range. -/
theorem signed_of_range {bits : Nat} (hbits : 0 < bits) {n : Nat} (h : n < 2 ^ bits) :
    -2 ^ (bits - 1) ≤ signedOf bits n ∧ signedOf bits n < 2 ^ (bits - 1) := by
  obtain ⟨half, hhalf⟩ : ∃ half : Nat, half = 2 ^ (bits - 1) := ⟨_, rfl⟩
  have hpow : (2 : Nat) ^ bits = 2 * half := by
    rw [hhalf, mul_comm, ← pow_succ]
    congr 1
    omega
  have hpow' : (2 : Int) ^ bits = 2 * half := by exact_mod_cast hpow
  have hhalf' : (2 : Int) ^ (bits - 1) = half := by exact_mod_cast hhalf.symm
  unfold signedOf
  rw [← hhalf, hpow', hhalf']
  split <;> omega

/-- Bits are those of the signed number they write. -/
theorem signed_bits_of {bits n : Nat} (h : n < 2 ^ bits) : signedBits bits (signedOf bits n) = n := by
  have hcast : ((2 ^ bits : Nat) : Int) = 2 ^ bits := by push_cast; rfl
  unfold signedBits signedOf
  split
  · rw [Int.emod_eq_of_lt (by omega) (by omega)]
    omega
  · rw [← Int.add_mul_emod_self_left ((n : Int) - 2 ^ bits) (2 ^ bits) 1,
      Int.emod_eq_of_lt (by omega) (by omega)]
    omega

end Dopedb.Library
