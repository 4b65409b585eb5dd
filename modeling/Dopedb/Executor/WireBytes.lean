import Dopedb.Library.BigEndian

/-!
# Reading wire bytes

The fixed-width reads of `read_pg_wire.rs`: `exact`, `from_be_bytes` and `split_at_checked`.
-/

namespace Dopedb.Executor

open Library

/-- `u16::from_be_bytes(exact(bytes)?)`, for any width in bytes. -/
def unsignedFromBeBytes (width : Nat) (bytes : List UInt8) : Option Nat :=
  if bytes.length = width then some (beNat bytes) else none

/-- `i16::from_be_bytes(exact(bytes)?)`, for any width in bytes. -/
def signedFromBeBytes (width : Nat) (bytes : List UInt8) : Option Int :=
  (unsignedFromBeBytes width bytes).map (signedOf (8 * width))

/-- `split_at_checked`. -/
def splitAtChecked (bytes : List UInt8) (length : Nat) : Option (List UInt8 × List UInt8) :=
  if length ≤ bytes.length then some (bytes.take length, bytes.drop length) else none

/-- `usize::try_from` of a signed number. -/
def usizeTryFrom (n : Int) : Option Nat := if 0 ≤ n then some n.toNat else none

/-- The bytes of a signed number. -/
def signedToBeBytes (width : Nat) (n : Int) : List UInt8 := beBytes width (signedBits (8 * width) n)

theorem pow_eight_mul (width : Nat) : 2 ^ (8 * width) = 256 ^ width := by
  rw [pow_mul]
  rfl

/-- A number that fits is read back. -/
theorem unsigned_from_be_bytes {width n : Nat} (h : n < 256 ^ width) :
    unsignedFromBeBytes width (beBytes width n) = some n := by
  rw [unsignedFromBeBytes, length_be_bytes, if_pos rfl, be_nat_be_bytes h]

/-- A signed number that fits is read back. -/
theorem signed_from_be_bytes {width : Nat} (hwidth : 0 < width) {n : Int}
    (hlow : -2 ^ (8 * width - 1) ≤ n) (hhigh : n < 2 ^ (8 * width - 1)) :
    signedFromBeBytes width (signedToBeBytes width n) = some n := by
  have hlt := signed_bits_lt (8 * width) n
  rw [pow_eight_mul] at hlt
  rw [signedFromBeBytes, signedToBeBytes, unsigned_from_be_bytes hlt, Option.map_some,
    signed_of_bits (by omega) hlow hhigh]

/-- What is read are the bytes of a number that fits. -/
theorem unsigned_read {width n : Nat} {bytes : List UInt8}
    (h : unsignedFromBeBytes width bytes = some n) : bytes = beBytes width n ∧ n < 256 ^ width := by
  unfold unsignedFromBeBytes at h
  split at h
  case isTrue hlength =>
      obtain rfl := Option.some.inj h
      rw [← hlength]
      exact ⟨(be_bytes_be_nat bytes).symm, be_nat_lt bytes⟩
  case isFalse => exact absurd h nofun

/-- What is read are the bytes of a signed number that fits. -/
theorem signed_read {width : Nat} (hwidth : 0 < width) {n : Int} {bytes : List UInt8}
    (h : signedFromBeBytes width bytes = some n) :
    bytes = signedToBeBytes width n ∧ -2 ^ (8 * width - 1) ≤ n ∧ n < 2 ^ (8 * width - 1) := by
  unfold signedFromBeBytes at h
  rw [Option.map_eq_some_iff] at h
  obtain ⟨bits, hbits, rfl⟩ := h
  obtain ⟨hbytes, hlt⟩ := unsigned_read hbits
  rw [← pow_eight_mul] at hlt
  refine ⟨?_, signed_of_range (by omega) hlt⟩
  rw [signedToBeBytes, signed_bits_of hlt]
  exact hbytes

/-- A checked split succeeds exactly on the two parts put together. -/
theorem split_at_checked_iff {bytes head tail : List UInt8} {length : Nat} :
    splitAtChecked bytes length = some (head, tail) ↔ bytes = head ++ tail ∧ head.length = length := by
  unfold splitAtChecked
  constructor
  · intro h
    split at h
    case isTrue hle =>
        obtain ⟨rfl, rfl⟩ := Prod.mk.inj (Option.some.inj h)
        exact ⟨(List.take_append_drop length bytes).symm, List.length_take_of_le hle⟩
    case isFalse => exact absurd h nofun
  · rintro ⟨rfl, rfl⟩
    rw [if_pos (by rw [List.length_append]; omega), List.take_left, List.drop_left]

/-- A number is an index exactly when it is not negative. -/
theorem usize_try_from_iff {n : Int} {index : Nat} :
    usizeTryFrom n = some index ↔ n = index := by
  unfold usizeTryFrom
  split
  · rw [Option.some.injEq]
    omega
  · refine ⟨nofun, fun h => ?_⟩
    omega

end Dopedb.Executor
