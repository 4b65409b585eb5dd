import Mathlib.Data.List.Basic
import Mathlib.Data.Nat.Bitwise

/-!
# The UTF-8 bytes of a character

An ASCII character is one byte, and no byte of another character is an ASCII byte.
-/

namespace Dopedb.Library

/-- An ASCII character is one byte. -/
theorem utf8_ascii {c : Char} (h : c.toNat < 128) :
    String.utf8EncodeChar c = [UInt8.ofNat c.toNat] := by
  have hsize : c.utf8Size = 1 := Char.utf8Size_eq_one_iff.mpr (by
    rw [UInt32.le_iff_toNat_le]
    show c.toNat ≤ 127
    omega)
  rw [String.utf8EncodeChar_eq_singleton hsize]
  rfl

/-- The first byte of another character, and the bytes behind it. -/
theorem utf8_wide {c : Char} (h : 128 ≤ c.toNat) :
    ∃ first rest, String.utf8EncodeChar c = first :: rest ∧ 192 ≤ first.toNat ∧
      ∀ byte ∈ rest, 128 ≤ byte.toNat := by
  have hlead : ∀ {n : Nat} {byte mark : UInt8}, n ≤ mark.toNat → n ≤ (byte ||| mark).toNat := by
    intro n byte mark hmark
    rw [UInt8.toNat_or]
    exact hmark.trans Nat.right_le_or
  have hone : c.utf8Size ≠ 1 := by
    intro hone
    have hle := Char.utf8Size_eq_one_iff.mp hone
    rw [UInt32.le_iff_toNat_le] at hle
    have hval : c.toNat ≤ 127 := hle
    omega
  have hpos := c.utf8Size_pos
  have hfour := c.utf8Size_le_four
  obtain htwo | hthree | hfour : c.utf8Size = 2 ∨ c.utf8Size = 3 ∨ c.utf8Size = 4 := by omega
  · refine ⟨_, _, String.utf8EncodeChar_eq_cons_cons htwo, hlead (by decide), ?_⟩
    intro byte hbyte
    obtain rfl := List.mem_singleton.mp hbyte
    exact hlead (by decide)
  · refine ⟨_, _, String.utf8EncodeChar_eq_cons_cons_cons hthree,
      hlead (by decide), ?_⟩
    intro byte hbyte
    simp only [List.mem_cons, List.not_mem_nil, or_false] at hbyte
    obtain rfl | rfl := hbyte <;> exact hlead (by decide)
  · refine ⟨_, _, String.utf8EncodeChar_eq_cons_cons_cons_cons hfour,
      hlead (by decide), ?_⟩
    intro byte hbyte
    simp only [List.mem_cons, List.not_mem_nil, or_false] at hbyte
    obtain rfl | rfl | rfl := hbyte <;> exact hlead (by decide)

/-- Every byte of another character lies behind ASCII. -/
theorem utf8_wide_mem {c : Char} (h : 128 ≤ c.toNat) {byte : UInt8}
    (hbyte : byte ∈ String.utf8EncodeChar c) : 128 ≤ byte.toNat := by
  obtain ⟨first, rest, henc, hfirst, hrest⟩ := utf8_wide h
  rw [henc] at hbyte
  cases List.mem_cons.mp hbyte with
  | inl heq => rw [heq]; omega
  | inr hmem => exact hrest byte hmem

end Dopedb.Library
