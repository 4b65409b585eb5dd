import Mathlib.Data.List.GetD
import Mathlib.Tactic.Common

/-!
# Base64

The encoder of RFC 4648 with padding, and the strict reader that accepts exactly what the encoder
writes: four characters a group, padding only at the end, and no unused bit set. The main results
are `decode_iff` and `length_encode`.
-/

namespace Dopedb.Library.Base64

/-- The alphabet, in the order of the values. -/
def alphabet : List Char :=
  "ABCDEFGHIJKLMNOPQRSTUVWXYZabcdefghijklmnopqrstuvwxyz0123456789+/".toList

/-- The character of a value of six bits. -/
def symbol (value : Nat) : Char := alphabet.getD value '='

/-- The value that a character stands for. -/
def value? (c : Char) : Option Nat :=
  if c ∈ alphabet then some (alphabet.idxOf c) else none

/-- The text of some bytes. -/
@[simp] def encode : List UInt8 → List Char
  | [] => []
  | [a] => [symbol (a.toNat / 4), symbol (a.toNat % 4 * 16), '=', '=']
  | [a, b] =>
    [symbol (a.toNat / 4), symbol (a.toNat % 4 * 16 + b.toNat / 16), symbol (b.toNat % 16 * 4), '=']
  | a :: b :: c :: rest =>
    symbol (a.toNat / 4) :: symbol (a.toNat % 4 * 16 + b.toNat / 16) ::
      symbol (b.toNat % 16 * 4 + c.toNat / 64) :: symbol (c.toNat % 64) :: encode rest

/-- The bytes of a text, if some bytes have it. -/
@[simp] def decode : List Char → Option (List UInt8)
  | [] => some []
  | [w, x, '=', '='] => do
    let w ← value? w
    let x ← value? x
    if x % 16 = 0 then some [UInt8.ofNat (w * 4 + x / 16)] else none
  | [w, x, y, '='] => do
    let w ← value? w
    let x ← value? x
    let y ← value? y
    if y % 4 = 0 then
      some [UInt8.ofNat (w * 4 + x / 16), UInt8.ofNat (x % 16 * 16 + y / 4)]
    else none
  | w :: x :: y :: z :: rest => do
    let w ← value? w
    let x ← value? x
    let y ← value? y
    let z ← value? z
    let bytes ← decode rest
    some (UInt8.ofNat (w * 4 + x / 16) :: UInt8.ofNat (x % 16 * 16 + y / 4) ::
      UInt8.ofNat (y % 4 * 64 + z) :: bytes)
  | _ => none

/-! ## Characters and values -/

theorem length_alphabet : alphabet.length = 64 := by decide

theorem nodup_alphabet : alphabet.Nodup := by decide

theorem symbol_mem {value : Nat} (h : value < 64) : symbol value ∈ alphabet := by
  unfold symbol
  rw [List.getD_eq_getElem _ _ (by rw [length_alphabet]; exact h)]
  exact List.getElem_mem _

/-- The character of a value stands for it. -/
theorem value_symbol {value : Nat} (h : value < 64) : value? (symbol value) = some value := by
  have hlt : value < alphabet.length := by rw [length_alphabet]; exact h
  unfold value?
  rw [if_pos (symbol_mem h)]
  unfold symbol
  rw [List.getD_eq_getElem _ _ hlt, nodup_alphabet.idxOf_getElem]

/-- A character that stands for a value is its character. -/
theorem symbol_of_value {c : Char} {value : Nat} (h : value? c = some value) :
    value < 64 ∧ symbol value = c := by
  unfold value? at h
  split at h
  case isTrue hmem =>
      obtain rfl := Option.some.inj h
      have hlt := List.idxOf_lt_length_of_mem hmem
      refine ⟨by rwa [length_alphabet] at hlt, ?_⟩
      unfold symbol
      rw [List.getD_eq_getElem _ _ hlt, List.getElem_idxOf]
  case isFalse => cases h

/-- The padding stands for no value. -/
@[simp] theorem value_padding : value? '=' = none := by decide

theorem symbol_ne_padding {value : Nat} (h : value < 64) : symbol value ≠ '=' := by
  intro heq
  have := value_symbol h
  rw [heq, value_padding] at this
  cases this

/-! ## The round trip -/

/-- Three characters and a fourth, with no padding in the last group. -/
theorem decode_group {w x y z : Char} {rest : List Char} (hz : z ≠ '=') :
    decode (w :: x :: y :: z :: rest) =
      (value? w).bind fun w => (value? x).bind fun x => (value? y).bind fun y =>
        (value? z).bind fun z => (decode rest).bind fun bytes =>
          some (UInt8.ofNat (w * 4 + x / 16) :: UInt8.ofNat (x % 16 * 16 + y / 4) ::
            UInt8.ofNat (y % 4 * 64 + z) :: bytes) := by
  rw [decode]
  · rfl
  · intro _ h
    exact absurd h hz
  · intro h
    exact absurd h hz

/-- The byte that the high bits of one value and the low bits of the next are. -/
theorem byte_eq {n : Nat} {byte : UInt8} (h : n = byte.toNat) : UInt8.ofNat n = byte := by
  rw [h, UInt8.ofNat_toNat]

/-- The bytes of a text that was encoded are read back. -/
theorem decode_encode (bytes : List UInt8) : decode (encode bytes) = some bytes := by
  induction bytes using encode.induct with
  | case1 => rfl
  | case2 a =>
      -- one byte at the end makes two symbols, two make three, and a group of three makes four
      have ha := a.toNat_lt
      show decode [symbol (a.toNat / 4), symbol (a.toNat % 4 * 16), '=', '='] = some [a]
      rw [decode, value_symbol (by omega), value_symbol (by omega)]
      have hbyte : UInt8.ofNat (a.toNat / 4 * 4 + a.toNat % 4 * 16 / 16) = a :=
        byte_eq (by omega)
      simp only [Option.bind_eq_bind, Option.bind_some, hbyte]
      exact if_pos (by omega)
  | case3 a b =>
      have ha := a.toNat_lt
      have hb := b.toNat_lt
      show decode [symbol (a.toNat / 4), symbol (a.toNat % 4 * 16 + b.toNat / 16),
        symbol (b.toNat % 16 * 4), '='] = some [a, b]
      rw [decode, value_symbol (by omega), value_symbol (by omega), value_symbol (by omega)]
      · have hfirst : UInt8.ofNat (a.toNat / 4 * 4 + (a.toNat % 4 * 16 + b.toNat / 16) / 16) = a :=
          byte_eq (by omega)
        have hsecond : UInt8.ofNat ((a.toNat % 4 * 16 + b.toNat / 16) % 16 * 16 +
            b.toNat % 16 * 4 / 4) = b := byte_eq (by omega)
        simp only [Option.bind_eq_bind, Option.bind_some, hfirst, hsecond]
        exact if_pos (by omega)
      · exact symbol_ne_padding (by omega)
  | case4 a b c rest ih =>
      have ha := a.toNat_lt
      have hb := b.toNat_lt
      have hc := c.toNat_lt
      show decode (symbol (a.toNat / 4) :: symbol (a.toNat % 4 * 16 + b.toNat / 16) ::
        symbol (b.toNat % 16 * 4 + c.toNat / 64) :: symbol (c.toNat % 64) :: encode rest) = _
      rw [decode_group (symbol_ne_padding (by omega)), value_symbol (by omega),
        value_symbol (by omega), value_symbol (by omega), value_symbol (by omega), ih]
      have hfirst : UInt8.ofNat (a.toNat / 4 * 4 + (a.toNat % 4 * 16 + b.toNat / 16) / 16) = a :=
        byte_eq (by omega)
      have hsecond : UInt8.ofNat ((a.toNat % 4 * 16 + b.toNat / 16) % 16 * 16 +
          (b.toNat % 16 * 4 + c.toNat / 64) / 4) = b := byte_eq (by omega)
      have hthird : UInt8.ofNat ((b.toNat % 16 * 4 + c.toNat / 64) % 4 * 64 + c.toNat % 64) = c :=
        byte_eq (by omega)
      simp only [Option.bind_some, hfirst, hsecond, hthird]

/-- A text that is read is the text of what is read from it. -/
theorem encode_of_decode {text : List Char} {bytes : List UInt8} (h : decode text = some bytes) :
    encode bytes = text := by
  induction text using decode.induct generalizing bytes with
  | case1 =>
      obtain rfl := Option.some.inj h
      rfl
  | case2 w x =>
      simp only [decode, Option.bind_eq_bind, Option.bind_eq_some_iff,
        Option.ite_none_right_eq_some] at h
      obtain ⟨n, hn, m, hm, hunused, hbytes⟩ := h
      obtain ⟨hnlt, rfl⟩ := symbol_of_value hn
      obtain ⟨hmlt, rfl⟩ := symbol_of_value hm
      obtain rfl := Option.some.inj hbytes
      have hfirst : (UInt8.ofNat (n * 4 + m / 16)).toNat = n * 4 + m / 16 :=
        UInt8.toNat_ofNat_of_lt' (by show _ < 256; omega)
      show [symbol _, symbol _, '=', '='] = _
      rw [hfirst, show (n * 4 + m / 16) / 4 = n by omega,
        show (n * 4 + m / 16) % 4 * 16 = m by omega]
  | case3 w x y hy =>
      rw [decode] at h
      · simp only [Option.bind_eq_bind, Option.bind_eq_some_iff,
          Option.ite_none_right_eq_some] at h
        obtain ⟨n, hn, m, hm, k, hk, hunused, hbytes⟩ := h
        obtain ⟨hnlt, rfl⟩ := symbol_of_value hn
        obtain ⟨hmlt, rfl⟩ := symbol_of_value hm
        obtain ⟨hklt, rfl⟩ := symbol_of_value hk
        obtain rfl := Option.some.inj hbytes
        have hfirst : (UInt8.ofNat (n * 4 + m / 16)).toNat = n * 4 + m / 16 :=
          UInt8.toNat_ofNat_of_lt' (by show _ < 256; omega)
        have hsecond : (UInt8.ofNat (m % 16 * 16 + k / 4)).toNat = m % 16 * 16 + k / 4 :=
          UInt8.toNat_ofNat_of_lt' (by show _ < 256; omega)
        show [symbol _, symbol _, symbol _, '='] = _
        rw [hfirst, hsecond, show (n * 4 + m / 16) / 4 = n by omega,
          show (n * 4 + m / 16) % 4 * 16 + (m % 16 * 16 + k / 4) / 16 = m by omega,
          show (m % 16 * 16 + k / 4) % 16 * 4 = k by omega]
      · exact hy
  | case4 w x y z rest hpadded hpaddedTwice ih =>
      rw [decode] at h
      · simp only [Option.bind_eq_bind, Option.bind_eq_some_iff] at h
        obtain ⟨n, hn, m, hm, k, hk, l, hl, more, hmore, hbytes⟩ := h
        obtain ⟨hnlt, rfl⟩ := symbol_of_value hn
        obtain ⟨hmlt, rfl⟩ := symbol_of_value hm
        obtain ⟨hklt, rfl⟩ := symbol_of_value hk
        obtain ⟨hllt, rfl⟩ := symbol_of_value hl
        obtain rfl := Option.some.inj hbytes
        have hfirst : (UInt8.ofNat (n * 4 + m / 16)).toNat = n * 4 + m / 16 :=
          UInt8.toNat_ofNat_of_lt' (by show _ < 256; omega)
        have hsecond : (UInt8.ofNat (m % 16 * 16 + k / 4)).toNat = m % 16 * 16 + k / 4 :=
          UInt8.toNat_ofNat_of_lt' (by show _ < 256; omega)
        have hthird : (UInt8.ofNat (k % 4 * 64 + l)).toNat = k % 4 * 64 + l :=
          UInt8.toNat_ofNat_of_lt' (by show _ < 256; omega)
        show symbol _ :: symbol _ :: symbol _ :: symbol _ :: encode more = _
        rw [hfirst, hsecond, hthird, ih hmore, show (n * 4 + m / 16) / 4 = n by omega,
          show (n * 4 + m / 16) % 4 * 16 + (m % 16 * 16 + k / 4) / 16 = m by omega,
          show (m % 16 * 16 + k / 4) % 16 * 4 + (k % 4 * 64 + l) / 64 = k by omega,
          show (k % 4 * 64 + l) % 64 = l by omega]
      · exact hpadded
      · exact hpaddedTwice
  | case5 text =>
      -- no other text is read
      rw [decode] at h
      all_goals first | assumption | cases h

/-- A text is read as some bytes exactly when it is their text. -/
theorem decode_iff {text : List Char} {bytes : List UInt8} :
    decode text = some bytes ↔ text = encode bytes := by
  constructor
  · exact fun h => (encode_of_decode h).symm
  · rintro rfl
    exact decode_encode bytes

/-- Every three bytes, and those left at the end, take four characters. -/
theorem length_encode (bytes : List UInt8) :
    (encode bytes).length = (bytes.length + 2) / 3 * 4 := by
  induction bytes using encode.induct with
  | case1 => rfl
  | case2 a => simp [encode]
  | case3 a b => simp [encode]
  | case4 a b c rest ih =>
      show (encode rest).length + 1 + 1 + 1 + 1 = (rest.length + 1 + 1 + 1 + 2) / 3 * 4
      omega

end Dopedb.Library.Base64
