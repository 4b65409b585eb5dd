import Dopedb.Executor.WireBytes
import Dopedb.Library.Decimal

/-!
# NUMERIC text

`pg_numeric_text` of `read_pg_wire.rs`: the binary form of a NUMERIC is a header of four 16-bit
numbers (the count of digits, the weight of the first digit, the sign, the display scale) and the
digits in base 10000. The text is the sign, the digits in front of the point and, behind it, as many
decimal places as the display scale says.
-/

namespace Dopedb.Executor

open Library

def NUMERIC_POSITIVE : Nat := 0x0000
def NUMERIC_NEGATIVE : Nat := 0x4000
def NUMERIC_NAN : Nat := 0xC000
def NUMERIC_POSITIVE_INFINITY : Nat := 0xD000
def NUMERIC_NEGATIVE_INFINITY : Nat := 0xF000

/-- `checked_add` of 32-bit numbers. -/
def i32CheckedAdd (a b : Int) : Option Int :=
  if -2 ^ 31 ≤ a + b ∧ a + b < 2 ^ 31 then some (a + b) else none

/-- The digits of the wire. A byte without a partner is not looked at. -/
def numericDigits : List UInt8 → Option (List Nat)
  | high :: low :: rest => do
    let digit ← signedFromBeBytes 2 [high, low]
    if 0 ≤ digit ∧ digit < 10000 then
      let digits ← numericDigits rest
      pure (digit.toNat :: digits)
    else none
  | _ => some []

/-- `digit_at`: zero on both sides of the digits. -/
def digitAt (digits : List Nat) (index : Int) : Nat :=
  ((usizeTryFrom index).bind fun index => digits[index]?).getD 0

/-- The text in front of the point. -/
def numericWhole (digits : List Nat) (weight : Int) : List Char :=
  if weight < 0 then ['0']
  else
    (List.range (weight.toNat + 1)).flatMap fun (group : Nat) =>
      if group = 0 then (digitAt digits group).repr.toList else padded 4 (digitAt digits group)

/-- The loop behind the point: groups are written until there are enough places. -/
def numericPlaces (digits : List Nat) (scale : Nat) (group : Int) (places : List Char) :
    Option (List Char) :=
  if places.length < scale then
    (i32CheckedAdd group 1).bind fun next =>
      numericPlaces digits scale next (places ++ padded 4 (digitAt digits group))
  else some places
termination_by scale - places.length
decreasing_by
  have hpos : 0 < (padded 4 (digitAt digits group)).length :=
    List.length_pos_iff.mpr (padded_ne_nil 4 _)
  rw [List.length_append]
  omega

/-- `pg_numeric_text` after its header. -/
def numericText (digitCount : Nat) (weight : Int) (sign scale : Nat) (rest : List UInt8) :
    Option (List Char) :=
  if sign = NUMERIC_NAN then some "NaN".toList
  else if sign = NUMERIC_POSITIVE_INFINITY then some "Infinity".toList
  else if sign = NUMERIC_NEGATIVE_INFINITY then some "-Infinity".toList
  else if sign ≠ NUMERIC_POSITIVE ∧ sign ≠ NUMERIC_NEGATIVE then none
  else if rest.length ≠ digitCount * 2 then none
  else
    (numericDigits rest).bind fun digits =>
      let out := (if sign = NUMERIC_NEGATIVE then ['-'] else []) ++ numericWhole digits weight
      if 0 < scale then
        (i32CheckedAdd weight 1).bind fun group =>
          (numericPlaces digits scale group []).map fun places => out ++ '.' :: places.take scale
      else some out

/-- `pg_numeric_text`. -/
def pgNumericText (bytes : List UInt8) : Option (List Char) :=
  (splitAtChecked bytes 8).bind fun (header, rest) =>
    (unsignedFromBeBytes 2 (header.take 2)).bind fun digitCount =>
      (signedFromBeBytes 2 ((header.drop 2).take 2)).bind fun weight =>
        (unsignedFromBeBytes 2 ((header.drop 4).take 2)).bind fun sign =>
          (signedFromBeBytes 2 ((header.drop 6).take 2)).bind fun scale =>
            (usizeTryFrom scale).bind fun scale => numericText digitCount weight sign scale rest

/-! ## The wire form -/

/-- The header of a NUMERIC. -/
def numericHeader (count : Nat) (weight : Int) (sign : Nat) (scale : Int) : List UInt8 :=
  beBytes 2 count ++ (signedToBeBytes 2 weight ++ (beBytes 2 sign ++ signedToBeBytes 2 scale))

/-- The digits of a NUMERIC on the wire. -/
def numericDigitBytes (digits : List Nat) : List UInt8 :=
  digits.flatMap fun digit => signedToBeBytes 2 digit

/-- A finite NUMERIC that the wire can carry. -/
structure NumericWire where
  negative : Bool
  digits : List Nat
  weight : Int
  scale : Nat
  count_lt : digits.length < 2 ^ 16
  digit_lt : ∀ digit ∈ digits, digit < 10000
  weight_range : -2 ^ 15 ≤ weight ∧ weight < 2 ^ 15
  scale_lt : scale < 2 ^ 15

/-- The sign as the header writes it. -/
def NumericWire.sign (n : NumericWire) : Nat :=
  if n.negative then NUMERIC_NEGATIVE else NUMERIC_POSITIVE

/-- The bytes of a finite NUMERIC. -/
def NumericWire.bytes (n : NumericWire) : List UInt8 :=
  numericHeader n.digits.length n.weight n.sign n.scale ++ numericDigitBytes n.digits

/-- The value without its sign: each digit counts by its distance from the point. -/
def NumericWire.magnitude (n : NumericWire) : ℚ :=
  ∑ i ∈ Finset.range n.digits.length, n.digits.getD i 0 * (10000 : ℚ) ^ (n.weight - i)

/-- The value of a finite NUMERIC. -/
def NumericWire.value (n : NumericWire) : ℚ := signFactor n.negative * n.magnitude

/-- The texts of the values that are not numbers, by their signs. -/
def specialText (sign : Nat) : Option (List Char) :=
  if sign = NUMERIC_NAN then some "NaN".toList
  else if sign = NUMERIC_POSITIVE_INFINITY then some "Infinity".toList
  else if sign = NUMERIC_NEGATIVE_INFINITY then some "-Infinity".toList
  else none

/-! ## Reading the wire -/

theorem digit_bytes_cons (digit : Nat) (digits : List Nat) :
    ∃ high low, numericDigitBytes (digit :: digits) = high :: low :: numericDigitBytes digits ∧
      [high, low] = signedToBeBytes 2 digit :=
  ⟨_, _, rfl, rfl⟩

/-- The digit of two bytes, then the digits of the others. -/
theorem numeric_digits_pair (high low : UInt8) (rest : List UInt8) :
    numericDigits (high :: low :: rest) =
      (signedFromBeBytes 2 [high, low]).bind fun digit =>
        if 0 ≤ digit ∧ digit < 10000 then
          (numericDigits rest).bind fun digits => some (digit.toNat :: digits)
        else none := by
  rw [numericDigits]
  rfl

theorem length_digit_bytes (digits : List Nat) :
    (numericDigitBytes digits).length = digits.length * 2 := by
  induction digits with
  | nil => rfl
  | cons digit digits ih =>
      obtain ⟨high, low, heq, -⟩ := digit_bytes_cons digit digits
      rw [heq, List.length_cons, List.length_cons, List.length_cons, ih]
      omega

/-- Digits on the wire are read back. -/
theorem numeric_digits_bytes {digits : List Nat} (h : ∀ digit ∈ digits, digit < 10000) :
    numericDigits (numericDigitBytes digits) = some digits := by
  induction digits with
  | nil => rfl
  | cons digit digits ih =>
      obtain ⟨high, low, heq, hpair⟩ := digit_bytes_cons digit digits
      have hdigit := h digit List.mem_cons_self
      have hhalf : (2 : Int) ^ (8 * 2 - 1) = 32768 := rfl
      have hread : signedFromBeBytes 2 (signedToBeBytes 2 digit) = some (digit : Int) :=
        signed_from_be_bytes (by decide) (by rw [hhalf]; omega) (by rw [hhalf]; omega)
      have hrest := ih fun other hother => h other (List.mem_cons_of_mem _ hother)
      rw [heq, numeric_digits_pair, hpair, hread, Option.bind_some, if_pos (by omega), hrest,
        Option.bind_some, Int.toNat_natCast]

/-- Digits that are read are those of the wire. -/
theorem numeric_digits_read {bytes : List UInt8} {digits : List Nat} {count : Nat}
    (hlength : bytes.length = count * 2) (h : numericDigits bytes = some digits) :
    bytes = numericDigitBytes digits ∧ digits.length = count ∧ ∀ digit ∈ digits, digit < 10000 := by
  induction count generalizing bytes digits with
  | zero =>
      obtain rfl := List.eq_nil_of_length_eq_zero (by omega : bytes.length = 0)
      obtain rfl := Option.some.inj h
      exact ⟨rfl, rfl, nofun⟩
  | succ count ih =>
      obtain ⟨high, low, rest, rfl⟩ : ∃ high low rest, bytes = high :: low :: rest := by
        cases bytes with
        | nil => exact absurd hlength (by rw [List.length_nil]; omega)
        | cons high bytes =>
            cases bytes with
            | nil => exact absurd hlength (by rw [List.length_singleton]; omega)
            | cons low rest => exact ⟨high, low, rest, rfl⟩
      rw [numeric_digits_pair, Option.bind_eq_some_iff] at h
      obtain ⟨digit, hdigit, h⟩ := h
      split at h
      case isFalse => exact absurd h nofun
      case isTrue hrange =>
          obtain ⟨digits', hrest, heq⟩ := Option.bind_eq_some_iff.mp h
          obtain rfl := Option.some.inj heq
          have hcount : rest.length = count * 2 := by
            rw [List.length_cons, List.length_cons] at hlength
            omega
          obtain ⟨hbytes, hdigits, hlt⟩ := ih hcount hrest
          obtain ⟨hpair, -⟩ := signed_read (by decide) hdigit
          have hcast : (digit.toNat : Int) = digit := Int.toNat_of_nonneg hrange.1
          refine ⟨?_, by rw [List.length_cons, hdigits], ?_⟩
          · obtain ⟨high', low', hcons, hpair'⟩ := digit_bytes_cons digit.toNat digits'
            rw [hcast, ← hpair] at hpair'
            obtain ⟨rfl, hlow⟩ := List.cons.inj hpair'
            obtain ⟨rfl, -⟩ := List.cons.inj hlow
            rw [hcons, ← hbytes]
          · intro other hother
            cases List.mem_cons.mp hother with
            | inl heq => omega
            | inr hmem => exact hlt other hmem

/-- The four fields of a header. -/
theorem header_fields {count weight sign scale : List UInt8} (hcount : count.length = 2)
    (hweight : weight.length = 2) (hsign : sign.length = 2) (hscale : scale.length = 2) :
    (count ++ (weight ++ (sign ++ scale))).take 2 = count ∧
      ((count ++ (weight ++ (sign ++ scale))).drop 2).take 2 = weight ∧
      ((count ++ (weight ++ (sign ++ scale))).drop 4).take 2 = sign ∧
      ((count ++ (weight ++ (sign ++ scale))).drop 6).take 2 = scale := by
  obtain ⟨_, _, rfl⟩ := List.length_eq_two.mp hcount
  obtain ⟨_, _, rfl⟩ := List.length_eq_two.mp hweight
  obtain ⟨_, _, rfl⟩ := List.length_eq_two.mp hsign
  obtain ⟨_, _, rfl⟩ := List.length_eq_two.mp hscale
  exact ⟨rfl, rfl, rfl, rfl⟩

/-- The header of a text that is written, and what is left to `numericText`. -/
theorem pg_numeric_text_iff {bytes : List UInt8} {text : List Char} :
    pgNumericText bytes = some text ↔
      ∃ (count : Nat) (weight : Int) (sign scale : Nat) (rest : List UInt8),
        bytes = numericHeader count weight sign scale ++ rest ∧ count < 2 ^ 16 ∧
        (-2 ^ 15 ≤ weight ∧ weight < 2 ^ 15) ∧ sign < 2 ^ 16 ∧ scale < 2 ^ 15 ∧
        numericText count weight sign scale rest = some text := by
  have hhalf : (2 : Int) ^ (8 * 2 - 1) = 2 ^ 15 := rfl
  constructor
  · intro h
    simp only [pgNumericText, Option.bind_eq_some_iff] at h
    obtain ⟨⟨header, rest⟩, hsplit, count, hcount, weight, hweight, sign, hsign, scale, hscale, size,
      hsize, htext⟩ := h
    obtain ⟨rfl, hlength⟩ := split_at_checked_iff.mp hsplit
    obtain ⟨hcount, hcount'⟩ := unsigned_read hcount
    obtain ⟨hweight, hlow, hhigh⟩ := signed_read (by decide) hweight
    obtain ⟨hsign, hsign'⟩ := unsigned_read hsign
    obtain ⟨hscale, -, hscale'⟩ := signed_read (by decide) hscale
    obtain rfl := usize_try_from_iff.mp hsize
    rw [hhalf] at hlow hhigh hscale'
    refine ⟨count, weight, sign, size, rest, ?_, hcount', ⟨hlow, hhigh⟩, hsign',
      by exact_mod_cast hscale', htext⟩
    -- the header is its four fields, of two bytes each
    have hlast : (header.drop 6).take 2 = header.drop 6 := List.take_of_length_le (by
      rw [List.length_drop]
      omega)
    rw [hlast] at hscale
    have hthird := (List.take_append_drop 2 (header.drop 4)).symm
    have hsecond := (List.take_append_drop 2 (header.drop 2)).symm
    have hfirst := (List.take_append_drop 2 header).symm
    rw [List.drop_drop, hsign, hscale] at hthird
    rw [List.drop_drop, hweight, hthird] at hsecond
    rw [hcount, hsecond] at hfirst
    rw [hfirst]
    rfl
  · rintro ⟨count, weight, sign, scale, rest, rfl, hcount, ⟨hlow, hhigh⟩, hsign, hscale, htext⟩
    have hlength : ∀ n, (signedToBeBytes 2 n).length = 2 := fun n => length_be_bytes 2 _
    have hheader : (numericHeader count weight sign scale).length = 8 := by
      unfold numericHeader
      simp only [List.length_append, length_be_bytes, hlength]
    obtain ⟨hfirst, hsecond, hthird, hlast⟩ := header_fields (length_be_bytes 2 count)
      (hlength weight) (length_be_bytes 2 sign) (hlength scale)
    have hcount' : unsignedFromBeBytes 2 (beBytes 2 count) = some count :=
      unsigned_from_be_bytes hcount
    have hsign' : unsignedFromBeBytes 2 (beBytes 2 sign) = some sign := unsigned_from_be_bytes hsign
    have hweight' : signedFromBeBytes 2 (signedToBeBytes 2 weight) = some weight :=
      signed_from_be_bytes (by decide) hlow hhigh
    have hscale' : signedFromBeBytes 2 (signedToBeBytes 2 scale) = some (scale : Int) :=
      signed_from_be_bytes (by decide) (by rw [hhalf]; omega) (by rw [hhalf]; omega)
    simp only [pgNumericText, Option.bind_eq_some_iff]
    refine ⟨(numericHeader count weight sign scale, rest), split_at_checked_iff.mpr ⟨rfl, hheader⟩,
      count, ?_, weight, ?_, sign, ?_, scale, ?_, scale, usize_try_from_iff.mpr rfl, htext⟩
    · rw [numericHeader, hfirst, hcount']
    · rw [numericHeader, hsecond, hweight']
    · rw [numericHeader, hthird, hsign']
    · rw [numericHeader, hlast, hscale']

/-! ## The digits of the text -/

/-- The text of some groups from one on. -/
def groupText (digits : List Nat) (group : Int) (count : Nat) : List Char :=
  (List.range count).flatMap fun (i : Nat) => padded 4 (digitAt digits (group + i))

theorem group_text_succ (digits : List Nat) (group : Int) (count : Nat) :
    groupText digits group (count + 1) =
      groupText digits group count ++ padded 4 (digitAt digits (group + count)) := by
  unfold groupText
  rw [List.range_succ, List.flatMap_append, List.flatMap_singleton]

theorem group_text_cons (digits : List Nat) (group : Int) (count : Nat) :
    groupText digits group (count + 1) =
      padded 4 (digitAt digits group) ++ groupText digits (group + 1) count := by
  induction count with
  | zero => simp [groupText]
  | succ count ih =>
      have hgroup : group + ((count + 1 : Nat) : Int) = group + 1 + count := by
        push_cast
        ring
      rw [group_text_succ, ih, group_text_succ, List.append_assoc, hgroup]

/-- In front of the digits there are zeros. -/
theorem digit_at_neg {digits : List Nat} {index : Int} (h : index < 0) : digitAt digits index = 0 := by
  unfold digitAt usizeTryFrom
  rw [if_neg (by omega)]
  rfl

theorem digit_at_nat (digits : List Nat) (index : Nat) :
    digitAt digits index = digits.getD index 0 := by
  unfold digitAt usizeTryFrom
  rw [if_pos (by omega), List.getD_eq_getElem?_getD]
  rfl

section Digits

variable {digits : List Nat} (hdigits : ∀ digit ∈ digits, digit < 10000)

include hdigits

theorem digit_at_lt (index : Int) : digitAt digits index < 10 ^ 4 := by
  rcases Int.lt_or_le index 0 with hneg | hnonneg
  · rw [digit_at_neg hneg]
    decide
  · obtain ⟨index, rfl⟩ := Int.eq_ofNat_of_zero_le hnonneg
    rw [digit_at_nat, List.getD_eq_getElem?_getD]
    cases hget : digits[index]? with
    | none => decide
    | some digit => exact hdigits digit (List.mem_of_getElem? hget)

theorem length_group_text (group : Int) (count : Nat) :
    (groupText digits group count).length = 4 * count := by
  induction count with
  | zero => rfl
  | succ count ih =>
      rw [group_text_succ, List.length_append, ih,
        length_padded (by decide) (digit_at_lt hdigits _)]
      omega

/-- The loop writes as many groups as the places need, and ends. -/
theorem numeric_places_eq {scale turns : Nat} {group : Int} {places : List Char}
    (hturns : turns = (scale - places.length + 3) / 4) (hlow : -2 ^ 31 ≤ group)
    (hhigh : group + turns < 2 ^ 31) :
    numericPlaces digits scale group places = some (places ++ groupText digits group turns) := by
  induction turns generalizing group places with
  | zero =>
      have hdone : ¬places.length < scale := by omega
      rw [numericPlaces, if_neg hdone, groupText, List.range_zero, List.flatMap_nil,
        List.append_nil]
  | succ turns ih =>
      have hnext : i32CheckedAdd group 1 = some (group + 1) := if_pos (by omega)
      have hlength := length_padded (by decide) (digit_at_lt hdigits group)
      have hrest := @ih (group + 1) (places ++ padded 4 (digitAt digits group))
        (by rw [List.length_append]; omega) (by omega) (by push_cast at hhigh; omega)
      rw [numericPlaces, if_pos (by omega), hnext, Option.bind_some, hrest, group_text_cons,
        List.append_assoc]

/-- The digits written so far, as a number. -/
theorem digits_value_groups (weight : Int) (count : Nat) :
    digitsValue (numericWhole digits weight ++ groupText digits (weight + 1) count) =
      leadingDigits 10000 digits (weight + 1 + count).toNat := by
  have hstep : ∀ (text : List Char) (group : Int),
      digitsValue text = leadingDigits 10000 digits group.toNat →
      digitsValue (text ++ padded 4 (digitAt digits group)) =
        leadingDigits 10000 digits (group + 1).toNat := by
    intro text group htext
    rw [digits_value_append, length_padded (by decide) (digit_at_lt hdigits group),
      digits_value_padded, htext]
    rcases Int.lt_or_le group 0 with hneg | hnonneg
    · have hbefore : group.toNat = 0 ∧ (group + 1).toNat = 0 := by omega
      rw [digit_at_neg hneg, hbefore.1, hbefore.2, add_zero]
      exact zero_mul _
    · obtain ⟨index, rfl⟩ := Int.eq_ofNat_of_zero_le hnonneg
      have hnext : ((index : Int) + 1).toNat = index + 1 := by omega
      rw [digit_at_nat, hnext]
      rfl
  have hwhole : digitsValue (numericWhole digits weight) =
      leadingDigits 10000 digits (weight + 1).toNat := by
    unfold numericWhole
    split
    case isTrue hneg =>
        have hbefore : (weight + 1).toNat = 0 := by omega
        rw [hbefore]
        rfl
    case isFalse hnonneg =>
        obtain ⟨last, rfl⟩ := Int.eq_ofNat_of_zero_le (by omega : 0 ≤ weight)
        have hlast : ((last : Int)).toNat = last := Int.toNat_natCast last
        rw [hlast]
        clear hlast hnonneg
        induction last with
        | zero =>
            show digitsValue ((digitAt digits (0 : Nat)).repr.toList ++ []) = _
            rw [List.append_nil, digits_value_repr, digit_at_nat]
            simp [leadingDigits]
        | succ last ih =>
            rw [List.range_succ, List.flatMap_append, List.flatMap_singleton, if_neg (by omega)]
            exact hstep _ _ ih
  induction count with
  | zero =>
      rw [groupText, List.range_zero, List.flatMap_nil, List.append_nil, hwhole]
      simp
  | succ count ih =>
      rw [group_text_succ, ← List.append_assoc, hstep _ _ ih]
      congr 2
      push_cast
      ring

end Digits

/-- The text in front of the point is made of digits. -/
theorem digit_of_mem_whole {digits : List Nat} {weight : Int} {c : Char}
    (h : c ∈ numericWhole digits weight) : c.isDigit = true := by
  unfold numericWhole at h
  split at h
  · rw [List.mem_singleton] at h
    rw [h]
    decide
  · rw [List.mem_flatMap] at h
    obtain ⟨group, -, hmem⟩ := h
    split at hmem
    · exact digit_of_mem_repr hmem
    · exact digit_of_mem_padded hmem

theorem digit_of_mem_groups {digits : List Nat} {group : Int} {count : Nat} {c : Char}
    (h : c ∈ groupText digits group count) : c.isDigit = true := by
  unfold groupText at h
  rw [List.mem_flatMap] at h
  obtain ⟨i, -, hmem⟩ := h
  exact digit_of_mem_padded hmem

/-- There is always a digit in front of the point. -/
theorem numeric_whole_ne_nil (digits : List Nat) (weight : Int) : numericWhole digits weight ≠ [] := by
  unfold numericWhole
  split
  · exact List.cons_ne_nil _ _
  · intro hnil
    rw [List.range_succ_eq_map, List.flatMap_cons, List.append_eq_nil_iff, if_pos rfl] at hnil
    exact Nat.repr_ne_empty (String.toList_inj.mp hnil.1)

/-! ## The text of a finite NUMERIC -/

/-- The groups written behind the point. -/
def NumericWire.groups (n : NumericWire) : Nat := (n.scale + 3) / 4

/-- The decimal places of the text. -/
def NumericWire.places (n : NumericWire) : List Char :=
  (groupText n.digits (n.weight + 1) n.groups).take n.scale

/-- The text of a finite NUMERIC. -/
def NumericWire.text (n : NumericWire) : List Char :=
  decimalText n.negative (numericWhole n.digits n.weight) n.places

theorem NumericWire.length_places (n : NumericWire) : n.places.length = n.scale := by
  unfold NumericWire.places NumericWire.groups
  rw [List.length_take, length_group_text n.digit_lt]
  omega

/-- The value with the point in front of its digits. -/
theorem NumericWire.magnitude_eq (n : NumericWire) :
    n.magnitude = pointValue 10000 n.digits * (10000 : ℚ) ^ (n.weight + 1) := by
  have hbase : ((10000 : Nat) : ℚ) = 10000 := by norm_num
  rw [point_value_sum (by decide), Finset.sum_mul, hbase]
  refine Finset.sum_congr rfl fun i _ => ?_
  rw [mul_assoc, ← zpow_add₀ (by norm_num)]
  congr 2
  ring

/-- The digits in front of the point after moving it by some groups. -/
theorem NumericWire.floor_groups (n : NumericWire) (count : Nat) :
    ⌊n.magnitude * 10000 ^ count⌋ =
      (leadingDigits 10000 n.digits (n.weight + 1 + count).toNat : Int) := by
  have hbase : ((10000 : Nat) : ℚ) = 10000 := by norm_num
  have hshift : n.magnitude * 10000 ^ count =
      pointValue 10000 n.digits * (10000 : ℚ) ^ (n.weight + 1 + count) := by
    rw [n.magnitude_eq, mul_assoc, ← zpow_natCast, ← zpow_add₀ (by norm_num)]
  rw [hshift]
  rcases Int.lt_or_le (n.weight + 1 + count) 0 with hneg | hnonneg
  · have hzero : (n.weight + 1 + count).toNat = 0 := by omega
    obtain ⟨hpoint, hpoint'⟩ := point_value_lt n.digit_lt
    have hpow : (10000 : ℚ) ^ (n.weight + 1 + count) ≤ 1 :=
      zpow_le_one_of_nonpos₀ (by norm_num) (by omega)
    have hpow' : (0 : ℚ) < (10000 : ℚ) ^ (n.weight + 1 + count) := by positivity
    rw [hzero, Int.floor_eq_iff]
    show ((0 : Int) : ℚ) ≤ _ ∧ _ < ((0 : Int) : ℚ) + 1
    constructor
    · push_cast
      positivity
    · push_cast
      nlinarith
  · obtain ⟨shift, hshift⟩ := Int.eq_ofNat_of_zero_le hnonneg
    have hfloor := @floor_point_value 10000 (by decide) _ n.digit_lt shift
    rw [hbase] at hfloor
    rw [hshift, zpow_natCast, hfloor]
    rfl

/-- The digits of the text are the value cut off behind the display scale. -/
theorem NumericWire.digits_value_text (n : NumericWire) :
    (digitsValue (numericWhole n.digits n.weight ++ n.places) : Int) =
      ⌊n.magnitude * 10 ^ n.scale⌋ := by
  have hgroups := digits_value_groups n.digit_lt n.weight n.groups
  have hlength := length_group_text n.digit_lt (n.weight + 1) n.groups
  obtain ⟨rest, hrest⟩ : ∃ rest, 4 * n.groups = n.scale + rest := ⟨4 * n.groups - n.scale, by
    unfold NumericWire.groups
    omega⟩
  have htake : numericWhole n.digits n.weight ++ n.places =
      (numericWhole n.digits n.weight ++ groupText n.digits (n.weight + 1) n.groups).take
        ((numericWhole n.digits n.weight).length + n.scale) := by
    rw [List.take_length_add_append]
    rfl
  have hall : ∀ c ∈ numericWhole n.digits n.weight ++ groupText n.digits (n.weight + 1) n.groups,
      c.isDigit = true := by
    intro c hc
    rcases List.mem_append.mp hc with hmem | hmem
    · exact digit_of_mem_whole hmem
    · exact digit_of_mem_groups hmem
  have hcut : (numericWhole n.digits n.weight ++
      groupText n.digits (n.weight + 1) n.groups).length -
        ((numericWhole n.digits n.weight).length + n.scale) = rest := by
    rw [List.length_append, hlength]
    omega
  have hscaled : n.magnitude * 10 ^ n.scale = n.magnitude * 10000 ^ n.groups / (10 ^ rest : Nat) := by
    have hpow : (10000 : ℚ) ^ n.groups = 10 ^ n.scale * 10 ^ rest := by
      rw [← pow_add, ← hrest, pow_mul]
      norm_num
    push_cast
    rw [hpow]
    field_simp
  rw [htake, digits_value_take hall, hcut, hgroups, hscaled, Int.floor_div_natCast, n.floor_groups]
  push_cast
  rfl

/-- What is written for digits that are read. -/
theorem NumericWire.numeric_text (n : NumericWire) :
    numericText n.digits.length n.weight n.sign n.scale (numericDigitBytes n.digits) =
      some n.text := by
  have hsign : n.sign ≠ NUMERIC_NAN ∧ n.sign ≠ NUMERIC_POSITIVE_INFINITY ∧
      n.sign ≠ NUMERIC_NEGATIVE_INFINITY ∧
      ¬(n.sign ≠ NUMERIC_POSITIVE ∧ n.sign ≠ NUMERIC_NEGATIVE) ∧
      (n.sign = NUMERIC_NEGATIVE ↔ n.negative = true) := by
    unfold NumericWire.sign
    cases n.negative <;> decide
  obtain ⟨hnan, hpositive, hnegative, hknown, hminus⟩ := hsign
  have hout : (if n.sign = NUMERIC_NEGATIVE then ['-'] else []) ++ numericWhole n.digits n.weight =
      (if n.negative then ['-'] else []) ++ numericWhole n.digits n.weight := by
    simp only [hminus]
  obtain ⟨hlow, hhigh⟩ := n.weight_range
  have hscale := n.scale_lt
  unfold numericText
  rw [if_neg hnan, if_neg hpositive, if_neg hnegative, if_neg hknown,
    if_neg (by rw [length_digit_bytes]; exact fun h => h rfl), numeric_digits_bytes n.digit_lt,
    Option.bind_some]
  dsimp only
  rw [hout, NumericWire.text, decimalText]
  split
  case isTrue hpos =>
      have hgroup : i32CheckedAdd n.weight 1 = some (n.weight + 1) := if_pos (by omega)
      have hloop := @numeric_places_eq _ n.digit_lt n.scale n.groups
        (n.weight + 1) [] rfl (by omega) (by
          unfold NumericWire.groups
          omega)
      have hplaces : n.places ≠ [] := by
        intro hnil
        have hlength := n.length_places
        rw [hnil, List.length_nil] at hlength
        omega
      rw [hgroup, Option.bind_some, hloop, Option.map_some, if_neg hplaces]
      rfl
  case isFalse hzero =>
      have hplaces : n.places = [] := List.eq_nil_of_length_eq_zero (by
        rw [n.length_places]
        omega)
      rw [if_pos hplaces, List.append_nil]

/-- What is left to `numericText` is the digits of a finite NUMERIC, or the sign says it all. -/
theorem numeric_text_cases {count : Nat} {weight : Int} {sign scale : Nat} {rest : List UInt8}
    {text : List Char} (hcount : count < 2 ^ 16) (hweight : -2 ^ 15 ≤ weight ∧ weight < 2 ^ 15)
    (hscale : scale < 2 ^ 15) (h : numericText count weight sign scale rest = some text) :
    specialText sign = some text ∨
      ∃ n : NumericWire, n.digits.length = count ∧ n.weight = weight ∧ n.sign = sign ∧
        n.scale = scale ∧ rest = numericDigitBytes n.digits := by
  unfold numericText at h
  unfold specialText
  split at h
  case isTrue hnan => exact .inl (by rw [if_pos hnan]; exact h)
  case isFalse hnan =>
      split at h
      case isTrue hpositive => exact .inl (by rw [if_neg hnan, if_pos hpositive]; exact h)
      case isFalse hpositive =>
          split at h
          case isTrue hnegative =>
              exact .inl (by rw [if_neg hnan, if_neg hpositive, if_pos hnegative]; exact h)
          case isFalse hnegative =>
              split at h
              case isTrue => exact absurd h nofun
              case isFalse hknown =>
                  split at h
                  case isTrue => exact absurd h nofun
                  case isFalse hlength =>
                      obtain ⟨digits, hdigits, -⟩ := Option.bind_eq_some_iff.mp h
                      obtain ⟨hrest, hdcount, hlt⟩ :=
                        numeric_digits_read (not_not.mp hlength) hdigits
                      refine .inr ⟨⟨sign == NUMERIC_NEGATIVE, digits, weight, scale,
                        by rw [hdcount]; exact hcount, hlt, hweight, hscale⟩, hdcount, rfl, ?_, rfl,
                        hrest⟩
                      unfold NumericWire.sign
                      split
                      case isTrue heq => exact (beq_iff_eq.mp heq).symm
                      case isFalse hne =>
                          have hother : sign ≠ NUMERIC_NEGATIVE := fun heq =>
                            hne (beq_iff_eq.mpr heq)
                          exact (not_not.mp fun hzero => hknown ⟨hzero, hother⟩).symm

/-- A sign that says it all is not followed by digits that are looked at. -/
theorem numeric_text_special {count : Nat} {weight : Int} {sign scale : Nat} {rest : List UInt8}
    {text : List Char} (h : specialText sign = some text) :
    numericText count weight sign scale rest = some text := by
  unfold specialText at h
  unfold numericText
  split
  case isTrue hnan => rwa [if_pos hnan] at h
  case isFalse hnan =>
      rw [if_neg hnan] at h
      split
      case isTrue hpositive => rwa [if_pos hpositive] at h
      case isFalse hpositive =>
          rw [if_neg hpositive] at h
          split
          case isTrue hnegative => rwa [if_pos hnegative] at h
          case isFalse hnegative =>
              rw [if_neg hnegative] at h
              exact absurd h nofun

/-- A well-formed NUMERIC: the header counts the digits that follow, each is below 10000, and the
sign is known. -/
def WellFormedNumeric (bytes : List UInt8) : Prop :=
  ∃ (weight : Int) (sign : Nat) (scale : Int) (digits : List Nat),
    bytes = numericHeader digits.length weight sign scale ++ numericDigitBytes digits ∧
      digits.length < 2 ^ 16 ∧ (∀ digit ∈ digits, digit < 10000) ∧
      sign ∈ [NUMERIC_POSITIVE, NUMERIC_NEGATIVE, NUMERIC_NAN, NUMERIC_POSITIVE_INFINITY,
        NUMERIC_NEGATIVE_INFINITY]

/-- The text of a NUMERIC is exact. Some text is written exactly for a finite NUMERIC with the
digits its header counts, and for a header whose sign stands for NaN or an infinity, whatever
follows it. The text of a finite NUMERIC has as many decimal places as its display scale, it writes
the value cut off behind them, and so the value itself when the digits fit the scale. -/
theorem numeric_text_exact :
    (∀ bytes text, pgNumericText bytes = some text ↔
      (∃ n : NumericWire, bytes = n.bytes ∧ text = n.text) ∨
      ∃ (count : Nat) (weight : Int) (sign scale : Nat) (rest : List UInt8),
        bytes = numericHeader count weight sign scale ++ rest ∧ count < 2 ^ 16 ∧
        (-2 ^ 15 ≤ weight ∧ weight < 2 ^ 15) ∧ sign < 2 ^ 16 ∧ scale < 2 ^ 15 ∧
        specialText sign = some text) ∧
    ∀ n : NumericWire,
      (∃ whole places, n.text = decimalText n.negative whole places ∧ whole ≠ [] ∧
        (∀ c ∈ whole ++ places, c.isDigit = true) ∧ places.length = n.scale) ∧
      readDecimal n.text = some (signFactor n.negative *
        (⌊n.magnitude * 10 ^ n.scale⌋ / 10 ^ n.scale)) ∧
      ((∃ units : Int, n.magnitude * 10 ^ n.scale = units) →
        readDecimal n.text = some n.value) := by
  constructor
  · intro bytes text
    rw [pg_numeric_text_iff]
    constructor
    · rintro ⟨count, weight, sign, scale, rest, rfl, hcount, hweight, hsign, hscale, htext⟩
      rcases numeric_text_cases hcount hweight hscale htext with hspecial | hfinite
      · exact .inr ⟨count, weight, sign, scale, rest, rfl, hcount, hweight, hsign, hscale, hspecial⟩
      · obtain ⟨n, rfl, rfl, rfl, rfl, rfl⟩ := hfinite
        rw [n.numeric_text] at htext
        exact .inl ⟨n, rfl, (Option.some.inj htext).symm⟩
    · rintro (⟨n, rfl, rfl⟩ |
        ⟨count, weight, sign, scale, rest, rfl, hcount, hweight, hsign, hscale, hspecial⟩)
      · have hsign : n.sign < 2 ^ 16 := by
          unfold NumericWire.sign
          split <;> decide
        exact ⟨n.digits.length, n.weight, n.sign, n.scale, numericDigitBytes n.digits, rfl,
          n.count_lt, n.weight_range, hsign, n.scale_lt, n.numeric_text⟩
      · exact ⟨count, weight, sign, scale, rest, rfl, hcount, hweight, hsign, hscale,
          numeric_text_special hspecial⟩
  · intro n
    have hplaces : ∀ c ∈ n.places, c.isDigit = true := fun c hc =>
      digit_of_mem_groups (List.mem_of_mem_take hc)
    have hwhole : ∀ c ∈ numericWhole n.digits n.weight, c.isDigit = true := fun c hc =>
      digit_of_mem_whole hc
    have hread : readDecimal n.text = some (signFactor n.negative *
        (⌊n.magnitude * 10 ^ n.scale⌋ / 10 ^ n.scale)) := by
      rw [NumericWire.text, read_decimal_text n.negative (numeric_whole_ne_nil _ _) hwhole hplaces,
        n.length_places, ← n.digits_value_text]
      push_cast
      rfl
    refine ⟨⟨_, n.places, rfl, numeric_whole_ne_nil _ _, ?_, n.length_places⟩, hread, ?_⟩
    · intro c hc
      exact (List.mem_append.mp hc).elim (hwhole c) (hplaces c)
    · rintro ⟨units, hunits⟩
      have hpow : (10 : ℚ) ^ n.scale ≠ 0 := by positivity
      rw [hread, NumericWire.value, hunits, Int.floor_intCast, ← hunits, mul_div_cancel_right₀ _ hpow]

/-- A header that counts a digit which is not there is read when its sign is that of NaN. -/
theorem nan_digits_unchecked :
    ¬∀ bytes text, pgNumericText bytes = some text → WellFormedNumeric bytes := by
  intro h
  have hread : pgNumericText (numericHeader 1 0 NUMERIC_NAN 0) = some "NaN".toList := by decide
  obtain ⟨weight, sign, scale, digits, hbytes, hcount, -, -⟩ := h _ _ hread
  have hlength := congrArg List.length hbytes
  have hheader : ∀ count weight sign scale, (numericHeader count weight sign scale).length = 8 := by
    intro count weight sign scale
    unfold numericHeader signedToBeBytes
    simp only [List.length_append, length_be_bytes]
  rw [List.length_append, hheader, hheader, length_digit_bytes] at hlength
  obtain rfl := List.eq_nil_of_length_eq_zero (by omega : digits.length = 0)
  have hfirst := congrArg (List.take 2) hbytes
  exact absurd hfirst (by
    rw [List.take_append_of_le_length (by rw [hheader]; decide)]
    show ([0, 1] : List UInt8) ≠ [0, 0]
    decide)

end Dopedb.Executor
