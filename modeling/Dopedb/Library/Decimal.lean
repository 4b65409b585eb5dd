import Mathlib.Algebra.BigOperators.Group.Finset.Basic
import Mathlib.Algebra.BigOperators.Ring.Finset
import Mathlib.Algebra.Order.Field.Rat
import Mathlib.Algebra.Order.Floor.Ring
import Mathlib.Data.Rat.Floor
import Mathlib.Tactic.FieldSimp
import Mathlib.Tactic.Linarith
import Mathlib.Tactic.Positivity
import Mathlib.Tactic.Ring
import Dopedb.Library.Framing

/-!
# Decimal texts

Zero-padded numerals, the number a plain decimal text writes, and the digits of a number behind
the point in any base.
-/

namespace Dopedb.Library

/-! ## Digits -/

/-- The number that decimal digits write. -/
def digitsValue (digits : List Char) : Nat := Nat.ofDigitChars 10 digits 0

/-- A number in decimal, with zeros in front of it up to a width. -/
def padded (width n : Nat) : List Char :=
  List.replicate (width - n.repr.toList.length) '0' ++ n.repr.toList

theorem digits_value_append (digits digits' : List Char) :
    digitsValue (digits ++ digits') = digitsValue digits * 10 ^ digits'.length + digitsValue digits' := by
  unfold digitsValue
  rw [Nat.ofDigitChars_append, Nat.ofDigitChars_eq_ofDigitChars_zero, mul_comm]

theorem repr_to_digits (n : Nat) : n.repr.toList = Nat.toDigits 10 n := by
  rw [Nat.repr_eq_ofList_toDigits, String.toList_ofList]

/-- A numeral writes its number. -/
@[simp] theorem digits_value_repr (n : Nat) : digitsValue n.repr.toList = n := by
  unfold digitsValue
  rw [repr_to_digits, Nat.ofDigitChars_ten_toDigits]

/-- Zeros in front do not change the number. -/
@[simp] theorem digits_value_padded (width n : Nat) : digitsValue (padded width n) = n := by
  have hzeros : digitsValue (List.replicate (width - n.repr.toList.length) '0') = 0 := by
    unfold digitsValue
    rw [Nat.ofDigitChars_replicate_zero, mul_zero]
  rw [padded, digits_value_append, hzeros, digits_value_repr, zero_mul, zero_add]

/-- A number that fits takes exactly the width. -/
theorem length_padded {width n : Nat} (hwidth : 0 < width) (h : n < 10 ^ width) :
    (padded width n).length = width := by
  have hle : n.repr.toList.length ≤ width := by
    rw [repr_to_digits]
    exact (Nat.length_toDigits_le_iff (by decide) hwidth).mpr h
  rw [padded, List.length_append, List.length_replicate]
  omega

/-- A padded number is never empty. -/
theorem padded_ne_nil (width n : Nat) : padded width n ≠ [] := by
  intro h
  have hrepr := (List.append_eq_nil_iff.mp h).2
  exact Nat.repr_ne_empty (String.toList_inj.mp hrepr)

/-- A padded number is made of digits. -/
theorem digit_of_mem_padded {width n : Nat} {c : Char} (h : c ∈ padded width n) :
    c.isDigit = true := by
  rcases List.mem_append.mp h with hzero | hdigit
  · obtain rfl := List.eq_of_mem_replicate hzero
    decide
  · exact digit_of_mem_repr hdigit

/-- Digits write a number below the power of their count. -/
theorem digits_value_lt {digits : List Char} (h : ∀ c ∈ digits, c.isDigit = true) :
    digitsValue digits < 10 ^ digits.length := by
  induction digits using List.reverseRecOn with
  | nil => exact Nat.one_pos
  | append_singleton digits c ih =>
      have hfront := ih fun c' hc' => h c' (List.mem_append_left _ hc')
      have hlast : digitsValue [c] < 10 := by
        have hdigit := h c (List.mem_append_right _ List.mem_cons_self)
        rw [Char.isDigit_iff_toNat] at hdigit
        have hvalue : digitsValue [c] = c.toNat - '0'.toNat := by
          unfold digitsValue
          rw [Nat.ofDigitChars_cons, Nat.ofDigitChars_nil, mul_zero, zero_add]
        have hends : '0'.toNat = 48 ∧ '9'.toNat = 57 := ⟨rfl, rfl⟩
        omega
      rw [digits_value_append, List.length_append, List.length_singleton, pow_one, pow_succ]
      omega

/-- The first digits of a number: the number without its last digits. -/
theorem digits_value_take {digits : List Char} (h : ∀ c ∈ digits, c.isDigit = true) (count : Nat) :
    digitsValue (digits.take count) = digitsValue digits / 10 ^ (digits.length - count) := by
  have hsplit := digits_value_append (digits.take count) (digits.drop count)
  rw [List.take_append_drop, List.length_drop] at hsplit
  have hrest := @digits_value_lt (digits.drop count) fun c hc => h c (List.mem_of_mem_drop hc)
  rw [List.length_drop] at hrest
  rw [hsplit, Nat.mul_comm, Nat.mul_add_div (Nat.pow_pos (by decide)), Nat.div_eq_of_lt hrest,
    add_zero]

/-! ## Texts -/

/-- The number that a text without a sign writes: digits, and maybe a point with more digits. -/
def readUnsigned (text : List Char) : Option ℚ :=
  let whole := text.takeWhile Char.isDigit
  if whole = [] then none
  else
    match text.dropWhile Char.isDigit with
    | [] => some (digitsValue whole)
    | '.' :: places =>
      if places ≠ [] ∧ places.all Char.isDigit then
        some (digitsValue (whole ++ places) / 10 ^ places.length)
      else none
    | _ => none

/-- The number that a plain decimal text writes. -/
def readDecimal : List Char → Option ℚ
  | '-' :: text => (readUnsigned text).map fun value => -value
  | text => readUnsigned text

/-- A sign, digits, and the digits behind the point when there are any. -/
def decimalText (negative : Bool) (whole places : List Char) : List Char :=
  (if negative then ['-'] else []) ++ whole ++ (if places = [] then [] else '.' :: places)

/-- A sign as a factor. -/
def signFactor (negative : Bool) : ℚ := if negative then -1 else 1

/-- What a decimal text writes. -/
theorem read_decimal_text (negative : Bool) {whole places : List Char} (hne : whole ≠ [])
    (hwhole : ∀ c ∈ whole, c.isDigit = true) (hplaces : ∀ c ∈ places, c.isDigit = true) :
    readDecimal (decimalText negative whole places) =
      some (signFactor negative * (digitsValue (whole ++ places) / 10 ^ places.length)) := by
  have hunsigned : readUnsigned (whole ++ (if places = [] then [] else '.' :: places)) =
      some ((digitsValue (whole ++ places) : ℚ) / 10 ^ places.length) := by
    have htail : (if places = [] then [] else '.' :: places).takeWhile Char.isDigit = [] ∧
        (if places = [] then [] else '.' :: places).dropWhile Char.isDigit =
          if places = [] then [] else '.' :: places := by
      split
      · exact ⟨rfl, rfl⟩
      · exact ⟨rfl, rfl⟩
    unfold readUnsigned
    rw [List.takeWhile_append_of_pos hwhole, List.dropWhile_append_of_pos hwhole, htail.1, htail.2,
      List.append_nil, if_neg hne]
    by_cases hempty : places = []
    · rw [if_pos hempty, hempty, List.append_nil, List.length_nil, pow_zero, div_one]
    · rw [if_neg hempty]
      exact if_pos ⟨hempty, List.all_eq_true.mpr hplaces⟩
  cases negative with
  | true =>
      have hread : readDecimal (decimalText true whole places) =
          (readUnsigned (whole ++ (if places = [] then [] else '.' :: places))).map
            fun value => -value := rfl
      have hfactor : signFactor true = -1 := rfl
      rw [hread, hunsigned, Option.map_some, hfactor, neg_one_mul]
  | false =>
      obtain ⟨c, whole', rfl⟩ := List.exists_cons_of_ne_nil hne
      have hminus : c ≠ '-' := by
        rintro rfl
        exact absurd (hwhole _ List.mem_cons_self) (by decide)
      have hread : readDecimal (decimalText false (c :: whole') places) =
          readUnsigned (c :: whole' ++ (if places = [] then [] else '.' :: places)) := by
        unfold readDecimal
        split
        case h_1 heq => exact absurd (List.cons.inj heq).1 hminus
        case h_2 => rfl
      have hfactor : signFactor false = 1 := rfl
      rw [hread, hunsigned, hfactor, one_mul]

/-! ## Behind the point -/

/-- The value of digits behind the point. -/
def pointValue (base : Nat) : List Nat → ℚ
  | [] => 0
  | digit :: digits => (digit + pointValue base digits) / base

/-- The number that the first digits write, with zeros where there are no more. -/
def leadingDigits (base : Nat) (digits : List Nat) : Nat → Nat
  | 0 => 0
  | count + 1 => leadingDigits base digits count * base + digits.getD count 0

/-- Digits behind the point are less than one. -/
theorem point_value_lt {base : Nat} {digits : List Nat} (h : ∀ digit ∈ digits, digit < base) :
    0 ≤ pointValue base digits ∧ pointValue base digits < 1 := by
  induction digits with
  | nil => exact ⟨le_refl _, one_pos⟩
  | cons digit digits ih =>
      obtain ⟨hnonneg, hlt⟩ := ih fun other hother => h other (List.mem_cons_of_mem _ hother)
      have hdigit : (digit : ℚ) + 1 ≤ base := by exact_mod_cast h digit List.mem_cons_self
      have hpos : (0 : ℚ) < base := by
        have hzero : (0 : ℚ) ≤ digit := Nat.cast_nonneg _
        linarith
      rw [pointValue]
      refine ⟨by positivity, ?_⟩
      rw [div_lt_one hpos]
      linarith

/-- Moving the point behind some digits leaves the others behind it. -/
theorem point_value_shift {base : Nat} (hbase : 0 < base) (digits : List Nat) (count : Nat) :
    pointValue base digits * base ^ count =
      leadingDigits base digits count + pointValue base (digits.drop count) := by
  have hne : (base : ℚ) ≠ 0 := by exact_mod_cast hbase.ne'
  induction count with
  | zero => simp [leadingDigits]
  | succ count ih =>
      have hnext : pointValue base (digits.drop count) * base =
          digits.getD count 0 + pointValue base (digits.drop (count + 1)) := by
        by_cases hlt : count < digits.length
        · rw [List.drop_eq_getElem_cons hlt, pointValue, div_mul_cancel₀ _ hne,
            List.getD_eq_getElem _ _ hlt]
        · rw [List.drop_eq_nil_of_le (by omega), List.drop_eq_nil_of_le (by omega),
            List.getD_eq_default _ _ (by omega)]
          simp [pointValue]
      rw [pow_succ, ← mul_assoc, ih, add_mul, hnext, leadingDigits]
      push_cast
      ring

/-- The digits in front of the point after moving it are the whole part. -/
theorem floor_point_value {base : Nat} (hbase : 0 < base) {digits : List Nat}
    (h : ∀ digit ∈ digits, digit < base) (count : Nat) :
    ⌊pointValue base digits * base ^ count⌋ = leadingDigits base digits count := by
  have hrest := @point_value_lt base (digits.drop count) fun digit hdigit =>
    h digit (List.mem_of_mem_drop hdigit)
  rw [point_value_shift hbase, Int.floor_eq_iff]
  push_cast
  exact ⟨by linarith [hrest.1], by linarith [hrest.2]⟩

/-- Digits behind the point as a sum. -/
theorem point_value_sum {base : Nat} (hbase : 0 < base) (digits : List Nat) :
    pointValue base digits =
      ∑ i ∈ Finset.range digits.length, digits.getD i 0 * (base : ℚ) ^ (-(i : Int) - 1) := by
  have hne : (base : ℚ) ≠ 0 := by exact_mod_cast hbase.ne'
  induction digits with
  | nil => rfl
  | cons digit digits ih =>
      rw [pointValue, List.length_cons, Finset.sum_range_succ', ih, add_comm, add_div,
        Finset.sum_div]
      congr 1
      · refine Finset.sum_congr rfl fun i _ => ?_
        have hpow : (base : ℚ) ^ (-((i + 1 : Nat) : Int) - 1) =
            (base : ℚ) ^ (-(i : Int) - 1) / base := by
          rw [div_eq_mul_inv, ← zpow_sub_one₀ hne]
          congr 1
          push_cast
          ring
        rw [hpow, List.getD_cons_succ, mul_div_assoc]
      · rw [List.getD_cons_zero]
        show (digit : ℚ) / base = digit * (base : ℚ) ^ (-1 : Int)
        rw [zpow_neg_one, div_eq_mul_inv]

end Dopedb.Library
