import Mathlib.Data.List.TakeWhile

/-!
# Text primitives of the two languages

Rust and JavaScript trim different sets of blank characters. `isWhitespace` is Rust's
`char::is_whitespace` (the Unicode `White_Space` property) and `isJsBlank` is what
`String.prototype.trim` removes (white space and line terminators of ECMAScript). They differ
on exactly two characters: U+0085 is blank for Rust only, and U+FEFF for JavaScript only.
-/

namespace Dopedb

/-- Rust's `char::is_whitespace`. -/
def isWhitespace (c : Char) : Bool :=
  (9 ≤ c.toNat && c.toNat ≤ 13) || c.toNat == 0x20 || c.toNat == 0x85 || c.toNat == 0xA0 ||
    c.toNat == 0x1680 || (0x2000 ≤ c.toNat && c.toNat ≤ 0x200A) || c.toNat == 0x2028 ||
    c.toNat == 0x2029 || c.toNat == 0x202F || c.toNat == 0x205F || c.toNat == 0x3000

/-- What JavaScript's `trim` removes. -/
def isJsBlank (c : Char) : Bool :=
  (9 ≤ c.toNat && c.toNat ≤ 13) || c.toNat == 0x20 || c.toNat == 0xA0 || c.toNat == 0x1680 ||
    (0x2000 ≤ c.toNat && c.toNat ≤ 0x200A) || c.toNat == 0x2028 || c.toNat == 0x2029 ||
    c.toNat == 0x202F || c.toNat == 0x205F || c.toNat == 0x3000 || c.toNat == 0xFEFF

/-- Remove the leading and trailing characters that are blank. -/
def trimBy (blank : Char → Bool) (text : List Char) : List Char :=
  ((text.dropWhile blank).reverse.dropWhile blank).reverse

/-- Rust's `str::trim`. -/
def trim (text : List Char) : List Char := trimBy isWhitespace text

/-- JavaScript's `String.prototype.trim`. -/
def jsTrim (text : List Char) : List Char := trimBy isJsBlank text

/-- `text.trim().is_empty()`. -/
def isBlank (text : String) : Bool := (trim text.toList).isEmpty

variable {blank : Char → Bool}

/-- Blank characters around a text that neither starts nor ends with one are removed. -/
theorem trim_by_eq {lead text trail : List Char} (hlead : ∀ c ∈ lead, blank c = true)
    (htrail : ∀ c ∈ trail, blank c = true) (hfirst : ∀ c ∈ text.head?, blank c = false)
    (hlast : ∀ c ∈ text.getLast?, blank c = false) :
    trimBy blank (lead ++ text ++ trail) = text := by
  have hstart : (lead ++ text ++ trail).dropWhile blank = (text ++ trail).dropWhile blank := by
    rw [List.append_assoc, List.dropWhile_append_of_pos hlead]
  have hend : (trail.reverse ++ text.reverse).dropWhile blank = text.reverse.dropWhile blank :=
    List.dropWhile_append_of_pos fun c hc => htrail c (List.mem_reverse.mp hc)
  unfold trimBy
  rw [hstart]
  cases text with
  | nil =>
      have hnone : trail.dropWhile blank = [] := List.dropWhile_eq_nil_iff.mpr htrail
      rw [List.nil_append, hnone]
      rfl
  | cons c rest =>
      have hc : blank c = false := hfirst c rfl
      rw [List.cons_append, List.dropWhile_cons_of_neg (by rw [hc]; decide), ← List.cons_append,
        List.reverse_append, hend]
      have hhead : ∀ d ∈ (c :: rest).reverse.head?, blank d = false := by
        rw [List.head?_reverse]
        exact hlast
      cases hreverse : (c :: rest).reverse with
      | nil => simp at hreverse
      | cons d front =>
          rw [hreverse] at hhead
          rw [List.dropWhile_cons_of_neg (by rw [hhead d rfl]; decide), ← hreverse,
            List.reverse_reverse]

/-- A trimmed text lost only blank characters. -/
theorem exists_trim_by (text : List Char) :
    ∃ lead trail, text = lead ++ trimBy blank text ++ trail ∧ (∀ c ∈ lead, blank c = true) ∧
      ∀ c ∈ trail, blank c = true := by
  refine ⟨text.takeWhile blank, ((text.dropWhile blank).reverse.takeWhile blank).reverse, ?_,
    fun c hc => List.mem_takeWhile_imp hc,
    fun c hc => List.mem_takeWhile_imp (List.mem_reverse.mp hc)⟩
  unfold trimBy
  rw [List.append_assoc, ← List.reverse_append, List.takeWhile_append_dropWhile,
    List.reverse_reverse, List.takeWhile_append_dropWhile]

end Dopedb
