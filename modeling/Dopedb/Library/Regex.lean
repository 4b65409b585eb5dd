import Mathlib.Computability.Language

/-!
# Regular expressions

Patterns over characters and whether a whole text matches one, by derivatives. `accepts_iff` is the
main result: the derivatives accept exactly the texts that the pattern describes.
-/

namespace Dopedb.Library

open Computability

/-- A pattern. -/
inductive Regex where
  | empty
  | blank
  | range (low high : Char)
  | seq (first second : Regex)
  | alt (first second : Regex)
  | star (item : Regex)

namespace Regex

/-- A character that stands for itself. -/
def char (c : Char) : Regex := .range c c

/-- The pattern matches the empty text. -/
def nullable : Regex → Bool
  | .empty => false
  | .blank => true
  | .range _ _ => false
  | .seq first second => first.nullable && second.nullable
  | .alt first second => first.nullable || second.nullable
  | .star _ => true

/-- What is left to match after a character. -/
def derivative (c : Char) : Regex → Regex
  | .empty => .empty
  | .blank => .empty
  | .range low high => if low ≤ c ∧ c ≤ high then .blank else .empty
  | .seq first second =>
    if first.nullable then .alt (.seq (first.derivative c) second) (second.derivative c)
    else .seq (first.derivative c) second
  | .alt first second => .alt (first.derivative c) (second.derivative c)
  | .star item => .seq (item.derivative c) (.star item)

/-- A whole text matches. -/
def accepts : Regex → List Char → Bool
  | pattern, [] => pattern.nullable
  | pattern, c :: text => (pattern.derivative c).accepts text

/-- A pattern that may be left out. -/
def optional (item : Regex) : Regex := .alt .blank item

/-- A pattern at least once. -/
def plus (item : Regex) : Regex := .seq item (.star item)

/-- Patterns one after the other. -/
def all : List Regex → Regex
  | [] => .blank
  | first :: rest => .seq first (all rest)

/-- One of several patterns. -/
def any : List Regex → Regex
  | [] => .empty
  | first :: rest => .alt first (any rest)

/-- A text that stands for itself. -/
def text (word : String) : Regex := all (word.toList.map char)

end Regex

/-! ## The texts of a pattern -/

/-- A text that starts with a character, in a product of languages. -/
theorem cons_mem_mul {l m : Language Char} {c : Char} {text : List Char} :
    c :: text ∈ l * m ↔
      (∃ front, c :: front ∈ l ∧ ∃ rest ∈ m, front ++ rest = text) ∨ [] ∈ l ∧ c :: text ∈ m := by
  rw [Language.mem_mul]
  constructor
  · rintro ⟨front, hfront, rest, hrest, happend⟩
    cases front with
    | nil =>
        obtain rfl : rest = c :: text := happend
        exact .inr ⟨hfront, hrest⟩
    | cons d front =>
        rw [List.cons_append] at happend
        obtain ⟨rfl, htext⟩ := List.cons.inj happend
        exact .inl ⟨front, hfront, rest, hrest, htext⟩
  · rintro (⟨front, hfront, rest, hrest, rfl⟩ | ⟨hnil, hrest⟩)
    · exact ⟨c :: front, hfront, rest, hrest, rfl⟩
    · exact ⟨[], hnil, c :: text, hrest, rfl⟩

/-- A text that starts with a character, in the repetitions of a language. -/
theorem cons_mem_kstar {l : Language Char} {c : Char} {text : List Char} :
    c :: text ∈ l∗ ↔ ∃ front, c :: front ∈ l ∧ ∃ rest ∈ l∗, front ++ rest = text := by
  constructor
  · intro h
    obtain ⟨parts, hflatten, hparts⟩ := Language.mem_kstar_iff_exists_nonempty.mp h
    cases parts with
    | nil => cases hflatten
    | cons part parts =>
        obtain ⟨hpart, hne⟩ := hparts part List.mem_cons_self
        obtain ⟨d, front, rfl⟩ := List.exists_cons_of_ne_nil hne
        rw [List.flatten_cons, List.cons_append] at hflatten
        obtain ⟨rfl, rfl⟩ := List.cons.inj hflatten
        refine ⟨front, hpart, parts.flatten, ?_, rfl⟩
        exact Language.join_mem_kstar fun other hother =>
          (hparts other (List.mem_cons_of_mem _ hother)).1
  · rintro ⟨front, hfront, rest, hrest, rfl⟩
    rw [← Language.one_add_self_mul_kstar_eq_kstar]
    exact .inr (Language.append_mem_mul hfront hrest)

namespace Regex

/-- The texts that a pattern describes. -/
@[simp] def language : Regex → Language Char
  | .empty => 0
  | .blank => 1
  | .range low high => {text | ∃ c, text = [c] ∧ low ≤ c ∧ c ≤ high}
  | .seq first second => first.language * second.language
  | .alt first second => first.language + second.language
  | .star item => item.language∗

/-- A pattern is nullable when it describes the empty text. -/
theorem nullable_iff (pattern : Regex) : pattern.nullable = true ↔ [] ∈ pattern.language := by
  induction pattern with
  | empty => exact iff_of_false Bool.false_ne_true (Language.notMem_zero [])
  | blank => exact iff_of_true rfl Language.nil_mem_one
  | range low high =>
      refine iff_of_false Bool.false_ne_true ?_
      rintro ⟨c, hnil, -⟩
      cases hnil
  | seq first second ih ih' =>
      rw [nullable, Bool.and_eq_true, ih, ih', language, Language.mem_mul]
      constructor
      · rintro ⟨hfirst, hsecond⟩
        exact ⟨[], hfirst, [], hsecond, rfl⟩
      · rintro ⟨front, hfront, rest, hrest, hnil⟩
        obtain ⟨rfl, rfl⟩ := List.append_eq_nil_iff.mp hnil
        exact ⟨hfront, hrest⟩
  | alt first second ih ih' => rw [nullable, Bool.or_eq_true, ih, ih', language, Language.mem_add]
  | star item _ => exact iff_of_true rfl (Language.nil_mem_kstar _)

/-- The derivative describes what may stand behind the character. -/
theorem mem_derivative {pattern : Regex} {c : Char} {text : List Char} :
    text ∈ (pattern.derivative c).language ↔ c :: text ∈ pattern.language := by
  induction pattern generalizing text with
  | empty => exact iff_of_false (Language.notMem_zero _) (Language.notMem_zero _)
  | blank => exact iff_of_false (Language.notMem_zero _) (List.cons_ne_nil _ _)
  | range low high =>
      rw [derivative]
      constructor
      · intro h
        split at h
        case isTrue hc =>
            obtain rfl : text = [] := h
            exact ⟨c, rfl, hc⟩
        case isFalse => exact absurd h (Language.notMem_zero _)
      · rintro ⟨d, hd, hlow, hhigh⟩
        obtain ⟨rfl, rfl⟩ := List.cons.inj hd
        rw [if_pos ⟨hlow, hhigh⟩]
        exact Language.nil_mem_one
  | seq first second ih ih' =>
      have hfirst : text ∈ (first.derivative c).language * second.language ↔
          ∃ front, c :: front ∈ first.language ∧ ∃ rest ∈ second.language, front ++ rest = text := by
        rw [Language.mem_mul]
        exact exists_congr fun front => and_congr_left fun _ => ih
      rw [derivative, language, cons_mem_mul, ← nullable_iff]
      split
      case isTrue hnullable =>
          rw [language, Language.mem_add, language, hfirst, ih', hnullable, eq_self, true_and]
      case isFalse hnullable => rw [language, hfirst, iff_false_intro hnullable, false_and, or_false]
  | alt first second ih ih' =>
      rw [derivative, language, language, Language.mem_add, Language.mem_add, ih, ih']
  | star item ih =>
      rw [derivative, language, language, cons_mem_kstar, Language.mem_mul]
      exact exists_congr fun front => and_congr_left fun _ => ih

/-- A pattern accepts the texts that it describes. -/
theorem accepts_iff {pattern : Regex} {text : List Char} :
    pattern.accepts text = true ↔ text ∈ pattern.language := by
  induction text generalizing pattern with
  | nil => rw [accepts, nullable_iff]
  | cons c text ih => rw [accepts, ih, mem_derivative]

theorem mem_char {c : Char} {text : List Char} : text ∈ (char c).language ↔ text = [c] := by
  constructor
  · rintro ⟨d, rfl, hlow, hhigh⟩
    rw [Char.le_antisymm hhigh hlow]
  · rintro rfl
    exact ⟨c, rfl, Char.le_refl c, Char.le_refl c⟩

theorem mem_optional {item : Regex} {text : List Char} :
    text ∈ (optional item).language ↔ text = [] ∨ text ∈ item.language := by
  rw [optional, language, language, Language.mem_add, Language.mem_one]

theorem mem_all_cons {first : Regex} {rest : List Regex} {text : List Char} :
    text ∈ (all (first :: rest)).language ↔
      ∃ front ∈ first.language, ∃ back ∈ (all rest).language, front ++ back = text := by
  rw [all, language, Language.mem_mul]

theorem mem_all_nil {text : List Char} : text ∈ (all []).language ↔ text = [] :=
  Language.mem_one text

theorem mem_all_singleton {only : Regex} {text : List Char} :
    text ∈ (all [only]).language ↔ text ∈ only.language := by
  rw [mem_all_cons]
  constructor
  · rintro ⟨front, hfront, back, hback, rfl⟩
    rwa [mem_all_nil.mp hback, List.append_nil]
  · intro h
    exact ⟨text, h, [], mem_all_nil.mpr rfl, List.append_nil text⟩

theorem mem_any_cons {first : Regex} {rest : List Regex} {text : List Char} :
    text ∈ (any (first :: rest)).language ↔ text ∈ first.language ∨ text ∈ (any rest).language := by
  rw [any, language, Language.mem_add]

theorem mem_any_nil {text : List Char} : text ∉ (any []).language := Language.notMem_zero text

/-- A word describes itself. -/
theorem mem_text {word : String} {text : List Char} :
    text ∈ (Regex.text word).language ↔ text = word.toList := by
  have hall : ∀ (chars text : List Char), text ∈ (all (chars.map char)).language ↔ text = chars := by
    intro chars
    induction chars with
    | nil => exact fun text => mem_all_nil
    | cons c chars ih =>
        intro text
        rw [List.map_cons, mem_all_cons]
        constructor
        · rintro ⟨front, hfront, back, hback, rfl⟩
          rw [mem_char.mp hfront, (ih back).mp hback]
          rfl
        · rintro rfl
          exact ⟨[c], mem_char.mpr rfl, chars, (ih chars).mpr rfl, rfl⟩
  exact hall word.toList text

/-- Repetitions of a pattern for one character are texts of such characters. -/
theorem mem_star_range {low high : Char} {text : List Char} :
    text ∈ (star (range low high)).language ↔ ∀ c ∈ text, low ≤ c ∧ c ≤ high := by
  induction text with
  | nil => exact iff_of_true (Language.nil_mem_kstar _) fun c hc => absurd hc List.not_mem_nil
  | cons c text ih =>
      rw [List.forall_mem_cons, ← ih, language, cons_mem_kstar]
      constructor
      · rintro ⟨front, ⟨d, hd, hrange⟩, rest, hrest, rfl⟩
        obtain ⟨rfl, rfl⟩ := List.cons.inj hd
        exact ⟨hrange, hrest⟩
      · rintro ⟨hrange, hrest⟩
        exact ⟨[], ⟨c, rfl, hrange⟩, text, hrest, rfl⟩

/-- One repetition at least. -/
theorem mem_plus {item : Regex} {text : List Char} :
    text ∈ (plus item).language ↔
      ∃ front ∈ item.language, ∃ back ∈ (star item).language, front ++ back = text := by
  rw [plus, language, Language.mem_mul]

end Regex

end Dopedb.Library
