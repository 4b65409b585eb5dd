import Mathlib.Data.List.Basic

/-!
# The first occurrence of a list in a list

`find` is the place where a list occurs first. A needle that occurs first at some place has not
occurred when the search is there.
-/

namespace Dopedb.Library

universe u

variable {α : Type u} [DecidableEq α]

/-- The place of the first occurrence of the needle in a text. -/
def find (needle : List α) : List α → Option Nat
  | [] => if needle = [] then some 0 else none
  | a :: text => if needle <+: a :: text then some 0 else (find needle text).map (· + 1)

variable {needle text front rest : List α} {n : Nat}

theorem find_nil : find needle [] = if needle = [] then some 0 else none := rfl

theorem find_cons {a : α} : find needle (a :: text) =
    if needle <+: a :: text then some 0 else (find needle text).map (· + 1) := rfl

/-- A needle that the text begins with is found at once. -/
theorem find_of_prefix (h : needle <+: text) : find needle text = some 0 := by
  cases text with
  | nil => rw [find_nil, if_pos (List.prefix_nil.mp h)]
  | cons a text => rw [find_cons, if_pos h]

/-- A needle that is found later is not there yet. -/
theorem find_cons_succ {a : α} :
    find needle (a :: text) = some (n + 1) ↔
      ¬ needle <+: a :: text ∧ find needle text = some n := by
  rw [find_cons]
  split
  · next h => simp [h]
  · next h => simp [h]

/-- A needle that is not found is not there, and not found later. -/
theorem find_cons_none {a : α} :
    find needle (a :: text) = none ↔ ¬ needle <+: a :: text ∧ find needle text = none := by
  rw [find_cons]
  split
  · next h => simp [h]
  · next h => simp [h]

/-- The needle occurs where it is found. -/
theorem prefix_drop_of_find (h : find needle text = some n) : needle <+: text.drop n := by
  induction text generalizing n with
  | nil =>
      rw [find_nil] at h
      split at h
      · next hneedle => rw [hneedle]; exact List.nil_prefix
      · cases h
  | cons a text ih =>
      cases n with
      | zero =>
          rw [find_cons] at h
          split at h
          · next hleads => exact hleads
          · cases hfind : find needle text with
            | none => rw [hfind] at h; cases h
            | some m => rw [hfind] at h; simp at h
      | succ n => exact ih (find_cons_succ.mp h).2

/-- A needle that occurs in a text is found there or before. -/
theorem find_le_of_prefix_drop (h : needle <+: text.drop n) : ∃ m ≤ n, find needle text = some m := by
  induction n generalizing text with
  | zero => exact ⟨0, Nat.le_refl 0, find_of_prefix h⟩
  | succ n ih =>
      cases text with
      | nil => exact ⟨0, by omega, find_of_prefix (by simpa using h)⟩
      | cons a text =>
          by_cases hleads : needle <+: a :: text
          · exact ⟨0, by omega, find_of_prefix hleads⟩
          · obtain ⟨m, hle, hfind⟩ := ih h
            exact ⟨m + 1, by omega, find_cons_succ.mpr ⟨hleads, hfind⟩⟩

/-- A needle is found at the first place where it occurs. -/
theorem find_eq_some_iff :
    find needle text = some n ↔
      needle <+: text.drop n ∧ ∀ m, m < n → ¬ needle <+: text.drop m := by
  constructor
  · intro h
    refine ⟨prefix_drop_of_find h, ?_⟩
    intro m hm hleads
    obtain ⟨k, hk, hfind⟩ := find_le_of_prefix_drop hleads
    rw [h] at hfind
    obtain rfl := Option.some.inj hfind
    omega
  · intro ⟨hleads, hfirst⟩
    obtain ⟨m, hle, hfind⟩ := find_le_of_prefix_drop hleads
    by_cases hm : m = n
    · rw [hfind, hm]
    · exact absurd (prefix_drop_of_find hfind) (hfirst m (by omega))

/-- A needle that is found splits the text. -/
theorem exists_of_find (h : find needle text = some n) :
    ∃ front rest, text = front ++ needle ++ rest ∧ front.length = n := by
  obtain ⟨rest, hrest⟩ := prefix_drop_of_find h
  by_cases hn : n ≤ text.length
  · refine ⟨text.take n, rest, ?_, List.length_take_of_le hn⟩
    rw [List.append_assoc, hrest, List.take_append_drop]
  · have hempty : text.drop n = [] := List.drop_eq_nil_of_le (by omega)
    rw [hempty] at hrest
    have hneedle : needle = [] := (List.append_eq_nil_iff.mp hrest).1
    -- the empty needle is found at the start
    rw [hneedle, find_of_prefix List.nil_prefix] at h
    obtain rfl := Option.some.inj h
    omega

end Dopedb.Library
