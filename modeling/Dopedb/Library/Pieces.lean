import Mathlib.Data.List.Basic

/-!
# Reading from a stream in pieces

A stream delivers its items in pieces of any lengths. `readExact` takes a number of items across
the pieces and leaves the rest, so what is read depends on the delivered items only, and a reader
that takes each value by its own encoding reads a list of values one after the other.
-/

namespace Dopedb.Library.Pieces

variable {α : Type} {β : Type}

/-- Take so many items from the pieces, unless the stream ends before. -/
def readExact : Nat → List (List α) → Option (List α × List (List α))
  | 0, pieces => some ([], pieces)
  | _ + 1, [] => none
  | n + 1, piece :: rest =>
    if piece.length ≤ n + 1 then
      (readExact (n + 1 - piece.length) rest).map fun (items, rest) => (piece ++ items, rest)
    else some (piece.take (n + 1), piece.drop (n + 1) :: rest)

/-- The items are those that come first, and all others are left. -/
theorem read_exact_some {n : Nat} {pieces : List (List α)} (h : n ≤ pieces.flatten.length) :
    ∃ rest, readExact n pieces = some (pieces.flatten.take n, rest) ∧
      rest.flatten = pieces.flatten.drop n := by
  induction pieces generalizing n with
  | nil =>
      obtain rfl : n = 0 := Nat.le_zero.mp h
      exact ⟨[], rfl, rfl⟩
  | cons piece rest ih =>
      cases n with
      | zero => exact ⟨piece :: rest, rfl, rfl⟩
      | succ n =>
          rw [List.flatten_cons, List.length_append] at h
          rw [readExact, List.flatten_cons]
          by_cases hpiece : piece.length ≤ n + 1
          · obtain ⟨left, hread, hleft⟩ := @ih (n + 1 - piece.length) (by omega)
            refine ⟨left, ?_, ?_⟩
            · rw [if_pos hpiece, hread, Option.map_some, List.take_append,
                List.take_of_length_le hpiece]
            · rw [hleft, List.drop_append, List.drop_eq_nil_of_le hpiece, List.nil_append]
          · refine ⟨piece.drop (n + 1) :: rest, ?_, ?_⟩
            · rw [if_neg hpiece, List.take_append_of_le_length (by omega)]
            · rw [List.flatten_cons, List.drop_append_of_le_length (by omega)]

/-- A stream that ends before is not read. -/
theorem read_exact_none {n : Nat} {pieces : List (List α)} (h : pieces.flatten.length < n) :
    readExact n pieces = none := by
  induction pieces generalizing n with
  | nil =>
      cases n with
      | zero => exact absurd h (Nat.not_lt_zero _)
      | succ n => rfl
  | cons piece rest ih =>
      rw [List.flatten_cons, List.length_append] at h
      cases n with
      | zero => exact absurd h (Nat.not_lt_zero _)
      | succ n => rw [readExact, if_pos (by omega), ih (by omega), Option.map_none]

/-- Values one after the other, so many. -/
def readMany (read : List (List α) → Option (β × List (List α))) :
    Nat → List (List α) → Option (List β × List (List α))
  | 0, pieces => some ([], pieces)
  | count + 1, pieces =>
    (read pieces).bind fun (value, rest) =>
      (readMany read count rest).map fun (values, rest) => (value :: values, rest)

/-- A reader that takes every value by its encoding reads concatenated encodings, however they are
cut into pieces. -/
theorem read_many_encoded {read : List (List α) → Option (β × List (List α))}
    {encode : β → List α} {values : List β}
    (h : ∀ value ∈ values, ∀ pieces tail, pieces.flatten = encode value ++ tail →
      ∃ rest, read pieces = some (value, rest) ∧ rest.flatten = tail)
    {pieces : List (List α)} {tail : List α}
    (hpieces : pieces.flatten = values.flatMap encode ++ tail) :
    ∃ rest, readMany read values.length pieces = some (values, rest) ∧ rest.flatten = tail := by
  induction values generalizing pieces with
  | nil => exact ⟨pieces, rfl, hpieces⟩
  | cons value values ih =>
      rw [List.flatMap_cons, List.append_assoc] at hpieces
      obtain ⟨left, hread, hleft⟩ := h value List.mem_cons_self pieces _ hpieces
      obtain ⟨rest, hmany, hrest⟩ :=
        ih (fun other hother => h other (List.mem_cons_of_mem _ hother)) hleft
      refine ⟨rest, ?_, hrest⟩
      rw [List.length_cons, readMany, hread, Option.bind_some]
      simp only
      rw [hmany]
      rfl

end Dopedb.Library.Pieces
