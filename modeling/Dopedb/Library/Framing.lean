import Mathlib

/-!
# Length-prefixed fields

A field is written as its length in UTF-8 bytes, a colon and its text. `frames_inj` says that a
concatenation of such fields determines the fields, whatever characters they contain.
-/

namespace Dopedb.Library

/-- The number of UTF-8 bytes of a list of characters. -/
def byteLength (chars : List Char) : Nat := (chars.map Char.utf8Size).sum

@[simp] theorem byte_length_append (chars chars' : List Char) :
    byteLength (chars ++ chars') = byteLength chars + byteLength chars' := by
  simp [byteLength]

/-- Only the empty list has no bytes. -/
theorem byte_length_eq_zero {chars : List Char} (h : byteLength chars = 0) : chars = [] := by
  cases chars with
  | nil => rfl
  | cons c rest =>
      have hpos := c.utf8Size_pos
      simp only [byteLength, List.map_cons, List.sum_cons] at h
      omega

/-- The bytes of a text are the bytes of its characters. -/
theorem byte_length_to_list (text : String) : byteLength text.toList = text.utf8ByteSize := by
  have hlist : ∀ chars : List Char, byteLength chars = (String.ofList chars).utf8ByteSize := by
    intro chars
    induction chars with
    | nil => rfl
    | cons c rest ih =>
        have hsplit : String.ofList (c :: rest) = String.singleton c ++ String.ofList rest := by
          rw [String.singleton_eq_ofList, ← String.ofList_append, List.singleton_append]
        rw [hsplit, String.utf8ByteSize_append, String.utf8ByteSize_singleton, ← ih]
        simp [byteLength]
  rw [hlist, String.ofList_toList]

/-- Prefixes with the same number of bytes are the same. -/
theorem prefix_eq_of_byte_length {front front' rest rest' : List Char}
    (h : front ++ rest = front' ++ rest') (hlength : byteLength front = byteLength front') :
    front = front' ∧ rest = rest' := by
  have hfront : front = front' := by
    rcases List.append_eq_append_iff.mp h with ⟨extra, rfl, -⟩ | ⟨extra, rfl, -⟩
    · rw [byte_length_append] at hlength
      rw [byte_length_eq_zero (by omega : byteLength extra = 0), List.append_nil]
    · rw [byte_length_append] at hlength
      rw [byte_length_eq_zero (by omega : byteLength extra = 0), List.append_nil]
  subst hfront
  exact ⟨rfl, List.append_cancel_left h⟩

/-- Texts before the first separator are the same when the separator occurs in neither. -/
theorem prefix_eq_of_separator {sep : Char} {front front' rest rest' : List Char}
    (h : front ++ sep :: rest = front' ++ sep :: rest') (hfront : sep ∉ front)
    (hfront' : sep ∉ front') : front = front' ∧ rest = rest' := by
  induction front generalizing front' with
  | nil =>
      cases front' with
      | nil => exact ⟨rfl, (List.cons.inj h).2⟩
      | cons c front' => exact absurd (List.cons.inj h).1 fun heq => hfront' (heq ▸ by simp)
  | cons c front ih =>
      cases front' with
      | nil => exact absurd (List.cons.inj h).1.symm fun heq => hfront (heq ▸ by simp)
      | cons c' front' =>
          obtain ⟨rfl, hrest⟩ := List.cons.inj h
          obtain ⟨rfl, hafter⟩ := ih hrest (fun hmem => hfront (List.mem_cons_of_mem _ hmem))
            fun hmem => hfront' (List.mem_cons_of_mem _ hmem)
          exact ⟨rfl, hafter⟩

/-- A number is determined by its decimal digits. -/
theorem decimal_inj {m n : Nat} (h : m.repr.toList = n.repr.toList) : m = n := by
  rw [Nat.toList_repr, Nat.toList_repr] at h
  simpa using congrArg (fun digits => Nat.ofDigitChars 10 digits 0) h

/-- Decimal digits are digits. -/
theorem digit_of_mem_repr {n : Nat} {c : Char} (h : c ∈ n.repr.toList) : c.isDigit = true := by
  rw [Nat.toList_repr] at h
  exact Nat.isDigit_of_mem_toDigits (by decide) (by decide) h

/-- The text of an integer is its digits, after a sign when it is negative. -/
theorem int_repr_to_list (n : Int) : n.repr.toList =
    if 0 ≤ n then n.toNat.repr.toList else '-' :: (-n).toNat.repr.toList := by
  rw [Int.repr_eq_if]
  split <;> simp

/-- The text of an integer is not empty. -/
theorem int_repr_ne_empty (n : Int) : n.repr ≠ "" := by
  intro h
  have hlist := congrArg String.toList h
  rw [int_repr_to_list] at hlist
  split at hlist
  · exact Nat.repr_ne_empty (String.toList_inj.mp hlist)
  · cases hlist

/-- An integer is determined by its text. -/
theorem int_repr_inj {m n : Int} (h : m.repr = n.repr) : m = n := by
  have hlist := congrArg String.toList h
  have hsign : ∀ k : Nat, ∀ rest, k.repr.toList ≠ '-' :: rest := by
    intro k rest heq
    have hdigit : '-'.isDigit = true := digit_of_mem_repr (heq ▸ List.mem_cons_self)
    revert hdigit
    decide
  rw [int_repr_to_list, int_repr_to_list] at hlist
  split at hlist <;> split at hlist
  · have := decimal_inj hlist
    omega
  · exact absurd hlist (hsign _ _)
  · exact absurd hlist.symm (hsign _ _)
  · have := decimal_inj (List.cons.inj hlist).2
    omega

/-- One length-prefixed field. -/
def frame (field : String) : String := field.utf8ByteSize.repr ++ ":" ++ field

/-- The concatenation of length-prefixed fields. -/
def frames : List String → String
  | [] => ""
  | field :: rest => frame field ++ frames rest

/-- The characters of a field. -/
theorem to_list_frame (field : String) :
    (frame field).toList = field.utf8ByteSize.repr.toList ++ ':' :: field.toList := by
  simp [frame]

/-- A field and what follows it are determined by their concatenation. -/
theorem frame_append_inj {field field' : String} {rest rest' : List Char}
    (h : (frame field).toList ++ rest = (frame field').toList ++ rest') :
    field = field' ∧ rest = rest' := by
  rw [to_list_frame, to_list_frame, List.append_assoc, List.append_assoc, List.cons_append,
    List.cons_append] at h
  have hcolon : ∀ n : Nat, ':' ∉ n.repr.toList := fun n hmem => by
    have hdigit := digit_of_mem_repr hmem
    revert hdigit
    decide
  obtain ⟨hdigits, hafter⟩ := prefix_eq_of_separator h (hcolon _) (hcolon _)
  have hlength : byteLength field.toList = byteLength field'.toList := by
    rw [byte_length_to_list, byte_length_to_list, decimal_inj hdigits]
  obtain ⟨hfield, hrest⟩ := prefix_eq_of_byte_length hafter hlength
  exact ⟨String.toList_inj.mp hfield, hrest⟩

/-- Length-prefixed fields are determined by their concatenation. -/
theorem frames_inj {fields fields' : List String} (h : frames fields = frames fields') :
    fields = fields' := by
  induction fields generalizing fields' with
  | nil =>
      cases fields' with
      | nil => rfl
      | cons field' rest' =>
          have hchars := congrArg String.toList h
          simp [frames, frame] at hchars
  | cons field rest ih =>
      cases fields' with
      | nil =>
          have hchars := congrArg String.toList h
          simp [frames, frame] at hchars
      | cons field' rest' =>
          have hchars := congrArg String.toList h
          rw [frames, frames, String.toList_append, String.toList_append] at hchars
          obtain ⟨rfl, hrest⟩ := frame_append_inj hchars
          rw [ih (String.toList_inj.mp hrest)]

end Dopedb.Library
