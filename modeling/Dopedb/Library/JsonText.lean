import Dopedb.Library.Framing
import Dopedb.Library.Json

/-!
# Compact JSON texts

`render` is the compact text of a document: no blanks, the members in their order, and an escape
for quotes, backslashes and control characters only. The lemmas say how long the texts of lists
are, which is what page budgets add up.
-/

namespace Dopedb.Library

/-- The UTF-8 bytes of a text. -/
def textBytes (text : List Char) : List UInt8 := text.flatMap String.utf8EncodeChar

@[simp] theorem text_bytes_nil : textBytes [] = [] := rfl

@[simp] theorem text_bytes_append (text text' : List Char) :
    textBytes (text ++ text') = textBytes text ++ textBytes text' := List.flatMap_append

/-- A text has as many bytes as its characters have together. -/
theorem length_text_bytes (text : List Char) : (textBytes text).length = byteLength text := by
  induction text with
  | nil => rfl
  | cons c text ih =>
      have hcons : textBytes (c :: text) = String.utf8EncodeChar c ++ textBytes text :=
        List.flatMap_cons
      rw [hcons, List.length_append, ih, String.length_utf8EncodeChar]
      simp [byteLength]

/-- A lower-case hexadecimal digit. -/
def lowerHexDigit (n : Nat) : Char := "0123456789abcdef".toList.getD n '0'

/-- A character inside a JSON string, as serde_json and `JSON.stringify` both write it. -/
def escapeChar (c : Char) : List Char :=
  if c = '"' then ['\\', '"']
  else if c = '\\' then ['\\', '\\']
  else if c = '\n' then ['\\', 'n']
  else if c = '\r' then ['\\', 'r']
  else if c = '\t' then ['\\', 't']
  else if c = '\x08' then ['\\', 'b']
  else if c = '\x0c' then ['\\', 'f']
  else if c.toNat < 32 then
    ['\\', 'u', '0', '0', lowerHexDigit (c.toNat / 16), lowerHexDigit (c.toNat % 16)]
  else [c]

/-- A JSON string. -/
def renderString (text : String) : List Char :=
  '"' :: text.toList.flatMap escapeChar ++ ['"']

/-- The characters that are escaped. -/
def escaped : List Char := (List.range 0x20).map Char.ofNat ++ ['"', '\\']

/-- Characters that are not escaped stand for themselves. -/
theorem escape_char_of_not_mem {c : Char} (h : c ∉ escaped) : escapeChar c = [c] := by
  have hprintable : ¬c.toNat < 32 := by
    intro hlt
    exact h (List.mem_append_left _ (List.mem_map.mpr
      ⟨c.toNat, List.mem_range.mpr (by omega), Char.ofNat_toNat c⟩))
  have hcontrol : ∀ d : Char, d.toNat < 32 → c ≠ d := by
    rintro d hd rfl
    exact hprintable hd
  have hquote : c ≠ '"' := by
    rintro rfl
    exact h (by simp [escaped])
  have hslash : c ≠ '\\' := by
    rintro rfl
    exact h (by simp [escaped])
  rw [escapeChar, if_neg hquote, if_neg hslash, if_neg (hcontrol '\n' (by decide)),
    if_neg (hcontrol '\r' (by decide)), if_neg (hcontrol '\t' (by decide)),
    if_neg (hcontrol '\x08' (by decide)), if_neg (hcontrol '\x0c' (by decide)),
    if_neg hprintable]

/-- Escapes start with a backslash. -/
theorem head_escape_char {c : Char} (h : c ∈ escaped) :
    (escapeChar c).head? = some '\\' := by
  have hall : (escaped.all fun c => (escapeChar c).head? == some '\\') = true := by decide
  simpa using List.all_eq_true.mp hall c h

/-- Escapes of one length are escapes of one character, and escapes of different lengths differ in
their second character. -/
theorem escape_char_apart : ∀ c ∈ escaped, ∀ c' ∈ escaped,
    if (escapeChar c).length = (escapeChar c').length then escapeChar c = escapeChar c' → c = c'
    else (escapeChar c)[1]? ≠ (escapeChar c')[1]? ∧ (escapeChar c)[1]?.isSome ∧
      (escapeChar c')[1]?.isSome := by
  have hall : (escaped.all fun c => escaped.all fun c' => decide <|
      if (escapeChar c).length = (escapeChar c').length then escapeChar c = escapeChar c' → c = c'
      else (escapeChar c)[1]? ≠ (escapeChar c')[1]? ∧ (escapeChar c)[1]?.isSome ∧
        (escapeChar c')[1]?.isSome) = true := by decide
  intro c hc c' hc'
  exact of_decide_eq_true (List.all_eq_true.mp (List.all_eq_true.mp hall c hc) c' hc')

/-- A character is determined by any text that starts with what stands for it. -/
theorem escape_char_inj {c c' : Char} {rest rest' : List Char}
    (h : escapeChar c ++ rest = escapeChar c' ++ rest') : c = c' ∧ rest = rest' := by
  have hhead : ∀ {c c' : Char} {rest rest' : List Char}, c ∈ escaped → c' ∉ escaped →
      escapeChar c ++ rest ≠ escapeChar c' ++ rest' := by
    intro c c' rest rest' hc hc' heq
    have hfirst := congrArg List.head? heq
    rw [List.head?_append, head_escape_char hc, escape_char_of_not_mem hc'] at hfirst
    have hbackslash : c' = '\\' := by simpa using hfirst.symm
    exact hc' (hbackslash ▸ by simp [escaped])
  by_cases hc : c ∈ escaped <;> by_cases hc' : c' ∈ escaped
  · have hapart := escape_char_apart c hc c' hc'
    split at hapart
    · rename_i hlength
      obtain ⟨hescape, hrest⟩ := List.append_inj h hlength
      exact ⟨hapart hescape, hrest⟩
    · obtain ⟨hne, hsome, hsome'⟩ := hapart
      have hsecond := congrArg (fun l : List Char => l[1]?) h
      obtain ⟨x, hx⟩ := Option.isSome_iff_exists.mp hsome
      obtain ⟨y, hy⟩ := Option.isSome_iff_exists.mp hsome'
      obtain ⟨hlt, -⟩ := List.getElem?_eq_some_iff.mp hx
      obtain ⟨hlt', -⟩ := List.getElem?_eq_some_iff.mp hy
      simp only [List.getElem?_append_left hlt, List.getElem?_append_left hlt'] at hsecond
      exact absurd hsecond hne
  · exact absurd h (hhead hc hc')
  · exact absurd h.symm (hhead hc' hc)
  · rw [escape_char_of_not_mem hc, escape_char_of_not_mem hc'] at h
    exact List.cons.inj h

/-- A string is determined by any text that starts with it. -/
theorem render_string_inj {text text' : String} {rest rest' : List Char}
    (h : renderString text ++ rest = renderString text' ++ rest') : text = text' ∧ rest = rest' := by
  have hlists : ∀ l l' : List Char,
      l.flatMap escapeChar ++ '"' :: rest = l'.flatMap escapeChar ++ '"' :: rest' →
        l = l' ∧ rest = rest' := by
    have hquote : ∀ (c : Char) (l : List Char), escapeChar c ++ l ≠ '"' :: rest ∧
        escapeChar c ++ l ≠ '"' :: rest' := by
      intro c l
      have hne : (escapeChar c ++ l).head? ≠ some '"' := by
        by_cases hc : c ∈ escaped
        · rw [List.head?_append, head_escape_char hc]
          simp
        · rw [escape_char_of_not_mem hc, List.singleton_append, List.head?_cons]
          intro heq
          exact hc ((Option.some.inj heq) ▸ by simp [escaped])
      exact ⟨fun heq => hne (heq ▸ rfl), fun heq => hne (heq ▸ rfl)⟩
    intro l
    induction l with
    | nil =>
        intro l' heq
        cases l' with
        | nil => exact ⟨rfl, (List.cons.inj heq).2⟩
        | cons c' l' =>
            rw [List.flatMap_cons, List.append_assoc] at heq
            exact absurd heq.symm (hquote c' _).1
    | cons c l ih =>
        intro l' heq
        cases l' with
        | nil =>
            rw [List.flatMap_cons, List.append_assoc] at heq
            exact absurd heq (hquote c _).2
        | cons c' l' =>
            rw [List.flatMap_cons, List.flatMap_cons, List.append_assoc, List.append_assoc] at heq
            obtain ⟨rfl, htail⟩ := escape_char_inj heq
            obtain ⟨rfl, hrest⟩ := ih l' htail
            exact ⟨rfl, hrest⟩
  simp only [renderString, List.cons_append, List.append_assoc, List.nil_append] at h
  obtain ⟨htext, hrest⟩ := hlists _ _ (List.cons.inj h).2
  exact ⟨String.toList_injective htext, hrest⟩

namespace Json

mutual
/-- The compact text of a document. -/
def render : Json → List Char
  | .null => "null".toList
  | .bool value => (if value then "true" else "false").toList
  | .int n => n.repr.toList
  | .float text => text.toList
  | .str text => renderString text
  | .arr items => '[' :: [','].intercalate (renderItems items) ++ [']']
  | .obj fields => '\x7b' :: [','].intercalate (renderMembers fields) ++ ['\x7d']

/-- The texts of a list of documents. -/
def renderItems : List Json → List (List Char)
  | [] => []
  | item :: rest => render item :: renderItems rest

/-- The texts of the members of an object. -/
def renderMembers : List (String × Json) → List (List Char)
  | [] => []
  | (name, value) :: rest => (renderString name ++ ':' :: render value) :: renderMembers rest
end

/-- `renderItems` writes each document. -/
theorem render_items_eq_map (items : List Json) : renderItems items = items.map render := by
  induction items with
  | nil => rfl
  | cons item rest ih => rw [renderItems, ih, List.map_cons]

/-- `renderMembers` writes each member. -/
theorem render_members_eq_map (fields : List (String × Json)) :
    renderMembers fields = fields.map fun m => renderString m.1 ++ ':' :: render m.2 := by
  induction fields with
  | nil => rfl
  | cons member rest ih => rw [renderMembers, ih, List.map_cons]

end Json

/-- The texts of a list with a comma after each are as long as the list with its brackets, but for
one bracket. An empty list has nothing to put a comma after. -/
theorem byte_length_intercalate_le (texts : List (List Char)) :
    byteLength ([','].intercalate texts) ≤ (texts.map fun text => byteLength text + 1).sum := by
  induction texts with
  | nil => exact Nat.le_refl 0
  | cons text rest ih =>
      cases rest with
      | nil =>
          rw [List.intercalate_singleton]
          simp
      | cons text' rest =>
          rw [List.intercalate_cons_cons, byte_length_append, byte_length_append, List.map_cons,
            List.sum_cons]
          have hcomma : byteLength [','] = 1 := by decide
          omega

/-- A text of ASCII characters has as many bytes as characters. -/
theorem byte_length_ascii {text : List Char} (h : ∀ c ∈ text, c.utf8Size = 1) :
    byteLength text = text.length := by
  unfold byteLength
  rw [List.map_congr_left h, List.map_const', List.sum_replicate]
  simp

/-- A digit takes one byte. -/
theorem utf8_size_of_digit {c : Char} (h : c.isDigit = true) : c.utf8Size = 1 := by
  unfold Char.isDigit at h
  simp only [Bool.and_eq_true, decide_eq_true_eq] at h
  have hle : c.val ≤ 0x7f := UInt32.le_trans h.2 (by decide)
  exact if_pos hle

/-- A decimal number takes one byte a digit. -/
theorem byte_length_repr_le {n k : Nat} (hk : 0 < k) (h : n < 10 ^ k) :
    byteLength n.repr.toList ≤ k := by
  rw [byte_length_ascii fun c hc => utf8_size_of_digit (digit_of_mem_repr hc), Nat.toList_repr]
  exact (Nat.length_toDigits_le_iff (by omega) hk).mpr h

end Dopedb.Library
