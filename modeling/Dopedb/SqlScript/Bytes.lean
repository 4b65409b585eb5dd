import Dopedb.Library.JsonText
import Dopedb.SqlScript.Statements

/-!
# The splitter on bytes

The loops of `sql_script/mod.rs` as they run, on the UTF-8 bytes of a script. They give the indices
of slices of the script, and a slice at an index inside a character would panic.
`split_slices_eq` says that no slice does, and that the statements are those of the splitter on
characters; `split_statements_lossless` is what the splitter does to every script.
-/

namespace Dopedb.SqlScript

open Dopedb.Library

/-- The byte of an ASCII character. -/
def byteOf (c : Char) : UInt8 := UInt8.ofNat c.toNat

/-- A byte of a dollar tag between its dollars. -/
def isTagByte (byte : UInt8) : Bool :=
  (48 ≤ byte && byte ≤ 57) || (65 ≤ byte && byte ≤ 90) || (97 ≤ byte && byte ≤ 122) || byte == 95

/-- The bytes from behind the opening quote to behind the closing one, or to the end. -/
@[simp] def quotedLength (backslash : Bool) (quote : UInt8) : Nat → List UInt8 → Nat
  | _, [] => 0
  | skip + 1, _ :: rest => quotedLength backslash quote skip rest + 1
  | 0, byte :: rest =>
    if backslash ∧ byte = byteOf '\\' ∧ rest ≠ [] then quotedLength backslash quote 1 rest + 1
    else if byte = quote then
      if rest.head? = some quote then quotedLength backslash quote 1 rest + 1 else 1
    else quotedLength backslash quote 0 rest + 1

/-- The bytes before the next line feed, or to the end. -/
def lineLength : List UInt8 → Nat
  | [] => 0
  | byte :: rest => if byte = byteOf '\n' then 0 else lineLength rest + 1

/-- The bytes from behind the opening of a comment to behind its end, or to the end. -/
def blockLength : List UInt8 → Nat
  | [] => 0
  | byte :: rest =>
    if byte = byteOf '*' ∧ rest.head? = some (byteOf '/') then 2 else blockLength rest + 1

/-- The bytes from behind a dollar tag to behind its next occurrence, or to the end. -/
def dollarLength (tag : List UInt8) : List UInt8 → Nat
  | [] => 0
  | byte :: rest => if tag <+: byte :: rest then tag.length else dollarLength tag rest + 1

/-- The length of the dollar tag that a `$` before these bytes opens. -/
def dollarTagLen (rest : List UInt8) : Option Nat :=
  if (rest.dropWhile isTagByte).head? = some (byteOf '$') then
    some ((rest.takeWhile isTagByte).length + 2)
  else none

/-- One turn of the loop at a byte: none at the end of a statement, else how many bytes it takes
with this one. -/
def turn (backslash : Bool) (byte : UInt8) (rest : List UInt8) : Option Nat :=
  if byte = byteOf '\'' ∨ byte = byteOf '"' then some (quotedLength backslash byte 0 rest)
  else if byte = byteOf '-' ∧ rest.head? = some (byteOf '-') then some (lineLength rest)
  else if byte = byteOf '/' ∧ rest.head? = some (byteOf '*') then some (blockLength rest.tail + 1)
  else if byte = byteOf '$' then
    match dollarTagLen rest with
    | some length =>
      some (length - 1 + dollarLength (byte :: rest.take (length - 1)) (rest.drop (length - 1)))
    | none => some 0
  else if byte = byteOf ';' then none
  else some 0

/-- The slices of a script from the start of a segment on, at an index of the loop. -/
@[simp] def slices (backslash : Bool) : Nat → Nat → Nat → List UInt8 → List (Nat × Nat)
  | _, start, index, [] => [(start, index)]
  | skip + 1, start, index, _ :: rest => slices backslash skip start (index + 1) rest
  | 0, start, index, byte :: rest =>
    match turn backslash byte rest with
    | none => (start, index) :: slices backslash 0 (index + 1) (index + 1) rest
    | some extra => slices backslash extra start (index + 1) rest

/-- `&text[bytes..]`: none is the panic at an index inside a character or behind the end. -/
def dropBytes : Nat → List Char → Option (List Char)
  | 0, text => some text
  | _ + 1, [] => none
  | bytes + 1, c :: text =>
    if c.utf8Size ≤ bytes + 1 then dropBytes (bytes + 1 - c.utf8Size) text else none

/-- `&text[..bytes]`. -/
def takeBytes : Nat → List Char → Option (List Char)
  | 0, _ => some []
  | _ + 1, [] => none
  | bytes + 1, c :: text =>
    if c.utf8Size ≤ bytes + 1 then (takeBytes (bytes + 1 - c.utf8Size) text).map (c :: ·) else none

/-- `&sql[start..stop]`. -/
def strSlice (sql : List Char) (start stop : Nat) : Option (List Char) :=
  (dropBytes start sql).bind (takeBytes (stop - start))

/-- `split_statements` as it slices the script. -/
def splitSlices (sql : List Char) (engine : Engine) : Option (List (List Char)) :=
  ((slices (backslashEscapes engine) 0 0 0 (textBytes sql)).mapM
    fun bounds => strSlice sql bounds.1 bounds.2).map (·.filterMap pushStatement)

/-! ## Bytes of characters -/

/-- A text begins with the bytes of its first character. -/
theorem text_bytes_cons (c : Char) (text : List Char) :
    textBytes (c :: text) = String.utf8EncodeChar c ++ textBytes text := List.flatMap_cons

/-- An ASCII character. -/
def Ascii (c : Char) : Prop := c.toNat < 128

instance (c : Char) : Decidable (Ascii c) := inferInstanceAs (Decidable (_ < _))

/-- A text that begins with an ASCII character. -/
theorem text_bytes_ascii {c : Char} (h : Ascii c) (text : List Char) :
    textBytes (c :: text) = byteOf c :: textBytes text := by
  rw [text_bytes_cons, utf8_ascii h]
  rfl

/-- The number of an ASCII byte. -/
theorem byte_of_to_nat {c : Char} (h : Ascii c) : (byteOf c).toNat = c.toNat := by
  unfold byteOf
  rw [UInt8.toNat_ofNat', Nat.mod_eq_of_lt]
  unfold Ascii at h
  omega

/-- ASCII bytes are those of their characters. -/
theorem byte_of_inj {c d : Char} (hc : Ascii c) (hd : Ascii d) : byteOf c = byteOf d ↔ c = d := by
  constructor
  · intro h
    have hnat := congrArg UInt8.toNat h
    rw [byte_of_to_nat hc, byte_of_to_nat hd] at hnat
    exact Char.toNat_inj.mp hnat
  · intro h
    rw [h]

/-- A byte of another character is no ASCII byte. -/
theorem wide_ne {byte : UInt8} (h : 128 ≤ byte.toNat) {c : Char} (hc : Ascii c) :
    byte ≠ byteOf c := by
  intro heq
  rw [heq, byte_of_to_nat hc] at h
  unfold Ascii at hc
  omega

/-- The first byte of a text is an ASCII byte exactly when its first character is that one. -/
theorem head_text_bytes {text : List Char} {d : Char} (hd : Ascii d) :
    (textBytes text).head? = some (byteOf d) ↔ text.head? = some d := by
  cases text with
  | nil => simp
  | cons c text =>
      by_cases hc : Ascii c
      · rw [text_bytes_ascii hc, List.head?_cons, List.head?_cons, Option.some_inj,
          Option.some_inj, byte_of_inj hc hd]
      · obtain ⟨first, rest, henc, hfirst, -⟩ := utf8_wide (Nat.le_of_not_lt hc)
        rw [text_bytes_cons, henc, List.cons_append, List.head?_cons, List.head?_cons,
          Option.some_inj, Option.some_inj]
        constructor
        · intro h
          exact absurd h (wide_ne (by omega) hd)
        · intro h
          rw [h] at hc
          exact absurd hd hc

/-- An ASCII text is found at the start of the bytes exactly when it is at the start of the text. -/
theorem prefix_text_bytes {tag text : List Char} (htag : ∀ c ∈ tag, Ascii c) :
    textBytes tag <+: textBytes text ↔ tag <+: text := by
  induction tag generalizing text with
  | nil => simp
  | cons c tag ih =>
      have hc := htag c List.mem_cons_self
      have hrest : ∀ d ∈ tag, Ascii d := fun d hd => htag d (List.mem_cons_of_mem c hd)
      rw [text_bytes_ascii hc]
      cases text with
      | nil => simp
      | cons d text =>
          by_cases hd : Ascii d
          · rw [text_bytes_ascii hd, List.cons_prefix_cons, List.cons_prefix_cons,
              byte_of_inj hc hd, ih hrest]
          · obtain ⟨first, rest, henc, hfirst, -⟩ := utf8_wide (Nat.le_of_not_lt hd)
            rw [text_bytes_cons, henc, List.cons_append, List.cons_prefix_cons,
              List.cons_prefix_cons]
            constructor
            · intro h
              exact absurd h.1.symm (wide_ne (by omega) hc)
            · intro h
              rw [h.1] at hc
              exact absurd hc hd

/-- The bytes of a character that is no ASCII character are none of ASCII's. -/
theorem wide_bytes {c : Char} (h : ¬ Ascii c) :
    ∀ byte ∈ String.utf8EncodeChar c, 128 ≤ byte.toNat :=
  fun _ hbyte => utf8_wide_mem (Nat.le_of_not_lt h) hbyte

/-- The first byte of a character and the bytes behind it, which are none of ASCII's. -/
theorem utf8_first (c : Char) : ∃ first more, String.utf8EncodeChar c = first :: more ∧
    (∀ byte ∈ more, 128 ≤ byte.toNat) ∧ c.utf8Size = more.length + 1 := by
  have hlength := String.length_utf8EncodeChar c
  by_cases hc : Ascii c
  · rw [utf8_ascii hc] at hlength ⊢
    exact ⟨_, [], rfl, List.forall_mem_nil _, hlength.symm⟩
  · obtain ⟨first, rest, henc, -, hrest⟩ := utf8_wide (Nat.le_of_not_lt hc)
    rw [henc] at hlength ⊢
    exact ⟨first, rest, rfl, hrest, hlength.symm⟩

/-! ## The loops on the bytes of a piece -/

/-- A loop that goes on at bytes behind ASCII. -/
def GoesOn (loop : List UInt8 → Nat) : Prop :=
  ∀ byte rest, 128 ≤ byte.toNat → loop (byte :: rest) = loop rest + 1

section

variable {backslash : Bool} {bytes rest : List UInt8} {c quote : Char} {loop : List UInt8 → Nat}

/-- Bytes behind ASCII do not stop a loop. -/
theorem GoesOn.wide (h : GoesOn loop) (hbytes : ∀ byte ∈ bytes, 128 ≤ byte.toNat) :
    loop (bytes ++ rest) = bytes.length + loop rest := by
  induction bytes with
  | nil => simp
  | cons byte bytes ih =>
      rw [List.cons_append, h byte _ (hbytes byte List.mem_cons_self),
        ih fun b hb => hbytes b (List.mem_cons_of_mem byte hb), List.length_cons]
      omega

/-- A character does not stop a loop that goes on at it when it is an ASCII character. -/
theorem GoesOn.char (h : GoesOn loop) (hascii : Ascii c → loop (byteOf c :: rest) = loop rest + 1) :
    loop (String.utf8EncodeChar c ++ rest) = c.utf8Size + loop rest := by
  rw [← String.length_utf8EncodeChar c]
  by_cases hc : Ascii c
  · have hbytes : String.utf8EncodeChar c = [byteOf c] := utf8_ascii hc
    rw [hbytes, List.singleton_append, hascii hc, List.length_singleton]
    omega
  · exact h.wide (wide_bytes hc)

/-- An ASCII character is one byte long. -/
theorem size_ascii (h : Ascii c) : c.utf8Size = 1 := by
  have hlength := String.length_utf8EncodeChar c
  rw [utf8_ascii h] at hlength
  exact hlength.symm

/-- A quote is an ASCII character. -/
theorem IsQuote.ascii (h : IsQuote quote) : Ascii quote := by
  cases h with
  | inl h => rw [h]; decide
  | inr h => rw [h]; decide

/-- The loop over a literal goes on at bytes behind ASCII. -/
theorem quoted_goes_on (hquote : Ascii quote) :
    GoesOn (quotedLength backslash (byteOf quote) 0) := by
  intro byte rest hbyte
  rw [quotedLength, if_neg fun h => wide_ne hbyte (by decide) h.2.1, if_neg (wide_ne hbyte hquote)]

/-- A character that is taken unseen. -/
theorem quoted_length_unseen (hquote : Ascii quote) :
    quotedLength backslash (byteOf quote) 1 (String.utf8EncodeChar c ++ rest) =
      c.utf8Size + quotedLength backslash (byteOf quote) 0 rest := by
  obtain ⟨first, more, henc, hmore, hsize⟩ := utf8_first c
  rw [henc, List.cons_append, quotedLength, (quoted_goes_on hquote).wide hmore, hsize]
  omega

/-- The bytes of a literal up to what follows them. -/
theorem quoted_length_body (hquote : IsQuote quote) {body : List Char}
    (h : LiteralBody backslash quote body) :
    quotedLength backslash (byteOf quote) 0 (textBytes body ++ rest) =
      byteLength body + quotedLength backslash (byteOf quote) 0 rest := by
  have hascii := hquote.ascii
  have hne : ¬ byteOf quote = byteOf '\\' := fun h =>
    hquote.ne_backslash ((byte_of_inj hascii (by decide)).mp h)
  induction h with
  | nil => simp [byteLength]
  | @char c body hchar hescape hbody ih =>
      rw [text_bytes_cons, List.append_assoc, (quoted_goes_on hascii).char, ih]
      · simp [byteLength]
        omega
      · intro hc
        rw [quotedLength, if_neg fun h => hescape h.1 ((byte_of_inj hc (by decide)).mp h.2.1),
          if_neg fun h => hchar ((byte_of_inj hc hascii).mp h)]
  | @doubled body hbody ih =>
      rw [text_bytes_ascii hascii, text_bytes_ascii hascii, List.cons_append, List.cons_append,
        quotedLength, if_neg fun h => hne h.2.1, if_pos rfl, List.head?_cons, if_pos rfl,
        quotedLength, ih]
      simp [byteLength, size_ascii hascii]
      omega
  | @escaped c body hescape hbody ih =>
      have hnonempty : textBytes (c :: body) ++ rest ≠ [] := by
        rw [text_bytes_cons]
        simp [String.utf8EncodeChar_ne_nil]
      rw [text_bytes_ascii (by decide : Ascii '\\'), List.cons_append, quotedLength,
        if_pos ⟨hescape, rfl, hnonempty⟩, text_bytes_cons, List.append_assoc,
        quoted_length_unseen hascii, ih]
      simp [byteLength, size_ascii (by decide : Ascii '\\')]
      omega

/-- A line comment ends before the line feed that follows it. -/
theorem line_length_body {body after : List Char} (h : '\n' ∉ body)
    (hafter : ∀ c ∈ after.head?, c = '\n') :
    lineLength (textBytes body ++ textBytes after) = byteLength body := by
  have hgoes : GoesOn lineLength := by
    intro byte rest hbyte
    rw [lineLength, if_neg (wide_ne hbyte (by decide))]
  induction body with
  | nil =>
      cases after with
      | nil => rfl
      | cons c after =>
          rw [hafter c rfl, text_bytes_ascii (by decide)]
          rfl
  | cons c body ih =>
      have hne : c ≠ '\n' := fun hc => h (hc ▸ List.mem_cons_self)
      rw [text_bytes_cons, List.append_assoc, hgoes.char,
        ih fun hmem => h (List.mem_cons_of_mem c hmem)]
      · simp [byteLength]
      · intro hc
        rw [lineLength, if_neg fun h => hne ((byte_of_inj hc (by decide)).mp h)]

/-- The loop over a comment goes on at bytes behind ASCII. -/
theorem block_goes_on : GoesOn blockLength := by
  intro byte rest hbyte
  rw [blockLength, if_neg fun h => wide_ne hbyte (by decide) h.1]

/-- The loop over a comment goes on where the comment does. -/
theorem block_length_cons {text : List Char} (h : ¬ ['*', '/'] <+: c :: text) :
    blockLength (String.utf8EncodeChar c ++ textBytes text) =
      c.utf8Size + blockLength (textBytes text) := by
  refine block_goes_on.char ?_
  intro hc
  rw [blockLength, if_neg]
  intro ⟨hstar, hslash⟩
  obtain rfl := (byte_of_inj hc (by decide)).mp hstar
  obtain ⟨text, rfl⟩ :=
    List.head?_eq_some_iff.mp ((head_text_bytes (by decide : Ascii '/')).mp hslash)
  exact h ⟨text, rfl⟩

/-- A comment ends behind its first end. -/
theorem block_length_closed {body after : List Char}
    (h : find ['*', '/'] (body ++ ['*', '/']) = some body.length) :
    blockLength (textBytes (body ++ ['*', '/'] ++ after)) = byteLength body + 2 := by
  induction body with
  | nil =>
      rw [List.nil_append, List.cons_append, List.cons_append, text_bytes_ascii (by decide),
        text_bytes_ascii (by decide)]
      rfl
  | cons c body ih =>
      obtain ⟨hnot, hrest⟩ := find_cons_succ.mp h
      have hnot' : ¬ ['*', '/'] <+: c :: (body ++ ['*', '/'] ++ after) := by
        intro hprefix
        exact hnot (List.prefix_of_prefix_length_le hprefix ⟨after, by simp⟩ (by simp))
      rw [List.cons_append, List.cons_append, text_bytes_cons, block_length_cons hnot', ih hrest]
      simp [byteLength]
      omega

/-- A comment without an end goes on to the end. -/
theorem block_length_open {body : List Char} (h : find ['*', '/'] body = none) :
    blockLength (textBytes body) = byteLength body := by
  induction body with
  | nil => rfl
  | cons c body ih =>
      obtain ⟨hnot, hrest⟩ := find_cons_none.mp h
      rw [text_bytes_cons, block_length_cons hnot, ih hrest]
      simp [byteLength]

/-- A character of a tag is ASCII. -/
theorem ascii_of_tag_char (h : isTagChar c = true) : Ascii c := by
  rw [is_tag_char_iff] at h
  unfold Ascii
  omega

/-- A tag is ASCII. -/
theorem IsTag.ascii {tag : List Char} (h : IsTag tag) : ∀ c ∈ tag, Ascii c := by
  obtain ⟨name, hname, rfl⟩ := h
  intro c hc
  simp only [List.cons_append, List.mem_cons, List.mem_append, List.not_mem_nil, or_false] at hc
  obtain rfl | hc | rfl := hc
  · decide
  · exact ascii_of_tag_char (hname c hc)
  · decide

/-- The loop over a dollar-quoted body goes on at bytes behind ASCII. -/
theorem dollar_goes_on {tag : List Char} (h : IsTag tag) :
    GoesOn (dollarLength (textBytes tag)) := by
  intro byte rest hbyte
  obtain ⟨name, -, rfl⟩ := h
  rw [dollarLength, if_neg]
  rw [List.cons_append, text_bytes_ascii (by decide), List.cons_prefix_cons]
  intro h
  exact wide_ne hbyte (by decide) h.1.symm

/-- The loop over a dollar-quoted body goes on where the tag does not stand. -/
theorem dollar_length_cons {tag text : List Char} (htag : IsTag tag) (h : ¬ tag <+: c :: text) :
    dollarLength (textBytes tag) (String.utf8EncodeChar c ++ textBytes text) =
      c.utf8Size + dollarLength (textBytes tag) (textBytes text) := by
  refine (dollar_goes_on htag).char ?_
  intro hc
  rw [dollarLength, if_neg]
  rw [← text_bytes_ascii hc, prefix_text_bytes htag.ascii]
  exact h

/-- A dollar-quoted body ends behind the first occurrence of its tag. -/
theorem dollar_length_closed {tag body after : List Char} (htag : IsTag tag)
    (h : find tag (body ++ tag) = some body.length) :
    dollarLength (textBytes tag) (textBytes (body ++ tag ++ after)) =
      byteLength body + byteLength tag := by
  induction body with
  | nil =>
      have hprefix : textBytes tag <+: textBytes ([] ++ tag ++ after) := by
        rw [List.nil_append, text_bytes_append]
        exact List.prefix_append _ _
      cases hbytes : textBytes ([] ++ tag ++ after) with
      | nil =>
          obtain ⟨name, -, rfl⟩ := htag
          rw [List.nil_append, List.cons_append, List.cons_append,
            text_bytes_ascii (by decide)] at hbytes
          cases hbytes
      | cons byte bytes =>
          rw [hbytes] at hprefix
          rw [dollarLength, if_pos hprefix, length_text_bytes]
          simp [byteLength]
  | cons c body ih =>
      obtain ⟨hnot, hrest⟩ := find_cons_succ.mp h
      have hnot' : ¬ tag <+: c :: (body ++ tag ++ after) := by
        intro hprefix
        refine hnot (List.prefix_of_prefix_length_le hprefix ⟨after, by simp⟩ ?_)
        simp
        omega
      rw [List.cons_append, List.cons_append, text_bytes_cons, dollar_length_cons htag hnot',
        ih hrest]
      simp [byteLength]
      omega

/-- A dollar-quoted body without an end goes on to the end. -/
theorem dollar_length_open {tag body : List Char} (htag : IsTag tag) (h : find tag body = none) :
    dollarLength (textBytes tag) (textBytes body) = byteLength body := by
  induction body with
  | nil => rfl
  | cons c body ih =>
      obtain ⟨hnot, hrest⟩ := find_cons_none.mp h
      rw [text_bytes_cons, dollar_length_cons htag hnot, ih hrest]
      simp [byteLength]

end

/-! ## Dollar tags -/

/-- The bytes of a tag by their numbers. -/
theorem is_tag_byte_iff {byte : UInt8} :
    isTagByte byte = true ↔ (48 ≤ byte.toNat ∧ byte.toNat ≤ 57) ∨
      (65 ≤ byte.toNat ∧ byte.toNat ≤ 90) ∨ (97 ≤ byte.toNat ∧ byte.toNat ≤ 122) ∨
      byte.toNat = 95 := by
  unfold isTagByte
  simp only [Bool.or_eq_true, Bool.and_eq_true, decide_eq_true_eq, beq_iff_eq,
    UInt8.le_iff_toNat_le, ← UInt8.toNat_inj]
  simp only [UInt8.reduceToNat]
  omega

/-- The byte of an ASCII character is in a tag when the character is. -/
theorem is_tag_byte_of {c : Char} (h : Ascii c) : isTagByte (byteOf c) = isTagChar c := by
  rw [Bool.eq_iff_iff, is_tag_byte_iff, is_tag_char_iff, byte_of_to_nat h]

/-- A byte behind ASCII is in no tag. -/
theorem wide_not_tag {byte : UInt8} (h : 128 ≤ byte.toNat) : isTagByte byte = false := by
  rw [Bool.eq_false_iff, Ne, is_tag_byte_iff]
  omega

/-- The bytes of a tag are those of its characters. -/
theorem tag_bytes (text : List Char) :
    (textBytes text).takeWhile isTagByte = textBytes (text.takeWhile isTagChar) ∧
      (textBytes text).dropWhile isTagByte = textBytes (text.dropWhile isTagChar) := by
  induction text with
  | nil => exact ⟨rfl, rfl⟩
  | cons c text ih =>
      by_cases htag : isTagChar c = true
      · have hc := ascii_of_tag_char htag
        have hbyte : isTagByte (byteOf c) = true := (is_tag_byte_of hc).trans htag
        rw [text_bytes_ascii hc, List.takeWhile_cons_of_pos hbyte, List.dropWhile_cons_of_pos hbyte,
          List.takeWhile_cons_of_pos htag, List.dropWhile_cons_of_pos htag, text_bytes_ascii hc,
          ih.1, ih.2]
        exact ⟨rfl, rfl⟩
      · rw [List.takeWhile_cons_of_neg htag, List.dropWhile_cons_of_neg htag]
        obtain ⟨first, rest, hbytes, hfirst⟩ : ∃ first rest, textBytes (c :: text) = first :: rest ∧
            ¬ isTagByte first = true := by
          by_cases hc : Ascii c
          · exact ⟨_, _, text_bytes_ascii hc text, by rw [is_tag_byte_of hc]; exact htag⟩
          · obtain ⟨first, rest, henc, hfirst, -⟩ := utf8_wide (Nat.le_of_not_lt hc)
            refine ⟨first, rest ++ textBytes text, by rw [text_bytes_cons, henc]; rfl, ?_⟩
            rw [wide_not_tag (by omega)]
            exact Bool.false_ne_true
        rw [hbytes, List.takeWhile_cons_of_neg hfirst, List.dropWhile_cons_of_neg hfirst]
        exact ⟨rfl, rfl⟩

/-- An ASCII text has as many bytes as characters. -/
theorem length_text_bytes_ascii {text : List Char} (h : ∀ c ∈ text, Ascii c) :
    (textBytes text).length = text.length := by
  induction text with
  | nil => rfl
  | cons c text ih =>
      rw [text_bytes_ascii (h c List.mem_cons_self), List.length_cons, List.length_cons,
        ih fun d hd => h d (List.mem_cons_of_mem c hd)]

/-- The length of the tag that a dollar sign opens. -/
theorem dollar_tag_len (rest : List Char) :
    dollarTagLen (textBytes rest) = (dollarTag rest).map List.length := by
  have hname : (textBytes (rest.takeWhile isTagChar)).length =
      (rest.takeWhile isTagChar).length :=
    length_text_bytes_ascii fun c hc => ascii_of_tag_char (List.mem_takeWhile_imp hc)
  unfold dollarTagLen dollarTag
  rw [(tag_bytes rest).1, (tag_bytes rest).2, hname]
  by_cases hdollar : (rest.dropWhile isTagChar).head? = some '$'
  · rw [if_pos ((head_text_bytes (by decide)).mpr hdollar)]
    obtain ⟨after, hafter⟩ := List.head?_eq_some_iff.mp hdollar
    rw [hafter]
    simp
  · rw [if_neg fun h => hdollar ((head_text_bytes (by decide)).mp h)]
    split
    · next hafter => rw [hafter] at hdollar; exact absurd rfl hdollar
    · rfl

/-! ## The loop on a piece -/

section

variable {backslash : Bool} {start index : Nat}

/-- Bytes that a turn takes. -/
theorem slices_skip (taken rest : List UInt8) :
    slices backslash taken.length start index (taken ++ rest) =
      slices backslash 0 start (index + taken.length) rest := by
  induction taken generalizing index with
  | nil => rfl
  | cons byte taken ih =>
      rw [List.length_cons, List.cons_append, slices, ih]
      congr 1
      omega

/-- A turn of the loop that takes a piece. -/
theorem slices_turn {byte : UInt8} {taken rest : List UInt8}
    (h : turn backslash byte (taken ++ rest) = some taken.length) :
    slices backslash 0 start index (byte :: (taken ++ rest)) =
      slices backslash 0 start (index + (taken.length + 1)) rest := by
  rw [slices, h]
  simp only
  rw [slices_skip]
  congr 1
  omega

/-- A byte behind ASCII is taken on its own. -/
theorem turn_wide {byte : UInt8} (h : 128 ≤ byte.toNat) (rest : List UInt8) :
    turn backslash byte rest = some 0 := by
  have hne : ∀ {c : Char}, Ascii c → byte ≠ byteOf c := fun hc => wide_ne h hc
  unfold turn
  rw [if_neg (not_or.mpr ⟨hne (by decide), hne (by decide)⟩), if_neg fun h => hne (by decide) h.1,
    if_neg fun h => hne (by decide) h.1, if_neg (hne (by decide)), if_neg (hne (by decide))]

/-- Bytes behind ASCII are taken one by one. -/
theorem slices_wide {bytes : List UInt8} (h : ∀ byte ∈ bytes, 128 ≤ byte.toNat)
    (rest : List UInt8) :
    slices backslash 0 start index (bytes ++ rest) =
      slices backslash 0 start (index + bytes.length) rest := by
  induction bytes generalizing index with
  | nil => rfl
  | cons byte bytes ih =>
      rw [List.cons_append, slices, turn_wide (h byte List.mem_cons_self)]
      simp only
      rw [ih fun b hb => h b (List.mem_cons_of_mem byte hb), List.length_cons]
      congr 1
      omega

/-- A character that is a piece of its own is taken on its own. -/
theorem turn_plain {c : Char} {after : List Char} (hc : Ascii c)
    (h : (Piece.plain c).Fits backslash after) :
    turn backslash (byteOf c) (textBytes after) = some 0 := by
  obtain ⟨hquote, hsep, hline, hblock, hdollar⟩ := h
  have hbyte : ∀ {d : Char}, Ascii d → (byteOf c = byteOf d ↔ c = d) :=
    fun hd => byte_of_inj hc hd
  have hquote' : ¬ (byteOf c = byteOf '\'' ∨ byteOf c = byteOf '"') := by
    rw [hbyte (by decide), hbyte (by decide)]
    exact hquote
  have hline' : ¬ (byteOf c = byteOf '-' ∧ (textBytes after).head? = some (byteOf '-')) := by
    rw [hbyte (by decide), head_text_bytes (by decide)]
    exact hline
  have hblock' : ¬ (byteOf c = byteOf '/' ∧ (textBytes after).head? = some (byteOf '*')) := by
    rw [hbyte (by decide), head_text_bytes (by decide)]
    exact hblock
  have hsep' : ¬ byteOf c = byteOf ';' := by
    rw [hbyte (by decide)]
    exact hsep
  unfold turn
  rw [if_neg hquote', if_neg hline', if_neg hblock', if_neg hsep', dollar_tag_len]
  by_cases heq : c = '$'
  · rw [if_pos (by rw [heq]), hdollar heq]
    rfl
  · rw [if_neg fun h => heq ((hbyte (by decide)).mp h)]

/-- The byte of a quote is no backslash. -/
theorem IsQuote.byte_ne {quote : Char} (h : IsQuote quote) : byteOf quote ≠ byteOf '\\' :=
  fun heq => h.ne_backslash ((byte_of_inj h.ascii (by decide)).mp heq)

/-- A quote opens a literal. -/
theorem turn_literal {quote : Char} (h : IsQuote quote) (rest : List UInt8) :
    turn backslash (byteOf quote) rest = some (quotedLength backslash (byteOf quote) 0 rest) := by
  unfold turn
  refine if_pos ?_
  cases h with
  | inl h => exact .inl (by rw [h])
  | inr h => exact .inr (by rw [h])

/-- Two dashes open a line comment. -/
theorem turn_line_comment (rest : List Char) :
    turn backslash (byteOf '-') (textBytes ('-' :: rest)) =
      some (lineLength (textBytes ('-' :: rest))) := by
  unfold turn
  rw [if_neg (by decide), if_pos ⟨rfl, rfl⟩]

/-- A slash and a star open a comment. -/
theorem turn_block_comment (rest : List Char) :
    turn backslash (byteOf '/') (textBytes ('*' :: rest)) =
      some (blockLength (textBytes rest) + 1) := by
  unfold turn
  rw [if_neg (by decide), if_neg fun h => absurd h.1 (by decide), if_pos ⟨rfl, rfl⟩]
  rfl

/-- A dollar tag opens a dollar-quoted body. -/
theorem turn_dollar {name : List Char} (hname : ∀ c ∈ name, isTagChar c = true)
    (rest : List Char) :
    turn backslash (byteOf '$') (textBytes (name ++ ['$'] ++ rest)) =
      some (name.length + 1 +
        dollarLength (textBytes ('$' :: name ++ ['$'])) (textBytes rest)) := by
  have htag : ∀ c ∈ name ++ ['$'], Ascii c := by
    intro c hc
    cases List.mem_append.mp hc with
    | inl hc => exact ascii_of_tag_char (hname c hc)
    | inr hc => rw [List.mem_singleton.mp hc]; decide
  have hlength : (textBytes (name ++ ['$'])).length = name.length + 1 := by
    rw [length_text_bytes_ascii htag, List.length_append, List.length_singleton]
  have htext : name ++ ['$'] ++ rest = name ++ '$' :: rest := by simp
  unfold turn
  rw [if_neg (by decide), if_neg fun h => absurd h.1 (by decide),
    if_neg fun h => absurd h.1 (by decide), if_pos rfl, dollar_tag_len, htext,
    dollar_tag_of_tag hname, ← htext, text_bytes_append]
  show some ((('$' :: name ++ ['$']).length - 1) + dollarLength (byteOf '$' ::
    (textBytes (name ++ ['$']) ++ textBytes rest).take (('$' :: name ++ ['$']).length - 1))
    ((textBytes (name ++ ['$']) ++ textBytes rest).drop (('$' :: name ++ ['$']).length - 1))) = _
  have hsize : ('$' :: name ++ ['$']).length - 1 = (textBytes (name ++ ['$'])).length := by
    rw [hlength]
    simp
  rw [hsize, List.take_left, List.drop_left, hlength, List.cons_append,
    text_bytes_ascii (by decide)]

/-- The loop takes a piece that is no separator as a whole. -/
theorem slices_piece {piece : Piece} {after : List Char} (h : piece.Fits backslash after)
    (hsep : piece ≠ .separator) :
    slices backslash 0 start index (textBytes (piece.text ++ after)) =
      slices backslash 0 start (index + byteLength piece.text) (textBytes after) := by
  -- one turn takes the first byte and what the turn says
  have hturn : ∀ (c : Char) (text : List Char), Ascii c → piece.text = c :: text →
      turn backslash (byteOf c) (textBytes (text ++ after)) = some (byteLength text) →
      slices backslash 0 start index (textBytes (piece.text ++ after)) =
        slices backslash 0 start (index + byteLength piece.text) (textBytes after) := by
    intro c text hc htext hsome
    rw [text_bytes_append, ← length_text_bytes] at hsome
    rw [htext, List.cons_append, text_bytes_ascii hc, text_bytes_append, slices_turn hsome,
      length_text_bytes]
    congr 1
    simp only [byteLength, List.map_cons, List.sum_cons, size_ascii hc]
    omega
  cases piece with
  | separator => exact absurd rfl hsep
  | plain c =>
      by_cases hc : Ascii c
      · exact hturn c [] hc rfl (turn_plain hc h)
      · rw [Piece.text, List.singleton_append, text_bytes_cons, slices_wide (wide_bytes hc),
          String.length_utf8EncodeChar]
        simp [byteLength]
  | lineComment body =>
      refine hturn '-' ('-' :: body) (by decide) rfl ?_
      have hlength := @line_length_body ('-' :: body) after (by simpa using h.1) h.2
      rw [← text_bytes_append, List.cons_append] at hlength
      rw [List.cons_append, turn_line_comment, hlength]
  | literal quote body closed =>
      cases closed with
      | true =>
          refine hturn quote (body ++ [quote]) h.1.ascii rfl ?_
          rw [turn_literal h.1, List.append_assoc, text_bytes_append,
            quoted_length_body h.1 h.2.1, List.singleton_append, text_bytes_ascii h.1.ascii,
            quotedLength, if_neg fun hescape => h.1.byte_ne hescape.2.1, if_pos rfl,
            if_neg fun hhead => h.2.2 ((head_text_bytes h.1.ascii).mp hhead)]
          simp [byteLength, size_ascii h.1.ascii]
      | false =>
          obtain ⟨hquote, hbody, rfl⟩ := h
          refine hturn quote body hquote.ascii (by simp [Piece.text]) ?_
          rw [turn_literal hquote, List.append_nil]
          cases hbody with
          | inl hbody =>
              have hlength := @quoted_length_body backslash [] quote hquote body hbody
              rw [List.append_nil] at hlength
              rw [hlength]
              rfl
          | inr hbody =>
              obtain ⟨-, front, rfl, hfront⟩ := hbody
              rw [text_bytes_append, quoted_length_body hquote hfront,
                text_bytes_ascii (by decide), quotedLength, if_neg fun h => h.2.2 rfl,
                if_neg (Ne.symm hquote.byte_ne)]
              simp [byteLength, size_ascii (by decide : Ascii '\\'), quotedLength]
  | blockComment body closed =>
      cases closed with
      | true =>
          refine hturn '/' ('*' :: (body ++ ['*', '/'])) (by decide) rfl ?_
          rw [List.cons_append, turn_block_comment, block_length_closed h]
          simp [byteLength, size_ascii (by decide : Ascii '*'), size_ascii (by decide : Ascii '/')]
          omega
      | false =>
          obtain ⟨hbody, rfl⟩ := h
          refine hturn '/' ('*' :: body) (by decide) (by simp [Piece.text]) ?_
          rw [List.append_nil, turn_block_comment, block_length_open hbody]
          simp [byteLength, size_ascii (by decide : Ascii '*')]
          omega
  | dollar tag body closed =>
      have htag : IsTag tag := by
        cases closed with
        | true => exact h.1
        | false => exact h.1
      obtain ⟨name, hname, rfl⟩ := htag
      have hlength : byteLength (name ++ ['$']) = name.length + 1 := by
        rw [← length_text_bytes, length_text_bytes_ascii, List.length_append,
          List.length_singleton]
        intro c hc
        cases List.mem_append.mp hc with
        | inl hc => exact ascii_of_tag_char (hname c hc)
        | inr hc => rw [List.mem_singleton.mp hc]; decide
      cases closed with
      | true =>
          refine hturn '$' (name ++ ['$'] ++ (body ++ ('$' :: name ++ ['$']))) (by decide)
            (by simp [Piece.text]) ?_
          rw [List.append_assoc, turn_dollar hname, dollar_length_closed h.1 h.2]
          simp only [byte_length_append, hlength]
      | false =>
          obtain ⟨htag, hbody, rfl⟩ := h
          refine hturn '$' (name ++ ['$'] ++ body) (by decide) (by simp [Piece.text]) ?_
          rw [List.append_assoc, turn_dollar hname, List.append_nil, dollar_length_open htag hbody]
          simp only [byte_length_append, hlength]

end

/-! ## The slices of a script -/

/-- Where the segments of a script lie: every one is followed by its semicolon. -/
def boundsFrom : Nat → List (List Char) → List (Nat × Nat)
  | _, [] => []
  | start, segment :: segments =>
    (start, start + byteLength segment) :: boundsFrom (start + byteLength segment + 1) segments

/-- The loop slices a script at the separators of a reading. -/
theorem slices_eq_bounds {backslash : Bool} {start : Nat} (group : List Piece)
    {pieces : List Piece} (h : Lexed backslash [] pieces) :
    slices backslash 0 start (start + byteLength (textOf group)) (textBytes (textOf pieces)) =
      boundsFrom start ((groupsFrom group pieces).map textOf) := by
  induction pieces generalizing group start with
  | nil => rfl
  | cons piece pieces ih =>
      obtain ⟨hfits, hpieces⟩ := h
      rw [List.append_nil] at hfits
      by_cases hsep : piece = .separator
      · subst hsep
        have hturn : turn backslash (byteOf ';') (textBytes (textOf pieces)) = none := by
          unfold turn
          rw [if_neg (by decide), if_neg fun h => absurd h.1 (by decide),
            if_neg fun h => absurd h.1 (by decide), if_neg (by decide), if_pos rfl]
        rw [text_of_cons, Piece.text, List.singleton_append, text_bytes_ascii (by decide), slices,
          hturn]
        show (start, start + byteLength (textOf group)) :: slices backslash 0
          (start + byteLength (textOf group) + 1)
          (start + byteLength (textOf group) + 1 + byteLength (textOf [])) _ = _
        rw [ih [] hpieces]
        rfl
      · rw [text_of_cons, slices_piece hfits hsep, groups_from_cons hsep, ← ih _ hpieces]
        congr 1
        simp [Nat.add_assoc]

/-- Slicing behind some characters. -/
theorem drop_bytes_append (front back : List Char) :
    dropBytes (byteLength front) (front ++ back) = some back := by
  induction front with
  | nil => exact dropBytes.eq_1 back
  | cons c front ih =>
      have hpos := c.utf8Size_pos
      have hlength : byteLength (c :: front) = c.utf8Size + byteLength front := by
        simp [byteLength]
      obtain ⟨n, hn⟩ : ∃ n, byteLength (c :: front) = n + 1 :=
        ⟨byteLength (c :: front) - 1, by omega⟩
      rw [hn, List.cons_append, dropBytes, if_pos (by omega),
        show n + 1 - c.utf8Size = byteLength front by omega]
      exact ih

/-- Slicing before some characters. -/
theorem take_bytes_append (front back : List Char) :
    takeBytes (byteLength front) (front ++ back) = some front := by
  induction front with
  | nil => exact takeBytes.eq_1 back
  | cons c front ih =>
      have hpos := c.utf8Size_pos
      have hlength : byteLength (c :: front) = c.utf8Size + byteLength front := by
        simp [byteLength]
      obtain ⟨n, hn⟩ : ∃ n, byteLength (c :: front) = n + 1 :=
        ⟨byteLength (c :: front) - 1, by omega⟩
      rw [hn, List.cons_append, takeBytes, if_pos (by omega),
        show n + 1 - c.utf8Size = byteLength front by omega, ih]
      rfl

/-- A slice between characters. -/
theorem str_slice_append (front middle back : List Char) :
    strSlice (front ++ middle ++ back) (byteLength front)
      (byteLength front + byteLength middle) = some middle := by
  unfold strSlice
  rw [List.append_assoc, drop_bytes_append, Option.bind_some, Nat.add_sub_cancel_left,
    take_bytes_append]

/-- The slices of a text at the bounds of its segments are its segments. -/
theorem map_m_bounds (front : List Char) (segments : List (List Char)) :
    (boundsFrom (byteLength front) segments).mapM
      (fun bounds => strSlice (front ++ [';'].intercalate segments) bounds.1 bounds.2) =
      some segments := by
  induction segments generalizing front with
  | nil => rfl
  | cons segment segments ih =>
      cases segments with
      | nil =>
          have hslice := str_slice_append front segment []
          rw [List.append_nil] at hslice
          simp [boundsFrom, hslice]
      | cons next segments =>
          have htext : front ++ [';'].intercalate (segment :: next :: segments) =
              (front ++ segment ++ [';']) ++ [';'].intercalate (next :: segments) := by
            rw [List.intercalate_cons_cons]
            simp
          have hlength : byteLength (front ++ segment ++ [';']) =
              byteLength front + byteLength segment + 1 := by
            rw [byte_length_append, byte_length_append]
            rfl
          have hrest := ih (front ++ segment ++ [';'])
          rw [hlength] at hrest
          have hslice := str_slice_append front segment
            ([';'] ++ [';'].intercalate (next :: segments))
          rw [← List.append_assoc] at hslice
          rw [htext, boundsFrom, List.mapM_cons, hslice, hrest]
          rfl

/-- The splitter slices a script between characters, and its statements are those of the splitter
on characters. -/
theorem split_slices_eq (sql : List Char) (engine : Engine) :
    splitSlices sql engine = some (splitStatements sql engine) := by
  obtain ⟨pieces, rfl, hpieces⟩ := exists_lexed (backslashEscapes engine) sql
  have hslices := @slices_eq_bounds (backslashEscapes engine) 0 [] pieces hpieces
  have htext := intercalate_groups_from [] pieces
  rw [text_of_nil, List.nil_append] at htext
  have hsegments := map_m_bounds [] ((groupsFrom [] pieces).map textOf)
  rw [List.nil_append, htext] at hsegments
  unfold splitSlices splitStatements
  rw [show slices (backslashEscapes engine) 0 0 0 (textBytes (textOf pieces)) = _ from hslices,
    show (boundsFrom 0 _).mapM _ = _ from hsegments, segments_eq_groups hpieces]
  rfl

/-- Splitting loses and duplicates nothing: no slice is inside a character, the script has a
reading, the statements of every reading lie in order in the segments between its separators with
only blanks and comments around them, and every statement is split into itself. -/
theorem split_statements_lossless (sql : List Char) (engine : Engine) :
    splitSlices sql engine = some (splitStatements sql engine) ∧
    (∃ pieces, textOf pieces = sql ∧ Lexed (backslashEscapes engine) [] pieces) ∧
    (∀ pieces, textOf pieces = sql → Lexed (backslashEscapes engine) [] pieces →
      [';'].intercalate ((groups pieces).map textOf) = sql ∧
        Carved (groups pieces) (splitStatements sql engine)) ∧
    ∀ statement ∈ splitStatements sql engine,
      splitStatements statement engine = [statement] := by
  refine ⟨split_slices_eq sql engine, exists_lexed _ sql, ?_, fun _ h => split_statements_self h⟩
  intro pieces htext hpieces
  subst htext
  refine ⟨(intercalate_groups_from [] pieces).trans (List.nil_append _), ?_⟩
  unfold splitStatements
  rw [segments_eq_groups hpieces]
  exact carved_of_lexed (groups_from_lexed trivial (List.forall_mem_nil _) hpieces)

end Dopedb.SqlScript
