import Dopedb.Model
import Dopedb.Text
import Mathlib.Data.List.Basic

/-!
# Splitting a SQL script

`sql_script/mod.rs`: the scanner that finds the ends of the statements of a script. It knows quoted
literals, dollar quotes and comments, and nothing else. `reads` is the scanner on a part of a
script: `segments_of_reads` and `reads_append` let a script be read piece by piece.
-/

namespace Dopedb.SqlScript

/-! ## Finding the ends -/

/-- Where the scanner is. -/
inductive Mode where
  | top
  | quoted (quote : Char)
  | lineComment
  | blockComment
  | dollar (tag : List Char)
  deriving DecidableEq, Repr

/-- What the scanner does at a character: it ends the statement there, or goes on in a mode and
takes some of the next characters with this one. -/
inductive Action where
  | cut
  | go (mode : Mode) (extra : Nat)
  deriving DecidableEq, Repr

/-- A character of a dollar tag between its dollars. -/
def isTagChar (c : Char) : Bool := c.isAlphanum || c = '_'

/-- The dollar tag that a `$` before these characters opens. -/
def dollarTag (rest : List Char) : Option (List Char) :=
  match rest.dropWhile isTagChar with
  | '$' :: _ => some ('$' :: rest.takeWhile isTagChar ++ ['$'])
  | _ => none

/-- The scanner at the top level. -/
def nextTop (c : Char) (rest : List Char) : Action :=
  if c = '\'' ∨ c = '"' then .go (.quoted c) 0
  else if c = '-' ∧ rest.head? = some '-' then .go .lineComment 0
  else if c = '/' ∧ rest.head? = some '*' then .go .blockComment 1
  else if c = '$' then
    match dollarTag rest with
    | some tag => .go (.dollar tag) (tag.length - 1)
    | none => .go .top 0
  else if c = ';' then .cut
  else .go .top 0

/-- The scanner at a character before the rest of the script. -/
@[simp] def next (backslash : Bool) : Mode → Char → List Char → Action
  | .top, c, rest => nextTop c rest
  | .quoted quote, c, rest =>
    if backslash ∧ c = '\\' ∧ rest ≠ [] then .go (.quoted quote) 1
    else if c = quote then
      -- A doubled quote stands for the quote.
      if rest.head? = some quote then .go (.quoted quote) 1 else .go .top 0
    else .go (.quoted quote) 0
  | .lineComment, c, _ => if c = '\n' then .go .top 0 else .go .lineComment 0
  | .blockComment, c, rest =>
    if c = '*' ∧ rest.head? = some '/' then .go .top 1 else .go .blockComment 0
  | .dollar tag, c, rest =>
    if tag <+: c :: rest then .go .top (tag.length - 1) else .go (.dollar tag) 0

/-- The segments of a script between its ends. The scanner is in a mode, takes so many characters
unseen, and has this much of the segment. -/
def segments (backslash : Bool) : Mode → Nat → List Char → List Char → List (List Char)
  | _, _, segment, [] => [segment]
  | mode, skip + 1, segment, c :: rest => segments backslash mode skip (segment ++ [c]) rest
  | mode, 0, segment, c :: rest =>
    match next backslash mode c rest with
    | .cut => segment :: segments backslash .top 0 [] rest
    | .go mode extra => segments backslash mode extra (segment ++ [c]) rest

/-! ## Segments without SQL -/

/-- Where `strip_comments` is. -/
inductive CommentMode where
  | text | line | block
  deriving DecidableEq, Repr

/-- The bytes of a character as characters of their own. -/
def byteChars (c : Char) : List Char :=
  (String.utf8EncodeChar c).map fun byte => Char.ofNat byte.toNat

/-- `strip_comments` from a mode, with so many characters to take unseen. -/
@[simp] def stripFrom : CommentMode → Nat → List Char → List Char
  | _, _, [] => []
  | mode, skip + 1, _ :: rest => stripFrom mode skip rest
  | .text, 0, c :: rest =>
    if c = '-' ∧ rest.head? = some '-' then stripFrom .line 0 rest
    else if c = '/' ∧ rest.head? = some '*' then stripFrom .block 1 rest
    -- The text is copied byte by byte.
    else byteChars c ++ stripFrom .text 0 rest
  | .line, 0, c :: rest =>
    if c = '\n' then byteChars c ++ stripFrom .text 0 rest else stripFrom .line 0 rest
  | .block, 0, c :: rest =>
    if c = '*' ∧ rest.head? = some '/' then stripFrom .text 1 rest else stripFrom .block 0 rest

/-- A statement without its comments. -/
def stripComments (sql : List Char) : List Char := stripFrom .text 0 sql

/-- A segment has more than comments. -/
def isEffective (statement : List Char) : Bool := !(trim (stripComments statement)).isEmpty

/-- The statement of a segment. -/
def pushStatement (raw : List Char) : Option (List Char) :=
  let statement := trim raw
  if statement ≠ [] ∧ isEffective statement then some statement else none

/-- MySQL has backslash escapes in its literals. -/
def backslashEscapes (engine : Engine) : Bool := engine = .mysql

/-- The statements of a script. -/
def splitStatements (sql : List Char) (engine : Engine) : List (List Char) :=
  (segments (backslashEscapes engine) .top 0 [] sql).filterMap pushStatement

/-! ## Reading a part of a script -/

/-- The scanner on a part of a script before the rest of it: none when a statement ends in the
part, else where the scanner is after it. -/
def reads (backslash : Bool) : Mode → Nat → List Char → List Char → Option (Mode × Nat)
  | mode, skip, [], _ => some (mode, skip)
  | mode, skip + 1, _ :: part, after => reads backslash mode skip part after
  | mode, 0, c :: part, after =>
    match next backslash mode c (part ++ after) with
    | .cut => none
    | .go mode extra => reads backslash mode extra part after

variable {backslash : Bool} {mode mode' : Mode} {skip skip' : Nat}

/-- A character that is taken unseen. -/
theorem reads_skip {c : Char} {part after : List Char} :
    reads backslash mode (skip + 1) (c :: part) after = reads backslash mode skip part after := rfl

/-- A character at which the scanner goes on. -/
theorem reads_go {c : Char} {part after : List Char} {extra : Nat}
    (h : next backslash mode c (part ++ after) = .go mode' extra) :
    reads backslash mode 0 (c :: part) after = reads backslash mode' extra part after := by
  rw [reads, h]

/-- A part may be read in two. -/
theorem reads_append (first second after : List Char) :
    reads backslash mode skip (first ++ second) after =
      (reads backslash mode skip first (second ++ after)).bind fun state =>
        reads backslash state.1 state.2 second after := by
  induction first generalizing mode skip with
  | nil => rfl
  | cons c first ih =>
      cases skip with
      | succ skip => exact ih
      | zero =>
          rw [List.cons_append, reads, reads, List.append_assoc]
          cases next backslash mode c (first ++ (second ++ after)) with
          | cut => rfl
          | go mode extra => exact ih

/-- A part in which no statement ends belongs to the segment. -/
theorem segments_of_reads {part after segment : List Char}
    (h : reads backslash mode skip part after = some (mode', skip')) :
    segments backslash mode skip segment (part ++ after) =
      segments backslash mode' skip' (segment ++ part) after := by
  induction part generalizing mode skip segment with
  | nil =>
      obtain ⟨rfl, rfl⟩ : mode = mode' ∧ skip = skip' := by simpa [reads] using h
      rw [List.nil_append, List.append_nil]
  | cons c part ih =>
      cases skip with
      | succ skip =>
          rw [List.cons_append, segments, ih h, List.append_assoc]
          rfl
      | zero =>
          unfold reads at h
          split at h
          · cases h
          · next mode extra hnext =>
              rw [List.cons_append, segments, hnext]
              simp only
              rw [ih h, List.append_assoc]
              rfl

/-! ## Effective statements -/

/-- Every ASCII character is a byte. -/
theorem byte_chars_ascii {c : Char} (h : c.toNat < 128) : byteChars c = [c] := by
  have hsize : c.utf8Size = 1 := Char.utf8Size_eq_one_iff.mpr (by
    rw [UInt32.le_iff_toNat_le]
    show c.toNat ≤ 127
    omega)
  rw [byteChars, String.utf8EncodeChar_eq_singleton hsize, List.map_singleton]
  congr 1
  show Char.ofNat (UInt8.ofNat c.toNat).toNat = c
  rw [UInt8.toNat_ofNat', Nat.mod_eq_of_lt (by omega), Char.ofNat_toNat]

end Dopedb.SqlScript
