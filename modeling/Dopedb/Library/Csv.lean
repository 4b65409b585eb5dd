import Mathlib.Data.List.Basic

/-!
# Records and fields of CSV texts

RFC 4180 over any characters: fields with a comma, a quote or a line break stand in quotes, quotes
in them are doubled, and records end with a line break, the last one with or without it. So a last
record with one empty field is not seen, and everything else is read as it was written.
-/

namespace Dopedb.Library.Csv

/-- A field must stand in quotes when it has such a character. -/
def isSpecial (c : Char) : Bool := c = '"' || c = ',' || c = '\n' || c = '\r'

/-- The text of a field. -/
def renderField (text : List Char) : List Char :=
  if text.any isSpecial then
    '"' :: text.flatMap (fun c => if c = '"' then ['"', '"'] else [c]) ++ ['"']
  else text

/-- The text of a record. -/
def renderRecord (fields : List (List Char)) : List Char := [','].intercalate (fields.map renderField)

/-- The text of a file, without a line break behind its last record. -/
def renderRecords (records : List (List (List Char))) : List Char :=
  ['\r', '\n'].intercalate (records.map renderRecord)

/-! ## Reading -/

/-- Where a reader stands. -/
inductive Place where
  | record
  | field
  | plain (text : List Char)
  | quoted (text : List Char)
  /-- Behind a quote that closes, unless another one follows. -/
  | closing (text : List Char)
  /-- Between the two characters of a line break. -/
  | broken
  deriving DecidableEq

/-- What a reader has read. -/
structure Reader where
  records : List (List (List Char))
  fields : List (List Char)
  place : Place
  deriving DecidableEq

/-- A character behind a whole field. -/
def Reader.close (reader : Reader) (text : List Char) (c : Char) : Option Reader :=
  if c = ',' then some ⟨reader.records, reader.fields ++ [text], .field⟩
  else if c = '\r' then some ⟨reader.records, reader.fields ++ [text], .broken⟩
  else none

/-- A character at the start of a field. -/
def Reader.start (reader : Reader) (c : Char) : Option Reader :=
  if c = '"' then some ⟨reader.records, reader.fields, .quoted []⟩
  else if isSpecial c then reader.close [] c
  else some ⟨reader.records, reader.fields, .plain [c]⟩

/-- One character. -/
def Reader.step (reader : Reader) (c : Char) : Option Reader :=
  match reader.place with
  | .record => reader.start c
  | .field => reader.start c
  | .plain text =>
    if isSpecial c then reader.close text c
    else some ⟨reader.records, reader.fields, .plain (text ++ [c])⟩
  | .quoted text =>
    if c = '"' then some ⟨reader.records, reader.fields, .closing text⟩
    else some ⟨reader.records, reader.fields, .quoted (text ++ [c])⟩
  | .closing text =>
    if c = '"' then some ⟨reader.records, reader.fields, .quoted (text ++ ['"'])⟩
    else reader.close text c
  | .broken =>
    if c = '\n' then some ⟨reader.records ++ [reader.fields], [], .record⟩ else none

/-- The records, where the text may end. -/
def Reader.finish (reader : Reader) : Option (List (List (List Char))) :=
  match reader.place with
  | .record => some reader.records
  | .field => some (reader.records ++ [reader.fields ++ [[]]])
  | .plain text => some (reader.records ++ [reader.fields ++ [text]])
  | .closing text => some (reader.records ++ [reader.fields ++ [text]])
  | .quoted _ => none
  | .broken => none

/-- The reader over a text. -/
def Reader.over (reader : Reader) : List Char → Option Reader
  | [] => some reader
  | c :: text => (reader.step c).bind fun reader => reader.over text

/-- The records of a text. -/
def readRecords (text : List Char) : Option (List (List (List Char))) :=
  ((Reader.mk [] [] .record).over text).bind Reader.finish

theorem Reader.over_append {reader reader' : Reader} {text : List Char}
    (h : reader.over text = some reader') (text' : List Char) :
    reader.over (text ++ text') = reader'.over text' := by
  induction text generalizing reader with
  | nil =>
      obtain rfl := Option.some.inj h
      rfl
  | cons c text ih =>
      rw [Reader.over] at h
      obtain ⟨next, hstep, hrest⟩ := Option.bind_eq_some_iff.mp h
      rw [List.cons_append, Reader.over, hstep, Option.bind_some, ih hrest]

/-! ## Fields -/

/-- The reader stands behind a field with this text. -/
def Place.Holds (place : Place) (text : List Char) : Prop :=
  match place with
  | .record => text = []
  | .field => text = []
  | .plain held => held = text
  | .closing held => held = text
  | .quoted _ => False
  | .broken => False

variable {records : List (List (List Char))} {fields : List (List Char)}

/-- Behind a field comes a comma or a line break. -/
theorem step_held {place : Place} {text : List Char} (h : place.Holds text) {c : Char}
    (hc : c = ',' ∨ c = '\r') :
    (Reader.mk records fields place).step c = (Reader.mk records fields place).close text c := by
  have hquote : c ≠ '"' := by
    rcases hc with rfl | rfl <;> decide
  have hspecial : isSpecial c = true := by
    rcases hc with rfl | rfl <;> decide
  cases place with
  | record =>
      obtain rfl : text = [] := h
      show Reader.start _ c = _
      rw [Reader.start, if_neg hquote, if_pos hspecial]
  | field =>
      obtain rfl : text = [] := h
      show Reader.start _ c = _
      rw [Reader.start, if_neg hquote, if_pos hspecial]
  | plain held =>
      obtain rfl : held = text := h
      rw [Reader.step]
      simp only
      rw [if_pos hspecial]
  | closing held =>
      obtain rfl : held = text := h
      rw [Reader.step]
      simp only
      rw [if_neg hquote]
  | quoted held => exact absurd h not_false
  | broken => exact absurd h not_false

/-- The text may end behind a field, unless the record has not started. -/
theorem finish_held {place : Place} {text : List Char} (h : place.Holds text)
    (hrecord : place ≠ .record) :
    (Reader.mk records fields place).finish = some (records ++ [fields ++ [text]]) := by
  cases place with
  | record => exact absurd rfl hrecord
  | field =>
      obtain rfl : text = [] := h
      rfl
  | plain held =>
      obtain rfl : held = text := h
      rfl
  | closing held =>
      obtain rfl : held = text := h
      rfl
  | quoted held => exact absurd h not_false
  | broken => exact absurd h not_false

/-- A field without special characters goes on. -/
theorem over_plain {text : List Char} (h : text.any isSpecial = false) (front : List Char) :
    (Reader.mk records fields (.plain front)).over text =
      some ⟨records, fields, .plain (front ++ text)⟩ := by
  induction text generalizing front with
  | nil =>
      rw [List.append_nil]
      rfl
  | cons c text ih =>
      rw [List.any_cons, Bool.or_eq_false_iff] at h
      rw [Reader.over, Reader.step]
      simp only
      rw [h.1, if_neg (by decide), Option.bind_some, ih h.2, List.append_assoc]
      rfl

/-- A quoted field goes on. -/
theorem over_quoted (text front : List Char) :
    (Reader.mk records fields (.quoted front)).over
        (text.flatMap (fun c => if c = '"' then ['"', '"'] else [c])) =
      some ⟨records, fields, .quoted (front ++ text)⟩ := by
  induction text generalizing front with
  | nil =>
      rw [List.append_nil]
      rfl
  | cons c text ih =>
      have hfirst : (Reader.mk records fields (.quoted front)).over
          (if c = '"' then ['"', '"'] else [c]) =
            some ⟨records, fields, .quoted (front ++ [c])⟩ := by
        split
        case isTrue heq =>
            subst heq
            rfl
        case isFalse hne => simp [Reader.over, Reader.step, hne]
      rw [List.flatMap_cons, Reader.over_append hfirst, ih, List.append_assoc]
      rfl

/-- A field at its start is read as its text. -/
theorem over_field {place : Place} (hplace : place = .record ∨ place = .field)
    (text : List Char) : ∃ held, (Reader.mk records fields place).over (renderField text) =
      some ⟨records, fields, held⟩ ∧ held.Holds text ∧
        (held = .record ↔ place = .record ∧ text = []) := by
  have hstep : ∀ c, (Reader.mk records fields place).step c =
      (Reader.mk records fields place).start c := by
    intro c
    rcases hplace with rfl | rfl <;> rfl
  unfold renderField
  cases hspecial : text.any isSpecial with
  | true =>
      refine ⟨.closing text, ?_, rfl, iff_of_false (by simp) ?_⟩
      swap
      · rintro ⟨-, rfl⟩
        exact absurd hspecial (by decide)
      have hbody := @over_quoted records fields text []
      have hclose : (Reader.mk records fields (.quoted text)).over ['"'] =
          some ⟨records, fields, .closing text⟩ := rfl
      rw [if_pos rfl, List.cons_append, Reader.over, hstep]
      show (Reader.mk records fields (.quoted [])).over _ = _
      rw [Reader.over_append hbody]
      exact hclose
  | false =>
      rw [if_neg (by decide)]
      cases text with
      | nil =>
          refine ⟨place, rfl, ?_, (and_iff_left rfl).symm⟩
          rcases hplace with rfl | rfl <;> rfl
      | cons c text =>
          rw [List.any_cons, Bool.or_eq_false_iff] at hspecial
          have hquote : c ≠ '"' := by
            rintro rfl
            exact absurd hspecial.1 (by decide)
          refine ⟨.plain (c :: text), ?_, rfl, iff_of_false (by simp) (by simp)⟩
          rw [Reader.over, hstep, Reader.start, if_neg hquote, hspecial.1, if_neg (by decide),
            Option.bind_some, over_plain hspecial.2]
          rfl

/-! ## Records -/

/-- The fields of a record are read as their texts. -/
theorem over_record {place : Place} (hplace : place = .record ∨ place = .field)
    {front : List (List Char)} (last : List Char) :
    ∃ held, (Reader.mk records fields place).over (renderRecord (front ++ [last])) =
      some ⟨records, fields ++ front, held⟩ ∧ held.Holds last ∧
        (held = .record ↔ place = .record ∧ front = [] ∧ last = []) := by
  induction front generalizing fields place with
  | nil =>
      obtain ⟨held, hover, hholds, hrecord⟩ := over_field hplace last
      refine ⟨held, ?_, hholds, hrecord.trans (by simp)⟩
      rw [List.append_nil]
      simpa [renderRecord] using hover
  | cons text front ih =>
      obtain ⟨held, hover, hholds, -⟩ := @over_field records fields place hplace text
      obtain ⟨held', hover', hholds', hrecord⟩ :=
        @ih (fields ++ [text]) .field (.inr rfl)
      refine ⟨held', ?_, hholds', iff_of_false (fun h => ?_) (by simp)⟩
      swap
      · exact absurd (hrecord.mp h).1 (by decide)
      have hne : (front ++ [last]).map renderField ≠ [] := by simp
      unfold renderRecord at hover' ⊢
      rw [List.cons_append, List.map_cons, List.intercalate_cons_of_ne_nil hne,
        List.append_assoc, Reader.over_append hover, List.singleton_append, Reader.over,
        step_held hholds (.inl rfl), Reader.close, if_pos rfl, Option.bind_some, hover',
        List.append_assoc]
      rfl

/-- The records of a file are read as they were written, up to the last one. -/
theorem over_records {front : List (List (List Char))} (hfront : ∀ record ∈ front, record ≠ [])
    (last : List Char) (fields' : List (List Char)) :
    ∃ held, (Reader.mk records [] .record).over (renderRecords (front ++ [fields' ++ [last]])) =
      some ⟨records ++ front, fields', held⟩ ∧ held.Holds last ∧
        (held = .record ↔ fields' = [] ∧ last = []) := by
  induction front generalizing records with
  | nil =>
      obtain ⟨held, hover, hholds, hrecord⟩ := @over_record records [] .record (.inl rfl) fields' last
      refine ⟨held, ?_, hholds, hrecord.trans (and_iff_right rfl)⟩
      rw [List.append_nil]
      simpa [renderRecords] using hover
  | cons record front ih =>
      obtain ⟨before, text, rfl⟩ :=
        (List.eq_nil_or_concat record).resolve_left (hfront record List.mem_cons_self)
      rw [List.concat_eq_append] at *
      obtain ⟨held, hover, hholds, -⟩ := @over_record records [] .record (.inl rfl) before text
      obtain ⟨held', hover', hholds', hrecord⟩ :=
        @ih (records ++ [before ++ [text]]) fun other hother =>
          hfront other (List.mem_cons_of_mem _ hother)
      refine ⟨held', ?_, hholds', hrecord⟩
      have hne : (front ++ [fields' ++ [last]]).map renderRecord ≠ [] := by simp
      have hbreak : (Reader.mk records before held).over ['\r', '\n'] =
          some ⟨records ++ [before ++ [text]], [], .record⟩ := by
        rw [Reader.over, step_held hholds (.inr rfl)]
        rfl
      rw [List.nil_append] at hover
      unfold renderRecords at hover' ⊢
      rw [List.cons_append, List.map_cons, List.intercalate_cons_of_ne_nil hne,
        List.append_assoc, Reader.over_append hover, Reader.over_append hbreak, hover',
        List.append_assoc]
      rfl

/-- What is read of written records: all of them, but for a last one with one empty field. -/
theorem read_rendered {records : List (List (List Char))} (h : ∀ record ∈ records, record ≠ []) :
    readRecords (renderRecords records) =
      some (if records.getLast? = some [[]] then records.dropLast else records) := by
  rcases List.eq_nil_or_concat records with rfl | ⟨front, last, rfl⟩
  · rfl
  rw [List.concat_eq_append] at *
  obtain ⟨fields, text, rfl⟩ :=
    (List.eq_nil_or_concat last).resolve_left (h last (by simp))
  rw [List.concat_eq_append] at *
  obtain ⟨held, hover, hholds, hrecord⟩ := @over_records [] front
    (fun record hmem => h record (List.mem_append_left _ hmem)) text fields
  rw [readRecords, hover, Option.bind_some, List.getLast?_concat, List.dropLast_concat]
  by_cases hempty : fields ++ [text] = [[]]
  · obtain ⟨rfl, rfl⟩ : fields = [] ∧ text = [] := by
      cases fields with
      | nil => simpa using hempty
      | cons field fields => simp at hempty
    obtain rfl := hrecord.mpr ⟨rfl, rfl⟩
    rfl
  · rw [if_neg fun heq => hempty (Option.some.inj heq)]
    refine finish_held hholds ?_
    intro hheld
    obtain ⟨rfl, rfl⟩ := hrecord.mp hheld
    exact hempty rfl

end Dopedb.Library.Csv
