import Dopedb.Jobs.Values

/-!
# The sink of an export

`format/export.rs`: the writer that an export gives its rows to. A text writer hashes every byte it
takes, whether or not the byte has reached the file yet; a workbook is kept in memory until the
end. `write_rows_text` says what rows add to a text file, and `rows_text_append` that they may be
given in batches of any size.
-/

namespace Dopedb.Jobs

open Dopedb.Library
open Dopedb.Operations (AppError)
open Dopedb.Protocol (NormalizedTypeFamily)

/-- The bytes of a text. -/
def utf8 (text : List Char) : List UInt8 := text.flatMap String.utf8EncodeChar

@[simp] theorem utf8_append (text text' : List Char) :
    utf8 (text ++ text') = utf8 text ++ utf8 text' := List.flatMap_append

/-- The code outside the repository that makes files: SHA-256, a compressor whose file only grows,
and a workbook writer. -/
structure FileFormats where
  /-- SHA-256 of a file. -/
  sha256 : List UInt8 → Digest
  /-- The file of a flushed compressor that has taken these bytes. -/
  deflated : List UInt8 → List UInt8
  /-- The file of a finished compressor. -/
  gzip : List UInt8 → List UInt8
  /-- The file of a workbook with a header on each sheet. -/
  workbook : List String → List Row → List UInt8
  /-- Writing the cells of a row into a workbook. -/
  worksheetRow : Row → Except AppError Unit
  deflated_le : ∀ first second : List UInt8,
    (deflated first).length ≤ (deflated (first ++ second)).length
  gzip_le : ∀ first second : List UInt8,
    (deflated first).length ≤ (gzip (first ++ second)).length

/-- What an export writes of its relation, and how. -/
structure ExportLayout where
  columns : List String
  families : List NormalizedTypeFamily
  tableSql : List Char
  engine : Engine
  deriving DecidableEq

/-- A sink: what a text writer has taken, what of it is not in the file yet, and the rows it was
given by the runs of its job. -/
structure ExportSink where
  format : JobFormat
  layout : ExportLayout
  hashed : List UInt8 := []
  buffer : List UInt8 := []
  rowsWritten : Nat
  rows : List Row
  deriving DecidableEq

/-- What a text file starts with. -/
def headerText (platform : Platform) (format : JobFormat) (layout : ExportLayout) : List Char :=
  match format.base with
  | .csv => writeDelimitedRow platform layout.columns ','
  | .tsv => writeDelimitedRow platform layout.columns '\t'
  | .json => ['[']
  | _ => []

/-- What a text file ends with. -/
def footerText (format : JobFormat) : List Char := if format.base = .json then [']'] else []

/-- What a row adds to a text file that has this many rows. -/
def rowText (platform : Platform) (format : JobFormat) (layout : ExportLayout)
    (rowsWritten : Nat) (values : Row) : Except AppError (List Char) :=
  match format.base with
  | .csv => .ok (writeDelimitedValues platform values ',')
  | .tsv => .ok (writeDelimitedValues platform values '\t')
  | .json =>
    .ok ((if 0 < rowsWritten then [','] else []) ++
      (platform.jsonText (rowObject layout.columns values)).toList)
  | .ndjson => .ok ((platform.jsonText (rowObject layout.columns values)).toList ++ ['\n'])
  | .sql => writeInsert platform layout.engine layout.tableSql layout.columns layout.families values
  | _ => .error (.config "unsupported export writer format")

namespace ExportSink

variable (platform : Platform) (files : FileFormats)

/-- The writer takes a text. -/
def write (sink : ExportSink) (text : List Char) : ExportSink :=
  { sink with hashed := sink.hashed ++ utf8 text, buffer := sink.buffer ++ utf8 text }

/-- Open the partial file: a resumed export goes on after its content, any other starts anew. The
result has what the file holds now. -/
def «open» (format : JobFormat) (layout : ExportLayout) (resumeRows : Nat) (rows : List Row)
    (part : Option (List UInt8)) : Except AppError (ExportSink × List UInt8) :=
  if 0 < resumeRows ∧ format.resumable = false then
    .error (.blocked "this export format cannot resume; start a new job")
  else if 0 < resumeRows then
    .ok ({ format, layout, hashed := part.getD [], rowsWritten := resumeRows, rows },
      part.getD [])
  else
    let sink : ExportSink := { format, layout, rowsWritten := 0, rows := [] }
    .ok (if format = .xlsx then sink else sink.write (headerText platform format layout), [])

/-- Give a row to the sink. -/
def writeRow (sink : ExportSink) (values : Row) : Except AppError ExportSink :=
  if sink.format = .xlsx then
    -- a worksheet is written when the file is finished
    match files.worksheetRow values with
    | .error error => .error error
    | .ok _ => .ok { sink with rowsWritten := sink.rowsWritten + 1, rows := sink.rows ++ [values] }
  else
    match rowText platform sink.format sink.layout sink.rowsWritten values with
    | .error error => .error error
    | .ok text =>
      let sink := sink.write text
      .ok { sink with rowsWritten := sink.rowsWritten + 1, rows := sink.rows ++ [values] }

/-- Give rows to the sink. A row that cannot be written stops with the rows before it written. -/
def writeRows (sink : ExportSink) : List Row → Option AppError × ExportSink
  | [] => (none, sink)
  | values :: rest =>
    match sink.writeRow platform files values with
    | .error error => (some error, sink)
    | .ok sink => sink.writeRows rest

/-- The fingerprint of what a text writer has taken. -/
def fingerprint (sink : ExportSink) : Option String :=
  if sink.format = .xlsx then none else some (lowerHex (files.sha256 sink.hashed))

/-- The file after the writer was flushed. -/
def flushed (sink : ExportSink) (part : List UInt8) : List UInt8 :=
  if sink.format = .xlsx then part
  else if sink.format.compressed then files.deflated sink.hashed
  else part ++ sink.buffer

/-- The writer after it was flushed. -/
def flush (sink : ExportSink) : ExportSink := { sink with buffer := [] }

/-- The last bytes of a text file are given to its writer. -/
def finish (sink : ExportSink) : ExportSink :=
  if sink.format = .xlsx then sink else sink.write (footerText sink.format)

/-- The file after the writer was finished. -/
def finished (sink : ExportSink) (part : List UInt8) : List UInt8 :=
  if sink.format = .xlsx then files.workbook sink.layout.columns sink.rows
  else if sink.format.compressed then files.gzip sink.hashed
  else part ++ sink.buffer

end ExportSink

/-- The file that a run without interruption writes: a new sink is given all rows and finished. -/
def exportFile (platform : Platform) (files : FileFormats) (format : JobFormat)
    (layout : ExportLayout) (rows : List Row) : Except AppError (List UInt8) :=
  match ExportSink.open platform format layout 0 [] none with
  | .error error => .error error
  | .ok (sink, part) =>
    match sink.writeRows platform files rows with
    | (some error, _) => .error error
    | (none, sink) => .ok (sink.finish.finished files part)

/-! ## What a sink keeps -/

/-- What rows add to a text file that has this many rows. -/
def rowsText (platform : Platform) (format : JobFormat) (layout : ExportLayout)
    (rowsWritten : Nat) : List Row → Except AppError (List Char)
  | [] => .ok []
  | values :: rest =>
    match rowText platform format layout rowsWritten values,
      rowsText platform format layout (rowsWritten + 1) rest with
    | .ok text, .ok texts => .ok (text ++ texts)
    | .error error, _ => .error error
    | _, .error error => .error error

/-- Rows may be given in two batches. -/
theorem rows_text_append {platform : Platform} {format : JobFormat} {layout : ExportLayout}
    {rowsWritten : Nat} {first second : List Row} {text text' : List Char}
    (h : rowsText platform format layout rowsWritten first = .ok text)
    (h' : rowsText platform format layout (rowsWritten + first.length) second = .ok text') :
    rowsText platform format layout rowsWritten (first ++ second) = .ok (text ++ text') := by
  induction first generalizing rowsWritten text with
  | nil =>
      obtain rfl : [] = text := Except.ok.inj h
      exact h'
  | cons values rest ih =>
      unfold rowsText at h
      split at h
      · next head tail hhead htail =>
          obtain rfl := Except.ok.inj h
          have hrest : rowsText platform format layout (rowsWritten + 1 + rest.length) second =
              .ok text' := by
            rw [← h']
            congr 1
            simp only [List.length_cons]
            omega
          rw [List.cons_append, rowsText, hhead, ih htail hrest, List.append_assoc]
      · cases h
      · cases h

namespace ExportSink

variable {platform : Platform} {files : FileFormats} {sink sink' : ExportSink}

/-- What rows change: they are counted and kept, and the format and the layout stay. -/
structure Extends (sink sink' : ExportSink) (rows : List Row) : Prop where
  format : sink'.format = sink.format
  layout : sink'.layout = sink.layout
  rowsWritten : sink'.rowsWritten = sink.rowsWritten + rows.length
  rows : sink'.rows = sink.rows ++ rows

/-- A written row is counted and kept. -/
theorem write_row_extends {values : Row} (h : sink.writeRow platform files values = .ok sink') :
    Extends sink sink' [values] := by
  unfold writeRow at h
  split at h
  · split at h
    · cases h
    · obtain rfl := Except.ok.inj h
      exact ⟨rfl, rfl, rfl, rfl⟩
  · split at h
    · cases h
    · obtain rfl := Except.ok.inj h
      exact ⟨rfl, rfl, rfl, rfl⟩

/-- Written rows are counted and kept. -/
theorem write_rows_extends {rows : List Row}
    (h : sink.writeRows platform files rows = (none, sink')) : Extends sink sink' rows := by
  induction rows generalizing sink with
  | nil =>
      obtain rfl : sink = sink' := by simpa [writeRows] using h
      exact ⟨rfl, rfl, rfl, by simp⟩
  | cons values rest ih =>
      unfold writeRows at h
      split at h
      · cases h
      · next next hrow =>
          obtain ⟨hformat, hlayout, hcount, hrows⟩ := write_row_extends hrow
          obtain ⟨hformat', hlayout', hcount', hrows'⟩ := ih h
          refine ⟨hformat'.trans hformat, hlayout'.trans hlayout, ?_, ?_⟩
          · rw [hcount', hcount]
            simp only [List.length_cons, List.length_nil]
            omega
          · rw [hrows', hrows, List.append_assoc]
            rfl

/-- What rows add to a text file is what its writer has taken since. -/
theorem write_rows_text {rows : List Row}
    (h : sink.writeRows platform files rows = (none, sink')) (hformat : sink.format ≠ .xlsx) :
    ∃ text, rowsText platform sink.format sink.layout sink.rowsWritten rows = .ok text ∧
      sink'.hashed = sink.hashed ++ utf8 text ∧ sink'.buffer = sink.buffer ++ utf8 text := by
  induction rows generalizing sink with
  | nil =>
      obtain rfl : sink = sink' := by simpa [writeRows] using h
      exact ⟨[], rfl, by simp [utf8], by simp [utf8]⟩
  | cons values rest ih =>
      unfold writeRows at h
      split at h
      · cases h
      · next next hrow =>
          unfold writeRow at hrow
          rw [if_neg hformat] at hrow
          split at hrow
          · cases hrow
          · next text htext =>
              obtain rfl := Except.ok.inj hrow
              obtain ⟨texts, htexts, hhashed, hbuffer⟩ := ih h hformat
              refine ⟨text ++ texts, ?_, ?_, ?_⟩
              · have htexts' : rowsText platform sink.format sink.layout (sink.rowsWritten + 1) rest =
                    .ok texts := htexts
                rw [rowsText, htext, htexts']
              · rw [hhashed, utf8_append, ← List.append_assoc]
                rfl
              · rw [hbuffer, utf8_append, ← List.append_assoc]
                rfl

/-- Rows whose texts exist are written. -/
theorem write_rows_of_text (files : FileFormats) (sink : ExportSink) {rows : List Row}
    {text : List Char} (hformat : sink.format ≠ .xlsx)
    (h : rowsText platform sink.format sink.layout sink.rowsWritten rows = .ok text) :
    ∃ sink', sink.writeRows platform files rows = (none, sink') := by
  induction rows generalizing sink text with
  | nil => exact ⟨sink, rfl⟩
  | cons values rest ih =>
      unfold rowsText at h
      split at h
      · next head tail hhead htail =>
          have hrow : sink.writeRow platform files values =
              .ok { sink.write head with
                rowsWritten := sink.rowsWritten + 1, rows := sink.rows ++ [values] } := by
            unfold writeRow
            rw [if_neg hformat, hhead]
            rfl
          obtain ⟨sink', hrest⟩ := @ih { sink.write head with
            rowsWritten := sink.rowsWritten + 1, rows := sink.rows ++ [values] } tail hformat htail
          exact ⟨sink', by rw [writeRows, hrow]; exact hrest⟩
      · cases h
      · cases h

end ExportSink

/-- The text of the rows of a file and what comes before them. -/
def fileText (platform : Platform) (format : JobFormat) (layout : ExportLayout)
    (rows : List Row) : Except AppError (List Char) :=
  match rowsText platform format layout 0 rows with
  | .ok text => .ok (headerText platform format layout ++ text)
  | .error error => .error error

/-- A plain text file that is written without interruption has its header, its rows and its
footer. -/
theorem export_file_of_text {platform : Platform} {files : FileFormats} {format : JobFormat}
    {layout : ExportLayout} {rows : List Row} {text : List Char}
    (hformat : format.resumable = true) (h : fileText platform format layout rows = .ok text) :
    exportFile platform files format layout rows = .ok (utf8 text ++ utf8 (footerText format)) := by
  have hxlsx : format ≠ .xlsx := by
    rintro rfl
    cases hformat
  have hplain : format.compressed = false := by
    revert hformat
    cases format <;> decide
  unfold fileText at h
  split at h
  · next body hbody =>
      obtain rfl := Except.ok.inj h
      unfold exportFile ExportSink.open
      rw [if_neg (by simp), if_neg (Nat.lt_irrefl 0)]
      simp only [if_neg hxlsx]
      obtain ⟨sink', hwritten⟩ := ExportSink.write_rows_of_text files
        (({ format, layout, rowsWritten := 0, rows := [] } : ExportSink).write
          (headerText platform format layout)) hxlsx hbody
      obtain ⟨body', hbody', -, hbuffer⟩ := ExportSink.write_rows_text hwritten hxlsx
      obtain ⟨hformat', hlayout', -, -⟩ := ExportSink.write_rows_extends hwritten
      have hsame : body' = body := Except.ok.inj (hbody'.symm.trans hbody)
      have hformat'' : sink'.format = format := hformat'
      have hbuffer' : sink'.buffer = utf8 (headerText platform format layout) ++ utf8 body := by
        rw [hbuffer, hsame]
        rfl
      rw [hwritten]
      simp only
      unfold ExportSink.finish ExportSink.finished
      rw [hformat'', if_neg hxlsx]
      simp only [ExportSink.write, hformat'', if_neg hxlsx, hplain, hbuffer', List.nil_append]
      rw [if_neg (by decide), utf8_append]
  · cases h

end Dopedb.Jobs
