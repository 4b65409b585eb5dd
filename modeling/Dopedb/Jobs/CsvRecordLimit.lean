import Mathlib.Data.List.Count
import Mathlib.Data.List.TakeDrop

/-!
# The record limit of CSV imports

`BoundedCsvReader` of `format/io.rs` stands between an import file and the CSV reader and refuses a
record of more than 8 MiB. It does not know records: it counts the bytes since the last line feed
that has an even number of quotes before it. `record_limit_enforced_iff` compares it with the
records of the file: the two agree on every file without stray quotes and without records that end in
a lone carriage return, and on every file within the limit.
-/

namespace Dopedb.Jobs

/-- `MAX_STREAM_RECORD_BYTES`. -/
def maxStreamRecordBytes : Nat := 8 * 1024 * 1024

/-- The quote. -/
def quote : UInt8 := 34

/-- The line feed. -/
def lineFeed : UInt8 := 10

/-- The carriage return. -/
def carriageReturn : UInt8 := 13

/-! ## The guard -/

/-- The state of the guard. -/
structure BoundedCsvReader where
  recordBytes : Nat := 0
  inQuotes : Bool := false
  deriving DecidableEq, Repr

/-- The error of the guard, with the bytes of the stream that lie behind it. -/
structure RecordError where
  message : String
  unread : List UInt8
  deriving DecidableEq, Repr

namespace BoundedCsvReader

/-- One read: every byte that the inner reader delivered is counted. -/
def read (limit : Nat) (reader : BoundedCsvReader) :
    List UInt8 → Except RecordError BoundedCsvReader
  | [] => .ok reader
  | byte :: bytes =>
    if reader.recordBytes + 1 > limit then
      .error ⟨"CSV record exceeds the 8 MiB safety limit", bytes⟩
    else if byte = quote then read limit ⟨reader.recordBytes + 1, !reader.inQuotes⟩ bytes
    else if byte = lineFeed ∧ reader.inQuotes = false then read limit ⟨0, reader.inQuotes⟩ bytes
    else read limit ⟨reader.recordBytes + 1, reader.inQuotes⟩ bytes

/-- The reads of a stream, up to the first error. -/
def reads (limit : Nat) (reader : BoundedCsvReader) :
    List (List UInt8) → Except RecordError BoundedCsvReader
  | [] => .ok reader
  | chunk :: chunks =>
    match read limit reader chunk with
    | .ok reader => reads limit reader chunks
    | .error error => .error { error with unread := error.unread ++ chunks.flatten }

/-- A read of two parts is a read of the first and then of the second. -/
theorem read_append (limit : Nat) (reader : BoundedCsvReader) (first second : List UInt8) :
    read limit reader (first ++ second) =
      match read limit reader first with
      | .ok reader => read limit reader second
      | .error error => .error { error with unread := error.unread ++ second } := by
  induction first generalizing reader with
  | nil => rfl
  | cons byte bytes ih =>
      simp only [List.cons_append, read]
      split
      · rfl
      · split
        · exact ih _
        · split
          · exact ih _
          · exact ih _

/-- How a stream is cut into reads does not matter. -/
theorem reads_eq (limit : Nat) (reader : BoundedCsvReader) (chunks : List (List UInt8)) :
    reads limit reader chunks = read limit reader chunks.flatten := by
  induction chunks generalizing reader with
  | nil => rfl
  | cons chunk chunks ih =>
      rw [List.flatten_cons, read_append, reads]
      cases read limit reader chunk with
      | error error => rfl
      | ok reader => exact ih reader

end BoundedCsvReader

/-! ## Records -/

/-- Where the CSV reader stands: before a record, before a field, in an unquoted field, in a quoted
one, behind a quote in a quoted one, or behind a carriage return that ended a record. -/
inductive CsvMode where
  | recordStart | fieldStart | unquoted | quoted | closing | afterReturn
  deriving DecidableEq, Repr

/-- A byte that is not part of a quoted field. -/
def CsvMode.outside (delimiter byte : UInt8) : CsvMode :=
  if byte = delimiter then .fieldStart
  else if byte = lineFeed then .recordStart
  else if byte = carriageReturn then .afterReturn
  else .unquoted

/-- How a byte moves the CSV reader. A quote opens a quoted field only at the start of a field, a
doubled quote stays inside of it, and CR, LF and CRLF end a record outside of quotes. -/
def CsvMode.step (delimiter : UInt8) : CsvMode → UInt8 → CsvMode
  | .recordStart, byte | .fieldStart, byte | .afterReturn, byte =>
    if byte = quote then .quoted else outside delimiter byte
  | .unquoted, byte => outside delimiter byte
  | .quoted, byte => if byte = quote then .closing else .quoted
  | .closing, byte => if byte = quote then .quoted else outside delimiter byte

/-- Where the CSV reader stands before a byte of the stream. -/
def modeAt (delimiter : UInt8) (stream : List UInt8) (index : Nat) : CsvMode :=
  (stream.take index).foldl (CsvMode.step delimiter) .recordStart

/-- A record of the stream begins at the byte; a line feed behind a carriage return belongs to the
record that the carriage return ended. -/
def RecordStart (delimiter : UInt8) (stream : List UInt8) (index : Nat) : Prop :=
  modeAt delimiter stream index = .recordStart ∨
    (modeAt delimiter stream index = .afterReturn ∧ stream[index]? ≠ some lineFeed)

/-- Some record has more bytes in the stream than the limit. -/
def LongRecord (delimiter : UInt8) (limit : Nat) (stream : List UInt8) : Prop :=
  ∃ start, RecordStart delimiter stream start ∧ start + limit < stream.length ∧
    ∀ index, start < index → index ≤ start + limit → ¬ RecordStart delimiter stream index

/-- The outcome of the guard fits the records of the stream: an error comes behind more bytes of a
record than the limit, and without an error there is no such record. -/
def Enforced (delimiter : UInt8) (limit : Nat) (stream : List UInt8) :
    Except RecordError BoundedCsvReader → Prop
  | .ok _ => ¬ LongRecord delimiter limit stream
  | .error error => ∃ seen, seen ++ error.unread = stream ∧ LongRecord delimiter limit seen

/-- The byte is a line feed with an even number of quotes before it. -/
def EvenLineFeed (stream : List UInt8) (index : Nat) : Prop :=
  stream[index]? = some lineFeed ∧ (stream.take index).count quote % 2 = 0

/-- The byte is the first of the stream, or comes behind a line feed with an even number of quotes
before it. -/
def LineStart (stream : List UInt8) (index : Nat) : Prop :=
  index = 0 ∨ ∃ before, index = before + 1 ∧ EvenLineFeed stream before

/-- More bytes than the limit follow in the stream from a line start, and no line feed with an even
number of quotes before it is among the first of them, as many as the limit. -/
def Unbroken (limit : Nat) (stream : List UInt8) (start : Nat) : Prop :=
  LineStart stream start ∧ start + limit < stream.length ∧
    ∀ index, start ≤ index → index < start + limit → ¬ EvenLineFeed stream index

/-! ## What the first bytes of a stream decide -/

section

variable {first second : List UInt8} {index start limit : Nat} {delimiter : UInt8}

/-- An even line feed is one whatever follows. -/
theorem even_line_feed_append (h : index < first.length) :
    EvenLineFeed (first ++ second) index ↔ EvenLineFeed first index := by
  unfold EvenLineFeed
  rw [List.getElem?_append_left h, List.take_append_of_le_length (Nat.le_of_lt h)]

/-- A line start is one whatever follows. -/
theorem line_start_append (h : index ≤ first.length) :
    LineStart (first ++ second) index ↔ LineStart first index := by
  unfold LineStart
  refine or_congr Iff.rfl ⟨?_, ?_⟩
  · intro ⟨before, hindex, hfeed⟩
    exact ⟨before, hindex, (even_line_feed_append (by omega)).mp hfeed⟩
  · intro ⟨before, hindex, hfeed⟩
    exact ⟨before, hindex, (even_line_feed_append (by omega)).mpr hfeed⟩

/-- A stretch that is unbroken so far is unbroken, and the other way round. -/
theorem unbroken_append (h : start + limit < first.length) :
    Unbroken limit (first ++ second) start ↔ Unbroken limit first start := by
  unfold Unbroken
  rw [line_start_append (by omega), List.length_append]
  refine and_congr_right fun _ => and_congr (by omega) (forall_congr' fun index => ?_)
  constructor
  · intro hall hfrom hto hfeed
    exact hall hfrom hto ((even_line_feed_append (by omega)).mpr hfeed)
  · intro hall hfrom hto hfeed
    exact hall hfrom hto ((even_line_feed_append (by omega)).mp hfeed)

/-- A record start is one whatever follows. -/
theorem record_start_append (h : index < first.length) :
    RecordStart delimiter (first ++ second) index ↔ RecordStart delimiter first index := by
  unfold RecordStart modeAt
  rw [List.getElem?_append_left h, List.take_append_of_le_length (Nat.le_of_lt h)]

/-- A record that is too long stays too long. -/
theorem long_record_append (h : LongRecord delimiter limit first) :
    LongRecord delimiter limit (first ++ second) := by
  obtain ⟨start, hstart, hlength, hall⟩ := h
  refine ⟨start, (record_start_append (by omega)).mpr hstart, ?_, ?_⟩
  · rw [List.length_append]
    omega
  · intro index hfrom hto hindex
    exact hall index hfrom hto ((record_start_append (by omega)).mp hindex)

end

/-! ## The guard counts lines -/

/-- The guard has read the first bytes of a stream: it counts from the last line start and knows
whether the number of quotes is odd. -/
structure LineCounts (limit : Nat) (front : List UInt8) (reader : BoundedCsvReader) (start : Nat) :
    Prop where
  lineStart : LineStart front start
  count : start + reader.recordBytes = front.length
  unbroken : ∀ index, start ≤ index → ¬ EvenLineFeed front index
  quotes : reader.inQuotes = decide (front.count quote % 2 = 1)
  bound : ∀ start, ¬ Unbroken limit front start

/-- An even line feed lies in the stream. -/
theorem even_line_feed_lt {stream : List UInt8} {index : Nat} (h : EvenLineFeed stream index) :
    index < stream.length := by
  obtain ⟨hlt, -⟩ := List.getElem?_eq_some_iff.mp h.1
  exact hlt

/-- The last byte of a stream is an even line feed when the guard is outside of quotes. -/
theorem even_line_feed_last {front : List UInt8} {byte : UInt8} :
    EvenLineFeed (front ++ [byte]) front.length ↔
      byte = lineFeed ∧ front.count quote % 2 = 0 := by
  unfold EvenLineFeed
  rw [List.getElem?_append_right (Nat.le_refl _), Nat.sub_self,
    List.take_append_of_le_length (Nat.le_refl _), List.take_length]
  simp

variable {limit : Nat} {front : List UInt8} {reader : BoundedCsvReader} {start : Nat}

/-- Another byte makes no stretch unbroken while the count is within the limit. -/
theorem LineCounts.bound_snoc (h : LineCounts limit front reader start) (byte : UInt8)
    (hcount : reader.recordBytes + 1 ≤ limit) (start' : Nat) :
    ¬ Unbroken limit (front ++ [byte]) start' := by
  intro hunbroken
  have hlength := hunbroken.2.1
  rw [List.length_append, List.length_singleton] at hlength
  by_cases hshort : start' + limit < front.length
  · exact h.bound start' ((unbroken_append hshort).mp hunbroken)
  · have hcounted := h.count
    -- the stretch begins before the last line start, which breaks it
    cases h.lineStart with
    | inl hzero => omega
    | inr hfeed =>
        obtain ⟨before, rfl, hfeed⟩ := hfeed
        have hlt := even_line_feed_lt hfeed
        exact hunbroken.2.2 before (by omega) (by omega) ((even_line_feed_append hlt).mpr hfeed)

/-- The next byte is no even line feed: the guard counts on. -/
theorem LineCounts.snoc (h : LineCounts limit front reader start) {byte : UInt8} {inQuotes : Bool}
    (hcount : reader.recordBytes + 1 ≤ limit)
    (hfeed : ¬ EvenLineFeed (front ++ [byte]) front.length)
    (hquotes : inQuotes = decide ((front ++ [byte]).count quote % 2 = 1)) :
    LineCounts limit (front ++ [byte]) ⟨reader.recordBytes + 1, inQuotes⟩ start := by
  have hcounted := h.count
  refine ⟨(line_start_append (by omega)).mpr h.lineStart, ?_, ?_, hquotes, h.bound_snoc byte hcount⟩
  · rw [List.length_append, List.length_singleton]
    show start + (reader.recordBytes + 1) = front.length + 1
    omega
  · intro index hfrom heven
    by_cases hlt : index < front.length
    · exact h.unbroken index hfrom ((even_line_feed_append hlt).mp heven)
    · have hindex := even_line_feed_lt heven
      rw [List.length_append, List.length_singleton] at hindex
      obtain rfl : index = front.length := by omega
      exact hfeed heven

/-- The next byte is an even line feed: the guard starts again behind it. -/
theorem LineCounts.restart (h : LineCounts limit front reader start) {byte : UInt8}
    (hcount : reader.recordBytes + 1 ≤ limit)
    (hfeed : EvenLineFeed (front ++ [byte]) front.length)
    (hquotes : reader.inQuotes = decide ((front ++ [byte]).count quote % 2 = 1)) :
    LineCounts limit (front ++ [byte]) ⟨0, reader.inQuotes⟩ (front.length + 1) := by
  refine ⟨.inr ⟨front.length, rfl, hfeed⟩, ?_, ?_, hquotes, h.bound_snoc byte hcount⟩
  · rw [List.length_append, List.length_singleton]
    rfl
  · intro index hfrom heven
    have hindex := even_line_feed_lt heven
    rw [List.length_append, List.length_singleton] at hindex
    omega

/-- What the guard reports: an error behind the first unbroken stretch, or nothing when there is
none. -/
def Reports (limit : Nat) (stream : List UInt8) :
    Except RecordError BoundedCsvReader → Prop
  | .ok _ => ∀ start, ¬ Unbroken limit stream start
  | .error error => ∃ start seen, seen ++ error.unread = stream ∧
      seen.length = start + limit + 1 ∧ Unbroken limit stream start ∧
      ∀ other, Unbroken limit stream other → start ≤ other

/-- The guard reports the first unbroken stretch. -/
theorem read_reports (h : LineCounts limit front reader start) (bytes : List UInt8) :
    Reports limit (front ++ bytes) (reader.read limit bytes) := by
  induction bytes generalizing front reader start with
  | nil =>
      rw [List.append_nil]
      exact h.bound
  | cons byte bytes ih =>
      have hstream : front ++ byte :: bytes = (front ++ [byte]) ++ bytes := by simp
      unfold BoundedCsvReader.read
      split
      · next hexceeds =>
          have hcounted := h.count
          -- a longer stretch would have been reported before
          have hlength : front.length ≤ start + limit := by
            by_contra hlong
            refine h.bound start ⟨h.lineStart, by omega, ?_⟩
            intro index hfrom _
            exact h.unbroken index hfrom
          refine ⟨start, front ++ [byte], by simp, by simp; omega, ?_, ?_⟩
          · refine ⟨(line_start_append (by omega)).mpr h.lineStart, by simp; omega, ?_⟩
            intro index hfrom hto heven
            exact h.unbroken index hfrom ((even_line_feed_append (by omega)).mp heven)
          · intro other hother
            by_contra hbefore
            exact h.bound other ((unbroken_append (by omega)).mp hother)
      · next hwithin =>
          have hcount : reader.recordBytes + 1 ≤ limit := by omega
          have hquotes := h.quotes
          rw [hstream]
          -- a quote turns the parity, and a line feed at even parity starts the next record
          split
          · next hquote =>
              subst hquote
              refine ih (h.snoc hcount ?_ ?_)
              · rw [even_line_feed_last]
                intro hfeed
                exact absurd hfeed.1 (by decide)
              · rw [hquotes, List.count_append, List.count_singleton_self]
                grind
          · next hquote =>
              have hsame : (front ++ [byte]).count quote = front.count quote := by
                have hnone : [byte].count quote = 0 :=
                  List.count_eq_zero_of_not_mem (by simpa using Ne.symm hquote)
                rw [List.count_append, hnone, Nat.add_zero]
              split
              · next hfeed =>
                  refine ih (h.restart hcount (even_line_feed_last.mpr ⟨hfeed.1, ?_⟩) ?_)
                  · have hodd := hquotes.symm.trans hfeed.2
                    rw [decide_eq_false_iff_not] at hodd
                    omega
                  · rw [hsame]
                    exact hquotes
              · next hfeed =>
                  refine ih (h.snoc hcount ?_ ?_)
                  · rw [even_line_feed_last]
                    intro heven
                    refine hfeed ⟨heven.1, ?_⟩
                    rw [hquotes, decide_eq_false_iff_not]
                    omega
                  · rw [hsame]
                    exact hquotes

/-- A guard that has read nothing. -/
theorem line_counts_nil (limit : Nat) : LineCounts limit [] {} 0 := by
  refine ⟨.inl rfl, rfl, ?_, rfl, ?_⟩
  · intro index _ heven
    exact absurd (even_line_feed_lt heven) (by simp)
  · intro start hunbroken
    exact absurd hunbroken.2.1 (by simp)

/-! ## The guard and the records -/

/-- The stretches without an even line feed and the records differ in nothing that matters: an
unbroken stretch has more bytes of some record than the limit before its end, and where there is
such a record there is an unbroken stretch. -/
def StretchesFit (delimiter : UInt8) (limit : Nat) (stream : List UInt8) : Prop :=
  (∀ start, Unbroken limit stream start →
    LongRecord delimiter limit (stream.take (start + limit + 1))) ∧
  (LongRecord delimiter limit stream → ∃ start, Unbroken limit stream start)

/-- An outcome that reports the first unbroken stretch fits the records exactly when the stretches
do. -/
theorem enforced_iff_of_reports {delimiter : UInt8} {stream : List UInt8}
    {outcome : Except RecordError BoundedCsvReader} (h : Reports limit stream outcome) :
    Enforced delimiter limit stream outcome ↔ StretchesFit delimiter limit stream := by
  cases outcome with
  | ok reader =>
      constructor
      · intro hnone
        exact ⟨fun start hunbroken => absurd hunbroken (h start), fun hlong => absurd hlong hnone⟩
      · intro hfit hlong
        obtain ⟨start, hunbroken⟩ := hfit.2 hlong
        exact h start hunbroken
  | error error =>
      obtain ⟨start, seen, hstream, hlength, hunbroken, hfirst⟩ := h
      have hseen : ∀ extra, stream.take (start + limit + 1 + extra) =
          seen ++ error.unread.take extra := by
        intro extra
        rw [← hstream, ← hlength, List.take_append, List.take_of_length_le (by omega)]
        congr 2
        omega
      constructor
      · intro henforced
        obtain ⟨seen', hstream', hlong⟩ := henforced
        obtain rfl : seen' = seen := List.append_cancel_right (hstream'.trans hstream.symm)
        refine ⟨fun other hother => ?_, fun _ => ⟨start, hunbroken⟩⟩
        have hle := hfirst other hother
        have htake := hseen (other - start)
        rw [show start + limit + 1 + (other - start) = other + limit + 1 by omega] at htake
        rw [htake]
        exact long_record_append hlong
      · intro hfit
        have hlong := hfit.1 start hunbroken
        rw [← Nat.add_zero (start + limit + 1), hseen 0, List.take_zero, List.append_nil] at hlong
        exact ⟨seen, hstream, hlong⟩

/-! ## Plain streams -/

/-- No quote stands in an unquoted field, and no record ends in a lone carriage return. -/
structure Plain (delimiter : UInt8) (stream : List UInt8) : Prop where
  quotes : ∀ index, stream[index]? = some quote → modeAt delimiter stream index ≠ .unquoted
  returns : ∀ index, index < stream.length → modeAt delimiter stream index = .afterReturn →
    stream[index]? = some lineFeed

/-- The mode behind a byte. -/
theorem mode_at_succ {delimiter byte : UInt8} {stream : List UInt8} {index : Nat}
    (h : stream[index]? = some byte) :
    modeAt delimiter stream (index + 1) =
      CsvMode.step delimiter (modeAt delimiter stream index) byte := by
  unfold modeAt
  rw [List.take_add_one, h, Option.toList_some, List.foldl_append]
  rfl

/-- The number of quotes up to and with a byte. -/
theorem quotes_succ {byte : UInt8} {stream : List UInt8} {index : Nat}
    (h : stream[index]? = some byte) :
    (stream.take (index + 1)).count quote =
      (stream.take index).count quote + if byte = quote then 1 else 0 := by
  rw [List.take_add_one, h, Option.toList_some, List.count_append, List.count_singleton]
  simp

/-- A byte outside of a quoted field opens none. -/
theorem outside_ne_quoted (delimiter byte : UInt8) :
    CsvMode.outside delimiter byte ≠ .quoted := by
  unfold CsvMode.outside
  split
  · exact nofun
  · split
    · exact nofun
    · split <;> exact nofun

/-- A byte other than a quote leaves the CSV reader inside or outside of a quoted field. -/
theorem step_quoted_iff {delimiter byte : UInt8} {mode : CsvMode} (h : byte ≠ quote) :
    CsvMode.step delimiter mode byte = .quoted ↔ mode = .quoted := by
  have houtside := outside_ne_quoted delimiter byte
  cases mode <;> simp [CsvMode.step, h, houtside]

/-- A quote enters or leaves a quoted field, except in an unquoted one. -/
theorem step_quote_iff {delimiter : UInt8} {mode : CsvMode} (h : mode ≠ .unquoted) :
    CsvMode.step delimiter mode quote = .quoted ↔ mode ≠ .quoted := by
  cases mode <;> simp [CsvMode.step] at h ⊢

/-- Without stray quotes, the number of quotes before a byte tells whether it is in a quoted
field. -/
theorem Plain.quoted_iff {delimiter : UInt8} {stream : List UInt8} (h : Plain delimiter stream)
    {index : Nat} (hindex : index ≤ stream.length) :
    modeAt delimiter stream index = .quoted ↔ (stream.take index).count quote % 2 = 1 := by
  induction index with
  | zero => simp [modeAt]
  | succ index ih =>
      have hprior := ih (by omega)
      obtain ⟨byte, hbyte⟩ : ∃ byte, stream[index]? = some byte :=
        ⟨_, List.getElem?_eq_getElem (by omega)⟩
      rw [mode_at_succ hbyte, quotes_succ hbyte]
      by_cases hquote : byte = quote
      · subst hquote
        rw [step_quote_iff (h.quotes index hbyte), Ne, hprior, if_pos rfl]
        omega
      · rw [step_quoted_iff hquote, hprior, if_neg hquote, Nat.add_zero]

/-- A record starts behind a byte exactly when the byte is a line feed outside of a quoted field, or
a lone carriage return. -/
theorem step_record_start_iff {delimiter byte : UInt8} {mode : CsvMode}
    (hdelimiter : delimiter ≠ lineFeed) :
    CsvMode.step delimiter mode byte = .recordStart ↔ byte = lineFeed ∧ mode ≠ .quoted := by
  have hquote : quote ≠ lineFeed := by decide
  have hreturn : carriageReturn ≠ lineFeed := by decide
  cases mode <;> simp only [CsvMode.step, CsvMode.outside] <;> grind

/-- In a plain stream, records start at the line starts. -/
theorem Plain.record_start_iff {delimiter : UInt8} {stream : List UInt8}
    (h : Plain delimiter stream) (hdelimiter : delimiter ≠ lineFeed) {index : Nat}
    (hindex : index < stream.length) :
    RecordStart delimiter stream index ↔ LineStart stream index := by
  have hstart : RecordStart delimiter stream index ↔
      modeAt delimiter stream index = .recordStart := by
    refine ⟨fun hor => hor.resolve_right ?_, .inl⟩
    intro ⟨hmode, hbyte⟩
    exact hbyte (h.returns index hindex hmode)
  rw [hstart]
  cases index with
  | zero => exact ⟨fun _ => .inl rfl, fun _ => rfl⟩
  | succ before =>
      obtain ⟨byte, hbyte⟩ : ∃ byte, stream[before]? = some byte :=
        ⟨_, List.getElem?_eq_getElem (by omega)⟩
      have hline : LineStart stream (before + 1) ↔ EvenLineFeed stream before := by
        unfold LineStart
        simp
      have hquoted := @Plain.quoted_iff _ _ h before (by omega)
      rw [mode_at_succ hbyte, step_record_start_iff hdelimiter, hline, EvenLineFeed, hbyte, Ne,
        hquoted, Option.some_inj]
      exact and_congr_right fun _ => by omega

/-- The stretches of a plain stream fit its records. -/
theorem Plain.stretches_fit {delimiter : UInt8} {stream : List UInt8} (limit : Nat)
    (hplain : Plain delimiter stream) (hdelimiter : delimiter ≠ lineFeed) :
    StretchesFit delimiter limit stream := by
  constructor
  · intro start ⟨hline, hlength, hall⟩
    have htake : (stream.take (start + limit + 1)).length = start + limit + 1 :=
      List.length_take_of_le (by omega)
    have hsame : ∀ index, index < start + limit + 1 →
        (RecordStart delimiter (stream.take (start + limit + 1)) index ↔
          LineStart stream index) := by
      intro index hindex
      rw [← hplain.record_start_iff hdelimiter (by omega)]
      have happend := @record_start_append (stream.take (start + limit + 1))
        (stream.drop (start + limit + 1)) index delimiter (by omega)
      rw [List.take_append_drop] at happend
      exact happend.symm
    refine ⟨start, (hsame start (by omega)).mpr hline, by omega, ?_⟩
    intro index hfrom hto hrecord
    cases (hsame index (by omega)).mp hrecord with
    | inl hzero => omega
    | inr hfeed =>
        obtain ⟨before, rfl, hfeed⟩ := hfeed
        exact hall before (by omega) (by omega) hfeed
  · intro ⟨start, hrecord, hlength, hall⟩
    refine ⟨start, (hplain.record_start_iff hdelimiter (by omega)).mp hrecord, hlength, ?_⟩
    intro index hfrom hto hfeed
    have hline : LineStart stream (index + 1) := .inr ⟨index, rfl, hfeed⟩
    exact hall (index + 1) (by omega) (by omega)
      ((hplain.record_start_iff hdelimiter (by omega)).mpr hline)

/-- A stream within the limit has neither a stretch nor a record beyond it. -/
theorem short_stretches_fit {delimiter : UInt8} {stream : List UInt8} {limit : Nat}
    (hshort : stream.length ≤ limit) : StretchesFit delimiter limit stream := by
  constructor
  · intro start ⟨_, hlength, _⟩
    omega
  · intro ⟨start, _, hlength, _⟩
    omega

/-- The guard enforces the limit on the records of a stream, however it is cut into reads, exactly
when its stretches without an even line feed fit its records. Those of every plain stream do, and
those of every stream within the limit. -/
theorem record_limit_enforced_iff (delimiter : UInt8) (limit : Nat) (chunks : List (List UInt8)) :
    (Enforced delimiter limit chunks.flatten (BoundedCsvReader.reads limit {} chunks) ↔
      StretchesFit delimiter limit chunks.flatten) ∧
    ((Plain delimiter chunks.flatten ∧ delimiter ≠ lineFeed) ∨ chunks.flatten.length ≤ limit →
      StretchesFit delimiter limit chunks.flatten) := by
  constructor
  · rw [BoundedCsvReader.reads_eq]
    exact enforced_iff_of_reports (read_reports (line_counts_nil limit) chunks.flatten)
  · rintro (⟨hplain, hdelimiter⟩ | hshort)
    · exact hplain.stretches_fit limit hdelimiter
    · exact short_stretches_fit hshort

/-! ## A stray quote -/

/-- Rows of one letter, the first with a stray quote: `a"a`, `a`, `a` and so on. -/
def strayQuote (index : Nat) : UInt8 :=
  if index = 1 then quote else if index % 2 = 0 then 97 else lineFeed

/-- The first bytes of a stream that is given by a function. -/
theorem take_map_range (f : Nat → UInt8) {index length : Nat} (h : index ≤ length) :
    ((List.range length).map f).take index = (List.range index).map f := by
  rw [← List.map_take, List.take_range, Nat.min_eq_left h]

/-- The rows have one quote. -/
theorem stray_quote_count (index : Nat) :
    ((List.range (index + 2)).map strayQuote).count quote = 1 := by
  induction index with
  | zero => rfl
  | succ index ih =>
      have hother : strayQuote (index + 2) ≠ quote := by
        unfold strayQuote
        rw [if_neg (by omega)]
        split <;> decide
      rw [List.range_succ, List.map_append, List.count_append, ih]
      simp [hother]

/-- The rows in as many bytes as the limit and one more. -/
def strayRows (limit : Nat) : List UInt8 := (List.range (limit + 1)).map strayQuote

/-- The rows are one unbroken stretch. -/
theorem stray_rows_unbroken (limit : Nat) : Unbroken limit (strayRows limit) 0 := by
  refine ⟨.inl rfl, by simp [strayRows], ?_⟩
  intro index _ hindex hfeed
  obtain ⟨hbyte, heven⟩ := hfeed
  unfold strayRows at hbyte heven
  rw [List.getElem?_map, List.getElem?_range (by omega)] at hbyte
  rw [take_map_range strayQuote (by omega)] at heven
  match index with
  | 0 => exact absurd hbyte (by decide)
  | 1 => exact absurd hbyte (by decide)
  | index + 2 =>
      rw [stray_quote_count index] at heven
      cases heven

/-- No row is longer than a limit of four bytes or more. -/
theorem stray_rows_short {limit : Nat} (h : 4 ≤ limit) :
    ¬ LongRecord 44 limit (strayRows limit) := by
  intro ⟨start, hstart, hlength, hall⟩
  have hrows : (strayRows limit).length = limit + 1 := by simp [strayRows]
  obtain rfl : start = 0 := by omega
  -- the second row is a record of its own
  refine hall 4 (by omega) (by omega) (.inl ?_)
  unfold modeAt strayRows
  rw [take_map_range strayQuote (by omega)]
  decide

/-- The guard refuses the rows for every limit of four bytes or more. -/
theorem stray_rows_refused {limit : Nat} (h : 4 ≤ limit) :
    ¬ Enforced 44 limit [strayRows limit].flatten
      (BoundedCsvReader.reads limit {} [strayRows limit]) := by
  intro henforced
  rw [BoundedCsvReader.reads_eq, List.flatten_singleton] at henforced
  have hreports : Reports limit (strayRows limit)
      (BoundedCsvReader.read limit {} (strayRows limit)) :=
    read_reports (line_counts_nil limit) (strayRows limit)
  have hlong := ((enforced_iff_of_reports hreports).mp henforced).1 0 (stray_rows_unbroken limit)
  rw [List.take_of_length_le (by simp [strayRows])] at hlong
  exact stray_rows_short h hlong

/-- A file of short rows is refused when it has a stray quote in its first row. -/
theorem stray_quote_refused :
    ¬ ∀ (delimiter : UInt8) (chunks : List (List UInt8)),
      Enforced delimiter maxStreamRecordBytes chunks.flatten
        (BoundedCsvReader.reads maxStreamRecordBytes {} chunks) := by
  have hlimit : 4 ≤ maxStreamRecordBytes := by decide
  generalize maxStreamRecordBytes = limit at hlimit ⊢
  intro henforced
  exact stray_rows_refused hlimit (henforced 44 [strayRows limit])

end Dopedb.Jobs
