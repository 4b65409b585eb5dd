import Dopedb.Queries.PageBudget
import Mathlib.Data.List.AList

/-!
# The store of a durable result

`desktop_result_store.rs` with the readers of `desktop_result_files.rs`, for the directories of one
operation. The pages of a running stream are files of its partial directory; publishing writes the
manifest there and renames the directory, and a reader takes the pages that the manifest lists.
Whether an operation of the file system succeeds is an input.
-/

namespace Dopedb.Queries

open Library

def RESULT_STORE_SCHEMA_VERSION : Nat := 1
def RESULT_PAGE_ROWS : Nat := 256
def MAX_MANIFEST_BYTES : Nat := 2 * 1024 * 1024

/-- One page as the manifest lists it. -/
structure ResultPageMeta where
  sequence : Nat
  rowStart : Nat
  rowCount : Nat
  encodedBytes : Nat
  sha256 : String
  deriving DecidableEq, Repr

/-- The manifest of a published result. -/
structure ResultManifest where
  schemaVersion : Nat
  operationId : OperationId
  workspaceId : Uuid
  accountScope : String
  connectionId : Uuid
  connectionRevision : Int
  ownerWebview : String
  capabilitySha256 : String
  columns : List String
  pageRows : Nat
  pages : List ResultPageMeta
  rowCount : Nat
  truncated : Bool
  durationMs : Nat
  completedAt : DateTime
  deriving DecidableEq, Repr

/-- The functions of the libraries that the store calls: SHA-256, the text of an instant, what
`serde_json` reads as a manifest and as a page, and how it reads the text of a float. -/
structure ResultPlatform where
  sha256 : List UInt8 → Digest
  instantText : DateTime → String
  readManifest : List UInt8 → Option ResultManifest
  readPage : List UInt8 → Option DesktopSqlStreamBatch
  readFloat : String → String

/-! ## Files -/

/-- A page as JSON. -/
def ResultPageMeta.toJson (page : ResultPageMeta) : Json :=
  .obj [("sequence", .int page.sequence), ("rowStart", .int page.rowStart),
    ("rowCount", .int page.rowCount), ("encodedBytes", .int page.encodedBytes),
    ("sha256", .str page.sha256)]

/-- A manifest as JSON. -/
def ResultManifest.toJson (manifest : ResultManifest) (platform : ResultPlatform) : Json :=
  .obj [("schemaVersion", .int manifest.schemaVersion),
    ("operationId", .str manifest.operationId.text),
    ("workspaceId", .str manifest.workspaceId.text),
    ("accountScope", .str manifest.accountScope),
    ("connectionId", .str manifest.connectionId.text),
    ("connectionRevision", .int manifest.connectionRevision),
    ("ownerWebview", .str manifest.ownerWebview),
    ("capabilitySha256", .str manifest.capabilitySha256),
    ("columns", .arr (manifest.columns.map .str)), ("pageRows", .int manifest.pageRows),
    ("pages", .arr (manifest.pages.map ResultPageMeta.toJson)),
    ("rowCount", .int manifest.rowCount), ("truncated", .bool manifest.truncated),
    ("durationMs", .int manifest.durationMs),
    ("completedAt", .str (platform.instantText manifest.completedAt))]

/-- The bytes of a manifest. -/
def ResultManifest.encoded (manifest : ResultManifest) (platform : ResultPlatform) : List UInt8 :=
  textBytes (manifest.toJson platform).render

/-- The files of a result. Each page has its own, whose name is that of its sequence. -/
structure ResultDirectory where
  pages : AList (fun _ : Nat => List UInt8) := ∅
  manifest : Option (List UInt8) := none

/-- The two directories of an operation. -/
structure ResultStore where
  partialDirectory : Option ResultDirectory := none
  finalDirectory : Option ResultDirectory := none

/-- `bytes_sha256`. -/
def bytesSha256 (platform : ResultPlatform) (bytes : List UInt8) : String :=
  lowerHex (platform.sha256 bytes)

/-- `capability_hash`. -/
def capabilityHash (platform : ResultPlatform) (capability : String) : String :=
  bytesSha256 platform (textBytes capability.toList)

/-- `hash_matches`. -/
def hashMatches (platform : ResultPlatform) (expected capability : String) : Bool :=
  expected = capabilityHash platform capability

/-! ## Cells that failed -/

/-- `is_truncated_cell`. -/
def isTruncatedCell (failure : CellDecodeFailure) : Bool :=
  TRUNCATED_CELL_TYPE_PREFIX.toList.isPrefixOf failure.databaseType.toList

/-- `failure_cell_is_consistent`: a failed cell is null, a shortened one keeps a text. -/
def failureCellIsConsistent (failure : CellDecodeFailure) : Json → Bool
  | .str _ => isTruncatedCell failure
  | .null => !isTruncatedCell failure
  | _ => false

/-- Every failure is of a cell of these rows, and that cell is consistent with it. -/
def failuresConsistent (rowStart columnCount : Nat) (rows : List (List Json))
    (failures : List CellDecodeFailure) : Bool :=
  failures.all fun failure =>
    rowStart ≤ failure.rowIndex && failure.rowIndex < rowStart + rows.length &&
      failure.columnIndex < columnCount &&
      ((rows[failure.rowIndex - rowStart]?).bind (·[failure.columnIndex]?)).any
        (failureCellIsConsistent failure)

/-! ## The writer -/

/-- `DesktopSqlResultWriter`. -/
structure DesktopSqlResultWriter where
  operationId : OperationId
  workspaceId : Uuid
  accountScope : String
  connectionId : Uuid
  connectionRevision : Int
  ownerWebview : String
  capabilitySha256 : String
  columns : List String := []
  pages : List ResultPageMeta := []
  rowCount : Nat := 0
  published : Bool := false
  deriving DecidableEq, Repr

/-- The connection that a result is read from. -/
structure PinnedConnection where
  workspaceId : Uuid
  accountScope : String
  connectionId : Uuid
  connectionRevision : Int
  deriving DecidableEq, Repr

/-- What a writer answers, with what it leaves. -/
abbrev Written := DesktopSqlResultWriter × ResultStore × Except DesktopSqlStreamSinkError Unit

namespace DesktopSqlResultWriter

/-- `begin`. -/
def start (platform : ResultPlatform) (store : ResultStore) (operationId : OperationId)
    (pin : PinnedConnection) (ownerWebview capability : String)
    (files : Except DesktopSqlStreamSinkError Unit) :
    Except DesktopSqlStreamSinkError (DesktopSqlResultWriter × ResultStore) :=
  if store.partialDirectory.isSome ∨ store.finalDirectory.isSome then .error .streamAlreadyActive
  else
    match files with
    | .error error => .error error
    | .ok _ =>
      .ok ({ operationId
             workspaceId := pin.workspaceId
             accountScope := pin.accountScope
             connectionId := pin.connectionId
             connectionRevision := pin.connectionRevision
             ownerWebview
             capabilitySha256 := capabilityHash platform capability },
        { store with partialDirectory := some {} })

/-- The page belongs to this writer and is the next one. -/
def accepts (writer : DesktopSqlResultWriter) (batch : DesktopSqlStreamBatch)
    (encoded : List UInt8) : Bool :=
  batch.operationId = writer.operationId && batch.sequence = writer.pages.length &&
    batch.rowStart = writer.rowCount && batch.rows.length ≤ RESULT_PAGE_ROWS &&
    encoded.length ≤ DESKTOP_STREAM_BATCH_MAX_BYTES &&
    batch.rows.all (·.length = batch.columns.length) &&
    failuresConsistent writer.rowCount batch.columns.length batch.rows batch.decodeFailures

/-- What the manifest says of a page. -/
def pageMeta (platform : ResultPlatform) (rowStart : Nat) (batch : DesktopSqlStreamBatch)
    (encoded : List UInt8) : ResultPageMeta where
  sequence := batch.sequence
  rowStart := rowStart
  rowCount := batch.rows.length
  encodedBytes := encoded.length
  sha256 := bytesSha256 platform encoded

/-- `write_page`. The file goes to the partial directory, which is gone once it was renamed. -/
def writePage (platform : ResultPlatform) (writer : DesktopSqlResultWriter) (store : ResultStore)
    (batch : DesktopSqlStreamBatch) (encoded : List UInt8) (fileWritten : Bool) : Written :=
  if writer.accepts batch encoded = false then (writer, store, .error .batchTooLarge)
  else if writer.columns ≠ [] ∧ writer.columns ≠ batch.columns then
    (writer, store, .error .invalidAcknowledgement)
  else
    -- The columns are those of the first page that has any, whether or not its file is written.
    let writer := { writer with columns := batch.columns }
    match store.partialDirectory, fileWritten with
    | some directory, true =>
      let directory := { directory with pages := directory.pages.insert batch.sequence encoded }
      ({ writer with
          pages := writer.pages ++ [pageMeta platform writer.rowCount batch encoded]
          rowCount := writer.rowCount + batch.rows.length },
        { store with partialDirectory := some directory }, .ok ())
    | _, _ => (writer, store, .error .resultStoreUnavailable)

/-- The manifest of what was written so far. -/
def manifest (writer : DesktopSqlResultWriter) (rowCount : Nat) (truncated : Bool)
    (durationMs : Nat) (now : DateTime) : ResultManifest where
  schemaVersion := RESULT_STORE_SCHEMA_VERSION
  operationId := writer.operationId
  workspaceId := writer.workspaceId
  accountScope := writer.accountScope
  connectionId := writer.connectionId
  connectionRevision := writer.connectionRevision
  ownerWebview := writer.ownerWebview
  capabilitySha256 := writer.capabilitySha256
  columns := writer.columns
  pageRows := RESULT_PAGE_ROWS
  pages := writer.pages
  rowCount := rowCount
  truncated := truncated
  durationMs := durationMs
  completedAt := now

/-- `complete`. -/
def complete (platform : ResultPlatform) (writer : DesktopSqlResultWriter) (store : ResultStore)
    (rowCount : Nat) (truncated : Bool) (durationMs : Nat) (now : DateTime)
    (filesMoved : Bool) : Written :=
  if writer.rowCount ≠ rowCount ∨
      writer.pages.map (·.sequence) ≠ List.range writer.pages.length then
    (writer, store, .error .resultReceiptMismatch)
  else
    let encoded := (writer.manifest rowCount truncated durationMs now).encoded platform
    if MAX_MANIFEST_BYTES < encoded.length then (writer, store, .error .resultStoreUnavailable)
    else
      match store.partialDirectory, filesMoved with
      | some directory, true =>
        ({ writer with published := true },
          { partialDirectory := none
            finalDirectory := some { directory with manifest := some encoded } }, .ok ())
      | _, _ => (writer, store, .error .resultStoreUnavailable)

/-- `complete_cancelled`. -/
def completeCancelled (platform : ResultPlatform) (writer : DesktopSqlResultWriter)
    (store : ResultStore) (now : DateTime) (filesMoved : Bool) : Written :=
  if writer.published ∨ writer.pages = [] then (writer, store, .ok ())
  else writer.complete platform store writer.rowCount true 0 now filesMoved

end DesktopSqlResultWriter

/-! ## Reading -/

/-- Why a result is not read. -/
inductive ResultReadError where
  | io
  | json
  | blocked (reason : String)
  | notFound
  | safety (error : DesktopSqlStreamSinkError)
  deriving DecidableEq, Repr

/-- `page_ranges_are_contiguous`, from the row that the first page has to start at. -/
def pageRangesAreContiguous : Nat → List ResultPageMeta → Bool
  | _, [] => true
  | expectedStart, page :: pages =>
    page.rowStart = expectedStart && pageRangesAreContiguous (expectedStart + page.rowCount) pages

/-- The manifest is that of this operation, and its owner presents the capability. -/
def ResultManifest.isAuthorized (manifest : ResultManifest) (platform : ResultPlatform)
    (operationId : OperationId) (capability ownerWebview : String) : Bool :=
  manifest.schemaVersion = RESULT_STORE_SCHEMA_VERSION && manifest.operationId = operationId &&
    manifest.pageRows = RESULT_PAGE_ROWS && manifest.ownerWebview = ownerWebview &&
    hashMatches platform manifest.capabilitySha256 capability &&
    manifest.rowCount = (manifest.pages.map (·.rowCount)).sum &&
    manifest.pages.map (·.sequence) = List.range manifest.pages.length &&
    manifest.pages.all (fun page => page.encodedBytes ≤ DESKTOP_STREAM_BATCH_MAX_BYTES &&
      page.rowCount ≤ RESULT_PAGE_ROWS) &&
    pageRangesAreContiguous 0 manifest.pages

/-- `load_authorized_manifest`, with the directory that the manifest was found in. -/
def loadAuthorizedManifest (platform : ResultPlatform) (store : ResultStore)
    (operationId : OperationId) (capability ownerWebview : String) :
    Except ResultReadError (ResultDirectory × ResultManifest) :=
  match store.finalDirectory with
  | none => .error .io
  | some directory =>
    match directory.manifest with
    | none => .error .io
    | some encoded =>
      if MAX_MANIFEST_BYTES < encoded.length then
        .error (.blocked "SQL result manifest is not a bounded regular file")
      else
        match platform.readManifest encoded with
        | none => .error .json
        | some manifest =>
          if manifest.isAuthorized platform operationId capability ownerWebview = false then
            .error (.blocked "SQL result capability or manifest is invalid")
          else .ok (directory, manifest)

/-- A page that was stored without its first row has it from the manifest. -/
def restoreRowStart (batch : DesktopSqlStreamBatch) (page : ResultPageMeta) :
    DesktopSqlStreamBatch :=
  if batch.rowStart = 0 ∧ 0 < page.rowStart ∧ batch.decodeFailures = [] then
    { batch with rowStart := page.rowStart }
  else batch

/-- The page is the one that the manifest lists. -/
def DesktopSqlStreamBatch.isListed (batch : DesktopSqlStreamBatch) (page : ResultPageMeta)
    (columns : List String) (operationId : OperationId) : Bool :=
  batch.operationId = operationId && batch.sequence = page.sequence &&
    batch.rowStart = page.rowStart && batch.columns = columns &&
    batch.rows.length = page.rowCount && batch.rows.all (·.length = columns.length) &&
    failuresConsistent page.rowStart columns.length batch.rows batch.decodeFailures

/-- `read_verified_page`. -/
def readVerifiedPage (platform : ResultPlatform) (directory : ResultDirectory)
    (page : ResultPageMeta) (columns : List String) (operationId : OperationId) :
    Except DesktopSqlStreamSinkError DesktopSqlStreamBatch :=
  match directory.pages.lookup page.sequence with
  | none => .error .resultStoreUnavailable
  | some encoded =>
    if encoded.length ≠ page.encodedBytes ∨ DESKTOP_STREAM_BATCH_MAX_BYTES < encoded.length then
      .error .resultStoreUnavailable
    else if bytesSha256 platform encoded ≠ page.sha256 then .error .resultStoreUnavailable
    else
      match platform.readPage encoded with
      | none => .error .resultStoreUnavailable
      | some batch =>
        let batch := restoreRowStart batch page
        if batch.isListed page columns operationId then .ok batch
        else .error .resultStoreUnavailable

/-- `read_page` of the store. -/
def readPage (platform : ResultPlatform) (store : ResultStore) (operationId : OperationId)
    (sequence : Nat) (capability ownerWebview : String) :
    Except ResultReadError DesktopSqlStreamBatch :=
  match loadAuthorizedManifest platform store operationId capability ownerWebview with
  | .error error => .error error
  | .ok (directory, manifest) =>
    match manifest.pages[sequence]?.filter (·.sequence = sequence) with
    | none => .error .notFound
    | some page =>
      match readVerifiedPage platform directory page manifest.columns operationId with
      | .error error => .error (.safety error)
      | .ok batch => .ok batch

/-! ## What `serde_json` reads -/

/-- Documents nested deeper than this are refused. -/
def SERDE_JSON_NESTING : Nat := 127

mutual
/-- How deep arrays and objects are nested. -/
def jsonNesting : Json → Nat
  | .arr items => nestingOfItems items + 1
  | .obj fields => nestingOfFields fields + 1
  | _ => 0

def nestingOfItems : List Json → Nat
  | [] => 0
  | value :: rest => max (jsonNesting value) (nestingOfItems rest)

def nestingOfFields : List (String × Json) → Nat
  | [] => 0
  | (_, value) :: rest => max (jsonNesting value) (nestingOfFields rest)
end

mutual
/-- A document with its floats as they are read. -/
def rereadJson (readFloat : String → String) : Json → Json
  | .float text => .float (readFloat text)
  | .arr items => .arr (rereadItems readFloat items)
  | .obj fields => .obj (rereadFields readFloat fields)
  | value => value

def rereadItems (readFloat : String → String) : List Json → List Json
  | [] => []
  | value :: rest => rereadJson readFloat value :: rereadItems readFloat rest

def rereadFields (readFloat : String → String) : List (String × Json) → List (String × Json)
  | [] => []
  | (key, value) :: rest => (key, rereadJson readFloat value) :: rereadFields readFloat rest
end

/-- A page with its floats as they are read. -/
def DesktopSqlStreamBatch.reread (batch : DesktopSqlStreamBatch) (readFloat : String → String) :
    DesktopSqlStreamBatch :=
  { batch with rows := batch.rows.map (·.map (rereadJson readFloat)) }

/-- The page is read back from its own bytes, up to its floats, unless it is nested too deep. -/
def ReadsPage (platform : ResultPlatform) (batch : DesktopSqlStreamBatch) : Prop :=
  platform.readPage batch.encoded =
    if jsonNesting batch.toJson ≤ SERDE_JSON_NESTING then some (batch.reread platform.readFloat)
    else none

/-- The manifest is read back from its own bytes. -/
def ReadsManifest (platform : ResultPlatform) (manifest : ResultManifest) : Prop :=
  platform.readManifest (manifest.encoded platform) = some manifest

instance (platform : ResultPlatform) (batch : DesktopSqlStreamBatch) :
    Decidable (ReadsPage platform batch) := inferInstanceAs (Decidable (_ = _))

instance (platform : ResultPlatform) (manifest : ResultManifest) :
    Decidable (ReadsManifest platform manifest) := inferInstanceAs (Decidable (_ = _))

/-- Reading floats neither makes nor removes a null or a text. -/
theorem failure_cell_reread (readFloat : String → String) (failure : CellDecodeFailure)
    (value : Json) : failureCellIsConsistent failure (rereadJson readFloat value) =
      failureCellIsConsistent failure value := by
  cases value with
  | null => rfl
  | bool value => rfl
  | int value => rfl
  | float text => rfl
  | str text => rfl
  | arr items => rfl
  | obj fields => rfl

/-- Failures are consistent with a page that was read back as they were with the page. -/
theorem failures_consistent_reread (readFloat : String → String) (rowStart columnCount : Nat)
    (rows : List (List Json)) (failures : List CellDecodeFailure) :
    failuresConsistent rowStart columnCount (rows.map (·.map (rereadJson readFloat))) failures =
      failuresConsistent rowStart columnCount rows failures := by
  unfold failuresConsistent
  congr 1
  funext failure
  rw [List.length_map, List.getElem?_map]
  cases rows[failure.rowIndex - rowStart]? with
  | none => rfl
  | some row =>
      simp only [Option.map_some, Option.bind_some, List.getElem?_map]
      cases row[failure.columnIndex]? with
      | none => rfl
      | some value =>
          simp only [Option.map_some, Option.any_some, failure_cell_reread]

/-! ## Pages that were written -/

/-- A page of a writer, as the page with this sequence and first row. -/
structure PageWritten (operationId : OperationId) (index rowStart : Nat)
    (batch : DesktopSqlStreamBatch) : Prop where
  operation : batch.operationId = operationId
  sequence : batch.sequence = index
  starts : batch.rowStart = rowStart
  rows : batch.rows.length ≤ RESULT_PAGE_ROWS
  encoded : batch.encoded.length ≤ DESKTOP_STREAM_BATCH_MAX_BYTES
  widths : batch.rows.all (·.length = batch.columns.length) = true
  failures : failuresConsistent rowStart batch.columns.length batch.rows batch.decodeFailures = true

/-- Pages of a writer, from this sequence and first row on. -/
def WrittenFrom (operationId : OperationId) : Nat → Nat → List DesktopSqlStreamBatch → Prop
  | _, _, [] => True
  | index, rowStart, batch :: rest => PageWritten operationId index rowStart batch ∧
      WrittenFrom operationId (index + 1) (rowStart + batch.rows.length) rest

/-- How many rows these pages have. -/
def rowsOf (batches : List DesktopSqlStreamBatch) : Nat :=
  (batches.map (·.rows.length)).sum

/-- The manifest's list of these pages. -/
def metasOf (platform : ResultPlatform) (batches : List DesktopSqlStreamBatch) :
    List ResultPageMeta :=
  batches.map fun batch =>
    DesktopSqlResultWriter.pageMeta platform batch.rowStart batch batch.encoded

/-- One more page. -/
theorem written_from_snoc {operationId : OperationId} {batch : DesktopSqlStreamBatch} :
    ∀ {index rowStart : Nat} {batches : List DesktopSqlStreamBatch},
      WrittenFrom operationId index rowStart batches →
      PageWritten operationId (index + batches.length) (rowStart + rowsOf batches) batch →
      WrittenFrom operationId index rowStart (batches ++ [batch])
  | _, _, [], _, hbatch => ⟨hbatch, trivial⟩
  | index, rowStart, first :: rest, hbatches, hbatch => by
      refine ⟨hbatches.1, written_from_snoc hbatches.2 ?_⟩
      have hindex : index + 1 + rest.length = index + (first :: rest).length := by
        rw [List.length_cons]
        omega
      have hstart : rowStart + first.rows.length + rowsOf rest =
          rowStart + rowsOf (first :: rest) := by
        simp only [rowsOf, List.map_cons, List.sum_cons]
        omega
      rwa [hindex, hstart]

/-- The page with an index among pages of a writer. -/
theorem written_from_get {operationId : OperationId} :
    ∀ {index rowStart : Nat} {batches : List DesktopSqlStreamBatch},
      WrittenFrom operationId index rowStart batches → ∀ {i : Nat} {batch : DesktopSqlStreamBatch},
      batches[i]? = some batch → PageWritten operationId (index + i) batch.rowStart batch
  | _, _, [], _, _, _, hget => absurd hget (by simp)
  | index, rowStart, first :: rest, hbatches, 0, batch, hget => by
      obtain rfl : first = batch := by simpa using hget
      obtain rfl : first.rowStart = rowStart := hbatches.1.starts
      exact hbatches.1
  | index, rowStart, first :: rest, hbatches, i + 1, batch, hget => by
      have hrest := written_from_get hbatches.2 (by simpa using hget)
      rwa [Nat.add_assoc, Nat.add_comm 1 i] at hrest

/-- The ranges of pages of a writer are contiguous. -/
theorem written_from_contiguous (platform : ResultPlatform) {operationId : OperationId} :
    ∀ {index rowStart : Nat} {batches : List DesktopSqlStreamBatch},
      WrittenFrom operationId index rowStart batches →
      pageRangesAreContiguous rowStart (metasOf platform batches) = true
  | _, _, [], _ => rfl
  | _, rowStart, batch :: rest, hbatches => by
      have hrest := written_from_contiguous platform hbatches.2
      have hstart : batch.rowStart = rowStart := hbatches.1.starts
      simp only [metasOf, List.map_cons, pageRangesAreContiguous,
        DesktopSqlResultWriter.pageMeta, hstart, decide_true, Bool.true_and]
      exact hrest

/-- The sequences of pages of a writer count up. -/
theorem written_from_sequences {operationId : OperationId} {batches : List DesktopSqlStreamBatch}
    (h : WrittenFrom operationId 0 0 batches) :
    batches.map (·.sequence) = List.range batches.length := by
  refine List.ext_getElem? fun i => ?_
  cases hget : batches[i]? with
  | none =>
      have hlen : batches.length ≤ i := List.getElem?_eq_none_iff.mp hget
      rw [List.getElem?_map, hget, List.getElem?_eq_none (by rwa [List.length_range])]
      rfl
  | some batch =>
      have hlt : i < batches.length := (List.getElem?_eq_some_iff.mp hget).1
      have hsequence := (written_from_get h hget).sequence
      rw [List.getElem?_map, hget, List.getElem?_range hlt, Option.map_some, hsequence,
        Nat.zero_add]

/-- The writer and its partial directory hold exactly these pages. -/
structure Stored (platform : ResultPlatform) (writer : DesktopSqlResultWriter)
    (directory : ResultDirectory) (batches : List DesktopSqlStreamBatch) : Prop where
  written : WrittenFrom writer.operationId 0 0 batches
  pages : writer.pages = metasOf platform batches
  rowCount : writer.rowCount = rowsOf batches
  files : ∀ i batch, batches[i]? = some batch → directory.pages.lookup i = some batch.encoded

section Writing

variable {platform : ResultPlatform} {writer : DesktopSqlResultWriter} {store : ResultStore}

/-- A writer that differs at most in the columns it has taken. -/
def SameButColumns (writer writer' : DesktopSqlResultWriter) : Prop :=
  ∃ columns, writer' = { writer with columns }

/-- A page is refused, and the files stay as they are, or it is written as the next page. -/
theorem write_page_cases (batch : DesktopSqlStreamBatch) (fileWritten : Bool) :
    (∃ writer' error, SameButColumns writer writer' ∧
      writer.writePage platform store batch batch.encoded fileWritten =
        (writer', store, .error error)) ∨
    ∃ directory, store.partialDirectory = some directory ∧
      PageWritten writer.operationId writer.pages.length writer.rowCount batch ∧
      writer.writePage platform store batch batch.encoded fileWritten =
        ({ writer with
            columns := batch.columns
            pages := writer.pages ++
              [DesktopSqlResultWriter.pageMeta platform writer.rowCount batch batch.encoded]
            rowCount := writer.rowCount + batch.rows.length },
          { store with
            partialDirectory := some { directory with
              pages := directory.pages.insert batch.sequence batch.encoded } }, .ok ()) := by
  unfold DesktopSqlResultWriter.writePage
  cases haccepts : writer.accepts batch batch.encoded with
  | false => exact .inl ⟨writer, .batchTooLarge, ⟨writer.columns, rfl⟩, by simp⟩
  | true =>
      by_cases hcolumns : writer.columns ≠ [] ∧ writer.columns ≠ batch.columns
      · refine .inl ⟨writer, .invalidAcknowledgement, ⟨writer.columns, rfl⟩, ?_⟩
        rw [if_neg (by simp), if_pos hcolumns]
      · rw [if_neg (by simp), if_neg hcolumns]
        cases hdirectory : store.partialDirectory with
        | none => exact .inl ⟨_, .resultStoreUnavailable, ⟨batch.columns, rfl⟩, rfl⟩
        | some directory =>
            cases fileWritten with
            | false => exact .inl ⟨_, .resultStoreUnavailable, ⟨batch.columns, rfl⟩, rfl⟩
            | true =>
                refine .inr ⟨directory, rfl, ?_, rfl⟩
                simp only [DesktopSqlResultWriter.accepts, Bool.and_eq_true,
                  decide_eq_true_eq] at haccepts
                obtain ⟨⟨⟨⟨⟨⟨hoperation, hsequence⟩, hstart⟩, hrows⟩, hencoded⟩, hwidths⟩,
                  hfailures⟩ := haccepts
                exact ⟨hoperation, hsequence, hstart, hrows, hencoded, hwidths, hfailures⟩

/-- The columns that a writer has taken do not matter to what it has stored. -/
theorem Stored.same {writer' : DesktopSqlResultWriter} {directory : ResultDirectory}
    {batches : List DesktopSqlStreamBatch} (h : Stored platform writer directory batches)
    (hsame : SameButColumns writer writer') : Stored platform writer' directory batches := by
  obtain ⟨columns, rfl⟩ := hsame
  exact ⟨h.written, h.pages, h.rowCount, h.files⟩

/-- A page that is written is stored behind the others. -/
theorem Stored.snoc {directory : ResultDirectory} {batches : List DesktopSqlStreamBatch}
    (h : Stored platform writer directory batches) {batch : DesktopSqlStreamBatch}
    (hbatch : PageWritten writer.operationId writer.pages.length writer.rowCount batch) :
    Stored platform
      { writer with
        columns := batch.columns
        pages := writer.pages ++
          [DesktopSqlResultWriter.pageMeta platform writer.rowCount batch batch.encoded]
        rowCount := writer.rowCount + batch.rows.length }
      { directory with pages := directory.pages.insert batch.sequence batch.encoded }
      (batches ++ [batch]) := by
  have hcount : writer.pages.length = batches.length := by
    rw [h.pages, metasOf, List.length_map]
  rw [hcount, h.rowCount] at hbatch
  refine ⟨?_, ?_, ?_, ?_⟩
  · refine written_from_snoc h.written ?_
    rwa [Nat.zero_add, Nat.zero_add]
  · have hstart : batch.rowStart = writer.rowCount := by rw [hbatch.starts, h.rowCount]
    show writer.pages ++ [_] = metasOf platform (batches ++ [batch])
    rw [metasOf, List.map_append, ← metasOf, ← h.pages, List.map_singleton, hstart]
  · show writer.rowCount + batch.rows.length = rowsOf (batches ++ [batch])
    rw [h.rowCount]
    simp only [rowsOf, List.map_append, List.sum_append, List.map_cons, List.map_nil,
      List.sum_cons, List.sum_nil, Nat.add_zero]
  · intro i other hget
    show (directory.pages.insert batch.sequence batch.encoded).lookup i = some other.encoded
    rw [hbatch.sequence]
    by_cases hlast : i = batches.length
    · subst hlast
      have hother : batch = other := by simpa using hget
      rw [AList.lookup_insert, hother]
    · have hlt : i < batches.length := by
        have hlen := (List.getElem?_eq_some_iff.mp hget).1
        rw [List.length_append, List.length_singleton] at hlen
        omega
      rw [List.getElem?_append_left hlt] at hget
      rw [AList.lookup_insert_ne hlast]
      exact h.files i other hget

end Writing

/-! ## A cancelled result -/

/-- The owner reads a truncated result whose pages are exactly these, in this order. -/
def HoldsPartial (platform : ResultPlatform) (store : ResultStore) (operationId : OperationId)
    (capability ownerWebview : String) (batches : List DesktopSqlStreamBatch) : Prop :=
  ∃ directory manifest,
    loadAuthorizedManifest platform store operationId capability ownerWebview =
      .ok (directory, manifest) ∧
    manifest.truncated = true ∧ manifest.pages.length = batches.length ∧
    ∀ i batch, batches[i]? = some batch → directory.pages.lookup i = some batch.encoded ∧
      readPage platform store operationId i capability ownerWebview =
        .ok (batch.reread platform.readFloat)

/-- What has to be so for these pages to be published as a result that is read: there are some,
their manifest is not too large, the files are moved, every page has the columns of the manifest,
and none is nested too deep. -/
def PublishesReadable (platform : ResultPlatform) (writer : DesktopSqlResultWriter)
    (batches : List DesktopSqlStreamBatch) (now : DateTime) (filesMoved : Bool) : Prop :=
  batches ≠ [] ∧
  ((writer.manifest writer.rowCount true 0 now).encoded platform).length ≤ MAX_MANIFEST_BYTES ∧
  filesMoved = true ∧
  ∀ batch ∈ batches, batch.columns = writer.columns ∧
    jsonNesting batch.toJson ≤ SERDE_JSON_NESTING

instance (platform : ResultPlatform) (writer : DesktopSqlResultWriter)
    (batches : List DesktopSqlStreamBatch) (now : DateTime) (filesMoved : Bool) :
    Decidable (PublishesReadable platform writer batches now filesMoved) :=
  inferInstanceAs (Decidable (_ ∧ _ ∧ _ ∧ _))

section Cancelled

variable {platform : ResultPlatform} {writer : DesktopSqlResultWriter} {store : ResultStore}
variable {directory : ResultDirectory} {batches : List DesktopSqlStreamBatch}
variable {capability ownerWebview : String} {now : DateTime}

/-- The manifest lists the stored pages in their order. -/
theorem stored_sequences (hstored : Stored platform writer directory batches) :
    writer.pages.map (·.sequence) = List.range writer.pages.length := by
  have hmap : (metasOf platform batches).map (·.sequence) = batches.map (·.sequence) := by
    rw [metasOf, List.map_map]
    rfl
  rw [hstored.pages, hmap, written_from_sequences hstored.written, metasOf, List.length_map]

/-- The manifest of the stored pages is one that their owner may load. -/
theorem manifest_authorized (hstored : Stored platform writer directory batches)
    (howner : writer.ownerWebview = ownerWebview)
    (hcapability : writer.capabilitySha256 = capabilityHash platform capability) :
    (writer.manifest writer.rowCount true 0 now).isAuthorized platform writer.operationId
      capability ownerWebview = true := by
  have hsequences := stored_sequences hstored
  have hrows : writer.rowCount = (writer.pages.map (·.rowCount)).sum := by
    rw [hstored.rowCount, hstored.pages, metasOf, List.map_map]
    rfl
  have hbounds : writer.pages.all (fun page =>
      page.encodedBytes ≤ DESKTOP_STREAM_BATCH_MAX_BYTES && page.rowCount ≤ RESULT_PAGE_ROWS) =
        true := by
    rw [hstored.pages, List.all_eq_true]
    intro page hpage
    obtain ⟨batch, hbatch, rfl⟩ := List.mem_map.mp hpage
    obtain ⟨i, hget⟩ := List.mem_iff_getElem?.mp hbatch
    have hwritten := written_from_get hstored.written hget
    simp [DesktopSqlResultWriter.pageMeta, hwritten.encoded, hwritten.rows]
  have hcontiguous : pageRangesAreContiguous 0 writer.pages = true := by
    rw [hstored.pages]
    exact written_from_contiguous platform hstored.written
  have hhash : hashMatches platform writer.capabilitySha256 capability = true :=
    decide_eq_true hcapability
  simp only [ResultManifest.isAuthorized, Bool.and_eq_true, decide_eq_true_eq]
  exact ⟨⟨⟨⟨⟨⟨⟨⟨rfl, rfl⟩, rfl⟩, howner⟩, hhash⟩, hrows⟩, hsequences⟩, hbounds⟩, hcontiguous⟩

/-- A stored page is read exactly when it has the manifest's columns and is not nested too deep. -/
theorem read_verified_page_iff (hstored : Stored platform writer directory batches)
    (hreads : ∀ batch ∈ batches, ReadsPage platform batch) {i : Nat}
    {batch : DesktopSqlStreamBatch} (hget : batches[i]? = some batch) (manifest : List UInt8) :
    readVerifiedPage platform { directory with manifest := some manifest }
        (DesktopSqlResultWriter.pageMeta platform batch.rowStart batch batch.encoded)
        writer.columns writer.operationId = .ok (batch.reread platform.readFloat) ↔
      batch.columns = writer.columns ∧ jsonNesting batch.toJson ≤ SERDE_JSON_NESTING := by
  have hwritten := written_from_get hstored.written hget
  rw [Nat.zero_add] at hwritten
  have hfile : directory.pages.lookup batch.sequence = some batch.encoded := by
    rw [hwritten.sequence]
    exact hstored.files i batch hget
  have hreads' := hreads batch (List.mem_of_getElem? hget)
  have hbound : ¬ DESKTOP_STREAM_BATCH_MAX_BYTES < batch.encoded.length :=
    Nat.not_lt.mpr hwritten.encoded
  unfold ReadsPage at hreads'
  simp only [readVerifiedPage, DesktopSqlResultWriter.pageMeta, hfile, ne_eq, not_true_eq_false,
    hbound, or_self, if_false, hreads']
  by_cases hnesting : jsonNesting batch.toJson ≤ SERDE_JSON_NESTING
  · have hrestore : restoreRowStart (batch.reread platform.readFloat)
        (DesktopSqlResultWriter.pageMeta platform batch.rowStart batch batch.encoded) =
          batch.reread platform.readFloat := by
      refine if_neg ?_
      rintro ⟨hzero, hpos, -⟩
      have hzero' : batch.rowStart = 0 := hzero
      have hpos' : 0 < batch.rowStart := hpos
      omega
    have hlisted : (batch.reread platform.readFloat).isListed
        (DesktopSqlResultWriter.pageMeta platform batch.rowStart batch batch.encoded)
        writer.columns writer.operationId = decide (batch.columns = writer.columns) := by
      by_cases hcolumns : batch.columns = writer.columns
      · have hwidths := hwritten.widths
        have hfailures := hwritten.failures
        rw [hcolumns] at hwidths hfailures
        simp only [DesktopSqlStreamBatch.isListed, DesktopSqlStreamBatch.reread,
          DesktopSqlResultWriter.pageMeta, hwritten.operation, hcolumns, decide_true,
          Bool.true_and, List.length_map, failures_consistent_reread, hfailures, Bool.and_true]
        rw [List.all_map]
        refine Eq.trans ?_ hwidths
        congr 1
        funext row
        simp
      · simp [DesktopSqlStreamBatch.isListed, DesktopSqlStreamBatch.reread, hcolumns]
    unfold DesktopSqlResultWriter.pageMeta at hrestore hlisted
    simp only [hnesting, if_true, hrestore, hlisted, decide_eq_true_eq, and_true]
    by_cases hcolumns : batch.columns = writer.columns
    · simp [hcolumns]
    · simp [hcolumns]
  · simp [hnesting]

/-- The store after the files were moved. -/
def publishedStore (platform : ResultPlatform) (writer : DesktopSqlResultWriter)
    (directory : ResultDirectory) (now : DateTime) : ResultStore where
  finalDirectory := some
    { directory with
      manifest := some ((writer.manifest writer.rowCount true 0 now).encoded platform) }

/-- The owner loads the manifest that was published. -/
theorem load_published (hstored : Stored platform writer directory batches)
    (howner : writer.ownerWebview = ownerWebview)
    (hcapability : writer.capabilitySha256 = capabilityHash platform capability)
    (hmanifest : ReadsManifest platform (writer.manifest writer.rowCount true 0 now))
    (hsmall : ((writer.manifest writer.rowCount true 0 now).encoded platform).length ≤
      MAX_MANIFEST_BYTES) :
    ∃ published, (publishedStore platform writer directory now).finalDirectory = some published ∧
      published.pages = directory.pages ∧
      loadAuthorizedManifest platform (publishedStore platform writer directory now)
        writer.operationId capability ownerWebview =
          .ok (published, writer.manifest writer.rowCount true 0 now) := by
  refine ⟨_, rfl, rfl, ?_⟩
  have hauthorized := @manifest_authorized _ _ _ _ _ _ now hstored howner hcapability
  unfold ReadsManifest at hmanifest
  simp only [loadAuthorizedManifest, publishedStore, Nat.not_lt.mpr hsmall, if_false, hmanifest,
    hauthorized, Bool.true_eq_false]

/-- A published page is read exactly when it has the manifest's columns and is not nested too
deep. -/
theorem read_published_iff (hstored : Stored platform writer directory batches)
    (howner : writer.ownerWebview = ownerWebview)
    (hcapability : writer.capabilitySha256 = capabilityHash platform capability)
    (hmanifest : ReadsManifest platform (writer.manifest writer.rowCount true 0 now))
    (hreads : ∀ batch ∈ batches, ReadsPage platform batch)
    (hsmall : ((writer.manifest writer.rowCount true 0 now).encoded platform).length ≤
      MAX_MANIFEST_BYTES)
    {i : Nat} {batch : DesktopSqlStreamBatch} (hget : batches[i]? = some batch) :
    readPage platform (publishedStore platform writer directory now) writer.operationId i
        capability ownerWebview = .ok (batch.reread platform.readFloat) ↔
      batch.columns = writer.columns ∧ jsonNesting batch.toJson ≤ SERDE_JSON_NESTING := by
  obtain ⟨published, hfinal, -, hload⟩ :=
    load_published hstored howner hcapability hmanifest hsmall
  have hsequence := (written_from_get hstored.written hget).sequence
  have hlisted : (writer.manifest writer.rowCount true 0 now).pages[i]? = some
      (DesktopSqlResultWriter.pageMeta platform batch.rowStart batch batch.encoded) := by
    show writer.pages[i]? = _
    rw [hstored.pages, metasOf, List.getElem?_map, hget]
    rfl
  have hfound : (some (DesktopSqlResultWriter.pageMeta platform batch.rowStart batch
      batch.encoded)).filter (fun page => decide (page.sequence = i)) =
        some (DesktopSqlResultWriter.pageMeta platform batch.rowStart batch batch.encoded) := by
    refine Option.filter_some_pos ?_
    rw [← Nat.zero_add i, ← hsequence]
    exact decide_eq_true rfl
  rw [← read_verified_page_iff hstored hreads hget
    ((writer.manifest writer.rowCount true 0 now).encoded platform)]
  obtain rfl := Option.some.inj hfinal
  simp only [readPage, hload, hlisted, hfound]
  show (match readVerifiedPage platform _ _ writer.columns writer.operationId with
    | .error error => Except.error (ResultReadError.safety error)
    | .ok batch => Except.ok batch) = _ ↔ _
  cases readVerifiedPage platform
    { directory with
      manifest := some ((writer.manifest writer.rowCount true 0 now).encoded platform) }
    (DesktopSqlResultWriter.pageMeta platform batch.rowStart batch batch.encoded) writer.columns
    writer.operationId with
  | error error => simp
  | ok read => simp

/-- Publishing the pages of a cancelled stream makes a result that its owner reads exactly when
these conditions are met. -/
theorem complete_cancelled_iff (hstored : Stored platform writer directory batches)
    (hpartialDirectory : store.partialDirectory = some directory) (hfinal : store.finalDirectory = none)
    (hpublished : writer.published = false) (howner : writer.ownerWebview = ownerWebview)
    (hcapability : writer.capabilitySha256 = capabilityHash platform capability)
    (hmanifest : ReadsManifest platform (writer.manifest writer.rowCount true 0 now))
    (hreads : ∀ batch ∈ batches, ReadsPage platform batch) (filesMoved : Bool) :
    HoldsPartial platform (writer.completeCancelled platform store now filesMoved).2.1
        writer.operationId capability ownerWebview batches ↔
      PublishesReadable platform writer batches now filesMoved := by
  have hnothing :
      ¬ HoldsPartial platform store writer.operationId capability ownerWebview batches := by
    rintro ⟨_, _, hload, -⟩
    simp [loadAuthorizedManifest, hfinal] at hload
  have hpages : writer.pages = [] ↔ batches = [] := by
    rw [hstored.pages, metasOf, List.map_eq_nil_iff]
  by_cases hempty : batches = []
  · -- Nothing was written, so nothing is published.
    have hsame : writer.completeCancelled platform store now filesMoved =
        (writer, store, .ok ()) := if_pos (.inr (hpages.mpr hempty))
    rw [hsame]
    exact ⟨fun h => absurd h hnothing, fun h => absurd hempty h.1⟩
  have hcomplete : writer.completeCancelled platform store now filesMoved =
      writer.complete platform store writer.rowCount true 0 now filesMoved := by
    refine if_neg ?_
    rintro (hwas | hnone)
    · rw [hpublished] at hwas
      exact absurd hwas (by simp)
    · exact hempty (hpages.mp hnone)
  rw [hcomplete]
  unfold DesktopSqlResultWriter.complete
  rw [if_neg (by simp [stored_sequences hstored])]
  dsimp only
  -- A manifest that is too large is refused before any file is moved.
  by_cases hlarge : MAX_MANIFEST_BYTES <
      ((writer.manifest writer.rowCount true 0 now).encoded platform).length
  · rw [if_pos hlarge]
    exact ⟨fun h => absurd h hnothing, fun h => absurd h.2.1 (Nat.not_le.mpr hlarge)⟩
  rw [if_neg hlarge, hpartialDirectory]
  cases filesMoved with
  | false => exact ⟨fun h => absurd h hnothing, fun h => absurd h.2.2.1 (by simp)⟩
  | true =>
      have hsmall := Nat.not_lt.mp hlarge
      have hread : ∀ i batch, batches[i]? = some batch →
          (readPage platform (publishedStore platform writer directory now) writer.operationId i
            capability ownerWebview = .ok (batch.reread platform.readFloat) ↔ _) :=
        fun i batch hget =>
          read_published_iff hstored howner hcapability hmanifest hreads hsmall hget
      show HoldsPartial platform (publishedStore platform writer directory now) _ _ _ _ ↔ _
      constructor
      · rintro ⟨_, _, _, _, _, hall⟩
        refine ⟨hempty, hsmall, rfl, ?_⟩
        intro batch hbatch
        obtain ⟨i, hget⟩ := List.mem_iff_getElem?.mp hbatch
        exact (hread i batch hget).mp (hall i batch hget).2
      · rintro ⟨-, -, -, hconditions⟩
        obtain ⟨published, -, hfiles, hload⟩ :=
          load_published hstored howner hcapability hmanifest hsmall
        refine ⟨published, _, hload, rfl, ?_, ?_⟩
        · show writer.pages.length = batches.length
          rw [hstored.pages, metasOf, List.length_map]
        · intro i batch hget
          refine ⟨?_, (hread i batch hget).mpr (hconditions batch (List.mem_of_getElem? hget))⟩
          rw [hfiles]
          exact hstored.files i batch hget

end Cancelled

end Dopedb.Queries
