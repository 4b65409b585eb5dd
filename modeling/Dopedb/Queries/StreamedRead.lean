import Dopedb.Library.Batching
import Dopedb.Queries.PageBudget

/-!
# Pages of a streamed read

`stream_batched` of `executor/read.rs` and `stream_materialized` of `read_page_budget.rs`. The rows
of a statement are decoded, fitted to a page and collected until the page is full; every page goes
to a receiver that may reject it. Both keep the pages that went out, also when they fail.
-/

namespace Dopedb.Queries

open Library

/-- A decoded cell. -/
structure DecodedCell where
  value : Json
  failureType : Option String

/-- What a statement answers: its columns with the names of their types, its rows, or the message
of the driver where it fails, and how a cell is decoded, unless the decoder panics. -/
structure RowStream (ρ : Type) where
  columns : List (String × String)
  decode : ρ → Nat → Option DecodedCell
  rows : List (Except String ρ)

/-- A page as it goes to the receiver. -/
structure ReadBatch where
  columns : List String
  rows : List (List Json)
  decodeFailures : List CellDecodeFailure
  deriving DecidableEq

/-- How the receiver answers a page, given the pages before it. -/
abbrev Receiver := List ReadBatch → ReadBatch → Except ReadError Unit

/-- A read that failed, with the pages that went out. -/
structure Stopped where
  error : ReadError
  pages : List ReadBatch

/-- The page that is being filled, and the pages that went out. -/
structure Paging where
  batch : List (List Json) := []
  batchFailures : List CellDecodeFailure := []
  batchBytes : Nat := 0
  pages : List ReadBatch := []

namespace RowStream

variable {ρ : Type}

/-- The names of the columns. -/
def columnNames (stream : RowStream ρ) : List String := stream.columns.map Prod.fst

/-- The decoded cells of a row. A decoder that panics leaves null and a failure. -/
def decodedCells (stream : RowStream ρ) (row : ρ) : List DecodedCell :=
  stream.columns.zipIdx.map fun (column, columnIndex) =>
    (stream.decode row columnIndex).getD ⟨.null, some column.2⟩

/-- `decode_row`. -/
def decodeRow (stream : RowStream ρ) (row : ρ) (rowIndex : Nat) :
    List Json × List CellDecodeFailure :=
  ((stream.decodedCells row).map (·.value),
    (stream.decodedCells row).zipIdx.filterMap fun (cell, columnIndex) =>
      cell.failureType.map fun databaseType => ⟨rowIndex, columnIndex, databaseType⟩)

end RowStream

section Reads

variable {ρ : Type} (receive : Receiver)

/-- `on_batch`. -/
def onBatch (pages : List ReadBatch) (page : ReadBatch) : Except Stopped (List ReadBatch) :=
  match receive pages page with
  | .error error => .error ⟨error, pages ++ [page]⟩
  | .ok _ => .ok (pages ++ [page])

/-- The page goes out, and the next one is begun. -/
def flush (columns : List String) (paging : Paging) : Except Stopped Paging := do
  let pages ← onBatch receive paging.pages ⟨columns, paging.batch, paging.batchFailures⟩
  return { pages := pages }

/-- What both reads do with a row that fits: a page without room for it goes out first, and a page
that the row fills goes out after it. -/
def pushRow (columns : List String) (batchRows budget : Nat) (paging : Paging) (row : FittedRow) :
    Except Stopped Paging := do
  let paging ←
    if paging.batch.isEmpty = false ∧ budget < paging.batchBytes + row.bytes then
      flush receive columns paging
    else pure paging
  let paging : Paging :=
    { paging with
      batch := paging.batch ++ [row.values]
      batchFailures := paging.batchFailures ++ row.failures
      batchBytes := paging.batchBytes + row.bytes }
  if paging.batch.length = batchRows then flush receive columns paging else pure paging

/-- What a read returns. -/
structure ReadSummary where
  columns : List String
  rowCount : Nat
  truncated : Bool
  deriving DecidableEq

/-- The variables of the loop of `stream_batched`. -/
structure ReadLoop where
  columns : List String := []
  rowCount : Nat := 0
  pageBudget : Nat := 0
  paging : Paging := {}

/-- The columns and the budget are those of the first row. -/
def readHeader (stream : RowStream ρ) (loop : ReadLoop) : Except Stopped ReadLoop :=
  if loop.columns.isEmpty then
    match pageRowBudget stream.columnNames with
    | .error error => .error ⟨error, loop.paging.pages⟩
    | .ok pageBudget => .ok { loop with columns := stream.columnNames, pageBudget := pageBudget }
  else .ok loop

/-- A row within the cap is decoded, fitted and collected. -/
def readRow (stream : RowStream ρ) (batchRows : Nat) (loop : ReadLoop) (row : ρ) :
    Except Stopped ReadLoop := do
  let (decoded, failures) := stream.decodeRow row loop.rowCount
  match fitRowToPage decoded failures loop.rowCount loop.pageBudget with
  | .error error => .error ⟨error, loop.paging.pages⟩
  | .ok fitted =>
    let paging ← pushRow receive loop.columns batchRows loop.pageBudget loop.paging fitted
    return { loop with rowCount := loop.rowCount + 1, paging := paging }

/-- The loop of `stream_batched`, with whether it stopped at the cap. -/
def readRows (stream : RowStream ρ) (maxRows batchRows : Nat) :
    List (Except String ρ) → ReadLoop → Except Stopped (ReadLoop × Bool)
  | [], loop => .ok (loop, false)
  | .error message :: _, loop => .error ⟨.db message, loop.paging.pages⟩
  | .ok row :: rest, loop => do
    let loop ← readHeader stream loop
    if maxRows ≤ loop.rowCount then .ok (loop, true)
    else
      let loop ← readRow receive stream batchRows loop row
      readRows stream maxRows batchRows rest loop

/-- What went out of a read, and what it returned. -/
def answer : Except Stopped (List ReadBatch × ReadSummary) →
    List ReadBatch × Except ReadError ReadSummary
  | .error stopped => (stopped.pages, .error stopped.error)
  | .ok (pages, summary) => (pages, .ok summary)

/-- `stream_batched`. -/
def streamBatched (stream : RowStream ρ) (maxRows batchRows : Nat) :
    List ReadBatch × Except ReadError ReadSummary :=
  answer do
    let batchRows := max 1 (min 256 batchRows)
    let (loop, truncated) ← readRows receive stream maxRows batchRows stream.rows {}
    let paging ←
      if loop.paging.batch.isEmpty = false then flush receive loop.columns loop.paging
      else pure loop.paging
    return (paging.pages, ⟨loop.columns, loop.rowCount, truncated⟩)

/-- A result that was read as a whole. -/
structure QueryResult where
  columns : List String
  rows : List (List Json)
  decodeFailures : List CellDecodeFailure
  truncated : Bool

/-- The loop of `stream_materialized`. The failures are sorted by their rows. -/
def materializedRows (columns : List String) (failures : List CellDecodeFailure)
    (batchRows budget : Nat) : List (List Json × Nat) → Paging → Except Stopped Paging
  | [], paging => .ok paging
  | (row, rowIndex) :: rest, paging => do
    let rowFailures := failures.filter fun failure => failure.rowIndex = rowIndex
    match fitRowToPage row rowFailures rowIndex budget with
    | .error error => .error ⟨error, paging.pages⟩
    | .ok fitted =>
      let paging ← pushRow receive columns batchRows budget paging fitted
      materializedRows columns failures batchRows budget rest paging

/-- `stream_materialized`. -/
def streamMaterialized (result : QueryResult) (batchRows : Nat) :
    List ReadBatch × Except ReadError ReadSummary :=
  answer do
    match pageRowBudget result.columns with
    | .error error => .error ⟨error, []⟩
    | .ok budget =>
      let paging ← materializedRows receive result.columns result.decodeFailures batchRows budget
        result.rows.zipIdx {}
      let paging ←
        if paging.batch.isEmpty = false ∨ result.rows.length = 0 then
          flush receive result.columns paging
        else pure paging
      return (paging.pages, ⟨result.columns, result.rows.length, result.truncated⟩)

end Reads

/-! ## Pages and blocks of rows -/

/-- A block of rows as a page. -/
def pageOf (columns : List String) (block : List FittedRow) : ReadBatch where
  columns := columns
  rows := block.map (·.values)
  decodeFailures := block.flatMap (·.failures)

/-- The variables that a read keeps of the rows it has cut into blocks. -/
def pagingOf (columns : List String) (cutting : Cutting FittedRow) : Paging where
  batch := cutting.current.map (·.values)
  batchFailures := cutting.current.flatMap (·.failures)
  batchBytes := total (·.bytes) cutting.current
  pages := cutting.closed.map (pageOf columns)

section Blocks

variable {receive : Receiver} {columns : List String} {batchRows budget : Nat}

/-- A step of a read gives the expected variables, unless the receiver rejects one of the pages
that are expected to be out by then. -/
def Delivers (receive : Receiver) (columns : List String) (cutting : Cutting FittedRow)
    (result : Except Stopped Paging) : Prop :=
  result = .ok (pagingOf columns cutting) ∨
    ∃ pages page error, receive pages page = .error error ∧
      result = .error ⟨error, pages ++ [page]⟩ ∧
        pages ++ [page] <+: cutting.closed.map (pageOf columns)

/-- A page that goes out is the block that is closed. -/
theorem delivers_flush (cutting : Cutting FittedRow) :
    Delivers receive columns cutting.close (flush receive columns (pagingOf columns cutting)) := by
  have hclosed : cutting.close.closed.map (pageOf columns) =
      cutting.closed.map (pageOf columns) ++ [pageOf columns cutting.current] := List.map_append
  unfold Delivers flush onBatch
  cases hreceive : receive (pagingOf columns cutting).pages ⟨columns,
      (pagingOf columns cutting).batch, (pagingOf columns cutting).batchFailures⟩ with
  | error error =>
      refine .inr ⟨_, _, error, hreceive, rfl, ?_⟩
      rw [hclosed]
      exact List.prefix_rfl
  | ok _ =>
      refine .inl ?_
      show Except.ok (Paging.mk [] [] 0 _) = Except.ok (Paging.mk [] [] 0 _)
      rw [hclosed]
      rfl

/-- A row is put where the cutting puts it. -/
theorem delivers_push_row (cutting : Cutting FittedRow) (row : FittedRow) :
    Delivers receive columns (cutting.push batchRows budget (·.bytes) row)
      (pushRow receive columns batchRows budget (pagingOf columns cutting) row) := by
  have hfill : ∀ c : Cutting FittedRow, Delivers receive columns (c.fill batchRows row)
      (let paging : Paging :=
        { pagingOf columns c with
          batch := (pagingOf columns c).batch ++ [row.values]
          batchFailures := (pagingOf columns c).batchFailures ++ row.failures
          batchBytes := (pagingOf columns c).batchBytes + row.bytes }
      if paging.batch.length = batchRows then flush receive columns paging
      else pure paging) := by
    intro c
    have hpaging : ({ pagingOf columns c with
          batch := (pagingOf columns c).batch ++ [row.values]
          batchFailures := (pagingOf columns c).batchFailures ++ row.failures
          batchBytes := (pagingOf columns c).batchBytes + row.bytes } : Paging) =
        pagingOf columns ⟨c.closed, c.current ++ [row]⟩ := by
      simp [pagingOf]
    simp only [hpaging]
    have hlength : ((pagingOf columns c).batch ++ [row.values]).length =
        (c.current ++ [row]).length := by
      simp [pagingOf]
    unfold Cutting.fill
    simp only [hlength]
    split
    · exact delivers_flush _
    · exact .inl rfl
  have hempty : ((pagingOf columns cutting).batch.isEmpty = false) = (cutting.current ≠ []) := by
    simp [pagingOf]
  unfold pushRow Cutting.push Cutting.makeRoom
  simp only [hempty]
  have hbytes : (pagingOf columns cutting).batchBytes = total (·.bytes) cutting.current := rfl
  rw [hbytes]
  by_cases hfull : cutting.current ≠ [] ∧ budget < total (·.bytes) cutting.current + row.bytes
  · rw [if_pos hfull, if_pos hfull]
    rcases @delivers_flush receive columns cutting with
      hok | ⟨pages, page, error, hreceive, herror, hprefix⟩
    · rw [hok]
      exact hfill cutting.close
    · refine .inr ⟨pages, page, error, hreceive, ?_, ?_⟩
      · rw [herror]
        rfl
      · refine hprefix.trans (List.IsPrefix.map _ ?_)
        unfold Cutting.fill
        simp only
        split
        · exact List.prefix_append _ _
        · exact List.prefix_rfl
  · rw [if_neg hfull, if_neg hfull]
    exact hfill cutting

end Blocks

end Dopedb.Queries
