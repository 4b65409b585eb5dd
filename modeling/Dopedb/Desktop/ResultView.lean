import Mathlib.Data.List.Basic
import Mathlib.Data.List.Infix
import Dopedb.Desktop.JavaScript
import Dopedb.Queries.StreamBatch

/-!
# The view of a SQL result

The state that the result screen shows for a streamed read, and the two functions of
`features/queries/domain.ts` that move it: `acceptSqlStreamBatch` takes exactly the next page,
`finishSqlStream` compares the receipt of the stream with the pages taken. `Consists` says which
pages a view shows. The retained rows of `resultPageCache.ts` are not part of the state.
-/

namespace Dopedb.Desktop

open Library
open Queries (CellDecodeFailure)

/-- One page of rows. The numbers are unsigned integers of the generated bindings. -/
structure SqlStreamBatch where
  operationId : String
  sequence : Nat
  rowStart : Option Nat
  columns : List String
  rows : List (List Json)
  decodeFailures : Option (List CellDecodeFailure)
  resultCapability : String

/-- What a completed stream reports. -/
structure SqlStreamReceipt where
  operationId : String
  rowCount : Nat
  truncated : Bool
  durationMs : Nat

/-- How far a stream is. -/
inductive SqlStreamPhase where
  | idle | connecting | streaming | complete | cancelled | error | outcomeUnknown
  deriving DecidableEq, Repr

/-- The rows of one page. -/
structure SqlStreamPageRange where
  sequence : Nat
  rowStart : Nat
  rowCount : Nat
  deriving DecidableEq

/-- A handle over the stored rows of a result. -/
structure SqlStreamRowSource where
  operationId : Option String
  capability : Option String
  pageRows : Nat
  pageRanges : List SqlStreamPageRange
  rowCount : Nat
  complete : Bool

/-- What the client measured of a stream. -/
structure SqlStreamTimings where
  clientTotalMs : Nat

/-- The state of the result screen. -/
structure SqlStreamViewState where
  runId : Nat
  phase : SqlStreamPhase
  operationId : Option String
  nextSequence : Nat
  columns : List String
  rowSource : SqlStreamRowSource
  rowCount : Nat
  truncated : Bool
  durationMs : Option Nat
  error : Option String
  timings : Option SqlStreamTimings

/-- The rows that one page may have. -/
def SQL_STREAM_MAX_ROWS_PER_BATCH : Nat := 256

/-- The handle of a result without rows. -/
def emptySqlStreamRows : SqlStreamRowSource where
  operationId := none
  capability := none
  pageRows := SQL_STREAM_MAX_ROWS_PER_BATCH
  pageRanges := []
  rowCount := 0
  complete := false

/-- The view of a run that has shown nothing yet. -/
def emptySqlStreamView (runId : Nat) : SqlStreamViewState where
  runId := runId
  phase := .idle
  operationId := none
  nextSequence := 0
  columns := []
  rowSource := emptySqlStreamRows
  rowCount := 0
  truncated := false
  durationMs := none
  error := none
  timings := none

/-- The stream of the view is still open. -/
def SqlStreamViewState.isOpen (view : SqlStreamViewState) : Bool :=
  view.phase = .connecting || view.phase = .streaming

/-! ## Taking a page -/

/-- A digit of a capability, in either case. -/
def isCapabilityDigit (c : Char) : Bool :=
  ('0' ≤ c && c ≤ '9') || ('a' ≤ c && c ≤ 'f') || ('A' ≤ c && c ≤ 'F')

section Accept

variable (number : String → Option Int)

/-- The type of a cell that was shortened starts with this. -/
def TRUNCATED_CELL_TYPE_PREFIX : String := "dopedb.truncated:"

/-- The bytes of a shortened cell, where `number` is the integer that a text converts to. -/
def truncatedCellBytes (failure : CellDecodeFailure) : Option Nat :=
  if TRUNCATED_CELL_TYPE_PREFIX.toList.isPrefixOf failure.databaseType.toList then
    match number (String.ofList
        (failure.databaseType.toList.drop TRUNCATED_CELL_TYPE_PREFIX.length)) with
    | some bytes => if 0 ≤ bytes ∧ bytes ≤ MAX_SAFE_INTEGER then some bytes.toNat else none
    | none => none
  else none

/-- A failed cell is null; a shortened cell keeps its text preview. -/
def decodeFailureCellIsConsistent (failure : CellDecodeFailure) (value : Option Json) : Bool :=
  match truncatedCellBytes number failure, value with
  | none, some .null => true
  | some _, some (.str _) => true
  | _, _ => false

/-- A failure that the page does not bear out. -/
def failureIsRefused (batch : SqlStreamBatch) (start : Nat) (failure : CellDecodeFailure) : Bool :=
  MAX_SAFE_INTEGER < failure.rowIndex || MAX_SAFE_INTEGER < failure.columnIndex ||
    failure.rowIndex < start || start + batch.rows.length ≤ failure.rowIndex ||
    batch.columns.length ≤ failure.columnIndex || failure.databaseType.isEmpty ||
    !decodeFailureCellIsConsistent number failure
      (batch.rows[failure.rowIndex - start]?.bind fun row => row[failure.columnIndex]?)

/-- The handle after one page more. -/
def retainedRows (state : SqlStreamViewState) (batch : SqlStreamBatch) : SqlStreamRowSource where
  operationId := some (state.rowSource.operationId.getD batch.operationId)
  capability := some (state.rowSource.capability.getD batch.resultCapability)
  pageRows := SQL_STREAM_MAX_ROWS_PER_BATCH
  pageRanges := state.rowSource.pageRanges ++
    [⟨batch.sequence, batch.rowStart.getD state.rowCount, batch.rows.length⟩]
  rowCount := state.rowCount + batch.rows.length
  complete := false

/-- The view after one page more. -/
def advancedView (state : SqlStreamViewState) (batch : SqlStreamBatch) : SqlStreamViewState :=
  { state with
    phase := .streaming
    operationId := some batch.operationId
    nextSequence := state.nextSequence + 1
    columns := if state.columns.length ≠ 0 then state.columns else batch.columns
    rowSource := retainedRows state batch
    rowCount := state.rowCount + batch.rows.length }

/-- Accept exactly the next bounded page. -/
def acceptSqlStreamBatch (state : SqlStreamViewState) (runId : Nat) (batch : SqlStreamBatch) :
    Option SqlStreamViewState :=
  if state.runId ≠ runId || !state.isOpen then none
  else if batch.sequence ≠ state.nextSequence ||
      batch.rowStart.getD state.rowCount ≠ state.rowCount ||
      -- only the first page may be empty
      (batch.rows.length = 0 && (batch.sequence ≠ 0 || state.rowCount ≠ 0)) ||
      SQL_STREAM_MAX_ROWS_PER_BATCH < batch.rows.length then none
  else if state.operationId.any fun operationId =>
      !operationId.isEmpty && operationId ≠ batch.operationId then none
  else if batch.rows.any fun row => row.length ≠ batch.columns.length then none
  else if (batch.decodeFailures.getD []).any
      (failureIsRefused number batch (batch.rowStart.getD state.rowCount)) then none
  else if state.columns.length ≠ 0 && state.columns ≠ batch.columns then none
  else if state.rowSource.operationId.getD batch.operationId ≠ batch.operationId ||
      state.rowSource.capability.getD batch.resultCapability ≠ batch.resultCapability ||
      batch.resultCapability.length ≠ 64 ||
      !batch.resultCapability.toList.all isCapabilityDigit then none
  else some (advancedView state batch)

end Accept

/-- Compare the receipt of a stream with the pages taken. -/
def finishSqlStream (state : SqlStreamViewState) (runId : Nat) (receipt : SqlStreamReceipt)
    (timings : Option SqlStreamTimings) : SqlStreamViewState :=
  if state.runId ≠ runId || !state.isOpen then state
  else if (state.operationId.any fun operationId => operationId ≠ receipt.operationId) ||
      state.rowCount ≠ receipt.rowCount then
    { state with
      phase := .outcomeUnknown
      error := some "stream completion receipt did not match accepted batches" }
  else
    { state with
      phase := .complete
      operationId := some receipt.operationId
      rowCount := receipt.rowCount
      truncated := receipt.truncated
      durationMs := some receipt.durationMs
      rowSource := { state.rowSource with rowCount := receipt.rowCount, complete := true }
      timings := timings.or state.timings }

/-! ## The pages of a view -/

/-- The rows of some pages. -/
def totalRows (batches : List SqlStreamBatch) : Nat := (batches.map (·.rows.length)).sum

/-- The pages tile the rows from `start` to `stop`. -/
def Tiles : Nat → List SqlStreamPageRange → Nat → Prop
  | start, [], stop => start = stop
  | start, range :: ranges, stop =>
      range.rowStart = start ∧ Tiles (start + range.rowCount) ranges stop

/-- The view shows these pages, in sequence, and no other row. -/
structure Consists (batches : List SqlStreamBatch) (view : SqlStreamViewState) : Prop where
  sequence : batches.map (·.sequence) = List.range batches.length
  rows : view.rowCount = totalRows batches
  ranges : view.rowSource.pageRanges.map (fun range => (range.sequence, range.rowCount)) =
    batches.map fun batch => (batch.sequence, batch.rows.length)
  tiles : Tiles 0 view.rowSource.pageRanges view.rowCount
  counted : view.phase ≠ .cancelled → view.nextSequence = batches.length

/-- The open view shows all these pages, of one operation. -/
structure Whole (batches : List SqlStreamBatch) (view : SqlStreamViewState) : Prop where
  consists : Consists batches view
  operation : view.operationId = view.rowSource.operationId
  owned : ∀ batch ∈ batches, view.operationId = some batch.operationId

/-- A receipt matches the pages of a view. -/
structure ReceiptMatches (receipt : SqlStreamReceipt) (batches : List SqlStreamBatch)
    (view : SqlStreamViewState) : Prop where
  operation : view.operationId = some receipt.operationId
  rows : view.rowCount = receipt.rowCount
  owned : ∀ batch ∈ batches, batch.operationId = receipt.operationId

/-- One page more at the end of a tiling. -/
theorem Tiles.append {start stop : Nat} {ranges : List SqlStreamPageRange}
    (h : Tiles start ranges stop) {range : SqlStreamPageRange} (hrange : range.rowStart = stop) :
    Tiles start (ranges ++ [range]) (stop + range.rowCount) := by
  induction ranges generalizing start with
  | nil =>
      cases h
      exact ⟨hrange, rfl⟩
  | cons first ranges ih => exact ⟨h.1, ih h.2⟩

/-- A view without pages shows none. -/
theorem Consists.of_empty {view : SqlStreamViewState} (hranges : view.rowSource.pageRanges = [])
    (hrows : view.rowCount = 0) (hcounted : view.phase ≠ .cancelled → view.nextSequence = 0) :
    Consists [] view where
  sequence := rfl
  rows := hrows
  ranges := by rw [hranges]; rfl
  tiles := by rw [hranges]; exact hrows.symm
  counted := hcounted

/-- A view with the same pages shows the same. -/
theorem Consists.congr {batches : List SqlStreamBatch} {view view' : SqlStreamViewState}
    (h : Consists batches view) (hranges : view'.rowSource.pageRanges = view.rowSource.pageRanges)
    (hrows : view'.rowCount = view.rowCount)
    (hcounted : view'.phase ≠ .cancelled → view'.nextSequence = batches.length) :
    Consists batches view' where
  sequence := h.sequence
  rows := hrows.trans h.rows
  ranges := by rw [hranges]; exact h.ranges
  tiles := by rw [hranges, hrows]; exact h.tiles
  counted := hcounted

/-- What an accepted page is, and what becomes of the view. -/
theorem accept_sql_stream_batch_some {number : String → Option Int}
    {state next : SqlStreamViewState} {runId : Nat} {batch : SqlStreamBatch}
    (h : acceptSqlStreamBatch number state runId batch = some next) :
    state.runId = runId ∧ state.isOpen = true ∧ batch.sequence = state.nextSequence ∧
      batch.rowStart.getD state.rowCount = state.rowCount ∧
      state.rowSource.operationId.getD batch.operationId = batch.operationId ∧
      next = advancedView state batch := by
  unfold acceptSqlStreamBatch at h
  split_ifs at h with howner hnext hoperation hwidth hfailures hcolumns hsource
  simp only [ne_eq, Bool.or_eq_true, decide_eq_true_eq, Bool.not_eq_true', not_or, not_not,
    Bool.not_eq_false] at howner hnext hsource
  exact ⟨howner.1, howner.2, hnext.1.1.1, hnext.1.1.2, hsource.1.1.1, (Option.some.inj h).symm⟩

/-- An accepted page is the next one of the view. -/
theorem Whole.accept {number : String → Option Int} {state next : SqlStreamViewState}
    {runId : Nat} {batch : SqlStreamBatch} {batches : List SqlStreamBatch}
    (h : Whole batches state) (haccept : acceptSqlStreamBatch number state runId batch = some next) :
    Whole (batches ++ [batch]) next := by
  obtain ⟨-, hopen, hsequence, hstart, hsource, rfl⟩ := accept_sql_stream_batch_some haccept
  have hphase : state.phase ≠ .cancelled := by
    intro hcancelled
    simp [SqlStreamViewState.isOpen, hcancelled] at hopen
  have hcount : state.nextSequence = batches.length := h.consists.counted hphase
  refine ⟨⟨?_, ?_, ?_, ?_, ?_⟩, ?_, ?_⟩
  · rw [List.map_append, h.consists.sequence, List.length_append, List.length_singleton,
      List.range_succ, List.map_singleton, hsequence, hcount]
  · show state.rowCount + _ = _
    simp [h.consists.rows, totalRows]
  · show (state.rowSource.pageRanges ++ [_]).map _ = _
    rw [List.map_append, h.consists.ranges, List.map_append]
    rfl
  · exact h.consists.tiles.append hstart
  · intro _
    show state.nextSequence + 1 = _
    rw [hcount, List.length_append, List.length_singleton]
  · show some batch.operationId = some (state.rowSource.operationId.getD batch.operationId)
    rw [hsource]
  · intro taken htaken
    show some batch.operationId = some taken.operationId
    rcases List.mem_append.mp htaken with hold | hnew
    · have howned := h.owned taken hold
      rw [h.operation] at howned
      rw [howned, Option.getD_some] at hsource
      rw [hsource]
    · rw [List.mem_singleton.mp hnew]

/-- A finished view shows the pages it took, and is complete only under a matching receipt. -/
theorem Whole.finish {state : SqlStreamViewState} {batches : List SqlStreamBatch}
    (h : Whole batches state) {runId : Nat} {receipt : SqlStreamReceipt}
    {timings : Option SqlStreamTimings} (hopen : state.isOpen = true) :
    Consists batches (finishSqlStream state runId receipt timings) ∧
      ((finishSqlStream state runId receipt timings).phase = .complete →
        ReceiptMatches receipt batches (finishSqlStream state runId receipt timings)) := by
  have hphase : state.phase ≠ .cancelled ∧ state.phase ≠ .complete := by
    unfold SqlStreamViewState.isOpen at hopen
    constructor <;> intro hp <;> simp [hp] at hopen
  have hcount : state.nextSequence = batches.length := h.consists.counted hphase.1
  unfold finishSqlStream
  split_ifs with howner hreceipt
  · exact ⟨h.consists, fun hcomplete => absurd hcomplete hphase.2⟩
  · exact ⟨h.consists.congr rfl rfl fun _ => hcount, fun hcomplete => nomatch hcomplete⟩
  · simp only [ne_eq, Bool.or_eq_true, Option.any_eq_true, decide_eq_true_eq, not_or, not_exists,
      not_and, not_not] at hreceipt
    refine ⟨h.consists.congr rfl hreceipt.2.symm fun _ => hcount, fun _ => ⟨rfl, rfl, ?_⟩⟩
    intro batch hbatch
    exact hreceipt.1 _ (h.owned batch hbatch)

end Dopedb.Desktop
