import Dopedb.Library.JsonText
import Dopedb.Platform

/-!
# Pages of a streamed read

`DesktopSqlStreamBatch` of `queries/domain.rs`, one bounded page of a read result, with its JSON
form and the errors of the stream that carries it.
-/

namespace Dopedb.Queries

open Library

abbrev OperationId := Uuid

/-- A cell that could not be decoded, or was shortened. -/
structure CellDecodeFailure where
  rowIndex : Nat
  columnIndex : Nat
  databaseType : String
  deriving DecidableEq

/-- One page of a read result. -/
structure DesktopSqlStreamBatch where
  operationId : OperationId
  sequence : Nat
  rowStart : Nat
  columns : List String
  rows : List (List Json)
  decodeFailures : List CellDecodeFailure
  deriving DecidableEq

/-- The bytes that one page may have. -/
def DESKTOP_STREAM_BATCH_MAX_BYTES : Nat := 512 * 1024

/-- A failure as JSON. -/
def CellDecodeFailure.toJson (failure : CellDecodeFailure) : Json :=
  .obj [("rowIndex", .int failure.rowIndex), ("columnIndex", .int failure.columnIndex),
    ("databaseType", .str failure.databaseType)]

/-- A page as JSON. Failures are left out when there are none. -/
def DesktopSqlStreamBatch.toJson (batch : DesktopSqlStreamBatch) : Json :=
  .obj ([("operationId", .str batch.operationId.text), ("sequence", .int batch.sequence),
    ("rowStart", .int batch.rowStart), ("columns", .arr (batch.columns.map .str)),
    ("rows", .arr (batch.rows.map .arr))] ++
    if batch.decodeFailures.isEmpty then []
    else [("decodeFailures", .arr (batch.decodeFailures.map CellDecodeFailure.toJson))])

/-- The serialized page. -/
def DesktopSqlStreamBatch.encoded (batch : DesktopSqlStreamBatch) : List UInt8 :=
  textBytes batch.toJson.render

/-- A page is within its wire limits. -/
def DesktopSqlStreamBatch.fits (batch : DesktopSqlStreamBatch) : Bool :=
  batch.rows.length ≤ 256 && batch.encoded.length ≤ DESKTOP_STREAM_BATCH_MAX_BYTES

/-- The errors of a stream. -/
inductive DesktopSqlStreamSinkError where
  | receiverDropped
  | acknowledgementTimedOut
  | streamAlreadyActive
  | streamNotActive
  | invalidAcknowledgement
  | batchTooLarge
  | cancelled
  | resultStoreUnavailable
  | resultReceiptMismatch
  deriving DecidableEq, Repr

end Dopedb.Queries
