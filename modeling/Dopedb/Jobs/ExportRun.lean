import Dopedb.Jobs.ExportSink
import Dopedb.Library.Runs

/-!
# Runs of an export

`run_export` with the checks it makes when it goes on with an earlier run (`worker/export.rs`,
`worker/validation.rs`), on the partial file, the output file and the job's row. A move is one
stretch of the code, up to a point where it asks the database, the ledger or the file system for
something; between two moves the writer may put bytes of its buffer into the file, and the process
may stop. What the database answers, and whether the job was asked to stop, is the input of a move.
-/

namespace Dopedb.Jobs

open Dopedb.Library
open Dopedb.Operations (AppError)

/-- The most bytes of rows that one page of an export keeps. -/
def MAX_EXPORT_BATCH_BYTES : Nat := 16 * 1024 * 1024

/-- What an export reads from a snapshot of the catalog. -/
structure CatalogReader (σ : Type) where
  fingerprint : σ → String
  layout : σ → Except AppError ExportLayout

/-- The plan of an export, as `validate_plan` accepts it. -/
structure ExportPlan where
  format : JobFormat
  batchSize : Nat
  valid : 100 ≤ batchSize ∧ batchSize ≤ 10000

/-- A checkpoint of an export. -/
structure Checkpoint where
  sourceFingerprint : String
  targetFingerprint : String
  bytesProcessed : Nat
  rowsProcessed : Nat

/-- A run that has opened its sink. -/
structure ExportRun where
  source : String
  sink : ExportSink
  deriving DecidableEq

/-- Where a run is: it has opened its sink, it is about to ask for a page, it has rows to flush or
to record (after which it goes on or stops), or it is about to finish the file, to publish it, or to
record its success. -/
inductive ExportPoint where
  | opened | paging
  | flushing (stop : Bool)
  | recording (stop : Bool)
  | finishing | publishing | settling
  deriving DecidableEq

/-- What happens with a job: nothing, a run, or its end. -/
inductive ExportPhase where
  | idle
  | running (point : ExportPoint) (run : ExportRun)
  | succeeded
  | failed (error : AppError)
  deriving DecidableEq

/-- An export job: its files, its row with the latest checkpoint, the rows that its row counts, the
contents that were hashed, and what happens with it. -/
structure ExportJob where
  part : Option (List UInt8) := none
  output : Option (List UInt8) := none
  rowsProcessed : Nat := 0
  bytesProcessed : Nat := 0
  checkpoint : Option Checkpoint := none
  exported : List Row := []
  digested : List (List UInt8) := []
  phase : ExportPhase := .idle

/-- What a move learns from outside. -/
inductive ExportInput (σ : Type) where
  | begin (source : σ)
  | spill (bytes : Nat)
  | crash
  | proceed
  | refused (error : AppError)
  | cancelled
  | page (answer : List Row)
  | undecodable (error : AppError)

/-- A lowercase SHA-256 in hexadecimal. -/
def validSha256Fingerprint (value : String) : Bool :=
  value.utf8ByteSize = 64 && value.toList.all fun c => c.isDigit || ('a' ≤ c && c ≤ 'f')

/-- The bytes of a row that a page counts. -/
def rowBytes (platform : Platform) (row : Row) : Nat := (platform.jsonText (.arr row)).utf8ByteSize

/-- The rows of an answer up to a number of rows and of bytes, when this many are kept already. -/
def streamByteCapped (platform : Platform) (maxRows maxBytes kept retained : Nat) :
    List Row → Except AppError (List Row)
  | [] => .ok []
  | row :: rest =>
    if maxRows ≤ kept then .ok []
    else if maxBytes < rowBytes platform row then
      .error (.blocked ("one export row exceeds the " ++ (maxBytes / 1024 / 1024).repr ++
        " MiB batch safety limit"))
    else if maxBytes < retained + rowBytes platform row then .ok []
    else
      match streamByteCapped platform maxRows maxBytes (kept + 1)
          (retained + rowBytes platform row) rest with
      | .ok rows => .ok (row :: rows)
      | .error error => .error error

/-- A page of an answer: what LIMIT and OFFSET leave of it, up to the byte limit. -/
def fetchPage (platform : Platform) (plan : ExportPlan) (offset : Nat) (answer : List Row) :
    Except AppError (List Row) :=
  streamByteCapped platform plan.batchSize MAX_EXPORT_BATCH_BYTES 0 0
    ((answer.drop offset).take plan.batchSize)

/-- The checkpoint is of this source and of a target with this fingerprint. -/
def validateExportCheckpoint (checkpoint : Option Checkpoint) (source : String)
    (target : Option String) : Except AppError Unit :=
  match checkpoint with
  | none => .error (.blocked "resumable export has no durable checkpoint")
  | some checkpoint =>
    if checkpoint.sourceFingerprint ≠ source ∨ target ≠ some checkpoint.targetFingerprint then
      .error (.blocked "export source schema or partial output changed after the checkpoint")
    else .ok ()

/-- The checkpoint counts what the job's row counts. -/
def validateCheckpointCounters (checkpoint : Checkpoint) (job : ExportJob) : Except AppError Unit :=
  if checkpoint.rowsProcessed ≠ job.rowsProcessed ∨
      checkpoint.bytesProcessed ≠ job.bytesProcessed then
    .error (.blocked "job progress no longer matches its latest durable checkpoint")
  else .ok ()

namespace ExportJob

/-- The job fails. -/
def fail (job : ExportJob) (error : AppError) : ExportJob := { job with phase := .failed error }

/-- A run goes on at a point. -/
def goesTo (job : ExportJob) (point : ExportPoint) (run : ExportRun) : ExportJob :=
  { job with phase := .running point run }

/-- What a run checks of the runs before it, ahead of opening its sink. -/
def checkResume (files : FileFormats) (job : ExportJob) (source : String) :
    Except AppError Unit :=
  match job.checkpoint with
  | some checkpoint =>
    match validateCheckpointCounters checkpoint job with
    | .error error => .error error
    | .ok _ =>
      if job.rowsProcessed = 0 then
        match job.part with
        | none => .error (.config "partial output cannot be read")
        | some part =>
          validateExportCheckpoint (some checkpoint) source (some (lowerHex (files.sha256 part)))
      else .ok ()
  | none =>
    if 0 < job.rowsProcessed then
      .error (.blocked "resumable export has no durable checkpoint")
    else .ok ()

/-- A run begins: it checks the runs before it and opens its sink, and once more compares what the
sink found in the file. -/
def begin {σ : Type} (platform : Platform) (files : FileFormats) (catalog : CatalogReader σ)
    (plan : ExportPlan) (job : ExportJob) (source : σ) : ExportJob :=
  match catalog.layout source with
  | .error error => job.fail error
  | .ok layout =>
    let job := { job with digested := job.digested ++ [job.part.getD []] }
    match job.checkResume files (catalog.fingerprint source) with
    | .error error => job.fail error
    | .ok _ =>
      match ExportSink.open platform plan.format layout job.rowsProcessed job.exported job.part with
      | .error error => job.fail error
      | .ok (sink, part) =>
        let job := { job with part := some part }
        let run : ExportRun := ⟨catalog.fingerprint source, sink⟩
        if 0 < job.rowsProcessed then
          match validateExportCheckpoint job.checkpoint run.source (sink.fingerprint files) with
          | .error error => job.fail error
          | .ok _ => job.goesTo .opened run
        else job.goesTo .opened run

/-- `update_progress`: the guarded update of the row, with a checkpoint. -/
def updateProgress (job : ExportJob) (rows bytes : Nat) (checkpoint : Option Checkpoint) :
    Except AppError ExportJob :=
  if checkpoint.any fun checkpoint => !validSha256Fingerprint checkpoint.sourceFingerprint ||
      !validSha256Fingerprint checkpoint.targetFingerprint then
    .error (.config "job checkpoint fingerprints must be lowercase SHA-256")
  else if job.rowsProcessed ≤ rows ∧ job.bytesProcessed ≤ bytes then
    .ok { job with
      rowsProcessed := rows, bytesProcessed := bytes, checkpoint := checkpoint <|> job.checkpoint }
  else .error (.blocked "job stopped while progress was being recorded")

/-- Record what a run has written and flushed. -/
def record (files : FileFormats) (job : ExportJob) (run : ExportRun) : Except AppError ExportJob :=
  let bytes := (job.part.getD []).length
  let checkpoint := (run.sink.fingerprint files).map fun target =>
    (⟨run.source, target, bytes, run.sink.rowsWritten⟩ : Checkpoint)
  match job.updateProgress run.sink.rowsWritten bytes checkpoint with
  | .error error => .error error
  | .ok job =>
    .ok { job with
      exported := run.sink.rows, digested := job.digested ++ [run.sink.hashed] }

/-- The writer puts bytes of its buffer into the file. -/
def spill (job : ExportJob) (point : ExportPoint) (run : ExportRun) (bytes : Nat) : ExportJob :=
  if run.sink.format = .xlsx ∨ run.sink.format.compressed = true ∨ point = .publishing ∨
      point = .settling then job
  else
    { job with part := some (job.part.getD [] ++ run.sink.buffer.take bytes) }.goesTo point
      { run with sink := { run.sink with buffer := run.sink.buffer.drop bytes } }

/-- The rows of a page are given to the sink; without rows the export is finished. -/
def takePage (platform : Platform) (files : FileFormats) (plan : ExportPlan) (job : ExportJob)
    (run : ExportRun) (answer : List Row) : ExportJob :=
  match fetchPage platform plan run.sink.rowsWritten answer with
  | .error error => job.fail error
  | .ok [] => job.goesTo .finishing { run with sink := run.sink.finish }
  | .ok rows =>
    match run.sink.writeRows platform files rows with
    | (some error, _) => job.fail error
    | (none, sink) => job.goesTo (.flushing false) { run with sink := sink }

/-- What a run does at a point when nothing stands in its way. -/
def proceed (files : FileFormats) (job : ExportJob) (run : ExportRun) : ExportPoint → ExportJob
  | .opened => job.goesTo .paging run
  | .paging => job
  | .flushing stop =>
    { job with part := some (run.sink.flushed files (job.part.getD [])) }.goesTo (.recording stop)
      { run with sink := run.sink.flush }
  | .recording stop =>
    match job.record files run with
    | .error error => job.fail error
    | .ok job => if stop then { job with phase := .idle } else job.goesTo .paging run
  | .finishing =>
    { job with part := some (run.sink.finished files (job.part.getD [])) }.goesTo .publishing run
  | .publishing => { job with part := none, output := job.part }.goesTo .settling run
  | .settling =>
    match job.updateProgress run.sink.rowsWritten (job.output.getD []).length none with
    | .error error => job.fail error
    | .ok job => { job with phase := .succeeded }

end ExportJob

/-- Progress that is accepted is what the row says afterwards. -/
theorem update_progress_ok {job job' : ExportJob} {rows bytes : Nat}
    {checkpoint : Option Checkpoint} (h : job.updateProgress rows bytes checkpoint = .ok job') :
    job' = { job with
      rowsProcessed := rows, bytesProcessed := bytes, checkpoint := checkpoint <|> job.checkpoint } ∧
      job.rowsProcessed ≤ rows ∧ job.bytesProcessed ≤ bytes := by
  unfold ExportJob.updateProgress at h
  split at h
  · cases h
  · split at h
    · next hguard => exact ⟨(Except.ok.inj h).symm, hguard⟩
    · cases h

section Machine

variable {σ : Type} (platform : Platform) (files : FileFormats) (catalog : CatalogReader σ)
  (plan : ExportPlan)

/-- A move of an export job. An input that does not fit where the job is changes nothing. -/
def exportStep (job : ExportJob) (input : ExportInput σ) : ExportJob :=
  match job.phase, input with
  | .idle, .begin source => job.begin platform files catalog plan source
  | .running point run, .spill bytes => job.spill point run bytes
  | .running _ _, .crash => { job with phase := .idle }
  | .running _ _, .refused error => job.fail error
  | .running point run, .proceed => job.proceed files run point
  -- A run that was asked to stop flushes and records what it has.
  | .running .opened run, .cancelled | .running .paging run, .cancelled =>
    job.goesTo (.flushing true) run
  | .running .paging run, .page answer => job.takePage platform files plan run answer
  -- A cell that cannot be decoded costs the partial file.
  | .running .paging _, .undecodable error => { job with part := none }.fail error
  | _, _ => job

/-- A job after its moves. -/
def exported (moves : List (ExportInput σ)) : ExportJob :=
  run (exportStep platform files catalog plan) {} moves

end Machine

end Dopedb.Jobs
