import Mathlib
import Dopedb.Library.Transaction
import Dopedb.Operations.Projection

/-!
# The operation repository

The functions of `operations/repository/`. Each of them takes the write lock, runs one SQLite
transaction and commits it, so a call is one step on the store. Fresh UUIDs and the clock are
arguments. A `Tx` that answers `.error` was committed before it refused: these are the expiry
transitions of `claimExecution` and `decideApproval`.
-/

namespace Dopedb.Operations

open Library OperationState
open Library.Tx (require read write fail lift)

/-- A transaction of the repository. -/
abbrev RepoTx (α : Type) := Tx AppError Store α

/-! ## Statements -/

namespace Store

/-- `UPDATE operations SET ... WHERE id = id AND guard`, when it affects a row. -/
def updateOperation (id : Uuid) (guard : OperationRow → Bool) (f : OperationRow → OperationRow)
    (hf : ∀ r : OperationRow, (f r).key = r.key) (s : Store) : Option Store :=
  (s.operations.updateWhere id guard f hf).map fun operations => { s with operations }

/-- `INSERT INTO operations`. -/
def insertOperation (row : OperationRow) (s : Store) : Option Store :=
  (s.operations.insert row).map fun operations => { s with operations }

/-- `INSERT INTO operation_approvals`. -/
def insertApproval (row : ApprovalRow) (s : Store) : Option Store :=
  (s.approvals.insert row).map fun approvals => { s with approvals }

/-- `INSERT INTO operation_events`. -/
def insertEvent (row : EventRow) (s : Store) : Option Store :=
  (s.events.insert row).map fun events => { s with events }

/-- The events of one operation in sequence order. -/
def eventsOf (s : Store) (operationId : Uuid) : List EventRow :=
  (s.events.rows.filter fun e => e.operationId = operationId).insertionSort fun a b =>
    a.sequence ≤ b.sequence

/-- The event of one operation with the greatest sequence. -/
def tail (s : Store) (operationId : Uuid) : Option EventRow := (s.eventsOf operationId).getLast?

end Store

/-- The columns a transition sets. -/
def OperationRow.advance (target : OperationState) (now : DateTime) (row : OperationRow) :
    OperationRow :=
  { row with
    state := target
    updatedAt := now
    startedAt := if target = executing then some now else row.startedAt
    finishedAt := if target.isTerminal then some now else row.finishedAt }

/-- The columns a rebind sets. -/
def OperationRow.reown (runtimeId : Uuid) (now : DateTime) (row : OperationRow) : OperationRow :=
  { row with runtimeId := runtimeId, updatedAt := now }

/-- The expiry instant is absent or later than `now`. -/
def unexpired (expiresAt : Option DateTime) (now : DateTime) : Bool :=
  match expiresAt with
  | none => true
  | some expiry => decide (now < expiry)

/-- The name of a state in a transition error. -/
def debugName : OperationState → String
  | planned => "Planned"
  | pendingApproval => "PendingApproval"
  | ready => "Ready"
  | approved => "Approved"
  | rejected => "Rejected"
  | expired => "Expired"
  | cancelled => "Cancelled"
  | executing => "Executing"
  | succeeded => "Succeeded"
  | failed => "Failed"
  | outcomeUnknown => "OutcomeUnknown"

/-- The refusal of a transition that is not allowed. -/
def transitionError (source target : OperationState) : AppError :=
  operationConflict ("operation cannot transition from " ++ debugName source ++ " to " ++
    debugName target)

/-- The greatest sequence number, `i64::MAX`. -/
def maxSequence : Int := 2 ^ 63 - 1

/-- The sequence and the predecessor's hash of the event after `tail`. -/
def nextLink (tail : Option EventRow) : Except AppError (Int × Option String) :=
  match tail with
  | some event =>
    if event.sequence + 1 ≤ maxSequence then .ok (event.sequence + 1, some event.hash)
    else .error (.config "operation event sequence overflowed")
  | none => .ok (1, none)

section
variable (platform : Platform)

/-! ## Transaction primitives -/

/-- Load one operation by id. -/
def fetchOperationTx (operationId : Uuid) : RepoTx OperationRecord := do
  let s ← read
  match s.operations.find? operationId with
  | none => fail (.notFound ("operation " ++ operationId.text))
  | some row => lift (rowToOperation platform row)

/-- The operation belongs to the calling runtime. -/
def ensureRuntime (operation : OperationRecord) (runtimeId : Uuid) : RepoTx PUnit :=
  require (operation.runtimeId = runtimeId)
    (operationConflict "the operation belongs to a previous application runtime")

/-- The event row that is appended after `link`. -/
def eventRow (eventId operationId : Uuid) (kind : OperationEventKind) (state : OperationState)
    (details : Json) (createdAt : DateTime) (link : Int × Option String) : EventRow :=
  { id := eventId
    operationId := operationId
    sequence := link.1
    kind := kind
    state := state
    eventJson := canonicalJson platform details
    createdAt := createdAt
    prevHash := link.2
    hash := eventHash platform
      { eventId, operationId, sequence := link.1, kind, state,
        eventJson := canonicalJson platform details, createdAt, prevHash := link.2 } }

/-- Append one event after the operation's tail. -/
def appendEventTx (eventId operationId : Uuid) (kind : OperationEventKind)
    (state : OperationState) (details : Json) (createdAt : DateTime) : RepoTx PUnit := do
  require ((canonicalJson platform details).utf8ByteSize ≤ MAX_RESPONSE_BYTES)
    (.config "operation event details exceed the local control-message limit")
  let s ← read
  let link ← lift (nextLink (s.tail operationId))
  write (Store.insertEvent
    (eventRow platform eventId operationId kind state details createdAt link))
    (.db "operation event is not unique")

/-- Change the state of one operation by compare-and-swap and record it in the ledger. -/
def transitionTx (current : OperationRecord) (target : OperationState) (details : Json)
    (now : DateTime) (eventId : Uuid) : RepoTx OperationRecord := do
  require (Allowed current.state target) (transitionError current.state target)
  write (Store.updateOperation current.id
    (fun row => row.state = current.state && row.payloadHash = current.payloadHash &&
      -- the update compares the expiry again, for the row may have changed since it was read
      (target ≠ executing || unexpired row.expiresAt now))
    (OperationRow.advance target now) (fun _ => rfl))
    (operationConflict "the operation state changed before it could be updated")
  appendEventTx platform eventId current.id (transitionEventKind target) target details now
  fetchOperationTx platform current.id

/-! ## Planning -/

/-- The operation that already holds the idempotency key. -/
def findByIdempotencyKey (s : Store) (operation : NewOperation) : Option OperationRow :=
  s.operations.rows.find? fun row =>
    row.workspaceId = operation.workspaceId && row.actorKind = operation.actor.kind &&
      row.actorId = operation.actor.id && row.idempotencyKey = operation.idempotencyKey

/-- Persist a plan, or return the stored one when the same plan is repeated. -/
def insertPlanned (runtimeId : Uuid) (operation : NewOperation) (createdAt : DateTime)
    (eventId : Uuid) : RepoTx (Except AppError OperationRecord) := do
  let prepared ← lift (PreparedOperation.new platform runtimeId operation)
  let s ← read
  match findByIdempotencyKey s operation with
  | some row =>
    -- the same plan under the same key is the stored operation
    let existing ← lift (rowToOperation platform row)
    require (prepared.matches existing = true) (operationConflict
      "the idempotency key is already bound to a different immutable operation")
    pure (.ok existing)
  | none =>
    write (Store.insertOperation (prepared.toRow createdAt)) (.db "operation id is not unique")
    appendEventTx platform eventId operation.id .planned planned
      (.obj [("payloadHash", .str prepared.payload.sha256),
        ("riskLevel", .str (riskLevelStr operation.riskLevel))]) createdAt
    let record ← fetchOperationTx platform operation.id
    pure (.ok record)

/-! ## Lifecycle -/

/-- Move a state other than into `executing`. -/
def transition (operationId runtimeId : Uuid) (target : OperationState) (details : Json)
    (now : DateTime) (eventId : Uuid) : RepoTx (Except AppError OperationRecord) := do
  require (target ≠ executing)
    (.config "execution must be entered through the atomic claim API")
  let current ← fetchOperationTx platform operationId
  ensureRuntime current runtimeId
  let updated ← transitionTx platform current target details now eventId
  pure (.ok updated)

/-- Whether the approvals hold a current exact approval of the operation. -/
def hasExactApproval (s : Store) (current : OperationRecord) (now : DateTime) : Bool :=
  s.approvals.rows.any fun approval =>
    approval.operationId = current.id && approval.payloadHash = current.payloadHash &&
      approval.decision = .approved && approval.policyRevision = current.policyRevision &&
      unexpired approval.expiresAt now

/-- An approved operation has a current exact approval; other states need none. -/
def requireExactApproval (current : OperationRecord) (now : DateTime) : RepoTx PUnit := do
  let s ← read
  require (current.state = approved → hasExactApproval s current now = true)
    (operationConflict "the operation has no current exact approval")

/-- Claim the exact stored payload for execution. -/
def claimExecution (operationId runtimeId : Uuid) (now : DateTime) (eventId : Uuid) :
    RepoTx (Except AppError OperationRecord) := do
  let current ← fetchOperationTx platform operationId
  ensureRuntime current runtimeId
  require (current.state = ready ∨ current.state = approved)
    (operationConflict "the operation is not in an executable state")
  require (¬(current.state = ready ∧ current.kind.mayMutateTarget = true)) (operationConflict
    "a target-mutating operation cannot execute without exact approval")
  -- the expiry is recorded although the claim is refused
  if unexpired current.expiresAt now = false then
    let _ ← transitionTx platform current expired
      (.obj [("reason", .str "operation_expired")]) now eventId
    pure (.error (operationConflict "the operation has expired"))
  else
    requireExactApproval current now
    let updated ← transitionTx platform current executing
      (.obj [("payloadHash", .str current.payloadHash)]) now eventId
    pure (.ok updated)

/-- Change the runtime that owns a live operation and record it as progress. The members of the
family differ in the operations they accept, in the note they record and in their refusals. -/
def rebind (accepts : OperationRecord → Bool) (rowGuard : OperationRow → Bool)
    (refusal changed lost : String) (note : String × Json) (operationId runtimeId : Uuid)
    (expectedPayloadHash : String) (now : DateTime) (eventId : Uuid) :
    RepoTx (Except AppError OperationRecord) := do
  let current ← fetchOperationTx platform operationId
  require (accepts current = true) (operationConflict refusal)
  require (current.payloadHash = expectedPayloadHash) (operationConflict changed)
  write (Store.updateOperation operationId
    (fun row => row.state = current.state && rowGuard row &&
      row.payloadHash = expectedPayloadHash)
    (OperationRow.reown runtimeId now) (fun _ => rfl)) (operationConflict lost)
  -- the state stays as it is; only the owner changes
  appendEventTx platform eventId operationId .progress current.state
    (.obj [note, ("previousRuntimeId", .str current.runtimeId.text),
      ("runtimeId", .str runtimeId.text)]) now
  let rebound ← fetchOperationTx platform operationId
  pure (.ok rebound)

/-- Rebind an executing resumable job after its checkpoint was validated. -/
def rebindResumableExecution : Uuid → Uuid → String → DateTime → Uuid →
    RepoTx (Except AppError OperationRecord) :=
  rebind platform (fun current => current.state = executing && current.kind.isResumableJob)
    (fun _ => true)
    "only an executing resumable job can reclaim its operation"
    "the resumable job payload hash changed before reclaim"
    "resumable job operation changed during reclaim"
    ("checkpointValidated", .bool true)

/-- Rebind an executing provider action after its receipt was validated. -/
def rebindProviderExecution : Uuid → Uuid → String → DateTime → Uuid →
    RepoTx (Except AppError OperationRecord) :=
  rebind platform (fun current => current.state = executing && current.kind = .providerAction)
    (fun row => row.kind = .providerAction)
    "only an executing provider action can reclaim its operation"
    "the provider action payload hash changed before reclaim"
    "provider action changed during checkpoint reclaim"
    ("provisioningCheckpointValidated", .bool true)

/-- Rebind a persisted import or export plan that never started. -/
def rebindPendingJob : Uuid → Uuid → String → DateTime → Uuid →
    RepoTx (Except AppError OperationRecord) :=
  rebind platform
    (fun current => current.kind.isResumableJob && (current.state = pendingApproval ||
      current.state = ready || current.state = approved))
    (fun _ => true)
    "only a queued import/export plan can change runtime owner"
    "the queued job payload hash changed before reclaim"
    "queued job operation changed during reclaim"
    ("pendingJobRebound", .bool true)

/-- Transfer the process owner of a durably paused job. -/
def rebindPausedJob : Uuid → Uuid → String → DateTime → Uuid →
    RepoTx (Except AppError OperationRecord) :=
  rebind platform (fun current => current.state = executing && current.kind.isResumableJob)
    (fun _ => true)
    "only an executing paused job can change runtime owner"
    "the paused job payload hash changed before runtime transfer"
    "paused job operation changed during runtime transfer"
    ("checkpointValidation", .str "pending")

/-- Close an interrupted provider action whose receipt cannot be validated. -/
def quarantineProviderExecution (operationId runtimeId : Uuid) (expectedPayloadHash reason : String)
    (now : DateTime) (eventId : Uuid) : RepoTx (Except AppError OperationRecord) := do
  let current ← fetchOperationTx platform operationId
  require (current.state = executing ∧ current.kind = .providerAction ∧
      current.payloadHash = expectedPayloadHash)
    (operationConflict "only the exact interrupted provider action can be quarantined")
  write (Store.updateOperation operationId
    (fun row => row.state = executing && row.kind = .providerAction &&
      row.payloadHash = expectedPayloadHash)
    (OperationRow.reown runtimeId now) (fun _ => rfl))
    (operationConflict "provider action changed during quarantine")
  let rebound ← fetchOperationTx platform operationId
  let quarantined ← transitionTx platform rebound outcomeUnknown
    (.obj [("reason", .str reason)]) now eventId
  pure (.ok quarantined)

/-! ## Progress -/

/-- Record progress of an executing operation. -/
def appendProgress (operationId runtimeId : Uuid) (details : Json) (now : DateTime)
    (eventId : Uuid) : RepoTx (Except AppError PUnit) := do
  let current ← fetchOperationTx platform operationId
  ensureRuntime current runtimeId
  require (current.state = executing)
    (operationConflict "progress can only be recorded for an executing operation")
  appendEventTx platform eventId operationId .progress current.state details now
  pure (.ok ⟨⟩)

/-! ## Approval -/

/-- Only an identified person can approve. -/
def identifiedPerson (approver : OperationApprover) : Bool :=
  (approver.kind = .localUser || approver.kind = .workspaceUser) && !isBlank approver.id

/-- The approval row of one decision. -/
def approvalRow (command : OperationApprovalCommand) (current : OperationRecord)
    (approvalId : Uuid) : ApprovalRow :=
  { id := approvalId
    operationId := current.id
    payloadHash := current.payloadHash
    approverKind := command.approver.kind
    approverId := command.approver.id
    decision := command.decision
    reason := command.reason
    policyRevision := current.policyRevision
    createdAt := command.now
    expiresAt := current.expiresAt }

/-- The state a decision leads to. -/
def decisionTarget : OperationApprovalDecision → OperationState
  | .approved => approved
  | .rejected => rejected

/-- Record one exact decision with its transition. -/
def decideApproval (command : OperationApprovalCommand) (approvalId eventId : Uuid) :
    RepoTx (Except AppError OperationRecord) := do
  require (identifiedPerson command.approver = true) (operationConflict
    "only an identified local or workspace user can approve an operation")
  require ((command.reason.any fun reason => MAX_REQUEST_BYTES < reason.utf8ByteSize) = false)
    (.config "operation approval reason exceeds the local control-message limit")
  let current ← fetchOperationTx platform command.operationId
  ensureRuntime current command.runtimeId
  require (current.state = pendingApproval)
    (operationConflict "the operation is not awaiting an approval decision")
  require (current.payloadHash = command.expectedPayloadHash)
    (operationConflict "the reviewed payload hash does not match the stored operation")
  require (current.policyRevision = command.currentPolicyRevision)
    (operationConflict "the active safety policy changed after the operation was planned")
  if unexpired current.expiresAt command.now = false then
    let _ ← transitionTx platform current expired
      (.obj [("reason", .str "approval_expired")]) command.now eventId
    pure (.error (operationConflict "the operation has expired"))
  else
    write (Store.insertApproval (approvalRow command current approvalId))
      (.db "operation approval id is not unique")
    let updated ← transitionTx platform current (decisionTarget command.decision)
      (.obj [("approvalId", .str approvalId.text),
        ("approverId", .str command.approver.id),
        ("approverKind", .str (actorKindStr command.approver.kind)),
        ("payloadHash", .str current.payloadHash),
        ("policyRevision", .str current.policyRevision)]) command.now eventId
    pure (.ok updated)

/-! ## Restart recovery -/

/-- Recover the listed operations in order, collecting the report. The clock and the fresh event
ids are given by operation. -/
def recoverRows (clock : Uuid → DateTime) (eventIds : Uuid → Uuid) :
    List OperationRow → RestartRecoveryReport → RepoTx RestartRecoveryReport
  | [], report => pure report
  | row :: rest, report => do
    let operation ← lift (rowToOperation platform row)
    let id := operation.id
    match restartRecovery operation.kind operation.state with
    | .keepTerminal => recoverRows clock eventIds rest report
    | .expire =>
      let _ ← transitionTx platform operation expired
        (.obj [("reason", .str "runtime_restarted")]) (clock id) (eventIds id)
      recoverRows clock eventIds rest { report with expired := report.expired ++ [id] }
    | .markFailed =>
      let _ ← transitionTx platform operation failed
        (.obj [("reason", .str "runtime_interrupted_before_receipt")]) (clock id) (eventIds id)
      recoverRows clock eventIds rest { report with failed := report.failed ++ [id] }
    | .outcomeUnknown =>
      let _ ← transitionTx platform operation outcomeUnknown
        (.obj [("reason", .str "target_commit_status_unknown_after_restart")])
        (clock id) (eventIds id)
      recoverRows clock eventIds rest
        { report with outcomeUnknown := report.outcomeUnknown ++ [id] }
    | .validateJobCheckpoint =>
      recoverRows clock eventIds rest { report with
        checkpointValidationRequired := report.checkpointValidationRequired ++ [id] }
    | .validateProvisioningCheckpoint =>
      recoverRows clock eventIds rest { report with
        provisioningCheckpointValidationRequired :=
          report.provisioningCheckpointValidationRequired ++ [id] }

/-- The live operations of other runtimes, oldest first. -/
def previousRuntimeRows (s : Store) (currentRuntimeId : Uuid) : List OperationRow :=
  (s.operations.rows.filter fun row =>
    row.runtimeId ≠ currentRuntimeId && !row.state.isTerminal).insertionSort fun a b =>
      a.createdAt < b.createdAt ∨ a.createdAt = b.createdAt ∧ a.id.text ≤ b.id.text

/-- Recover only operations owned by older runtimes. -/
def recoverPreviousRuntimes (currentRuntimeId : Uuid) (clock : Uuid → DateTime)
    (eventIds : Uuid → Uuid) : RepoTx (Except AppError RestartRecoveryReport) := do
  let s ← read
  let report ← recoverRows platform clock eventIds (previousRuntimeRows s currentRuntimeId)
    ⟨[], [], [], [], []⟩
  pure (.ok report)

/-! ## Reading the ledger -/

/-- Load one operation. -/
def get (s : Store) (operationId : Uuid) : Except AppError OperationRecord :=
  match s.operations.find? operationId with
  | none => .error (.notFound ("operation " ++ operationId.text))
  | some row => rowToOperation platform row

/-- Load the events of one operation in sequence order. -/
def events (s : Store) (operationId : Uuid) : Except AppError (List OperationEventRecord) :=
  (s.eventsOf operationId).mapM (rowToEvent platform)

/-- The fields of a loaded event that its hash covers. -/
def OperationEventRecord.hashInput (event : OperationEventRecord) : EventHashInput :=
  { eventId := event.id
    operationId := event.operationId
    sequence := event.sequence
    kind := event.kind
    state := event.state
    eventJson := canonicalJson platform event.details
    createdAt := event.createdAt
    prevHash := event.prevHash }

/-- Verify the events from position `index` on, after an event whose hash is `previousHash`. -/
def verifyEvents (index : Nat) (previousHash : Option String) :
    List OperationEventRecord → Bool
  | [] => true
  | event :: rest =>
    if event.sequence ≠ (index : Int) + 1 ∨ event.prevHash ≠ previousHash ∨
        (index = 0 ∧ (event.kind ≠ .planned ∨ event.state ≠ planned)) then false
    else if eventHash platform (event.hashInput platform) ≠ event.hash then false
    else verifyEvents (index + 1) (some event.hash) rest

/-- Verify sequence continuity, every hash link and the agreement between the ledger's tail and
the projection. -/
def verifyEventChain (s : Store) (operationId : Uuid) : Except AppError Bool := do
  let projection ← get platform s operationId
  let events ← events platform s operationId
  if events.isEmpty then .ok false
  else if verifyEvents platform 0 none events then
    .ok (events.getLast?.any fun event => event.state = projection.state)
  else .ok false

end

end Dopedb.Operations
