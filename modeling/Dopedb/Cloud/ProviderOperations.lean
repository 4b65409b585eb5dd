import Dopedb.Cloud.ProviderRecords
import Dopedb.Library.AtomicBatch
import Dopedb.Library.Runs

/-!
# Provider operations

The durable steps of a provider operation, from `provider-operation-plan.ts`,
`provider-operation-execution.ts`, `provider-operation-reconciliation.ts`,
`provider-operation-switch.ts` and `provider-operation-bootstrap.ts`: each as the checks of its input
and the batch it issues. The tables are those of one workspace; audit rows are left out.
-/

namespace Dopedb.Cloud

open Library

/-- The tables of one workspace. -/
structure ProviderStore where
  directory : Directory
  tables : ConnectionTables := {}
  operations : List ProviderOperation := []
  approvals : List ProviderOperationApproval := []
  now : Nat := 0
  deriving DecidableEq

namespace ProviderStore

/-! ## Authority -/

/-- `providerMutationAuthoritySql` with `requireManager`: a live manager, and the integration at the
generation of the request without a claimed gate. -/
def managerAuthority (store : ProviderStore) (identity : ProviderOperationExecutionIdentity) :
    Bool :=
  (store.directory.workspaceMemberAuthority store.now identity.authority managerRoles).isSome &&
    store.tables.integrations.any fun integration =>
      integration.id = identity.integrationId && integration.provider = "neon" &&
        integration.generation = identity.integrationGeneration &&
        integration.revocationClaimId.isNone

/-- A session and a member that are both still there, the member in the same managing role. -/
def liveManager (store : ProviderStore) (sessionId userId memberId role : String) : Bool :=
  store.directory.liveSession store.now sessionId userId &&
    (store.directory.liveMember memberId userId role managerRoles).isSome

/-- The requester of an operation is still there. -/
def requesterLive (store : ProviderStore) (operation : ProviderOperation) : Bool :=
  store.liveManager operation.requestedBySessionId operation.requestedByUserId
    operation.requestedByMemberId operation.requestedByRole

/-- An approval of exactly the operation's plan, from someone still there who may approve it. -/
def approves (store : ProviderStore) (operation : ProviderOperation)
    (approval : ProviderOperationApproval) : Bool :=
  approval.operationId = operation.id && approval.planHash = operation.planHash &&
    approval.decision = .approved &&
    store.liveManager approval.actorSessionId approval.actorUserId approval.actorMemberId
      approval.actorRole &&
    (operation.approvalPolicy ≠ "separate_admin" ||
      (approval.actorMemberId ≠ operation.requestedByMemberId &&
        approval.actorUserId ≠ operation.requestedByUserId))

/-- `currentExecutionAuthoritySql`. -/
def currentExecutionAuthority (store : ProviderStore)
    (identity : ProviderOperationExecutionIdentity) (operation : ProviderOperation) : Bool :=
  store.managerAuthority identity && store.requesterLive operation &&
    store.approvals.any (store.approves operation)

/-- The operation with an id. -/
def findOperation (store : ProviderStore) (id : String) : Option ProviderOperation :=
  store.operations.find? fun operation => operation.id = id

/-- The operation that an identity names in every column. -/
def identified (store : ProviderStore) (identity : ProviderOperationExecutionIdentity) :
    Option ProviderOperation :=
  (store.findOperation identity.operationId).filter fun operation =>
    operation.integrationId = identity.integrationId && operation.kind = identity.kind &&
      operation.integrationGeneration = identity.integrationGeneration &&
      operation.planHash = identity.planHash &&
      operation.ownershipMarker = identity.ownershipMarker

/-- A new operation, or the constraint that it violates. -/
def insertRow (store : ProviderStore) (operation : ProviderOperation) :
    Except OperationAbort ProviderStore :=
  if store.operations.any fun old => old.id = operation.id then
    .error (.constraint "workspace_provider_operation.id")
  else if store.operations.any fun old => old.idempotencyKey = operation.idempotencyKey then
    .error (.constraint "provider_operation_org_idempotency_idx")
  else
    match operation.violation with
    | some constraint => .error (.constraint constraint)
    | none => .ok { store with operations := store.operations ++ [operation] }

/-- The operation with an id is rewritten, or the constraint that its new row violates. -/
def updateRow (store : ProviderStore) (id : String)
    (change : ProviderOperation → ProviderOperation) : Except OperationAbort ProviderStore :=
  match (store.findOperation id).bind fun operation => (change operation).violation with
  | some constraint => .error (.constraint constraint)
  | none => .ok { store with
      operations := store.operations.map fun operation =>
        if operation.id = id then change operation else operation }

/-! ## Plans -/

/-- The input of `recordProviderOperationPlan`. -/
structure PlanRecording extends ProviderOperationExecutionIdentity where
  idempotencyKey : String
  requestHash : String
  plan : Json
  now : Nat
  deriving DecidableEq

/-- The checks of `recordProviderOperationPlan`. -/
def assertPlanRecording (context : ProviderContext) (input : PlanRecording) :
    Except OperationAbort Unit :=
  match assertPlan context input.toProviderOperationExecutionIdentity input.plan with
  | .error abort => .error abort
  | .ok _ =>
    if isSha256Hex input.requestHash && validPlanPolicy input.plan &&
        planKind input.plan = some input.kind &&
        textAt input.plan ["expiresAt"] = some (toISOString (input.now + 600000)) then .ok ()
    else .error (.invalid "Invalid provider operation plan")

/-- What a plan is recorded under: the id of its operation, and whether that is new. -/
structure PlanSlot where
  id : String
  created : Bool
  deriving DecidableEq

/-- The slot of a plan that its actor may record. -/
def recordScope (input : PlanRecording) (store : ProviderStore) : Option PlanSlot :=
  let existing := store.operations.find? fun operation =>
    operation.idempotencyKey = input.idempotencyKey
  let available := store.tables.integrations.any fun integration =>
    integration.id = input.integrationId && integration.provider = "neon" &&
      integration.generation = input.integrationGeneration && integration.status = "active" &&
      integration.refreshPhase = "idle" && integration.revokedAt.isNone &&
      integration.revocationPendingAt.isNone && integration.revocationClaimId.isNone
  if available && store.managerAuthority input.toProviderOperationExecutionIdentity &&
      -- a key that was used before stands for the same request only
      existing.all (fun operation =>
        operation.requestHash = input.requestHash && operation.kind = input.kind &&
          operation.integrationId = input.integrationId &&
          operation.integrationGeneration = input.integrationGeneration) then
    some {
      id := (existing.map (·.id)).getD input.operationId
      created := existing.isNone }
  else none

/-- The operation that a plan starts as. -/
def plannedRow (input : PlanRecording) : ProviderOperation :=
  let (projectId, sourceResourceId, targetName) := providerOperationPlanStorage input.plan
  { id := input.operationId
    integrationId := input.integrationId
    integrationGeneration := input.integrationGeneration
    kind := input.kind
    idempotencyKey := input.idempotencyKey
    requestHash := input.requestHash
    planHash := input.planHash
    planExpiresAt := input.now + 600000
    risk := (textAt input.plan ["risk"]).getD ""
    approvalPolicy := (textAt input.plan ["approvalPolicy"]).getD ""
    requestedByMemberId := input.authority.membershipId
    requestedByUserId := input.authority.userId
    requestedBySessionId := input.authority.sessionId
    requestedByRole := input.authority.role
    resourceScope := projectId
    sourceResourceId
    targetName
    ownershipMarker := input.ownershipMarker
    redactedPlan := input.plan
    createdAt := input.now
    updatedAt := input.now }

/-- A new plan is recorded. -/
def insertPlan (input : PlanRecording) : Statement OperationAbort ProviderStore PlanSlot
  | none, store => .ok store
  | some slot, store => if slot.created then store.insertRow (plannedRow input) else .ok store

/-- `recordProviderOperationPlan`, with the row that it answers with. -/
def recordProviderOperationPlan (context : ProviderContext) (input : PlanRecording)
    (store : ProviderStore) : Except OperationAbort (ProviderStore × Option ProviderOperation) :=
  match assertPlanRecording context input with
  | .error abort => .error abort
  | .ok _ =>
    match runBatch (recordScope input) [insertPlan input] store with
    | .error abort => .error abort
    | .ok (after, slot) => .ok (after, slot.bind fun found => after.findOperation found.id)

/-! ## Decisions -/

/-- The input of `decideProviderOperation`, with the id of the approval. -/
structure OperationDecision extends ProviderOperationExecutionIdentity where
  decision : ProviderOperationDecision
  approvalId : String
  now : Nat
  deriving DecidableEq

/-- The same actor's same decision on the same plan. -/
def sameDecision (input : OperationDecision) (approval : ProviderOperationApproval) : Bool :=
  approval.planHash = input.planHash && approval.decision = input.decision &&
    approval.actorMemberId = input.authority.membershipId &&
    approval.actorUserId = input.authority.userId &&
    approval.actorSessionId = input.authority.sessionId &&
    approval.actorRole = input.authority.role

/-- The approvals of an operation. -/
def approvalsOf (store : ProviderStore) (id : String) : List ProviderOperationApproval :=
  store.approvals.filter fun approval => approval.operationId = id

/-- Whether the decision is new, when its actor may make it. -/
def decideScope (input : OperationDecision) (store : ProviderStore) : Option Bool :=
  match store.identified input.toProviderOperationExecutionIdentity with
  | none => none
  | some operation =>
    let prior := store.approvalsOf operation.id
    let waiting := operation.state = .awaitingApproval
    if store.requesterLive operation &&
        (waiting || prior.any fun approval => approval.planHash = operation.planHash &&
          sameDecision input approval) &&
        (input.decision = .approved || waiting || operation.state = .cancelled) &&
        (input.decision ≠ .approved || !waiting || decide (store.now < operation.planExpiresAt)) &&
        (input.decision ≠ .approved || operation.approvalPolicy ≠ "separate_admin" ||
          (operation.requestedByMemberId ≠ input.authority.membershipId &&
            operation.requestedByUserId ≠ input.authority.userId)) &&
        store.managerAuthority input.toProviderOperationExecutionIdentity &&
        -- a decision is repeated only as it was made
        prior.all (sameDecision input) then
      some prior.isEmpty
    else none

/-- A new decision is recorded. -/
def insertApproval (input : OperationDecision) : Statement OperationAbort ProviderStore Bool
  | some true, store => .ok { store with
      approvals := store.approvals ++ [{
        id := input.approvalId
        operationId := input.operationId
        planHash := input.planHash
        decision := input.decision
        actorMemberId := input.authority.membershipId
        actorUserId := input.authority.userId
        actorSessionId := input.authority.sessionId
        actorRole := input.authority.role }] }
  | _, store => .ok store

/-- An operation that waits for a decision takes it. -/
def takeDecision (input : OperationDecision) : Statement OperationAbort ProviderStore Bool
  | none, store => .ok store
  | some _, store => store.updateRow input.operationId fun operation =>
      if operation.state = .awaitingApproval then
        { operation with
          state := if input.decision = .approved then .approved else .cancelled
          completedAt :=
            if input.decision = .rejected then some input.now else operation.completedAt
          updatedAt := input.now }
      else operation

/-- `ProviderOperationDecisionRecord`. -/
structure DecisionRecord where
  state : ProviderOperationState
  approvalId : String
  replayed : Bool
  deriving DecidableEq

/-- `decideProviderOperation`. -/
def decideProviderOperation (context : ProviderContext) (input : OperationDecision)
    (store : ProviderStore) : Except OperationAbort (ProviderStore × Option DecisionRecord) :=
  match assertExecutionIdentity context input.toProviderOperationExecutionIdentity with
  | .error _ => .error (.invalid "Invalid provider operation decision")
  | .ok _ =>
    match runBatch (decideScope input) [insertApproval input, takeDecision input] store with
    | .error abort => .error abort
    | .ok (after, matched) => .ok (after, matched.bind fun _ =>
        (after.findOperation input.operationId).bind fun operation =>
          (after.approvalsOf operation.id).head?.map fun approval =>
            { state := operation.state
              approvalId := approval.id
              replayed := approval.id ≠ input.approvalId })

/-! ## Execution -/

/-- The input of a step of an execution. -/
structure ExecutionStep extends ProviderOperationExecutionIdentity where
  claimId : String
  now : Nat
  deriving DecidableEq

/-- An expired operation that nothing remote has begun for. -/
def expiredScope (input : ExecutionStep) (store : ProviderStore) : Option ProviderOperation :=
  (store.identified input.toProviderOperationExecutionIdentity).filter fun operation =>
    (operation.state = .approved || operation.state = .claimed) &&
      operation.remoteStartedAt.isNone && decide (operation.planExpiresAt ≤ store.now) &&
      store.managerAuthority input.toProviderOperationExecutionIdentity

/-- The expired operation is cancelled. -/
def cancelRow (input : ExecutionStep) : Statement OperationAbort ProviderStore ProviderOperation
  | none, store => .ok store
  | some candidate, store => store.updateRow candidate.id fun operation =>
      { operation with
        state := .cancelled
        reconcileAfter := none
        completedAt := some input.now
        updatedAt := input.now }

/-- `cancelExpiredProviderOperationExecution`. -/
def cancelExpiredProviderOperationExecution (context : ProviderContext) (input : ExecutionStep)
    (store : ProviderStore) : Except OperationAbort (ProviderStore × Option ProviderOperation) :=
  match assertExecutionIdentity context input.toProviderOperationExecutionIdentity with
  | .error abort => .error abort
  | .ok _ => runBatch (expiredScope input) [cancelRow input] store

/-- An approved operation, or one that is already being executed. -/
def claimScope (input : ExecutionStep) (store : ProviderStore) : Option ProviderOperation :=
  (store.identified input.toProviderOperationExecutionIdentity).filter fun operation =>
    decide (operation.state ∈ [.approved, .claimed, .remoteStarted, .reconciling]) &&
      (operation.state ≠ .approved || decide (store.now < operation.planExpiresAt)) &&
      store.currentExecutionAuthority input.toProviderOperationExecutionIdentity operation

/-- An approved operation is claimed under a fresh id. -/
def claimRow (input : ExecutionStep) : Statement OperationAbort ProviderStore ProviderOperation
  | none, store => .ok store
  | some candidate, store => store.updateRow candidate.id fun operation =>
      if candidate.state = .approved then
        { operation with
          state := .claimed
          claimId := some input.claimId
          claimedAt := some input.now
          updatedAt := input.now }
      else operation

/-- `ProviderOperationExecutionClaim`. -/
structure ExecutionClaim where
  state : ProviderOperationState
  claimId : Option String
  claimedNow : Bool
  deriving DecidableEq

/-- `claimProviderOperationExecution`; the fresh claim id is part of the input. -/
def claimProviderOperationExecution (context : ProviderContext) (input : ExecutionStep)
    (store : ProviderStore) : Except OperationAbort (ProviderStore × Option ExecutionClaim) :=
  match assertExecutionIdentity context input.toProviderOperationExecutionIdentity with
  | .error abort => .error abort
  | .ok _ =>
    match runBatch (claimScope input) [claimRow input] store with
    | .error abort => .error abort
    | .ok (after, candidate) => .ok (after, candidate.bind fun before =>
        (after.findOperation before.id).map fun operation =>
          { state := operation.state
            claimId := operation.claimId
            claimedNow := before.state = .approved })

/-- The connection that a switch plan was made for. -/
def switchConnectionLive (store : ProviderStore) (membershipId : String)
    (operation : ProviderOperation) : Bool :=
  let plan := operation.redactedPlan
  let holdsTarget (other : WorkspaceConnection) : Bool :=
    other.provider = .neon && other.credentialMode = .managed &&
      other.providerIntegrationId = some operation.integrationId &&
      (other.providerResource.bind fun found => textAt found ["project"]) =
        some operation.resourceScope &&
      (textAt plan ["target", "branchId"]).isSome &&
      (other.providerResource.bind fun found => textAt found ["branch"]) =
        textAt plan ["target", "branchId"] &&
      (textAt plan ["target", "databaseId"]).isSome &&
      (other.providerResource.bind fun found => textAt found ["databaseId"]) =
        textAt plan ["target", "databaseId"] && other.deletedAt.isNone
  store.tables.connections.any fun connection =>
    textAt plan ["source", "connectionId"] = some connection.id &&
      store.tables.hasGrant connection.id membershipId (· = "manage") &&
      connection.provider = .neon && connection.credentialMode = .managed &&
      connection.providerIntegrationId = some operation.integrationId &&
      connection.providerResourceId.isSome &&
      connection.providerResourceId = textAt plan ["source", "providerResourceId"] &&
      (connection.providerResource.bind fun found => textAt found ["project"]) =
        some operation.resourceScope &&
      (connection.providerResource.bind fun found => textAt found ["branch"]) =
        some operation.sourceResourceId &&
      (textAt plan ["source", "databaseId"]).isSome &&
      (connection.providerResource.bind fun found => textAt found ["databaseId"]) =
        textAt plan ["source", "databaseId"] &&
      numberAt plan ["source", "contentRevision"] = some connection.contentRevision &&
      numberAt plan ["source", "authorityRevision"] = some connection.revision &&
      connection.deletedAt.isNone && connection.revocationPendingAt.isNone &&
      connection.revocationClaimId.isNone &&
      -- no other connection has the target of the switch
      !(store.tables.connections.any fun other => other.id ≠ connection.id && holdsTarget other)

/-- A connection of the branch that an operation concerns. -/
def onBranch (operation : ProviderOperation) (connection : WorkspaceConnection) : Bool :=
  connection.providerIntegrationId = some operation.integrationId && connection.provider = .neon &&
    connection.credentialMode = .managed &&
    (connection.providerResource.bind fun found => textAt found ["project"]) =
      some operation.resourceScope &&
    (connection.providerResource.bind fun found => textAt found ["branch"]) =
      some operation.sourceResourceId

/-- No connection and no live lease uses the branch that a plan deletes. -/
def branchUnused (store : ProviderStore) (operation : ProviderOperation) : Bool :=
  !(store.tables.connections.any fun connection =>
      onBranch operation connection && connection.deletedAt.isNone) &&
    !(store.tables.connections.any fun connection =>
      onBranch operation connection && store.tables.leases.any fun lease =>
        lease.connectionId = connection.id && lease.integrationId = operation.integrationId &&
          lease.revokedAt.isNone && decide (store.now < lease.expiresAt))

/-- A claimed operation whose remote mutation may begin, or one that has begun. -/
def startScope (input : ExecutionStep) (store : ProviderStore) : Option ProviderOperation :=
  (store.identified input.toProviderOperationExecutionIdentity).filter fun operation =>
    operation.claimId = some input.claimId &&
      decide (operation.state ∈ [.claimed, .remoteStarted, .reconciling]) &&
      store.currentExecutionAuthority input.toProviderOperationExecutionIdentity operation &&
      (operation.kind ≠ .delete || store.branchUnused operation) &&
      (operation.kind ≠ .switch ||
        store.switchConnectionLive input.authority.membershipId operation)

/-- The fence before the remote mutation. -/
def startRow (input : ExecutionStep) : Statement OperationAbort ProviderStore ProviderOperation
  | none, store => .ok store
  | some candidate, store => store.updateRow candidate.id fun operation =>
      if candidate.state = .claimed then
        -- nothing was sent yet, so an expired plan is cancelled
        if candidate.planExpiresAt ≤ store.now then
          { operation with
            state := .cancelled
            completedAt := some input.now
            updatedAt := input.now }
        else
          { operation with
            state := .remoteStarted
            remoteStartedAt := some input.now
            updatedAt := input.now }
      else operation

/-- `ProviderOperationRemoteStart`. -/
structure RemoteStart where
  id : String
  state : ProviderOperationState
  claimId : Option String
  startedNow : Bool
  deriving DecidableEq

/-- `markProviderOperationRemoteStarted`. -/
def markProviderOperationRemoteStarted (context : ProviderContext) (input : ExecutionStep)
    (store : ProviderStore) : Except OperationAbort (ProviderStore × Option RemoteStart) :=
  match assertExecutionIdentity context input.toProviderOperationExecutionIdentity with
  | .error abort => .error abort
  | .ok _ =>
    if !isUuid input.claimId then
      .error (.invalid "Invalid provider operation remote-start context")
    else
      match runBatch (startScope input) [startRow input] store with
      | .error abort => .error abort
      | .ok (after, candidate) => .ok (after, candidate.bind fun before =>
          (after.findOperation before.id).map fun operation =>
            { id := operation.id
              state := operation.state
              claimId := operation.claimId
              -- the call that started the operation is the one that sends the request
              startedNow := before.state = .claimed && operation.state = .remoteStarted })

/-! ## Reconciliation -/

/-- `ProviderOperationReconciliationInput`. -/
structure ReconciliationResult where
  status : ObservedStatus
  branchId : Option String
  providerOperationId : Option String
  providerOperationStatus : Option String
  endpointId : Option String
  databaseCount : Option Nat
  databaseFingerprint : Option String
  retiredInheritedRoleCount : Option Nat
  credentialFenceFingerprint : Option String
  managedAccessState : ProviderManagedAccessState
  failureCode : Option String
  deriving DecidableEq

/-- `NEON_OPERATION_STATUSES`. -/
def NEON_OPERATION_STATUSES : List String :=
  ["scheduling", "running", "finished", "failed", "error", "cancelling", "cancelled", "skipped"]

/-- A count and a fingerprint, both or neither. -/
def validCount (count : Option Nat) (fingerprint : Option String) : Bool :=
  (count.isNone && fingerprint.isNone) ||
    (count.any (fun n => decide (n ≤ 200)) && fingerprint.any isSha256Hex)

/-- `validProviderReconciliation`. -/
def validProviderReconciliation (input : ReconciliationResult) : Bool :=
  let unfenced := input.retiredInheritedRoleCount.isNone && input.credentialFenceFingerprint.isNone
  input.branchId.all isNeonIdentifier && input.endpointId.all isNeonIdentifier &&
    input.providerOperationId.all isUuid &&
    input.providerOperationStatus.all (fun status => decide (status ∈ NEON_OPERATION_STATUSES)) &&
    input.failureCode.all isFailureCode &&
    validCount input.databaseCount input.databaseFingerprint &&
    validCount input.retiredInheritedRoleCount input.credentialFenceFingerprint &&
    (input.status ≠ .missing || input.branchId.isNone) &&
    (input.status ≠ .pending || input.branchId.isSome) &&
    (input.status ≠ .ready || (input.branchId.isSome && input.failureCode.isNone &&
      input.databaseCount.any (fun n => decide (0 < n)) && input.databaseFingerprint.isSome &&
      ((input.managedAccessState = .notRequested && unfenced) ||
        (input.managedAccessState = .bootstrapRequired &&
          input.retiredInheritedRoleCount.isSome && input.credentialFenceFingerprint.isSome)))) &&
    (input.status ≠ .missing || input.managedAccessState = .waitingForProvider) &&
    (input.status ≠ .pending || (input.managedAccessState = .waitingForProvider &&
      input.databaseCount.isNone && input.databaseFingerprint.isNone && unfenced)) &&
    (input.status = .ready || unfenced) &&
    (input.status ≠ .conflict || input.managedAccessState = .needsRepair) &&
    (input.status ≠ .failed || input.managedAccessState =
      (if input.branchId.isNone then .unavailable else .needsRepair)) &&
    (input.failureCode.isSome = decide (input.status = .conflict ∨ input.status = .failed))

/-- The input of `applyProviderOperationReconciliation`. -/
structure Reconciliation extends ExecutionStep where
  result : ReconciliationResult
  deriving DecidableEq

/-- What was recorded and what is observed do not contradict each other. -/
def agrees (recorded observed : Option String) : Bool :=
  recorded.isNone || observed.isNone || recorded = observed

/-- A started operation that an observation fits, or a success that still lacks its fence. -/
def reconcileScope (input : Reconciliation) (store : ProviderStore) : Option ProviderOperation :=
  (store.identified input.toProviderOperationExecutionIdentity).filter fun operation =>
    let recorded (column : RedactedResult → Option String) : Option String :=
      operation.redactedResult.bind column
    operation.claimId = some input.claimId &&
      (operation.state = .remoteStarted || operation.state = .reconciling ||
        (operation.state = .succeeded &&
          textAt operation.redactedPlan ["target", "endpoint"] = some "read_write" &&
          (recorded (·.credentialFenceFingerprint)).isNone && input.result.status = .ready &&
          input.result.managedAccessState = .bootstrapRequired &&
          input.result.credentialFenceFingerprint.isSome)) &&
      agrees operation.providerOperationId input.result.providerOperationId &&
      agrees operation.providerResourceId input.result.branchId &&
      agrees (recorded (·.endpointId)) input.result.endpointId &&
      agrees (recorded (·.databaseFingerprint)) input.result.databaseFingerprint &&
      agrees (recorded (·.credentialFenceFingerprint)) input.result.credentialFenceFingerprint &&
      store.managerAuthority input.toProviderOperationExecutionIdentity

/-- A creation that has not been seen for two minutes after its start. -/
def overdue (input : Reconciliation) (operation : ProviderOperation) : Bool :=
  input.result.status = .missing &&
    operation.remoteStartedAt.any fun started => decide (started + 120000 ≤ input.now)

/-- `targetState`. -/
def targetState (input : Reconciliation) (operation : ProviderOperation) :
    ProviderOperationState :=
  match input.result.status with
  | .ready => .succeeded
  | .conflict => .needsRepair
  | .failed => if input.result.branchId.isNone then .failed else .needsRepair
  | .missing => if overdue input operation then .needsRepair else .reconciling
  | .pending => .reconciling

/-- `targetFailureCode`. -/
def targetFailureCode (input : Reconciliation) (operation : ProviderOperation) : Option String :=
  if input.result.status = .conflict || input.result.status = .failed then input.result.failureCode
  else if overdue input operation then some "NEON_CREATE_RESULT_AMBIGUOUS"
  else none

/-- The observation as it is stored. -/
def redactedResult (input : Reconciliation) (endpointId : Option String) : RedactedResult where
  status := input.result.status
  branchId := input.result.branchId
  providerOperationId := input.result.providerOperationId
  providerOperationStatus := input.result.providerOperationStatus
  endpointId
  databaseCount := input.result.databaseCount
  databaseFingerprint := input.result.databaseFingerprint
  retiredInheritedRoleCount := input.result.retiredInheritedRoleCount
  credentialFenceFingerprint := input.result.credentialFenceFingerprint
  managedAccessState := input.result.managedAccessState
  failureCode := input.result.failureCode
  observedAt := input.now

/-- The row after an observation. -/
def reconciledRow (input : Reconciliation) (operation : ProviderOperation) : ProviderOperation :=
  let state := targetState input operation
  { operation with
    state
    -- what was recorded first stays, and later observations agree with it
    providerOperationId := operation.providerOperationId.or input.result.providerOperationId
    providerResourceId := operation.providerResourceId.or input.result.branchId
    redactedResult := some (redactedResult input
      (input.result.endpointId.or (operation.redactedResult.bind (·.endpointId))))
    failureCode := targetFailureCode input operation
    reconcileAfter := if state = .reconciling then some (input.now + 3000) else none
    completedAt := if state = .reconciling then none else some input.now
    updatedAt := input.now }

/-- The observation is recorded. -/
def reconcileRow (input : Reconciliation) :
    Statement OperationAbort ProviderStore ProviderOperation
  | none, store => .ok store
  | some candidate, store => store.updateRow candidate.id (reconciledRow input)

/-- `applyProviderOperationReconciliation`. -/
def applyProviderOperationReconciliation (context : ProviderContext) (input : Reconciliation)
    (store : ProviderStore) : Except OperationAbort (ProviderStore × Option ProviderOperation) :=
  match assertExecutionIdentity context input.toProviderOperationExecutionIdentity with
  | .error abort => .error abort
  | .ok _ =>
    if !(isUuid input.claimId && validProviderReconciliation input.result) then
      .error (.invalid "Invalid provider operation reconciliation")
    else
      match runBatch (reconcileScope input) [reconcileRow input] store with
      | .error abort => .error abort
      | .ok (after, candidate) =>
        .ok (after, candidate.bind fun before => after.findOperation before.id)

/-! ## Completions -/

/-- The input of `completeNeonBranchSwitch`, with the ids that it makes up. -/
structure SwitchCompletion extends ExecutionStep where
  connectionClaimId : String
  plan : Json
  targetProjection : ProviderImportProjection
  targetResourceId : String
  versionId : String
  deriving DecidableEq

/-- What the completion moves the connection with. -/
def SwitchCompletion.connectionSwitch (input : SwitchCompletion) : ConnectionSwitch where
  plan := input.plan
  targetProjection := input.targetProjection
  connectionClaimId := input.connectionClaimId
  integrationId := input.integrationId
  membershipId := input.authority.membershipId
  targetResourceId := input.targetResourceId
  versionId := input.versionId

/-- The checks of `completeNeonBranchSwitch`. -/
def assertSwitchCompletion (context : ProviderContext) (input : SwitchCompletion) :
    Except OperationAbort Unit :=
  let identity := input.toProviderOperationExecutionIdentity
  match assertExecutionIdentity context identity, assertPlan context identity input.plan with
  | .error abort, _ => .error abort
  | .ok _, .error abort => .error abort
  | .ok _, .ok _ =>
    let change := input.connectionSwitch
    if !(input.kind = .switch && planKind input.plan = some .switch && isUuid input.claimId &&
        isUuid input.connectionClaimId &&
        decide (change.expectedAuthorityRevision ≤ MAX_SAFE_INTEGER) &&
        change.validProjection context.collation) then
      .error (.invalid "Invalid Neon branch switch completion")
    else if MAX_SAFE_INTEGER < change.contentRevision + 1 then
      .error (.invalid "Invalid Neon branch switch revision")
    else .ok ()

/-- `operation_scope`. -/
def switchOperation (input : SwitchCompletion) (store : ProviderStore) :
    Option ProviderOperation :=
  (store.identified input.toProviderOperationExecutionIdentity).filter fun operation =>
    (operation.state = .remoteStarted || operation.state = .reconciling) &&
      operation.claimId = some input.claimId &&
      jsonEqual (some operation.redactedPlan) (some input.plan) &&
      store.managerAuthority input.toProviderOperationExecutionIdentity

/-- A started switch whose connection may move. -/
def switchScope (input : SwitchCompletion) (store : ProviderStore) :
    Option (ProviderOperation × ConnectionSwitch.Snapshot) :=
  (switchOperation input store).bind fun operation =>
    (input.connectionSwitch.scope store.tables).map fun snapshot => (operation, snapshot)

/-- The connection moves. -/
def switchTables (context : ProviderContext) (input : SwitchCompletion) :
    Statement OperationAbort ProviderStore (ProviderOperation × ConnectionSwitch.Snapshot)
  | none, store => .ok store
  | some (_, snapshot), store =>
    match input.connectionSwitch.commit context.collation snapshot store.tables with
    | .error constraint => .error (.constraint constraint)
    | .ok tables => .ok { store with tables := tables }

/-- The row after a switch. -/
def switchedRow (input : SwitchCompletion) (operation : ProviderOperation) : ProviderOperation :=
  let target := input.connectionSwitch.target
  { operation with
    state := .succeeded
    providerResourceId := target "branchId"
    redactedResult := some {
      status := .ready
      branchId := target "branchId"
      providerOperationId := none
      providerOperationStatus := none
      endpointId := target "endpointId"
      databaseCount := some 1
      databaseFingerprint := target "databaseFingerprint"
      retiredInheritedRoleCount := none
      credentialFenceFingerprint := none
      managedAccessState := .ready
      failureCode := none
      observedAt := input.now
      resourceFingerprint := target "resourceFingerprint" }
    failureCode := none
    reconcileAfter := none
    completedAt := some input.now
    updatedAt := input.now }

/-- The switch is recorded as a success. -/
def switchRow (input : SwitchCompletion) :
    Statement OperationAbort ProviderStore (ProviderOperation × ConnectionSwitch.Snapshot)
  | none, store => .ok store
  | some _, store => store.updateRow input.operationId (switchedRow input)

/-- `completeNeonBranchSwitch`. -/
def completeNeonBranchSwitch (context : ProviderContext) (input : SwitchCompletion)
    (store : ProviderStore) :
    Except OperationAbort (ProviderStore × Option (ProviderOperation × ConnectionSwitch.Snapshot)) :=
  match assertSwitchCompletion context input with
  | .error abort => .error abort
  | .ok _ => runBatch (switchScope input) [switchTables context input, switchRow input] store

/-- The input of `completeProviderOperationBootstrap`. -/
structure BootstrapCompletion extends ExecutionStep where
  projectId : String
  branchId : String
  databaseFingerprint : String
  credentialFenceFingerprint : String
  providerAuditId : String
  resourceFingerprint : String
  bootstrapPlanHash : String
  deriving DecidableEq

/-- The checks of `completeProviderOperationBootstrap`. -/
def assertBootstrap (context : ProviderContext) (input : BootstrapCompletion) :
    Except OperationAbort Unit :=
  match assertExecutionIdentity context input.toProviderOperationExecutionIdentity with
  | .error abort => .error abort
  | .ok _ =>
    if input.kind = .create && isNeonIdentifier input.projectId &&
        isNeonIdentifier input.branchId && isSha256Hex input.databaseFingerprint &&
        isSha256Hex input.credentialFenceFingerprint &&
        (input.branchId.toList ++ [':']).isPrefixOf input.providerAuditId.toList &&
        decide ((Desktop.utf16 input.providerAuditId.toList).length ≤ 512) &&
        !input.providerAuditId.toList.any isControl && isSha256Hex input.resourceFingerprint &&
        isSha256Hex input.bootstrapPlanHash then .ok ()
    else .error (.invalid "Invalid provider operation bootstrap completion")

/-- A success whose managed access waits for its bootstrap, or had exactly this one. -/
def bootstrapScope (input : BootstrapCompletion) (store : ProviderStore) :
    Option ProviderOperation :=
  (store.identified input.toProviderOperationExecutionIdentity).filter fun operation =>
    operation.resourceScope = input.projectId &&
      operation.providerResourceId = some input.branchId && operation.state = .succeeded &&
      operation.redactedResult.any (fun result =>
        result.databaseFingerprint = some input.databaseFingerprint &&
          result.credentialFenceFingerprint = some input.credentialFenceFingerprint &&
          (result.managedAccessState = .bootstrapRequired ||
            (result.managedAccessState = .ready &&
              result.bootstrapProviderAuditId = some input.providerAuditId &&
              result.bootstrapResourceFingerprint = some input.resourceFingerprint &&
              result.bootstrapPlanHash = some input.bootstrapPlanHash))) &&
      store.managerAuthority input.toProviderOperationExecutionIdentity

/-- The row after its bootstrap. -/
def bootstrappedRow (input : BootstrapCompletion) (operation : ProviderOperation) :
    ProviderOperation :=
  { operation with
    redactedResult := operation.redactedResult.map fun result =>
      { result with
        managedAccessState := .ready
        bootstrapProviderAuditId := some input.providerAuditId
        bootstrapResourceFingerprint := some input.resourceFingerprint
        bootstrapPlanHash := some input.bootstrapPlanHash
        bootstrapReadyAt := some input.now }
    updatedAt := input.now }

/-- Managed access is ready. -/
def bootstrapRow (input : BootstrapCompletion) :
    Statement OperationAbort ProviderStore ProviderOperation
  | none, store => .ok store
  | some candidate, store =>
    if candidate.redactedResult.any fun result =>
        result.managedAccessState = .bootstrapRequired then
      store.updateRow input.operationId (bootstrappedRow input)
    else .ok store

/-- `completeProviderOperationBootstrap`. -/
def completeProviderOperationBootstrap (context : ProviderContext) (input : BootstrapCompletion)
    (store : ProviderStore) : Except OperationAbort (ProviderStore × Option ProviderOperation) :=
  match assertBootstrap context input with
  | .error abort => .error abort
  | .ok _ => runBatch (bootstrapScope input) [bootstrapRow input] store

end ProviderStore

/-! ## Runs of the store -/

open ProviderStore in
/-- What happens to the tables: one step of an operation, any change of the other tables, and the
clock. -/
inductive ProviderEvent where
  | record (input : PlanRecording)
  | decide (input : OperationDecision)
  | claim (input : ExecutionStep)
  | mark (input : ExecutionStep)
  | cancelExpired (input : ExecutionStep)
  | reconcile (input : Reconciliation)
  | completeSwitch (input : SwitchCompletion)
  | completeBootstrap (input : BootstrapCompletion)
  | change (directory : Directory) (tables : ConnectionTables)
  | tick (milliseconds : Nat)

/-- The tables after an event. -/
def providerStep (context : ProviderContext) (store : ProviderStore) :
    ProviderEvent → ProviderStore
  | .record input => committed store (store.recordProviderOperationPlan context input)
  | .decide input => committed store (store.decideProviderOperation context input)
  | .claim input => committed store (store.claimProviderOperationExecution context input)
  | .mark input => committed store (store.markProviderOperationRemoteStarted context input)
  | .cancelExpired input =>
    committed store (store.cancelExpiredProviderOperationExecution context input)
  | .reconcile input => committed store (store.applyProviderOperationReconciliation context input)
  | .completeSwitch input => committed store (store.completeNeonBranchSwitch context input)
  | .completeBootstrap input =>
    committed store (store.completeProviderOperationBootstrap context input)
  | .change directory tables =>
    { store with
      directory := directory
      tables := tables }
  | .tick milliseconds => { store with now := store.now + milliseconds }

end Dopedb.Cloud
