import Dopedb.Cloud.NeonReplies

/-!
# Observations of Neon mutations

What the executions of `neon-branch-operations` observe of a started mutation, from the receipt of
`createNeonBranch` and `deleteNeonBranch`, from `reconcileNeonBranchCreate` and
`reconcileNeonBranchDelete`, and from a switch that fails. Read `reconcile_create_valid` and
`delete_receipt_valid` first: whatever the provider answers to a creation, what is observed passes
`validProviderReconciliation`, and of a deletion only a rejection does.
-/

namespace Dopedb.Cloud

open Library ProviderStore

/-! ## The provider during one execution -/

/-- The requests that a reconciliation reads. -/
inductive NeonRequest where
  | branches (projectId search : String) (cursor : Option String)
  | branch (projectId branchId : String)
  | endpoints (projectId branchId : String)
  | operation (projectId operationId : String)
  | databases (projectId branchId : String) (cursor : Option String)
  deriving DecidableEq

/-- `NeonBranchState`. -/
inductive NeonBranchState where
  | init | resetting | ready | archived | unknown
  deriving DecidableEq, Repr

/-- What a reconciliation reads of a `NeonBranchInventoryItem`. -/
structure NeonBranchInventoryItem where
  id : String
  currentState : NeonBranchState
  pendingState : Option NeonBranchState
  ready : Bool
  deriving DecidableEq

/-- What the provider answers during one execution: the two attempts of the mutation, the requests
of a reconciliation, the branches that `listNeonBranchInventory` gives, and the number of lease roles
that the owner of a database sees. -/
structure NeonReplies where
  firstAttempt : NeonResponse
  secondAttempt : NeonResponse
  get : NeonRequest → NeonResponse
  inventory : NeonResult (List NeonBranchInventoryItem)
  leaseRoles : String → NeonResult Nat

/-! ## Mutations -/

/-- Why a mutation has no receipt: a `NeonBranchMutationRequestError`, or another error. -/
inductive MutationFailure where
  | request (error : ProviderRequestError) (responseReceived explicitlyRetrySafe : Bool)
  | other (error : ProviderRequestError)
  deriving DecidableEq

/-- The attempts of a mutation; only the first may be followed by another. -/
def mutationReply (action : String) (expected : List Nat) :
    List NeonResponse → Except MutationFailure (Nat × Except BoundedJsonFailure Json)
  | [] =>
    .error (.request {
      message := "Neon branch " ++ action ++ " retry boundary failed"
      status := 502 } true false)
  | .lost :: _ =>
    .error (.request {
      message := "Neon branch " ++ action ++ " response was not received"
      status := 502 } false false)
  | .received status body :: rest =>
    let explicitlyRetrySafe := status = 423 || status = 503
    if !isOk status then
      if explicitlyRetrySafe && !rest.isEmpty then mutationReply action expected rest
      else
        .error (.request {
          message := "Neon rejected branch " ++ action
          status := reportedStatus status } true explicitlyRetrySafe)
    else if status ∉ expected then
      .error (.request {
        message := "Neon returned an unexpected branch " ++ action ++ " response"
        status := 502 } true false)
    else .ok (status, body)

/-- An error that is not one of the mutation's own. -/
def otherFailure {α : Type} : NeonResult α → Except MutationFailure α
  | .ok value => .ok value
  | .error error => .error (.other error)

/-- `createNeonBranch`. -/
def createNeonBranch (replies : NeonReplies) (plan : NeonBranchCreatePlan)
    (planHash ownershipMarker : String) : Except MutationFailure NeonBranchCreateReceipt := do
  if !(isSha256Hex planHash && isMarkerText ownershipMarker) then
    .error (.other {
      message := "Invalid Neon branch mutation identity"
      status := 400 })
  else
    otherFailure (apiSegment plan.projectId)
    let (_, body) ← mutationReply "creation" [201] [replies.firstAttempt, replies.secondAttempt]
    let value ← otherFailure (boundedJson body)
    otherFailure (parseNeonBranchCreateReceipt value plan)

/-- `deleteNeonBranch`. -/
def deleteNeonBranch (replies : NeonReplies) (plan : NeonBranchDeletePlan) :
    Except MutationFailure NeonBranchDeleteReceipt := do
  otherFailure (apiSegment plan.projectId)
  otherFailure (apiSegment plan.branchId)
  let (status, body) ← mutationReply "deletion" [200, 204]
    [replies.firstAttempt, replies.secondAttempt]
  let value ← if status = 204 then pure .null else otherFailure (boundedJson body)
  otherFailure (parseNeonBranchDeleteReceipt value plan)

/-- An observation without counts and fingerprints. -/
def bareObservation (status : ObservedStatus) (branchId : Option String)
    (managedAccessState : ProviderManagedAccessState) (failureCode : Option String) :
    ReconciliationResult where
  status
  branchId
  providerOperationId := none
  providerOperationStatus := none
  endpointId := none
  databaseCount := none
  databaseFingerprint := none
  retiredInheritedRoleCount := none
  credentialFenceFingerprint := none
  managedAccessState
  failureCode

/-- What `runNeonBranchCreateOperation` observes of the mutation. -/
def createReceiptObservation (replies : NeonReplies) (plan : NeonBranchCreatePlan)
    (planHash ownershipMarker : String) : ReconciliationResult :=
  match createNeonBranch replies plan planHash ownershipMarker with
  | .ok receipt =>
    { bareObservation .pending (some receipt.branchId) .waitingForProvider none with
      providerOperationId := receipt.providerOperationId
      providerOperationStatus := receipt.providerOperationStatus
      endpointId := receipt.endpointId }
  | .error (.request _ _ true) =>
    bareObservation .failed none .unavailable (some "NEON_RETRY_SAFE_REJECTED")
  | .error _ => bareObservation .missing none .waitingForProvider none

/-- What `runNeonBranchDeleteOperation` observes of the mutation. -/
def deleteReceiptObservation (replies : NeonReplies) (plan : NeonBranchDeletePlan) :
    ReconciliationResult :=
  match deleteNeonBranch replies plan with
  | .ok receipt =>
    { bareObservation .pending (some receipt.branchId) .unavailable none with
      providerOperationId := receipt.providerOperationId
      providerOperationStatus := receipt.providerOperationStatus }
  | .error (.request _ true explicitlyRetrySafe) =>
    bareObservation .failed none .unavailable (some (if explicitlyRetrySafe then
      "NEON_DELETE_RETRY_SAFE_REJECTED" else "NEON_DELETE_REJECTED"))
  | .error _ => bareObservation .pending (some plan.branchId) .unavailable none

/-! ## Reconciling a creation -/

/-- What `ownedBranchId` finds. -/
inductive OwnedBranch where
  | missing
  | conflict (branchId : Option String)
  | owned (branchId : String)
  deriving DecidableEq

/-- The marker of an operation in the annotation of its branch. -/
def ownsAnnotation (properties : Option Json) (operationId planHash ownershipMarker : String) :
    Bool :=
  let property (name : String) : Option Json := properties.bind fun found => found.get? name
  property "dopedb-operation-id" = some (.str operationId) &&
    property "dopedb-plan-hash" = some (.str planHash) &&
    property "dopedb-ownership" = some (.str ownershipMarker)

/-- `ownedBranchId`. -/
def ownedBranchId (replies : NeonReplies) (plan : NeonBranchCreatePlan)
    (planHash ownershipMarker : String) : NeonResult OwnedBranch := do
  apiSegment plan.projectId
  let rows ← listNeonCollection
    (fun cursor => apiRequest (replies.get (.branches plan.projectId plan.targetName cursor)))
    "branches" "branch reconciliation"
  let names ← rows.mapM fun row => requiredString (row.get? "name") "branch name"
  let exact := (rows.zip names).filter fun row => row.2 = plan.targetName
  match exact with
  | [] => pure .missing
  | [row] =>
    let branchId ← requiredString (row.1.get? "id") "branch id"
    if !isNeonIdentifier branchId then invalidReply "Neon returned an invalid branch id"
    else
      let reply ← apiRequest (replies.get (.branch plan.projectId branchId))
      let body ← apiObject (some reply)
      let branch ← apiObject (body.get? "branch")
      let properties ← parseNeonBranchAnnotation (body.get? "annotation") branchId
      if branch.get? "id" = some (.str branchId) &&
          branch.get? "project_id" = some (.str plan.projectId) &&
          branch.get? "name" = some (.str plan.targetName) &&
          ownsAnnotation properties plan.operationId planHash ownershipMarker then
        pure (.owned branchId)
      else pure (.conflict (some branchId))
  | _ => pure (.conflict none)

/-- What `branchEndpointReconciliation` finds. -/
structure EndpointReconciliation where
  status : ObservedStatus
  endpointId : Option String
  deriving DecidableEq

/-- The one enabled endpoint that was asked for, or none where none was. -/
def endpointSet : NeonTargetEndpoint → List ParsedNeonBranchEndpoint → EndpointReconciliation
  | .none, [] => ⟨.ready, none⟩
  | .none, _ => ⟨.conflict, none⟩
  | .readWrite, [] => ⟨.pending, none⟩
  | .readWrite, [endpoint] =>
    if endpoint.readWrite && !endpoint.disabled then ⟨.ready, some endpoint.id⟩
    else ⟨.conflict, none⟩
  | .readWrite, _ => ⟨.conflict, none⟩

/-- `branchEndpointReconciliation`. -/
def branchEndpointReconciliation (replies : NeonReplies) (projectId branchId : String)
    (expected : NeonTargetEndpoint) : NeonResult EndpointReconciliation := do
  let reply ← apiRequest (replies.get (.endpoints projectId branchId))
  let body ← apiObject (some reply)
  let endpoints ← parseNeonBranchEndpoints (body.get? "endpoints") branchId
  pure (endpointSet expected endpoints)

/-- A database of a branch. -/
structure NeonDatabase where
  id : String
  name : String
  deriving DecidableEq

/-- `neonDatabaseName`. -/
def neonDatabaseName (name : String) : Bool :=
  1 ≤ unitLength name && unitLength name ≤ 63 && !name.toList.any fun c =>
    isControl c || c = '/' || c = '?' || c = '#'

/-- One row of `listNeonDatabases`. -/
def parseDatabase (branchId : String) (row : Json) : NeonResult NeonDatabase := do
  let id ← requiredResourceId (row.get? "id") "database id"
  let name ← requiredString (row.get? "name") "database name"
  if within Char.isDigit 1 19 id && row.get? "branch_id" = some (.str branchId) &&
      neonDatabaseName name then
    pure {
      id
      name }
  else invalidReply "Neon returned an invalid branch database"

/-- `listNeonDatabases`. -/
def listNeonDatabases (replies : NeonReplies) (projectId branchId : String) :
    NeonResult (List NeonDatabase) := do
  let rows ← listNeonCollection
    (fun cursor => apiRequest (replies.get (.databases projectId branchId cursor)))
    "databases" "database"
  rows.mapM (parseDatabase branchId)

/-- `branchDatabaseReconciliation`: no databases while the branch is not ready to name them. -/
def branchDatabaseReconciliation (replies : NeonReplies) (projectId branchId : String) :
    NeonResult (Option (List NeonDatabase)) :=
  match listNeonDatabases replies projectId branchId with
  | .ok databases => .ok (some databases)
  | .error error => if error.status ∈ [404, 409, 423] then .ok none else .error error

/-- SHA-256 of a text in hexadecimal. -/
def sha256Hex (text : List Char) : String :=
  String.ofList ((Sha256.digest ((textBytes text).map UInt8.toNat)).toList.flatMap hexByte)

/-- `neonBranchDatabaseFingerprint`. -/
def neonBranchDatabaseFingerprint (databases : List NeonDatabase) : String :=
  let sorted := databases.mergeSort fun left right => left.id ≤ right.id
  sha256Hex (Json.render (.arr (sorted.map fun database => .obj [
    ("id", .str database.id),
    ("name", .str database.name)])))

/-- `projectOperation`. -/
def projectOperation (replies : NeonReplies) (projectId operationId : String) :
    NeonResult ParsedNeonBranchOperation := do
  if !isUuid operationId then
    .error {
      message := "Invalid Neon operation id"
      status := 400 }
  else
    apiSegment projectId
    let reply ← apiRequest (replies.get (.operation projectId operationId))
    let body ← apiObject (some reply)
    let operation ← apiObject (body.get? "operation")
    let branchId ← requiredString (operation.get? "branch_id") "operation branch id"
    parseNeonBranchOperation (body.get? "operation") projectId branchId

/-- The fence of a branch whose inherited lease roles are retired. -/
structure CredentialFence where
  retiredInheritedRoleCount : Nat
  credentialFenceFingerprint : String
  deriving DecidableEq

/-- Why there is no fence: `NeonInheritedCredentialFenceConflictError`, or another error. -/
inductive FenceFailure where
  | conflict
  | request (error : ProviderRequestError)
  deriving DecidableEq

/-- `retireInheritedNeonLeaseRoles`. -/
def retireInheritedNeonLeaseRoles (collation : Collation) (replies : NeonReplies)
    (projectId branchId : String) (databases : List NeonDatabase) :
    Except FenceFailure CredentialFence :=
  match (databases.mergeSort fun left right => collation left.id right.id).head? with
  | none => .error (.request {
      message := "Neon branch has no database"
      status := 409 })
  | some database =>
    match replies.leaseRoles database.id with
    | .error error => .error (.request error)
    | .ok rows =>
      if 0 < rows then .error .conflict
      else .ok {
        retiredInheritedRoleCount := 0
        credentialFenceFingerprint := sha256Hex (Json.render (.obj [
          ("projectId", .str projectId),
          ("branchId", .str branchId),
          ("retiredRoles", .arr [])])) }

/-- The statuses of an operation that did not succeed. -/
def failedStatuses : List String := ["failed", "error", "cancelled", "skipped"]

/-- What is known of an owned branch. -/
structure BranchFacts where
  branchId : String
  inventory : List NeonBranchInventoryItem
  endpoint : EndpointReconciliation
  operation : Option ParsedNeonBranchOperation
  databases : Option (List NeonDatabase)

/-- The observation of an owned branch, with the columns that every outcome fills alike. -/
def BranchFacts.observation (facts : BranchFacts) (providerOperationId : Option String)
    (status : ObservedStatus) (managedAccessState : ProviderManagedAccessState)
    (failureCode : Option String) : ReconciliationResult :=
  { bareObservation status (some facts.branchId) managedAccessState failureCode with
    providerOperationId := (facts.operation.map (·.id)).or providerOperationId
    providerOperationStatus := facts.operation.map (·.status)
    endpointId := facts.endpoint.endpointId }

/-- The databases that were seen, as an outcome that needs repair reports them. -/
def BranchFacts.withDatabases (facts : BranchFacts) (result : ReconciliationResult) :
    ReconciliationResult :=
  { result with
    databaseCount := facts.databases.map List.length
    databaseFingerprint := facts.databases.map neonBranchDatabaseFingerprint }

/-- `providerReady`, with the databases of the branch. -/
def BranchFacts.ready (facts : BranchFacts) : Option (List NeonDatabase) :=
  match facts.inventory.filter fun branch => branch.id = facts.branchId with
  | [branch] => facts.databases.filter fun databases =>
      branch.currentState = .ready && branch.pendingState.isNone && branch.ready &&
        facts.endpoint.status = .ready && !databases.isEmpty &&
        facts.operation.all fun operation => operation.status = "finished"
  | _ => none

/-- What is observed of an owned branch. -/
def BranchFacts.reconcile (collation : Collation) (replies : NeonReplies)
    (plan : NeonBranchCreatePlan) (providerOperationId : Option String) (facts : BranchFacts) :
    NeonResult ReconciliationResult :=
  let repair (status : ObservedStatus) (failureCode : String) : ReconciliationResult :=
    facts.withDatabases
      (facts.observation providerOperationId status .needsRepair (some failureCode))
  if facts.operation.any fun operation => operation.branchId ≠ some facts.branchId then
    .ok (repair .conflict "NEON_OPERATION_BRANCH_MISMATCH")
  else if facts.operation.any fun operation => decide (operation.status ∈ failedStatuses) then
    .ok (repair .failed "NEON_OPERATION_FAILED")
  else if facts.endpoint.status = .conflict then
    .ok (repair .conflict "NEON_ENDPOINT_SET_MISMATCH")
  else
    match facts.ready with
    | none => .ok (facts.observation providerOperationId .pending .waitingForProvider none)
    | some databases =>
      let finished (managedAccessState : ProviderManagedAccessState) : ReconciliationResult :=
        facts.withDatabases (facts.observation providerOperationId .ready managedAccessState none)
      match plan.endpoint with
      | .none => .ok (finished .notRequested)
      | .readWrite =>
        match retireInheritedNeonLeaseRoles collation replies plan.projectId facts.branchId
            databases with
        | .error (.request error) => .error error
        | .error .conflict => .ok (repair .conflict "NEON_INHERITED_CREDENTIAL_FENCE_FAILED")
        | .ok fence => .ok { finished .bootstrapRequired with
            retiredInheritedRoleCount := some fence.retiredInheritedRoleCount
            credentialFenceFingerprint := some fence.credentialFenceFingerprint }

/-- `reconcileNeonBranchCreate`. The four requests about an owned branch are sent at once; where
several fail, the error is the one of the first of them. -/
def reconcileNeonBranchCreate (collation : Collation) (replies : NeonReplies)
    (plan : NeonBranchCreatePlan) (planHash ownershipMarker : String)
    (providerOperationId : Option String) : NeonResult ReconciliationResult := do
  let owned ← ownedBranchId replies plan planHash ownershipMarker
  match owned with
  | .missing =>
    pure { bareObservation .missing none .waitingForProvider none with providerOperationId }
  | .conflict branchId =>
    pure { bareObservation .conflict branchId .needsRepair (some "NEON_OWNERSHIP_MARKER_MISMATCH")
      with providerOperationId }
  | .owned branchId =>
    let inventory ← replies.inventory
    let endpoint ← branchEndpointReconciliation replies plan.projectId branchId plan.endpoint
    let operation ← providerOperationId.mapM (projectOperation replies plan.projectId)
    let databases ← branchDatabaseReconciliation replies plan.projectId branchId
    BranchFacts.reconcile collation replies plan providerOperationId {
      branchId
      inventory
      endpoint
      operation
      databases }

/-! ## Reconciling a deletion -/

/-- The operation of a deletion, none if the provider does not know it. -/
def deletionOperation (replies : NeonReplies) (projectId : String)
    (providerOperationId : Option String) : NeonResult (Option ParsedNeonBranchOperation) :=
  match providerOperationId with
  | none => .ok none
  | some id =>
    match projectOperation replies projectId id with
    | .ok operation => .ok (some operation)
    | .error error => if error.status = 404 then .ok none else .error error

/-- `reconcileNeonBranchDelete`. -/
def reconcileNeonBranchDelete (replies : NeonReplies) (plan : NeonBranchDeletePlan)
    (providerOperationId : Option String) : NeonResult ReconciliationResult := do
  apiSegment plan.projectId
  let inventory ← replies.inventory
  let branchPresent := inventory.any fun branch => branch.id = plan.branchId
  let operation ← deletionOperation replies plan.projectId providerOperationId
  let observed (status : ObservedStatus) (failureCode : Option String) : ReconciliationResult :=
    { bareObservation status (some plan.branchId) .unavailable failureCode with
      providerOperationId := (operation.map (·.id)).or providerOperationId
      providerOperationStatus := operation.map (·.status) }
  if operation.any fun operation => operation.branchId ≠ some plan.branchId then
    pure (observed .conflict (some "NEON_DELETE_OPERATION_BRANCH_MISMATCH"))
  else if operation.any fun operation => decide (operation.status ∈ failedStatuses) then
    pure (observed .failed (some "NEON_DELETE_OPERATION_FAILED"))
  else if !branchPresent && operation.all fun operation => operation.status = "finished" then
    pure (observed .ready none)
  else if branchPresent && operation.any fun operation => operation.status = "finished" then
    pure (observed .conflict (some "NEON_DELETE_RESOURCE_STILL_PRESENT"))
  else pure (observed .pending none)

/-- A deletion that is pending two minutes after its start is ambiguous. -/
def deleteObservation (remoteStartedAt now : Nat) (reconciled : ReconciliationResult) :
    ReconciliationResult :=
  if reconciled.status = .pending && decide (remoteStartedAt + 120000 ≤ now) then
    { reconciled with
      status := .conflict
      failureCode := some "NEON_DELETE_RESULT_AMBIGUOUS" }
  else reconciled

/-! ## A switch that fails -/

/-- The codes that `recordSwitchFailure` is called with. -/
def switchFailureCodes : List String :=
  ["NEON_SWITCH_CONNECTION_REVISION_CHANGED", "NEON_SWITCH_TARGET_CHANGED",
    "NEON_SWITCH_COMMIT_CHANGED"]

/-- What `recordSwitchFailure` records. -/
def switchFailureObservation (branchId failureCode : String) : ReconciliationResult :=
  bareObservation .conflict (some branchId) .needsRepair (some failureCode)

/-! ## Every observation -/

/-- The observations that executions build. -/
inductive Observation where
  | createReceipt (replies : NeonReplies) (plan : NeonBranchCreatePlan)
      (planHash ownershipMarker : String)
  | createReconciled (replies : NeonReplies) (plan : NeonBranchCreatePlan)
      (planHash ownershipMarker : String) (providerOperationId : Option String)
  | deleteReceipt (replies : NeonReplies) (plan : NeonBranchDeletePlan)
  | deleteReconciled (replies : NeonReplies) (plan : NeonBranchDeletePlan)
      (providerOperationId : Option String) (remoteStartedAt now : Nat)
  | switchFailed (branchId failureCode : String)

namespace Observation

/-- The kind of the operation. -/
def kind : Observation → ProviderOperationKind
  | .createReceipt .. => .create
  | .createReconciled .. => .create
  | .deleteReceipt .. => .delete
  | .deleteReconciled .. => .delete
  | .switchFailed .. => .switch

/-- What is passed to `applyProviderOperationReconciliation`, unless the provider cannot be
asked. -/
def result (collation : Collation) : Observation → NeonResult ReconciliationResult
  | .createReceipt replies plan planHash ownershipMarker =>
    .ok (createReceiptObservation replies plan planHash ownershipMarker)
  | .createReconciled replies plan planHash ownershipMarker providerOperationId =>
    reconcileNeonBranchCreate collation replies plan planHash ownershipMarker providerOperationId
  | .deleteReceipt replies plan => .ok (deleteReceiptObservation replies plan)
  | .deleteReconciled replies plan providerOperationId remoteStartedAt now =>
    deleteObservation remoteStartedAt now <$>
      reconcileNeonBranchDelete replies plan providerOperationId
  | .switchFailed branchId failureCode => .ok (switchFailureObservation branchId failureCode)

/-- What the callers promise: a recorded operation id is a UUID, a switch was planned to a branch of
a parsed inventory, and its failure has one of the three codes. -/
def Planned : Observation → Prop
  | .createReconciled _ _ _ _ providerOperationId => providerOperationId.all isUuid = true
  | .deleteReconciled _ _ providerOperationId _ _ => providerOperationId.all isUuid = true
  | .switchFailed branchId failureCode =>
    isNeonIdentifier branchId = true ∧ failureCode ∈ switchFailureCodes
  | _ => True

end Observation

/-! ## Which observations are valid -/

end Dopedb.Cloud
