import Dopedb.Cloud.Authority
import Dopedb.Cloud.BranchSwitch

/-!
# Plans and rows of provider operations

`provider-operation-records.ts` and `provider-operation-marker.ts`: which plans are recorded, the
marker that binds an operation to its plan, and the rows of operations and approvals with the
constraints of their tables. Instants are milliseconds.
-/

namespace Dopedb.Cloud

open Library

/-! ## Instants -/

/-- A number with at least so many digits. -/
def padded (width n : Nat) : String :=
  let digits := (toString n).toList
  String.ofList (List.replicate (width - digits.length) '0' ++ digits)

/-- Year, month and day of a day after 1 January 1970. -/
def civilDay (days : Nat) : Nat × Nat × Nat :=
  let shifted := days + 719468
  let era := shifted / 146097
  let dayOfEra := shifted % 146097
  let yearOfEra := (dayOfEra - dayOfEra / 1460 + dayOfEra / 36524 - dayOfEra / 146096) / 365
  let dayOfYear := dayOfEra - (365 * yearOfEra + yearOfEra / 4 - yearOfEra / 100)
  let shiftedMonth := (5 * dayOfYear + 2) / 153
  let day := dayOfYear - (153 * shiftedMonth + 2) / 5 + 1
  let month := if shiftedMonth < 10 then shiftedMonth + 3 else shiftedMonth - 9
  (yearOfEra + era * 400 + if month ≤ 2 then 1 else 0, month, day)

/-- `Date.prototype.toISOString`. -/
def toISOString (instant : Nat) : String :=
  let (year, month, day) := civilDay (instant / 86400000)
  let yearText := if year ≤ 9999 then padded 4 year else "+" ++ padded 6 year
  let seconds := instant / 1000
  s!"{yearText}-{padded 2 month}-{padded 2 day}T{padded 2 (seconds / 3600 % 24)}:" ++
    s!"{padded 2 (seconds / 60 % 60)}:{padded 2 (seconds % 60)}.{padded 3 (instant % 1000)}Z"

/-! ## Kinds and states -/

/-- `providerOperationKinds`. -/
inductive ProviderOperationKind where
  | create | delete | switch
  deriving DecidableEq, Repr

/-- The text of a kind. -/
def ProviderOperationKind.text : ProviderOperationKind → String
  | .create => "neon.branch.create"
  | .delete => "neon.branch.delete"
  | .switch => "neon.branch.switch"

/-- `operationStates`. -/
inductive ProviderOperationState where
  | awaitingApproval | approved | claimed | remoteStarted | reconciling
  | succeeded | failed | needsRepair | cancelled
  deriving DecidableEq, Repr

/-- `ProviderOperationDecision`. -/
inductive ProviderOperationDecision where
  | approved | rejected
  deriving DecidableEq, Repr

/-- `ProviderManagedAccessState`. -/
inductive ProviderManagedAccessState where
  | waitingForProvider | notRequested | bootstrapRequired | ready | needsRepair | unavailable
  deriving DecidableEq, Repr

/-- What a reconciliation observed. -/
inductive ObservedStatus where
  | missing | pending | ready | conflict | failed
  deriving DecidableEq, Repr

/-! ## Markers -/

/-- What the deployment supplies: the workspace, how texts are compared, and the marker's key. -/
structure ProviderContext where
  organizationId : String
  collation : Collation
  sign : String → String

/-- What a store function refuses, and what the database aborts. -/
inductive OperationAbort where
  | invalid (message : String)
  | constraint (name : String)
  deriving DecidableEq, Repr

/-- `ProviderOperationExecutionIdentity`. -/
structure ProviderOperationExecutionIdentity where
  authority : MemberAuthority
  integrationId : String
  integrationGeneration : Nat
  operationId : String
  kind : ProviderOperationKind
  planHash : String
  ownershipMarker : String
  deriving DecidableEq

/-- `providerOperationOwnershipMarker`. -/
def providerOperationOwnershipMarker (context : ProviderContext)
    (identity : ProviderOperationExecutionIdentity) : Except OperationAbort String :=
  let organization := context.organizationId.toList
  let length := (Desktop.utf16 organization).length
  if 1 ≤ length && length ≤ 512 && !organization.any isControl &&
      isUuid identity.integrationId && 1 ≤ identity.integrationGeneration &&
      isSha256Hex identity.planHash && isUuid identity.operationId then
    .ok ("v1." ++ context.sign ("\n".intercalate ["v1", context.organizationId,
      identity.integrationId, toString identity.integrationGeneration, identity.operationId,
      identity.planHash]))
  else .error (.invalid "Invalid provider operation marker context")

/-- A marker as it is written. -/
def isMarkerText (marker : String) : Bool :=
  match marker.toList with
  | 'v' :: '1' :: '.' :: signature =>
    within (fun c => c.isAlphanum || c = '_' || c = '-') 43 43 (String.ofList signature)
  | _ => false

/-- `verifyProviderOperationOwnershipMarker`. -/
def verifyProviderOperationOwnershipMarker (context : ProviderContext)
    (identity : ProviderOperationExecutionIdentity) : Except OperationAbort Bool :=
  if isMarkerText identity.ownershipMarker then
    match providerOperationOwnershipMarker context identity with
    | .ok expected => .ok (identity.ownershipMarker = expected)
    | .error abort => .error abort
  else .ok false

/-- `assertExecutionIdentity`. -/
def assertExecutionIdentity (context : ProviderContext)
    (identity : ProviderOperationExecutionIdentity) : Except OperationAbort Unit :=
  let refused : Except OperationAbort Unit :=
    .error (.invalid "Invalid provider operation execution identity")
  if isUuid identity.integrationId && isUuid identity.operationId &&
      isSha256Hex identity.planHash && 1 ≤ identity.integrationGeneration then
    match verifyProviderOperationOwnershipMarker context identity with
    | .ok true => .ok ()
    | .ok false => refused
    | .error abort => .error abort
  else refused

/-! ## Plans -/

/-- A key that a stored document may have. -/
def isRedactedKey (key : String) : Bool :=
  within (fun c => c.isAlphanum) 1 64 key && key.toList.head?.any Char.isAlpha

/-- The words that name secrets. -/
def secretWords : List String :=
  ["token", "secret", "password", "credential", "authorization", "connectionuri",
    "connectionurl", "host"]

/-- A key that names a secret. -/
def namesSecret (key : String) : Bool :=
  let lowered := key.toList.map Char.toLower
  key ≠ "credentialFenceFingerprint" && secretWords.any fun word =>
    lowered.tails.any fun tail => word.toList.isPrefixOf tail

/-- A text that a stored document may hold. -/
def isRedactedText (text : String) : Bool :=
  decide ((Desktop.utf16 text.toList).length ≤ 2048) && !text.toList.any fun c =>
    isControl c && c ≠ '\t' && c ≠ '\n' && c ≠ '\r'

mutual
/-- `safeRedactedValue`: what is said against a document, if anything. -/
def redactedViolation (depth : Nat) : Json → Option String
  | .null => none
  | .bool _ => none
  | .int _ => none
  | .float _ => none
  | .str text => if isRedactedText text then none else some "Invalid provider operation plan"
  | .arr items =>
    if 8 ≤ depth || decide (128 < items.length) then some "Invalid provider operation plan"
    else itemsViolation (depth + 1) items
  | .obj fields =>
    if 8 ≤ depth then some "Invalid provider operation plan" else membersViolation (depth + 1) fields

/-- The same for the items of an array. -/
def itemsViolation (depth : Nat) : List Json → Option String
  | [] => none
  | item :: rest => (redactedViolation depth item).or (itemsViolation depth rest)

/-- The same for the members of an object. -/
def membersViolation (depth : Nat) : List (String × Json) → Option String
  | [] => none
  | (key, child) :: rest =>
    if !isRedactedKey key || namesSecret key then
      some "Provider operation plan contains secret-bearing data"
    else (redactedViolation depth child).or (membersViolation depth rest)
end

/-- `MAX_REDACTED_PLAN_BYTES`. -/
def MAX_REDACTED_PLAN_BYTES : Nat := 32 * 1024

/-- The kind that a plan names. -/
def planKind (plan : Json) : Option ProviderOperationKind :=
  [ProviderOperationKind.create, .delete, .switch].find? fun kind =>
    textAt plan ["kind"] = some kind.text

/-- `assertPlan`. -/
def assertPlan (context : ProviderContext) (identity : ProviderOperationExecutionIdentity)
    (plan : Json) : Except OperationAbort Unit :=
  let refused : Except OperationAbort Unit := .error (.invalid "Invalid provider operation plan")
  match redactedViolation 0 plan with
  | some message => .error (.invalid message)
  | none =>
    if (textBytes (canonicalJsonText context.collation plan)).length ≤ MAX_REDACTED_PLAN_BYTES &&
        canonicalHash context.collation plan = identity.planHash &&
        textAt plan ["operationId"] = some identity.operationId &&
        textAt plan ["integrationId"] = some identity.integrationId &&
        textAt plan ["integrationGeneration"] =
          some (toString identity.integrationGeneration) then
      match verifyProviderOperationOwnershipMarker context identity with
      | .ok true => .ok ()
      | .ok false => refused
      | .error abort => .error abort
    else refused

/-- The policy that a risk asks for. -/
def policyOf (risk : Option String) : String :=
  if risk = some "production_data" then "separate_admin" else "single_admin"

/-- `validPlanPolicy`. -/
def validPlanPolicy (plan : Json) : Bool :=
  let risk := textAt plan ["risk"]
  let policy := textAt plan ["approvalPolicy"]
  let production (side : String) : Bool := textAt plan [side, "environment"] = some "production"
  match planKind plan with
  | some .create =>
    risk = some (if boolAt plan ["target", "copiesData"] = some true && production "source" then
      "production_data" else "standard") && policy = some (policyOf risk)
  | some .switch =>
    risk = some (if production "source" || production "target" then "production_data"
      else "standard") && policy = some (policyOf risk) &&
      pathOf plan ["source", "activeLeaseCount"] = pathOf plan ["impact", "activeLeaseCount"] &&
      ["closesExistingSessions", "createsConnectionRevision", "reintrospectionRequired"].all
        fun name => boolAt plan ["impact", name] = some true
  | some .delete =>
    risk = some "standard" && policy = some "single_admin" &&
      textAt plan ["deletionMode"] = some "provider_default_soft_delete" &&
      numberAt plan ["references", "connectionCount"] = some 0 &&
      numberAt plan ["references", "activeLeaseCount"] = some 0
  | none => false

/-- `providerOperationPlanStorage`: the project, the source and the name that a plan is stored
under. -/
def providerOperationPlanStorage (plan : Json) : String × String × String :=
  let side := if planKind plan = some .delete then "target" else "source"
  ((textAt plan [side, "projectId"]).getD "", (textAt plan [side, "branchId"]).getD "",
    (textAt plan ["target", "name"]).getD "")

/-! ## Rows -/

/-- `redacted_result` of an operation. -/
structure RedactedResult where
  status : ObservedStatus
  branchId : Option String
  providerOperationId : Option String
  providerOperationStatus : Option String
  endpointId : Option String
  databaseCount : Option Nat
  databaseFingerprint : Option String
  retiredInheritedRoleCount : Option Nat
  credentialFenceFingerprint : Option String
  managedAccessState : ProviderManagedAccessState
  failureCode : Option String
  observedAt : Nat
  resourceFingerprint : Option String := none
  bootstrapProviderAuditId : Option String := none
  bootstrapResourceFingerprint : Option String := none
  bootstrapPlanHash : Option String := none
  bootstrapReadyAt : Option Nat := none
  deriving DecidableEq

/-- A row of `workspace_provider_operation`. -/
structure ProviderOperation where
  id : String
  integrationId : String
  integrationGeneration : Nat
  kind : ProviderOperationKind
  state : ProviderOperationState := .awaitingApproval
  idempotencyKey : String
  requestHash : String
  planHash : String
  planExpiresAt : Nat
  risk : String
  approvalPolicy : String
  requestedByMemberId : String
  requestedByUserId : String
  requestedBySessionId : String
  requestedByRole : String
  resourceScope : String
  sourceResourceId : String
  targetName : String
  ownershipMarker : String
  redactedPlan : Json
  providerOperationId : Option String := none
  providerResourceId : Option String := none
  redactedResult : Option RedactedResult := none
  failureCode : Option String := none
  claimId : Option String := none
  claimedAt : Option Nat := none
  remoteStartedAt : Option Nat := none
  reconcileAfter : Option Nat := none
  completedAt : Option Nat := none
  createdAt : Nat
  updatedAt : Nat
  deriving DecidableEq

/-- A row of `workspace_provider_operation_approval`. -/
structure ProviderOperationApproval where
  id : String
  operationId : String
  planHash : String
  decision : ProviderOperationDecision
  actorMemberId : String
  actorUserId : String
  actorSessionId : String
  actorRole : String
  deriving DecidableEq

namespace ProviderOperation

/-- The claim, the start and the end of an operation agree with its state. -/
def claimConsistent (row : ProviderOperation) : Bool :=
  match row.state with
  | .awaitingApproval | .approved =>
    row.claimId.isNone && row.claimedAt.isNone && row.remoteStartedAt.isNone &&
      row.completedAt.isNone
  | .claimed =>
    row.claimId.isSome && row.claimedAt.isSome && row.remoteStartedAt.isNone &&
      row.completedAt.isNone
  | .remoteStarted | .reconciling =>
    row.claimId.isSome && row.claimedAt.isSome && row.remoteStartedAt.isSome &&
      row.completedAt.isNone
  | .succeeded | .failed | .needsRepair | .cancelled => row.completedAt.isSome

/-- The constraint of the table that a row violates. -/
def violation (row : ProviderOperation) : Option String :=
  if row.integrationGeneration = 0 then some "provider_operation_generation"
  else if !(isSha256Hex row.requestHash && isSha256Hex row.planHash) then
    some "provider_operation_hashes"
  else if !(decide (row.risk ∈ ["standard", "production_data"])) then
    some "provider_operation_risk"
  else if !(decide (row.approvalPolicy ∈ ["single_admin", "separate_admin"]) &&
      (row.risk ≠ "production_data" || row.approvalPolicy = "separate_admin")) then
    some "provider_operation_approval_policy"
  else if !(decide (row.requestedByRole ∈ managerRoles)) then
    some "provider_operation_requester_role"
  else if !(isNeonIdentifier row.resourceScope && isNeonIdentifier row.sourceResourceId &&
      isMarkerText row.ownershipMarker) then
    some "provider_operation_neon_identifiers"
  else if !(row.providerOperationId.all fun id =>
      isUuid id && id.toList.all fun c => isLowerHex c || c = '-') then
    some "provider_operation_provider_identifiers"
  else if !(row.providerResourceId.all isNeonIdentifier) then
    some "provider_operation_provider_resource"
  else if !(row.failureCode.all isFailureCode) then some "provider_operation_failure_code"
  else if !(decide (row.createdAt < row.planExpiresAt) &&
      decide (row.planExpiresAt ≤ row.createdAt + 900000)) then
    some "provider_operation_plan_expiry"
  else if !row.claimConsistent then some "provider_operation_claim_consistency"
  else if row.claimId.isSome ≠ row.claimedAt.isSome then some "provider_operation_claim_pair"
  else if row.failureCode.isSome && row.state ≠ .failed && row.state ≠ .needsRepair then
    some "provider_operation_failure_state"
  else if row.state = .succeeded && row.providerResourceId.isNone then
    some "provider_operation_success_resource"
  else none

end ProviderOperation

end Dopedb.Cloud
