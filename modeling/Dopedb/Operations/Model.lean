import Dopedb.Platform
import Dopedb.Library.Table

/-!
# Operation vocabulary

The enumerations of `dopedb-protocol/src/operation.rs` with their stored names, and the records
of `operations/model.rs`. A stored column whose name and value determine each other is kept as
the value; the four JSON columns of an operation are kept as the text the store holds.
-/

namespace Dopedb.Operations

open Library

/-- What an operation does. -/
inductive OperationKind where
  | readQuery | documentRead | writeSql | ddl | privilege | sqlScript | tableDataChange
  | schemaChange | import | export | pluginAction | providerAction
  deriving DecidableEq, Repr

namespace OperationKind

/-- Imports and exports survive a restart through a checkpoint. -/
def isResumableJob : OperationKind → Bool
  | .import | .export => true
  | _ => false

/-- Whether an interrupted execution may already have changed the target database. -/
def mayMutateTarget : OperationKind → Bool
  | .writeSql | .ddl | .privilege | .sqlScript | .tableDataChange | .schemaChange | .import
  | .pluginAction | .providerAction => true
  | .readQuery | .documentRead | .export => false

end OperationKind

/-- Who acts on an operation. -/
inductive OperationActorKind where
  | localUser | workspaceUser | agent | plugin | system
  deriving DecidableEq, Repr

/-- The stored name of an actor kind. -/
def actorKindStr : OperationActorKind → String
  | .localUser => "local_user"
  | .workspaceUser => "workspace_user"
  | .agent => "agent"
  | .plugin => "plugin"
  | .system => "system"

/-- The lifecycle states. -/
inductive OperationState where
  | planned | pendingApproval | ready | approved | rejected | expired | cancelled | executing
  | succeeded | failed | outcomeUnknown
  deriving DecidableEq, Repr

/-- The states without a successor. -/
def OperationState.isTerminal : OperationState → Bool
  | .rejected | .expired | .cancelled | .succeeded | .failed | .outcomeUnknown => true
  | .planned | .pendingApproval | .ready | .approved | .executing => false

/-- The stored name of a state. -/
def stateStr : OperationState → String
  | .planned => "planned"
  | .pendingApproval => "pending_approval"
  | .ready => "ready"
  | .approved => "approved"
  | .rejected => "rejected"
  | .expired => "expired"
  | .cancelled => "cancelled"
  | .executing => "executing"
  | .succeeded => "succeeded"
  | .failed => "failed"
  | .outcomeUnknown => "outcome_unknown"

/-- States are determined by their stored names. -/
theorem state_str_inj {state state' : OperationState} (h : stateStr state = stateStr state') :
    state = state' := by
  cases state <;> cases state' <;> first | rfl | exact absurd h (by decide)

/-- The kinds of ledger events. -/
inductive OperationEventKind where
  | proposed | planned | approvalRequested | approved | rejected | executionStarted | progress
  | succeeded | failed | cancelled | outcomeUnknown | expired
  deriving DecidableEq, Repr

/-- The stored name of an event kind. -/
def eventKindStr : OperationEventKind → String
  | .proposed => "proposed"
  | .planned => "planned"
  | .approvalRequested => "approval_requested"
  | .approved => "approved"
  | .rejected => "rejected"
  | .executionStarted => "execution_started"
  | .progress => "progress"
  | .succeeded => "succeeded"
  | .failed => "failed"
  | .cancelled => "cancelled"
  | .outcomeUnknown => "outcome_unknown"
  | .expired => "expired"

/-- Event kinds are determined by their stored names. -/
theorem event_kind_str_inj {kind kind' : OperationEventKind}
    (h : eventKindStr kind = eventKindStr kind') : kind = kind' := by
  cases kind <;> cases kind' <;> first | rfl | exact absurd h (by decide)

/-- The risk shown with a plan. -/
inductive OperationRiskLevel where
  | low | medium | high | critical
  deriving DecidableEq, Repr

/-- The stored name of a risk level. -/
def riskLevelStr : OperationRiskLevel → String
  | .low => "low"
  | .medium => "medium"
  | .high => "high"
  | .critical => "critical"

/-- What a person decides about a plan. -/
inductive OperationApprovalDecision where
  | approved | rejected
  deriving DecidableEq, Repr

/-- The errors the repository returns, with their texts. `db` stands for a failed SQL statement
and `serialization` for a `serde_json` error. -/
inductive AppError where
  | blocked (reason : String)
  | config (message : String)
  | notFound (what : String)
  | db (message : String)
  | serialization (message : String)
  deriving DecidableEq, Repr

/-- A refusal by the lifecycle rules. -/
def operationConflict (reason : String) : AppError := .blocked reason

/-- Bounded provenance attached to the actor identity. -/
structure OperationActorProvenance where
  localAccountId : Option String
  workspaceAccountId : Option String
  agentProvider : Option String
  agentModel : Option String
  pluginId : Option String
  pluginVersion : Option String
  clientProtocolVersion : Option UInt16
  originSurface : String
  deriving DecidableEq

namespace OperationActorProvenance

/-- A member that is skipped when it is absent. -/
def optional (key : String) (value : Option Json) : List (String × Json) :=
  (value.map fun v => (key, v)).toList

/-- The serialized provenance. -/
def toJson (p : OperationActorProvenance) : Json :=
  .obj (optional "localAccountId" (p.localAccountId.map .str) ++
    optional "workspaceAccountId" (p.workspaceAccountId.map .str) ++
    optional "agentProvider" (p.agentProvider.map .str) ++
    optional "agentModel" (p.agentModel.map .str) ++
    optional "pluginId" (p.pluginId.map .str) ++
    optional "pluginVersion" (p.pluginVersion.map .str) ++
    optional "clientProtocolVersion" (p.clientProtocolVersion.map fun n => .int n.toNat) ++
    [("originSurface", .str p.originSurface)])

/-- The members that deserialization knows; any other member is refused. -/
def knownKeys : List String :=
  ["localAccountId", "workspaceAccountId", "agentProvider", "agentModel", "pluginId",
    "pluginVersion", "clientProtocolVersion", "originSurface"]

/-- Read an optional text member. -/
def readText (doc : Json) (key : String) : Option (Option String) :=
  match doc.get? key with
  | none | some .null => some none
  | some (.str text) => some (some text)
  | some _ => none

/-- Read an optional 16-bit member. -/
def readUInt16 (doc : Json) (key : String) : Option (Option UInt16) :=
  match doc.get? key with
  | none | some .null => some none
  | some (.int n) => if 0 ≤ n ∧ n < 65536 then some (some n.toNat.toUInt16) else none
  | some _ => none

/-- Deserialize a provenance, refusing unknown members. -/
def ofJson (doc : Json) : Option OperationActorProvenance := do
  let .obj fields := doc | none
  if fields.all fun m => m.1 ∈ knownKeys then
    let originSurface ← readText doc "originSurface"
    pure {
      localAccountId := ← readText doc "localAccountId"
      workspaceAccountId := ← readText doc "workspaceAccountId"
      agentProvider := ← readText doc "agentProvider"
      agentModel := ← readText doc "agentModel"
      pluginId := ← readText doc "pluginId"
      pluginVersion := ← readText doc "pluginVersion"
      clientProtocolVersion := ← readUInt16 doc "clientProtocolVersion"
      originSurface := ← originSurface }
  else none

end OperationActorProvenance

/-- The actor of an operation. -/
structure OperationActor where
  kind : OperationActorKind
  id : String
  provenance : OperationActorProvenance
  deriving DecidableEq

/-- Untrusted adapter input, used only to create a first persisted `planned` record. -/
structure NewOperation where
  id : Uuid
  workspaceId : Uuid
  accountScope : String
  connectionId : Uuid
  connectionRevision : Int
  terminalSessionId : Option Uuid
  actor : OperationActor
  kind : OperationKind
  payloadSchemaVersion : Nat
  payload : Json
  schemaFingerprint : Option String
  riskLevel : OperationRiskLevel
  preview : Json
  policySnapshot : Json
  policyRevision : String
  singleUse : Bool
  idempotencyKey : String
  expiresAt : Option DateTime

/-- The columns of an operation other than its JSON texts. -/
structure OperationColumns where
  id : Uuid
  runtimeId : Uuid
  workspaceId : Uuid
  accountScope : String
  connectionId : Uuid
  connectionRevision : Int
  terminalSessionId : Option Uuid
  actorKind : OperationActorKind
  actorId : String
  kind : OperationKind
  payloadSchemaVersion : Nat
  payloadHash : String
  schemaFingerprint : Option String
  riskLevel : OperationRiskLevel
  policyRevision : String
  state : OperationState
  singleUse : Bool
  idempotencyKey : String
  expiresAt : Option DateTime
  startedAt : Option DateTime
  finishedAt : Option DateTime
  createdAt : DateTime
  updatedAt : DateTime
  deriving DecidableEq

/-- One row of `operations`. -/
structure OperationRow extends OperationColumns where
  actorProvenanceJson : String
  payloadJson : String
  previewJson : String
  policySnapshotJson : String
  deriving DecidableEq

/-- The primary key of `operations`. -/
abbrev OperationRow.key (r : OperationRow) : Uuid := r.id

/-- The projection loaded from one row, with its JSON columns parsed. -/
structure OperationRecord extends OperationColumns where
  provenance : OperationActorProvenance
  payload : Json
  preview : Json
  policySnapshot : Json

/-- The actor of a loaded operation. -/
def OperationRecord.actor (r : OperationRecord) : OperationActor :=
  ⟨r.actorKind, r.actorId, r.provenance⟩

/-- One row of `operation_approvals`. -/
structure ApprovalRow where
  id : Uuid
  operationId : Uuid
  payloadHash : String
  approverKind : OperationActorKind
  approverId : String
  decision : OperationApprovalDecision
  reason : Option String
  policyRevision : String
  createdAt : DateTime
  expiresAt : Option DateTime
  deriving DecidableEq

/-- One row of `operation_events`. -/
structure EventRow where
  id : Uuid
  operationId : Uuid
  sequence : Int
  kind : OperationEventKind
  state : OperationState
  eventJson : String
  createdAt : DateTime
  prevHash : Option String
  hash : String
  deriving DecidableEq

/-- An event loaded from one row, with its details parsed. -/
structure OperationEventRecord where
  id : Uuid
  operationId : Uuid
  sequence : Int
  kind : OperationEventKind
  state : OperationState
  details : Json
  createdAt : DateTime
  prevHash : Option String
  hash : String

/-- Who approves. -/
structure OperationApprover where
  kind : OperationActorKind
  id : String

/-- One exact decision of a person. -/
structure OperationApprovalCommand where
  operationId : Uuid
  runtimeId : Uuid
  expectedPayloadHash : String
  approver : OperationApprover
  decision : OperationApprovalDecision
  reason : Option String
  currentPolicyRevision : String
  now : DateTime

/-- What restart recovery did, by operation. -/
structure RestartRecoveryReport where
  expired : List Uuid
  failed : List Uuid
  outcomeUnknown : List Uuid
  checkpointValidationRequired : List Uuid
  provisioningCheckpointValidationRequired : List Uuid
  deriving DecidableEq

/-- The three tables of the operation store. -/
structure Store where
  operations : Table OperationRow.key
  approvals : Table ApprovalRow.id
  events : Table EventRow.id

/-- The store before the first operation. -/
def Store.empty : Store := ⟨.empty, .empty, .empty⟩

end Dopedb.Operations
