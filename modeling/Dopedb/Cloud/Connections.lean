import Dopedb.Cloud.ConnectionTemplates

/-!
# Connections and their versions

The tables around `workspace_connection` for one workspace: the live rows with their grants, provider
integrations, provider resources and credential leases, and the append-only versions, conflicts and
resolutions. Columns that no modelled operation reads are left out.
-/

namespace Dopedb.Cloud

open Library

/-! ## Rows -/

/-- A row of `workspace_connection`. -/
structure WorkspaceConnection where
  id : String
  name : String
  engine : TemplateEngine
  provider : TemplateProvider
  driverId : Option String
  host : String
  port : Nat
  databaseName : String
  sslmode : String
  readonlyDefault : Bool
  allowWrites : Bool
  credentialMode : CredentialMode := .memberLocal
  providerIntegrationId : Option String := none
  providerResource : Option Json := none
  providerResourceId : Option String := none
  environment : Option String
  schemaGroup : Option String
  mongoOptions : Option Json
  contentRevision : Nat := 1
  revision : Nat := 1
  deletedAt : Option Nat := none
  revocationPendingAt : Option Nat := none
  revocationClaimedAt : Option Nat := none
  revocationClaimId : Option String := none
  deriving DecidableEq

/-- A row of `workspace_connection_grant`. -/
structure ConnectionGrant where
  connectionId : String
  memberId : String
  capability : String
  deriving DecidableEq

/-- A row of `workspace_provider_integration`. -/
structure ProviderIntegration where
  id : String
  provider : String
  status : String := "active"
  generation : Nat := 1
  refreshPhase : String := "idle"
  revokedAt : Option Nat := none
  revocationPendingAt : Option Nat := none
  revocationClaimedAt : Option Nat := none
  revocationClaimId : Option String := none
  deriving DecidableEq

/-- A row of `workspace_provider_resource`. -/
structure ProviderResource where
  id : String
  provider : String
  resourceFingerprint : String
  resource : Json
  redactedMetadata : Json
  capabilityManifest : Json
  deriving DecidableEq

/-- A row of `workspace_credential_lease`. -/
structure CredentialLease where
  id : String
  connectionId : String
  integrationId : String
  userId : String
  provider : String
  accessMode : String
  externalCredentialId : String
  externalCredentialKind : String
  providerAuditId : Option String := none
  activeSlot : Option Nat
  expiresAt : Nat
  revokedAt : Option Nat := none
  cleanupAttempts : Nat := 0
  cleanupNextAttemptAt : Option Nat := none
  cleanupClaimedAt : Option Nat := none
  deriving DecidableEq

/-- The branches of a version. -/
inductive VersionBranch where
  | main | conflict
  deriving DecidableEq, Repr

/-- How a version came to be. -/
inductive VersionOperation where
  | create | update | delete | restore
  deriving DecidableEq, Repr

/-- A row of `workspace_resource_version`. -/
structure ResourceVersion where
  id : String
  resourceId : String
  revision : Nat
  baseRevision : Option Nat
  parentVersionId : Option String
  branch : VersionBranch
  operation : VersionOperation
  payload : ConnectionVersionPayload
  payloadHash : String
  deriving DecidableEq

/-- A row of `workspace_resource_conflict`. -/
structure ResourceConflict where
  id : String
  resourceId : String
  expectedRevision : Nat
  serverVersionId : String
  candidateVersionId : String
  deriving DecidableEq

/-- How a conflict was decided. -/
inductive ConflictDecision where
  | server | candidate | dismissed
  deriving DecidableEq, Repr

/-- A row of `workspace_resource_conflict_resolution`. -/
structure ConflictResolution where
  id : String
  conflictId : String
  resolution : ConflictDecision
  resultingVersionId : Option String
  deriving DecidableEq

/-- The tables. -/
structure ConnectionTables where
  connections : List WorkspaceConnection := []
  grants : List ConnectionGrant := []
  integrations : List ProviderIntegration := []
  resources : List ProviderResource := []
  leases : List CredentialLease := []
  versions : List ResourceVersion := []
  conflicts : List ResourceConflict := []
  resolutions : List ConflictResolution := []
  deriving DecidableEq

/-! ## Payloads -/

/-- `persistedConnectionVersionPayload`. -/
def persistedConnectionVersionPayload (row : WorkspaceConnection) (deleted : Bool) :
    ConnectionVersionPayload where
  name := row.name
  engine := row.engine
  provider := row.provider
  driverId := row.driverId
  host := row.host
  port := row.port
  database := row.databaseName
  sslmode := row.sslmode
  readonlyDefault := row.readonlyDefault
  allowWrites := row.allowWrites
  env := row.environment
  schemaGroup := row.schemaGroup
  mongoOptions := if row.engine = .mongodb then storedMongoOptions row.mongoOptions else none
  deleted

/-- `canonicalHash` of a payload. -/
def payloadHash (collation : Collation) (payload : ConnectionVersionPayload) : String :=
  canonicalHash collation payload.toJson

/-- `providerResourceFingerprint`. -/
def providerResourceFingerprint (collation : Collation) (provider : String) (resource : Json) :
    String :=
  let text := provider.toList ++ '\n' :: canonicalJsonText collation resource
  String.ofList ((Sha256.digest ((textBytes text).map UInt8.toNat)).toList.flatMap hexByte)

/-- `jsonEqual`: documents that are equal up to the order of members. -/
def jsonEqual (left right : Option Json) : Bool :=
  match left, right with
  | some left, some right => left.canonicalValue = right.canonicalValue
  | _, _ => false

/-- The member of a document under a path. -/
def pathOf (document : Json) : List String → Option Json
  | [] => some document
  | name :: rest => (document.get? name).bind fun child => pathOf child rest

/-- The text under a path. -/
def textAt (document : Json) (path : List String) : Option String :=
  match pathOf document path with
  | some (.str text) => some text
  | _ => none

/-- The number under a path. -/
def numberAt (document : Json) (path : List String) : Option Nat :=
  match pathOf document path with
  | some (.int number) => if 0 ≤ number then some number.toNat else none
  | _ => none

/-- The truth value under a path. -/
def boolAt (document : Json) (path : List String) : Option Bool :=
  match pathOf document path with
  | some (.bool value) => some value
  | _ => none

/-! ## Looking up -/

namespace ConnectionTables

/-- The connection with an id. -/
def findConnection (tables : ConnectionTables) (id : String) : Option WorkspaceConnection :=
  tables.connections.find? fun connection => connection.id = id

/-- The integration with an id. -/
def findIntegration (tables : ConnectionTables) (id : String) : Option ProviderIntegration :=
  tables.integrations.find? fun integration => integration.id = id

/-- The provider resource with an id. -/
def findResource (tables : ConnectionTables) (id : String) : Option ProviderResource :=
  tables.resources.find? fun resource => resource.id = id

/-- A member holds a capability on a connection. -/
def hasGrant (tables : ConnectionTables) (connectionId memberId : String)
    (allows : String → Bool) : Bool :=
  tables.grants.any fun grant =>
    grant.connectionId = connectionId && grant.memberId = memberId && allows grant.capability

/-- The version of a connection on its main branch at a revision. -/
def mainVersion (tables : ConnectionTables) (connectionId : String) (revision : Nat) :
    Option ResourceVersion :=
  tables.versions.find? fun version =>
    version.resourceId = connectionId && version.branch = .main && version.revision = revision

/-- Every connection with an id is replaced. -/
def updateConnection (tables : ConnectionTables) (id : String)
    (change : WorkspaceConnection → WorkspaceConnection) : ConnectionTables :=
  { tables with
    connections := tables.connections.map fun connection =>
      if connection.id = id then change connection else connection }

/-- The constraint that a new version violates. -/
def versionViolation (tables : ConnectionTables) (version : ResourceVersion) : Option String :=
  if tables.versions.any fun old => old.id = version.id then
    some "workspace_resource_version.id"
  else if version.branch = .main && tables.versions.any fun old =>
      old.branch = .main && old.resourceId = version.resourceId &&
        old.revision = version.revision then
    some "workspace_resource_version_main_revision_idx"
  else if (version.branch = .main && version.revision = 0) ||
      decide (MAX_SAFE_INTEGER < version.revision) then
    some "workspace_resource_version_revision"
  else if (tables.findConnection version.resourceId).isNone ||
      version.parentVersionId.any fun parent => tables.versions.all fun old => old.id ≠ parent then
    some "FOREIGN KEY"
  else none

/-- A version is recorded, or the statement is aborted. -/
def insertVersion (tables : ConnectionTables) (version : ResourceVersion) :
    Except String ConnectionTables :=
  match tables.versionViolation version with
  | some constraint => .error constraint
  | none => .ok { tables with versions := tables.versions ++ [version] }

end ConnectionTables

end Dopedb.Cloud
