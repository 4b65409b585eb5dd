import Dopedb.Cloud.ProviderOperations
import Dopedb.Cloud.WorkspaceSnapshot

/-!
# The history of connections

The batches that write connections and their versions, from `workspace-versioning-store.ts`,
`workspace-snapshot-restore.ts`, `provider-import-store.ts` and `provider-operation-switch.ts`, with
what the requests hand to them. A request reads a row first and commits later, so the rows that were
read are part of the state. Audit rows and the grants of the team-read policy are left out.
-/

namespace Dopedb.Cloud

open Library ProviderStore

/-- A row of `workspace_metadata_backup`. -/
structure MetadataBackup where
  id : String
  sourceRevision : Nat
  deletedAt : Option Nat := none
  deriving DecidableEq

/-- The tables of one workspace, and the rows that requests have read. `blocked` holds the
connections whose direct access still has to be lowered. -/
structure HistoryStore extends ProviderStore where
  profileRevision : Nat := 1
  backups : List MetadataBackup := []
  blocked : List String := []
  reads : List WorkspaceConnection := []

namespace HistoryStore

/-- `connectionAuthority`. -/
def connectionAuthority (store : HistoryStore) (authority : MemberAuthority)
    (connectionId : Option String) (roles : List String) : Bool :=
  (store.directory.workspaceMemberAuthority store.now authority roles).isSome &&
    connectionId.all fun id =>
      store.tables.hasGrant id authority.membershipId (· = "manage")

/-- The tables of a store are replaced. -/
def withTables (store : HistoryStore) (tables : ConnectionTables) : HistoryStore :=
  { store with tables := tables }

/-- The constraint `workspace_connection_member_local_read_only`. -/
def memberLocalReadOnly (row : WorkspaceConnection) : Bool :=
  row.credentialMode = .managed || (row.readonlyDefault && !row.allowWrites)

/-- A new connection, or the constraint that it violates. -/
def insertConnection (tables : ConnectionTables) (row : WorkspaceConnection) :
    Except String ConnectionTables :=
  if (tables.findConnection row.id).isSome then .error "workspace_connection.id"
  else if !memberLocalReadOnly row then .error "workspace_connection_member_local_read_only"
  else .ok { tables with connections := tables.connections ++ [row] }

/-- A connection is replaced, or the constraint that its new row violates. -/
def replaceConnection (tables : ConnectionTables) (id : String)
    (change : WorkspaceConnection → WorkspaceConnection) : Except String ConnectionTables :=
  if (tables.findConnection id).all fun row => memberLocalReadOnly (change row) then
    .ok (tables.updateConnection id change)
  else .error "workspace_connection_member_local_read_only"

/-- A manage grant for each of some members; one that is there stays. -/
def grantManage (connectionId : String) (memberIds : List String) (tables : ConnectionTables) :
    ConnectionTables :=
  { tables with grants := memberIds.foldl (fun grants memberId =>
      if grants.any fun grant => grant.connectionId = connectionId && grant.memberId = memberId then
        grants
      else grants ++ [⟨connectionId, memberId, "manage"⟩]) tables.grants }

/-- A new conflict, or the constraint that it violates. -/
def insertConflict (tables : ConnectionTables) (conflict : ResourceConflict) :
    Except String ConnectionTables :=
  if tables.conflicts.any fun old => old.id = conflict.id then
    .error "workspace_resource_conflict.id"
  else if tables.versions.all (fun version => version.id ≠ conflict.serverVersionId) ||
      tables.versions.all (fun version => version.id ≠ conflict.candidateVersionId) then
    .error "FOREIGN KEY"
  else .ok { tables with conflicts := tables.conflicts ++ [conflict] }

/-- The row of a connection that is created from a payload. -/
def createdRow (connectionId : String) (contentRevision : Nat) (input : SharedConnectionInput) :
    WorkspaceConnection where
  id := connectionId
  name := input.name
  engine := input.engine
  provider := input.provider
  driverId := input.driverId
  host := input.host
  port := input.port
  databaseName := input.database
  sslmode := input.sslmode
  readonlyDefault := input.readonlyDefault
  allowWrites := input.allowWrites
  environment := input.env
  schemaGroup := input.schemaGroup
  mongoOptions := input.mongoOptions.map (·.toJson)
  contentRevision

/-- A version with the hash of its payload. -/
def hashedVersion (collation : Collation) (id connectionId : String) (revision : Nat)
    (parentVersionId : Option String) (branch : VersionBranch) (operation : VersionOperation)
    (baseRevision : Nat) (payload : ConnectionVersionPayload) : ResourceVersion where
  id
  resourceId := connectionId
  revision
  baseRevision := some baseRevision
  parentVersionId
  branch
  operation
  payload
  payloadHash := payloadHash collation payload

/-! ## Creation -/

/-- The input of `commitConnectionCreate`, with the id of the first version. -/
structure ConnectionCreate where
  connectionId : String
  versionId : String
  authority : MemberAuthority
  input : ConnectionVersionPayload
  direct : Bool := false
  deriving DecidableEq

/-- Someone who may create a connection, with the members that manage it. -/
def createScope (input : ConnectionCreate) (store : HistoryStore) : Option (List String) :=
  if store.connectionAuthority input.authority none
      (if input.direct then managerRoles else editorRoles) then
    some (input.authority.membershipId :: (if input.direct then [] else
      (store.directory.members.filter fun row =>
        decide (row.role ∈ managerRoles) && row.unrevoked).map (·.id)))
  else none

/-- The connection, its grants and its first version. -/
def createRows (collation : Collation) (input : ConnectionCreate) :
    Statement String HistoryStore (List String)
  | none, store => .ok store
  | some managers, store => do
    let tables ← insertConnection store.tables
      (createdRow input.connectionId 1 input.input.toSharedConnectionInput)
    let tables ← (grantManage input.connectionId managers tables).insertVersion
      (hashedVersion collation input.versionId input.connectionId 1 none .main .create 0 input.input)
    return store.withTables tables

/-- `commitConnectionCreate`. -/
def commitConnectionCreate (collation : Collation) (input : ConnectionCreate)
    (store : HistoryStore) : Except String (HistoryStore × Option (List String)) :=
  runBatch (createScope input) [createRows collation input] store

/-! ## Updates and deletions -/

/-- The `mutation` of `commitConnectionMutation`: the payload, and for an update the columns. -/
inductive ConnectionChange where
  | update (payload : ConnectionVersionPayload) (columns : SharedConnectionInput)
  | delete (payload : ConnectionVersionPayload)
  deriving DecidableEq

/-- The payload of a mutation. -/
def ConnectionChange.payload : ConnectionChange → ConnectionVersionPayload
  | .update payload _ => payload
  | .delete payload => payload

/-- The operation of a mutation. -/
def ConnectionChange.operation : ConnectionChange → VersionOperation
  | .update _ _ => .update
  | .delete _ => .delete

/-- The input of `commitConnectionMutation`, with the id of the version. -/
structure ConnectionMutation where
  connectionId : String
  versionId : String
  expectedContentRevision : Nat
  expectedAuthorityRevision : Nat
  claimId : String
  authority : MemberAuthority
  requireWorkspaceManager : Bool := false
  mutation : ConnectionChange
  deriving DecidableEq

/-- The row after a mutation. -/
def mutatedRow (now : Nat) (mutation : ConnectionChange) (row : WorkspaceConnection) :
    WorkspaceConnection :=
  match mutation with
  | .update _ columns =>
    { createdRow row.id (row.contentRevision + 1) columns with
      -- an update leaves these columns as they are
      credentialMode := row.credentialMode
      providerIntegrationId := row.providerIntegrationId
      providerResource := row.providerResource
      providerResourceId := row.providerResourceId
      revision := row.revision
      deletedAt := row.deletedAt }
  | .delete _ =>
    { row with
      deletedAt := some now
      providerIntegrationId := none
      providerResource := none
      providerResourceId := none
      revocationPendingAt := none
      revocationClaimedAt := none
      revocationClaimId := none
      contentRevision := row.contentRevision + 1 }

/-- The present version of the connection that a mutation was made for. -/
def mutationScope (input : ConnectionMutation) (store : HistoryStore) : Option String :=
  match store.tables.findConnection input.connectionId with
  | none => none
  | some row =>
    match store.tables.mainVersion row.id row.contentRevision with
    | none => none
    | some version =>
      if row.contentRevision = input.expectedContentRevision &&
          row.revision = input.expectedAuthorityRevision &&
          row.revocationClaimId = some input.claimId && row.deletedAt.isNone &&
          store.connectionAuthority input.authority (some input.connectionId)
            (if input.requireWorkspaceManager then managerRoles else allRoles) &&
          (input.mutation.operation ≠ .delete || decide (input.connectionId ∉ store.blocked)) then
        some version.id
      else none

/-- The connection moves to its next version. -/
def mutateRows (collation : Collation) (input : ConnectionMutation) :
    Statement String HistoryStore String
  | none, store => .ok store
  | some parentId, store => do
    let tables ← replaceConnection store.tables input.connectionId
      (mutatedRow store.now input.mutation)
    let tables ← tables.insertVersion (hashedVersion collation input.versionId input.connectionId
      (input.expectedContentRevision + 1) (some parentId) .main input.mutation.operation
      input.expectedContentRevision input.mutation.payload)
    return store.withTables tables

/-- `commitConnectionMutation`. -/
def commitConnectionMutation (collation : Collation) (input : ConnectionMutation)
    (store : HistoryStore) : Except String (HistoryStore × Option String) :=
  runBatch (mutationScope input) [mutateRows collation input] store

/-! ## Conflicts -/

/-- The input of `conflictConnectionCandidate`, with the ids that it makes up. -/
structure ConflictCandidate where
  connectionId : String
  candidateId : String
  conflictId : String
  expectedRevision : Nat
  payload : ConnectionVersionPayload
  operation : VersionOperation
  authority : MemberAuthority
  deriving DecidableEq

/-- The versions that a candidate disagrees with, and starts from. -/
structure CandidateBase where
  serverId : String
  parentId : String
  deriving DecidableEq

/-- What the candidate is kept beside. -/
def candidateBase (tables : ConnectionTables) (connectionId : String) (expectedRevision : Nat) :
    Option CandidateBase :=
  match tables.findConnection connectionId with
  | none => none
  | some row =>
    (tables.mainVersion row.id row.contentRevision).map fun server => {
      serverId := server.id
      -- the version that the candidate was made from, when it is there
      parentId := ((tables.mainVersion row.id expectedRevision).map (·.id)).getD server.id }

/-- The present version of a connection that its author may manage. -/
def conflictScope (input : ConflictCandidate) (store : HistoryStore) : Option CandidateBase :=
  if store.connectionAuthority input.authority (some input.connectionId) allRoles then
    candidateBase store.tables input.connectionId input.expectedRevision
  else none

/-- The candidate and the conflict. -/
def conflictRows (collation : Collation) (input : ConflictCandidate) :
    Statement String HistoryStore CandidateBase
  | none, store => .ok store
  | some base, store => do
    let tables ← store.tables.insertVersion (hashedVersion collation input.candidateId
      input.connectionId input.expectedRevision (some base.parentId) .conflict input.operation
      input.expectedRevision input.payload)
    let tables ← insertConflict tables {
      id := input.conflictId
      resourceId := input.connectionId
      expectedRevision := input.expectedRevision
      serverVersionId := base.serverId
      candidateVersionId := input.candidateId }
    return store.withTables tables

/-- `conflictConnectionCandidate`. -/
def conflictConnectionCandidate (collation : Collation) (input : ConflictCandidate)
    (store : HistoryStore) : Except String (HistoryStore × Option CandidateBase) :=
  runBatch (conflictScope input) [conflictRows collation input] store

/-- The input of `resolveConnectionConflict`, with the id of the resolution. -/
structure ConflictResolving where
  resolutionId : String
  conflictId : String
  resolution : ConflictDecision
  authority : MemberAuthority
  deriving DecidableEq

/-- A version with an id. -/
def findVersion (tables : ConnectionTables) (id : String) : Option ResourceVersion :=
  tables.versions.find? fun version => version.id = id

/-- The versions of a conflict: the present one, the one that was seen, and the candidate. -/
structure ConflictVersions where
  current : ResourceVersion
  server : ResourceVersion
  candidate : ResourceVersion
  deriving DecidableEq

/-- `versions`: the versions that a conflict is about. -/
def conflictVersions (tables : ConnectionTables) (conflict : ResourceConflict) :
    Option ConflictVersions :=
  match tables.findConnection conflict.resourceId with
  | none => none
  | some row =>
    match tables.mainVersion row.id row.contentRevision, findVersion tables conflict.serverVersionId,
        findVersion tables conflict.candidateVersionId with
    | some current, some server, some candidate => some { current, server, candidate }
    | _, _, _ => none

/-- `eligible`: a decision fits the versions. -/
def eligible (decision : ConflictDecision) (versions : ConflictVersions) : Bool :=
  match decision with
  | .server => versions.current.id = versions.server.id
  | .candidate => versions.current.id ≠ versions.server.id &&
    ((versions.candidate.operation = .delete && versions.current.operation = .delete) ||
      versions.current.payloadHash = versions.candidate.payloadHash)
  | .dismissed => versions.current.id ≠ versions.server.id &&
    versions.current.payloadHash ≠ versions.candidate.payloadHash

/-- How a conflict stands, or now is to be, resolved. -/
structure ResolutionRecord where
  resolution : ConflictDecision
  created : Bool
  currentId : Option String
  deriving DecidableEq

/-- The conflict of someone who manages its connection, with its decision. -/
def resolveScope (input : ConflictResolving) (store : HistoryStore) : Option ResolutionRecord :=
  match store.tables.conflicts.find? fun conflict => conflict.id = input.conflictId with
  | none => none
  | some conflict =>
    if store.connectionAuthority input.authority (some conflict.resourceId) allRoles then
      let versions := (conflictVersions store.tables conflict).filter (eligible input.resolution)
      let existing := store.tables.resolutions.find? fun stored =>
        stored.conflictId = conflict.id
      -- a decision that was recorded before is answered again
      if existing.isSome || versions.isSome then
        some {
          resolution := (existing.map (·.resolution)).getD input.resolution
          created := existing.isNone && versions.isSome
          currentId := versions.map (·.current.id) }
      else none
    else none

/-- A first decision is recorded. -/
def resolveRows (input : ConflictResolving) : Statement String HistoryStore ResolutionRecord
  | none, store => .ok store
  | some found, store =>
    if found.created then
      if store.tables.resolutions.any fun stored => stored.conflictId = input.conflictId then
        .error "workspace_resource_conflict_resolution_org_conflict_idx"
      else if store.tables.resolutions.any fun stored => stored.id = input.resolutionId then
        .error "workspace_resource_conflict_resolution.id"
      else .ok (store.withTables { store.tables with
        resolutions := store.tables.resolutions ++ [{
          id := input.resolutionId
          conflictId := input.conflictId
          resolution := found.resolution
          resultingVersionId := found.currentId }] })
    else .ok store

/-- `resolveConnectionConflict`. -/
def resolveConnectionConflict (input : ConflictResolving) (store : HistoryStore) :
    Except String (HistoryStore × Option ResolutionRecord) :=
  runBatch (resolveScope input) [resolveRows input] store

/-! ## Restoring -/

/-- A connection of a restored snapshot, with the ids that the restore makes up. -/
structure RestoreItem where
  connection : SnapshotConnection
  versionId : String
  conflictId : String
  deriving DecidableEq

/-- What is restored of a connection: never the permission to write. -/
def RestoreItem.payload (item : RestoreItem) : ConnectionVersionPayload where
  toSharedConnectionInput :=
    { item.connection.toSharedConnectionInput with
      readonlyDefault := true
      allowWrites := false }
  deleted := false

/-- The input of `restoreWorkspaceSnapshot`. -/
structure SnapshotRestore where
  backupId : String
  expectedRevision : Nat
  sourceRevision : Nat
  authority : MemberAuthority
  items : List RestoreItem
  deriving DecidableEq

/-- What the restore of a connection is kept beside, when the connection is there. -/
structure RestoreBase where
  existed : Bool
  base : Option CandidateBase
  deriving DecidableEq

/-- `candidates`. -/
def restoreBase (tables : ConnectionTables) (item : RestoreItem) : RestoreBase where
  existed := (tables.findConnection item.connection.id).isSome
  base := candidateBase tables item.connection.id item.connection.contentRevision

/-- An unchanged workspace whose manager restores a backup that is there. -/
def restoreScope (input : SnapshotRestore) (store : HistoryStore) :
    Option (List (RestoreItem × RestoreBase)) :=
  let candidates := input.items.map fun item => (item, restoreBase store.tables item)
  if store.profileRevision = input.expectedRevision &&
      (store.directory.workspaceMemberAuthority store.now input.authority managerRoles).isSome &&
      (store.backups.any fun backup => backup.id = input.backupId && backup.deletedAt.isNone &&
        backup.sourceRevision = input.sourceRevision) &&
      candidates.all (fun candidate => !candidate.2.existed || candidate.2.base.isSome) then
    some candidates
  else none

/-- The rows of one restored connection: a conflict beside one that is there, else the connection
with its first version. -/
def restoreItem (collation : Collation) (authority : MemberAuthority) (item : RestoreItem)
    (base : RestoreBase) (tables : ConnectionTables) : Except String ConnectionTables :=
  let connection := item.connection
  if base.existed then do
    let tables ← tables.insertVersion (hashedVersion collation item.versionId connection.id
      connection.contentRevision (base.base.map (·.parentId)) .conflict .restore
      connection.contentRevision item.payload)
    insertConflict tables {
      id := item.conflictId
      resourceId := connection.id
      expectedRevision := connection.contentRevision
      serverVersionId := (base.base.map (·.serverId)).getD ""
      candidateVersionId := item.versionId }
  else do
    let tables ← insertConnection tables
      (createdRow connection.id connection.contentRevision item.payload.toSharedConnectionInput)
    (grantManage connection.id [authority.membershipId] tables).insertVersion
      (hashedVersion collation item.versionId connection.id connection.contentRevision none .main
        .restore (connection.contentRevision - 1) item.payload)

/-- The rows of the restored connections one after the other. -/
def restoreItems (collation : Collation) (authority : MemberAuthority) :
    List (RestoreItem × RestoreBase) → ConnectionTables → Except String ConnectionTables
  | [], tables => .ok tables
  | (item, base) :: rest, tables =>
    match restoreItem collation authority item base tables with
    | .error constraint => .error constraint
    | .ok tables => restoreItems collation authority rest tables

/-- The next revision of the workspace and the restored connections. -/
def restoreRows (collation : Collation) (input : SnapshotRestore) :
    Statement String HistoryStore (List (RestoreItem × RestoreBase))
  | none, store => .ok store
  | some candidates, store =>
    match restoreItems collation input.authority candidates store.tables with
    | .error constraint => .error constraint
    | .ok tables => .ok { store.withTables tables with
        profileRevision := store.profileRevision + 1 }

/-- `restoreWorkspaceSnapshot`. -/
def restoreWorkspaceSnapshot (collation : Collation) (input : SnapshotRestore)
    (store : HistoryStore) :
    Except String (HistoryStore × Option (List (RestoreItem × RestoreBase))) :=
  runBatch (restoreScope input) [restoreRows collation input] store

/-! ## Importing -/

/-- The input of `importProviderReceipt`, with the ids that it makes up. -/
structure ProviderImport where
  connectionId : String
  versionId : String
  authority : MemberAuthority
  integrationId : String
  resourceId : String
  name : String
  environment : Option String
  deriving DecidableEq

/-- The text that a resource is imported under, and the default port of its engine. -/
def importTemplate (input : ProviderImport) (resource : ProviderResource) :
    List (String × Json) :=
  let engine := (textAt resource.resource ["engine"]).getD ""
  let vault := resource.provider = "vault"
  let lowered := String.ofList (resource.provider.toList.map Char.toLower)
  let found (name : String) : Json := (pathOf resource.resource [name]).getD .null
  [("name", .str input.name), ("engine", .str engine),
    ("provider", .str (if vault then "generic" else resource.provider)), ("driverId", .null),
    ("host", if vault then found "host" else .str (lowered ++ ".managed.invalid")),
    ("port", if vault then found "port" else .int (if engine = "postgres" then 5432 else 3306)),
    ("database", found "database"),
    ("sslmode", if vault then found "sslmode" else .str "verify-full"),
    ("readonlyDefault", .bool true), ("allowWrites", .bool false),
    ("env", nullable (connectionEnvironmentLabel input.environment)), ("schemaGroup", .null)]

/-- The resource that a manager imports, with what it reads as. -/
def importScope (input : ProviderImport) (store : HistoryStore) :
    Option (ProviderResource × SharedConnectionInput) :=
  match store.tables.findIntegration input.integrationId,
      store.tables.findResource input.resourceId with
  | some integration, some resource =>
    match parseSharedConnection (importTemplate input resource) .managed with
    | .error _ => none
    | .ok template =>
      if (store.directory.workspaceMemberAuthority store.now input.authority managerRoles).isSome &&
          integration.status = "active" && integration.refreshPhase = "idle" &&
          integration.revokedAt.isNone && integration.revocationPendingAt.isNone &&
          integration.revocationClaimId.isNone && resource.provider = integration.provider &&
          (template.engine = .postgres || template.engine = .mysql) &&
          !(store.tables.connections.any fun row =>
            row.providerResourceId = some resource.id && row.deletedAt.isNone) then
        some (resource, template)
      else none
  | _, _ => none

/-- The row of an imported connection. -/
def importedRow (input : ProviderImport) (resource : ProviderResource)
    (template : SharedConnectionInput) : WorkspaceConnection :=
  { createdRow input.connectionId 1 template with
    credentialMode := .managed
    providerIntegrationId := some input.integrationId
    providerResourceId := some resource.id
    providerResource := some resource.resource }

/-- The managed connection with its first version. -/
def importRows (collation : Collation) (input : ProviderImport) :
    Statement String HistoryStore (ProviderResource × SharedConnectionInput)
  | none, store => .ok store
  | some (resource, template), store => do
    let tables ← insertConnection store.tables (importedRow input resource template)
    let tables ← (grantManage input.connectionId [input.authority.membershipId] tables).insertVersion
      (hashedVersion collation input.versionId input.connectionId 1 none .main .create 0
        { template with deleted := false })
    return store.withTables tables

/-- `importProviderReceipt`; the receipts and the import keys, which only refuse more, are left
out. -/
def importProviderReceipt (collation : Collation) (input : ProviderImport) (store : HistoryStore) :
    Except String (HistoryStore × Option (ProviderResource × SharedConnectionInput)) :=
  runBatch (importScope input) [importRows collation input] store

/-! ## Requests -/

/-- `directSslModes`. -/
def directSslModes : TemplateEngine → List String
  | .postgres => ["verify-full", "require"]
  | .mysql => ["VERIFY_IDENTITY", "REQUIRED"]
  | _ => []

/-- The connection of `parseDirectEndpoint`. -/
def parseDirectTemplate (body : List (String × Json)) : Except String SharedConnectionInput := do
  let engine ← orRefuse (engineOf (body.lookup "engine"))
    "Direct databases support PostgreSQL and MySQL"
  require (engine = .postgres || engine = .mysql) "Direct databases support PostgreSQL and MySQL"
  let port ← orRefuse (portOf (body.lookup "port")) "Invalid port"
  let sslmode ← orRefuse (match body.lookup "sslmode" with
    | none => (directSslModes engine).head?
    | some value => textOf (some value)) "Invalid direct sslmode"
  require (decide (sslmode ∈ directSslModes engine)) "Invalid direct sslmode"
  let host ← validHost (body.lookup "host")
  let database := (← templateText (body.lookup "database") 1024 true).getD ""
  require (!database.toList.any fun c => decide (c ∈ ['?', '#', '\r', '\n']))
    "Invalid database name"
  let name := (← templateText (body.lookup "name") 120 true).getD ""
  let env ← templateText (body.lookup "env") 32 false
  let schemaGroup ← templateText (body.lookup "schemaGroup") 120 false
  return {
    name
    engine
    provider := .generic
    driverId := none
    host
    port
    database
    sslmode
    readonlyDefault := true
    allowWrites := false
    env := connectionEnvironmentLabel env
    schemaGroup
    mongoOptions := none }

/-- A request to create a connection. -/
structure CreateRequest where
  connectionId : String
  versionId : String
  authority : MemberAuthority
  body : List (String × Json)
  direct : Bool := false

/-- A request to change or to delete the connection that it has read. -/
structure ChangeRequest where
  existing : WorkspaceConnection
  expectedRevision : Nat
  expectedAuthorityRevision : Nat
  claimId : String
  versionId : String
  conflictId : String
  authority : MemberAuthority

/-- What a request to change a connection leaves of its template: the integration owns a managed
endpoint. -/
def normalized (existing : WorkspaceConnection) (input : SharedConnectionInput) :
    SharedConnectionInput :=
  if existing.credentialMode = .managed then
    { input with
      provider := existing.provider
      host := existing.host
      port := existing.port
      database := existing.databaseName
      sslmode := existing.sslmode }
  else input

/-- The template of a request to change a connection. -/
def patchTemplate (existing : WorkspaceConnection) (body : List (String × Json)) :
    Except String SharedConnectionInput :=
  match parseSharedConnection body existing.credentialMode with
  | .error message => .error message
  | .ok input =>
    if existing.credentialMode = .managed && input.engine ≠ existing.engine then
      .error "Switch to member-local credentials before changing a managed database engine"
    else .ok (normalized existing input)

/-- The candidate of a request whose revision is stale. -/
def ChangeRequest.candidate (request : ChangeRequest) (payload : ConnectionVersionPayload)
    (operation : VersionOperation) : ConflictCandidate where
  connectionId := request.existing.id
  candidateId := request.versionId
  conflictId := request.conflictId
  expectedRevision := request.expectedRevision
  payload
  operation
  authority := request.authority

/-- The mutation of a request whose revision is the one that it has read. -/
def ChangeRequest.mutation (request : ChangeRequest) (requireWorkspaceManager : Bool)
    (mutation : ConnectionChange) : ConnectionMutation where
  connectionId := request.existing.id
  versionId := request.versionId
  expectedContentRevision := request.existing.contentRevision
  expectedAuthorityRevision := request.expectedAuthorityRevision
  claimId := request.claimId
  authority := request.authority
  requireWorkspaceManager
  mutation

/-! ## Runs of the store -/

/-- The columns of a connection that say who may use it, and how. -/
structure ConnectionAccess where
  credentialMode : CredentialMode
  providerIntegrationId : Option String
  providerResource : Option Json
  providerResourceId : Option String
  revision : Nat
  revocationPendingAt : Option Nat
  revocationClaimedAt : Option Nat
  revocationClaimId : Option String
  deriving DecidableEq

/-- A row with these columns. A connection that has become member-local stays so. -/
def ConnectionAccess.applied (access : ConnectionAccess) (row : WorkspaceConnection) :
    WorkspaceConnection :=
  { row with
    credentialMode :=
      if row.credentialMode = .managed then access.credentialMode else .memberLocal
    providerIntegrationId := access.providerIntegrationId
    providerResource := access.providerResource
    providerResourceId := access.providerResourceId
    revision := access.revision
    revocationPendingAt := access.revocationPendingAt
    revocationClaimedAt := access.revocationClaimedAt
    revocationClaimId := access.revocationClaimId }

/-- The tables around the connections. -/
structure Surroundings where
  directory : Directory
  grants : List ConnectionGrant := []
  integrations : List ProviderIntegration := []
  resources : List ProviderResource := []
  leases : List CredentialLease := []
  profileRevision : Nat := 1
  backups : List MetadataBackup := []
  blocked : List String := []

/-- The tables around the connections change. -/
def surround (store : HistoryStore) (around : Surroundings) : HistoryStore :=
  { store with
    directory := around.directory
    tables := { store.tables with
      grants := around.grants
      integrations := around.integrations
      resources := around.resources
      leases := around.leases }
    profileRevision := around.profileRevision
    backups := around.backups
    blocked := around.blocked }

/-- The items of a restored snapshot, with the ids that the restore makes up. -/
def restoreItemsOf (snapshot : WorkspaceMetadataSnapshot) (freshIds : List (String × String)) :
    List RestoreItem :=
  (snapshot.connections.zip freshIds).map fun (connection, versionId, conflictId) =>
    { connection, versionId, conflictId }

end HistoryStore

open HistoryStore in
/-- What happens to the tables: a row is read, a request commits, a provider operation takes a step,
or the tables around the connections change. -/
inductive HistoryEvent where
  | read (connectionId : String)
  | create (request : CreateRequest)
  | patch (request : ChangeRequest) (body : List (String × Json))
  | delete (request : ChangeRequest)
  | resolve (input : ConflictResolving)
  | restore (input : SnapshotRestore) (document : Json) (workspaceId : String)
      (freshIds : List (String × String))
  | importResource (input : ProviderImport)
  | operation (event : ProviderEvent)
  | access (connectionId : String) (columns : ConnectionAccess)
  | around (tables : Surroundings)

namespace HistoryStore

/-- The row that a request reads, when the connection is not deleted. -/
def readRow (store : HistoryStore) (connectionId : String) : HistoryStore :=
  match store.tables.findConnection connectionId with
  | none => store
  | some row => if row.deletedAt.isNone then { store with reads := store.reads ++ [row] } else store

/-- A request to create a connection. -/
def postConnection (collation : Collation) (request : CreateRequest) (store : HistoryStore) :
    HistoryStore :=
  let parsed := if request.direct then parseDirectTemplate request.body
    else parseSharedConnection request.body .memberLocal
  match parsed with
  | .error _ => store
  | .ok input => committed store (store.commitConnectionCreate collation {
      connectionId := request.connectionId
      versionId := request.versionId
      authority := request.authority
      input := { input with deleted := false }
      direct := request.direct })

/-- A request to change a connection, from the row that it has read. -/
def patchConnection (collation : Collation) (request : ChangeRequest)
    (body : List (String × Json)) (store : HistoryStore) : HistoryStore :=
  if request.existing ∈ store.reads then
    match patchTemplate request.existing body with
    | .error _ => store
    | .ok input =>
      let payload : ConnectionVersionPayload := { input with deleted := false }
      if request.expectedRevision ≠ request.existing.contentRevision then
        committed store
          (store.conflictConnectionCandidate collation (request.candidate payload .update))
      else
        committed store (store.commitConnectionMutation collation
          (request.mutation (input.allowWrites ≠ request.existing.allowWrites)
            (.update payload input)))
  else store

/-- A request to delete a connection, from the row that it has read. -/
def deleteConnection (collation : Collation) (request : ChangeRequest) (store : HistoryStore) :
    HistoryStore :=
  if request.existing ∈ store.reads then
    let payload := persistedConnectionVersionPayload request.existing true
    if request.expectedRevision ≠ request.existing.contentRevision then
      committed store
        (store.conflictConnectionCandidate collation (request.candidate payload .delete))
    else
      committed store (store.commitConnectionMutation collation
        (request.mutation false (.delete payload)))
  else store

/-- A request to restore a snapshot. -/
def restoreSnapshot (collation : Collation) (input : SnapshotRestore) (document : Json)
    (workspaceId : String) (freshIds : List (String × String)) (store : HistoryStore) :
    HistoryStore :=
  match parseWorkspaceMetadataSnapshot document workspaceId with
  | .error _ => store
  | .ok snapshot =>
    if snapshot.connections.length = freshIds.length then
      committed store (store.restoreWorkspaceSnapshot collation
        { input with items := restoreItemsOf snapshot freshIds })
    else store

/-- A step of a provider operation; the other tables change by their own events. -/
def operationStep (context : ProviderContext) (event : ProviderEvent) (store : HistoryStore) :
    HistoryStore :=
  match event with
  | .change _ _ => store
  | event => { store with
      toProviderStore := providerStep context store.toProviderStore event }

end HistoryStore

open HistoryStore in
/-- The tables after an event. -/
def historyStep (context : ProviderContext) (store : HistoryStore) : HistoryEvent → HistoryStore
  | .read connectionId => store.readRow connectionId
  | .create request => store.postConnection context.collation request
  | .patch request body => store.patchConnection context.collation request body
  | .delete request => store.deleteConnection context.collation request
  | .resolve input => committed store (store.resolveConnectionConflict input)
  | .restore input document workspaceId freshIds =>
    store.restoreSnapshot context.collation input document workspaceId freshIds
  | .importResource input => committed store (store.importProviderReceipt context.collation input)
  | .operation event => store.operationStep context event
  | .access connectionId columns =>
    match replaceConnection store.tables connectionId columns.applied with
    | .error _ => store
    | .ok tables => store.withTables tables
  | .around tables => store.surround tables

end Dopedb.Cloud
