import Dopedb.Cloud.Connections

/-!
# Switching a connection to another branch

`provider-operation-switch.ts`, as far as it concerns the connection: which connection an approved
plan may move, and the rows that the move writes. The operation itself is settled beside it.
-/

namespace Dopedb.Cloud

open Library

/-- `ProviderImportProjection`. -/
structure ProviderImportProjection where
  fingerprint : String
  resource : Json
  metadata : Json
  capabilities : Json
  host : String
  port : Nat
  database : String
  engine : TemplateEngine
  sslmode : String
  deriving DecidableEq

/-- What a switch moves the connection with. -/
structure ConnectionSwitch where
  plan : Json
  targetProjection : ProviderImportProjection
  connectionClaimId : String
  integrationId : String
  membershipId : String
  targetResourceId : String
  versionId : String
  deriving DecidableEq

namespace ConnectionSwitch

/-- A text of the plan's source. -/
def source (input : ConnectionSwitch) (name : String) : Option String :=
  textAt input.plan ["source", name]

/-- A text of the plan's target. -/
def target (input : ConnectionSwitch) (name : String) : Option String :=
  textAt input.plan ["target", name]

/-- The connection that the plan names. -/
def connectionId (input : ConnectionSwitch) : String := (input.source "connectionId").getD ""

/-- The revision that the plan was made for. -/
def contentRevision (input : ConnectionSwitch) : Nat :=
  (numberAt input.plan ["source", "contentRevision"]).getD 0

/-- The revision after the gate was claimed. -/
def expectedAuthorityRevision (input : ConnectionSwitch) : Nat :=
  (numberAt input.plan ["source", "authorityRevision"]).getD 0 + 1

/-- `versionPayload`. -/
def versionPayload (input : ConnectionSwitch) : ConnectionVersionPayload where
  name := (input.source "connectionName").getD ""
  engine := .postgres
  provider := .neon
  -- the version has no driver id, while the connection keeps its own
  driverId := none
  host := input.targetProjection.host
  port := input.targetProjection.port
  database := input.targetProjection.database
  sslmode := input.targetProjection.sslmode
  readonlyDefault := (boolAt input.plan ["source", "readonlyDefault"]).getD false
  allowWrites := (boolAt input.plan ["source", "allowWrites"]).getD false
  env := connectionEnvironmentLabel (input.target "environment")
  schemaGroup := input.source "schemaGroup"
  mongoOptions := none
  deleted := false

/-- The projection is the target that was approved. -/
def validProjection (collation : Collation) (input : ConnectionSwitch) : Bool :=
  let projection := input.targetProjection
  input.target "resourceFingerprint" = some projection.fingerprint &&
    projection.fingerprint = providerResourceFingerprint collation "neon" projection.resource &&
    (["projectId", "branchId", "databaseId", "database"].zip
      ["project", "branch", "databaseId", "database"]).all (fun (planned, name) =>
        textAt projection.resource [name] = input.target planned) &&
    textAt projection.resource ["engine"] = some "postgres" &&
    (pathOf projection.resource ["schemas"]).isSome &&
    pathOf projection.resource ["schemas"] = pathOf input.plan ["source", "schemas"] &&
    boolAt projection.metadata ["production"] =
      some (decide (input.target "environment" = some "production")) &&
    ["discover", "importReadOnly", "managedLease", "write"].all (fun name =>
      boolAt projection.capabilities [name] = some true) &&
    projection.host = "neon.managed.invalid" && projection.port = 5432 &&
    input.target "database" = some projection.database &&
    projection.engine = .postgres && projection.sslmode = "verify-full"

/-- What the matched connection contributes to the batch. -/
structure Snapshot where
  targetId : String
  parentVersionId : String
  deriving DecidableEq

/-- The connection is the one that the plan was made for, with its gate held and its leases gone. -/
def matchesPlan (input : ConnectionSwitch) (tables : ConnectionTables)
    (connection : WorkspaceConnection) : Bool :=
  connection.provider = .neon && connection.credentialMode = .managed &&
    connection.providerIntegrationId = some input.integrationId &&
    input.source "providerResourceId" = connection.providerResourceId &&
    (connection.providerResourceId.bind tables.findResource).any (fun resource =>
      resource.provider = "neon" && jsonEqual (some resource.resource) connection.providerResource) &&
    (["projectId", "branchId", "databaseId", "database"].zip
      ["project", "branch", "databaseId", "database"]).all (fun (planned, name) =>
        (input.source planned).isSome &&
          (connection.providerResource.bind fun found => textAt found [name]) =
            input.source planned) &&
    input.source "connectionName" = some connection.name &&
    boolAt input.plan ["source", "readonlyDefault"] = some connection.readonlyDefault &&
    boolAt input.plan ["source", "allowWrites"] = some connection.allowWrites &&
    connection.schemaGroup = input.source "schemaGroup" &&
    connection.environment.isSome &&
    connection.environment = connectionEnvironmentLabel (input.source "environment") &&
    numberAt input.plan ["source", "contentRevision"] = some connection.contentRevision &&
    connection.revision = input.expectedAuthorityRevision &&
    connection.revocationPendingAt.isSome &&
    connection.revocationClaimId = some input.connectionClaimId && connection.deletedAt.isNone &&
    !tables.leases.any fun lease => lease.connectionId = connection.id && lease.revokedAt.isNone

/-- `connection_scope`, with the resource that the connection moves to. -/
def scope (input : ConnectionSwitch) (tables : ConnectionTables) : Option Snapshot :=
  match tables.findConnection input.connectionId with
  | none => none
  | some connection =>
    match tables.mainVersion connection.id connection.contentRevision with
    | none => none
    | some parent =>
      let targetResource := tables.resources.find? fun resource =>
        resource.provider = "neon" &&
          resource.resourceFingerprint = input.targetProjection.fingerprint
      if input.matchesPlan tables connection &&
          tables.hasGrant connection.id input.membershipId (· = "manage") &&
          targetResource.all (fun resource =>
            jsonEqual (some resource.resource) (some input.targetProjection.resource)) &&
          !(tables.connections.any fun other =>
            targetResource.any (fun resource => other.providerResourceId = some resource.id) &&
              other.id ≠ connection.id && other.deletedAt.isNone) then
        some {
          targetId := (targetResource.map (·.id)).getD input.targetResourceId
          parentVersionId := parent.id }
      else none

/-- The provider resource is recorded or refreshed. -/
def upsertResource (input : ConnectionSwitch) (snapshot : Snapshot) (tables : ConnectionTables) :
    ConnectionTables :=
  let projection := input.targetProjection
  let holds (resource : ProviderResource) : Bool :=
    resource.provider = "neon" && resource.resourceFingerprint = projection.fingerprint
  if tables.resources.any holds then
    { tables with
      resources := tables.resources.map fun resource =>
        if holds resource then
          { resource with
            resource := projection.resource
            redactedMetadata := projection.metadata
            capabilityManifest := projection.capabilities }
        else resource }
  else
    { tables with resources := tables.resources ++ [{
        id := snapshot.targetId
        provider := "neon"
        resourceFingerprint := projection.fingerprint
        resource := projection.resource
        redactedMetadata := projection.metadata
        capabilityManifest := projection.capabilities }] }

/-- The connection moves and its gate opens. -/
def moveConnection (input : ConnectionSwitch) (snapshot : Snapshot) (tables : ConnectionTables) :
    ConnectionTables :=
  tables.updateConnection input.connectionId fun connection =>
    { connection with
      host := input.targetProjection.host
      port := input.targetProjection.port
      databaseName := input.targetProjection.database
      sslmode := input.targetProjection.sslmode
      environment := connectionEnvironmentLabel (input.target "environment")
      providerResourceId := some snapshot.targetId
      providerResource := some input.targetProjection.resource
      contentRevision := connection.contentRevision + 1
      revocationPendingAt := none
      revocationClaimedAt := none
      revocationClaimId := none }

/-- The version that the switch records. -/
def version (collation : Collation) (input : ConnectionSwitch) (snapshot : Snapshot) :
    ResourceVersion where
  id := input.versionId
  resourceId := input.connectionId
  revision := input.contentRevision + 1
  baseRevision := some input.contentRevision
  parentVersionId := some snapshot.parentVersionId
  branch := .main
  operation := .update
  payload := input.versionPayload
  payloadHash := payloadHash collation input.versionPayload

/-- The rows that the switch writes. -/
def commit (collation : Collation) (input : ConnectionSwitch) (snapshot : Snapshot)
    (tables : ConnectionTables) : Except String ConnectionTables :=
  (input.moveConnection snapshot (input.upsertResource snapshot tables)).insertVersion
    (input.version collation snapshot)

end ConnectionSwitch

end Dopedb.Cloud
