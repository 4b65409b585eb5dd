import Dopedb.Cloud.Connections

/-!
# Workspace snapshots

`workspace-backup-core.ts`: the secretless snapshot of a workspace that a backup seals, its canonical
order, and the strict parser that a restore reads it with.
-/

namespace Dopedb.Cloud

open Library

/-- The workspace of a snapshot. -/
structure SnapshotWorkspace where
  organizationId : String
  lifecycleState : String
  residencyRegion : Option String
  revision : Nat
  deriving DecidableEq

/-- A connection of a snapshot. -/
structure SnapshotConnection extends SharedConnectionInput where
  id : String
  contentRevision : Nat
  deriving DecidableEq

/-- `WorkspaceMetadataSnapshot`. -/
structure WorkspaceMetadataSnapshot where
  workspace : SnapshotWorkspace
  connections : List SnapshotConnection
  deriving DecidableEq

/-! ## Parsing -/

/-- What every malformed snapshot is refused with. -/
def invalidSnapshot : String := "Invalid workspace backup snapshot"

/-- A revision that JavaScript holds exactly. -/
def revisionOf : Option Json → Option Nat
  | some (.int number) =>
    if 1 ≤ number ∧ number ≤ MAX_SAFE_INTEGER then some number.toNat else none
  | _ => none

/-- A text, or null. -/
def regionOf : Option Json → Option (Option String)
  | some .null => some none
  | some (.str text) => some (some text)
  | _ => none

/-- A text. -/
def textOf : Option Json → Option String
  | some (.str text) => some text
  | _ => none

/-- The workspace of a snapshot document. -/
def parseSnapshotWorkspace (fields : List (String × Json)) (workspaceId : String) :
    Except String SnapshotWorkspace := do
  require (textOf (fields.lookup "organizationId") = some workspaceId) invalidSnapshot
  let lifecycleState ← orRefuse (textOf (fields.lookup "lifecycleState")) invalidSnapshot
  let residencyRegion ← orRefuse (regionOf (fields.lookup "residencyRegion")) invalidSnapshot
  let revision ← orRefuse (revisionOf (fields.lookup "revision")) invalidSnapshot
  return {
    organizationId := workspaceId
    lifecycleState
    residencyRegion
    revision }

/-- A connection of a snapshot document. The template is read as a member-local one. -/
def parseSnapshotConnection : Json → Except String SnapshotConnection
  | .obj fields => do
    let id ← orRefuse (textOf (fields.lookup "id")) invalidSnapshot
    require (isUuid id) invalidSnapshot
    let contentRevision ← orRefuse (revisionOf (fields.lookup "contentRevision")) invalidSnapshot
    let template ← parseSharedConnection
      (fields.filter fun field => field.1 ≠ "id" && field.1 ≠ "contentRevision") .memberLocal
    return { template with id, contentRevision }
  | _ => .error invalidSnapshot

/-- The ids that the connections of a document name. -/
def namedIds (connections : List Json) : List String :=
  connections.filterMap fun connection => textOf (connection.get? "id")

/-- `parseWorkspaceMetadataSnapshot`. -/
def parseWorkspaceMetadataSnapshot (value : Json) (workspaceId : String) :
    Except String WorkspaceMetadataSnapshot :=
  match value with
  | .obj fields =>
    match fields.lookup "workspace", fields.lookup "connections" with
    | some (.obj workspaceFields), some (.arr connections) => do
      require (fields.lookup "version" == some (.int 1) && decide (connections.length ≤ 1000))
        invalidSnapshot
      let workspace ← parseSnapshotWorkspace workspaceFields workspaceId
      require (decide (namedIds connections).Nodup) invalidSnapshot
      let parsed ← connections.mapM parseSnapshotConnection
      return { workspace, connections := parsed }
    | _, _ => .error invalidSnapshot
  | _ => .error invalidSnapshot

end Dopedb.Cloud
