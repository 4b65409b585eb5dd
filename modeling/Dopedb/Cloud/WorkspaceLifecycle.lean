import Dopedb.Cloud.ProviderRecords
import Dopedb.Library.AtomicBatch
import Dopedb.Library.Runs

/-!
# Deleting a workspace

`workspace-lifecycle.ts` and `workspace-retention-purge.ts`, with the member gate of
`revocation-gates.ts`: scheduling, cancelling and purging, each as the scope and the statements of its
batch, over the rows of one workspace. Instants are milliseconds; the clock of the database is part
of the store, the clocks of the requests are part of their inputs. Audit rows, the active workspace
of a session and the purged evidence are left out.
-/

namespace Dopedb.Cloud

open Library

/-! ## Rows -/

/-- A row of `member` with the time of its claim. -/
structure WorkspaceMember extends MemberRow where
  revocationClaimedAt : Option Nat := none
  deriving DecidableEq

/-- `lifecycle_state`. -/
inductive LifecycleState where
  | active | deletionPending
  deriving DecidableEq, Repr

/-- The text of a state. -/
def LifecycleState.text : LifecycleState → String
  | .active => "active"
  | .deletionPending => "deletion_pending"

/-- A row of `workspace_profile`. -/
structure WorkspaceProfile where
  lifecycleState : LifecycleState := .active
  deletionReceiptId : Option String := none
  deletionRequestedAt : Option Nat := none
  purgeAfter : Option Nat := none
  revision : Nat := 1
  deriving DecidableEq

/-- `status` of a receipt. -/
inductive ReceiptStatus where
  | pending | cancelled | purged
  deriving DecidableEq, Repr

/-- A row of `workspace_deletion_receipt`. -/
structure DeletionReceipt where
  id : String
  requestedByUserId : String
  requestedAt : Nat
  purgeAfter : Nat
  status : ReceiptStatus := .pending
  cancelledAt : Option Nat := none
  purgedAt : Option Nat := none
  deriving DecidableEq

/-- `status` of a row of `workspace_data_key_rotation`. -/
inductive KeyRotationStatus where
  | running | completed
  deriving DecidableEq, Repr

/-- The rows that hold up a purge. -/
structure OutstandingWork where
  integrations : List ProviderIntegration := []
  leases : List CredentialLease := []
  operations : List ProviderOperation := []
  rotations : List KeyRotationStatus := []
  deriving DecidableEq

/-- A row of `organization` with the rows that are deleted with it. -/
structure Organization where
  name : String
  profile : WorkspaceProfile := {}
  members : List WorkspaceMember
  work : OutstandingWork := {}
  deriving DecidableEq

/-- The rows of one workspace, whose receipts outlive it. -/
structure LifecycleStore where
  organization : Option Organization
  sessions : List SessionRow
  receipts : List DeletionReceipt := []
  now : Nat := 0
  deriving DecidableEq

namespace LifecycleStore

/-- The members of the workspace, none once it is purged. -/
def members (store : LifecycleStore) : List WorkspaceMember :=
  (store.organization.map (·.members)).getD []

/-- What `workspaceMemberAuthority` reads of a workspace. -/
def directory (store : LifecycleStore) (organization : Organization) : Directory where
  sessions := store.sessions
  members := organization.members.map (·.toMemberRow)
  lifecycleState := organization.profile.lifecycleState.text

/-- `workspaceMemberAuthority`; nobody acts in a workspace that is purged. -/
def memberAuthority (store : LifecycleStore) (authority : MemberAuthority) (roles : List String) :
    Option MemberRow :=
  store.organization.bind fun organization =>
    (store.directory organization).workspaceMemberAuthority store.now authority roles

/-- The workspace is changed. -/
def updateOrganization (store : LifecycleStore) (change : Organization → Organization) :
    LifecycleStore :=
  { store with organization := store.organization.map change }

/-- Every member is changed. -/
def updateMembers (store : LifecycleStore) (change : WorkspaceMember → WorkspaceMember) :
    LifecycleStore :=
  store.updateOrganization fun organization =>
    { organization with members := organization.members.map change }

/-- The receipt with an id. -/
def findReceipt (store : LifecycleStore) (id : String) : Option DeletionReceipt :=
  store.receipts.find? fun receipt => receipt.id = id

/-- The receipt with an id is changed. -/
def updateReceipt (store : LifecycleStore) (id : String)
    (change : DeletionReceipt → DeletionReceipt) : LifecycleStore :=
  { store with
    receipts := store.receipts.map fun receipt =>
      if receipt.id = id then change receipt else receipt }

end LifecycleStore

open LifecycleStore

/-- `workspaceDeletionUnblocked`. -/
def Organization.deletionUnblocked (organization : Organization) : Bool :=
  !(organization.work.integrations.any fun integration =>
      integration.revokedAt.isNone || integration.status ≠ "revoked") &&
    !(organization.work.leases.any fun lease => lease.revokedAt.isNone) &&
    !(organization.work.operations.any fun operation =>
      operation.state ∉ [.succeeded, .failed, .cancelled]) &&
    !(organization.work.rotations.any fun rotation => rotation = .running) &&
    !(organization.members.any fun member => member.revocationClaimId.isSome)

/-! ## Scheduling -/

/-- `WORKSPACE_DELETION_RETENTION_DAYS` in milliseconds. -/
def WORKSPACE_DELETION_RETENTION : Nat := 7 * 24 * 60 * 60 * 1000

/-- The input of `scheduleWorkspaceDeletion`, with the clock of the request. -/
structure DeletionSchedule where
  sessionId : String
  userId : String
  membershipId : String
  requestId : String
  confirmation : String
  requestedAt : Nat
  deriving DecidableEq

/-- The owner who schedules. -/
def DeletionSchedule.authority (input : DeletionSchedule) : MemberAuthority where
  sessionId := input.sessionId
  userId := input.userId
  membershipId := input.membershipId
  role := "owner"

/-- A workspace that its owner may delete, and that nothing holds up. -/
def scheduleScope (input : DeletionSchedule) (store : LifecycleStore) : Option Organization :=
  store.organization.filter fun organization =>
    organization.name = input.confirmation &&
      (store.memberAuthority input.authority ["owner"]).isSome &&
      !(store.receipts.any fun receipt => receipt.id = input.requestId) &&
      !(organization.members.any fun member =>
        member.revocationPendingAt.isSome || member.revocationClaimId.isSome) &&
      organization.deletionUnblocked

/-- The receipt of a schedule. -/
def scheduledReceipt (input : DeletionSchedule) : DeletionReceipt where
  id := input.requestId
  requestedByUserId := input.userId
  requestedAt := input.requestedAt
  purgeAfter := input.requestedAt + WORKSPACE_DELETION_RETENTION

/-- The receipt is recorded, or violates a constraint of its table. -/
def insertReceipt (input : DeletionSchedule) : Statement String LifecycleStore Organization
  | none, store => .ok store
  | some _, store =>
    if store.receipts.any fun receipt => receipt.id = input.requestId then
      .error "workspace_deletion_receipt.id"
    else if store.receipts.any fun receipt => receipt.status = .pending then
      .error "workspace_deletion_receipt_org_pending_idx"
    else .ok { store with receipts := store.receipts ++ [scheduledReceipt input] }

/-- The profile of a workspace whose deletion is pending. -/
def pendingProfile (receiptId : String) (requestedAt purgeAfter revision : Nat) :
    WorkspaceProfile where
  lifecycleState := .deletionPending
  deletionReceiptId := some receiptId
  deletionRequestedAt := some requestedAt
  purgeAfter := some purgeAfter
  revision

/-- The profile names the receipt. -/
def markPending (input : DeletionSchedule) : Statement String LifecycleStore Organization
  | none, store => .ok store
  | some _, store => .ok (store.updateOrganization fun organization =>
      { organization with
        profile := pendingProfile input.requestId input.requestedAt
          (input.requestedAt + WORKSPACE_DELETION_RETENTION) (organization.profile.revision + 1) })

/-- Every member is frozen at the time of the request. -/
def freezeMembers (input : DeletionSchedule) : Statement String LifecycleStore Organization
  | none, store => .ok store
  | some _, store => .ok (store.updateMembers fun member =>
      { member with revocationPendingAt := some input.requestedAt })

/-- What a request about a deletion is answered with. -/
inductive LifecycleAnswer where
  | scheduled | cancelled | replayed
  deriving DecidableEq, Repr

/-- `scheduleWorkspaceDeletion`. -/
def scheduleWorkspaceDeletion (input : DeletionSchedule) (store : LifecycleStore) :
    Except String (LifecycleStore × Option LifecycleAnswer) :=
  match store.findReceipt input.requestId with
  | some existing => .ok (store, if existing.status = .pending then some .replayed else none)
  | none =>
    match runBatch (scheduleScope input)
        [insertReceipt input, markPending input, freezeMembers input] store with
    | .error abort => .error abort
    | .ok (after, matched) => .ok (after, matched.map fun _ => .scheduled)

/-! ## Cancelling -/

/-- The input of `cancelWorkspaceDeletion`. -/
structure DeletionCancel where
  sessionId : String
  userId : String
  membershipId : String
  requestId : String
  deriving DecidableEq

/-- The time at which the members were frozen, when an owner may still cancel. -/
def cancelScope (input : DeletionCancel) (store : LifecycleStore) : Option Nat :=
  store.organization.bind fun organization =>
    organization.profile.deletionRequestedAt.filter fun requestedAt =>
      organization.profile.lifecycleState = .deletionPending &&
        organization.profile.deletionReceiptId = some input.requestId &&
        organization.profile.purgeAfter.any (fun purgeAfter => decide (store.now < purgeAfter)) &&
        store.receipts.any (fun receipt => receipt.id = input.requestId &&
          receipt.status = .pending && decide (store.now < receipt.purgeAfter)) &&
        (store.directory organization).liveSession store.now input.sessionId input.userId &&
        organization.members.any fun member =>
          member.id = input.membershipId && member.userId = input.userId &&
            -- the owner is frozen like the other members, by this deletion
            member.role = "owner" && member.revocationClaimId.isNone &&
            member.revocationPendingAt = some requestedAt

/-- The receipt is cancelled. -/
def cancelReceipt (input : DeletionCancel) : Statement String LifecycleStore Nat
  | none, store => .ok store
  | some _, store => .ok (store.updateReceipt input.requestId fun receipt =>
      { receipt with
        status := .cancelled
        cancelledAt := some store.now })

/-- The profile is active again. -/
def markActive : Statement String LifecycleStore Nat
  | none, store => .ok store
  | some _, store => .ok (store.updateOrganization fun organization =>
      { organization with profile := { revision := organization.profile.revision + 1 } })

/-- Members without a claim that were frozen by the deletion thaw. -/
def thawMembers : Statement String LifecycleStore Nat
  | none, store => .ok store
  | some requestedAt, store => .ok (store.updateMembers fun member =>
      if member.revocationClaimId.isNone && member.revocationPendingAt = some requestedAt then
        { member with revocationPendingAt := none }
      else member)

/-- `cancelWorkspaceDeletion`. -/
def cancelWorkspaceDeletion (input : DeletionCancel) (store : LifecycleStore) :
    Except String (LifecycleStore × Option LifecycleAnswer) :=
  match store.findReceipt input.requestId with
  | none => .ok (store, none)
  | some existing =>
    match existing.status with
    | .cancelled => .ok (store, some .replayed)
    | .purged => .ok (store, none)
    | .pending =>
      match runBatch (cancelScope input) [cancelReceipt input, markActive, thawMembers] store with
      | .error abort => .error abort
      | .ok (after, matched) => .ok (after, matched.map fun _ => .cancelled)

/-! ## Purging -/

/-- A workspace whose deletion is due and that nothing holds up. -/
def purgeScope (receiptId : String) (store : LifecycleStore) : Option Organization :=
  store.organization.filter fun organization =>
    organization.profile.deletionReceiptId = some receiptId &&
      organization.profile.lifecycleState = .deletionPending &&
      organization.profile.purgeAfter.any (fun purgeAfter => decide (purgeAfter ≤ store.now)) &&
      store.receipts.any (fun receipt => receipt.id = receiptId && receipt.status = .pending &&
        decide (receipt.purgeAfter ≤ store.now)) &&
      organization.deletionUnblocked

/-- The receipt is purged. -/
def purgeReceipt (receiptId : String) : Statement String LifecycleStore Organization
  | none, store => .ok store
  | some _, store => .ok (store.updateReceipt receiptId fun receipt =>
      { receipt with
        status := .purged
        purgedAt := some store.now })

/-- The workspace is deleted with everything of it. -/
def deleteOrganization : Statement String LifecycleStore Organization
  | none, store => .ok store
  | some _, store => .ok { store with organization := none }

/-- `purgeDueWorkspace`. -/
def purgeDueWorkspace (receiptId : String) (store : LifecycleStore) :
    Except String (LifecycleStore × Option Organization) :=
  runBatch (purgeScope receiptId) [purgeReceipt receiptId, deleteOrganization] store

/-- The receipt of a deletion that `cleanupWorkspaceRetention` finds due. -/
def dueReceipt (store : LifecycleStore) : Option String :=
  store.organization.bind fun organization =>
    organization.profile.deletionReceiptId.filter fun receiptId =>
      organization.profile.lifecycleState = .deletionPending &&
        organization.profile.purgeAfter.any (fun purgeAfter => decide (purgeAfter ≤ store.now)) &&
        store.receipts.any fun receipt => receipt.id = receiptId && receipt.status = .pending &&
          decide (receipt.purgeAfter ≤ store.now)

/-- `cleanupWorkspaceRetention`, as far as it concerns the workspace. -/
def cleanupWorkspaceRetention (store : LifecycleStore) : LifecycleStore :=
  match dueReceipt store with
  | none => store
  | some receiptId => committed store (purgeDueWorkspace receiptId store)

/-! ## The member gate -/

/-- `REVOCATION_CLAIM_STALE_MS`. -/
def REVOCATION_CLAIM_STALE_MS : Nat := 5 * 60 * 1000

/-- A claim of a member's gate. -/
structure MemberGateClaim where
  memberId : String
  userId : String
  claimId : String
  claimedAt : Nat
  deriving DecidableEq

/-- The member that a claim is for. -/
def MemberGateClaim.targets (claim : MemberGateClaim) (member : WorkspaceMember) : Bool :=
  member.id = claim.memberId && member.userId = claim.userId

/-- The member's gate is held under the claim. -/
def MemberGateClaim.holds (claim : MemberGateClaim) (member : WorkspaceMember) : Bool :=
  claim.targets member && member.revocationPendingAt.isSome &&
    member.revocationClaimId = some claim.claimId

/-- `claimRevocationGate` of a member. -/
def claimRevocationGate (claim : MemberGateClaim) (store : LifecycleStore) : LifecycleStore :=
  store.updateMembers fun member =>
    if claim.targets member && (member.revocationClaimId.isNone ||
        -- a claim that has gone stale is taken over
        member.revocationClaimedAt.any fun claimedAt =>
          decide (claimedAt + REVOCATION_CLAIM_STALE_MS < claim.claimedAt)) then
      { member with
        revocationPendingAt := member.revocationPendingAt.or (some claim.claimedAt)
        revocationClaimedAt := some claim.claimedAt
        revocationClaimId := some claim.claimId }
    else member

/-- `releaseRevocationGateClaim`. -/
def releaseRevocationGateClaim (claim : MemberGateClaim) (store : LifecycleStore) :
    LifecycleStore :=
  store.updateMembers fun member =>
    if claim.holds member then
      { member with
        revocationClaimedAt := none
        revocationClaimId := none }
    else member

/-- `clearRevocationGate`. -/
def clearRevocationGate (claim : MemberGateClaim) (store : LifecycleStore) : LifecycleStore :=
  store.updateMembers fun member =>
    if claim.holds member then
      { member with
        revocationPendingAt := none
        revocationClaimedAt := none
        revocationClaimId := none }
    else member

/-- `renewRevocationGateClaim`. -/
def renewRevocationGateClaim (claim next : MemberGateClaim) (store : LifecycleStore) :
    LifecycleStore :=
  store.updateMembers fun member =>
    if claim.holds member then
      { member with
        revocationClaimedAt := some next.claimedAt
        revocationClaimId := some next.claimId }
    else member

/-! ## Members -/

/-- The input of `changeWorkspaceMemberRole`, with what the tables of shared content and direct
access say to the change. -/
structure RoleChange where
  authority : MemberAuthority
  memberId : String
  userId : String
  claimId : String
  previousRole : String
  role : String
  admitted : Bool
  deriving DecidableEq

/-- The member whose role changes. -/
def RoleChange.targets (input : RoleChange) (member : WorkspaceMember) : Bool :=
  member.id = input.memberId && member.userId = input.userId &&
    member.role = input.previousRole && member.role ≠ "owner" &&
    member.revocationClaimId = some input.claimId && member.revocationPendingAt.isSome

/-- `changeWorkspaceMemberRole`. -/
def changeWorkspaceMemberRole (input : RoleChange) (store : LifecycleStore) : LifecycleStore :=
  if (store.memberAuthority input.authority managerRoles).isSome && input.admitted &&
      (store.organization.any fun organization =>
        organization.members.any input.targets &&
          !(organization.work.leases.any fun lease =>
            lease.userId = input.userId && lease.revokedAt.isNone)) then
    store.updateMembers fun member =>
      if member.id = input.memberId then
        { member with
          role := input.role
          revocationPendingAt := none
          revocationClaimedAt := none
          revocationClaimId := none }
      else member
  else store

/-- A user joins the workspace under a fresh id. -/
def joinWorkspace (id userId role : String) (store : LifecycleStore) : LifecycleStore :=
  store.updateOrganization fun organization =>
    if organization.members.any fun member => member.id = id || member.userId = userId then
      organization
    else
      { organization with members := organization.members ++ [{
          id
          userId
          role }] }

/-- A member leaves, or is removed. -/
def leaveWorkspace (memberId : String) (store : LifecycleStore) : LifecycleStore :=
  store.updateOrganization fun organization =>
    { organization with members := organization.members.filter fun member => member.id ≠ memberId }

/-! ## Runs -/

/-- What happens to a workspace. A purge may follow a list of due workspaces that was read earlier.
The rows that hold up a purge and the sessions may change in any way. -/
inductive LifecycleEvent where
  | schedule (input : DeletionSchedule)
  | cancel (input : DeletionCancel)
  | cleanup
  | purge (receiptId : String)
  | claimGate (claim : MemberGateClaim)
  | releaseGate (claim : MemberGateClaim)
  | clearGate (claim : MemberGateClaim)
  | renewGate (claim next : MemberGateClaim)
  | changeRole (input : RoleChange)
  | join (id userId role : String)
  | leave (memberId : String)
  | rename (name : String)
  | sessions (rows : List SessionRow)
  | work (rows : OutstandingWork)
  | tick (milliseconds : Nat)

/-- The rows after an event. -/
def lifecycleStep (store : LifecycleStore) : LifecycleEvent → LifecycleStore
  | .schedule input => committed store (scheduleWorkspaceDeletion input store)
  | .cancel input => committed store (cancelWorkspaceDeletion input store)
  | .cleanup => cleanupWorkspaceRetention store
  | .purge receiptId => committed store (purgeDueWorkspace receiptId store)
  | .claimGate claim => claimRevocationGate claim store
  | .releaseGate claim => releaseRevocationGateClaim claim store
  | .clearGate claim => clearRevocationGate claim store
  | .renewGate claim next => renewRevocationGateClaim claim next store
  | .changeRole input => changeWorkspaceMemberRole input store
  | .join id userId role => joinWorkspace id userId role store
  | .leave memberId => leaveWorkspace memberId store
  | .rename name => store.updateOrganization fun organization => { organization with name := name }
  | .sessions rows => { store with sessions := rows }
  | .work rows => store.updateOrganization fun organization => { organization with work := rows }
  | .tick milliseconds => { store with now := store.now + milliseconds }

end Dopedb.Cloud
