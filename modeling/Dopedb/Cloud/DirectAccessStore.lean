import Dopedb.Cloud.DirectAccessCore
import Dopedb.Library.Runs

/-!
# The principals of a direct shared database

`workspace-direct-access-store.ts` for one connection: the derived work list, the submission of a
verifier, the claim of work by a device and the receipt that settles it. Each statement runs at one
instant, and the checks and triggers of the table abort it. Instants are milliseconds.
-/

namespace Dopedb.Cloud

open Library

/-- A row of `workspace_direct_principal`. -/
structure DirectPrincipal where
  id : String
  memberId : String
  userId : String
  principalName : String
  marker : String
  verifierKind : DirectVerifierKind
  verifier : String
  verifierVersion : Nat := 1
  appliedVerifierVersion : Nat := 0
  appliedLevel : DirectLevel := .none
  state : DirectPrincipalState := .requested
  failureCode : Option DirectFailureCode := none
  serverRoleOid : Option String := none
  appliedByDeviceId : Option String := none
  claimExpiresAt : Option Nat := none
  scopeRevisionApplied : Option Nat := none
  createdAt : Nat
  deriving DecidableEq

/-- A row of `member`, as far as access is about it. -/
structure DirectMember where
  memberId : String
  userId : String
  role : String
  revocationPending : Bool
  deriving DecidableEq

/-- A row of `workspace_connection_grant`. -/
structure DirectGrant where
  memberId : String
  capability : String
  deriving DecidableEq

/-- A pending row of `workspace_direct_revocation`, whose target is none or read. -/
structure PendingRevocation where
  memberId : String
  targetsNone : Bool
  deriving DecidableEq

/-- The facts that decide what level a member should hold. They change at any time. -/
structure DirectFacts where
  members : List DirectMember
  grants : List DirectGrant
  pending : List PendingRevocation
  connectionDeleted : Bool
  writeCeiling : Bool
  scopeRevision : Nat
  deriving DecidableEq

/-- The tables of one connection. -/
structure DirectStore where
  engine : DirectEngine
  facts : DirectFacts
  serverFingerprint : Option String := none
  principals : List DirectPrincipal := []
  now : Nat := 0
  deriving DecidableEq

/-- What a device is asked to do. -/
inductive DirectWorkAction where
  | apply | drop | idle
  deriving DecidableEq, Repr

/-- A principal with what it needs. -/
structure DirectWorkItem where
  principal : DirectPrincipal
  desiredLevel : DirectLevel
  action : DirectWorkAction
  deriving DecidableEq

/-- A statement that the database aborts. -/
inductive DirectAbort where
  | check (constraint : String)
  | trigger (message : String)
  deriving DecidableEq, Repr

namespace DirectPrincipal

/-- A check constraint and the triggers on an updated row. The identity of a row is never set. -/
def checkUpdate (old new : DirectPrincipal) : Except DirectAbort DirectPrincipal :=
  if new.verifierVersion < old.verifierVersion ∨
      new.appliedVerifierVersion < old.appliedVerifierVersion ∨
      (new.verifier ≠ old.verifier ∧ new.verifierVersion ≤ old.verifierVersion) then
    .error (.trigger "Direct principal versions only advance")
  else if old.serverRoleOid.isSome ∧ new.serverRoleOid ≠ old.serverRoleOid then
    .error (.trigger "Direct principal server role is bound once")
  else if isDirectTransitionAllowed old.state new.state = false then
    .error (.trigger "Direct principal state transition is not allowed")
  else if old.state = .dropped then
    .error (.trigger "A dropped direct principal is terminal")
  else if new.verifierVersion < 1 ∨ MAX_SAFE_INTEGER < new.verifierVersion ∨
      new.verifierVersion < new.appliedVerifierVersion then
    .error (.check "workspace_direct_principal_versions")
  else if (new.state = .failed) ≠ (new.failureCode.isSome = true) then
    .error (.check "workspace_direct_principal_failure_code")
  else .ok new

/-- The claim on the principal is live. -/
def claimLive (principal : DirectPrincipal) (now : Nat) : Bool :=
  match principal.claimExpiresAt with
  | none => false
  | some expiresAt => now < expiresAt

/-- A device holds a live claim. -/
def claimed (principal : DirectPrincipal) (now : Nat) : Bool :=
  (principal.state = .applying ∨ principal.state = .dropPending) ∧ principal.claimLive now

end DirectPrincipal

namespace DirectStore

/-- The member behind a principal. -/
def memberOf (facts : DirectFacts) (principal : DirectPrincipal) : Option DirectMember :=
  facts.members.find? fun member =>
    member.memberId = principal.memberId ∧ member.userId = principal.userId

/-- The grant behind a principal. -/
def grantOf (facts : DirectFacts) (principal : DirectPrincipal) : Option DirectGrant :=
  facts.grants.find? fun grant => grant.memberId = principal.memberId

/-- The cap of the pending revocations of a member. -/
def revocationCap (facts : DirectFacts) (memberId : String) : Option DirectLevel :=
  let own := facts.pending.filter fun revocation => revocation.memberId = memberId
  if own.isEmpty then none
  else if own.any (·.targetsNone) then some .none
  else some .read

/-- The level that a principal should hold. -/
def desiredLevel (facts : DirectFacts) (principal : DirectPrincipal) : DirectLevel :=
  let member := memberOf facts principal
  let grant := grantOf facts principal
  capDirectLevel
    (directDesiredLevel (member.elim "" (·.role)) (grant.elim "" (·.capability))
      facts.writeCeiling (member.isSome && grant.isSome) (member.any (·.revocationPending))
      facts.connectionDeleted)
    (revocationCap facts principal.memberId)

/-- The principal is as it should be. -/
def converged (facts : DirectFacts) (principal : DirectPrincipal) : Bool :=
  principal.state = .ready ∧ principal.appliedLevel = desiredLevel facts principal ∧
    principal.verifierVersion ≤ principal.appliedVerifierVersion ∧
    principal.scopeRevisionApplied = some facts.scopeRevision

/-- The work item of a principal. A failed receipt waits for another request unless it must be
dropped, and a live claim belongs to its device. -/
def workItem (facts : DirectFacts) (now : Nat) (principal : DirectPrincipal) : DirectWorkItem where
  principal := principal
  desiredLevel := desiredLevel facts principal
  action :=
    if principal.claimed now ∨
        (principal.state = .failed ∧ desiredLevel facts principal ≠ .none) ∨
        (desiredLevel facts principal ≠ .none ∧ converged facts principal) then .idle
    else if desiredLevel facts principal = .none then .drop
    else .apply

/-- The order of the work list. -/
def before (a b : DirectPrincipal) : Bool :=
  a.createdAt < b.createdAt ∨ (a.createdAt = b.createdAt ∧ a.id ≤ b.id)

/-- The live principals that the work list shows. -/
def listed (store : DirectStore) : List DirectPrincipal :=
  ((store.principals.filter fun principal => principal.state ≠ .dropped).mergeSort before).take 1000

/-- `listDirectWorkItems`. -/
def listDirectWorkItems (store : DirectStore) : List DirectWorkItem :=
  store.listed.map (workItem store.facts store.now)

/-- The principal with an id. -/
def find (store : DirectStore) (id : String) : Option DirectPrincipal :=
  store.principals.find? fun principal => principal.id = id

/-- A row is replaced. -/
def replace (store : DirectStore) (principal : DirectPrincipal) : DirectStore :=
  { store with
    principals := store.principals.map fun row => if row.id = principal.id then principal else row }

/-! ## Statements -/

/-- A new principal. -/
def insert (store : DirectStore) (principal : DirectPrincipal) :
    Except DirectAbort (DirectStore × Bool) :=
  if store.facts.connectionDeleted then
    .error (.trigger "Direct principal requires a live provisioned connection with an endpoint")
  else if principal.verifierKind ≠ verifierKindForEngine store.engine then
    .error (.trigger "Verifier kind does not match the endpoint engine")
  else if store.principals.any (fun row => row.id = principal.id) then
    .error (.check "PRIMARY KEY")
  else if store.principals.any (fun row => row.principalName = principal.principalName) then
    .error (.check "workspace_direct_principal_name_idx")
  else if store.principals.any
      (fun row => row.memberId = principal.memberId ∧ row.state ≠ .dropped) then
    .error (.check "workspace_direct_principal_live_member_idx")
  else .ok ({ store with principals := store.principals ++ [principal] }, true)

/-- A new verifier for a principal that was read with a version before. -/
def revise (store : DirectStore) (id : String) (readVersion : Nat) (userId : String)
    (verifierKind : DirectVerifierKind) (verifier : String) :
    Except DirectAbort (DirectStore × Bool) :=
  match store.find id with
  | none => .ok (store, false)
  | some row =>
    if (row.state = .requested ∨ row.state = .ready ∨ row.state = .failed) ∧
        row.verifierVersion = readVersion ∧ row.userId = userId ∧
        row.verifierKind = verifierKind then
      match row.checkUpdate { row with
        verifier := verifier
        verifierVersion := row.verifierVersion + 1
        -- the new verifier has to be applied as well
        state := if row.state = .ready ∨ row.state = .failed then .requested else row.state
        failureCode := none } with
      | .error abort => .error abort
      | .ok row => .ok (store.replace row, true)
    else .ok (store, false)

/-- A device takes or renews the lease on a principal, in the direction that it read before. -/
def claim (store : DirectStore) (id deviceId : String) (target : DirectPrincipalState) :
    Except DirectAbort (DirectStore × Bool) :=
  match store.find id with
  | none => .ok (store, false)
  | some row =>
    let admitted : List DirectPrincipalState :=
      if target = .applying then [.requested, .ready, .failed, .applying]
      else [.requested, .ready, .failed, .applying, .dropPending]
    if row.state ∈ admitted ∧
        -- the live lease of another device is not taken over
        ((row.state ≠ .applying ∧ row.state ≠ .dropPending) ∨
          row.appliedByDeviceId = some deviceId ∨ row.claimLive store.now = false) then
      match row.checkUpdate { row with
        state := target
        appliedByDeviceId := some deviceId
        claimExpiresAt := some (store.now + 1000 * DIRECT_CLAIM_LEASE_SECONDS) } with
      | .error abort => .error abort
      | .ok row => .ok (store.replace row, true)
    else .ok (store, false)

/-- What a device reports. -/
structure DirectReceipt where
  principalId : String
  deviceId : String
  source : DirectPrincipalState
  target : DirectPrincipalState
  appliedLevel : DirectLevel
  appliedVerifierVersion : Nat
  scopeRevisionApplied : Option Nat
  serverRoleOid : Option String
  serverFingerprint : Option String
  failureCode : Option DirectFailureCode
  deriving DecidableEq

/-- The receipt says something that can be. -/
def DirectReceipt.validShape (receipt : DirectReceipt) : Bool :=
  ((receipt.source = .applying ∧ (receipt.target = .ready ∨ receipt.target = .failed)) ∨
    (receipt.source = .dropPending ∧ (receipt.target = .dropped ∨ receipt.target = .failed))) ∧
  (receipt.target = .failed ↔ receipt.failureCode.isSome = true) ∧
  ¬(receipt.target = .ready ∧ (receipt.appliedLevel = .none ∨
    receipt.serverRoleOid = none ∨ receipt.serverRoleOid = some "")) ∧
  ¬(receipt.target = .dropped ∧ receipt.appliedLevel ≠ .none)

/-- `settleDirectReceipt`. -/
def settleDirectReceipt (store : DirectStore) (receipt : DirectReceipt) :
    Except DirectAbort (DirectStore × Bool) :=
  if receipt.validShape = false then .ok (store, false)
  else
    match store.find receipt.principalId with
    | none => .ok (store, false)
    | some row =>
      if row.state = receipt.source ∧ row.appliedByDeviceId = some receipt.deviceId ∧
          receipt.appliedVerifierVersion ≤ row.verifierVersion ∧
          -- the first fingerprint is stored, and later ones have to equal it
          (receipt.serverFingerprint = none ∨ store.serverFingerprint = none ∨
            store.serverFingerprint = receipt.serverFingerprint) ∧
          (receipt.target = .ready → receipt.serverFingerprint ≠ none) then
        match row.checkUpdate { row with
          state := receipt.target
          appliedLevel := receipt.appliedLevel
          appliedVerifierVersion := receipt.appliedVerifierVersion
          scopeRevisionApplied := receipt.scopeRevisionApplied
          serverRoleOid := receipt.serverRoleOid.or row.serverRoleOid
          failureCode := receipt.failureCode
          claimExpiresAt := none } with
        | .error abort => .error abort
        | .ok row =>
          .ok ({ store with
            serverFingerprint := store.serverFingerprint.or receipt.serverFingerprint }.replace row,
            true)
      else .ok (store, false)

/-! ## Calls -/

/-- What a member submits, with the identity that is drawn for a new principal. -/
structure DirectSubmission where
  memberId : String
  userId : String
  verifierKind : DirectVerifierKind
  verifier : String
  newId : String
  newPrincipalName : String
  newMarker : String

/-- The live principal of a member. -/
def liveOf (store : DirectStore) (memberId : String) : Option DirectPrincipal :=
  store.principals.find? fun row => row.memberId = memberId ∧ row.state ≠ .dropped

/-- `submitDirectVerifier`, with the id of the principal that it changed. -/
def submitDirectVerifier (store : DirectStore) (input : DirectSubmission) :
    Except DirectAbort (DirectStore × Option String) :=
  if isValidDirectVerifier input.verifierKind input.verifier = false then .ok (store, none)
  else
    match store.liveOf input.memberId with
    | none => do
      let (store, inserted) ← store.insert {
        id := input.newId
        memberId := input.memberId
        userId := input.userId
        principalName := input.newPrincipalName
        marker := input.newMarker
        verifierKind := input.verifierKind
        verifier := input.verifier
        createdAt := store.now }
      return (store, if inserted then some input.newId else none)
    | some live => do
      let (store, revised) ← store.revise live.id live.verifierVersion input.userId
        input.verifierKind input.verifier
      return (store, if revised then some live.id else none)

/-- The direction in which a device claims an item. -/
def claimTarget (item : DirectWorkItem) (deviceId : String) : Option DirectPrincipalState :=
  match item.action with
  | .apply => some .applying
  | .drop => some .dropPending
  | .idle =>
    if item.principal.appliedByDeviceId = some deviceId ∧
        (item.principal.state = .applying ∨ item.principal.state = .dropPending) then
      some item.principal.state
    else none

/-- The loop of `claimDirectWork`, with the ids that were claimed. -/
def claimItems (deviceId : String) :
    List DirectWorkItem → DirectStore → List String →
      Except DirectAbort (DirectStore × List String)
  | [], store, claimed => .ok (store, claimed)
  | item :: rest, store, claimed =>
    match claimTarget item deviceId with
    | none => claimItems deviceId rest store claimed
    | some target =>
      match store.claim item.principal.id deviceId target with
      | .error abort => .error abort
      | .ok (store, matched) =>
        claimItems deviceId rest store
          (if matched then claimed ++ [item.principal.id] else claimed)

/-- `claimDirectWork`. -/
def claimDirectWork (store : DirectStore) (deviceId : String) (principalIds : List String) :
    Except DirectAbort (DirectStore × List DirectWorkItem) := do
  let candidates := store.listDirectWorkItems.filter fun item => item.principal.id ∈ principalIds
  let (store, claimed) ← claimItems deviceId candidates store []
  return (store, store.listDirectWorkItems.filter fun item => item.principal.id ∈ claimed)

end DirectStore

/-! ## Runs -/

/-- What happens to the tables: a statement of one of the calls, with what the call read before, the
clock, and any change of the facts. -/
inductive DirectEvent where
  | insert (principal : DirectPrincipal)
  | revise (id : String) (readVersion : Nat) (userId : String) (verifierKind : DirectVerifierKind)
      (verifier : String)
  | claim (id deviceId : String) (drop : Bool)
  | settle (receipt : DirectStore.DirectReceipt)
  | change (facts : DirectFacts)
  | tick (milliseconds : Nat)

/-- A statement that is aborted changes nothing. -/
def DirectStore.committed (store : DirectStore)
    (result : Except DirectAbort (DirectStore × Bool)) : DirectStore :=
  match result with
  | .error _ => store
  | .ok (store, _) => store

/-- The tables after an event. A new principal is as `submitDirectVerifier` inserts it. -/
def directStep (store : DirectStore) : DirectEvent → DirectStore
  | .insert principal =>
    store.committed (store.insert {
      id := principal.id
      memberId := principal.memberId
      userId := principal.userId
      principalName := principal.principalName
      marker := principal.marker
      verifierKind := principal.verifierKind
      verifier := principal.verifier
      createdAt := store.now })
  | .revise id readVersion userId verifierKind verifier =>
    store.committed (store.revise id readVersion userId verifierKind verifier)
  | .claim id deviceId drop =>
    store.committed (store.claim id deviceId (if drop then .dropPending else .applying))
  | .settle receipt => store.committed (store.settleDirectReceipt receipt)
  | .change facts => { store with facts := facts }
  | .tick milliseconds => { store with now := store.now + milliseconds }

end Dopedb.Cloud
