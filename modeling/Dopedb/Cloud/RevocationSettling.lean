import Dopedb.Cloud.DirectAccessStore
import Mathlib.Data.List.Forall2

/-!
# Settling revocations after a mutation

`settleDirectRevocationsAfterMutation` of `workspace-direct-access-store.ts`: a statement of every
batch that changes who may access what. Pending items of an administrator become applied when the
level of the member, as the statement reads it from the changed rows, is at most their target, and
cancelled otherwise. The work list reads a level from the same rows.
-/

namespace Dopedb.Cloud

open Library

/-- Why access is revoked. -/
inductive DirectRevocationKind where
  | memberRemoved | grantLowered | roleLowered | teamReadOff | dbDeleted | selfLeave
  | accountDeleted
  deriving DecidableEq, Repr

/-- The states of a revocation. -/
inductive DirectRevocationState where
  | pending | applied | cancelled
  deriving DecidableEq, Repr

/-- A row of `workspace_direct_revocation`. A check of the table excludes the target `write`. -/
structure DirectRevocation where
  id : String
  connectionId : String
  memberId : String
  kind : DirectRevocationKind
  targetLevel : DirectLevel
  state : DirectRevocationState
  target_check : targetLevel ≠ .write

/-- A row of `workspace_connection_grant`, with its connection. -/
structure AccessGrant where
  connectionId : String
  memberId : String
  capability : String

/-- A row of `workspace_connection`, as far as access is about it. -/
structure DirectConnection where
  id : String
  deleted : Bool

/-- A row of `workspace_direct_endpoint`, as far as the work list reads it. -/
structure EndpointCeiling where
  connectionId : String
  writeCeiling : Bool
  scopeRevision : Nat

/-- The rows that say who may access what. -/
structure AccessRows where
  members : List DirectMember
  grants : List AccessGrant
  connections : List DirectConnection
  endpoints : List EndpointCeiling

/-- The tables that revocations are about. -/
structure RevocationTables where
  rows : AccessRows
  revocations : List DirectRevocation

namespace AccessRows

variable (rows : AccessRows)

def member (memberId : String) : Option DirectMember :=
  rows.members.find? fun member => member.memberId = memberId

def grant (connectionId memberId : String) : Option AccessGrant :=
  rows.grants.find? fun grant => grant.connectionId = connectionId ∧ grant.memberId = memberId

def connection (connectionId : String) : Option DirectConnection :=
  rows.connections.find? fun connection => connection.id = connectionId

def endpoint (connectionId : String) : Option EndpointCeiling :=
  rows.endpoints.find? fun endpoint => endpoint.connectionId = connectionId

/-! ## The statement -/

/-- The level that the statement reads from the rows, as a number. -/
def settledRank (connectionId memberId : String) : Nat :=
  match rows.member memberId, rows.grant connectionId memberId,
      (rows.connection connectionId).filter (fun connection => !connection.deleted),
      rows.endpoint connectionId with
  | some member, some grant, some _, some endpoint =>
    if member.role ∉ ["viewer", "analyst", "editor", "admin", "owner"] then 0
    else if grant.capability ∈ ["use", "manage"] ∧ member.role ∈ ["editor", "admin", "owner"] then
      if endpoint.writeCeiling then 2 else 1
    else if grant.capability ∈ ["read", "use", "manage"] then 1
    else 0
  | _, _, _, _ => 0

end AccessRows

/-- `directSettlePairs`: which items a mutation concerns. -/
inductive DirectSettlePairs where
  | grant (connectionId memberId : String)
  | member (memberId : String)
  | connection (connectionId : String)

/-- The predicate of the pairs on a row. -/
def DirectSettlePairs.concerns : DirectSettlePairs → DirectRevocation → Bool
  | .grant connectionId memberId, item =>
    item.connectionId = connectionId ∧ item.memberId = memberId
  | .member memberId, item => item.memberId = memberId
  | .connection connectionId, item => item.connectionId = connectionId

/-- An item that an administrator declared. The others belong to the worker. -/
def DirectRevocation.administrative (item : DirectRevocation) : Bool :=
  item.kind ≠ .selfLeave ∧ item.kind ≠ .accountDeleted

/-- The rows that the statement updates. -/
def DirectSettlePairs.settles (pairs : DirectSettlePairs) (item : DirectRevocation) : Bool :=
  item.state = .pending ∧ item.administrative ∧ pairs.concerns item

/-- The statement on one row. -/
def settleItem (rows : AccessRows) (pairs : DirectSettlePairs) (item : DirectRevocation) :
    DirectRevocation :=
  if pairs.settles item then
    { item with
      state :=
        if rows.settledRank item.connectionId item.memberId ≤
            (if item.targetLevel = .read then 1 else 0) then .applied
        else .cancelled }
  else item

/-- `settleDirectRevocationsAfterMutation`, on the rows that the mutation left. The scope is a query
of the mutation, and nothing is settled when it has no row. -/
def settleDirectRevocationsAfterMutation (rows : AccessRows) (scope : Bool)
    (pairs : DirectSettlePairs) (revocations : List DirectRevocation) : List DirectRevocation :=
  if scope then revocations.map (settleItem rows pairs) else revocations

/-! ## The work list -/

/-- What the work list of a connection reads, with the pending items that cap its levels. -/
def AccessRows.facts (rows : AccessRows) (connection : DirectConnection)
    (endpoint : EndpointCeiling) (pending : List DirectRevocation) : DirectFacts where
  members := rows.members
  grants := (rows.grants.filter fun grant => grant.connectionId = connection.id).map fun grant =>
    ⟨grant.memberId, grant.capability⟩
  pending := (pending.filter fun item =>
    item.connectionId = connection.id ∧ item.state = .pending).map fun item =>
      ⟨item.memberId, item.targetLevel = .none⟩
  connectionDeleted := connection.deleted
  writeCeiling := endpoint.writeCeiling
  scopeRevision := endpoint.scopeRevision

/-- The level of a principal in the work list. A principal without a connection or an endpoint is
not listed. -/
def AccessRows.workLevel (rows : AccessRows) (pending : List DirectRevocation)
    (connectionId : String) (principal : DirectPrincipal) : DirectLevel :=
  match rows.connection connectionId, rows.endpoint connectionId with
  | some connection, some endpoint =>
    DirectStore.desiredLevel (rows.facts connection endpoint pending) principal
  | _, _ => .none

/-- The level of a principal in the work list without a cap. -/
def AccessRows.uncappedLevel (rows : AccessRows) (connectionId : String)
    (principal : DirectPrincipal) : DirectLevel :=
  rows.workLevel [] connectionId principal

/-! ## The two readings of the rows -/

/-- A text that names no role. -/
theorem role_unknown {role : String}
    (h : role ∉ ["viewer", "analyst", "editor", "admin", "owner"]) :
    WorkspaceRoleName.parse role = none := by
  unfold WorkspaceRoleName.parse
  split <;> simp_all

/-- A text that names no capability. -/
theorem capability_unknown {capability : String}
    (h : capability ∉ ["view", "read", "use", "manage"]) :
    WorkspaceConnectionCapability.parse capability = none := by
  unfold WorkspaceConnectionCapability.parse
  split <;> simp_all

/-- The two mappings of a role and a capability agree. -/
theorem desired_rank (role capability : String) (writeCeiling : Bool) :
    directLevelRank (directDesiredLevel role capability writeCeiling true false false) =
      if role ∉ ["viewer", "analyst", "editor", "admin", "owner"] then 0
      else if capability ∈ ["use", "manage"] ∧ role ∈ ["editor", "admin", "owner"] then
        if writeCeiling then 2 else 1
      else if capability ∈ ["read", "use", "manage"] then 1
      else 0 := by
  by_cases hrole : role ∈ ["viewer", "analyst", "editor", "admin", "owner"]
  · rw [if_neg (not_not.mpr hrole)]
    by_cases hcapability : capability ∈ ["view", "read", "use", "manage"]
    · simp only [List.mem_cons, List.not_mem_nil, or_false] at hrole hcapability
      rcases hrole with rfl | rfl | rfl | rfl | rfl <;>
        rcases hcapability with rfl | rfl | rfl | rfl <;> cases writeCeiling <;> decide
    · have hnone := capability_unknown hcapability
      simp only [List.mem_cons, List.not_mem_nil, or_false, not_or] at hcapability
      obtain ⟨-, hread, huse, hmanage⟩ := hcapability
      rw [if_neg (by simp [huse, hmanage]), if_neg (by simp [hread, huse, hmanage])]
      unfold directDesiredLevel
      rw [hnone]
      cases WorkspaceRoleName.parse role <;> rfl
  · rw [if_pos hrole]
    unfold directDesiredLevel
    rw [role_unknown hrole]
    rfl

/-- The principal is that of the member with its id, if there is one. -/
def AccessRows.ofMember (rows : AccessRows) (principal : DirectPrincipal) : Prop :=
  ∀ member, rows.member principal.memberId = some member → member.userId = principal.userId

section Levels

variable {rows : AccessRows} {principal : DirectPrincipal} {connectionId : String}

/-- The work list joins the member by its id and its user. -/
theorem member_of_facts (h : rows.ofMember principal) (connection : DirectConnection)
    (endpoint : EndpointCeiling) (pending : List DirectRevocation) :
    DirectStore.memberOf (rows.facts connection endpoint pending) principal =
      rows.member principal.memberId := by
  have hfind : ∀ members : List DirectMember,
      (∀ member, members.find? (fun member => member.memberId = principal.memberId) =
        some member → member.userId = principal.userId) →
      members.find? (fun member => member.memberId = principal.memberId ∧
        member.userId = principal.userId) =
          members.find? (fun member => member.memberId = principal.memberId) := by
    intro members hmembers
    induction members with
    | nil => rfl
    | cons member rest ih =>
        rw [List.find?_cons, List.find?_cons]
        rw [List.find?_cons] at hmembers
        by_cases hid : member.memberId = principal.memberId
        · have huser : member.userId = principal.userId := hmembers member (by simp [hid])
          simp [hid, huser]
        · simp only [hid, decide_false, false_and]
          exact ih (by simpa [hid] using hmembers)
  exact hfind rows.members h

/-- The grant that the work list joins. -/
theorem grant_of_facts {connection : DirectConnection} (hid : connection.id = connectionId)
    (endpoint : EndpointCeiling) (pending : List DirectRevocation) :
    DirectStore.grantOf (rows.facts connection endpoint pending) principal =
      (rows.grant connectionId principal.memberId).map fun grant =>
        ⟨grant.memberId, grant.capability⟩ := by
  unfold DirectStore.grantOf AccessRows.facts AccessRows.grant
  simp only
  rw [List.find?_map, List.find?_filter, hid]
  congr 2
  funext grant
  simp

theorem connection_id {connection : DirectConnection}
    (h : rows.connection connectionId = some connection) : connection.id = connectionId := by
  simpa using List.find?_some h

end Levels

/-- The level that the role and the grant of a member give, whether or not the member is about to
be removed. -/
def AccessRows.grantedLevel (rows : AccessRows) (connectionId memberId : String) : DirectLevel :=
  match rows.connection connectionId, rows.endpoint connectionId with
  | some connection, some endpoint =>
    directDesiredLevel ((rows.member memberId).elim "" (·.role))
      ((rows.grant connectionId memberId).elim "" (·.capability)) endpoint.writeCeiling
      ((rows.member memberId).isSome && (rows.grant connectionId memberId).isSome) false
      connection.deleted
  | _, _ => .none

/-- The revocation of the member itself is pending. -/
def AccessRows.leaving (rows : AccessRows) (memberId : String) : Bool :=
  (rows.member memberId).any (·.revocationPending)

/-- The level that a member should hold. -/
def AccessRows.memberLevel (rows : AccessRows) (connectionId memberId : String) : DirectLevel :=
  if rows.leaving memberId then .none else rows.grantedLevel connectionId memberId

/-- The statement computes the granted level. -/
theorem settled_rank (rows : AccessRows) (connectionId memberId : String) :
    rows.settledRank connectionId memberId =
      directLevelRank (rows.grantedLevel connectionId memberId) := by
  unfold AccessRows.settledRank AccessRows.grantedLevel
  cases rows.connection connectionId with
  | none =>
      rw [Option.filter_none]
      cases rows.member memberId <;> cases rows.grant connectionId memberId <;> rfl
  | some connection =>
      cases rows.endpoint connectionId with
      | none =>
          cases rows.member memberId <;> cases rows.grant connectionId memberId <;>
            cases (some connection).filter (fun connection => !connection.deleted) <;> rfl
      | some endpoint =>
          cases rows.member memberId with
          | none => simp [directDesiredLevel, directLevelRank]
          | some member =>
              cases rows.grant connectionId memberId with
              | none => simp [directDesiredLevel, directLevelRank]
              | some grant =>
                  cases hdeleted : connection.deleted with
                  | true =>
                      have hfilter : (some connection).filter (fun connection =>
                          !connection.deleted) = none := by simp [hdeleted]
                      rw [hfilter]
                      simp [directDesiredLevel, directLevelRank, hdeleted]
                  | false =>
                      have hfilter : (some connection).filter (fun connection =>
                          !connection.deleted) = some connection := by simp [hdeleted]
                      rw [hfilter]
                      simpa [hdeleted] using
                        (desired_rank member.role grant.capability endpoint.writeCeiling).symm

/-- The work list computes the level of the member without a cap. -/
theorem uncapped_level {rows : AccessRows} {principal : DirectPrincipal} {connectionId : String}
    (h : rows.ofMember principal) :
    rows.uncappedLevel connectionId principal =
      rows.memberLevel connectionId principal.memberId := by
  unfold AccessRows.uncappedLevel AccessRows.workLevel AccessRows.memberLevel
    AccessRows.grantedLevel
  cases hconnection : rows.connection connectionId with
  | none => rw [ite_self]
  | some connection =>
      cases rows.endpoint connectionId with
      | none => rw [ite_self]
      | some endpoint =>
          have hgrant := @grant_of_facts rows principal _ _
            (connection_id hconnection) endpoint []
          have hcap : DirectStore.revocationCap (rows.facts connection endpoint [])
              principal.memberId = none := rfl
          simp only [DirectStore.desiredLevel, member_of_facts h, hgrant, hcap, capDirectLevel,
            Option.elim_map, Option.isSome_map, Function.comp_def]
          split
          case isTrue hleaving => exact if_pos (.inr (.inl hleaving))
          case isFalse hstaying =>
              have hfalse : (rows.member principal.memberId).any (·.revocationPending) = false := by
                simpa [AccessRows.leaving] using hstaying
              rw [hfalse]
              rfl

/-- An item that caps the level of a member on a connection. -/
def DirectRevocation.caps (item : DirectRevocation) (connectionId memberId : String) : Prop :=
  item.connectionId = connectionId ∧ item.memberId = memberId ∧ item.state = .pending

instance (item : DirectRevocation) (connectionId memberId : String) :
    Decidable (item.caps connectionId memberId) :=
  inferInstanceAs (Decidable (_ ∧ _))

/-- The rank that a target is compared with in the statement and in the work list. -/
theorem target_rank (item : DirectRevocation) :
    directLevelRank item.targetLevel = if item.targetLevel = .read then 1 else 0 := by
  have hcheck := item.target_check
  cases htarget : item.targetLevel with
  | none => rfl
  | read => rfl
  | write => exact absurd htarget hcheck

theorem lt_rank_cap (n : Nat) (level : DirectLevel) (cap : Option DirectLevel) :
    n < directLevelRank (capDirectLevel level cap) ↔
      n < directLevelRank level ∧ ∀ bound, cap = some bound → n < directLevelRank bound := by
  cases cap with
  | none => simp [capDirectLevel]
  | some bound =>
      simp only [capDirectLevel, Option.some.injEq, forall_eq']
      split <;> omega

/-- The cap of the work list is the least target of the pending items of the member. -/
theorem lt_revocation_cap (rows : AccessRows) {connection : DirectConnection}
    {connectionId : String} (hid : connection.id = connectionId) (endpoint : EndpointCeiling)
    (pending : List DirectRevocation) (memberId : String) (n : Nat) :
    (∀ bound, DirectStore.revocationCap (rows.facts connection endpoint pending) memberId =
        some bound → n < directLevelRank bound) ↔
      ∀ item ∈ pending, item.caps connectionId memberId →
        n < directLevelRank item.targetLevel := by
  subst hid
  set own := (rows.facts connection endpoint pending).pending.filter fun revocation =>
    revocation.memberId = memberId with hown
  have hmem : ∀ entry, entry ∈ own ↔ ∃ item ∈ pending, item.caps connection.id memberId ∧
      entry = ⟨item.memberId, item.targetLevel = .none⟩ := by
    intro entry
    simp only [hown, AccessRows.facts, List.mem_filter, List.mem_map, decide_eq_true_eq,
      DirectRevocation.caps]
    constructor
    · rintro ⟨⟨item, ⟨hitem, hconnection, hstate⟩, rfl⟩, hmember⟩
      exact ⟨item, hitem, ⟨hconnection, hmember, hstate⟩, rfl⟩
    · rintro ⟨item, hitem, ⟨hconnection, hmember, hstate⟩, rfl⟩
      exact ⟨⟨item, ⟨hitem, hconnection, hstate⟩, rfl⟩, hmember⟩
  have hcap : DirectStore.revocationCap (rows.facts connection endpoint pending) memberId =
      if own.isEmpty then none
      else if own.any (·.targetsNone) then some DirectLevel.none else some DirectLevel.read := rfl
  rw [hcap]
  by_cases hempty : own.isEmpty
  · -- no item of the member is pending, and nothing is capped
    rw [if_pos hempty]
    rw [List.isEmpty_iff] at hempty
    constructor
    · intro _ item hitem hcaps
      have := (hmem ⟨item.memberId, item.targetLevel = .none⟩).mpr ⟨item, hitem, hcaps, rfl⟩
      rw [hempty] at this
      exact absurd this (List.not_mem_nil)
    · intro _ bound hbound
      exact absurd hbound (by simp)
  · rw [if_neg hempty]
    by_cases hnone : own.any (·.targetsNone)
    · -- some item targets none, and no level is above it
      rw [if_pos hnone]
      obtain ⟨entry, hentry, htargets⟩ := List.any_eq_true.mp hnone
      obtain ⟨item, hitem, hcaps, rfl⟩ := (hmem entry).mp hentry
      have htarget : item.targetLevel = .none := by simpa using htargets
      constructor
      · intro h
        exact absurd (h .none rfl) (by simp [directLevelRank])
      · intro h
        have := h item hitem hcaps
        rw [htarget] at this
        exact absurd this (by simp [directLevelRank])
    · -- every item targets read, and there is one
      rw [if_neg hnone]
      have hread : ∀ item ∈ pending, item.caps connection.id memberId →
          directLevelRank item.targetLevel = 1 := by
        intro item hitem hcaps
        rw [target_rank, if_pos]
        have hnot : item.targetLevel ≠ .none := by
          intro htarget
          refine hnone (List.any_eq_true.mpr ⟨_, (hmem _).mpr ⟨item, hitem, hcaps, rfl⟩, ?_⟩)
          simpa using htarget
        have hcheck := item.target_check
        cases htarget : item.targetLevel with
        | none => exact absurd htarget hnot
        | read => rfl
        | write => exact absurd htarget hcheck
      constructor
      · intro h item hitem hcaps
        rw [hread item hitem hcaps]
        exact h .read rfl
      · intro h bound hbound
        obtain rfl : DirectLevel.read = bound := by simpa using hbound
        obtain ⟨entry, rest, hcons⟩ := List.exists_cons_of_ne_nil
          (fun hnil => hempty (List.isEmpty_iff.mpr hnil))
        obtain ⟨item, hitem, hcaps, -⟩ := (hmem entry).mp (by rw [hcons]; simp)
        have := h item hitem hcaps
        rwa [hread item hitem hcaps] at this

/-- The level in the work list is the level of the member, capped by every pending item of the
pair. -/
theorem lt_work_level {rows : AccessRows} {principal : DirectPrincipal}
    (h : rows.ofMember principal) (pending : List DirectRevocation) (connectionId : String)
    (n : Nat) :
    n < directLevelRank (rows.workLevel pending connectionId principal) ↔
      n < directLevelRank (rows.memberLevel connectionId principal.memberId) ∧
        ∀ item ∈ pending, item.caps connectionId principal.memberId →
          n < directLevelRank item.targetLevel := by
  rw [← uncapped_level h]
  unfold AccessRows.uncappedLevel AccessRows.workLevel
  cases hconnection : rows.connection connectionId with
  | none => simp [directLevelRank]
  | some connection =>
      cases rows.endpoint connectionId with
      | none => simp [directLevelRank]
      | some endpoint =>
          have hid := connection_id hconnection
          simp only [DirectStore.desiredLevel, lt_rank_cap]
          rw [lt_revocation_cap rows hid, lt_revocation_cap rows hid]
          simp only [List.not_mem_nil, false_implies, implies_true, and_true]
          have hmember := member_of_facts h connection endpoint
          have hgrant := @grant_of_facts rows principal _ _ hid endpoint
          rw [hmember pending, hmember [], hgrant pending, hgrant []]
          rfl

/-! ## Runs -/

/-- What happens to the tables: any other statement, and a mutation with the statement that settles
the items of its pairs. -/
inductive RevocationEvent where
  | change (tables : RevocationTables)
  | mutate (rows : AccessRows) (scope : Bool) (pairs : DirectSettlePairs)

namespace RevocationTables

/-- One batch of statements. -/
def step (tables : RevocationTables) : RevocationEvent → RevocationTables
  | .change changed => changed
  | .mutate rows scope pairs =>
    { rows, revocations :=
        settleDirectRevocationsAfterMutation rows scope pairs tables.revocations }

/-- What a mutation should do to an item: the item is settled by the level that the work list reads
for its member, and when the level of the member is then above its target, it is the mutation that
raised it. -/
structure SettledRight (tables : RevocationTables) (rows : AccessRows) (scope : Bool)
    (pairs : DirectSettlePairs) (item settled : DirectRevocation) : Prop where
  untouched : (scope && pairs.settles item) = false → settled = item
  agrees : scope && pairs.settles item → ∀ principal : DirectPrincipal,
    principal.memberId = item.memberId → rows.ofMember principal →
      settled = { item with
        state :=
          if directLevelRank (rows.uncappedLevel item.connectionId principal) ≤
              directLevelRank item.targetLevel then .applied
          else .cancelled }
  keeps_low : scope && pairs.settles item → ∀ principal : DirectPrincipal,
    principal.memberId = item.memberId → rows.ofMember principal →
      directLevelRank item.targetLevel < directLevelRank (rows.workLevel
        (tables.step (.mutate rows scope pairs)).revocations item.connectionId principal) →
      directLevelRank (tables.rows.memberLevel item.connectionId item.memberId) ≤
        directLevelRank item.targetLevel

/-- Every item is settled right by every mutation. -/
def SettlesRight (tables : RevocationTables) : RevocationEvent → Prop
  | .change _ => True
  | .mutate rows scope pairs =>
    List.Forall₂ (tables.SettledRight rows scope pairs) tables.revocations
      (tables.step (.mutate rows scope pairs)).revocations

/-- An item that the worker settles holds the member at or below a level. -/
def workerHolds (tables : RevocationTables) (item : DirectRevocation) : Prop :=
  ∃ other ∈ tables.revocations, other.caps item.connectionId item.memberId ∧
    other.administrative = false ∧
      directLevelRank other.targetLevel ≤ directLevelRank item.targetLevel

/-- No item that a mutation settles is one of a member who is leaving with a role and a grant above
its target, nor one of a member who had a level above the target before the mutation and keeps one
after it while no item of the worker holds it. -/
def SettlesOnChange (tables : RevocationTables) : RevocationEvent → Prop
  | .change _ => True
  | .mutate rows scope pairs =>
    ∀ item ∈ tables.revocations, scope && pairs.settles item →
      (rows.leaving item.memberId →
        directLevelRank (rows.grantedLevel item.connectionId item.memberId) ≤
          directLevelRank item.targetLevel) ∧
      (directLevelRank item.targetLevel <
          directLevelRank (rows.memberLevel item.connectionId item.memberId) →
        directLevelRank (tables.rows.memberLevel item.connectionId item.memberId) ≤
            directLevelRank item.targetLevel ∨ tables.workerHolds item)

section Mutation

variable (tables : RevocationTables) (rows : AccessRows) (scope : Bool) (pairs : DirectSettlePairs)

/-- The statement, item by item. -/
theorem step_revocations :
    (tables.step (.mutate rows scope pairs)).revocations =
      tables.revocations.map fun item => if scope then settleItem rows pairs item else item := by
  show settleDirectRevocationsAfterMutation rows scope pairs tables.revocations = _
  unfold settleDirectRevocationsAfterMutation
  cases scope <;> simp

/-- Neither of the two new states is pending. -/
theorem settled_not_pending {below : Prop} [Decidable below] :
    (if below then DirectRevocationState.applied else .cancelled) ≠ .pending := by
  split <;> simp

/-- The settled items are exactly those that stop capping. -/
theorem settle_item_caps (item : DirectRevocation) (connectionId memberId : String) :
    (settleItem rows pairs item).caps connectionId memberId ↔
      item.caps connectionId memberId ∧ pairs.settles item = false := by
  unfold settleItem
  by_cases hsettles : pairs.settles item
  · rw [if_pos hsettles]
    simp only [DirectRevocation.caps, hsettles, Bool.true_eq_false, and_false, iff_false]
    rintro ⟨-, -, hstate⟩
    exact absurd hstate settled_not_pending
  · rw [if_neg hsettles]
    simp [hsettles]

/-- An item keeps its target. -/
theorem settle_item_target (item : DirectRevocation) :
    (settleItem rows pairs item).targetLevel = item.targetLevel := by
  unfold settleItem
  split <;> rfl

variable {tables rows scope pairs} {item : DirectRevocation}

/-- A mutation that concerns an item concerns every item of its pair. -/
theorem settles_pair (hsettles : pairs.settles item) {other : DirectRevocation}
    (hcaps : other.caps item.connectionId item.memberId) :
    pairs.settles other = other.administrative := by
  obtain ⟨hconnection, hmember, hstate⟩ := hcaps
  have hconcerns : pairs.concerns other = pairs.concerns item := by
    cases pairs <;> simp [DirectSettlePairs.concerns, hconnection, hmember]
  have hitem : pairs.concerns item := by
    simp only [DirectSettlePairs.settles, decide_eq_true_eq] at hsettles
    exact hsettles.2.2
  unfold DirectSettlePairs.settles
  rw [hconcerns, hitem, hstate]
  simp

/-- The items that still cap the pair of a settled item are those of the worker. -/
theorem remaining_caps (hscope : scope = true) (hsettles : pairs.settles item) (n : Nat) :
    (∀ other ∈ (tables.step (.mutate rows scope pairs)).revocations,
        other.caps item.connectionId item.memberId → n < directLevelRank other.targetLevel) ↔
      ∀ other ∈ tables.revocations, other.caps item.connectionId item.memberId →
        other.administrative = false → n < directLevelRank other.targetLevel := by
  rw [step_revocations]
  subst hscope
  simp only [List.mem_map, if_pos]
  constructor
  · intro h other hother hcaps hworker
    rw [← settle_item_target rows pairs other]
    refine h _ ⟨other, hother, rfl⟩ ((settle_item_caps rows pairs other _ _).mpr ⟨hcaps, ?_⟩)
    rw [settles_pair hsettles hcaps, hworker]
  · rintro h _ ⟨other, hother, rfl⟩ hcaps
    obtain ⟨hcapsBefore, hleft⟩ := (settle_item_caps rows pairs other _ _).mp hcaps
    rw [settle_item_target]
    refine h other hother hcapsBefore ?_
    rw [← settles_pair hsettles hcapsBefore, hleft]

/-- What the statement writes for an item that it settles. -/
theorem settle_item_eq (hsettles : pairs.settles item) :
    settleItem rows pairs item = { item with
      state :=
        if directLevelRank (rows.grantedLevel item.connectionId item.memberId) ≤
            directLevelRank item.targetLevel then .applied
        else .cancelled } := by
  unfold settleItem
  rw [if_pos hsettles, settled_rank, target_rank]

/-- There is a principal of every member. -/
theorem principal_of_member (rows : AccessRows) (memberId : String) :
    ∃ principal : DirectPrincipal, principal.memberId = memberId ∧ rows.ofMember principal := by
  let principal : DirectPrincipal :=
    { id := ""
      memberId
      userId := (rows.member memberId).elim "" (·.userId)
      principalName := ""
      marker := ""
      verifierKind := .scramSha256
      verifier := ""
      createdAt := 0 }
  refine ⟨principal, rfl, ?_⟩
  intro member hmember
  show member.userId = (rows.member memberId).elim "" (·.userId)
  rw [show rows.member memberId = some member from hmember]
  rfl

/-- The statement and the work list settle an item alike unless its member is leaving with a level
above its target. -/
theorem state_agrees_iff :
    (if directLevelRank (rows.grantedLevel item.connectionId item.memberId) ≤
          directLevelRank item.targetLevel then DirectRevocationState.applied
        else .cancelled) =
      (if directLevelRank (rows.memberLevel item.connectionId item.memberId) ≤
          directLevelRank item.targetLevel then .applied
        else .cancelled) ↔
      (rows.leaving item.memberId →
        directLevelRank (rows.grantedLevel item.connectionId item.memberId) ≤
          directLevelRank item.targetLevel) := by
  unfold AccessRows.memberLevel
  by_cases hleaving : rows.leaving item.memberId
  · rw [if_pos hleaving, if_pos (show directLevelRank .none ≤ _ from Nat.zero_le _)]
    split <;> simp_all
  · rw [if_neg hleaving]
    simp [hleaving]

/-- The mutation settles one item right exactly when the condition holds of it. -/
theorem settled_right_iff :
    tables.SettledRight rows scope pairs item
        (if scope then settleItem rows pairs item else item) ↔
      (scope && pairs.settles item →
        (rows.leaving item.memberId →
          directLevelRank (rows.grantedLevel item.connectionId item.memberId) ≤
            directLevelRank item.targetLevel) ∧
        (directLevelRank item.targetLevel <
            directLevelRank (rows.memberLevel item.connectionId item.memberId) →
          directLevelRank (tables.rows.memberLevel item.connectionId item.memberId) ≤
              directLevelRank item.targetLevel ∨ tables.workerHolds item)) := by
  have hholds : tables.workerHolds item ↔
      ¬ ∀ other ∈ tables.revocations, other.caps item.connectionId item.memberId →
        other.administrative = false →
          directLevelRank item.targetLevel < directLevelRank other.targetLevel := by
    unfold workerHolds
    push Not
    rfl
  constructor
  · -- the principal of the member tells what the work list reads
    intro hright hboth
    obtain ⟨hscope, hsettles⟩ := Bool.and_eq_true_iff.mp hboth
    obtain ⟨principal, hmember, hof⟩ := principal_of_member rows item.memberId
    have hagrees := hright.agrees hboth principal hmember hof
    rw [if_pos hscope, settle_item_eq hsettles, uncapped_level hof, hmember] at hagrees
    refine ⟨state_agrees_iff.mp (congrArg DirectRevocation.state hagrees), ?_⟩
    intro habove
    -- another item that a worker holds may cap the member as low
    by_cases hheld : tables.workerHolds item
    · exact .inr hheld
    · refine .inl (hright.keeps_low hboth principal hmember hof ?_)
      rw [lt_work_level hof, hmember, remaining_caps hscope hsettles]
      exact ⟨habove, not_not.mp (mt hholds.mpr hheld)⟩
  · intro hcondition
    constructor
    case untouched =>
      intro hnot
      cases hscope : scope with
      | false => rfl
      | true =>
          rw [hscope, Bool.true_and] at hnot
          rw [if_pos rfl]
          unfold settleItem
          rw [if_neg (by simp [hnot])]
    case agrees =>
      intro hboth principal hmember hof
      obtain ⟨hscope, hsettles⟩ := Bool.and_eq_true_iff.mp hboth
      rw [if_pos hscope, settle_item_eq hsettles, uncapped_level hof, hmember,
        state_agrees_iff.mpr (hcondition hboth).1]
    case keeps_low =>
      intro hboth principal hmember hof hlevel
      obtain ⟨hscope, hsettles⟩ := Bool.and_eq_true_iff.mp hboth
      rw [lt_work_level hof, hmember, remaining_caps hscope hsettles] at hlevel
      rcases (hcondition hboth).2 hlevel.1 with hlow | hheld
      · exact hlow
      · exact absurd hlevel.2 (hholds.mp hheld)

/-- A mutation settles every item right exactly when the condition holds of each. -/
theorem settles_right_iff (tables : RevocationTables) (event : RevocationEvent) :
    tables.SettlesRight event ↔ tables.SettlesOnChange event := by
  cases event with
  | change changed => exact Iff.rfl
  | mutate rows scope pairs =>
      show List.Forall₂ _ _ _ ↔ _
      rw [step_revocations, List.forall₂_map_right_iff, List.forall₂_same]
      exact forall₂_congr fun item _ => settled_right_iff

end Mutation

/-- In every run, every mutation settles the pending items of its pairs as the work list would, and
lifts no cap of a member whose level it did not raise, exactly when the condition holds of every
item that a mutation settles. -/
theorem revocations_settle_right (tables : RevocationTables) (events : List RevocationEvent) :
    EachCall step SettlesRight tables events ↔ EachCall step SettlesOnChange tables events :=
  each_call_iff (P := fun _ => True) (fun tables event _ => settles_right_iff tables event)
    (fun _ _ _ _ => trivial) trivial events

/-- An editor with a grant whose removal waits for the revocation on the server. -/
def leavingEditor : RevocationTables where
  rows :=
    { members := [{
        memberId := "m"
        userId := "u"
        role := "editor"
        revocationPending := true }]
      grants := [⟨"c", "m", "use"⟩]
      connections := [⟨"c", false⟩]
      endpoints := [⟨"c", false, 1⟩] }
  revocations := [{
    id := "r"
    connectionId := "c"
    memberId := "m"
    kind := .memberRemoved
    targetLevel := .none
    state := .pending
    target_check := by decide }]

/-- Switching the team read of the connection, which changes none of these rows. -/
def teamReadSwitched : RevocationEvent :=
  .mutate leavingEditor.rows true (.connection "c")

/-- The removal of a leaving member is cancelled by a mutation that has nothing to do with it,
although the level of the member is none. -/
theorem leaving_member_cancelled :
    (leavingEditor.step teamReadSwitched).revocations.map (·.state) = [.cancelled] ∧
      leavingEditor.rows.memberLevel "c" "m" = .none ∧
      ¬ EachCall step SettlesRight leavingEditor [teamReadSwitched] := by
  refine ⟨by decide, by decide, ?_⟩
  rintro ⟨hright, -⟩
  rw [settles_right_iff] at hright
  have hlow := (hright _ (List.mem_singleton.mpr rfl) (by decide)).1 (by decide)
  exact absurd hlow (by decide)

end RevocationTables

end Dopedb.Cloud
