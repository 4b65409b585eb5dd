import Dopedb.Cloud.DirectInvariant

/-!
# The lowering guard

`directLoweringBlockers` beside the databases themselves: the level that the role of each principal
really holds, the work that devices received, and what they report of it. A device may carry out
received work at any time, in part or again, and a report may arrive at any time or never. The guard
is sound in every run in which no step leaves a role above its record without a live claim.
-/

namespace Dopedb.Cloud

open Library DirectStore

/-! ## The guard -/

/-- A member who is to hold at most a level on a connection. -/
structure LoweringTarget where
  connectionId : String
  memberId : String
  level : DirectLevel
  deriving DecidableEq

/-- A member who still holds more. -/
structure DirectBlocker where
  connectionId : String
  memberId : String
  deriving DecidableEq

/-- A principal blocks a target of its member. -/
def DirectPrincipal.blocks (principal : DirectPrincipal) (now : Nat) (target : LoweringTarget) :
    Bool :=
  principal.memberId = target.memberId ∧ principal.state ≠ .dropped ∧
    (directLevelRank target.level < directLevelRank principal.appliedLevel ∨
      (principal.state = .applying ∧ principal.claimLive now = true))

/-! ## Databases and devices -/

/-- A work item that a device received. -/
structure DirectOrder where
  deviceId : String
  principalId : String
  desiredLevel : DirectLevel
  deriving DecidableEq

/-- What a device says that it applied. -/
structure DirectReport where
  deviceId : String
  principalId : String
  level : DirectLevel
  deriving DecidableEq

/-- The tables of a connection, the level of each role in its database, the roles that a device
changed, the claims that were granted, and the work and the reports of the devices. -/
structure DirectWorld where
  store : DirectStore
  role : String → DirectLevel
  changed : List String := []
  claims : List (String × String) := []
  orders : List DirectOrder := []
  reports : List DirectReport := []

/-- What happens around a connection. -/
inductive WorldEvent where
  | control (event : DirectEvent)
  | receive (deviceId principalId : String)
  | carry (order : DirectOrder) (level : DirectLevel)

namespace DirectWorld

/-- The claim of a device is granted. -/
def grants (world : DirectWorld) (id deviceId : String) (drop : Bool) : Bool :=
  match world.store.claim id deviceId (if drop then .dropPending else .applying) with
  | .ok (_, matched) => matched
  | .error _ => false

/-- A receipt is sent by a device that reports what it applied, work is received by a device with a
granted claim, and a device that carries out work, maybe in part, raises a role at most to the level
of its work. -/
def step (world : DirectWorld) : WorldEvent → DirectWorld
  | .control (.settle receipt) =>
    if ⟨receipt.deviceId, receipt.principalId, receipt.appliedLevel⟩ ∈ world.reports then
      { world with store := directStep world.store (.settle receipt) }
    else world
  | .control (.claim id deviceId drop) =>
    { world with
      store := directStep world.store (.claim id deviceId drop)
      claims :=
        if world.grants id deviceId drop then world.claims ++ [(deviceId, id)] else world.claims }
  | .control event => { world with store := directStep world.store event }
  | .receive deviceId principalId =>
    match world.store.listDirectWorkItems.find? fun item => item.principal.id = principalId with
    | none => world
    | some item =>
      if (deviceId, principalId) ∈ world.claims then
        { world with orders := world.orders ++ [⟨deviceId, principalId, item.desiredLevel⟩] }
      else world
  | .carry order level =>
    if order ∈ world.orders ∧
        directLevelRank level ≤
          max (directLevelRank (world.role order.principalId)) (directLevelRank order.desiredLevel)
    then
      { world with
        role := Function.update world.role order.principalId level
        changed := world.changed ++ [order.principalId]
        reports := world.reports ++ [⟨order.deviceId, order.principalId, level⟩] }
    else world

/-- The record of a principal is at least the level of its role. -/
def recorded (world : DirectWorld) (row : DirectPrincipal) : Prop :=
  row.id ∈ world.changed →
    directLevelRank (world.role row.id) ≤ directLevelRank row.appliedLevel

instance (world : DirectWorld) (row : DirectPrincipal) : Decidable (world.recorded row) :=
  inferInstanceAs (Decidable (_ → _))

/-- A step is orderly when a device raises a role above its record only under a live claim to apply,
an accepted receipt reports at least the level of the role, and a claim to apply neither ends nor
turns into a claim to drop with an unreported level. -/
def Orderly (world : DirectWorld) : WorldEvent → Prop
  | .carry order level => ∀ row ∈ world.store.principals, row.id = order.principalId →
      directLevelRank level ≤ directLevelRank row.appliedLevel ∨
        (row.state = .applying ∧ row.claimLive world.store.now = true)
  | .control (.settle receipt) => ∀ row ∈ world.store.principals, row.id = receipt.principalId →
      row.state = receipt.source → row.appliedByDeviceId = some receipt.deviceId →
        directLevelRank (world.role row.id) ≤ directLevelRank receipt.appliedLevel
  | .control (.claim id deviceId drop) => ∀ row ∈ world.store.principals, row.id = id →
      drop = true → row.state = .applying → world.grants id deviceId drop = true →
        world.recorded row
  | .control (.tick milliseconds) => ∀ row ∈ world.store.principals, row.state = .applying →
      row.claimLive (world.store.now + milliseconds) = false → world.recorded row
  | _ => True

instance (world : DirectWorld) : ∀ event, Decidable (world.Orderly event)
  | .carry _ _ => inferInstanceAs (Decidable (∀ row ∈ world.store.principals, _ → _))
  | .control (.settle _) => inferInstanceAs (Decidable (∀ row ∈ world.store.principals, _ → _))
  | .control (.claim _ _ _) => inferInstanceAs (Decidable (∀ row ∈ world.store.principals, _ → _))
  | .control (.tick _) => inferInstanceAs (Decidable (∀ row ∈ world.store.principals, _ → _))
  | .control (.insert _) => inferInstanceAs (Decidable True)
  | .control (.revise _ _ _ _ _) => inferInstanceAs (Decidable True)
  | .control (.change _) => inferInstanceAs (Decidable True)
  | .receive _ _ => inferInstanceAs (Decidable True)

end DirectWorld

/-! ## Workspaces -/

/-- The connections of a workspace. -/
abbrev DirectWorkspace := List (String × DirectWorld)

/-- What happens in a workspace: something at one connection, or time passes for all. -/
inductive WorkspaceEvent where
  | at (connectionId : String) (event : WorldEvent)
  | tick (milliseconds : Nat)

namespace DirectWorkspace

/-- What an event is to a connection. -/
def eventAt (connectionId : String) : WorkspaceEvent → Option WorldEvent
  | .at target event => if target = connectionId then some event else none
  | .tick milliseconds => some (.control (.tick milliseconds))

/-- The connections after an event. -/
def step (workspace : DirectWorkspace) (event : WorkspaceEvent) : DirectWorkspace :=
  workspace.map fun entry =>
    (entry.1, ((eventAt entry.1 event).map entry.2.step).getD entry.2)

/-- Every connection has an orderly step. -/
def Orderly (workspace : DirectWorkspace) (event : WorkspaceEvent) : Prop :=
  ∀ entry ∈ workspace, ∀ own ∈ eventAt entry.1 event, entry.2.Orderly own

instance (workspace : DirectWorkspace) (event : WorkspaceEvent) :
    Decidable (Orderly workspace event) :=
  inferInstanceAs (Decidable (∀ entry ∈ workspace, ∀ own ∈ eventAt entry.1 event, _))

/-- `directLoweringBlockers`. -/
def directLoweringBlockers (workspace : DirectWorkspace) (targets : List LoweringTarget) :
    List DirectBlocker :=
  targets.flatMap fun target => workspace.flatMap fun entry =>
    if entry.1 = target.connectionId then
      (entry.2.store.principals.filter fun principal =>
        principal.blocks entry.2.store.now target).map fun _ =>
          ⟨target.connectionId, target.memberId⟩
    else []

/-- `noDirectLoweringBlockers`. -/
def noDirectLoweringBlockers (workspace : DirectWorkspace) (targets : List LoweringTarget) : Bool :=
  (directLoweringBlockers workspace targets).isEmpty

/-- When a guarded mutation commits, the role of every principal of a target holds at most the new
level, or no device ever changed it. -/
def LoweringSound (workspace : DirectWorkspace) : Prop :=
  ∀ targets, noDirectLoweringBlockers workspace targets = true → ∀ target ∈ targets,
    ∀ entry ∈ workspace, entry.1 = target.connectionId → ∀ row ∈ entry.2.store.principals,
      row.memberId = target.memberId →
        directLevelRank (entry.2.role row.id) ≤ directLevelRank target.level ∨
          row.id ∉ entry.2.changed

end DirectWorkspace

/-! ## The invariant of a connection -/

/-- The record or a live claim covers the role of a principal, and a dropped one holds nothing. -/
structure RowCovered (world : DirectWorld) (row : DirectPrincipal) : Prop where
  dropped : row.state = .dropped → row.appliedLevel = .none
  covered : row.id ∈ world.changed →
    directLevelRank (world.role row.id) ≤ directLevelRank row.appliedLevel ∨
      (row.state = .applying ∧ row.claimLive world.store.now = true)

/-- What orderly steps keep. -/
structure WorldInv (world : DirectWorld) : Prop where
  store : StoreInv world.store
  orders : ∀ order ∈ world.orders, ∃ row ∈ world.store.principals, row.id = order.principalId
  changed : ∀ id ∈ world.changed, ∃ row ∈ world.store.principals, row.id = id
  rows : ∀ row ∈ world.store.principals, RowCovered world row

section World

variable {world : DirectWorld}

/-- A principal that is not being applied is recorded. -/
theorem RowCovered.recorded {row : DirectPrincipal} (h : RowCovered world row)
    (hstate : row.state ≠ .applying) : world.recorded row := by
  intro hchanged
  rcases h.covered hchanged with hle | ⟨happlying, -⟩
  · exact hle
  · exact absurd happlying hstate

/-- A recorded principal is covered. -/
theorem covered_of_recorded {row : DirectPrincipal} (h : world.recorded row)
    (hdropped : row.state = .dropped → row.appliedLevel = .none) : RowCovered world row :=
  ⟨hdropped, fun hchanged => .inl (h hchanged)⟩

/-- A listed principal is one of the table. -/
theorem listed_mem {store : DirectStore} {row : DirectPrincipal} (h : row ∈ store.listed) :
    row ∈ store.principals :=
  List.mem_of_mem_filter ((List.mergeSort_perm _ _).mem_iff.mp (List.mem_of_mem_take h))

/-- The tables change, the ids stay and the rows are covered. -/
theorem WorldInv.tables (h : WorldInv world) (event : DirectEvent) {claims : List (String × String)}
    (hrows : ∀ row ∈ (directStep world.store event).principals,
      RowCovered { world with store := directStep world.store event, claims := claims } row) :
    WorldInv { world with store := directStep world.store event, claims := claims } := by
  have hkept : ∀ id, (∃ row ∈ world.store.principals, row.id = id) →
      ∃ row ∈ (directStep world.store event).principals, row.id = id := by
    rintro id ⟨row, hrow, rfl⟩
    obtain ⟨row', hrow', hid, -⟩ := direct_step_allowed h.store event row hrow
    exact ⟨row', hrow', hid⟩
  exact ⟨h.store.step event, fun order horder => hkept _ (h.orders order horder),
    fun id hid => hkept id (h.changed id hid), hrows⟩

/-- The rows are covered after one was exchanged. -/
theorem covered_replace (h : WorldInv world) {row' : DirectPrincipal}
    {claims : List (String × String)} (fingerprint : Option String)
    (hrow' : RowCovered world row') :
    ∀ other ∈ ({ world.store with serverFingerprint := fingerprint }.replace row').principals,
      RowCovered { world with
        store := { world.store with serverFingerprint := fingerprint }.replace row'
        claims := claims } other := by
  intro other hother
  obtain ⟨before, hbefore, rfl⟩ := mem_replace.mp hother
  split
  · exact ⟨hrow'.dropped, hrow'.covered⟩
  · exact ⟨(h.rows before hbefore).dropped, (h.rows before hbefore).covered⟩

/-- A statement that changes nothing leaves the rows covered. -/
theorem covered_same (h : WorldInv world) {claims : List (String × String)} :
    ∀ row ∈ world.store.principals,
      RowCovered { world with store := world.store, claims := claims } row :=
  fun row hrow => ⟨(h.rows row hrow).dropped, (h.rows row hrow).covered⟩

/-- An inserted principal has no role yet. -/
theorem WorldInv.insert (h : WorldInv world) (principal : DirectPrincipal) :
    WorldInv (world.step (.control (.insert principal))) := by
  refine h.tables (.insert principal) ?_
  have hstep : directStep world.store (.insert principal) =
      world.store.committed (world.store.insert (principal.inserted world.store.now)) := rfl
  rw [hstep]
  cases hinsert : world.store.insert (principal.inserted world.store.now) with
  | error abort => exact covered_same h
  | ok result =>
      obtain ⟨hnew, hstore⟩ := insert_spec rfl (new_row_inv principal world.store.now) hinsert
      show ∀ row ∈ result.1.principals, RowCovered { world with store := result.1 } row
      rw [hstore]
      intro row hrow
      rcases List.mem_append.mp hrow with hold | hrow
      · exact ⟨(h.rows row hold).dropped, (h.rows row hold).covered⟩
      · rw [List.mem_singleton.mp hrow]
        refine ⟨nofun, fun hchanged => ?_⟩
        obtain ⟨other, hother, hid⟩ := h.changed _ hchanged
        exact absurd hid (hnew.id other hother)

/-- A revised principal was not being applied, and keeps its record. -/
theorem WorldInv.revise (h : WorldInv world) (id : String) (readVersion : Nat) (userId : String)
    (verifierKind : DirectVerifierKind) (verifier : String) :
    WorldInv (world.step (.control (.revise id readVersion userId verifierKind verifier))) := by
  refine h.tables (.revise id readVersion userId verifierKind verifier) ?_
  have hstep : directStep world.store (.revise id readVersion userId verifierKind verifier) =
      world.store.committed (world.store.revise id readVersion userId verifierKind verifier) := rfl
  rw [hstep]
  cases hrevise : world.store.revise id readVersion userId verifierKind verifier with
  | error abort => exact covered_same h
  | ok result =>
      show ∀ row ∈ result.1.principals, RowCovered { world with store := result.1 } row
      rcases revise_spec hrevise with
        hsame | ⟨row, row', hfind, -, hstate, hrowstep, hrequested, hlevel, hstore⟩
      · rw [hsame]
        exact covered_same h
      · rw [hstore]
        have hrecorded := (h.rows row (find_id hfind).1).recorded
          (by rcases hstate with h | h | h <;> rw [h] <;> exact nofun)
        refine covered_replace h world.store.serverFingerprint (covered_of_recorded ?_ ?_)
        · intro hchanged
          rw [hrowstep.same.id] at hchanged ⊢
          rw [hlevel]
          exact hrecorded hchanged
        · intro hdropped
          rw [hrequested] at hdropped
          exact absurd hdropped nofun

/-- A claim to apply is live, and one to drop is granted on a recorded principal. -/
theorem WorldInv.claim (h : WorldInv world) {id deviceId : String} {drop : Bool}
    (horderly : world.Orderly (.control (.claim id deviceId drop))) :
    WorldInv (world.step (.control (.claim id deviceId drop))) := by
  refine h.tables (.claim id deviceId drop) ?_
  have hstep : directStep world.store (.claim id deviceId drop) =
      world.store.committed (world.store.claim id deviceId
        (if drop then .dropPending else .applying)) := rfl
  rw [hstep]
  cases hclaim : world.store.claim id deviceId (if drop then .dropPending else .applying) with
  | error abort => exact covered_same h
  | ok result =>
      show ∀ row ∈ result.1.principals, RowCovered { world with store := result.1, claims := _ } row
      rcases claim_spec (claim_direction drop) hclaim with
        ⟨hsame, -⟩ | ⟨row, hfind, hid, hrowstep, hmatched, hstore⟩
      · rw [hsame]
        exact covered_same h
      · rw [hstore]
        have hgrants : world.grants id deviceId drop = true := by
          unfold DirectWorld.grants
          rw [hclaim]
          exact hmatched
        have hrow := (find_id hfind).1
        have hcovered := h.rows row hrow
        refine covered_replace h world.store.serverFingerprint ⟨?_, ?_⟩
        · cases drop with
          | true => exact nofun
          | false => exact nofun
        · intro hchanged
          cases hdrop : drop with
          | false =>
              refine .inr ⟨rfl, ?_⟩
              show decide (world.store.now < world.store.now + 1000 * DIRECT_CLAIM_LEASE_SECONDS) =
                true
              unfold DIRECT_CLAIM_LEASE_SECONDS
              rw [decide_eq_true_iff]
              omega
          | true =>
              refine .inl ?_
              by_cases happlying : row.state = .applying
              · exact horderly row hrow hid hdrop happlying hgrants hchanged
              · exact hcovered.recorded happlying hchanged

/-- An accepted receipt records the level of the role. -/
theorem WorldInv.settle (h : WorldInv world) {receipt : DirectReceipt}
    (horderly : world.Orderly (.control (.settle receipt))) :
    WorldInv (world.step (.control (.settle receipt))) := by
  unfold DirectWorld.step
  simp only
  split
  case isFalse => exact h
  case isTrue =>
      refine h.tables (.settle receipt) ?_
      have hstep : directStep world.store (.settle receipt) =
          world.store.committed (world.store.settleDirectReceipt receipt) := rfl
      rw [hstep]
      cases hsettle : world.store.settleDirectReceipt receipt with
      | error abort => exact covered_same h
      | ok result =>
          show ∀ row ∈ result.1.principals, RowCovered { world with store := result.1 } row
          rcases settle_spec hsettle with hsame | ⟨row, row', fingerprint, hfind, hid, hshape,
            hsource, hdevice, hrowstep, htarget, hlevel, hstore⟩
          · rw [hsame]
            exact covered_same h
          · rw [hstore]
            refine covered_replace h fingerprint (covered_of_recorded ?_ ?_)
            · intro hchanged
              rw [hrowstep.same.id, hlevel]
              exact horderly row (find_id hfind).1 hid hsource hdevice
            · intro hdropped
              rw [htarget] at hdropped
              rw [hlevel]
              by_contra hnone
              unfold DirectReceipt.validShape at hshape
              simp [hdropped, hnone] at hshape

/-- Time that ends a claim to apply leaves a recorded principal. -/
theorem WorldInv.tick (h : WorldInv world) {milliseconds : Nat}
    (horderly : world.Orderly (.control (.tick milliseconds))) :
    WorldInv (world.step (.control (.tick milliseconds))) := by
  refine h.tables (.tick milliseconds) ?_
  intro row hrow
  have hrow : row ∈ world.store.principals := hrow
  refine ⟨(h.rows row hrow).dropped, fun hchanged => ?_⟩
  by_cases happlying : row.state = .applying
  · cases hlive : row.claimLive (world.store.now + milliseconds) with
    | true => exact .inr ⟨happlying, hlive⟩
    | false => exact .inl (horderly row hrow happlying hlive hchanged)
  · exact .inl ((h.rows row hrow).recorded happlying hchanged)

/-- A device that carries out work leaves the role covered. -/
theorem WorldInv.carry (h : WorldInv world) {order : DirectOrder} {level : DirectLevel}
    (horderly : world.Orderly (.carry order level)) : WorldInv (world.step (.carry order level)) := by
  unfold DirectWorld.step
  simp only
  split
  case isFalse => exact h
  case isTrue hallowed =>
      refine ⟨h.store, h.orders, ?_, ?_⟩
      · intro id hid
        rcases List.mem_append.mp hid with hid | hid
        · exact h.changed id hid
        · rw [List.mem_singleton.mp hid]
          exact h.orders order hallowed.1
      · intro row hrow
        refine ⟨(h.rows row hrow).dropped, fun hchanged => ?_⟩
        show directLevelRank (Function.update world.role order.principalId level row.id) ≤ _ ∨ _
        by_cases hid : row.id = order.principalId
        · rw [hid, Function.update_self]
          exact horderly row hrow hid
        · rw [Function.update_of_ne hid]
          have hchanged : row.id ∈ world.changed := by
            rcases List.mem_append.mp hchanged with hold | hnew
            · exact hold
            · exact absurd (List.mem_singleton.mp hnew) hid
          exact (h.rows row hrow).covered hchanged

/-- Work is received for a principal of the tables. -/
theorem WorldInv.receive (h : WorldInv world) (deviceId principalId : String) :
    WorldInv (world.step (.receive deviceId principalId)) := by
  unfold DirectWorld.step
  simp only
  split
  case h_1 => exact h
  case h_2 item hfind =>
      split
      case isFalse => exact h
      case isTrue =>
          refine ⟨h.store, ?_, h.changed, fun row hrow =>
            ⟨(h.rows row hrow).dropped, (h.rows row hrow).covered⟩⟩
          intro order horder
          rcases List.mem_append.mp horder with hold | hnew
          · exact h.orders order hold
          · rw [List.mem_singleton.mp hnew]
            have hitem := List.mem_of_find?_eq_some hfind
            have hid := List.find?_some hfind
            obtain ⟨row, hrow, rfl⟩ := List.mem_map.mp hitem
            exact ⟨row, listed_mem hrow, of_decide_eq_true hid⟩

/-- Every orderly step keeps the invariant. -/
theorem WorldInv.step (h : WorldInv world) {event : WorldEvent} (horderly : world.Orderly event) :
    WorldInv (world.step event) := by
  cases event with
  | receive deviceId principalId => exact h.receive deviceId principalId
  | carry order level => exact h.carry horderly
  | control event =>
      cases event with
      | insert principal => exact h.insert principal
      | revise id readVersion userId verifierKind verifier =>
          exact h.revise id readVersion userId verifierKind verifier
      | claim id deviceId drop => exact h.claim horderly
      | settle receipt => exact h.settle horderly
      | tick milliseconds => exact h.tick horderly
      | change facts =>
          exact h.tables (.change facts) fun row hrow =>
            ⟨(h.rows row hrow).dropped, (h.rows row hrow).covered⟩

end World

/-! ## Runs -/

/-- A connection before any principal was requested, with roles of any levels. -/
structure DirectSetup where
  engine : DirectEngine
  facts : DirectFacts
  serverFingerprint : Option String := none
  now : Nat := 0
  role : String → DirectLevel := fun _ => .none

/-- The connection of a setup. -/
def DirectSetup.world (setup : DirectSetup) : DirectWorld where
  store := DirectStore.new setup.engine setup.facts setup.serverFingerprint setup.now
  role := setup.role

namespace DirectWorkspace

/-- The workspace of a list of setups. -/
def start (setups : List (String × DirectSetup)) : DirectWorkspace :=
  setups.map fun setup => (setup.1, setup.2.world)

/-- The invariant of all connections. -/
def Inv (workspace : DirectWorkspace) : Prop := ∀ entry ∈ workspace, WorldInv entry.2

/-- The invariant holds at the start. -/
theorem start_inv (setups : List (String × DirectSetup)) : Inv (start setups) := by
  intro entry hentry
  obtain ⟨setup, -, rfl⟩ := List.mem_map.mp hentry
  have hrows : ∀ row, row ∉ setup.2.world.store.principals := fun _ => List.not_mem_nil
  exact ⟨⟨fun row hrow => absurd hrow (hrows row), List.nodup_nil,
    fun row hrow => absurd hrow (hrows row)⟩, fun _ h => absurd h List.not_mem_nil,
    fun _ h => absurd h List.not_mem_nil, fun row hrow => absurd hrow (hrows row)⟩

/-- An orderly event keeps the invariant. -/
theorem step_inv {workspace : DirectWorkspace} {event : WorkspaceEvent} (h : Inv workspace)
    (horderly : Orderly workspace event) : Inv (step workspace event) := by
  intro entry hentry
  obtain ⟨before, hbefore, rfl⟩ := List.mem_map.mp hentry
  show WorldInv (((eventAt before.1 event).map before.2.step).getD before.2)
  cases hown : eventAt before.1 event with
  | none => exact h before hbefore
  | some own => exact (h before hbefore).step (horderly before hbefore own hown)

/-- The guard is sound under the invariant. -/
theorem sound_of_inv {workspace : DirectWorkspace} (h : Inv workspace) :
    LoweringSound workspace := by
  intro targets hguard target htarget entry hentry hconnection row hrow hmember
  by_cases hchanged : row.id ∈ entry.2.changed
  case neg => exact .inr hchanged
  case pos =>
      refine .inl ?_
      have hcovered := (h entry hentry).rows row hrow
      by_cases hdropped : row.state = .dropped
      · -- A dropped principal holds nothing.
        have hrecorded := hcovered.recorded (by rw [hdropped]; exact nofun) hchanged
        rw [hcovered.dropped hdropped] at hrecorded
        exact Nat.le_trans hrecorded (Nat.zero_le _)
      · have hblocks : row.blocks entry.2.store.now target = false := by
          rw [← Bool.not_eq_true]
          intro hblocks
          unfold noDirectLoweringBlockers directLoweringBlockers at hguard
          rw [List.isEmpty_iff, List.flatMap_eq_nil_iff] at hguard
          have hentries := List.flatMap_eq_nil_iff.mp (hguard target htarget) entry hentry
          rw [if_pos hconnection, List.map_eq_nil_iff, List.filter_eq_nil_iff] at hentries
          exact hentries row hrow hblocks
        unfold DirectPrincipal.blocks at hblocks
        rw [decide_eq_false_iff_not] at hblocks
        have hfree := fun hheld => hblocks ⟨hmember, hdropped, hheld⟩
        rcases hcovered.covered hchanged with hrecorded | hlive
        · have hlevel : ¬directLevelRank target.level < directLevelRank row.appliedLevel :=
            fun hlt => hfree (.inl hlt)
          omega
        · exact absurd (.inr hlive) hfree

/-- In every run of orderly steps the guard is sound in every state. -/
theorem lowering_guard_sound (setups : List (String × DirectSetup)) (events : List WorkspaceEvent)
    (horderly : EachCall step Orderly (start setups) events) :
    LoweringSound (run step (start setups) events) :=
  sound_of_inv (run_invariant_of (start_inv setups) (fun _ _ h hevent => step_inv h hevent) horderly)

/-- An editor with a grant. -/
def editorSetup : DirectSetup where
  engine := .postgres
  facts := {
    members :=
      [{ memberId := "member", userId := "user", role := "editor", revocationPending := false }]
    grants := [{ memberId := "member", capability := "use" }]
    pending := []
    connectionDeleted := false
    writeCeiling := true
    scopeRevision := 1 }

/-- The principal of the editor. -/
def editorPrincipal : DirectPrincipal where
  id := "principal"
  memberId := "member"
  userId := "user"
  principalName := "dopedb_0"
  marker := "marker"
  verifierKind := .scramSha256
  verifier := "verifier"
  createdAt := 0

/-- A device claims the principal of the editor and receives the work. -/
def claimedWork : List WorkspaceEvent :=
  [.at "connection" (.control (.insert editorPrincipal)),
    .at "connection" (.control (.claim "principal" "device" false)),
    .at "connection" (.receive "device" "principal")]

/-- What the device applies. -/
def editorOrder : DirectOrder where
  deviceId := "device"
  principalId := "principal"
  desiredLevel := .write

/-- The receipt for it. -/
def editorReceipt : DirectReceipt where
  principalId := "principal"
  deviceId := "device"
  source := .applying
  target := .ready
  appliedLevel := .write
  appliedVerifierVersion := 1
  scopeRevisionApplied := some 1
  serverRoleOid := some "16384"
  serverFingerprint := some "fingerprint"
  failureCode := none

/-- The guard is sound after a device applied and reported in time, and the claim's time passed. -/
theorem lowering_guard_sound_in_time :
    LoweringSound (run step (start [("connection", editorSetup)]) (claimedWork ++
      [.at "connection" (.carry editorOrder .write),
        .at "connection" (.control (.settle editorReceipt)), .tick 120000])) :=
  lowering_guard_sound _ _ (by decide +kernel)

/-- A device that applies after its lease leaves a role that the guard does not see. -/
theorem lowering_guard_unsound :
    ¬∀ (setups : List (String × DirectSetup)) (events : List WorkspaceEvent),
      LoweringSound (run step (start setups) events) := by
  intro h
  have hsound := h [("connection", editorSetup)] (claimedWork ++
    [.tick 120000, .at "connection" (.carry editorOrder .write)])
    [{ connectionId := "connection", memberId := "member", level := .none }] (by decide +kernel)
    { connectionId := "connection", memberId := "member", level := .none } (by decide)
  exact absurd hsound (by decide +kernel)

end DirectWorkspace

end Dopedb.Cloud
