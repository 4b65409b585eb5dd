import Dopedb.Cloud.HistoryProtocol
import Dopedb.Cloud.OperationProtocol

/-!
# One linear history for every connection

What the versions of the connections promise (`LinearHistory`), and what a batch without a match
leaves alone. `connection_history_linear` is about the runs whose switches keep the driver, and
`switch_forgets_driver` is a run with a switch that does not.
-/

namespace Dopedb.Cloud

open Library ProviderStore HistoryStore

/-- The versions of every connection are one chain that ends at its row, and every conflict has at
most one resolution. -/
structure LinearHistory (collation : Collation) (tables : ConnectionTables) : Prop where
  revisions : ∀ row ∈ tables.connections, ∃ first, 1 ≤ first ∧ first ≤ row.contentRevision ∧
    ∀ revision, (∃ version ∈ tables.versions, version.IsMain row.id revision) ↔
      first ≤ revision ∧ revision ≤ row.contentRevision
  single : ∀ id revision, ∀ version ∈ tables.versions, ∀ other ∈ tables.versions,
    version.IsMain id revision → other.IsMain id revision → version = other
  parent : ∀ version ∈ tables.versions, version.branch = .main → ∀ id,
    version.parentVersionId = some id ↔ ∃ parent ∈ tables.versions, ∃ revision,
      parent.IsMain version.resourceId revision ∧ revision + 1 = version.revision ∧ parent.id = id
  hash : ∀ version ∈ tables.versions,
    version.payloadHash = canonicalHash collation version.payload.toJson
  projection : ∀ row ∈ tables.connections, ∀ version ∈ tables.versions,
    version.IsMain row.id row.contentRevision →
    version.payload = persistedConnectionVersionPayload row row.deletedAt.isSome
  resolved : ∀ resolution ∈ tables.resolutions, ∀ other ∈ tables.resolutions,
    resolution.conflictId = other.conflictId → resolution = other

/-- Tables that fit together hold linear histories. -/
theorem HistoryTables.linear {collation : Collation} {store : HistoryStore}
    (h : HistoryTables collation store.view) : LinearHistory collation store.tables where
  revisions := h.span
  single := by
    intro id revision version hversion other hother hmain hsame
    refine h.unique version hversion other hother hsame.2.1 ?_
    rw [hsame.1, hsame.2.2]
    exact hmain
  parent := h.parent
  hash := h.hash
  projection := h.projection
  resolved := fun resolution hresolution other hother hconflict =>
    List.inj_on_of_nodup_map h.resolved hresolution hother hconflict

/-- The store of a workspace without rows. -/
def emptyHistory : HistoryStore where
  directory := {
    sessions := []
    members := [] }

/-- Every run whose switches keep the driver keeps the tables together. -/
theorem history_tables_run (context : ProviderContext) {events : List HistoryEvent}
    (hmeets : EachCall (historyStep context) (SwitchMeets KeepsDriver) emptyHistory events) :
    HistoryTables context.collation (run (historyStep context) emptyHistory events).view := by
  have hstart : HistoryTables context.collation emptyHistory.view := by
    refine {
      ids := List.nodup_nil
      owned := ?_
      span := ?_
      unique := ?_
      parent := ?_
      hash := ?_
      resolved := List.nodup_nil
      projection := ?_
      reads := ?_ }
    all_goals
      intro entry hentry
      exact absurd hentry List.not_mem_nil
  refine run_invariant_of (P := fun store => HistoryTables context.collation store.view) hstart ?_
    hmeets
  intro store event htables hevent
  exact (history_step_changes context store event hevent).invariant
    (fun _ _ hview hchange => hview.changed hchange) htables

/-! ## Batches without a match -/

/-- A batch that finds nothing leaves every table as it was. -/
structure UnmatchedUnchanged (context : ProviderContext) (store : HistoryStore) : Prop where
  create : ∀ input after,
    store.commitConnectionCreate context.collation input = .ok (after, none) → after = store
  mutation : ∀ input after,
    store.commitConnectionMutation context.collation input = .ok (after, none) → after = store
  restore : ∀ input after,
    store.restoreWorkspaceSnapshot context.collation input = .ok (after, none) → after = store
  switch : ∀ input after,
    store.completeNeonBranchSwitch context input = .ok (after, none) → after = store.toProviderStore
  candidate : ∀ input after,
    store.conflictConnectionCandidate context.collation input = .ok (after, none) → after = store
  resolve : ∀ input after,
    store.resolveConnectionConflict input = .ok (after, none) → after = store

/-- A batch of gated statements that consumed nothing left the store. -/
theorem unmatched_after {ε σ π : Type} {scope : σ → Option π} {statements : List (Statement ε σ π)}
    (hgated : ∀ statement ∈ statements, Gated statement) {store after : σ}
    (h : runBatch scope statements store = .ok (after, none)) : after = store := by
  cases hscope : scope store with
  | none =>
      rw [unmatched_batch hgated hscope] at h
      simpa using h.symm
  | some payload =>
      unfold runBatch at h
      rw [hscope] at h
      cases hrun : runStatements statements (some payload) store with
      | error abort =>
          rw [hrun] at h
          cases h
      | ok finished =>
          rw [hrun] at h
          simp at h

/-- Every batch that finds nothing leaves every table. -/
theorem unmatched_unchanged (context : ProviderContext) (store : HistoryStore) :
    UnmatchedUnchanged context store where
  create _ _ h := unmatched_after (by simp [Gated, createRows]) h
  mutation _ _ h := unmatched_after (by simp [Gated, mutateRows]) h
  restore _ _ h := unmatched_after (by simp [Gated, restoreRows]) h
  switch input after h := by
    unfold completeNeonBranchSwitch at h
    split at h
    · cases h
    · exact unmatched_after (by simp [Gated, switchTables, switchRow]) h
  candidate _ _ h := unmatched_after (by simp [Gated, conflictRows]) h
  resolve _ _ h := unmatched_after (by simp [Gated, resolveRows]) h

/-- In every run whose switches move connections without a driver, every connection has one linear
history, and a batch without a match changes nothing. -/
theorem connection_history_linear (context : ProviderContext) (events : List HistoryEvent)
    (hmeets : EachCall (historyStep context) (SwitchMeets KeepsDriver) emptyHistory events) :
    LinearHistory context.collation (run (historyStep context) emptyHistory events).tables ∧
      UnmatchedUnchanged context (run (historyStep context) emptyHistory events) :=
  ⟨(history_tables_run context hmeets).linear, unmatched_unchanged context _⟩

/-! ## A switch of a connection with a driver -/

/-- A database of the fixture. -/
def historyFixtureResource (branch : String) : Json := .obj [
  ("branch", .str branch),
  ("database", .str "fixture"),
  ("databaseId", .str "1004"),
  ("engine", .str "postgres"),
  ("project", .str "fixture-project"),
  ("schemas", .arr [.str "public"])]

/-- A plan to switch the connection of the fixture to another branch. -/
def historyFixturePlan : Json := .obj [
  ("approvalPolicy", .str "single_admin"),
  ("expiresAt", .str "1970-01-01T00:10:00.000Z"),
  ("impact", .obj [
    ("activeLeaseCount", .int 0),
    ("closesExistingSessions", .bool true),
    ("createsConnectionRevision", .bool true),
    ("reintrospectionRequired", .bool true)]),
  ("integrationGeneration", .str "1"),
  ("integrationId", .str "11111111-1111-4111-8111-111111111111"),
  ("issuedAt", .str "1970-01-01T00:00:00.000Z"),
  ("kind", .str "neon.branch.switch"),
  ("operationId", .str "22222222-2222-4222-8222-222222222222"),
  ("risk", .str "standard"),
  ("source", .obj [
    ("activeLeaseCount", .int 0),
    ("allowWrites", .bool false),
    ("authorityRevision", .int 2),
    ("branchId", .str "fixture-source"),
    ("connectionId", .str "connection"),
    ("connectionName", .str "Fixture"),
    ("contentRevision", .int 2),
    ("database", .str "fixture"),
    ("databaseId", .str "1004"),
    ("environment", .str "development"),
    ("projectId", .str "fixture-project"),
    ("providerResourceId", .str "resource"),
    ("readonlyDefault", .bool true),
    ("schemaGroup", .null),
    ("schemas", .arr [.str "public"])]),
  ("target", .obj [
    ("branchId", .str "fixture-destination"),
    ("database", .str "fixture"),
    ("databaseFingerprint",
      .str "aaaaaaaaaaaaaaaaaaaaaaaaaaaaaaaaaaaaaaaaaaaaaaaaaaaaaaaaaaaaaaaa"),
    ("databaseId", .str "1004"),
    ("endpointId", .str "fixture-destination-endpoint"),
    ("environment", .str "development"),
    ("managedAccessOperationId", .null),
    ("name", .str "Destination"),
    ("projectId", .str "fixture-project"),
    ("resourceFingerprint",
      .str "9c2192ad95eda391381052e5fba77fc60f42c120aa74dfbc621249abeceffb6f")]),
  ("version", .int 1),
  ("warningCodes", .arr [])]

/-- The plan's operation. -/
def historyFixtureStep : ExecutionStep where
  authority := operationFixtureStep.authority
  integrationId := "11111111-1111-4111-8111-111111111111"
  integrationGeneration := 1
  operationId := "22222222-2222-4222-8222-222222222222"
  kind := .switch
  planHash := "1e812cc715805ea825e1dee1f6247bfd13ba5950f345ad6b5e3907959d847c30"
  ownershipMarker := operationFixtureStep.ownershipMarker
  claimId := "33333333-3333-4333-8333-333333333333"
  now := 0

/-- The recording of the plan. -/
def historyFixtureRecording : PlanRecording where
  toProviderOperationExecutionIdentity :=
    historyFixtureStep.toProviderOperationExecutionIdentity
  idempotencyKey := "44444444-4444-4444-8444-444444444444"
  requestHash := "1e812cc715805ea825e1dee1f6247bfd13ba5950f345ad6b5e3907959d847c30"
  plan := historyFixturePlan
  now := 0

/-- The completion of the plan. -/
def historyFixtureCompletion : SwitchCompletion where
  toExecutionStep := historyFixtureStep
  connectionClaimId := "66666666-6666-4666-8666-666666666666"
  plan := historyFixturePlan
  targetProjection := {
    fingerprint := "9c2192ad95eda391381052e5fba77fc60f42c120aa74dfbc621249abeceffb6f"
    resource := historyFixtureResource "fixture-destination"
    metadata := .obj [("production", .bool false)]
    capabilities := .obj [
      ("discover", .bool true),
      ("importReadOnly", .bool true),
      ("managedLease", .bool true),
      ("write", .bool true)]
    host := "neon.managed.invalid"
    port := 5432
    database := "fixture"
    engine := .postgres
    sslmode := "verify-full" }
  targetResourceId := "destination"
  versionId := "version-3"

/-- The imported row, as a request reads it. -/
def historyFixtureRow : WorkspaceConnection where
  id := "connection"
  name := "Fixture"
  engine := .postgres
  provider := .neon
  driverId := none
  host := "neon.managed.invalid"
  port := 5432
  databaseName := "fixture"
  sslmode := "verify-full"
  readonlyDefault := true
  allowWrites := false
  credentialMode := .managed
  providerIntegrationId := some "11111111-1111-4111-8111-111111111111"
  providerResource := some (historyFixtureResource "fixture-source")
  providerResourceId := some "resource"
  environment := some "dev"
  schemaGroup := none
  mongoOptions := none

/-- The columns of the connection while its gate is claimed. -/
def historyFixtureGate (revision : Nat) (claimId : String) : ConnectionAccess where
  credentialMode := .managed
  providerIntegrationId := historyFixtureRow.providerIntegrationId
  providerResource := historyFixtureRow.providerResource
  providerResourceId := historyFixtureRow.providerResourceId
  revision
  revocationPendingAt := some 0
  revocationClaimedAt := some 0
  revocationClaimId := some claimId

/-- A connection is imported, and a request sets its driver. -/
def historyFixtureEdited (driverId : Json) : List HistoryEvent := [
  .around {
    directory := operationFixtureDirectory
    integrations := operationFixtureTables.integrations
    resources := [{
      id := "resource"
      provider := "neon"
      resourceFingerprint := "fixture"
      resource := historyFixtureResource "fixture-source"
      redactedMetadata := .obj []
      capabilityManifest := .obj [] }]
    grants := [⟨"connection", "member", "manage"⟩] },
  .importResource {
    connectionId := "connection"
    versionId := "version-1"
    authority := historyFixtureStep.authority
    integrationId := "11111111-1111-4111-8111-111111111111"
    resourceId := "resource"
    name := "Fixture"
    environment := some "development" },
  .read "connection",
  .access "connection" (historyFixtureGate 2 "55555555-5555-4555-8555-555555555555"),
  .patch {
    existing := historyFixtureRow
    expectedRevision := 1
    expectedAuthorityRevision := 2
    claimId := "55555555-5555-4555-8555-555555555555"
    versionId := "version-2"
    conflictId := "conflict"
    authority := historyFixtureStep.authority } [
      ("name", .str "Fixture"),
      ("engine", .str "postgres"),
      ("provider", .str "neon"),
      ("driverId", driverId),
      ("host", .str "neon.managed.invalid"),
      ("port", .int 5432),
      ("database", .str "fixture"),
      ("sslmode", .str "verify-full"),
      ("env", .str "development")]]

/-- The plan is approved, claimed and started, and the gate of its connection is claimed. -/
def historyFixtureStarted : List HistoryEvent := [
  .operation (.decide {
    toProviderOperationExecutionIdentity :=
      historyFixtureStep.toProviderOperationExecutionIdentity
    decision := .approved
    approvalId := "approval"
    now := 0 }),
  .operation (.claim historyFixtureStep),
  .operation (.mark historyFixtureStep),
  .access "connection" (historyFixtureGate 3 "66666666-6666-4666-8666-666666666666")]

/-- The whole run: the connection is edited, and then switched. -/
def historyFixtureEvents (driverId : Json) : List HistoryEvent :=
  historyFixtureEdited driverId ++ .operation (.record historyFixtureRecording) ::
    (historyFixtureStarted ++ [.operation (.completeSwitch historyFixtureCompletion)])

/-- A store in which a plan is recorded by its batch. -/
def recordedHistory (input : PlanRecording) (store : HistoryStore) : HistoryStore :=
  { store with
    toProviderStore := committed store.toProviderStore
      (runBatch (recordScope input) [insertPlan input] store.toProviderStore) }

/-- A store in which a switch is completed by its batch. -/
def switchedHistory (context : ProviderContext) (input : SwitchCompletion) (store : HistoryStore) :
    HistoryStore :=
  { store with
    toProviderStore := committed store.toProviderStore
      (runBatch (switchScope input) [switchTables context input, switchRow input]
        store.toProviderStore) }

/-- A plan that passes its checks is recorded by its batch. -/
theorem record_checked {context : ProviderContext} {input : PlanRecording}
    (h : assertPlanRecording context input = .ok ()) (store : HistoryStore) :
    historyStep context store (.operation (.record input)) = recordedHistory input store := by
  simp only [historyStep, operationStep, providerStep, recordProviderOperationPlan, h,
    recordedHistory]
  cases hrun : runBatch (recordScope input) [insertPlan input] store.toProviderStore with
  | error abort => rfl
  | ok result => rfl

/-- A switch that passes its checks is completed by its batch. -/
theorem complete_checked {context : ProviderContext} {input : SwitchCompletion}
    (h : assertSwitchCompletion context input = .ok ()) (store : HistoryStore) :
    historyStep context store (.operation (.completeSwitch input)) =
      switchedHistory context input store := by
  simp only [historyStep, operationStep, providerStep, completeNeonBranchSwitch, h, switchedHistory]

/-- A row whose version has another driver does not project to it. -/
def driversAgree (tables : ConnectionTables) : Bool :=
  tables.connections.all fun row => tables.versions.all fun version =>
    !(version.resourceId = row.id && version.branch = .main &&
      version.revision = row.contentRevision) || version.payload.driverId = row.driverId

/-- The checks of the fixture, evaluated together: its plan may be recorded, its completion may be
tried, the run with a driver ends with rows and versions that disagree, and the run without one
edits connections without a driver. -/
theorem history_fixture_checks :
    assertPlanRecording operationFixtureContext historyFixtureRecording = .ok () ∧
      assertSwitchCompletion operationFixtureContext historyFixtureCompletion = .ok () ∧
      driversAgree (switchedHistory operationFixtureContext historyFixtureCompletion
        (run (historyStep operationFixtureContext)
          (recordedHistory historyFixtureRecording
            (run (historyStep operationFixtureContext) emptyHistory
              (historyFixtureEdited (.str "fixture-driver")))) historyFixtureStarted)).tables =
        false ∧
      (run (historyStep operationFixtureContext) emptyHistory
        (historyFixtureEdited .null)).tables.connections.all
          (fun row => row.driverId = none && row.engine = .postgres) = true := by
  have hplan : assertPlan operationFixtureContext
      historyFixtureStep.toProviderOperationExecutionIdentity historyFixturePlan = .ok () := by
    have hcanonical : canonicalize operationFixtureContext.collation historyFixturePlan =
        historyFixturePlan := by
      refine canonicalize_of_canonical ?_
      decide +kernel
    have hhash : canonicalHash operationFixtureContext.collation historyFixturePlan =
        historyFixtureStep.planHash := by
      unfold canonicalHash canonicalJsonText
      rw [hcanonical]
      decide +kernel
    have hsafe : redactedViolation 0 historyFixturePlan = none := by decide +kernel
    have hbytes : (textBytes historyFixturePlan.render).length ≤ MAX_REDACTED_PLAN_BYTES := by
      rw [length_text_bytes]
      decide +kernel
    unfold assertPlan canonicalJsonText
    rw [hsafe, hhash, hcanonical]
    simp only [hbytes]
    decide +kernel
  refine ⟨?_, ?_, ?_, ?_⟩
  · have hpolicy : (isSha256Hex historyFixtureRecording.requestHash &&
        validPlanPolicy historyFixtureRecording.plan &&
        planKind historyFixtureRecording.plan = some historyFixtureRecording.kind &&
        textAt historyFixtureRecording.plan ["expiresAt"] =
          some (toISOString (historyFixtureRecording.now + 600000))) = true := by
      decide +kernel
    unfold assertPlanRecording
    rw [show assertPlan operationFixtureContext
      historyFixtureRecording.toProviderOperationExecutionIdentity historyFixtureRecording.plan =
        .ok () from hplan]
    exact if_pos hpolicy
  · have hidentity : assertExecutionIdentity operationFixtureContext
        historyFixtureCompletion.toProviderOperationExecutionIdentity = .ok () := by
      decide +kernel
    have hprojection : historyFixtureCompletion.connectionSwitch.validProjection
        operationFixtureContext.collation = true := by
      have hfingerprint : providerResourceFingerprint operationFixtureContext.collation "neon"
          historyFixtureCompletion.connectionSwitch.targetProjection.resource =
            historyFixtureCompletion.targetProjection.fingerprint := by
        have hcanonical : canonicalize operationFixtureContext.collation
            (historyFixtureResource "fixture-destination") =
              historyFixtureResource "fixture-destination" := by
          refine canonicalize_of_canonical ?_
          decide +kernel
        show providerResourceFingerprint operationFixtureContext.collation "neon"
          (historyFixtureResource "fixture-destination") = _
        unfold providerResourceFingerprint canonicalJsonText
        rw [hcanonical]
        decide +kernel
      unfold ConnectionSwitch.validProjection
      simp only [hfingerprint]
      decide +kernel
    unfold assertSwitchCompletion
    simp only [hidentity, hprojection, show assertPlan operationFixtureContext
      historyFixtureCompletion.toProviderOperationExecutionIdentity historyFixtureCompletion.plan =
        .ok () from hplan]
    decide +kernel
  · decide +kernel
  · decide +kernel

/-- The store after the run of the fixture. -/
theorem history_fixture_run (driverId : Json) :
    run (historyStep operationFixtureContext) emptyHistory (historyFixtureEvents driverId) =
      switchedHistory operationFixtureContext historyFixtureCompletion
        (run (historyStep operationFixtureContext)
          (recordedHistory historyFixtureRecording
            (run (historyStep operationFixtureContext) emptyHistory
              (historyFixtureEdited driverId))) historyFixtureStarted) := by
  unfold historyFixtureEvents
  rw [run_append, run_cons, record_checked history_fixture_checks.1, run_append, run_cons,
    run_nil, complete_checked history_fixture_checks.2.1]

/-- In a linear history the drivers of rows and versions agree. -/
theorem LinearHistory.drivers {collation : Collation} {tables : ConnectionTables}
    (h : LinearHistory collation tables) : driversAgree tables = true := by
  unfold driversAgree
  simp only [List.all_eq_true, Bool.or_eq_true, Bool.not_eq_true', Bool.and_eq_false_imp,
    Bool.and_eq_true, decide_eq_true_eq, decide_eq_false_iff_not, and_imp]
  intro row hrow version hversion
  by_cases hmain : version.IsMain row.id row.contentRevision
  · right
    rw [h.projection row hrow version hversion hmain]
    rfl
  · left
    intro hid hbranch hrevision
    exact hmain ⟨hid, hbranch, hrevision⟩

/-- A switch of a connection with a driver records a version without it. -/
theorem switch_forgets_driver : ¬ ∀ (context : ProviderContext) (events : List HistoryEvent),
    LinearHistory context.collation (run (historyStep context) emptyHistory events).tables := by
  intro hlinear
  have hdrivers := (hlinear operationFixtureContext
    (historyFixtureEvents (.str "fixture-driver"))).drivers
  rw [history_fixture_run, history_fixture_checks.2.2.1] at hdrivers
  cases hdrivers

/-- A step of an operation other than a switch leaves the tables of connections alone. -/
theorem operation_step_tables {context : ProviderContext} {store : HistoryStore}
    {event : ProviderEvent} (hswitch : ∀ input, event ≠ .completeSwitch input) :
    (historyStep context store (.operation event)).tables = store.tables := by
  cases event with
  | change directory tables => rfl
  | completeSwitch input => exact absurd rfl (hswitch input)
  | record | decide | claim | mark | cancelExpired | reconcile | completeBootstrap | tick =>
      exact provider_step_tables context store.toProviderStore _ hswitch (by simp)

/-- Events without a switch meet every condition on switches. -/
theorem switch_free_meets {context : ProviderContext}
    {Meets : WorkspaceConnection → ConnectionSwitch → Prop} {events : List HistoryEvent}
    (h : ∀ event ∈ events, ∀ input, event ≠ .operation (.completeSwitch input))
    (store : HistoryStore) : EachCall (historyStep context) (SwitchMeets Meets) store events := by
  induction events generalizing store with
  | nil => trivial
  | cons event rest ih =>
      refine ⟨?_, ih (fun other hother => h other (List.mem_cons_of_mem _ hother)) _⟩
      unfold SwitchMeets
      split
      · next input => exact absurd rfl (h _ List.mem_cons_self input)
      · trivial

/-- Who may use a connection is neither its driver nor its engine. -/
theorem access_keeps_driver {context : ProviderContext} {store : HistoryStore} {id : String}
    {columns : ConnectionAccess} {row : WorkspaceConnection}
    (h : row ∈ (historyStep context store (.access id columns)).tables.connections) :
    ∃ old ∈ store.tables.connections, row.driverId = old.driverId ∧ row.engine = old.engine := by
  unfold historyStep at h
  simp only at h
  split at h
  · exact ⟨row, h, rfl, rfl⟩
  · next tables hreplace =>
      obtain rfl := replace_connection_spec hreplace
      obtain ⟨old, hold, rfl⟩ := List.mem_map.mp h
      refine ⟨old, hold, ?_⟩
      split
      · exact ⟨rfl, rfl⟩
      · exact ⟨rfl, rfl⟩

/-- The switch of a connection without a driver is in one linear history. -/
theorem history_fixture_linear :
    LinearHistory operationFixtureContext.collation (run (historyStep operationFixtureContext)
        emptyHistory (historyFixtureEvents .null)).tables ∧
      UnmatchedUnchanged operationFixtureContext
        (run (historyStep operationFixtureContext) emptyHistory (historyFixtureEvents .null)) := by
  refine connection_history_linear operationFixtureContext (historyFixtureEvents .null) ?_
  unfold historyFixtureEvents
  refine each_call_append (switch_free_meets (by simp [historyFixtureEdited]) _) ⟨trivial, ?_⟩
  refine each_call_append (switch_free_meets (by simp [historyFixtureStarted]) _) ⟨?_, trivial⟩
  intro found row _ hrow
  -- only the claim of the gate changes the connection after it was edited
  have hedited : (((run (historyStep operationFixtureContext) emptyHistory
      (historyFixtureEdited .null)).tables.connections).all
        fun row => row.driverId = none && row.engine = .postgres) = true :=
    history_fixture_checks.2.2.2
  generalize run (historyStep operationFixtureContext) emptyHistory (historyFixtureEdited .null) =
    edited at hrow hedited
  obtain ⟨hmem, -⟩ := found_connection hrow
  unfold historyFixtureStarted at hmem
  simp only [run_cons, run_nil] at hmem
  obtain ⟨old, hold, hdriver, hengine⟩ := access_keeps_driver hmem
  rw [operation_step_tables (by simp), operation_step_tables (by simp),
    operation_step_tables (by simp), operation_step_tables (by simp)] at hold
  have hkept := List.all_eq_true.mp hedited old hold
  simp only [Bool.and_eq_true, decide_eq_true_eq] at hkept
  exact ⟨hdriver.trans hkept.1, hengine.trans hkept.2⟩

end Dopedb.Cloud
