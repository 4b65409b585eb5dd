import Dopedb.Cloud.OperationChanges

/-!
# The protocol of provider operations

What holds in every reachable store (`OperationTables`) and what no later step takes back
(`OperationsLater`), each proved once for every small change. The main result is
`provider_operation_protocol`, about the runs whose steps keep what is recorded of the remote
resource.
-/

namespace Dopedb.Cloud

open Library ProviderStore

/-- The operations have ids and keys of their own, and each is admitted and lawful. -/
structure OperationTables (store : ProviderStore) : Prop where
  ids : (store.operations.map (·.id)).Nodup
  keys : (store.operations.map (·.idempotencyKey)).Nodup
  valid : ∀ row ∈ store.operations, row.violation = none
  lawful : ∀ row ∈ store.operations, OperationLawful row

/-- Nothing is taken back about any operation. -/
def OperationsLater (store store' : ProviderStore) : Prop :=
  ∀ row ∈ store.operations, ∃ row' ∈ store'.operations, OperationLater row row'

/-! ## Small changes -/

/-- Two operations of one id are the same operation. -/
theorem OperationTables.row_eq {store : ProviderStore} (h : OperationTables store)
    {row row' : ProviderOperation} (hrow : row ∈ store.operations) (hrow' : row' ∈ store.operations)
    (hid : row.id = row'.id) : row = row' :=
  List.inj_on_of_nodup_map h.ids hrow hrow' hid

/-- Two operations of one key are the same operation. -/
theorem OperationTables.key_eq {store : ProviderStore} (h : OperationTables store)
    {row row' : ProviderOperation} (hrow : row ∈ store.operations) (hrow' : row' ∈ store.operations)
    (hkey : row.idempotencyKey = row'.idempotencyKey) : row = row' :=
  List.inj_on_of_nodup_map h.keys hrow hrow' hkey

/-- A new column value keeps the values of a column different. -/
theorem nodup_snoc {α β : Type} {rows : List α} {column : α → β} {row : α}
    (h : (rows.map column).Nodup) (hfresh : ∀ old ∈ rows, column old ≠ column row) :
    ((rows ++ [row]).map column).Nodup := by
  rw [List.map_append, List.map_singleton, ← List.concat_eq_append]
  refine List.Nodup.concat ?_ h
  intro hmem
  obtain ⟨old, hold, heq⟩ := List.mem_map.mp hmem
  exact hfresh old hold heq

/-- The operation that is rewritten, and the others as they were. -/
theorem mem_rewritten {store : ProviderStore} (hids : (store.operations.map (·.id)).Nodup)
    {row : ProviderOperation} {change : ProviderOperation → ProviderOperation}
    (hrow : row ∈ store.operations) {row' : ProviderOperation}
    (hrow' : row' ∈ store.operations.map fun operation =>
      if operation.id = row.id then change operation else operation) :
    row' = change row ∨ row' ∈ store.operations ∧ row'.id ≠ row.id := by
  obtain ⟨operation, hoperation, rfl⟩ := List.mem_map.mp hrow'
  by_cases hid : operation.id = row.id
  · rw [if_pos hid, List.inj_on_of_nodup_map hids hoperation hrow hid]
    exact .inl rfl
  · rw [if_neg hid]
    exact .inr ⟨hoperation, hid⟩

/-- A column that a rewriting keeps. -/
theorem map_rewritten {β : Type} {store : ProviderStore}
    (hids : (store.operations.map (·.id)).Nodup) {row : ProviderOperation}
    {change : ProviderOperation → ProviderOperation} (hrow : row ∈ store.operations)
    {column : ProviderOperation → β}
    (hkept : column (change row) = column row) :
    (store.operations.map fun operation =>
      if operation.id = row.id then change operation else operation).map column =
        store.operations.map column := by
  rw [List.map_map]
  refine List.map_congr_left ?_
  intro operation hoperation
  by_cases hid : operation.id = row.id
  · rw [Function.comp_apply, if_pos hid, List.inj_on_of_nodup_map hids hoperation hrow hid, hkept]
  · rw [Function.comp_apply, if_neg hid]

/-- A small change keeps the tables. -/
theorem OperationTables.changed {store store' : ProviderStore} (h : OperationTables store)
    (hchange : OperationChange True store store') : OperationTables store' := by
  cases hchange with
  | other directory tables approvals now => exact ⟨h.ids, h.keys, h.valid, h.lawful⟩
  | recorded row hid hkey hvalid hstate =>
      refine ⟨nodup_snoc h.ids hid, nodup_snoc h.keys hkey, ?_, ?_⟩
      · intro row' hrow'
        obtain hold | hnew := List.mem_append.mp hrow'
        · exact h.valid row' hold
        · rw [List.mem_singleton.mp hnew]
          exact hvalid
      · intro row' hrow'
        obtain hold | hnew := List.mem_append.mp hrow'
        · exact h.lawful row' hold
        · rw [List.mem_singleton.mp hnew]
          exact lawful_of_state (by simp [hstate]) (by simp [hstate])
  | rewritten row change hfind hstep hvalid =>
      have hrow := (found_operation hfind).1
      have hlater := hstep.later
      refine ⟨?_, ?_, ?_, ?_⟩
      · show ((store.operations.map _).map _).Nodup
        rw [map_rewritten h.ids hrow hlater.id]
        exact h.ids
      · show ((store.operations.map _).map _).Nodup
        rw [map_rewritten h.ids hrow hlater.idempotencyKey]
        exact h.keys
      · intro row' hrow'
        obtain rfl | ⟨hold, -⟩ := mem_rewritten h.ids hrow hrow'
        · exact hvalid
        · exact h.valid row' hold
      · intro row' hrow'
        obtain rfl | ⟨hold, -⟩ := mem_rewritten h.ids hrow hrow'
        · exact hstep.lawful (h.valid row hrow) (h.lawful row hrow)
        · exact h.lawful row' hold

/-- A small change takes nothing back. -/
theorem OperationTables.later {store store' : ProviderStore} (h : OperationTables store)
    (hchange : OperationChange True store store') : OperationsLater store store' := by
  cases hchange with
  | other directory tables approvals now =>
      intro row hrow
      exact ⟨row, hrow, OperationLater.refl row⟩
  | recorded row hid hkey hvalid hstate =>
      intro old hold
      exact ⟨old, List.mem_append_left _ hold, OperationLater.refl old⟩
  | rewritten row change hfind hstep hvalid =>
      have hrow := (found_operation hfind).1
      intro operation hoperation
      by_cases hid : operation.id = row.id
      · obtain rfl := h.row_eq hoperation hrow hid
        exact ⟨change operation, List.mem_map.mpr ⟨operation, hoperation, if_pos rfl⟩, hstep.later⟩
      · exact ⟨operation, List.mem_map.mpr ⟨operation, hoperation, if_neg hid⟩,
          OperationLater.refl operation⟩

/-- Nothing is taken back where nothing happens. -/
theorem operations_later_refl (store : ProviderStore) : OperationsLater store store := by
  intro row hrow
  exact ⟨row, hrow, OperationLater.refl row⟩

/-- What is not taken back is not taken back later. -/
theorem operations_later_trans {first second third : ProviderStore}
    (h : OperationsLater first second) (h' : OperationsLater second third) :
    OperationsLater first third := by
  intro row hrow
  obtain ⟨row', hrow', hlater⟩ := h row hrow
  obtain ⟨row'', hrow'', hlater'⟩ := h' row' hrow'
  exact ⟨row'', hrow'', hlater.trans hlater'⟩

/-! ## Runs -/

variable {context : ProviderContext}

/-- A sound step keeps the tables. -/
theorem OperationTables.step {store : ProviderStore} (h : OperationTables store)
    {event : ProviderEvent} (hsound : store.Sound event) :
    OperationTables (providerStep context store event) :=
  Changes.invariant (fun _ _ hs hchange => hs.changed hchange)
    (step_operation_changes context store event fun _ => hsound) h

/-- A sound step takes nothing back. -/
theorem OperationTables.step_later {store : ProviderStore} (h : OperationTables store)
    {event : ProviderEvent} (hsound : store.Sound event) :
    OperationsLater store (providerStep context store event) :=
  Changes.relation (fun _ _ hs hchange => hs.changed hchange) operations_later_refl
    operations_later_trans (fun _ _ hs hchange => hs.later hchange)
    (step_operation_changes context store event fun _ => hsound) h

/-- A sound run keeps the tables. -/
theorem OperationTables.run {store : ProviderStore} (h : OperationTables store)
    {events : List ProviderEvent} (hsound : EachCall (providerStep context) Sound store events) :
    OperationTables (Library.run (providerStep context) store events) :=
  run_invariant_of h (fun _ _ hs hevent => hs.step hevent) hsound

/-- A sound run takes nothing back. -/
theorem OperationTables.run_later {store : ProviderStore} (h : OperationTables store)
    {events : List ProviderEvent} (hsound : EachCall (providerStep context) Sound store events) :
    OperationsLater store (Library.run (providerStep context) store events) := by
  induction events generalizing store with
  | nil => exact operations_later_refl store
  | cons event events ih =>
      exact operations_later_trans (h.step_later hsound.1) (ih (h.step hsound.1) hsound.2)

/-- A workspace without operations. -/
def ProviderStore.start (directory : Directory) (tables : ConnectionTables) : ProviderStore where
  directory := directory
  tables := tables

/-- A workspace without operations has lawful tables. -/
theorem start_tables (directory : Directory) (tables : ConnectionTables) :
    OperationTables (ProviderStore.start directory tables) where
  ids := List.nodup_nil
  keys := List.nodup_nil
  valid := by
    intro row hrow
    cases hrow
  lawful := by
    intro row hrow
    cases hrow

/-! ## The remote start -/

/-- The call answers that the operation with an id starts now. -/
def StartsNow (context : ProviderContext) (store : ProviderStore) (event : ProviderEvent)
    (id : String) : Prop :=
  ∃ input after answer, event = .mark input ∧
    store.markProviderOperationRemoteStarted context input = .ok (after, some answer) ∧
    answer.id = id ∧ answer.startedNow = true

/-- An operation has an unexpired plan, and an approval of exactly this plan from someone who may
still give it. -/
def StartAdmitted (store : ProviderStore) (id : String) : Prop :=
  ∃ row ∈ store.operations, row.id = id ∧ store.now < row.planExpiresAt ∧
    ∃ approval ∈ store.approvals, approval.operationId = id ∧ approval.planHash = row.planHash ∧
      approval.decision = .approved ∧
      store.liveManager approval.actorSessionId approval.actorUserId approval.actorMemberId
        approval.actorRole = true ∧
      (row.approvalPolicy = "separate_admin" → approval.actorMemberId ≠ row.requestedByMemberId ∧
        approval.actorUserId ≠ row.requestedByUserId)

/-- What the scope of a start had checked. -/
theorem start_scope_spec {store : ProviderStore} {input : ExecutionStep} {row : ProviderOperation}
    (h : startScope input store = some row) :
    store.findOperation row.id = some row ∧
      ∃ approval ∈ store.approvals, store.approves row approval = true := by
  obtain ⟨hrow, hchecked⟩ := Option.filter_eq_some_iff.mp h
  refine ⟨(identified_spec hrow).1, ?_⟩
  simp only [Bool.and_eq_true] at hchecked
  have hauthority := hchecked.1.1.2
  unfold currentExecutionAuthority at hauthority
  rw [Bool.and_eq_true] at hauthority
  exact List.any_eq_true.mp hauthority.2

/-- An operation that starts now was claimed, is admitted, and has started after the call. -/
theorem starts_now_spec {store : ProviderStore} (h : OperationTables store) {event : ProviderEvent}
    {id : String} (hstarts : StartsNow context store event id) :
    StartAdmitted store id ∧ (∃ row ∈ store.operations, row.id = id ∧ row.state = .claimed) ∧
      ∃ row ∈ (providerStep context store event).operations, row.id = id ∧
        row.remoteStartedAt.isSome = true := by
  obtain ⟨input, after, answer, rfl, hmark, rfl, hnow⟩ := hstarts
  have hafter : providerStep context store (.mark input) = after := by
    show committed store (store.markProviderOperationRemoteStarted context input) = after
    rw [hmark]
    rfl
  have htables : OperationTables after := by
    rw [← hafter]
    exact @OperationTables.step context _ h (.mark input) trivial
  rw [hafter]
  unfold markProviderOperationRemoteStarted at hmark
  split at hmark
  · cases hmark
  · split at hmark
    · cases hmark
    · split at hmark
      · cases hmark
      · next between candidate hbatch =>
          simp only [Except.ok.injEq, Prod.mk.injEq, Option.bind_eq_some_iff] at hmark
          obtain ⟨rfl, before, rfl, hanswer⟩ := hmark
          obtain ⟨operation, hoperation, rfl⟩ := Option.map_eq_some_iff.mp hanswer
          simp only [Bool.and_eq_true, decide_eq_true_eq] at hnow
          obtain ⟨hclaimed, hstarted⟩ := hnow
          obtain ⟨hscope, hrun⟩ := run_batch_matched.mp hbatch
          obtain ⟨hfind, approval, happroval, happroves⟩ := start_scope_spec hscope
          have hbefore := (found_operation hfind).1
          obtain ⟨hmem, hid⟩ := found_operation hoperation
          simp only [run_statements_cons, run_statements_nil, startRow] at hrun
          obtain ⟨final, hupdate, rfl⟩ := hrun
          unfold updateRow at hupdate
          split at hupdate
          · cases hupdate
          · cases hupdate
            obtain hoperation | ⟨-, hother⟩ := mem_rewritten h.ids hbefore hmem
            · rw [if_pos hclaimed] at hoperation
              -- an expired plan does not start, whatever was approved
              by_cases hexpired : before.planExpiresAt ≤ store.now
              · rw [if_pos hexpired] at hoperation
                rw [hoperation] at hstarted
                cases hstarted
              · rw [if_neg hexpired] at hoperation
                unfold approves at happroves
                simp only [Bool.and_eq_true, Bool.or_eq_true, decide_eq_true_eq] at happroves
                obtain ⟨⟨⟨⟨hfor, hplan⟩, hdecision⟩, hlive⟩, hseparate⟩ := happroves
                refine ⟨⟨before, hbefore, hid.symm, Nat.lt_of_not_le hexpired, approval, happroval,
                  hfor.trans hid.symm, hplan, hdecision, hlive, ?_⟩,
                  ⟨before, hbefore, hid.symm, hclaimed⟩, operation, hmem, rfl, ?_⟩
                · intro hpolicy
                  obtain hone | hboth := hseparate
                  · exact absurd hpolicy hone
                  · exact hboth
                · rw [hoperation]
                  rfl
            · exact absurd hid hother

/-- What holds of a run of the store: an operation starts at most once and only under a live
approval, a cancelled one never starts, an ended one and the recorded ids stay as they are, a failed
one has no resource, and a key names one operation with one request. -/
structure OperationLaws (context : ProviderContext) (store : ProviderStore)
    (events : List ProviderEvent) : Prop where
  startsOnce : ∀ before first between second rest id,
    events = before ++ first :: (between ++ second :: rest) →
    StartsNow context (run (providerStep context) store before) first id →
    ¬ StartsNow context (run (providerStep context) store (before ++ first :: between)) second id
  admitted : ∀ before event rest id, events = before ++ event :: rest →
    StartsNow context (run (providerStep context) store before) event id →
    StartAdmitted (run (providerStep context) store before) id
  cancelled : ∀ row ∈ (run (providerStep context) store events).operations,
    row.state = .cancelled → row.remoteStartedAt = none ∧
      ∀ before event rest, events = before ++ event :: rest →
        ¬ StartsNow context (run (providerStep context) store before) event row.id
  kept : ∀ before rest, events = before ++ rest →
    ∀ row ∈ (run (providerStep context) store before).operations,
      ∃ row' ∈ (run (providerStep context) store events).operations, row'.id = row.id ∧
        (row.state.isFinal = true → row' = row) ∧
        (∀ id, row.providerOperationId = some id → row'.providerOperationId = some id) ∧
        ∀ id, row.providerResourceId = some id → row'.providerResourceId = some id
  failed : ∀ row ∈ (run (providerStep context) store events).operations,
    row.state = .failed → row.providerResourceId = none
  idempotencyKey : ∀ before rest, events = before ++ rest →
    ∀ row ∈ (run (providerStep context) store before).operations,
      ∀ row' ∈ (run (providerStep context) store events).operations,
        row'.idempotencyKey = row.idempotencyKey →
          row'.id = row.id ∧ row'.requestHash = row.requestHash

/-- An operation that started has started in every later store. -/
theorem started_later {store : ProviderStore} (h : OperationTables store) {event : ProviderEvent}
    {events : List ProviderEvent} {id : String} (hstarts : StartsNow context store event id)
    (hsound : EachCall (providerStep context) Sound store (event :: events)) :
    ∃ row ∈ (run (providerStep context) store (event :: events)).operations, row.id = id ∧
      row.remoteStartedAt.isSome = true := by
  obtain ⟨-, -, row, hrow, hid, hstarted⟩ := starts_now_spec h hstarts
  obtain ⟨row', hrow', hlater⟩ := (h.step hsound.1).run_later hsound.2 row hrow
  exact ⟨row', hrow', hlater.id.trans hid, hlater.remoteStartedAt hstarted⟩

/-- In every run whose steps keep what is recorded of the remote resource, the remote mutation of an
operation starts at most once and only under a live approval of its plan, and what is recorded of an
operation stays. -/
theorem provider_operation_protocol (context : ProviderContext) (directory : Directory)
    (tables : ConnectionTables) (events : List ProviderEvent)
    (hsound : EachCall (providerStep context) Sound (.start directory tables) events) :
    OperationLaws context (.start directory tables) events := by
  have hstart := start_tables directory tables
  have hfinal := hstart.run hsound
  refine ⟨?_, ?_, ?_, ?_, ?_, ?_⟩
  · intro before first between second rest id hevents hfirst hsecond
    have hsplit : events = before ++ (first :: between ++ second :: rest) := by simp [hevents]
    rw [hsplit] at hsound
    obtain ⟨hbefore, hrest⟩ := each_call_of_append hsound
    obtain ⟨hbetween, -⟩ := each_call_of_append hrest
    have htables := hstart.run hbefore
    have hsecondTables := htables.run hbetween
    rw [run_append] at hsecond
    -- the second start finds the operation claimed, but it has started
    obtain ⟨row, hrow, hid, hstarted⟩ := started_later htables hfirst hbetween
    obtain ⟨-, ⟨row', hrow', hid', hclaimed⟩, -⟩ := starts_now_spec hsecondTables hsecond
    rw [hsecondTables.row_eq hrow hrow' (hid.trans hid'.symm),
      not_started (hsecondTables.valid row' hrow') (.inr (.inr hclaimed))] at hstarted
    cases hstarted
  · intro before event rest id hevents hstarts
    rw [hevents] at hsound
    exact (starts_now_spec (hstart.run (each_call_of_append hsound).1) hstarts).1
  · intro row hrow hstate
    have hnone := (hfinal.lawful row hrow).cancelled hstate
    refine ⟨hnone, ?_⟩
    intro before event rest hevents hstarts
    have hsplit := hsound
    rw [hevents] at hsplit
    obtain ⟨hbefore, hrest⟩ := each_call_of_append hsplit
    obtain ⟨row', hrow', hid, hstarted⟩ := started_later (hstart.run hbefore) hstarts hrest
    rw [← run_append, ← hevents] at hrow'
    rw [hfinal.row_eq hrow' hrow hid, hnone] at hstarted
    cases hstarted
  · intro before rest hevents row hrow
    have hsplit := hsound
    rw [hevents] at hsplit
    obtain ⟨hbefore, hrest⟩ := each_call_of_append hsplit
    obtain ⟨row', hrow', hlater⟩ := (hstart.run hbefore).run_later hrest row hrow
    rw [← run_append, ← hevents] at hrow'
    exact ⟨row', hrow', hlater.id, hlater.final, hlater.providerOperationId,
      hlater.providerResourceId⟩
  · intro row hrow hstate
    exact (hfinal.lawful row hrow).failed hstate
  · intro before rest hevents row hrow row' hrow' hkey
    have hsplit := hsound
    rw [hevents] at hsplit
    obtain ⟨hbefore, hrest⟩ := each_call_of_append hsplit
    obtain ⟨kept, hkept, hlater⟩ := (hstart.run hbefore).run_later hrest row hrow
    rw [← run_append, ← hevents] at hkept
    rw [hfinal.key_eq hrow' hkept (hkey.trans hlater.idempotencyKey.symm)]
    exact ⟨hlater.id, hlater.requestHash⟩

/-! ## A branch that was seen and then rejected -/

/-- The texts of the fixture are compared by their characters. -/
def operationFixtureContext : ProviderContext where
  organizationId := "organization"
  collation := fun left right => left ≤ right
  sign := fun _ => "AAAAAAAAAAAAAAAAAAAAAAAAAAAAAAAAAAAAAAAAAAA"

/-- An admin with one session. -/
def operationFixtureDirectory : Directory where
  sessions := [{
    id := "session"
    userId := "user"
    expiresAt := 1000000 }]
  members := [{
    id := "member"
    userId := "user"
    role := "admin" }]

/-- One integration. -/
def operationFixtureTables : ConnectionTables where
  integrations := [{
    id := "11111111-1111-4111-8111-111111111111"
    provider := "neon" }]

/-- A plan to create a branch. -/
def operationFixturePlan : Json := .obj [
  ("approvalPolicy", .str "single_admin"),
  ("expiresAt", .str "1970-01-01T00:10:00.000Z"),
  ("integrationGeneration", .str "1"),
  ("integrationId", .str "11111111-1111-4111-8111-111111111111"),
  ("issuedAt", .str "1970-01-01T00:00:00.000Z"),
  ("kind", .str "neon.branch.create"),
  ("operationId", .str "22222222-2222-4222-8222-222222222222"),
  ("risk", .str "standard"),
  ("source", .obj [
    ("branchId", .str "fixture-source"),
    ("environment", .str "development"),
    ("name", .str "Source"),
    ("projectId", .str "fixture-project")]),
  ("target", .obj [
    ("copiesData", .bool true),
    ("createsCompute", .bool true),
    ("endpoint", .str "read_write"),
    ("initSource", .str "parent-data"),
    ("name", .str "Fixture branch"),
    ("protected", .bool false)]),
  ("version", .int 1),
  ("warningCodes", .arr [])]

/-- The plan's operation. -/
def operationFixtureStep : ExecutionStep where
  authority := {
    sessionId := "session"
    userId := "user"
    membershipId := "member"
    role := "admin" }
  integrationId := "11111111-1111-4111-8111-111111111111"
  integrationGeneration := 1
  operationId := "22222222-2222-4222-8222-222222222222"
  kind := .create
  planHash := "7dcf292b1f8925ecbdc78f7dfa7df29e0729eb6eea603a5e82f3cc169b2d14da"
  ownershipMarker := "v1.AAAAAAAAAAAAAAAAAAAAAAAAAAAAAAAAAAAAAAAAAAA"
  claimId := "33333333-3333-4333-8333-333333333333"
  now := 0

/-- The recording of the plan. -/
def operationFixtureRecording : PlanRecording where
  toProviderOperationExecutionIdentity :=
    operationFixtureStep.toProviderOperationExecutionIdentity
  idempotencyKey := "44444444-4444-4444-8444-444444444444"
  requestHash := "7dcf292b1f8925ecbdc78f7dfa7df29e0729eb6eea603a5e82f3cc169b2d14da"
  plan := operationFixturePlan
  now := 0

/-- An observation of the operation. -/
def operationFixtureObservation (status : ObservedStatus) (branchId failureCode : Option String)
    (managedAccessState : ProviderManagedAccessState) : Reconciliation where
  toExecutionStep := operationFixtureStep
  result := {
    status
    branchId
    providerOperationId := none
    providerOperationStatus := none
    endpointId := none
    databaseCount := none
    databaseFingerprint := none
    retiredInheritedRoleCount := none
    credentialFenceFingerprint := none
    managedAccessState
    failureCode }

/-- The plan is approved, claimed and started, and its branch is seen. -/
def operationFixtureSeen : List ProviderEvent := [
  .decide {
    toProviderOperationExecutionIdentity :=
      operationFixtureStep.toProviderOperationExecutionIdentity
    decision := .approved
    approvalId := "approval"
    now := 0 },
  .claim operationFixtureStep,
  .mark operationFixtureStep,
  .reconcile (operationFixtureObservation .pending (some "fixture-created") none
    .waitingForProvider)]

/-- A rejection without a branch. -/
def operationFixtureRejected : ProviderEvent :=
  .reconcile (operationFixtureObservation .failed none (some "NEON_RETRY_SAFE_REJECTED") .unavailable)

/-- The store in which the branch was seen. -/
def operationFixtureStore : ProviderStore where
  directory := operationFixtureDirectory
  tables := operationFixtureTables
  operations := [{ plannedRow operationFixtureRecording with
    state := .reconciling
    providerResourceId := some "fixture-created"
    redactedResult := some (redactedResult (operationFixtureObservation .pending
      (some "fixture-created") none .waitingForProvider) none)
    claimId := some operationFixtureStep.claimId
    claimedAt := some 0
    remoteStartedAt := some 0
    reconcileAfter := some 3000 }]
  approvals := [{
    id := "approval"
    operationId := operationFixtureStep.operationId
    planHash := operationFixtureStep.planHash
    decision := .approved
    actorMemberId := "member"
    actorUserId := "user"
    actorSessionId := "session"
    actorRole := "admin" }]

/-- The run of the fixture reaches this store: the plan passes its checks and is recorded, and the
later steps are evaluated from there. -/
theorem operation_fixture_seen :
    run (providerStep operationFixtureContext)
        (.start operationFixtureDirectory operationFixtureTables)
        (.record operationFixtureRecording :: operationFixtureSeen) = operationFixtureStore := by
  have hcanonical : isCanonical operationFixtureContext.collation operationFixturePlan = true := by
    decide +kernel
  have hhash : canonicalHash operationFixtureContext.collation operationFixturePlan =
      operationFixtureStep.planHash := by
    unfold canonicalHash canonicalJsonText
    rw [canonicalize_of_canonical hcanonical]
    decide +kernel
  have hchecked :
      assertPlanRecording operationFixtureContext operationFixtureRecording = .ok () := by
    unfold assertPlanRecording assertPlan canonicalJsonText
    simp only [show operationFixtureRecording.plan = operationFixturePlan from rfl, hhash,
      canonicalize_of_canonical hcanonical]
    decide +kernel
  have hrecorded : providerStep operationFixtureContext
      (.start operationFixtureDirectory operationFixtureTables) (.record operationFixtureRecording) =
        { ProviderStore.start operationFixtureDirectory operationFixtureTables with
          operations := [plannedRow operationFixtureRecording] } := by
    show committed _ (recordProviderOperationPlan _ _ _) = _
    unfold recordProviderOperationPlan
    rw [hchecked]
    decide +kernel
  rw [run_cons, hrecorded]
  decide +kernel

/-- A run that sees the branch of a creation is lawful. -/
theorem operation_fixture_lawful :
    OperationLaws operationFixtureContext (.start operationFixtureDirectory operationFixtureTables)
        (.record operationFixtureRecording :: operationFixtureSeen) ∧
      (run (providerStep operationFixtureContext)
        (.start operationFixtureDirectory operationFixtureTables)
        (.record operationFixtureRecording :: operationFixtureSeen)).operations.map
          (fun row => (row.state, row.providerResourceId)) =
        [(.reconciling, some "fixture-created")] := by
  refine ⟨provider_operation_protocol _ _ _ _ ?_, ?_⟩
  · refine ⟨trivial, trivial, trivial, trivial, ?_, trivial⟩
    intro row _ hfailed
    cases hfailed
  · rw [operation_fixture_seen]
    rfl

/-- A rejection without a branch after the branch was recorded fails the operation with its resource
still recorded. -/
theorem failed_with_resource :
    ¬ ∀ (context : ProviderContext) (directory : Directory) (tables : ConnectionTables)
      (events : List ProviderEvent), OperationLaws context (.start directory tables) events := by
  intro hlaws
  have hfailed := (hlaws operationFixtureContext operationFixtureDirectory operationFixtureTables
    ((.record operationFixtureRecording :: operationFixtureSeen) ++
      [operationFixtureRejected])).failed
  rw [run_append, operation_fixture_seen] at hfailed
  revert hfailed
  decide +kernel

end Dopedb.Cloud
