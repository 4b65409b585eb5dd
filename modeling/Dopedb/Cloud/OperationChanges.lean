import Dopedb.Cloud.ProviderOperations

/-!
# What a step changes about provider operations

`OperationStep` lists what one step may do to an operation, each with what its batch had checked,
and `OperationChange` the small changes of the tables. Read `step_operation_changes` first: every
event is a sequence of them.
-/

namespace Dopedb.Cloud

open Library ProviderStore

/-! ## Operations -/

/-- `failed`, `needs_repair` and `cancelled`. -/
def ProviderOperationState.isFinal : ProviderOperationState → Bool
  | .failed | .needsRepair | .cancelled => true
  | _ => false

/-- A rejection of an operation that has a resource names one. -/
def ProviderStore.Reconciliation.NamesResource (input : Reconciliation)
    (row : ProviderOperation) : Prop :=
  input.result.status = .failed → input.result.branchId = none → row.providerResourceId = none

/-- The plan of a switch moves to the resource that is recorded, if one is. -/
def ProviderStore.SwitchCompletion.KeepsResource (input : SwitchCompletion)
    (row : ProviderOperation) : Prop :=
  ∀ resource, row.providerResourceId = some resource →
    input.connectionSwitch.target "branchId" = some resource

/-- What one step may do to an operation; a sound one keeps what is recorded of the resource. -/
inductive OperationStep (sound : Prop) : ProviderOperation → ProviderOperation → Prop where
  | same (row : ProviderOperation) : OperationStep sound row row
  | decided (row : ProviderOperation) (input : OperationDecision)
      (hstate : row.state = .awaitingApproval) :
      OperationStep sound row { row with
        state := if input.decision = .approved then .approved else .cancelled
        completedAt := if input.decision = .rejected then some input.now else row.completedAt
        updatedAt := input.now }
  | claimed (row : ProviderOperation) (input : ExecutionStep) (hstate : row.state = .approved) :
      OperationStep sound row { row with
        state := .claimed
        claimId := some input.claimId
        claimedAt := some input.now
        updatedAt := input.now }
  | cancelled (row : ProviderOperation) (reconcileAfter : Option Nat) (now : Nat)
      (hstate : row.state = .approved ∨ row.state = .claimed) :
      OperationStep sound row { row with
        state := .cancelled
        reconcileAfter := reconcileAfter
        completedAt := some now
        updatedAt := now }
  | started (row : ProviderOperation) (now : Nat) (hstate : row.state = .claimed) :
      OperationStep sound row { row with
        state := .remoteStarted
        remoteStartedAt := some now
        updatedAt := now }
  | reconciled (row : ProviderOperation) (input : Reconciliation)
      (hstate : row.state.isFinal = false)
      (hready : row.state = .succeeded → input.result.status = .ready)
      (hresource : sound → input.NamesResource row) :
      OperationStep sound row (reconciledRow input row)
  | switched (row : ProviderOperation) (input : SwitchCompletion)
      (hstate : row.state.isFinal = false) (hresource : sound → input.KeepsResource row) :
      OperationStep sound row (switchedRow input row)
  | bootstrapped (row : ProviderOperation) (input : BootstrapCompletion)
      (hstate : row.state = .succeeded) :
      OperationStep sound row (bootstrappedRow input row)

/-- What no step takes back about an operation. -/
structure OperationLater (row row' : ProviderOperation) : Prop where
  id : row'.id = row.id
  idempotencyKey : row'.idempotencyKey = row.idempotencyKey
  requestHash : row'.requestHash = row.requestHash
  planHash : row'.planHash = row.planHash
  final : row.state.isFinal = true → row' = row
  providerOperationId : ∀ id, row.providerOperationId = some id → row'.providerOperationId = some id
  providerResourceId : ∀ id, row.providerResourceId = some id → row'.providerResourceId = some id
  remoteStartedAt : row.remoteStartedAt.isSome = true → row'.remoteStartedAt.isSome = true

/-- Nothing is taken back about an operation that stays. -/
theorem OperationLater.refl (row : ProviderOperation) : OperationLater row row where
  id := rfl
  idempotencyKey := rfl
  requestHash := rfl
  planHash := rfl
  final := fun _ => rfl
  providerOperationId := fun _ h => h
  providerResourceId := fun _ h => h
  remoteStartedAt := fun h => h

/-- What is not taken back is not taken back later. -/
theorem OperationLater.trans {first second third : ProviderOperation}
    (h : OperationLater first second) (h' : OperationLater second third) :
    OperationLater first third where
  id := h'.id.trans h.id
  idempotencyKey := h'.idempotencyKey.trans h.idempotencyKey
  requestHash := h'.requestHash.trans h.requestHash
  planHash := h'.planHash.trans h.planHash
  final := by
    intro hfinal
    have hkept := h.final hfinal
    rw [h'.final (by rw [hkept]; exact hfinal), hkept]
  providerOperationId := fun id hid => h'.providerOperationId id (h.providerOperationId id hid)
  providerResourceId := fun id hid => h'.providerResourceId id (h.providerResourceId id hid)
  remoteStartedAt := fun hstarted => h'.remoteStartedAt (h.remoteStartedAt hstarted)

/-- A sound step takes nothing back. -/
theorem OperationStep.later {row row' : ProviderOperation} (h : OperationStep True row row') :
    OperationLater row row' := by
  cases h with
  | same => exact OperationLater.refl row
  | decided input hstate =>
      refine ⟨rfl, rfl, rfl, rfl, ?_, fun _ h => h, fun _ h => h, fun h => h⟩
      intro hfinal
      rw [hstate] at hfinal
      cases hfinal
  | claimed input hstate =>
      refine ⟨rfl, rfl, rfl, rfl, ?_, fun _ h => h, fun _ h => h, fun h => h⟩
      intro hfinal
      rw [hstate] at hfinal
      cases hfinal
  | cancelled reconcileAfter now hstate =>
      refine ⟨rfl, rfl, rfl, rfl, ?_, fun _ h => h, fun _ h => h, fun h => h⟩
      intro hfinal
      obtain hstate | hstate := hstate
      · rw [hstate] at hfinal
        cases hfinal
      · rw [hstate] at hfinal
        cases hfinal
  | started now hstate =>
      refine ⟨rfl, rfl, rfl, rfl, ?_, fun _ h => h, fun _ h => h, fun _ => rfl⟩
      intro hfinal
      rw [hstate] at hfinal
      cases hfinal
  | reconciled input hstate _ hresource =>
      refine ⟨rfl, rfl, rfl, rfl, ?_, ?_, ?_, fun h => h⟩
      · intro hfinal
        rw [hstate] at hfinal
        cases hfinal
      · intro id hid
        show row.providerOperationId.or _ = some id
        rw [hid]
        rfl
      · intro id hid
        show row.providerResourceId.or _ = some id
        rw [hid]
        rfl
  | switched input hstate hresource =>
      refine ⟨rfl, rfl, rfl, rfl, ?_, fun _ h => h, hresource trivial, fun h => h⟩
      intro hfinal
      rw [hstate] at hfinal
      cases hfinal
  | bootstrapped input hstate =>
      refine ⟨rfl, rfl, rfl, rfl, ?_, fun _ h => h, fun _ h => h, fun h => h⟩
      intro hfinal
      rw [hstate] at hfinal
      cases hfinal

/-- A cancelled operation never started, and a failed one has no resource. -/
structure OperationLawful (row : ProviderOperation) : Prop where
  cancelled : row.state = .cancelled → row.remoteStartedAt = none
  failed : row.state = .failed → row.providerResourceId = none

/-- An operation that is neither cancelled nor failed is lawful. -/
theorem lawful_of_state {row : ProviderOperation} (hcancelled : row.state ≠ .cancelled)
    (hfailed : row.state ≠ .failed) : OperationLawful row where
  cancelled := fun h => absurd h hcancelled
  failed := fun h => absurd h hfailed

/-- A check that finds nothing is passed, and so is the rest. -/
theorem refused_none {c : Prop} [Decidable c] {constraint : String} {rest : Option String} :
    (if c then some constraint else rest) = none ↔ ¬c ∧ rest = none := by
  by_cases hc : c
  · simp [hc]
  · simp [hc]

/-- An operation that its table admits has a claim that agrees with its state. -/
theorem claim_consistent {row : ProviderOperation} (h : row.violation = none) :
    row.claimConsistent = true := by
  unfold ProviderOperation.violation at h
  simp only [refused_none] at h
  obtain ⟨-, -, -, -, -, -, -, -, -, -, hclaim, -⟩ := h
  simpa using hclaim

/-- An operation that is not claimed or beyond has not started. -/
theorem not_started {row : ProviderOperation} (h : row.violation = none)
    (hstate : row.state = .awaitingApproval ∨ row.state = .approved ∨ row.state = .claimed) :
    row.remoteStartedAt = none := by
  have hclaim := claim_consistent h
  unfold ProviderOperation.claimConsistent at hclaim
  obtain hstate | hstate | hstate := hstate
  all_goals
    rw [hstate] at hclaim
    simp only [Bool.and_eq_true, Option.isNone_iff_eq_none] at hclaim
    exact hclaim.1.2

/-- A sound step keeps an operation lawful. -/
theorem OperationStep.lawful {row row' : ProviderOperation} (h : OperationStep True row row')
    (hvalid : row.violation = none) (hlawful : OperationLawful row) : OperationLawful row' := by
  cases h with
  | same => exact hlawful
  | decided input hstate =>
      have hstart := not_started hvalid (.inl hstate)
      refine ⟨fun _ => hstart, ?_⟩
      intro hfailed
      by_cases happroved : input.decision = .approved
      · simp [happroved] at hfailed
      · simp [happroved] at hfailed
  | claimed input hstate => exact lawful_of_state (by simp) (by simp)
  | cancelled reconcileAfter now hstate =>
      have hstart := not_started hvalid (.inr hstate)
      exact ⟨fun _ => hstart, by simp⟩
  | started now hstate => exact lawful_of_state (by simp) (by simp)
  | reconciled input hstate _ hresource =>
      have htarget : (reconciledRow input row).state = targetState input row := rfl
      refine ⟨?_, ?_⟩
      · intro hcancelled
        rw [htarget] at hcancelled
        unfold targetState at hcancelled
        repeat' split at hcancelled
        all_goals cases hcancelled
      · intro hfailed
        rw [htarget] at hfailed
        unfold targetState at hfailed
        split at hfailed
        · cases hfailed
        · cases hfailed
        · next hstatus =>
            split at hfailed
            · next hbranch =>
                rw [Option.isNone_iff_eq_none] at hbranch
                show row.providerResourceId.or input.result.branchId = none
                rw [hresource trivial hstatus hbranch, hbranch]
                rfl
            · cases hfailed
        · split at hfailed
          · cases hfailed
          · cases hfailed
        · cases hfailed
  | switched input hstate hresource =>
      have hsucceeded : (switchedRow input row).state = .succeeded := rfl
      exact lawful_of_state (by simp [hsucceeded]) (by simp [hsucceeded])
  | bootstrapped input hstate =>
      have hsucceeded : (bootstrappedRow input row).state = .succeeded := hstate
      exact lawful_of_state (by simp [hsucceeded]) (by simp [hsucceeded])

/-! ## Tables -/

/-- The small changes of the tables. -/
inductive OperationChange (sound : Prop) : ProviderStore → ProviderStore → Prop where
  | other (store : ProviderStore) (directory : Directory) (tables : ConnectionTables)
      (approvals : List ProviderOperationApproval) (now : Nat) :
      OperationChange sound store
        { store with
          directory := directory
          tables := tables
          approvals := approvals
          now := now }
  | recorded (store : ProviderStore) (row : ProviderOperation)
      (hid : ∀ old ∈ store.operations, old.id ≠ row.id)
      (hkey : ∀ old ∈ store.operations, old.idempotencyKey ≠ row.idempotencyKey)
      (hvalid : row.violation = none) (hstate : row.state = .awaitingApproval) :
      OperationChange sound store { store with operations := store.operations ++ [row] }
  | rewritten (store : ProviderStore) (row : ProviderOperation)
      (change : ProviderOperation → ProviderOperation)
      (hrow : store.findOperation row.id = some row) (hstep : OperationStep sound row (change row))
      (hvalid : (change row).violation = none) :
      OperationChange sound store { store with
        operations := store.operations.map fun operation =>
          if operation.id = row.id then change operation else operation }

variable {sound : Prop}

/-- One small change. -/
theorem one_operation_change {store after : ProviderStore} (h : OperationChange sound store after) :
    Changes (OperationChange sound) store after :=
  Relation.ReflTransGen.single h

/-- A row that is found has the id. -/
theorem found_operation {store : ProviderStore} {id : String} {row : ProviderOperation}
    (h : store.findOperation id = some row) : row ∈ store.operations ∧ row.id = id :=
  ⟨List.mem_of_find?_eq_some h, by simpa using List.find?_some h⟩

/-- What an identity names has its id. -/
theorem identified_spec {store : ProviderStore} {identity : ProviderOperationExecutionIdentity}
    {row : ProviderOperation} (h : store.identified identity = some row) :
    store.findOperation row.id = some row ∧ row.id = identity.operationId ∧
      row.planHash = identity.planHash ∧ row.kind = identity.kind := by
  unfold identified at h
  rw [Option.filter_eq_some_iff] at h
  obtain ⟨hfind, hsame⟩ := h
  simp only [Bool.and_eq_true, decide_eq_true_eq] at hsame
  obtain ⟨⟨⟨⟨-, hkind⟩, -⟩, hplan⟩, -⟩ := hsame
  have hid := (found_operation hfind).2
  exact ⟨by rw [hid]; exact hfind, hid, hplan, hkind⟩

/-- A row that is rewritten is one small change. -/
theorem update_row_change {store after : ProviderStore} {row : ProviderOperation}
    {change : ProviderOperation → ProviderOperation} (hrow : store.findOperation row.id = some row)
    (hstep : OperationStep sound row (change row)) (h : store.updateRow row.id change = .ok after) :
    OperationChange sound store after := by
  unfold updateRow at h
  rw [hrow] at h
  simp only [Option.bind_some] at h
  split at h
  · cases h
  · next hvalid =>
      cases h
      exact .rewritten store row change hrow hstep hvalid

/-- A committed batch is a sequence of small changes when its matched run is. -/
theorem operation_batch_changes {π : Type} {scope : ProviderStore → Option π}
    {statements : List (Statement OperationAbort ProviderStore π)} {store : ProviderStore}
    (hgated : ∀ statement ∈ statements, Gated statement)
    (hmatched : ∀ payload after, scope store = some payload →
      runStatements statements (some payload) store = .ok after →
      Changes (OperationChange sound) store after) :
    Changes (OperationChange sound) store (committed store (runBatch scope statements store)) := by
  obtain hkept | ⟨payload, hscope, hrun⟩ := batch_cases hgated store
  · rw [hkept]
  · exact hmatched payload _ hscope hrun

/-! ## Steps -/

/-- A recorded plan is a new operation under a new key, or one that is there already. -/
theorem record_changes (context : ProviderContext) (store : ProviderStore) (input : PlanRecording) :
    Changes (OperationChange sound) store
      (committed store (store.recordProviderOperationPlan context input)) := by
  unfold recordProviderOperationPlan
  split
  · exact Relation.ReflTransGen.refl
  · have hbatch : Changes (OperationChange sound) store
        (committed store (runBatch (recordScope input) [insertPlan input] store)) := by
      refine operation_batch_changes (by simp [Gated, insertPlan]) ?_
      intro slot after _ hrun
      simp only [run_statements_cons, run_statements_nil, insertPlan] at hrun
      obtain ⟨between, hinsert, rfl⟩ := hrun
      split at hinsert
      · unfold insertRow at hinsert
        split at hinsert
        · cases hinsert
        · next hid =>
            split at hinsert
            · cases hinsert
            · next hkey =>
                split at hinsert
                · cases hinsert
                · next hvalid =>
                    cases hinsert
                    refine one_operation_change (.recorded store _ ?_ ?_ hvalid rfl)
                    · intro old hold heq
                      exact hid (List.any_eq_true.mpr ⟨old, hold, by simpa using heq⟩)
                    · intro old hold heq
                      exact hkey (List.any_eq_true.mpr ⟨old, hold, by simpa using heq⟩)
      · cases hinsert
        exact Relation.ReflTransGen.refl
    cases hrun : runBatch (recordScope input) [insertPlan input] store with
    | error abort => exact Relation.ReflTransGen.refl
    | ok result =>
        rw [hrun] at hbatch
        exact hbatch

/-- What a decision's scope had checked. -/
theorem decide_scope_spec {store : ProviderStore} {input : OperationDecision} {fresh : Bool}
    (h : decideScope input store = some fresh) :
    ∃ row, store.findOperation row.id = some row ∧ row.id = input.operationId := by
  unfold decideScope at h
  split at h
  · cases h
  · next row hrow =>
      obtain ⟨hfind, hid, -⟩ := identified_spec hrow
      exact ⟨row, hfind, hid⟩

/-- A decision is noted at the operation that was found. -/
theorem decide_changes (context : ProviderContext) (store : ProviderStore)
    (input : OperationDecision) :
    Changes (OperationChange sound) store
      (committed store (store.decideProviderOperation context input)) := by
  unfold decideProviderOperation
  split
  · exact Relation.ReflTransGen.refl
  · have hbatch : Changes (OperationChange sound) store (committed store
        (runBatch (decideScope input) [insertApproval input, takeDecision input] store)) := by
      refine operation_batch_changes (by simp [Gated, insertApproval, takeDecision]) ?_
      intro fresh after hscope hrun
      obtain ⟨row, hfind, hid⟩ := decide_scope_spec hscope
      simp only [run_statements_cons, run_statements_nil] at hrun
      obtain ⟨noted, hnote, between, htake, rfl⟩ := hrun
      -- the approval changes no operation, so the operation is found again
      have happroval : OperationChange sound store noted ∧ noted.operations = store.operations := by
        unfold insertApproval at hnote
        split at hnote
        · cases hnote
          exact ⟨.other _ _ _ _ _, rfl⟩
        · cases hnote
          exact ⟨.other _ _ _ _ _, rfl⟩
      have hfound : noted.findOperation row.id = some row := by
        unfold findOperation
        rw [happroval.2]
        exact hfind
      refine Relation.ReflTransGen.tail (one_operation_change happroval.1) ?_
      simp only [takeDecision, ← hid] at htake
      refine update_row_change hfound ?_ htake
      by_cases hstate : row.state = .awaitingApproval
      · rw [if_pos hstate]
        exact .decided row input hstate
      · rw [if_neg hstate]
        exact .same row
    cases hrun : runBatch (decideScope input) [insertApproval input, takeDecision input] store with
    | error abort => exact Relation.ReflTransGen.refl
    | ok result =>
        rw [hrun] at hbatch
        exact hbatch

/-- A batch of one statement that rewrites the operation it found. -/
theorem rewrite_changes {scope : ProviderStore → Option ProviderOperation}
    {statement : Statement OperationAbort ProviderStore ProviderOperation} {store : ProviderStore}
    (hgated : Gated statement)
    (hscope : ∀ row, scope store = some row → store.findOperation row.id = some row)
    (hstatement : ∀ row after, scope store = some row → statement (some row) store = .ok after →
      after = store ∨ ∃ change, OperationStep sound row (change row) ∧
        store.updateRow row.id change = .ok after) :
    Changes (OperationChange sound) store (committed store (runBatch scope [statement] store)) := by
  refine operation_batch_changes (by simpa using hgated) ?_
  intro row after hrow hrun
  simp only [run_statements_cons, run_statements_nil] at hrun
  obtain ⟨between, hbetween, rfl⟩ := hrun
  obtain rfl | ⟨change, hstep, hupdate⟩ := hstatement row between hrow hbetween
  · exact Relation.ReflTransGen.refl
  · exact one_operation_change (update_row_change (hscope row hrow) hstep hupdate)

/-- An expired operation is cancelled. -/
theorem cancel_expired_changes (context : ProviderContext) (store : ProviderStore)
    (input : ExecutionStep) :
    Changes (OperationChange sound) store
      (committed store (store.cancelExpiredProviderOperationExecution context input)) := by
  unfold cancelExpiredProviderOperationExecution
  split
  · exact Relation.ReflTransGen.refl
  · refine rewrite_changes (fun _ => rfl) ?_ ?_
    · intro row hrow
      exact (identified_spec (Option.filter_eq_some_iff.mp hrow).1).1
    · intro row after hrow hrun
      obtain ⟨-, hexpired⟩ := Option.filter_eq_some_iff.mp hrow
      simp only [Bool.and_eq_true, Bool.or_eq_true, decide_eq_true_eq] at hexpired
      exact .inr ⟨_, .cancelled row none input.now hexpired.1.1.1, hrun⟩

/-- An approved operation is claimed. -/
theorem claim_changes (context : ProviderContext) (store : ProviderStore) (input : ExecutionStep) :
    Changes (OperationChange sound) store
      (committed store (store.claimProviderOperationExecution context input)) := by
  unfold claimProviderOperationExecution
  split
  · exact Relation.ReflTransGen.refl
  · have hbatch : Changes (OperationChange sound) store
        (committed store (runBatch (claimScope input) [claimRow input] store)) := by
      refine rewrite_changes (fun _ => rfl) ?_ ?_
      · intro row hrow
        exact (identified_spec (Option.filter_eq_some_iff.mp hrow).1).1
      · intro row after hrow hrun
        refine .inr ⟨_, ?_, hrun⟩
        by_cases hstate : row.state = .approved
        · rw [if_pos hstate]
          exact .claimed row input hstate
        · rw [if_neg hstate]
          exact .same row
    cases hrun : runBatch (claimScope input) [claimRow input] store with
    | error abort => exact Relation.ReflTransGen.refl
    | ok result =>
        rw [hrun] at hbatch
        exact hbatch

/-- A claimed operation starts or lapses. -/
theorem mark_changes (context : ProviderContext) (store : ProviderStore) (input : ExecutionStep) :
    Changes (OperationChange sound) store
      (committed store (store.markProviderOperationRemoteStarted context input)) := by
  unfold markProviderOperationRemoteStarted
  split
  · exact Relation.ReflTransGen.refl
  · split
    · exact Relation.ReflTransGen.refl
    · have hbatch : Changes (OperationChange sound) store
          (committed store (runBatch (startScope input) [startRow input] store)) := by
        refine rewrite_changes (fun _ => rfl) ?_ ?_
        · intro row hrow
          exact (identified_spec (Option.filter_eq_some_iff.mp hrow).1).1
        · intro row after hrow hrun
          refine .inr ⟨_, ?_, hrun⟩
          by_cases hstate : row.state = .claimed
          · rw [if_pos hstate]
            by_cases hexpired : row.planExpiresAt ≤ store.now
            · rw [if_pos hexpired]
              exact .cancelled row row.reconcileAfter input.now (.inr hstate)
            · rw [if_neg hexpired]
              exact .started row input.now hstate
          · rw [if_neg hstate]
            exact .same row
      cases hrun : runBatch (startScope input) [startRow input] store with
      | error abort => exact Relation.ReflTransGen.refl
      | ok result =>
          rw [hrun] at hbatch
          exact hbatch

/-- What a reconciliation's scope had checked. -/
theorem reconcile_scope_spec {store : ProviderStore} {input : Reconciliation}
    {row : ProviderOperation} (h : reconcileScope input store = some row) :
    store.findOperation row.id = some row ∧ row.state.isFinal = false ∧
      (row.state = .succeeded → input.result.status = .ready) := by
  unfold reconcileScope at h
  obtain ⟨hrow, hchecked⟩ := Option.filter_eq_some_iff.mp h
  refine ⟨(identified_spec hrow).1, ?_⟩
  simp only [Bool.and_eq_true, Bool.or_eq_true, decide_eq_true_eq] at hchecked
  obtain (hstate | hstate) | hstate := hchecked.1.1.1.1.1.1.2
  · rw [hstate]
    exact ⟨rfl, by simp⟩
  · rw [hstate]
    exact ⟨rfl, by simp⟩
  · rw [hstate.1.1.1.1.1]
    exact ⟨rfl, fun _ => hstate.1.1.2⟩

/-- An observation is recorded, where a rejection does not follow a recorded resource. -/
theorem reconcile_changes (context : ProviderContext) (store : ProviderStore)
    (input : Reconciliation)
    (hsound : sound → ∀ row, reconcileScope input store = some row → input.NamesResource row) :
    Changes (OperationChange sound) store
      (committed store (store.applyProviderOperationReconciliation context input)) := by
  unfold applyProviderOperationReconciliation
  split
  · exact Relation.ReflTransGen.refl
  · split
    · exact Relation.ReflTransGen.refl
    · have hbatch : Changes (OperationChange sound) store
          (committed store (runBatch (reconcileScope input) [reconcileRow input] store)) := by
        refine rewrite_changes (fun _ => rfl) ?_ ?_
        · intro row hrow
          exact (reconcile_scope_spec hrow).1
        · intro row after hrow hrun
          obtain ⟨-, hstate, hready⟩ := reconcile_scope_spec hrow
          exact .inr ⟨_, .reconciled row input hstate hready fun h => hsound h row hrow, hrun⟩
      cases hrun : runBatch (reconcileScope input) [reconcileRow input] store with
      | error abort => exact Relation.ReflTransGen.refl
      | ok result =>
          rw [hrun] at hbatch
          exact hbatch

/-- What a switch's scope had checked. -/
theorem switch_scope_spec {store : ProviderStore} {input : SwitchCompletion}
    {row : ProviderOperation} {snapshot : ConnectionSwitch.Snapshot}
    (h : switchScope input store = some (row, snapshot)) :
    store.findOperation row.id = some row ∧ row.id = input.operationId ∧
      row.state.isFinal = false := by
  unfold switchScope at h
  obtain ⟨found, hfound, hsnapshot⟩ := Option.bind_eq_some_iff.mp h
  obtain ⟨_, -, heq⟩ := Option.map_eq_some_iff.mp hsnapshot
  cases heq
  unfold switchOperation at hfound
  obtain ⟨hrow, hchecked⟩ := Option.filter_eq_some_iff.mp hfound
  obtain ⟨hfind, hid, -⟩ := identified_spec hrow
  refine ⟨hfind, hid, ?_⟩
  simp only [Bool.and_eq_true, Bool.or_eq_true, decide_eq_true_eq] at hchecked
  obtain hstate | hstate := hchecked.1.1.1
  · rw [hstate]
    rfl
  · rw [hstate]
    rfl

/-- A switch moves its connection and ends, where its plan keeps a recorded resource. -/
theorem switch_changes (context : ProviderContext) (store : ProviderStore)
    (input : SwitchCompletion)
    (hsound : sound → ∀ row snapshot, switchScope input store = some (row, snapshot) →
      input.KeepsResource row) :
    Changes (OperationChange sound) store
      (committed store (store.completeNeonBranchSwitch context input)) := by
  unfold completeNeonBranchSwitch
  split
  · exact Relation.ReflTransGen.refl
  · refine operation_batch_changes (by simp [Gated, switchTables, switchRow]) ?_
    rintro ⟨row, snapshot⟩ after hscope hrun
    obtain ⟨hfind, hid, hstate⟩ := switch_scope_spec hscope
    simp only [run_statements_cons, run_statements_nil] at hrun
    obtain ⟨moved, hmove, between, hswitch, rfl⟩ := hrun
    simp only [switchTables] at hmove
    split at hmove
    · cases hmove
    · next tables _ =>
        cases hmove
        refine Relation.ReflTransGen.tail (one_operation_change
          (.other store store.directory tables store.approvals store.now)) ?_
        simp only [switchRow, ← hid] at hswitch
        exact update_row_change hfind
          (.switched row input hstate fun h => hsound h row snapshot hscope) hswitch

/-- A bootstrap is noted at a success. -/
theorem bootstrap_changes (context : ProviderContext) (store : ProviderStore)
    (input : BootstrapCompletion) :
    Changes (OperationChange sound) store
      (committed store (store.completeProviderOperationBootstrap context input)) := by
  unfold completeProviderOperationBootstrap
  split
  · exact Relation.ReflTransGen.refl
  · have hscope : ∀ row, bootstrapScope input store = some row →
        store.findOperation row.id = some row ∧ row.id = input.operationId ∧
          row.state = .succeeded := by
      intro row hrow
      obtain ⟨hfound, hchecked⟩ := Option.filter_eq_some_iff.mp hrow
      obtain ⟨hfind, hid, -⟩ := identified_spec hfound
      simp only [Bool.and_eq_true, decide_eq_true_eq] at hchecked
      exact ⟨hfind, hid, hchecked.1.1.2⟩
    refine rewrite_changes (fun _ => rfl) (fun row hrow => (hscope row hrow).1) ?_
    intro row after hrow hrun
    obtain ⟨-, hid, hstate⟩ := hscope row hrow
    simp only [bootstrapRow, ← hid] at hrun
    split at hrun
    · exact .inr ⟨_, .bootstrapped row input hstate, hrun⟩
    · cases hrun
      exact .inl rfl

/-- The steps that keep what is recorded of the remote resource. -/
def ProviderStore.Sound (store : ProviderStore) : ProviderEvent → Prop
  | .reconcile input => ∀ row, reconcileScope input store = some row → input.NamesResource row
  | .completeSwitch input => ∀ row snapshot, switchScope input store = some (row, snapshot) →
    input.KeepsResource row
  | _ => True

/-- Every step is a sequence of small changes, which are sound where the step is. -/
theorem step_operation_changes (context : ProviderContext) (store : ProviderStore)
    (event : ProviderEvent) (hsound : sound → store.Sound event) :
    Changes (OperationChange sound) store (providerStep context store event) := by
  cases event with
  | record input => exact record_changes context store input
  | decide input => exact decide_changes context store input
  | claim input => exact claim_changes context store input
  | mark input => exact mark_changes context store input
  | cancelExpired input => exact cancel_expired_changes context store input
  | reconcile input => exact reconcile_changes context store input hsound
  | completeSwitch input => exact switch_changes context store input hsound
  | completeBootstrap input => exact bootstrap_changes context store input
  | change directory tables =>
      exact one_operation_change (.other store directory tables store.approvals store.now)
  | tick milliseconds =>
      exact one_operation_change
        (.other store store.directory store.tables store.approvals (store.now + milliseconds))

end Dopedb.Cloud
