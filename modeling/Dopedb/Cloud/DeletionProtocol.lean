import Dopedb.Cloud.WorkspaceLifecycle

/-!
# The protocol of a workspace deletion

`lifecycle_step_cases` says what an event may do to the rows, with what its batch had checked; the
invariant and the lemmas about runs are derived from it. The main result is `deletion_reversible`,
about the runs whose cancellations find no member's gate claimed.
-/

namespace Dopedb.Cloud

open Library LifecycleStore

/-! ## What an event does -/

/-- The event begins a revocation of a member that had none. -/
def BeginsRevocation (store : LifecycleStore) (event : LifecycleEvent) (memberId : String) : Prop :=
  ∃ claim, event = .claimGate claim ∧ ∃ member ∈ store.members, member.id = memberId ∧
    claim.targets member = true ∧ member.revocationPendingAt = none

/-- The rows after a schedule. -/
def scheduledStore (input : DeletionSchedule) (store : LifecycleStore) : LifecycleStore :=
  (({ store with receipts := store.receipts ++ [scheduledReceipt input] } :
    LifecycleStore).updateOrganization fun organization =>
      { organization with
        profile := pendingProfile input.requestId input.requestedAt
          (input.requestedAt + WORKSPACE_DELETION_RETENTION)
          (organization.profile.revision + 1) }).updateMembers fun member =>
    { member with revocationPendingAt := some input.requestedAt }

/-- A member after a cancellation. -/
def thawed (requestedAt : Nat) (member : WorkspaceMember) : WorkspaceMember :=
  if member.revocationClaimId.isNone && member.revocationPendingAt = some requestedAt then
    { member with revocationPendingAt := none }
  else member

/-- The rows after a cancellation. -/
def cancelledStore (input : DeletionCancel) (requestedAt : Nat) (store : LifecycleStore) :
    LifecycleStore :=
  ((store.updateReceipt input.requestId fun receipt =>
    { receipt with
      status := .cancelled
      cancelledAt := some store.now }).updateOrganization fun organization =>
        { organization with profile := { revision := organization.profile.revision + 1 } }
    ).updateMembers (thawed requestedAt)

/-- The rows after a purge. -/
def purgedStore (receiptId : String) (store : LifecycleStore) : LifecycleStore :=
  { store.updateReceipt receiptId fun receipt =>
      { receipt with
        status := .purged
        purgedAt := some store.now } with
    organization := none }

/-- `member_revocation_claim_consistent`. -/
def ClaimConsistent (member : WorkspaceMember) : Prop :=
  (member.revocationClaimedAt = none ∧ member.revocationClaimId = none) ∨
    (member.revocationClaimedAt ≠ none ∧ member.revocationClaimId ≠ none ∧
      member.revocationPendingAt ≠ none)

/-- What an event may do to the rows. -/
inductive LifecycleChange (store : LifecycleStore) (event : LifecycleEvent) :
    LifecycleStore → Prop where
  | scheduled (input : DeletionSchedule) (organization : Organization)
      (hevent : event = .schedule input)
      (hscope : scheduleScope input store = some organization)
      (hfresh : ∀ receipt ∈ store.receipts, receipt.id ≠ input.requestId)
      (hnone : ∀ receipt ∈ store.receipts, receipt.status ≠ .pending) :
      LifecycleChange store event (scheduledStore input store)
  | cancelled (input : DeletionCancel) (requestedAt : Nat)
      (hscope : cancelScope input store = some requestedAt) :
      LifecycleChange store event (cancelledStore input requestedAt store)
  | purged (receiptId : String) (organization : Organization)
      (hscope : purgeScope receiptId store = some organization) :
      LifecycleChange store event (purgedStore receiptId store)
  | other (after : LifecycleStore) (hreceipts : after.receipts = store.receipts)
      (hprofile : after.organization.map (·.profile) = store.organization.map (·.profile))
      (hmembers : ∀ member' ∈ after.members, member'.revocationPendingAt = none ∨
        ∃ member ∈ store.members, member.id = member'.id ∧
          (member'.revocationPendingAt = member.revocationPendingAt ∨
            BeginsRevocation store event member.id))
      (hconsistent : (∀ member ∈ store.members, ClaimConsistent member) →
        ∀ member' ∈ after.members, ClaimConsistent member') :
      LifecycleChange store event after

/-- Nothing happens. -/
theorem LifecycleChange.same (store : LifecycleStore) (event : LifecycleEvent) :
    LifecycleChange store event store :=
  .other store rfl rfl (fun member hmember => .inr ⟨member, hmember, rfl, .inl rfl⟩) id

/-- The members after each was changed. -/
theorem members_update (store : LifecycleStore) (change : WorkspaceMember → WorkspaceMember) :
    (store.updateMembers change).members = store.members.map change := by
  unfold updateMembers updateOrganization members
  cases store.organization with
  | none => rfl
  | some organization => rfl

/-- Changing each member is a change where each keeps its pending time, loses it, or begins one. -/
theorem LifecycleChange.update (store : LifecycleStore) (event : LifecycleEvent)
    (change : WorkspaceMember → WorkspaceMember)
    (hchange : ∀ member ∈ store.members, (change member).id = member.id ∧
      ((change member).revocationPendingAt = none ∨
        (change member).revocationPendingAt = member.revocationPendingAt ∨
        BeginsRevocation store event member.id) ∧
      (ClaimConsistent member → ClaimConsistent (change member))) :
    LifecycleChange store event (store.updateMembers change) := by
  refine .other _ rfl ?_ ?_ ?_
  · unfold updateMembers updateOrganization
    cases store.organization with
    | none => rfl
    | some organization => rfl
  · intro member' hmember'
    rw [members_update] at hmember'
    obtain ⟨member, hmember, rfl⟩ := List.mem_map.mp hmember'
    obtain ⟨hid, hnone | hkept, _⟩ := hchange member hmember
    · exact .inl hnone
    · exact .inr ⟨member, hmember, hid.symm, hkept⟩
  · intro hconsistent member' hmember'
    rw [members_update] at hmember'
    obtain ⟨member, hmember, rfl⟩ := List.mem_map.mp hmember'
    exact (hchange member hmember).2.2 (hconsistent member hmember)

/-- The statements of a schedule that ran to their end recorded the only pending receipt. -/
theorem schedule_statements {input : DeletionSchedule} {organization : Organization}
    {store after : LifecycleStore}
    (hrun : runStatements [insertReceipt input, markPending input, freezeMembers input]
      (some organization) store = .ok after) :
    scheduledStore input store = after ∧
      (∀ receipt ∈ store.receipts, receipt.id ≠ input.requestId) ∧
      ∀ receipt ∈ store.receipts, receipt.status ≠ .pending := by
  simp only [run_statements_cons, run_statements_nil] at hrun
  obtain ⟨inserted, hinsert, marked, hmark, frozen, hfreeze, hafter⟩ := hrun
  unfold insertReceipt at hinsert
  simp only at hinsert
  split at hinsert
  · cases hinsert
  · next hfresh =>
      split at hinsert
      · cases hinsert
      · next hnone =>
          cases hinsert
          cases hmark
          cases hfreeze
          refine ⟨hafter, ?_, ?_⟩
          · intro receipt hreceipt hid
            exact hfresh (List.any_eq_true.mpr ⟨receipt, hreceipt, by simpa using hid⟩)
          · intro receipt hreceipt hpending
            exact hnone (List.any_eq_true.mpr ⟨receipt, hreceipt, by simpa using hpending⟩)

/-- The statements of a cancellation ran to their end. -/
theorem cancel_statements {input : DeletionCancel} {requestedAt : Nat}
    {store after : LifecycleStore}
    (hrun : runStatements [cancelReceipt input, markActive, thawMembers] (some requestedAt) store =
      .ok after) : cancelledStore input requestedAt store = after := by
  simp only [run_statements_cons, run_statements_nil] at hrun
  obtain ⟨settled, hsettle, marked, hmark, thawed, hthaw, hafter⟩ := hrun
  cases hsettle
  cases hmark
  cases hthaw
  exact hafter

/-- A schedule that was not there before records its receipt, or nothing happens. -/
theorem schedule_change (store : LifecycleStore) (input : DeletionSchedule) :
    LifecycleChange store (.schedule input)
      (committed store (scheduleWorkspaceDeletion input store)) := by
  unfold scheduleWorkspaceDeletion
  split
  · exact .same store _
  · have hbatch : LifecycleChange store (.schedule input) (committed store
        (runBatch (scheduleScope input)
          [insertReceipt input, markPending input, freezeMembers input] store)) := by
      obtain hkept | ⟨organization, hscope, hrun⟩ := @batch_cases _ _ _ (scheduleScope input)
        [insertReceipt input, markPending input, freezeMembers input]
        (by simp [Gated, insertReceipt, markPending, freezeMembers]) store
      · rw [hkept]
        exact .same store _
      · obtain ⟨hafter, hfresh, hnone⟩ := schedule_statements hrun
        rw [← hafter]
        exact .scheduled input organization rfl hscope hfresh hnone
    cases hrun : runBatch (scheduleScope input)
        [insertReceipt input, markPending input, freezeMembers input] store with
    | error abort => exact .same store _
    | ok result =>
        rw [hrun] at hbatch
        exact hbatch

/-- A schedule that is answered so found its workspace and recorded its receipt. -/
theorem schedule_answered {input : DeletionSchedule} {store after : LifecycleStore}
    (hanswer : scheduleWorkspaceDeletion input store = .ok (after, some .scheduled)) :
    ∃ organization, scheduleScope input store = some organization ∧
      scheduledStore input store = after := by
  unfold scheduleWorkspaceDeletion at hanswer
  split at hanswer
  · next existing _ =>
      have hreplayed := congrArg Prod.snd (Except.ok.inj hanswer)
      dsimp only at hreplayed
      split at hreplayed
      · cases hreplayed
      · cases hreplayed
  · cases hrun : runBatch (scheduleScope input)
        [insertReceipt input, markPending input, freezeMembers input] store with
    | error abort =>
        rw [hrun] at hanswer
        cases hanswer
    | ok result =>
        obtain ⟨final, matched⟩ := result
        rw [hrun] at hanswer
        cases matched with
        | none => cases hanswer
        | some organization =>
            cases hanswer
            obtain ⟨hscope, hstatements⟩ := run_batch_matched.mp hrun
            exact ⟨organization, hscope, (schedule_statements hstatements).1⟩

/-- A cancellation settles its receipt, or nothing happens. -/
theorem cancel_change (store : LifecycleStore) (event : LifecycleEvent) (input : DeletionCancel) :
    LifecycleChange store event (committed store (cancelWorkspaceDeletion input store)) := by
  unfold cancelWorkspaceDeletion
  split
  · exact .same store event
  · split
    · exact .same store event
    · exact .same store event
    · have hbatch : LifecycleChange store event (committed store (runBatch (cancelScope input)
          [cancelReceipt input, markActive, thawMembers] store)) := by
        obtain hkept | ⟨requestedAt, hscope, hrun⟩ := @batch_cases _ _ _ (cancelScope input)
          [cancelReceipt input, markActive, thawMembers]
          (by simp [Gated, cancelReceipt, markActive, thawMembers]) store
        · rw [hkept]
          exact .same store event
        · rw [← cancel_statements hrun]
          exact .cancelled input requestedAt hscope
      cases hrun : runBatch (cancelScope input) [cancelReceipt input, markActive, thawMembers]
          store with
      | error abort => exact .same store event
      | ok result =>
          rw [hrun] at hbatch
          exact hbatch

/-- A cancellation that is answered so found the deletion pending and settled its receipt. -/
theorem cancel_answered {input : DeletionCancel} {store after : LifecycleStore}
    (hanswer : cancelWorkspaceDeletion input store = .ok (after, some .cancelled)) :
    ∃ requestedAt, cancelScope input store = some requestedAt ∧
      cancelledStore input requestedAt store = after := by
  unfold cancelWorkspaceDeletion at hanswer
  split at hanswer
  · cases hanswer
  · split at hanswer
    · cases hanswer
    · cases hanswer
    · cases hrun : runBatch (cancelScope input) [cancelReceipt input, markActive, thawMembers]
          store with
      | error abort =>
          rw [hrun] at hanswer
          cases hanswer
      | ok result =>
          obtain ⟨final, matched⟩ := result
          rw [hrun] at hanswer
          cases matched with
          | none => cases hanswer
          | some requestedAt =>
              cases hanswer
              obtain ⟨hscope, hstatements⟩ := run_batch_matched.mp hrun
              exact ⟨requestedAt, hscope, cancel_statements hstatements⟩

/-- A purge deletes the workspace, or nothing happens. -/
theorem purge_change (store : LifecycleStore) (event : LifecycleEvent) (receiptId : String) :
    LifecycleChange store event (committed store (purgeDueWorkspace receiptId store)) := by
  unfold purgeDueWorkspace
  obtain hkept | ⟨organization, hscope, hrun⟩ := @batch_cases _ _ _ (purgeScope receiptId)
    [purgeReceipt receiptId, deleteOrganization]
    (by simp [Gated, purgeReceipt, deleteOrganization]) store
  · rw [hkept]
    exact .same store event
  · simp only [run_statements_cons, run_statements_nil] at hrun
    obtain ⟨settled, hsettle, deleted, hdelete, hafter⟩ := hrun
    rw [← hafter]
    cases hsettle
    cases hdelete
    exact .purged receiptId organization hscope

/-- A claim begins a revocation, or keeps the time of one. -/
theorem claim_gate_change (store : LifecycleStore) (claim : MemberGateClaim) :
    LifecycleChange store (.claimGate claim) (claimRevocationGate claim store) := by
  refine .update store _ _ ?_
  intro member hmember
  split
  · next hclaimed =>
      rw [Bool.and_eq_true] at hclaimed
      refine ⟨rfl, ?_, fun _ => .inr ⟨by simp, by simp, ?_⟩⟩
      · cases hpending : member.revocationPendingAt with
        | none => exact .inr (.inr ⟨claim, rfl, member, hmember, rfl, hclaimed.1, hpending⟩)
        | some pendingAt => exact .inr (.inl rfl)
      · cases member.revocationPendingAt with
        | none => simp
        | some pendingAt => simp
  · exact ⟨rfl, .inr (.inl rfl), id⟩

/-- A change of the members that a claim holds keeps or drops their pending time. -/
theorem held_change (store : LifecycleStore) (event : LifecycleEvent) (claim : MemberGateClaim)
    (change : WorkspaceMember → WorkspaceMember)
    (hchange : ∀ member, claim.holds member = true → (change member).id = member.id ∧
      ((change member).revocationPendingAt = none ∨
        (change member).revocationPendingAt = member.revocationPendingAt) ∧
      ClaimConsistent (change member)) :
    LifecycleChange store event
      (store.updateMembers fun member => if claim.holds member then change member else member) := by
  refine .update store event _ ?_
  intro member _
  split
  · next hholds =>
      obtain ⟨hid, hnone | hkept, hconsistent⟩ := hchange member hholds
      · exact ⟨hid, .inl hnone, fun _ => hconsistent⟩
      · exact ⟨hid, .inr (.inl hkept), fun _ => hconsistent⟩
  · exact ⟨rfl, .inr (.inl rfl), id⟩

/-- A held gate is pending. -/
theorem pending_of_holds (claim : MemberGateClaim) (member : WorkspaceMember)
    (hholds : claim.holds member = true) : member.revocationPendingAt ≠ none := by
  intro hnone
  simp [MemberGateClaim.holds, hnone] at hholds

/-- A change of the workspace that leaves its profile and its members is no other change. -/
theorem organization_change (store : LifecycleStore) (event : LifecycleEvent)
    (change : Organization → Organization)
    (hprofile : ∀ organization, (change organization).profile = organization.profile)
    (hmembers : ∀ organization, ∀ member ∈ (change organization).members,
      member ∈ organization.members ∨ member.revocationPendingAt = none ∧ ClaimConsistent member) :
    LifecycleChange store event (store.updateOrganization change) := by
  have hkept : ∀ member ∈ (store.updateOrganization change).members, member ∈ store.members ∨
      member.revocationPendingAt = none ∧ ClaimConsistent member := by
    intro member hmember
    unfold updateOrganization members at hmember
    unfold members
    cases horganization : store.organization with
    | none =>
        rw [horganization] at hmember
        cases hmember
    | some organization =>
        rw [horganization] at hmember
        exact hmembers organization member hmember
  refine .other _ rfl ?_ ?_ ?_
  · unfold updateOrganization
    cases store.organization with
    | none => rfl
    | some organization => exact congrArg some (hprofile organization)
  · intro member hmember
    obtain hold | ⟨hnone, _⟩ := hkept member hmember
    · exact .inr ⟨member, hold, rfl, .inl rfl⟩
    · exact .inl hnone
  · intro hconsistent member hmember
    obtain hold | ⟨_, hnew⟩ := hkept member hmember
    · exact hconsistent member hold
    · exact hnew

/-- Every event is one of the changes. -/
theorem lifecycle_step_cases (store : LifecycleStore) (event : LifecycleEvent) :
    LifecycleChange store event (lifecycleStep store event) := by
  cases event with
  | schedule input => exact schedule_change store input
  | cancel input => exact cancel_change store _ input
  | cleanup =>
      show LifecycleChange store _ (cleanupWorkspaceRetention store)
      unfold cleanupWorkspaceRetention
      split
      · exact .same store _
      · exact purge_change store _ _
  | purge receiptId => exact purge_change store _ receiptId
  | claimGate claim => exact claim_gate_change store claim
  | releaseGate claim =>
      exact held_change store _ claim _ fun _ _ => ⟨rfl, .inr rfl, .inl ⟨rfl, rfl⟩⟩
  | clearGate claim =>
      exact held_change store _ claim _ fun _ _ => ⟨rfl, .inl rfl, .inl ⟨rfl, rfl⟩⟩
  | renewGate claim next =>
      exact held_change store _ claim _ fun member hholds =>
        ⟨rfl, .inr rfl, .inr ⟨by simp, by simp, pending_of_holds claim member hholds⟩⟩
  | changeRole input =>
      show LifecycleChange store _ (changeWorkspaceMemberRole input store)
      unfold changeWorkspaceMemberRole
      split
      · refine .update store _ _ ?_
        intro member _
        split
        · exact ⟨rfl, .inl rfl, fun _ => .inl ⟨rfl, rfl⟩⟩
        · exact ⟨rfl, .inr (.inl rfl), id⟩
      · exact .same store _
  | join id userId role =>
      refine organization_change store _ _ ?_ ?_
      · intro organization
        split
        · rfl
        · rfl
      · intro organization member hmember
        split at hmember
        · exact .inl hmember
        · obtain hold | hnew := List.mem_append.mp hmember
          · exact .inl hold
          · rw [List.mem_singleton.mp hnew]
            exact .inr ⟨rfl, .inl ⟨rfl, rfl⟩⟩
  | leave memberId =>
      exact organization_change store _ _ (fun _ => rfl) fun _ member hmember =>
        .inl (List.mem_filter.mp hmember).1
  | rename name =>
      exact organization_change store _ _ (fun _ => rfl) fun _ _ hmember => .inl hmember
  | sessions rows =>
      exact .other _ rfl rfl (fun member hmember => .inr ⟨member, hmember, rfl, .inl rfl⟩) id
  | work rows =>
      exact organization_change store _ _ (fun _ => rfl) fun _ _ hmember => .inl hmember
  | tick milliseconds =>
      exact .other _ rfl rfl (fun member hmember => .inr ⟨member, hmember, rfl, .inl rfl⟩) id

/-! ## What the batches had checked -/

/-- A schedule finds the workspace active, every gate free and nothing outstanding. -/
theorem schedule_scope {input : DeletionSchedule} {store : LifecycleStore}
    {organization : Organization} (hscope : scheduleScope input store = some organization) :
    store.organization = some organization ∧
      organization.profile.lifecycleState = .active ∧
      ∀ member ∈ organization.members,
        member.revocationPendingAt = none ∧ member.revocationClaimId = none := by
  unfold scheduleScope at hscope
  rw [Option.filter_eq_some_iff] at hscope
  obtain ⟨horganization, hchecked⟩ := hscope
  simp only [Bool.and_eq_true] at hchecked
  obtain ⟨⟨⟨⟨_, hauthority⟩, _⟩, hgates⟩, _⟩ := hchecked
  refine ⟨horganization, ?_, ?_⟩
  · unfold memberAuthority Directory.workspaceMemberAuthority directory at hauthority
    rw [horganization] at hauthority
    cases hstate : organization.profile.lifecycleState with
    | active => rfl
    | deletionPending => simp [hstate, LifecycleState.text] at hauthority
  · intro member hmember
    have hfree := hgates
    simp only [Bool.not_eq_true', List.any_eq_false, Bool.or_eq_true, not_or,
      Option.isSome_iff_ne_none, ne_eq, not_not] at hfree
    exact hfree member hmember

/-- A cancellation finds the deletion of its receipt pending. -/
theorem cancel_scope {input : DeletionCancel} {store : LifecycleStore} {requestedAt : Nat}
    (hscope : cancelScope input store = some requestedAt) :
    ∃ organization, store.organization = some organization ∧
      organization.profile.deletionRequestedAt = some requestedAt ∧
      organization.profile.deletionReceiptId = some input.requestId ∧
      ∃ receipt ∈ store.receipts, receipt.id = input.requestId ∧ receipt.status = .pending ∧
        store.now < receipt.purgeAfter := by
  unfold cancelScope at hscope
  obtain ⟨organization, horganization, hscope⟩ := Option.bind_eq_some_iff.mp hscope
  rw [Option.filter_eq_some_iff] at hscope
  obtain ⟨hrequested, hchecked⟩ := hscope
  simp only [Bool.and_eq_true, decide_eq_true_eq] at hchecked
  obtain ⟨⟨⟨⟨⟨_, hid⟩, _⟩, hreceipt⟩, _⟩, _⟩ := hchecked
  obtain ⟨receipt, hmem, hchecked⟩ := List.any_eq_true.mp hreceipt
  simp only [Bool.and_eq_true, decide_eq_true_eq] at hchecked
  exact ⟨organization, horganization, hrequested, hid, receipt, hmem, hchecked.1.1, hchecked.1.2,
    hchecked.2⟩

/-- A purge finds the deletion of its receipt due, and nothing outstanding. -/
theorem purge_scope {receiptId : String} {store : LifecycleStore} {organization : Organization}
    (hscope : purgeScope receiptId store = some organization) :
    store.organization = some organization ∧
      organization.profile.deletionReceiptId = some receiptId ∧
      organization.deletionUnblocked = true ∧
      ∃ receipt ∈ store.receipts, receipt.id = receiptId ∧ receipt.status = .pending ∧
        receipt.purgeAfter ≤ store.now := by
  unfold purgeScope at hscope
  rw [Option.filter_eq_some_iff] at hscope
  obtain ⟨horganization, hchecked⟩ := hscope
  simp only [Bool.and_eq_true, decide_eq_true_eq] at hchecked
  obtain ⟨⟨⟨⟨hid, _⟩, _⟩, hreceipt⟩, hunblocked⟩ := hchecked
  obtain ⟨receipt, hmem, hchecked⟩ := List.any_eq_true.mp hreceipt
  simp only [Bool.and_eq_true, decide_eq_true_eq] at hchecked
  exact ⟨horganization, hid, hunblocked, receipt, hmem, hchecked.1.1, hchecked.1.2, hchecked.2⟩

/-! ## The invariant -/

/-- A receipt has the dates of its status. -/
def DeletionReceipt.DatesFit (receipt : DeletionReceipt) : Prop :=
  match receipt.status with
  | .pending => receipt.cancelledAt = none ∧ receipt.purgedAt = none
  | .cancelled => receipt.cancelledAt ≠ none ∧ receipt.purgedAt = none
  | .purged => receipt.cancelledAt = none ∧ receipt.purgedAt ≠ none

/-- What holds of the rows of a workspace at every moment. -/
structure LifecycleInv (store : LifecycleStore) : Prop where
  nodup : (store.receipts.map (·.id)).Nodup
  deadline : ∀ receipt ∈ store.receipts,
    receipt.purgeAfter = receipt.requestedAt + WORKSPACE_DELETION_RETENTION
  dates : ∀ receipt ∈ store.receipts, receipt.DatesFit
  named : ∀ receipt ∈ store.receipts, receipt.status = .pending →
    ∃ revision, store.organization.map (·.profile) =
      some (pendingProfile receipt.id receipt.requestedAt receipt.purgeAfter revision)
  active : ∀ organization, store.organization = some organization →
    organization.profile.lifecycleState = .active →
      organization.profile = { revision := organization.profile.revision }
  consistent : ∀ member ∈ store.members, ClaimConsistent member

/-- The profile after each member was changed. -/
theorem profile_update_members (store : LifecycleStore)
    (change : WorkspaceMember → WorkspaceMember) :
    (store.updateMembers change).organization.map (·.profile) =
      store.organization.map (·.profile) := by
  unfold updateMembers updateOrganization
  cases store.organization with
  | none => rfl
  | some organization => rfl

/-- Settling a receipt keeps the ids. -/
theorem receipt_ids_update (store : LifecycleStore) (id : String)
    (change : DeletionReceipt → DeletionReceipt) (hid : ∀ receipt, (change receipt).id = receipt.id) :
    (store.updateReceipt id change).receipts.map (·.id) = store.receipts.map (·.id) := by
  unfold updateReceipt
  rw [List.map_map]
  refine List.map_congr_left ?_
  intro receipt _
  show (if receipt.id = id then change receipt else receipt).id = receipt.id
  split
  · exact hid receipt
  · rfl

/-- The only pending receipt is the one that the profile names. -/
theorem LifecycleInv.pending_id {store : LifecycleStore} (inv : LifecycleInv store)
    {organization : Organization} (horganization : store.organization = some organization)
    {id : String} (hid : organization.profile.deletionReceiptId = some id)
    {receipt : DeletionReceipt} (hmem : receipt ∈ store.receipts)
    (hpending : receipt.status = .pending) : receipt.id = id := by
  obtain ⟨revision, hprofile⟩ := inv.named receipt hmem hpending
  rw [horganization] at hprofile
  have hpendingProfile : organization.profile =
      pendingProfile receipt.id receipt.requestedAt receipt.purgeAfter revision :=
    Option.some.inj hprofile
  rw [hpendingProfile] at hid
  exact Option.some.inj hid

/-- Settling the receipt that the profile names leaves none pending. -/
theorem LifecycleInv.settled {store : LifecycleStore} (inv : LifecycleInv store)
    {organization : Organization} (horganization : store.organization = some organization)
    {id : String} (hid : organization.profile.deletionReceiptId = some id)
    (change : DeletionReceipt → DeletionReceipt)
    (hsettles : ∀ receipt, (change receipt).status ≠ .pending) :
    ∀ receipt ∈ (store.updateReceipt id change).receipts, receipt.status ≠ .pending := by
  intro receipt hmem
  unfold updateReceipt at hmem
  obtain ⟨earlier, hearlier, rfl⟩ := List.mem_map.mp hmem
  split
  · exact hsettles earlier
  · next hother =>
      intro hpending
      exact hother (inv.pending_id horganization hid hearlier hpending)

/-- The members of a workspace after each was changed and a receipt was settled. -/
theorem members_consistent {store : LifecycleStore} (inv : LifecycleInv store)
    (change : WorkspaceMember → WorkspaceMember)
    (hchange : ∀ member, ClaimConsistent member → ClaimConsistent (change member)) :
    ∀ member ∈ store.members.map change, ClaimConsistent member := by
  intro member' hmember'
  obtain ⟨member, hmember, rfl⟩ := List.mem_map.mp hmember'
  exact hchange member (inv.consistent member hmember)

/-- A member that thaws has no claim. -/
theorem thawed_consistent (requestedAt : Nat) (member : WorkspaceMember)
    (hconsistent : ClaimConsistent member) : ClaimConsistent (thawed requestedAt member) := by
  unfold thawed
  split
  · next hfrozen =>
      rw [Bool.and_eq_true] at hfrozen
      have hunclaimed : member.revocationClaimId = none := Option.isNone_iff_eq_none.mp hfrozen.1
      obtain ⟨hclaimedAt, _⟩ | ⟨_, hclaimed, _⟩ := hconsistent
      · exact .inl ⟨hclaimedAt, hunclaimed⟩
      · exact absurd hunclaimed hclaimed
  · exact hconsistent

/-- The members do not depend on the profile and the receipts. -/
theorem members_profile (store : LifecycleStore) (receipts : List DeletionReceipt)
    (profile : Organization → WorkspaceProfile) :
    (({ store with receipts } : LifecycleStore).updateOrganization fun organization =>
      { organization with profile := profile organization }).members = store.members := by
  unfold updateOrganization members
  cases store.organization with
  | none => rfl
  | some organization => rfl

/-- A schedule keeps the invariant. -/
theorem LifecycleInv.scheduled {store : LifecycleStore} (inv : LifecycleInv store)
    {input : DeletionSchedule} {organization : Organization}
    (hscope : scheduleScope input store = some organization)
    (hfresh : ∀ receipt ∈ store.receipts, receipt.id ≠ input.requestId)
    (hnone : ∀ receipt ∈ store.receipts, receipt.status ≠ .pending) :
    LifecycleInv (scheduledStore input store) := by
  obtain ⟨horganization, _, _⟩ := schedule_scope hscope
  have hreceipts : (scheduledStore input store).receipts =
      store.receipts ++ [scheduledReceipt input] := rfl
  have hprofile : (scheduledStore input store).organization.map (·.profile) =
      some (pendingProfile input.requestId input.requestedAt
        (input.requestedAt + WORKSPACE_DELETION_RETENTION) (organization.profile.revision + 1)) := by
    unfold scheduledStore
    rw [profile_update_members]
    unfold updateOrganization
    rw [horganization]
    rfl
  exact {
    nodup := by
      rw [hreceipts, List.map_append]
      refine List.nodup_append.mpr ⟨inv.nodup, List.nodup_singleton _, ?_⟩
      intro id hid other hother hsame
      obtain ⟨receipt, hmem, rfl⟩ := List.mem_map.mp hid
      rw [List.map_singleton, List.mem_singleton] at hother
      exact hfresh receipt hmem (hsame.trans hother)
    deadline := by
      intro receipt hmem
      obtain hold | hnew := List.mem_append.mp (hreceipts ▸ hmem)
      · exact inv.deadline receipt hold
      · rw [List.mem_singleton.mp hnew]
        rfl
    dates := by
      intro receipt hmem
      obtain hold | hnew := List.mem_append.mp (hreceipts ▸ hmem)
      · exact inv.dates receipt hold
      · rw [List.mem_singleton.mp hnew]
        exact ⟨rfl, rfl⟩
    named := by
      intro receipt hmem hpending
      obtain hold | hnew := List.mem_append.mp (hreceipts ▸ hmem)
      · exact absurd hpending (hnone receipt hold)
      · rw [List.mem_singleton.mp hnew]
        exact ⟨_, hprofile⟩
    active := by
      intro after hafter hactive
      rw [hafter] at hprofile
      have hpending : after.profile = _ := Option.some.inj hprofile
      rw [hpending] at hactive
      cases hactive
    consistent := by
      unfold scheduledStore
      rw [members_update, members_profile store _ _]
      refine members_consistent inv _ ?_
      intro member hconsistent
      obtain hunclaimed | ⟨hclaimedAt, hclaimed, _⟩ := hconsistent
      · exact .inl hunclaimed
      · exact .inr ⟨hclaimedAt, hclaimed, by simp⟩ }

/-- Settling a pending receipt keeps what the invariant says about the receipts alone. -/
theorem LifecycleInv.receipts_update {store : LifecycleStore} (inv : LifecycleInv store)
    (id : String) (change : DeletionReceipt → DeletionReceipt)
    (hkept : ∀ receipt, (change receipt).id = receipt.id ∧
      (change receipt).requestedAt = receipt.requestedAt ∧
      (change receipt).purgeAfter = receipt.purgeAfter)
    (hdates : ∀ receipt ∈ store.receipts, receipt.id = id → (change receipt).DatesFit) :
    ((store.updateReceipt id change).receipts.map (·.id)).Nodup ∧
      (∀ receipt ∈ (store.updateReceipt id change).receipts,
        receipt.purgeAfter = receipt.requestedAt + WORKSPACE_DELETION_RETENTION) ∧
      ∀ receipt ∈ (store.updateReceipt id change).receipts, receipt.DatesFit := by
  refine ⟨?_, ?_, ?_⟩
  · rw [receipt_ids_update store id change fun receipt => (hkept receipt).1]
    exact inv.nodup
  · intro receipt hmem
    obtain ⟨earlier, hearlier, rfl⟩ := List.mem_map.mp hmem
    split
    · rw [(hkept earlier).2.1, (hkept earlier).2.2]
      exact inv.deadline earlier hearlier
    · exact inv.deadline earlier hearlier
  · intro receipt hmem
    obtain ⟨earlier, hearlier, rfl⟩ := List.mem_map.mp hmem
    split
    · next hid => exact hdates earlier hearlier hid
    · exact inv.dates earlier hearlier

/-- A receipt that has the id of a pending one is that one. -/
theorem LifecycleInv.pending_of_id {store : LifecycleStore} (inv : LifecycleInv store)
    {pending : DeletionReceipt} (hpending : pending ∈ store.receipts)
    {receipt : DeletionReceipt} (hmem : receipt ∈ store.receipts) (hid : receipt.id = pending.id) :
    receipt = pending :=
  List.inj_on_of_nodup_map inv.nodup hmem hpending hid

/-- A cancellation keeps the invariant. -/
theorem LifecycleInv.cancelled {store : LifecycleStore} (inv : LifecycleInv store)
    {input : DeletionCancel} {requestedAt : Nat}
    (hscope : cancelScope input store = some requestedAt) :
    LifecycleInv (cancelledStore input requestedAt store) := by
  obtain ⟨organization, horganization, _, hid, pending, hmem, hpendingId, hpending, _⟩ :=
    cancel_scope hscope
  -- the receipt that the workspace names is its only pending one
  have hsettled := inv.settled horganization hid
    (fun receipt => { receipt with
      status := .cancelled
      cancelledAt := some store.now }) (fun _ => by simp)
  obtain ⟨hnodup, hdeadline, hdates⟩ := inv.receipts_update input.requestId
    (fun receipt => { receipt with
      status := .cancelled
      cancelledAt := some store.now }) (fun _ => ⟨rfl, rfl, rfl⟩) (by
      intro receipt hreceipt hreceiptId
      have hsame := inv.pending_of_id hmem hreceipt (hreceiptId.trans hpendingId.symm)
      have hfit := inv.dates pending hmem
      unfold DeletionReceipt.DatesFit at hfit
      rw [hpending] at hfit
      rw [hsame]
      exact ⟨by simp, hfit.2⟩)
  exact {
    nodup := hnodup
    deadline := hdeadline
    dates := hdates
    named := fun receipt hreceipt hstill => absurd hstill (hsettled receipt hreceipt)
    active := by
      intro after hafter _
      have hprofile : (cancelledStore input requestedAt store).organization.map (·.profile) =
          some { revision := organization.profile.revision + 1 } := by
        unfold cancelledStore
        rw [profile_update_members]
        unfold updateOrganization updateReceipt
        rw [horganization]
        rfl
      rw [hafter] at hprofile
      have hactive : after.profile = { revision := organization.profile.revision + 1 } :=
        Option.some.inj hprofile
      rw [hactive]
    consistent := by
      unfold cancelledStore
      rw [members_update]
      exact (members_profile store _ _).symm ▸ members_consistent inv _
        (thawed_consistent requestedAt) }

/-- A purge keeps the invariant. -/
theorem LifecycleInv.purged {store : LifecycleStore} (inv : LifecycleInv store)
    {receiptId : String} {organization : Organization}
    (hscope : purgeScope receiptId store = some organization) :
    LifecycleInv (purgedStore receiptId store) := by
  obtain ⟨horganization, hid, _, pending, hmem, hpendingId, hpending, _⟩ := purge_scope hscope
  have hsettled := inv.settled horganization hid
    (fun receipt => { receipt with
      status := .purged
      purgedAt := some store.now }) (fun _ => by simp)
  obtain ⟨hnodup, hdeadline, hdates⟩ := inv.receipts_update receiptId
    (fun receipt => { receipt with
      status := .purged
      purgedAt := some store.now }) (fun _ => ⟨rfl, rfl, rfl⟩) (by
      intro receipt hreceipt hreceiptId
      have hsame := inv.pending_of_id hmem hreceipt (hreceiptId.trans hpendingId.symm)
      have hfit := inv.dates pending hmem
      unfold DeletionReceipt.DatesFit at hfit
      rw [hpending] at hfit
      rw [hsame]
      exact ⟨hfit.1, by simp⟩)
  exact {
    nodup := hnodup
    deadline := hdeadline
    dates := hdates
    named := fun receipt hreceipt hstill => absurd hstill (hsettled receipt hreceipt)
    active := fun after hafter => by cases hafter
    consistent := fun member hmember => by cases hmember }

/-- Every change keeps the invariant. -/
theorem LifecycleInv.change {store after : LifecycleStore} {event : LifecycleEvent}
    (inv : LifecycleInv store) (hchange : LifecycleChange store event after) :
    LifecycleInv after := by
  cases hchange with
  | scheduled input organization _ hscope hfresh hnone => exact inv.scheduled hscope hfresh hnone
  | cancelled input requestedAt hscope => exact inv.cancelled hscope
  | purged receiptId organization hscope => exact inv.purged hscope
  | other _ hreceipts hprofile hmembers hconsistent =>
      exact {
        nodup := hreceipts ▸ inv.nodup
        deadline := hreceipts ▸ inv.deadline
        dates := hreceipts ▸ inv.dates
        named := by
          intro receipt hmem
          rw [hprofile]
          exact inv.named receipt (hreceipts ▸ hmem)
        active := by
          intro organization horganization hactive
          rw [horganization] at hprofile
          obtain ⟨earlier, hearlier, hsame⟩ := Option.map_eq_some_iff.mp hprofile.symm
          have hkept : earlier.profile = organization.profile := hsame
          rw [← hkept] at hactive ⊢
          exact inv.active earlier hearlier hactive
        consistent := hconsistent inv.consistent }

/-- Every event keeps the invariant. -/
theorem LifecycleInv.step {store : LifecycleStore} (inv : LifecycleInv store)
    (event : LifecycleEvent) : LifecycleInv (lifecycleStep store event) :=
  inv.change (lifecycle_step_cases store event)

/-- Every run keeps the invariant. -/
theorem LifecycleInv.run {store : LifecycleStore} (inv : LifecycleInv store)
    (events : List LifecycleEvent) : LifecycleInv (run lifecycleStep store events) :=
  run_invariant inv (fun _ event hinv => hinv.step event) events

/-! ## Receipts over a run -/

/-- Every receipt is kept with its time, and one that has ended is kept as it is. -/
def ReceiptsKept (store after : LifecycleStore) : Prop :=
  ∀ receipt ∈ store.receipts, ∃ receipt' ∈ after.receipts, receipt'.id = receipt.id ∧
    receipt'.requestedAt = receipt.requestedAt ∧ (receipt.status ≠ .pending → receipt' = receipt)

/-- Receipts that are kept twice are kept. -/
theorem ReceiptsKept.trans {first second third : LifecycleStore}
    (hfirst : ReceiptsKept first second) (hsecond : ReceiptsKept second third) :
    ReceiptsKept first third := by
  intro receipt hmem
  obtain ⟨next, hnext, hid, hrequested, hended⟩ := hfirst receipt hmem
  obtain ⟨last, hlast, hlastId, hlastRequested, hlastEnded⟩ := hsecond next hnext
  refine ⟨last, hlast, hlastId.trans hid, hlastRequested.trans hrequested, ?_⟩
  intro hstatus
  have hsame := hended hstatus
  rw [← hsame] at hstatus
  exact (hlastEnded hstatus).trans hsame

/-- Settling a pending receipt keeps the receipts. -/
theorem LifecycleInv.settle_kept {store : LifecycleStore} (inv : LifecycleInv store)
    {pending : DeletionReceipt} (hmem : pending ∈ store.receipts)
    (hpending : pending.status = .pending) (change : DeletionReceipt → DeletionReceipt)
    (hkept : ∀ receipt, (change receipt).id = receipt.id ∧
      (change receipt).requestedAt = receipt.requestedAt) :
    ReceiptsKept store (store.updateReceipt pending.id change) := by
  intro receipt hreceipt
  refine ⟨_, List.mem_map.mpr ⟨receipt, hreceipt, rfl⟩, ?_⟩
  split
  · next hid =>
      refine ⟨(hkept receipt).1, (hkept receipt).2, ?_⟩
      intro hended
      rw [inv.pending_of_id hmem hreceipt hid] at hended
      exact absurd hpending hended
  · exact ⟨rfl, rfl, fun _ => rfl⟩

/-- Every change keeps the receipts. -/
theorem LifecycleInv.change_receipts {store after : LifecycleStore} {event : LifecycleEvent}
    (inv : LifecycleInv store) (hchange : LifecycleChange store event after) :
    ReceiptsKept store after := by
  cases hchange with
  | scheduled input organization hevent hscope hfresh hnone =>
      exact fun receipt hmem => ⟨receipt, List.mem_append_left _ hmem, rfl, rfl, fun _ => rfl⟩
  | cancelled input requestedAt hscope =>
      obtain ⟨_, _, _, _, pending, hmem, hid, hpending, _⟩ := cancel_scope hscope
      have hkept := inv.settle_kept hmem hpending (fun receipt => { receipt with
        status := .cancelled
        cancelledAt := some store.now }) fun _ => ⟨rfl, rfl⟩
      rw [hid] at hkept
      exact hkept
  | purged receiptId organization hscope =>
      obtain ⟨_, _, _, pending, hmem, hid, hpending, _⟩ := purge_scope hscope
      have hkept := inv.settle_kept hmem hpending (fun receipt => { receipt with
        status := .purged
        purgedAt := some store.now }) fun _ => ⟨rfl, rfl⟩
      rw [hid] at hkept
      exact hkept
  | other _ hreceipts hprofile hmembers hconsistent =>
      exact fun receipt hmem => ⟨receipt, hreceipts ▸ hmem, rfl, rfl, fun _ => rfl⟩

/-- Every run keeps the receipts. -/
theorem LifecycleInv.run_receipts {store : LifecycleStore} (inv : LifecycleInv store)
    (events : List LifecycleEvent) : ReceiptsKept store (Library.run lifecycleStep store events) :=
  run_relation (P := LifecycleInv) (R := ReceiptsKept) inv (fun _ event hinv => hinv.step event)
    (fun _ receipt hmem => ⟨receipt, hmem, rfl, rfl, fun _ => rfl⟩) ReceiptsKept.trans
    (fun s event hinv => hinv.change_receipts (lifecycle_step_cases s event)) events

/-- A change adds only the receipt of its schedule. -/
theorem LifecycleChange.new_receipt {store after : LifecycleStore} {event : LifecycleEvent}
    (hchange : LifecycleChange store event after) :
    ∀ receipt' ∈ after.receipts,
      (∃ receipt ∈ store.receipts, receipt.id = receipt'.id ∧
        receipt.requestedAt = receipt'.requestedAt) ∨
      ∃ input, event = .schedule input ∧ input.requestId = receipt'.id ∧
        input.requestedAt = receipt'.requestedAt := by
  intro receipt' hmem
  cases hchange with
  | scheduled input organization hevent hscope hfresh hnone =>
      obtain hold | hnew := List.mem_append.mp hmem
      · exact .inl ⟨receipt', hold, rfl, rfl⟩
      · rw [List.mem_singleton.mp hnew]
        exact .inr ⟨input, hevent, rfl, rfl⟩
  | cancelled input requestedAt hscope =>
      obtain ⟨receipt, hreceipt, rfl⟩ := List.mem_map.mp hmem
      refine .inl ⟨receipt, hreceipt, ?_⟩
      split
      · exact ⟨rfl, rfl⟩
      · exact ⟨rfl, rfl⟩
  | purged receiptId organization hscope =>
      obtain ⟨receipt, hreceipt, rfl⟩ := List.mem_map.mp hmem
      refine .inl ⟨receipt, hreceipt, ?_⟩
      split
      · exact ⟨rfl, rfl⟩
      · exact ⟨rfl, rfl⟩
  | other _ hreceipts hprofile hmembers hconsistent =>
      exact .inl ⟨receipt', hreceipts ▸ hmem, rfl, rfl⟩

/-- Every receipt of a run has the time of a schedule of the run. -/
theorem receipts_scheduled {start : LifecycleStore} (hstart : start.receipts = [])
    (events : List LifecycleEvent) :
    ∀ receipt ∈ (run lifecycleStep start events).receipts, ∃ input, .schedule input ∈ events ∧
      input.requestId = receipt.id ∧ input.requestedAt = receipt.requestedAt := by
  induction events using List.reverseRecOn with
  | nil =>
      intro receipt hmem
      rw [run_nil, hstart] at hmem
      cases hmem
  | append_singleton events event ih =>
      intro receipt hmem
      rw [run_append] at hmem
      obtain ⟨earlier, hearlier, hid, hrequested⟩ | ⟨input, hevent, hid, hrequested⟩ :=
        (lifecycle_step_cases _ event).new_receipt receipt hmem
      · obtain ⟨input, hinput, hinputId, hinputRequested⟩ := ih earlier hearlier
        exact ⟨input, List.mem_append_left _ hinput, hinputId.trans hid,
          hinputRequested.trans hrequested⟩
      · exact ⟨input, hevent ▸ List.mem_append_right _ (List.mem_singleton.mpr rfl), hid,
          hrequested⟩

/-! ## A frozen member -/

/-- While the deletion of a receipt is pending, the members with an id are frozen by it or free. -/
def FrozenMember (requestId memberId : String) (requestedAt : Nat) (store : LifecycleStore) : Prop :=
  ∃ receipt ∈ store.receipts, receipt.id = requestId ∧ receipt.requestedAt = requestedAt ∧
    (receipt.status = .pending → ∀ member ∈ store.members, member.id = memberId →
      member.revocationPendingAt = none ∨ member.revocationPendingAt = some requestedAt)

/-- A schedule freezes every member. -/
theorem schedule_frozen {store : LifecycleStore} {input : DeletionSchedule} (memberId : String) :
    FrozenMember input.requestId memberId input.requestedAt (scheduledStore input store) := by
  refine ⟨scheduledReceipt input, List.mem_append_right _ (List.mem_singleton.mpr rfl), rfl, rfl, ?_⟩
  intro _ member hmember _
  unfold scheduledStore at hmember
  rw [members_update] at hmember
  obtain ⟨earlier, _, rfl⟩ := List.mem_map.mp hmember
  exact .inr rfl

/-- A frozen member stays frozen or free until a revocation of it begins. -/
theorem FrozenMember.change {requestId memberId : String} {requestedAt : Nat}
    {store after : LifecycleStore} {event : LifecycleEvent} (inv : LifecycleInv store)
    (hfrozen : FrozenMember requestId memberId requestedAt store)
    (hchange : LifecycleChange store event after)
    (hbegins : ¬BeginsRevocation store event memberId) :
    FrozenMember requestId memberId requestedAt after := by
  have hinv := inv.change hchange
  obtain ⟨receipt, hmem, hid, hrequested, hmembers⟩ := hfrozen
  obtain ⟨kept, hkept, hkeptId, hkeptRequested, hended⟩ := inv.change_receipts hchange receipt hmem
  refine ⟨kept, hkept, hkeptId.trans hid, hkeptRequested.trans hrequested, ?_⟩
  intro hpending
  cases hchange with
  | scheduled input organization hevent hscope hfresh hnone =>
      have hsame := hended (hnone receipt hmem)
      rw [hsame] at hpending
      exact absurd hpending (hnone receipt hmem)
  | cancelled input cancelledFrom hscope =>
      obtain ⟨organization, horganization, _, hnamed, _⟩ := cancel_scope hscope
      exact absurd hpending (inv.settled horganization hnamed _ (fun _ => by simp) kept hkept)
  | purged receiptId organization hscope =>
      obtain ⟨horganization, hnamed, _⟩ := purge_scope hscope
      exact absurd hpending (inv.settled horganization hnamed _ (fun _ => by simp) kept hkept)
  | other _ hreceipts hprofile hkeeps hconsistent =>
      have hsame : kept = receipt :=
        inv.pending_of_id hmem (hreceipts ▸ hkept) hkeptId
      rw [hsame] at hpending
      intro member' hmember' hmemberId
      obtain hnone | ⟨member, hmember, hmemberSame, hcases⟩ := hkeeps member' hmember'
      · exact .inl hnone
      · have hearlier := hmemberSame.trans hmemberId
        obtain htime | hnew := hcases
        · rw [htime]
          exact hmembers hpending member hmember hearlier
        · rw [hearlier] at hnew
          exact absurd hnew hbegins

/-- A frozen member stays frozen or free over a run in which no revocation of it begins. -/
theorem FrozenMember.run {requestId memberId : String} {requestedAt : Nat}
    {store : LifecycleStore} (inv : LifecycleInv store)
    (hfrozen : FrozenMember requestId memberId requestedAt store) {events : List LifecycleEvent}
    (hbegins : EachCall lifecycleStep (fun s event => ¬BeginsRevocation s event memberId) store
      events) :
    FrozenMember requestId memberId requestedAt (run lifecycleStep store events) := by
  have hboth : LifecycleInv (Library.run lifecycleStep store events) ∧
      FrozenMember requestId memberId requestedAt (Library.run lifecycleStep store events) := by
    refine run_invariant_of (P := fun s => LifecycleInv s ∧
      FrozenMember requestId memberId requestedAt s) ⟨inv, hfrozen⟩ ?_ hbegins
    intro s event hs hevent
    exact ⟨hs.1.step event, hs.2.change hs.1 (lifecycle_step_cases s event) hevent⟩
  exact hboth.2

/-! ## Laws of a run -/

/-- A workspace whose deletion has not been asked for. -/
structure FreshWorkspace (start : LifecycleStore) : Prop where
  receipts : start.receipts = []
  active : ∃ organization revision, start.organization = some organization ∧
    organization.profile = { revision := revision }
  consistent : ∀ member ∈ start.members, ClaimConsistent member

/-- The invariant holds at first. -/
theorem FreshWorkspace.inv {start : LifecycleStore} (hstart : FreshWorkspace start) :
    LifecycleInv start where
  nodup := by
    rw [hstart.receipts]
    exact List.nodup_nil
  deadline := by
    intro receipt hmem
    rw [hstart.receipts] at hmem
    cases hmem
  dates := by
    intro receipt hmem
    rw [hstart.receipts] at hmem
    cases hmem
  named := by
    intro receipt hmem
    rw [hstart.receipts] at hmem
    cases hmem
  active := by
    intro organization horganization _
    obtain ⟨first, revision, hfirst, hprofile⟩ := hstart.active
    rw [horganization] at hfirst
    cases hfirst
    rw [hprofile]
  consistent := hstart.consistent

/-- No member that a cancellation would thaw has its gate claimed. -/
def Quiet (store : LifecycleStore) (event : LifecycleEvent) : Prop :=
  ∀ input, event = .cancel input → ∀ requestedAt, cancelScope input store = some requestedAt →
    ∀ member ∈ store.members, member.revocationPendingAt = some requestedAt →
      member.revocationClaimId = none

/-- The deletion that the profile names is due, and nothing holds it up. -/
def DueForPurge (store : LifecycleStore) (organization : Organization) : Prop :=
  organization.deletionUnblocked = true ∧
    ∃ receipt ∈ store.receipts, organization.profile.deletionReceiptId = some receipt.id ∧
      receipt.status = .pending ∧ receipt.requestedAt + WORKSPACE_DELETION_RETENTION ≤ store.now

/-- The deletion of the workspace is pending. -/
def DeletionPending (store : LifecycleStore) : Prop :=
  (∃ receipt ∈ store.receipts, receipt.status = .pending) ∨
    ∃ organization, store.organization = some organization ∧
      organization.profile.lifecycleState = .deletionPending

/-- The gate of a member is as it was. -/
def SameGate (before after : WorkspaceMember) : Prop :=
  after.revocationPendingAt = before.revocationPendingAt ∧
    after.revocationClaimedAt = before.revocationClaimedAt ∧
    after.revocationClaimId = before.revocationClaimId

/-- The lifecycle of the workspace is as it was, and so is the gate of every member that is still
there and whose revocation did not begin meanwhile. -/
def Restored (before after : LifecycleStore) (Began : String → Prop) : Prop :=
  ∃ earlier later, before.organization = some earlier ∧ after.organization = some later ∧
    later.profile = { earlier.profile with revision := later.profile.revision } ∧
    ∀ member ∈ earlier.members, ¬Began member.id → ∀ member' ∈ later.members,
      member'.id = member.id → SameGate member member'

/-- What holds of the deletions of a workspace over a run. -/
structure DeletionLaws (start : LifecycleStore) (events : List LifecycleEvent) : Prop where
  purged : ∀ before event rest organization, events = before ++ event :: rest →
    (run lifecycleStep start before).organization = some organization →
    (run lifecycleStep start (before ++ [event])).organization = none →
    DueForPurge (run lifecycleStep start before) organization
  scheduled : ∀ before rest, events = before ++ rest →
    ∀ receipt ∈ (run lifecycleStep start before).receipts, ∃ input, .schedule input ∈ before ∧
      input.requestId = receipt.id ∧ input.requestedAt = receipt.requestedAt
  frozen : ∀ before rest, events = before ++ rest →
    DeletionPending (run lifecycleStep start before) → ∀ authority roles,
      (run lifecycleStep start before).memberAuthority authority roles = none
  restored : ∀ before input between cancel rest scheduled cancelled,
    events = before ++ .schedule input :: (between ++ .cancel cancel :: rest) →
    scheduleWorkspaceDeletion input (run lifecycleStep start before) =
      .ok (scheduled, some .scheduled) →
    cancel.requestId = input.requestId →
    cancelWorkspaceDeletion cancel (run lifecycleStep scheduled between) =
      .ok (cancelled, some .cancelled) →
    Restored (run lifecycleStep start before) cancelled fun memberId =>
      ¬EachCall lifecycleStep (fun store event => ¬BeginsRevocation store event memberId)
        scheduled between
  kept : ∀ before rest, events = before ++ rest →
    ReceiptsKept (run lifecycleStep start before) (run lifecycleStep start events)
  settled : ∀ before rest, events = before ++ rest →
    ∀ receipt ∈ (run lifecycleStep start before).receipts, receipt.DatesFit ∧
      (receipt.status = .pending → ∃ organization,
        (run lifecycleStep start before).organization = some organization ∧
        organization.profile.deletionReceiptId = some receipt.id)
  ended : ∀ before rest organization, events = before ++ rest →
    (run lifecycleStep start before).organization = some organization →
    DueForPurge (run lifecycleStep start before) organization →
    ∃ receipt ∈ (run lifecycleStep start (before ++ [.cleanup])).receipts,
      organization.profile.deletionReceiptId = some receipt.id ∧ receipt.status = .purged

/-! ## The laws hold -/

/-- A change that removes the workspace found its deletion due. -/
theorem LifecycleInv.removed {store after : LifecycleStore} {event : LifecycleEvent}
    (inv : LifecycleInv store) (hchange : LifecycleChange store event after)
    {organization : Organization} (horganization : store.organization = some organization)
    (hremoved : after.organization = none) : DueForPurge store organization := by
  cases hchange with
  | scheduled input matched hevent hscope hfresh hnone =>
      unfold scheduledStore updateMembers updateOrganization at hremoved
      rw [horganization] at hremoved
      cases hremoved
  | cancelled input requestedAt hscope =>
      unfold cancelledStore updateMembers updateOrganization updateReceipt at hremoved
      rw [horganization] at hremoved
      cases hremoved
  | purged receiptId matched hscope =>
      obtain ⟨hmatched, hid, hunblocked, receipt, hmem, hreceiptId, hpending, hdue⟩ :=
        purge_scope hscope
      rw [horganization] at hmatched
      cases hmatched
      rw [inv.deadline receipt hmem] at hdue
      exact ⟨hunblocked, receipt, hmem, hreceiptId ▸ hid, hpending, hdue⟩
  | other _ hreceipts hprofile hmembers hconsistent =>
      rw [horganization, hremoved] at hprofile
      cases hprofile

/-- While a deletion is pending, the profile says so. -/
theorem LifecycleInv.pending_state {store : LifecycleStore} (inv : LifecycleInv store)
    (hpending : DeletionPending store) {organization : Organization}
    (horganization : store.organization = some organization) :
    organization.profile.lifecycleState = .deletionPending := by
  obtain ⟨receipt, hmem, hstatus⟩ | ⟨other, hother, hstate⟩ := hpending
  · obtain ⟨revision, hprofile⟩ := inv.named receipt hmem hstatus
    rw [horganization] at hprofile
    have hpendingProfile : organization.profile =
        pendingProfile receipt.id receipt.requestedAt receipt.purgeAfter revision :=
      Option.some.inj hprofile
    rw [hpendingProfile]
    rfl
  · rw [horganization] at hother
    cases hother
    exact hstate

/-- While a deletion is pending, nobody acts in the workspace. -/
theorem LifecycleInv.no_authority {store : LifecycleStore} (inv : LifecycleInv store)
    (hpending : DeletionPending store) (authority : MemberAuthority) (roles : List String) :
    store.memberAuthority authority roles = none := by
  unfold memberAuthority
  cases horganization : store.organization with
  | none => rfl
  | some organization =>
      have hstate := inv.pending_state hpending horganization
      simp [Directory.workspaceMemberAuthority, directory, hstate, LifecycleState.text]

/-- A free gate is as any other free gate. -/
theorem same_gate {before after : WorkspaceMember} (hbefore : ClaimConsistent before)
    (hafter : ClaimConsistent after) (hbeforeFree : before.revocationPendingAt = none)
    (hafterFree : after.revocationPendingAt = none) : SameGate before after := by
  obtain ⟨hclaimedAt, hclaim⟩ | ⟨_, _, hpending⟩ := hbefore
  · obtain ⟨hafterClaimedAt, hafterClaim⟩ | ⟨_, _, hafterPending⟩ := hafter
    · exact ⟨hafterFree.trans hbeforeFree.symm, hafterClaimedAt.trans hclaimedAt.symm,
        hafterClaim.trans hclaim.symm⟩
    · exact absurd hafterFree hafterPending
  · exact absurd hbeforeFree hpending

/-- A schedule and its cancellation restore the workspace. -/
theorem LifecycleInv.restored {store cancelled : LifecycleStore} (inv : LifecycleInv store)
    {input : DeletionSchedule} {matched : Organization}
    (hscope : scheduleScope input store = some matched)
    (hinv : LifecycleInv (scheduledStore input store))
    {between : List LifecycleEvent} {cancel : DeletionCancel}
    (hid : cancel.requestId = input.requestId)
    (hanswer : cancelWorkspaceDeletion cancel
      (Library.run lifecycleStep (scheduledStore input store) between) =
        .ok (cancelled, some .cancelled))
    (hquiet : Quiet (Library.run lifecycleStep (scheduledStore input store) between)
      (.cancel cancel)) :
    Restored store cancelled fun memberId =>
      ¬EachCall lifecycleStep (fun store event => ¬BeginsRevocation store event memberId)
        (scheduledStore input store) between := by
  obtain ⟨horganization, hactive, hfree⟩ := schedule_scope hscope
  obtain ⟨requestedAt, hcancel, hcancelled⟩ := cancel_answered hanswer
  have hrun := hinv.run between
  generalize hfinal : Library.run lifecycleStep (scheduledStore input store) between = final at *
  have hafter := hrun.cancelled hcancel
  obtain ⟨last, hlast, hrequested, hnamed, pending, hmem, hpendingId, hpending, _⟩ :=
    cancel_scope hcancel
  have hprofile := inv.active matched horganization hactive
  rw [hcancelled] at hafter
  have hlater : cancelled.organization = some { last with
      profile := { revision := last.profile.revision + 1 }
      members := last.members.map (thawed requestedAt) } := by
    rw [← hcancelled]
    unfold cancelledStore updateMembers updateOrganization updateReceipt
    rw [hlast]
    rfl
  refine ⟨matched, _, horganization, hlater, by rw [hprofile], ?_⟩
  intro member hmember hbegan member' hmember' hsame
  rw [not_not] at hbegan
  have hfrozen := FrozenMember.run hinv (schedule_frozen member.id) hbegan
  rw [hfinal] at hfrozen
  obtain ⟨receipt, hreceipt, hreceiptId, hreceiptTime, hmembers⟩ := hfrozen
  have hreceiptSame : receipt = pending :=
    hrun.pending_of_id hmem hreceipt (hreceiptId.trans (hid.symm.trans hpendingId.symm))
  rw [hreceiptSame] at hreceiptTime hmembers
  -- the time of the profile is the time of the receipt
  have htime : requestedAt = input.requestedAt := by
    obtain ⟨revision, hpendingProfile⟩ := hrun.named pending hmem hpending
    rw [hlast] at hpendingProfile
    have hlastProfile : last.profile = pendingProfile pending.id pending.requestedAt
        pending.purgeAfter revision := Option.some.inj hpendingProfile
    rw [hlastProfile] at hrequested
    exact (Option.some.inj hrequested).symm.trans hreceiptTime
  have hbefore : ClaimConsistent member := by
    refine inv.consistent member ?_
    unfold members
    rw [horganization]
    exact hmember
  have hconsistent : ClaimConsistent member' := by
    refine hafter.consistent member' ?_
    unfold members
    rw [hlater]
    exact hmember'
  obtain ⟨earlier, hearlier, rfl⟩ := List.mem_map.mp hmember'
  have hearlierMember : earlier ∈ final.members := by
    unfold members
    rw [hlast]
    exact hearlier
  have hearlierId : earlier.id = member.id := by
    rw [← hsame]
    unfold thawed
    split
    · rfl
    · rfl
  refine same_gate hbefore hconsistent (hfree member hmember).1 ?_
  obtain hnone | hfrozenAt := hmembers hpending earlier hearlierMember hearlierId
  · unfold thawed
    split
    · rfl
    · exact hnone
  · rw [← htime] at hfrozenAt
    have hunclaimed := hquiet cancel rfl requestedAt hcancel earlier hearlierMember hfrozenAt
    unfold thawed
    rw [if_pos (by simp [hunclaimed, hfrozenAt])]

/-- A clean-up purges a workspace whose deletion is due and that nothing holds up. -/
theorem LifecycleInv.cleanup_purges {store : LifecycleStore} (inv : LifecycleInv store)
    {organization : Organization} (horganization : store.organization = some organization)
    (hdue : DueForPurge store organization) :
    ∃ receipt ∈ (lifecycleStep store .cleanup).receipts,
      organization.profile.deletionReceiptId = some receipt.id ∧ receipt.status = .purged := by
  obtain ⟨hunblocked, receipt, hmem, hnamed, hpending, htime⟩ := hdue
  obtain ⟨revision, hprofile⟩ := inv.named receipt hmem hpending
  rw [horganization] at hprofile
  have hpendingProfile : organization.profile = pendingProfile receipt.id receipt.requestedAt
      receipt.purgeAfter revision := Option.some.inj hprofile
  have hdeadline : receipt.purgeAfter ≤ store.now := by
    rw [inv.deadline receipt hmem]
    exact htime
  have hreceipt : (store.receipts.any fun other => other.id = receipt.id &&
      other.status = .pending && decide (other.purgeAfter ≤ store.now)) = true :=
    List.any_eq_true.mpr ⟨receipt, hmem, by simp [hpending, hdeadline]⟩
  -- the clean-up finds the receipt, and the purge of it is admitted
  have hfound : dueReceipt store = some receipt.id := by
    unfold dueReceipt
    rw [horganization, Option.bind_some, Option.filter_eq_some_iff]
    refine ⟨hnamed, ?_⟩
    rw [hreceipt, hpendingProfile]
    simp [pendingProfile, hdeadline]
  have hscope : purgeScope receipt.id store = some organization := by
    unfold purgeScope
    rw [horganization, Option.filter_eq_some_iff]
    refine ⟨rfl, ?_⟩
    rw [hreceipt, hunblocked, hpendingProfile]
    simp [pendingProfile, hdeadline]
  have hbatch : purgeDueWorkspace receipt.id store =
      .ok (purgedStore receipt.id store, some organization) := by
    unfold purgeDueWorkspace
    rw [run_batch_matched]
    refine ⟨hscope, ?_⟩
    simp only [run_statements_cons, run_statements_nil]
    exact ⟨_, rfl, _, rfl, rfl⟩
  have hstep : lifecycleStep store .cleanup = purgedStore receipt.id store := by
    show cleanupWorkspaceRetention store = _
    unfold cleanupWorkspaceRetention
    rw [hfound]
    simp only [hbatch, committed]
  rw [hstep]
  refine ⟨_, List.mem_map.mpr ⟨receipt, hmem, rfl⟩, ?_⟩
  rw [if_pos rfl]
  exact ⟨hnamed, rfl⟩

/-- In every run whose cancellations find no frozen member with its gate claimed, a deletion is
reversible until its deadline and final after it. -/
theorem deletion_reversible (start : LifecycleStore) (events : List LifecycleEvent)
    (hstart : FreshWorkspace start) (hquiet : EachCall lifecycleStep Quiet start events) :
    DeletionLaws start events where
  purged := by
    intro before event rest organization hevents horganization hremoved
    rw [run_append] at hremoved
    exact (hstart.inv.run before).removed (lifecycle_step_cases _ event) horganization hremoved
  scheduled := fun before _ _ => receipts_scheduled hstart.receipts before
  frozen := fun before _ _ hpending authority roles =>
    (hstart.inv.run before).no_authority hpending authority roles
  restored := by
    intro before input between cancel rest scheduled cancelled hevents hschedule hid hcancel
    obtain ⟨organization, hscope, rfl⟩ := schedule_answered hschedule
    have hstep : lifecycleStep (run lifecycleStep start before) (.schedule input) =
        scheduledStore input (run lifecycleStep start before) := by
      show committed _ (scheduleWorkspaceDeletion input _) = _
      rw [hschedule]
      rfl
    have hinv := (hstart.inv.run before).step (.schedule input)
    -- the run that follows the schedule is quiet from the state that the schedule leaves
    rw [hevents] at hquiet
    have hafter := (each_call_of_append hquiet).2.2
    rw [hstep] at hinv hafter
    exact (hstart.inv.run before).restored hscope hinv hid hcancel (each_call_of_append hafter).2.1
  kept := by
    intro before rest hevents
    rw [hevents, run_append]
    exact (hstart.inv.run before).run_receipts rest
  settled := by
    intro before _ _ receipt hmem
    have hinv := hstart.inv.run before
    refine ⟨hinv.dates receipt hmem, ?_⟩
    intro hpending
    obtain ⟨revision, hprofile⟩ := hinv.named receipt hmem hpending
    obtain ⟨organization, horganization, hsame⟩ := Option.map_eq_some_iff.mp hprofile
    have hnamed : organization.profile = pendingProfile receipt.id receipt.requestedAt
        receipt.purgeAfter revision := hsame
    refine ⟨organization, horganization, ?_⟩
    rw [hnamed]
    rfl
  ended := by
    intro before _ organization _ horganization hdue
    rw [run_append]
    exact (hstart.inv.run before).cleanup_purges horganization hdue

/-- Without a claimed gate, a cancellation may commit. -/
theorem quiet_of_unclaimed {store : LifecycleStore} {event : LifecycleEvent}
    (h : ∀ member ∈ store.members, member.revocationClaimId = none) : Quiet store event :=
  fun _ _ _ _ member hmember _ => h member hmember

/-! ## A workspace of two members -/

/-- A workspace with its owner and one editor. -/
def ownedWorkspace : LifecycleStore where
  organization := some {
    name := "acme"
    members := [
      { id := "membership-1"
        userId := "user-1"
        role := "owner" },
      { id := "membership-2"
        userId := "user-2"
        role := "editor" }] }
  sessions := [{
    id := "session-1"
    userId := "user-1"
    expiresAt := 1000000 }]
  now := 1000

/-- The owner schedules the deletion. -/
def ownedSchedule : DeletionSchedule where
  sessionId := "session-1"
  userId := "user-1"
  membershipId := "membership-1"
  requestId := "request-1"
  confirmation := "acme"
  requestedAt := 1000

/-- The owner cancels the deletion. -/
def ownedCancel : DeletionCancel where
  sessionId := "session-1"
  userId := "user-1"
  membershipId := "membership-1"
  requestId := "request-1"

/-- The workspace is fresh. -/
theorem owned_workspace_fresh : FreshWorkspace ownedWorkspace where
  receipts := rfl
  active := ⟨_, 1, rfl, rfl⟩
  consistent := by
    intro member hmember
    obtain rfl | hother := List.mem_cons.mp hmember
    · exact .inl ⟨rfl, rfl⟩
    · rw [List.mem_singleton.mp hother]
      exact .inl ⟨rfl, rfl⟩

/-- A deletion that is scheduled and cancelled, and the workspace that it leaves. -/
theorem owned_deletion_reversible :
    DeletionLaws ownedWorkspace [.schedule ownedSchedule, .tick 500, .cancel ownedCancel] ∧
      (run lifecycleStep ownedWorkspace
        [.schedule ownedSchedule, .tick 500, .cancel ownedCancel]).members =
        ownedWorkspace.members := by
  refine ⟨deletion_reversible _ _ owned_workspace_fresh ⟨?_, ?_, ?_, trivial⟩, ?_⟩
  · exact quiet_of_unclaimed (by decide)
  · exact quiet_of_unclaimed (by decide)
  · exact quiet_of_unclaimed (by decide)
  · decide

/-- The editor's gate is claimed, as a request to remove the editor does. -/
def editorClaim : MemberGateClaim where
  memberId := "membership-2"
  userId := "user-2"
  claimId := "claim-1"
  claimedAt := 1500

/-- A member whose gate is claimed while the deletion is pending is not thawed by its cancellation,
and stays frozen when the claim is released. -/
theorem claimed_member_stays_frozen :
    FreshWorkspace ownedWorkspace ∧
      (run lifecycleStep ownedWorkspace [.schedule ownedSchedule, .claimGate editorClaim,
        .cancel ownedCancel, .releaseGate editorClaim]).members.map (·.revocationPendingAt) =
          [none, some 1000] ∧
      ¬DeletionLaws ownedWorkspace [.schedule ownedSchedule, .claimGate editorClaim,
        .cancel ownedCancel, .releaseGate editorClaim] := by
  refine ⟨owned_workspace_fresh, by decide, ?_⟩
  intro hlaws
  obtain ⟨earlier, later, hearlier, hlater, _, hgates⟩ := hlaws.restored [] ownedSchedule
    [.claimGate editorClaim] ownedCancel [.releaseGate editorClaim]
    (lifecycleStep ownedWorkspace (.schedule ownedSchedule))
    (run lifecycleStep ownedWorkspace [.schedule ownedSchedule, .claimGate editorClaim,
      .cancel ownedCancel]) rfl (by decide) rfl (by decide)
  have hmember : ∃ member ∈ earlier.members, member.id = "membership-2" ∧
      member.revocationPendingAt = none := by
    cases hearlier
    decide
  have hmember' : ∃ member ∈ later.members, member.id = "membership-2" ∧
      member.revocationPendingAt = some 1000 := by
    have hmembers : (run lifecycleStep ownedWorkspace [.schedule ownedSchedule,
        .claimGate editorClaim, .cancel ownedCancel]).members = later.members := by
      unfold members
      rw [hlater]
      rfl
    rw [← hmembers]
    decide
  obtain ⟨member, hmem, hid, hfree⟩ := hmember
  obtain ⟨member', hmem', hid', hfrozen⟩ := hmember'
  have hsame := hgates member hmem ?_ member' hmem' (hid'.trans hid.symm)
  · have htime := hsame.1
    rw [hfree, hfrozen] at htime
    cases htime
  · -- the gate was pending when it was claimed
    rw [not_not]
    refine ⟨?_, trivial⟩
    rintro ⟨claim, _, other, hother, _, _, hnone⟩
    have hall : ∀ member ∈ (lifecycleStep ownedWorkspace (.schedule ownedSchedule)).members,
        member.revocationPendingAt ≠ none := by decide
    exact hall other hother hnone

end Dopedb.Cloud
