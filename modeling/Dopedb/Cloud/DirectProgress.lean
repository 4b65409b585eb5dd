import Dopedb.Cloud.DirectWork

/-!
# When direct-access work gets stuck

`NeverStuck` says that offered work is obtained and that work is offered, claimed or asked for again
until a principal is as it should be. In every reachable state it holds exactly when no principal is
blocked.
-/

namespace Dopedb.Cloud

open Library DirectStore

/-! ## The property -/

/-- The state in which an action is carried out. -/
def DirectWorkAction.state : DirectWorkAction → Option DirectPrincipalState
  | .apply => some .applying
  | .drop => some .dropPending
  | .idle => none

/-- A device that asks for principals obtains one of them, in the state of its action. -/
def DirectStore.Obtains (store : DirectStore) (deviceId : String) (principalIds : List String)
    (item : DirectWorkItem) : Prop :=
  ∃ store' items, store.claimDirectWork deviceId principalIds = .ok (store', items) ∧
    ∃ got ∈ items, got.principal.id = item.principal.id ∧
      got.principal.appliedByDeviceId = some deviceId ∧
      got.principal.claimed store'.now = true ∧ some got.principal.state = item.action.state

/-- No other device holds a live claim on a principal. -/
def DirectPrincipal.freeFor (row : DirectPrincipal) (deviceId : String) (now : Nat) : Prop :=
  row.claimed now = true → row.appliedByDeviceId = some deviceId

/-- Work on a principal is offered, and any device obtains it. -/
def DirectStore.Claimable (store : DirectStore) (row : DirectPrincipal) : Prop :=
  ∃ item ∈ store.listDirectWorkItems, item.principal = row ∧ item.action ≠ .idle ∧
    ∀ deviceId principalIds, row.id ∈ principalIds → store.Obtains deviceId principalIds item

/-- A principal failed while its member has access, and any new verifier of the member makes it
claimable. -/
def DirectStore.AwaitsRequest (store : DirectStore) (row : DirectPrincipal) : Prop :=
  row.state = .failed ∧ desiredLevel store.facts row ≠ .none ∧
    ∀ input : DirectSubmission, input.memberId = row.memberId → input.userId = row.userId →
      input.verifierKind = row.verifierKind →
      isValidDirectVerifier input.verifierKind input.verifier = true →
      ∃ store' row', store.submitDirectVerifier input = .ok (store', some row.id) ∧
        store'.find row.id = some row' ∧ store'.Claimable row'

/-- Work never gets stuck. -/
structure NeverStuck (store : DirectStore) : Prop where
  offered : ∀ item ∈ store.listDirectWorkItems, item.action ≠ .idle → ∀ deviceId principalIds,
    item.principal.freeFor deviceId store.now → item.principal.id ∈ principalIds →
      store.Obtains deviceId principalIds item
  owed : ∀ row ∈ store.principals, row.state ≠ .dropped → converged store.facts row = false →
    store.Claimable row ∨ row.claimed store.now = true ∨ store.AwaitsRequest row

/-! ## The condition -/

/-- Nothing blocks the work on a principal: fewer than a thousand live ones are before it, it is not
to be dropped while its member has access, and when it failed, its member has access and it has a
version left. -/
structure Unblocked (store : DirectStore) (row : DirectPrincipal) : Prop where
  shown : store.ahead row < 1000
  restored : row.state = .dropPending → desiredLevel store.facts row = .none
  lost : row.state = .failed → desiredLevel store.facts row ≠ .none
  version : row.state = .failed → row.verifierVersion < MAX_SAFE_INTEGER

/-- No live principal is blocked that is neither as it should be nor with a device. -/
def NothingBlocked (store : DirectStore) : Prop :=
  ∀ row ∈ store.principals, row.state ≠ .dropped → converged store.facts row = false →
    row.claimed store.now = false → Unblocked store row

section Progress

variable {store : DirectStore} {row : DirectPrincipal}

/-- What an item asks for. -/
theorem work_item_idle :
    (workItem store.facts store.now row).action = .idle ↔
      row.claimed store.now = true ∨
        (row.state = .failed ∧ desiredLevel store.facts row ≠ .none) ∨
        (desiredLevel store.facts row ≠ .none ∧ converged store.facts row = true) := by
  unfold DirectStore.workItem
  show (if _ then DirectWorkAction.idle else _) = .idle ↔ _
  split
  case isTrue h => exact iff_of_true rfl h
  case isFalse h =>
      refine iff_of_false ?_ h
      split
      · exact nofun
      · exact nofun

/-- An item that is not idle says what its member should have. -/
theorem work_item_action (h : (workItem store.facts store.now row).action ≠ .idle) :
    (workItem store.facts store.now row).action =
      if desiredLevel store.facts row = .none then .drop else .apply := by
  have hidle := fun hnow => h (work_item_idle.mpr hnow)
  unfold DirectStore.workItem
  show (if _ then DirectWorkAction.idle else _) = _
  rw [if_neg hidle]

/-- Offered work is claimed in the direction of its action. -/
theorem claim_target_offered {item : DirectWorkItem} (h : item.action ≠ .idle) (deviceId : String) :
    ∃ target, claimTarget item deviceId = some target ∧ some target = item.action.state := by
  unfold DirectStore.claimTarget
  cases haction : item.action with
  | apply => exact ⟨.applying, rfl, rfl⟩
  | drop => exact ⟨.dropPending, rfl, rfl⟩
  | idle => exact absurd haction h

/-- A sound principal without access has not converged. -/
theorem not_converged_of_none (hinv : RowInv row) (hdesired : desiredLevel store.facts row = .none) :
    converged store.facts row = false := by
  unfold DirectStore.converged
  rw [decide_eq_false_iff_not]
  rintro ⟨hready, hlevel, -⟩
  exact hinv.ready hready (hlevel.trans hdesired)

/-- Work is offered for a principal that is not converged, unless it failed while its member has
access. -/
theorem not_idle (hclaimed : row.claimed store.now = false)
    (hconverged : converged store.facts row = false)
    (hfailed : row.state = .failed → desiredLevel store.facts row = .none) :
    (workItem store.facts store.now row).action ≠ .idle := by
  intro hidle
  rcases work_item_idle.mp hidle with h | ⟨hstate, hdesired⟩ | ⟨-, h⟩
  · rw [hclaimed] at h
    exact absurd h nofun
  · exact hdesired (hfailed hstate)
  · rw [hconverged] at h
    exact absurd h nofun

/-- An unblocked item can be granted to any device whose turn it is. -/
theorem grantable_of_unblocked (hlive : row.state ≠ .dropped) (hinv : RowInv row)
    (hblocked : converged store.facts row = false → row.claimed store.now = false →
      Unblocked store row) {deviceId : String} {target : DirectPrincipalState}
    (htarget : claimTarget (workItem store.facts store.now row) deviceId = some target) :
    Grantable row store.now deviceId target := by
  have hdirection := claim_target_direction htarget
  unfold DirectStore.claimTarget at htarget
  by_cases hidle : (workItem store.facts store.now row).action = .idle
  · -- An idle item is taken again by the device that holds it.
    rw [hidle] at htarget
    simp only at htarget
    split at htarget
    case isFalse => exact absurd htarget nofun
    case isTrue hmine =>
        obtain ⟨hdevice, hstate⟩ := hmine
        have htarget : row.state = target := Option.some.inj htarget
        have hstate : row.state = .applying ∨ row.state = .dropPending := hstate
        refine ⟨hdirection, ⟨?_, hlive⟩, ?_, .inr (.inl hdevice)⟩
        · rcases hstate with h | h
          · rw [h]
            exact nofun
          · rw [h]
            exact nofun
        · intro happlying
          rw [htarget, happlying]
          exact nofun
  · have hnot := fun h => hidle (work_item_idle.mpr h)
    have hclaimed : row.claimed store.now = false := by
      rw [← Bool.not_eq_true]
      exact fun h => hnot (.inl h)
    have hconverged : converged store.facts row = false := by
      rw [← Bool.not_eq_true]
      intro h
      by_cases hdesired : desiredLevel store.facts row = .none
      · rw [not_converged_of_none hinv hdesired] at h
        exact absurd h nofun
      · exact hnot (.inr (.inr ⟨hdesired, h⟩))
    obtain ⟨-, hrestored, hlost, -⟩ := hblocked hconverged hclaimed
    have hfailed : row.state ≠ .failed := fun h => hnot (.inr (.inl ⟨h, hlost h⟩))
    have hfree : (row.state ≠ .applying ∧ row.state ≠ .dropPending) ∨
        row.appliedByDeviceId = some deviceId ∨ row.claimLive store.now = false := by
      unfold DirectPrincipal.claimed at hclaimed
      rw [decide_eq_false_iff_not, not_and_or, not_or] at hclaimed
      rcases hclaimed with h | h
      · exact .inl h
      · exact .inr (.inr (by simpa using h))
    refine ⟨hdirection, ⟨hfailed, hlive⟩, ?_, hfree⟩
    intro happlying hpending
    rw [work_item_action hidle, if_pos (hrestored hpending)] at htarget
    rw [happlying] at htarget
    exact absurd (Option.some.inj htarget) nofun

/-- The result of a loop of claims. -/
theorem claim_work_ok {store' : DirectStore} {deviceId : String} {principalIds claimed' : List String}
    (h : claimItems deviceId (store.listDirectWorkItems.filter fun item =>
      item.principal.id ∈ principalIds) store [] = .ok (store', claimed')) :
    store.claimDirectWork deviceId principalIds =
      .ok (store', store'.listDirectWorkItems.filter fun item => item.principal.id ∈ claimed') := by
  unfold DirectStore.claimDirectWork
  simp only
  rw [h]
  rfl

/-- A loop of claims that is aborted. -/
theorem claim_work_error {abort : DirectAbort} {deviceId : String} {principalIds : List String}
    (h : claimItems deviceId (store.listDirectWorkItems.filter fun item =>
      item.principal.id ∈ principalIds) store [] = .error abort) :
    store.claimDirectWork deviceId principalIds = .error abort := by
  unfold DirectStore.claimDirectWork
  simp only
  rw [h]
  rfl

/-- Any device obtains the offered work when nothing is blocked. -/
theorem obtains_of_nothing_blocked (h : StoreInv store) (hblocked : NothingBlocked store)
    {item : DirectWorkItem} (hitem : item ∈ store.listDirectWorkItems) (hidle : item.action ≠ .idle)
    {deviceId : String} {principalIds : List String} (hid : item.principal.id ∈ principalIds) :
    store.Obtains deviceId principalIds item := by
  have hcandidates : ∀ candidate ∈ store.listDirectWorkItems, ∃ row ∈ store.listed,
      candidate = workItem store.facts store.now row ∧ row ∈ store.principals ∧
        row.state ≠ .dropped := by
    intro candidate hcandidate
    obtain ⟨row, hrow, rfl⟩ := mem_work_items.mp hcandidate
    have hlisted := (mem_listed h).mp hrow
    exact ⟨row, hrow, rfl, hlisted.1, hlisted.2.1⟩
  obtain ⟨store', claimed', hloop, hresult⟩ := claim_items_granted deviceId
    (store.listDirectWorkItems.filter fun item => item.principal.id ∈ principalIds) store [] h
    ((work_item_ids_nodup h).sublist (List.filter_sublist.map _))
    (by
      intro candidate hcandidate
      obtain ⟨row, -, rfl, hmem, -⟩ := hcandidates candidate (List.mem_of_mem_filter hcandidate)
      exact h.find hmem)
    (by
      intro candidate hcandidate target htarget
      obtain ⟨row, -, rfl, hmem, hlive⟩ := hcandidates candidate (List.mem_of_mem_filter hcandidate)
      exact grantable_of_unblocked hlive (h.rows row hmem)
        (fun hconverged hclaimed => hblocked row hmem hlive hconverged hclaimed) htarget)
  -- every item that was asked for is granted, and this one with them
  obtain ⟨row, hrow, rfl, hmem, hlive⟩ := hcandidates item hitem
  obtain ⟨target, htarget, hstate⟩ := claim_target_offered hidle deviceId
  have hcandidate : workItem store.facts store.now row ∈
      store.listDirectWorkItems.filter fun item => item.principal.id ∈ principalIds :=
    List.mem_filter.mpr ⟨hitem, decide_eq_true hid⟩
  obtain ⟨hgranted, hfound⟩ := hresult.granted _ hcandidate target htarget
  have hlistrow : row.granted store.now deviceId target ∈ store'.listed := by
    refine (mem_listed hresult.inv).mpr ⟨(find_id hfound).1, ?_, ?_⟩
    · show target ≠ .dropped
      rcases claim_target_direction htarget with rfl | rfl
      · exact nofun
      · exact nofun
    · rw [hresult.ahead, ahead_congr (granted_same row store.now deviceId target)]
      exact ((mem_listed h).mp hrow).2.2
  refine ⟨store', store'.listDirectWorkItems.filter fun item => item.principal.id ∈ claimed', ?_,
    workItem store'.facts store'.now (row.granted store.now deviceId target),
    List.mem_filter.mpr ⟨mem_work_items.mpr ⟨_, hlistrow, rfl⟩, decide_eq_true hgranted⟩, rfl, rfl,
    ?_, hstate⟩
  · exact claim_work_ok hloop
  · show (row.granted store.now deviceId target).claimed store'.now = true
    rw [hresult.now]
    unfold DirectPrincipal.claimed
    rw [decide_eq_true_iff]
    refine ⟨claim_target_direction htarget, ?_⟩
    show decide (store.now < store.now + 1000 * DIRECT_CLAIM_LEASE_SECONDS) = true
    unfold DIRECT_CLAIM_LEASE_SECONDS
    rw [decide_eq_true_iff]
    omega

/-! ## A new verifier -/

/-- The row of a failed principal with a new verifier. -/
def DirectPrincipal.revised (row : DirectPrincipal) (verifier : String) : DirectPrincipal :=
  { row with
    verifier := verifier
    verifierVersion := row.verifierVersion + 1
    state := .requested
    failureCode := none }

/-- A revised row has the identity of the row before. -/
theorem revised_same (row : DirectPrincipal) (verifier : String) :
    SameIdentity row (row.revised verifier) :=
  ⟨rfl, rfl, rfl, rfl, rfl, rfl⟩

/-- The live principal of a member is found by the member. -/
theorem live_of_eq (h : StoreInv store) (hrow : row ∈ store.principals)
    (hlive : row.state ≠ .dropped) : store.liveOf row.memberId = some row := by
  cases hfind : store.liveOf row.memberId with
  | none =>
      have hnone := List.find?_eq_none.mp hfind row hrow
      simp [hlive] at hnone
  | some other =>
      have hmem := List.mem_of_find?_eq_some hfind
      have hother := List.find?_some hfind
      rw [decide_eq_true_iff] at hother
      rw [h.members other hmem row hrow hother.2 hlive hother.1]

/-- The revision of a failed principal. -/
theorem revise_failed (h : StoreInv store) (hrow : row ∈ store.principals)
    (hfailed : row.state = .failed) (verifier : String) :
    store.revise row.id row.verifierVersion row.userId row.verifierKind verifier =
      match row.checkUpdate (row.revised verifier) with
      | .error abort => .error abort
      | .ok row' => .ok (store.replace row', true) := by
  unfold DirectStore.revise
  rw [h.find hrow]
  simp only
  rw [if_pos ⟨.inr (.inr hfailed), trivial, trivial, trivial⟩,
    if_pos (Or.inr hfailed : row.state = .ready ∨ row.state = .failed)]
  rfl

/-- What a new verifier does to a failed principal. -/
theorem submit_failed (h : StoreInv store) (hrow : row ∈ store.principals)
    (hfailed : row.state = .failed) {input : DirectSubmission}
    (hmember : input.memberId = row.memberId) (huser : input.userId = row.userId)
    (hkind : input.verifierKind = row.verifierKind)
    (hvalid : isValidDirectVerifier input.verifierKind input.verifier = true) :
    store.submitDirectVerifier input =
      match row.checkUpdate (row.revised input.verifier) with
      | .error abort => .error abort
      | .ok row' => .ok (store.replace row', some row.id) := by
  have hlive : row.state ≠ .dropped := by
    rw [hfailed]
    exact nofun
  unfold DirectStore.submitDirectVerifier
  rw [if_neg (by rw [hvalid]; exact nofun), hmember, live_of_eq h hrow hlive, huser, hkind]
  simp only
  rw [revise_failed h hrow hfailed]
  cases row.checkUpdate (row.revised input.verifier) with
  | error abort => rfl
  | ok row' => rfl

/-- A failed principal with a version left is revised. -/
theorem check_revised (hinv : RowInv row) (hfailed : row.state = .failed)
    (hversion : row.verifierVersion < MAX_SAFE_INTEGER) (verifier : String) :
    row.checkUpdate (row.revised verifier) = .ok (row.revised verifier) := by
  have hallowed : isDirectTransitionAllowed row.state .requested = true := by
    rw [hfailed]
    rfl
  have hlive : row.state ≠ .dropped := by
    rw [hfailed]
    exact nofun
  have hbound := hinv.versions.2.2
  refine check_update_eq ?_ (Nat.le_refl _) (.inr (Nat.lt_succ_self _)) rfl hallowed hlive ?_ ?_ ?_ ?_
  · exact Nat.le_succ _
  · show 1 ≤ row.verifierVersion + 1
    omega
  · show row.verifierVersion + 1 ≤ MAX_SAFE_INTEGER
    omega
  · show row.appliedVerifierVersion ≤ row.verifierVersion + 1
    omega
  · exact ⟨nofun, nofun⟩

/-- Nothing is blocked after a failed principal was revised. -/
theorem nothing_blocked_revised (h : StoreInv store) (hblocked : NothingBlocked store)
    (hrow : row ∈ store.principals) (hfailed : row.state = .failed)
    (hshown : store.ahead row < 1000) (verifier : String) :
    NothingBlocked (store.replace (row.revised verifier)) := by
  have hlive : row.state ≠ .dropped := by
    rw [hfailed]
    exact nofun
  have hahead := ahead_replace h (h.find hrow) (revised_same row verifier) hlive
    (by exact nofun : (row.revised verifier).state ≠ .dropped)
  intro other hother hotherlive hconverged hclaimed
  obtain ⟨before, hbefore, hother⟩ := mem_replace.mp hother
  split at hother
  case isTrue =>
      subst hother
      refine ⟨?_, nofun, nofun, nofun⟩
      rw [hahead, ahead_congr (revised_same row verifier)]
      exact hshown
  case isFalse =>
      subst hother
      obtain ⟨hothershown, hrestored, hlost, hversion⟩ :=
        hblocked other hbefore hotherlive hconverged hclaimed
      refine ⟨?_, hrestored, hlost, hversion⟩
      rw [hahead]
      exact hothershown

/-! ## Both directions -/

/-- Work never gets stuck while nothing is blocked. -/
theorem never_stuck_of_nothing_blocked (h : StoreInv store) (hblocked : NothingBlocked store) :
    NeverStuck store := by
  have hclaimable : ∀ store : DirectStore, StoreInv store → NothingBlocked store →
      ∀ row ∈ store.principals, row.state ≠ .dropped → row.claimed store.now = false →
        converged store.facts row = false →
        (row.state = .failed → desiredLevel store.facts row = .none) → store.Claimable row := by
    intro store h hblocked row hrow hlive hclaimed hconverged hfailed
    have hshown := (hblocked row hrow hlive hconverged hclaimed).shown
    have hitem := mem_work_items.mpr ⟨row, (mem_listed h).mpr ⟨hrow, hlive, hshown⟩, rfl⟩
    have hidle := not_idle hclaimed hconverged hfailed
    exact ⟨_, hitem, rfl, hidle, fun deviceId principalIds hid =>
      obtains_of_nothing_blocked h hblocked hitem hidle hid⟩
  refine ⟨fun item hitem hidle deviceId principalIds _ hid =>
    obtains_of_nothing_blocked h hblocked hitem hidle hid, ?_⟩
  intro row hrow hlive hconverged
  cases hclaimed : row.claimed store.now with
  | true => exact .inr (.inl rfl)
  | false =>
      have hrowblocked := hblocked row hrow hlive hconverged hclaimed
      by_cases hfailed : row.state = .failed
      · refine .inr (.inr ⟨hfailed, hrowblocked.lost hfailed, ?_⟩)
        intro input hmember huser hkind hvalid
        have hcheck := check_revised (h.rows row hrow) hfailed (hrowblocked.version hfailed)
          input.verifier
        have hsame := revised_same row input.verifier
        have hfound := find_replace (h.find hrow) hsame
        have hnext : StoreInv (store.replace (row.revised input.verifier)) :=
          h.statement (.replaced (h.find hrow)
            (check_row_step hcheck hsame (fun hready => absurd hready nofun))
            store.serverFingerprint)
        refine ⟨store.replace (row.revised input.verifier), row.revised input.verifier, ?_, hfound,
          ?_⟩
        · rw [submit_failed h hrow hfailed hmember huser hkind hvalid, hcheck]
        · refine hclaimable _ hnext
            (nothing_blocked_revised h hblocked hrow hfailed hrowblocked.shown input.verifier) _
            (find_id hfound).1 nofun rfl ?_ nofun
          unfold DirectStore.converged
          rw [decide_eq_false_iff_not]
          exact fun hready => absurd hready.1 nofun
      · exact .inl (hclaimable store h hblocked row hrow hlive hclaimed hconverged
          fun hstate => absurd hstate hfailed)

/-- A device that asks for one listed principal asks for its item. -/
theorem candidates_single (h : StoreInv store) (hrow : row ∈ store.listed) :
    (store.listDirectWorkItems.filter fun item => item.principal.id ∈ [row.id]) =
      [workItem store.facts store.now row] := by
  have hnodup := work_item_ids_nodup h
  have hitem := mem_work_items.mpr ⟨row, hrow, rfl⟩
  have hfilter : (store.listDirectWorkItems.filter fun item => item.principal.id ∈ [row.id]) =
      store.listDirectWorkItems.filter fun item => item = workItem store.facts store.now row := by
    refine List.filter_congr fun item hmem => ?_
    rw [decide_eq_decide, List.mem_singleton]
    constructor
    · exact fun hid => List.inj_on_of_nodup_map hnodup hmem hitem hid
    · rintro rfl
      rfl
  rw [hfilter, List.filter_eq, List.count_eq_one_of_mem (List.Nodup.of_map _ hnodup) hitem]
  rfl

/-- A principal that is to be dropped while its member has access is not obtained. -/
theorem not_obtained_pending (h : StoreInv store) (hrow : row ∈ store.listed)
    (hidle : (workItem store.facts store.now row).action ≠ .idle) (hstate : row.state = .dropPending)
    (hdesired : desiredLevel store.facts row ≠ .none) (deviceId : String) :
    ¬store.Obtains deviceId [row.id] (workItem store.facts store.now row) := by
  have htarget : claimTarget (workItem store.facts store.now row) deviceId = some .applying := by
    unfold DirectStore.claimTarget
    rw [work_item_action hidle, if_neg hdesired]
  have hloop : claimItems deviceId (store.listDirectWorkItems.filter fun item =>
      item.principal.id ∈ [row.id]) store [] = .ok (store, []) := by
    rw [candidates_single h hrow]
    unfold DirectStore.claimItems
    rw [htarget]
    simp only
    rw [show (workItem store.facts store.now row).principal = row from rfl,
      claim_drop_pending (h.find ((mem_listed h).mp hrow).1) hstate]
    rfl
  rintro ⟨store', items, hok, got, hgot, -⟩
  rw [claim_work_ok hloop] at hok
  obtain ⟨-, rfl⟩ := Prod.mk.inj (Except.ok.inj hok)
  simp at hgot

/-- A principal that failed and is to be dropped is not obtained. -/
theorem not_obtained_failed (h : StoreInv store) (hrow : row ∈ store.listed)
    (hidle : (workItem store.facts store.now row).action ≠ .idle) (hstate : row.state = .failed)
    (deviceId : String) :
    ¬store.Obtains deviceId [row.id] (workItem store.facts store.now row) := by
  obtain ⟨target, htarget, -⟩ := claim_target_offered hidle deviceId
  have hmem := ((mem_listed h).mp hrow).1
  obtain ⟨abort, hclaim⟩ := @claim_failed store row deviceId target (h.find hmem) (h.rows row hmem)
    hstate (claim_target_direction htarget)
  have hloop : claimItems deviceId (store.listDirectWorkItems.filter fun item =>
      item.principal.id ∈ [row.id]) store [] = .error abort := by
    rw [candidates_single h hrow]
    unfold DirectStore.claimItems
    rw [htarget]
    simp only
    rw [show (workItem store.facts store.now row).principal = row from rfl, hclaim]
  rintro ⟨store', items, hok, -⟩
  rw [claim_work_error hloop] at hok
  exact absurd hok nofun

/-- A claimable principal is listed, and its item is not idle. -/
theorem listed_of_claimable (hclaimable : store.Claimable row) :
    row ∈ store.listed ∧ (workItem store.facts store.now row).action ≠ .idle ∧
      ∀ deviceId principalIds, row.id ∈ principalIds →
        store.Obtains deviceId principalIds (workItem store.facts store.now row) := by
  obtain ⟨item, hitem, hprincipal, hidle, hobtains⟩ := hclaimable
  obtain ⟨other, hother, rfl⟩ := mem_work_items.mp hitem
  have hprincipal : other = row := hprincipal
  subst hprincipal
  exact ⟨hother, hidle, hobtains⟩

/-- A verifier of the right shape. -/
def someVerifier : DirectVerifierKind → String
  | .scramSha256 => String.ofList ("SCRAM-SHA-256$4096:".toList ++ List.replicate 22 'A' ++
      "==$".toList ++ List.replicate 43 'A' ++ "=:".toList ++ List.replicate 43 'A' ++ ['='])
  | .cachingSha2 => String.ofList ("$A$005$".toList ++ List.replicate 63 'A')

set_option maxRecDepth 100000 in
/-- Every kind has a valid verifier. -/
theorem some_verifier_valid (kind : DirectVerifierKind) :
    isValidDirectVerifier kind (someVerifier kind) = true := by
  cases kind with
  | scramSha256 => decide
  | cachingSha2 => decide

/-- Nothing is blocked while work never gets stuck. -/
theorem nothing_blocked_of_never_stuck (h : StoreInv store) (hstuck : NeverStuck store) :
    NothingBlocked store := by
  intro row hrow hlive hconverged hclaimed
  rcases hstuck.owed row hrow hlive hconverged with hclaimable | hnow | ⟨hfailed, hdesired, hawaits⟩
  · obtain ⟨hlisted, hidle, hobtains⟩ := listed_of_claimable hclaimable
    have hself : row.id ∈ [row.id] := List.mem_singleton_self _
    have hnotfailed : row.state ≠ .failed := fun hstate =>
      not_obtained_failed h hlisted hidle hstate "" (hobtains "" [row.id] hself)
    refine ⟨((mem_listed h).mp hlisted).2.2, ?_, fun hstate => absurd hstate hnotfailed,
      fun hstate => absurd hstate hnotfailed⟩
    intro hstate
    by_contra hdesired
    exact not_obtained_pending h hlisted hidle hstate hdesired "" (hobtains "" [row.id] hself)
  · rw [hclaimed] at hnow
    exact absurd hnow nofun
  · -- The submission of any valid verifier shows that the principal is listed and has a version.
    obtain ⟨store', row', hsubmit, hfound, hclaimable⟩ := hawaits {
      memberId := row.memberId
      userId := row.userId
      verifierKind := row.verifierKind
      verifier := someVerifier row.verifierKind
      newId := ""
      newPrincipalName := ""
      newMarker := "" } rfl rfl rfl (some_verifier_valid row.verifierKind)
    rw [submit_failed h hrow hfailed rfl rfl rfl (some_verifier_valid row.verifierKind)] at hsubmit
    split at hsubmit
    case h_1 => exact absurd hsubmit nofun
    case h_2 checked hcheck =>
        obtain ⟨rfl, -⟩ := Prod.mk.inj (Except.ok.inj hsubmit)
        have hsame := revised_same row (someVerifier row.verifierKind)
        have hmax := (check_update_ok hcheck).2.2.2.2.2.2.1
        have hstep := check_row_step hcheck hsame (fun hready => absurd hready nofun)
        have hchecked := (check_update_ok hcheck).1
        have hnext := h.statement (.replaced (h.find hrow) hstep store.serverFingerprint)
        rw [find_replace (h.find hrow) hstep.same] at hfound
        have hlisted := (listed_of_claimable hclaimable).1
        have hshown := ((mem_listed hnext).mp hlisted).2.2
        rw [← Option.some.inj hfound, ahead_replace h (h.find hrow) hstep.same hlive
          (by rw [hchecked]; exact nofun), ahead_congr hstep.same] at hshown
        refine ⟨hshown, ?_, fun _ => hdesired, fun _ => ?_⟩
        · intro hpending
          rw [hfailed] at hpending
          exact absurd hpending nofun
        · have hmax : row.verifierVersion + 1 ≤ MAX_SAFE_INTEGER := hmax
          omega

end Progress

/-! ## Runs -/

/-- In every reachable state, every further event keeps to the transitions, and work never gets
stuck exactly when nothing is blocked. -/
theorem direct_work_progress (engine : DirectEngine) (facts : DirectFacts)
    (fingerprint : Option String) (now : Nat) (events : List DirectEvent) :
    (∀ event, ∀ row ∈ (run directStep (DirectStore.new engine facts fingerprint now) events).principals,
      ∃ row' ∈ (directStep (run directStep (DirectStore.new engine facts fingerprint now) events)
        event).principals, row'.id = row.id ∧
          isDirectTransitionAllowed row.state row'.state = true) ∧
    (NeverStuck (run directStep (DirectStore.new engine facts fingerprint now) events) ↔
      NothingBlocked (run directStep (DirectStore.new engine facts fingerprint now) events)) := by
  have hinv := store_inv_run engine facts fingerprint now events
  exact ⟨direct_step_allowed hinv, nothing_blocked_of_never_stuck hinv,
    never_stuck_of_nothing_blocked hinv⟩

/-- An editor with a grant. -/
def grantedFacts : DirectFacts where
  members := [{ memberId := "member", userId := "user", role := "editor", revocationPending := false }]
  grants := [{ memberId := "member", capability := "use" }]
  pending := []
  connectionDeleted := false
  writeCeiling := true
  scopeRevision := 1

/-- A drop that a device claims and does not report, while the grant is taken and given back. -/
def restoredRun : List DirectEvent :=
  [.insert {
      id := "principal"
      memberId := "member"
      userId := "user"
      principalName := "dopedb_0"
      marker := "marker"
      verifierKind := .scramSha256
      verifier := someVerifier .scramSha256
      createdAt := 0 },
    .change { grantedFacts with grants := [] },
    .claim "principal" "device" true,
    .tick 120000,
    .change grantedFacts]

/-- The principal at the end. -/
def restoredPrincipal : DirectPrincipal where
  id := "principal"
  memberId := "member"
  userId := "user"
  principalName := "dopedb_0"
  marker := "marker"
  verifierKind := .scramSha256
  verifier := someVerifier .scramSha256
  state := .dropPending
  appliedByDeviceId := some "device"
  claimExpiresAt := some 120000
  createdAt := 0

set_option maxRecDepth 100000 in
/-- A member whose access was restored during a drop that nobody reported is stuck. -/
theorem restored_access_stuck :
    ¬∀ (engine : DirectEngine) (facts : DirectFacts) (fingerprint : Option String) (now : Nat)
      (events : List DirectEvent),
      NeverStuck (run directStep (DirectStore.new engine facts fingerprint now) events) := by
  intro h
  have hblocked := nothing_blocked_of_never_stuck
    (store_inv_run .postgres grantedFacts none 0 restoredRun)
    (h .postgres grantedFacts none 0 restoredRun)
  have hrow := hblocked restoredPrincipal (by decide) (by decide)
    (by decide) (by decide)
  exact absurd (hrow.restored rfl) (by decide)

end Dopedb.Cloud
