import Dopedb.Cloud.DirectInvariant
import Dopedb.Library.Sorting

/-!
# Work on direct principals

When the work on principals gets stuck. Claims by `claimDirectWork` are granted one item after the
other; a claim that the table aborts ends the call. Work is stuck exactly when a live principal is
behind a thousand others, waits for a drop while its member has access again, failed while its
member lost access, or failed with no version left.
-/

namespace Dopedb.Cloud

open Library DirectStore

/-! ## The work list -/

/-- How many live principals come before one in the order of the work list. -/
def DirectStore.ahead (store : DirectStore) (row : DirectPrincipal) : Nat :=
  store.principals.countP fun other => !before row other && decide (other.state ≠ .dropped)

/-- The order of the work list is transitive. -/
theorem before_trans (a b c : DirectPrincipal) (hab : before a b = true) (hbc : before b c = true) :
    before a c = true := by
  unfold DirectStore.before at *
  rw [decide_eq_true_iff] at *
  rcases hab with hab | ⟨hab, hid⟩
  · rcases hbc with hbc | ⟨hbc, -⟩
    · exact .inl (Nat.lt_trans hab hbc)
    · exact .inl (hbc ▸ hab)
  · rcases hbc with hbc | ⟨hbc, hid'⟩
    · exact .inl (hab ▸ hbc)
    · exact .inr ⟨hab.trans hbc, String.le_trans hid hid'⟩

/-- The order of the work list is total. -/
theorem before_total (a b : DirectPrincipal) : (before a b || before b a) = true := by
  unfold DirectStore.before
  rw [Bool.or_eq_true, decide_eq_true_iff, decide_eq_true_iff]
  rcases Nat.lt_trichotomy a.createdAt b.createdAt with h | h | h
  · exact .inl (.inl h)
  · rcases String.le_total a.id b.id with hid | hid
    · exact .inl (.inr ⟨h, hid⟩)
    · exact .inr (.inr ⟨h.symm, hid⟩)
  · exact .inr (.inl h)

/-- Principals that are before each other have one id. -/
theorem before_antisymm {a b : DirectPrincipal} (hab : before a b = true)
    (hba : before b a = true) : a.id = b.id := by
  unfold DirectStore.before at *
  rw [decide_eq_true_iff] at *
  rcases hab with hab | ⟨hab, hid⟩
  · rcases hba with hba | ⟨hba, -⟩
    · omega
    · omega
  · rcases hba with hba | ⟨hba, hid'⟩
    · omega
    · exact String.le_antisymm hid hid'

section List

variable {store : DirectStore}

/-- The work list shows the live principals with fewer than a thousand before them. -/
theorem mem_listed (h : StoreInv store) {row : DirectPrincipal} :
    row ∈ store.listed ↔ row ∈ store.principals ∧ row.state ≠ .dropped ∧ store.ahead row < 1000 := by
  have hfilter : row ∈ store.principals.filter (fun principal => principal.state ≠ .dropped) ↔
      row ∈ store.principals ∧ row.state ≠ .dropped := by
    rw [List.mem_filter, decide_eq_true_iff]
  have hlisted : ∀ hrow : row ∈ store.principals.filter (fun principal => principal.state ≠ .dropped),
      (row ∈ store.listed ↔ store.ahead row < 1000) := by
    intro hrow
    have hcount := mem_take_merge_sort before_trans before_total (fun a ha b hb hab hba =>
      List.inj_on_of_nodup_map h.ids (List.mem_of_mem_filter ha) (List.mem_of_mem_filter hb)
        (before_antisymm hab hba)) ((List.Nodup.of_map _ h.ids).filter _) hrow 1000
    rw [List.countP_filter] at hcount
    exact hcount
  constructor
  · intro hrow
    have hmem := hfilter.mp <| (List.mergeSort_perm _ _).mem_iff.mp (List.mem_of_mem_take hrow)
    exact ⟨hmem.1, hmem.2, (hlisted (hfilter.mpr hmem)).mp hrow⟩
  · rintro ⟨hmem, hlive, hahead⟩
    exact (hlisted (hfilter.mpr ⟨hmem, hlive⟩)).mpr hahead

/-- Every principal is listed once. -/
theorem listed_ids_nodup (h : StoreInv store) : (store.listed.map (·.id)).Nodup := by
  have hfilter : ((store.principals.filter fun principal => principal.state ≠ .dropped).map
      (·.id)).Nodup := h.ids.sublist (List.filter_sublist.map _)
  have hsorted := ((List.mergeSort_perm _ before).map (·.id)).nodup_iff.mpr hfilter
  exact hsorted.sublist ((List.take_sublist _ _).map _)

/-- An item of the work list is about a listed principal. -/
theorem mem_work_items {item : DirectWorkItem} : item ∈ store.listDirectWorkItems ↔
    ∃ row ∈ store.listed, item = workItem store.facts store.now row := by
  unfold DirectStore.listDirectWorkItems
  rw [List.mem_map]
  constructor
  · rintro ⟨row, hrow, rfl⟩
    exact ⟨row, hrow, rfl⟩
  · rintro ⟨row, hrow, rfl⟩
    exact ⟨row, hrow, rfl⟩

/-- The items of the work list have distinct ids. -/
theorem work_item_ids_nodup (h : StoreInv store) :
    (store.listDirectWorkItems.map (·.principal.id)).Nodup := by
  unfold DirectStore.listDirectWorkItems
  rw [List.map_map]
  exact listed_ids_nodup h

/-- A replaced principal keeps the places of all. -/
theorem ahead_replace (h : StoreInv store) {row row' : DirectPrincipal}
    (hfind : store.find row.id = some row) (hsame : SameIdentity row row')
    (hlive : row.state ≠ .dropped) (hlive' : row'.state ≠ .dropped) (other : DirectPrincipal) :
    (store.replace row').ahead other = store.ahead other := by
  unfold DirectStore.ahead DirectStore.replace
  rw [List.countP_map]
  refine List.countP_congr fun x hx => ?_
  rw [Function.comp_apply]
  by_cases hid : x.id = row'.id
  · rw [if_pos hid]
    have hx : x = row := by
      rw [hsame.id] at hid
      exact List.inj_on_of_nodup_map h.ids hx (find_id hfind).1 hid
    subst hx
    have hbefore : before other row' = before other x := by
      unfold DirectStore.before
      rw [hsame.createdAt, hsame.id]
    rw [hbefore, decide_eq_true hlive, decide_eq_true hlive']
  · rw [if_neg hid]

/-- The place of a principal depends on its identity. -/
theorem ahead_congr {row row' : DirectPrincipal} (hsame : SameIdentity row row') :
    store.ahead row' = store.ahead row := by
  unfold DirectStore.ahead DirectStore.before
  rw [hsame.createdAt, hsame.id]

/-- The row behind an id after a replacement. -/
theorem find_replace {row row' : DirectPrincipal} (hfind : store.find row.id = some row)
    (hsame : SameIdentity row row') : (store.replace row').find row.id = some row' := by
  cases hfound : (store.replace row').find row.id with
  | none =>
      have hmem : row' ∈ (store.replace row').principals :=
        mem_replace.mpr ⟨row, (find_id hfind).1, by rw [if_pos hsame.id.symm]⟩
      have hnone := List.find?_eq_none.mp hfound row' hmem
      simp [hsame.id] at hnone
  | some found =>
      obtain ⟨hmem, hid⟩ := find_id hfound
      obtain ⟨before, hbefore, hrow⟩ := mem_replace.mp hmem
      by_cases heq : before.id = row'.id
      · rw [if_pos heq] at hrow
        rw [hrow]
      · rw [if_neg heq] at hrow
        rw [hrow] at hid
        rw [hsame.id] at heq
        exact absurd hid heq

/-- The rows behind other ids after a replacement. -/
theorem find_replace_ne {row' : DirectPrincipal} {id : String} (hne : id ≠ row'.id) :
    (store.replace row').find id = store.find id := by
  unfold DirectStore.find DirectStore.replace
  show (store.principals.map _).find? _ = _
  generalize store.principals = rows
  induction rows with
  | nil => rfl
  | cons row rows ih =>
      rw [List.map_cons, List.find?_cons, List.find?_cons, ih]
      by_cases heq : row.id = row'.id
      · rw [if_pos heq, decide_eq_false (Ne.symm hne), decide_eq_false (heq ▸ Ne.symm hne)]
      · rw [if_neg heq]

end List

/-! ## Claims -/

/-- A claim in a direction would be granted. -/
structure Grantable (row : DirectPrincipal) (now : Nat) (deviceId : String)
    (target : DirectPrincipalState) : Prop where
  direction : target = .applying ∨ target = .dropPending
  active : row.state ≠ .failed ∧ row.state ≠ .dropped
  turn : target = .applying → row.state ≠ .dropPending
  free : (row.state ≠ .applying ∧ row.state ≠ .dropPending) ∨
    row.appliedByDeviceId = some deviceId ∨ row.claimLive now = false

section Claims

variable {store : DirectStore} {row : DirectPrincipal} {deviceId : String}
  {target : DirectPrincipalState}

/-- A row is accepted with a claim when it did not fail. -/
theorem check_granted (hinv : RowInv row) (h : Grantable row store.now deviceId target) :
    row.checkUpdate (row.granted store.now deviceId target) =
      .ok (row.granted store.now deviceId target) := by
  have hallowed : isDirectTransitionAllowed row.state target = true := by
    obtain ⟨hdirection, ⟨hfailed, hdropped⟩, hturn, -⟩ := h
    cases hstate : row.state with
    | failed => exact absurd hstate hfailed
    | dropped => exact absurd hstate hdropped
    | dropPending =>
        rcases hdirection with rfl | rfl
        · exact absurd hstate (hturn rfl)
        · rfl
    | requested | applying | ready => rcases hdirection with rfl | rfl <;> rfl
  have hnone : ¬row.failureCode.isSome = true := fun hsome => h.active.1 (hinv.failure.mpr hsome)
  have hfailure : (row.granted store.now deviceId target).state = .failed ↔
      (row.granted store.now deviceId target).failureCode.isSome = true := by
    constructor
    · intro hfailed
      have hfailed : target = .failed := hfailed
      rcases h.direction with rfl | rfl
      · exact absurd hfailed nofun
      · exact absurd hfailed nofun
    · exact fun hsome => absurd hsome hnone
  exact check_update_eq (Nat.le_refl _) (Nat.le_refl _) (.inl rfl) rfl hallowed h.active.2
    hinv.versions.1 hinv.versions.2.1 hinv.versions.2.2 hfailure

/-- A claim that can be granted is. -/
theorem claim_granted (hfind : store.find row.id = some row) (hinv : RowInv row)
    (h : Grantable row store.now deviceId target) :
    store.claim row.id deviceId target =
      .ok (store.replace (row.granted store.now deviceId target), true) := by
  have hadmitted : row.state ∈ (if target = .applying then
      [.requested, .ready, .failed, .applying]
      else [.requested, .ready, .failed, .applying, .dropPending] : List DirectPrincipalState) := by
    obtain ⟨-, ⟨-, hdropped⟩, hturn, -⟩ := h
    split
    case isTrue htarget =>
        cases hstate : row.state with
        | dropped => exact absurd hstate hdropped
        | dropPending => exact absurd hstate (hturn htarget)
        | requested | applying | ready | failed => simp
    case isFalse =>
        cases hstate : row.state with
        | dropped => exact absurd hstate hdropped
        | requested | applying | ready | failed | dropPending => simp
  have hcheck := check_granted hinv h
  unfold DirectPrincipal.granted at hcheck
  unfold DirectStore.claim
  rw [hfind]
  simp only
  rw [if_pos ⟨hadmitted, h.free⟩, hcheck]
  rfl

/-- A principal that is to be dropped is not applied. -/
theorem claim_drop_pending (hfind : store.find row.id = some row) (hstate : row.state = .dropPending) :
    store.claim row.id deviceId .applying = .ok (store, false) := by
  unfold DirectStore.claim
  rw [hfind]
  simp only
  rw [if_neg]
  rintro ⟨hadmitted, -⟩
  simp [hstate] at hadmitted

/-- The claim of a failed principal is aborted, since its failure code stays. -/
theorem claim_failed (hfind : store.find row.id = some row) (hinv : RowInv row)
    (hstate : row.state = .failed) (htarget : target = .applying ∨ target = .dropPending) :
    ∃ abort, store.claim row.id deviceId target = .error abort := by
  have hadmitted : row.state ∈ (if target = .applying then
      [.requested, .ready, .failed, .applying]
      else [.requested, .ready, .failed, .applying, .dropPending] : List DirectPrincipalState) := by
    rw [hstate]
    split
    · simp
    · simp
  have hfree : row.state ≠ .applying ∧ row.state ≠ .dropPending := by
    rw [hstate]
    exact ⟨nofun, nofun⟩
  unfold DirectStore.claim
  rw [hfind]
  simp only
  rw [if_pos ⟨hadmitted, .inl hfree⟩]
  split
  case h_1 abort _ => exact ⟨abort, rfl⟩
  case h_2 row' hcheck =>
      have hfailure := (check_update_ok hcheck).2.2.2.2.1
      have hnever : target = .failed := hfailure.mpr (hinv.failure.mp hstate)
      rcases htarget with rfl | rfl
      · exact absurd hnever nofun
      · exact absurd hnever nofun

/-- The direction of a claim is that of its item. -/
theorem claim_target_direction {item : DirectWorkItem} (h : claimTarget item deviceId = some target) :
    target = .applying ∨ target = .dropPending := by
  unfold DirectStore.claimTarget at h
  split at h
  · exact .inl (Option.some.inj h).symm
  · exact .inr (Option.some.inj h).symm
  · split at h
    case isTrue hmine =>
        rw [← Option.some.inj h]
        exact hmine.2
    case isFalse => exact absurd h nofun

end Claims

/-! ## The loop of claims -/

/-- What the loop of claims leaves when every claim is granted. -/
structure LoopResult (store : DirectStore) (deviceId : String) (items : List DirectWorkItem)
    (claimed : List String) (store' : DirectStore) (claimed' : List String) : Prop where
  inv : StoreInv store'
  facts : store'.facts = store.facts
  now : store'.now = store.now
  ahead : ∀ row, store'.ahead row = store.ahead row
  kept : ∀ id ∈ claimed, id ∈ claimed'
  others : ∀ id ∉ items.map (·.principal.id), store'.find id = store.find id
  granted : ∀ item ∈ items, ∀ target, claimTarget item deviceId = some target →
    item.principal.id ∈ claimed' ∧ store'.find item.principal.id =
      some (item.principal.granted store.now deviceId target)

/-- The loop grants every claim when each can be granted. -/
theorem claim_items_granted (deviceId : String) (items : List DirectWorkItem) :
    ∀ (store : DirectStore) (claimed : List String), StoreInv store →
      (items.map (·.principal.id)).Nodup →
      (∀ item ∈ items, store.find item.principal.id = some item.principal) →
      (∀ item ∈ items, ∀ target, claimTarget item deviceId = some target →
        Grantable item.principal store.now deviceId target) →
      ∃ store' claimed', claimItems deviceId items store claimed = .ok (store', claimed') ∧
        LoopResult store deviceId items claimed store' claimed' := by
  -- the store changes with every turn, but never in the rows of later items
  induction items with
  | nil =>
      intro store claimed h hnodup hfind hgrant
      exact ⟨store, claimed, rfl, h, rfl, rfl, fun _ => rfl, fun _ hid => hid, fun _ _ => rfl,
        fun _ hitem => absurd hitem List.not_mem_nil⟩
  | cons item items ih =>
      intro store claimed h hnodup hfind hgrant
      rw [List.map_cons, List.nodup_cons] at hnodup
      have hrest : ∀ other ∈ items, other.principal.id ≠ item.principal.id :=
        fun other hother heq => hnodup.1 (List.mem_map.mpr ⟨other, hother, heq⟩)
      have hitem := hfind item List.mem_cons_self
      cases htarget : claimTarget item deviceId with
      | none =>
          obtain ⟨store', claimed', hloop, hresult⟩ := ih store claimed h hnodup.2
            (fun other hother => hfind other (List.mem_cons_of_mem _ hother))
            (fun other hother => hgrant other (List.mem_cons_of_mem _ hother))
          refine ⟨store', claimed', ?_, hresult.inv, hresult.facts, hresult.now, hresult.ahead,
            hresult.kept, ?_, ?_⟩
          · unfold DirectStore.claimItems
            rw [htarget]
            exact hloop
          · intro id hid
            rw [List.map_cons] at hid
            exact hresult.others id fun hmem => hid (List.mem_cons_of_mem _ hmem)
          · intro other hother target hother'
            rcases List.mem_cons.mp hother with rfl | hother
            · rw [htarget] at hother'
              exact absurd hother' nofun
            · exact hresult.granted other hother target hother'
      | some target =>
          have hitemgrant := hgrant item List.mem_cons_self target htarget
          have hrow := h.rows item.principal (find_id hitem).1
          have hclaim := claim_granted hitem hrow hitemgrant
          have hsame := granted_same item.principal store.now deviceId target
          have hlive : target ≠ .dropped := by
            rcases hitemgrant.direction with rfl | rfl
            · exact nofun
            · exact nofun
          have hstep : RowStep item.principal (item.principal.granted store.now deviceId target) := by
            refine check_row_step (check_granted hrow hitemgrant) hsame ?_
            intro hready
            have hready : target = .ready := hready
            have hdirection := hitemgrant.direction
            rw [hready] at hdirection
            exact absurd hdirection (by decide)
          have hnext := h.statement (.replaced hitem hstep store.serverFingerprint)
          have hothers : ∀ id, id ≠ item.principal.id →
              (store.replace (item.principal.granted store.now deviceId target)).find id =
                store.find id := fun id hne => find_replace_ne hne
          obtain ⟨store', claimed', hloop, hresult⟩ := ih
            (store.replace (item.principal.granted store.now deviceId target))
            (claimed ++ [item.principal.id]) hnext hnodup.2
            (by
              intro other hother
              rw [hothers _ (hrest other hother)]
              exact hfind other (List.mem_cons_of_mem _ hother))
            (fun other hother => hgrant other (List.mem_cons_of_mem _ hother))
          -- the granted row is not dropped, so as many rows come before each one as did
          refine ⟨store', claimed', ?_, hresult.inv, hresult.facts, hresult.now, ?_, ?_, ?_, ?_⟩
          · unfold DirectStore.claimItems
            rw [htarget]
            simp only
            rw [hclaim]
            exact hloop
          · intro row
            rw [hresult.ahead, ahead_replace h hitem hsame hitemgrant.active.2 hlive]
          · exact fun id hid => hresult.kept id (List.mem_append_left _ hid)
          · intro id hid
            rw [List.map_cons, List.mem_cons, not_or] at hid
            rw [hresult.others id hid.2, hothers id hid.1]
          · intro other hother target' hother'
            rcases List.mem_cons.mp hother with rfl | hother
            · rw [htarget] at hother'
              rw [← Option.some.inj hother', hresult.others _ hnodup.1]
              exact ⟨hresult.kept _ (List.mem_append_right _ List.mem_cons_self),
                find_replace hitem hsame⟩
            · exact hresult.granted other hother target' hother'

end Dopedb.Cloud
