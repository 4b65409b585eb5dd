import Dopedb.Cloud.DirectAccessStore

/-!
# What the statements keep

`StatementCases` says once what a statement can do: nothing, put a new principal behind the others,
or exchange one principal for another with the same identity by an allowed transition. The
invariant of the table follows from that.
-/

namespace Dopedb.Cloud

open Library

/-! ## Rows -/

/-- What the checks of the table and the receipts leave of a row. -/
structure RowInv (row : DirectPrincipal) : Prop where
  failure : row.state = .failed ↔ row.failureCode.isSome = true
  versions : 1 ≤ row.verifierVersion ∧ row.verifierVersion ≤ MAX_SAFE_INTEGER ∧
    row.appliedVerifierVersion ≤ row.verifierVersion
  ready : row.state = .ready → row.appliedLevel ≠ .none

/-- Two rows of one principal. -/
structure SameIdentity (row row' : DirectPrincipal) : Prop where
  id : row'.id = row.id
  memberId : row'.memberId = row.memberId
  userId : row'.userId = row.userId
  principalName : row'.principalName = row.principalName
  verifierKind : row'.verifierKind = row.verifierKind
  createdAt : row'.createdAt = row.createdAt

/-- A row that the table accepts. -/
theorem check_update_ok {old new row : DirectPrincipal} (h : old.checkUpdate new = .ok row) :
    row = new ∧ isDirectTransitionAllowed old.state new.state = true ∧ old.state ≠ .dropped ∧
      old.appliedVerifierVersion ≤ new.appliedVerifierVersion ∧
      (new.state = .failed ↔ new.failureCode.isSome = true) ∧
      1 ≤ new.verifierVersion ∧ new.verifierVersion ≤ MAX_SAFE_INTEGER ∧
      new.appliedVerifierVersion ≤ new.verifierVersion := by
  unfold DirectPrincipal.checkUpdate at h
  split at h
  · exact absurd h nofun
  split at h
  · exact absurd h nofun
  split at h
  · exact absurd h nofun
  split at h
  · exact absurd h nofun
  split at h
  · exact absurd h nofun
  split at h
  · exact absurd h nofun
  case isFalse hversions _ hallowed hlive hchecks hfailure =>
      have hrow := Except.ok.inj h
      refine ⟨hrow.symm, by simpa using hallowed, hlive, by omega, ?_, by omega, by omega, by omega⟩
      simpa using hfailure

/-- A row is accepted when its versions advance, its role stays, the transition is allowed and a
failure has its code. -/
theorem check_update_eq {old new : DirectPrincipal}
    (hversion : old.verifierVersion ≤ new.verifierVersion)
    (happlied : old.appliedVerifierVersion ≤ new.appliedVerifierVersion)
    (hverifier : new.verifier = old.verifier ∨ old.verifierVersion < new.verifierVersion)
    (hrole : new.serverRoleOid = old.serverRoleOid)
    (hallowed : isDirectTransitionAllowed old.state new.state = true) (hlive : old.state ≠ .dropped)
    (hmin : 1 ≤ new.verifierVersion) (hmax : new.verifierVersion ≤ MAX_SAFE_INTEGER)
    (hbound : new.appliedVerifierVersion ≤ new.verifierVersion)
    (hfailure : new.state = .failed ↔ new.failureCode.isSome = true) :
    old.checkUpdate new = .ok new := by
  unfold DirectPrincipal.checkUpdate
  have h1 : ¬(new.verifierVersion < old.verifierVersion ∨
      new.appliedVerifierVersion < old.appliedVerifierVersion ∨
      (new.verifier ≠ old.verifier ∧ new.verifierVersion ≤ old.verifierVersion)) := by
    rintro (h | h | ⟨hne, h⟩)
    · omega
    · omega
    · rcases hverifier with heq | hlt
      · exact hne heq
      · omega
  have h2 : ¬(old.serverRoleOid.isSome = true ∧ new.serverRoleOid ≠ old.serverRoleOid) :=
    fun h => h.2 hrole
  have h3 : ¬(new.verifierVersion < 1 ∨ MAX_SAFE_INTEGER < new.verifierVersion ∨
      new.verifierVersion < new.appliedVerifierVersion) := by omega
  have h4 : ¬((new.state = .failed) ≠ (new.failureCode.isSome = true)) := by
    rw [not_not]
    exact propext hfailure
  rw [if_neg h1, if_neg h2, if_neg (by rw [hallowed]; exact nofun), if_neg hlive, if_neg h3,
    if_neg h4]

/-! ## Statements -/

/-- A row becomes another one by a statement. -/
structure RowStep (row row' : DirectPrincipal) : Prop where
  same : SameIdentity row row'
  allowed : isDirectTransitionAllowed row.state row'.state = true
  live : row.state ≠ .dropped
  inv : RowInv row → RowInv row'

/-- A row as it is inserted. -/
structure NewRow (store : DirectStore) (row : DirectPrincipal) : Prop where
  state : row.state = .requested
  inv : RowInv row
  id : ∀ other ∈ store.principals, other.id ≠ row.id
  member : ∀ other ∈ store.principals, other.state ≠ .dropped → other.memberId ≠ row.memberId

/-- An accepted row is a step of the row before. -/
theorem check_row_step {old new row : DirectPrincipal} (h : old.checkUpdate new = .ok row)
    (hsame : SameIdentity old new) (hready : new.state = .ready → new.appliedLevel ≠ .none) :
    RowStep old row := by
  obtain ⟨rfl, hallowed, hlive, -, hfailure, hmin, hmax, hbound⟩ := check_update_ok h
  exact ⟨hsame, hallowed, hlive, fun _ => ⟨hfailure, ⟨hmin, hmax, hbound⟩, hready⟩⟩

/-- The row that a granted claim writes. -/
def DirectPrincipal.granted (row : DirectPrincipal) (now : Nat) (deviceId : String)
    (target : DirectPrincipalState) : DirectPrincipal :=
  { row with
    state := target
    appliedByDeviceId := some deviceId
    claimExpiresAt := some (now + 1000 * DIRECT_CLAIM_LEASE_SECONDS) }

/-- A granted row has the identity of the row before. -/
theorem granted_same (row : DirectPrincipal) (now : Nat) (deviceId : String)
    (target : DirectPrincipalState) : SameIdentity row (row.granted now deviceId target) :=
  ⟨rfl, rfl, rfl, rfl, rfl, rfl⟩

/-- What a statement does to the table. -/
inductive StatementCases (store : DirectStore) : DirectStore → Prop where
  | same : StatementCases store store
  | inserted {row : DirectPrincipal} (new : NewRow store row) :
      StatementCases store { store with principals := store.principals ++ [row] }
  | replaced {row row' : DirectPrincipal} (found : store.find row.id = some row)
      (step : RowStep row row') (fingerprint : Option String) :
      StatementCases store ({ store with serverFingerprint := fingerprint }.replace row')

section Statements

variable {store store' : DirectStore} {matched : Bool}

/-- The row that is found has the id. -/
theorem find_id {id : String} {row : DirectPrincipal} (h : store.find id = some row) :
    row ∈ store.principals ∧ row.id = id := by
  refine ⟨List.mem_of_find?_eq_some h, ?_⟩
  have hid := List.find?_some h
  simpa using hid

/-- A new principal is behind the others. -/
theorem insert_spec {row : DirectPrincipal} (hstate : row.state = .requested) (hinv : RowInv row)
    (h : store.insert row = .ok (store', matched)) :
    NewRow store row ∧ store' = { store with principals := store.principals ++ [row] } := by
  unfold DirectStore.insert at h
  split at h
  · exact absurd h nofun
  split at h
  · exact absurd h nofun
  split at h
  · exact absurd h nofun
  case isFalse hid =>
      split at h
      · exact absurd h nofun
      split at h
      · exact absurd h nofun
      case isFalse hmember =>
          obtain ⟨rfl, -⟩ := Prod.mk.inj (Except.ok.inj h)
          refine ⟨⟨hstate, hinv, ?_, ?_⟩, rfl⟩
          · intro other hother heq
            exact hid (List.any_eq_true.mpr ⟨other, hother, by simpa using heq⟩)
          · intro other hother hlive heq
            exact hmember (List.any_eq_true.mpr ⟨other, hother, by simpa using ⟨heq, hlive⟩⟩)

/-- A revision exchanges a principal that no device holds, and keeps its level. -/
theorem revise_spec {id userId verifier : String} {readVersion : Nat}
    {verifierKind : DirectVerifierKind}
    (h : store.revise id readVersion userId verifierKind verifier = .ok (store', matched)) :
    store' = store ∨ ∃ row row', store.find row.id = some row ∧ row.id = id ∧
      (row.state = .requested ∨ row.state = .ready ∨ row.state = .failed) ∧ RowStep row row' ∧
      row'.state = .requested ∧ row'.appliedLevel = row.appliedLevel ∧
      store' = store.replace row' := by
  unfold DirectStore.revise at h
  cases hfind : store.find id with
  | none =>
      rw [hfind] at h
      obtain ⟨rfl, -⟩ := Prod.mk.inj (Except.ok.inj h)
      exact .inl rfl
  | some row =>
      rw [hfind] at h
      simp only at h
      split at h
      case isFalse =>
          obtain ⟨rfl, -⟩ := Prod.mk.inj (Except.ok.inj h)
          exact .inl rfl
      case isTrue hguard =>
          split at h
          case h_1 => exact absurd h nofun
          case h_2 row' hcheck =>
              obtain ⟨rfl, -⟩ := Prod.mk.inj (Except.ok.inj h)
              have hid := (find_id hfind).2
              rw [← hid] at hfind
              have hrow' := (check_update_ok hcheck).1
              have hrequested : (if row.state = .ready ∨ row.state = .failed then
                  DirectPrincipalState.requested else row.state) = .requested := by
                split
                case isTrue => rfl
                case isFalse hnot => exact hguard.1.resolve_right hnot
              refine .inr ⟨row, row', hfind, hid, hguard.1, check_row_step hcheck
                ⟨rfl, rfl, rfl, rfl, rfl, rfl⟩ ?_, by rw [hrow']; exact hrequested, by rw [hrow'],
                rfl⟩
              intro hready
              have hready := hready.symm.trans hrequested
              exact absurd hready nofun

/-- A granted claim gives a principal to a device. -/
theorem claim_spec {id deviceId : String} {target : DirectPrincipalState}
    (htarget : target = .applying ∨ target = .dropPending)
    (h : store.claim id deviceId target = .ok (store', matched)) :
    (store' = store ∧ matched = false) ∨ ∃ row, store.find row.id = some row ∧ row.id = id ∧
      RowStep row (row.granted store.now deviceId target) ∧ matched = true ∧
      store' = store.replace (row.granted store.now deviceId target) := by
  unfold DirectStore.claim at h
  cases hfind : store.find id with
  | none =>
      rw [hfind] at h
      obtain ⟨rfl, rfl⟩ := Prod.mk.inj (Except.ok.inj h)
      exact .inl ⟨rfl, rfl⟩
  | some row =>
      rw [hfind] at h
      simp only at h
      generalize (if target = .applying then _ else _ : List DirectPrincipalState) = admitted at h
      split at h
      case isFalse =>
          obtain ⟨rfl, rfl⟩ := Prod.mk.inj (Except.ok.inj h)
          exact .inl ⟨rfl, rfl⟩
      case isTrue =>
          split at h
          case h_1 => exact absurd h nofun
          case h_2 row' hcheck =>
              obtain ⟨rfl, rfl⟩ := Prod.mk.inj (Except.ok.inj h)
              have hid := (find_id hfind).2
              rw [← hid] at hfind
              have hrow' : row' = row.granted store.now deviceId target :=
                (check_update_ok hcheck).1
              have hstep : RowStep row row' := by
                refine check_row_step hcheck (granted_same row store.now deviceId target) ?_
                intro hready
                have hready : target = .ready := hready
                rcases htarget with rfl | rfl
                · exact absurd hready nofun
                · exact absurd hready nofun
              rw [hrow'] at hstep ⊢
              exact .inr ⟨row, hfind, hid, hstep, rfl, rfl⟩

/-- A settled receipt has a sound shape, comes from the device of the claim, and sets the level. -/
theorem settle_spec {receipt : DirectStore.DirectReceipt}
    (h : store.settleDirectReceipt receipt = .ok (store', matched)) :
    store' = store ∨ ∃ row row' fingerprint, store.find row.id = some row ∧
      row.id = receipt.principalId ∧ receipt.validShape = true ∧ row.state = receipt.source ∧
      row.appliedByDeviceId = some receipt.deviceId ∧ RowStep row row' ∧
      row'.state = receipt.target ∧ row'.appliedLevel = receipt.appliedLevel ∧
      store' = { store with serverFingerprint := fingerprint }.replace row' := by
  unfold DirectStore.settleDirectReceipt at h
  split at h
  case isTrue =>
      obtain ⟨rfl, -⟩ := Prod.mk.inj (Except.ok.inj h)
      exact .inl rfl
  case isFalse hshape =>
      cases hfind : store.find receipt.principalId with
      | none =>
          rw [hfind] at h
          obtain ⟨rfl, -⟩ := Prod.mk.inj (Except.ok.inj h)
          exact .inl rfl
      | some row =>
          rw [hfind] at h
          simp only at h
          split at h
          case isFalse =>
              obtain ⟨rfl, -⟩ := Prod.mk.inj (Except.ok.inj h)
              exact .inl rfl
          case isTrue hguard =>
              split at h
              case h_1 => exact absurd h nofun
              case h_2 row' hcheck =>
                  obtain ⟨rfl, -⟩ := Prod.mk.inj (Except.ok.inj h)
                  have hid := (find_id hfind).2
                  rw [← hid] at hfind
                  have hrow' := (check_update_ok hcheck).1
                  refine .inr ⟨row, row', _, hfind, hid, by simpa using hshape, hguard.1,
                    hguard.2.1, check_row_step hcheck ⟨rfl, rfl, rfl, rfl, rfl, rfl⟩ ?_,
                    by rw [hrow'], by rw [hrow'], rfl⟩
                  intro hready hnone
                  have hready : receipt.target = .ready := hready
                  have hnone : receipt.appliedLevel = .none := hnone
                  unfold DirectStore.DirectReceipt.validShape at hshape
                  simp [hready, hnone] at hshape

end Statements

/-! ## The invariant of the table -/

/-- The rows are sound, and every id and every member with a live principal is there once. -/
structure StoreInv (store : DirectStore) : Prop where
  rows : ∀ row ∈ store.principals, RowInv row
  ids : (store.principals.map (·.id)).Nodup
  members : ∀ row ∈ store.principals, ∀ other ∈ store.principals, row.state ≠ .dropped →
    other.state ≠ .dropped → row.memberId = other.memberId → row = other

section Invariant

variable {store store' : DirectStore}

/-- A row is found by its id. -/
theorem StoreInv.find (h : StoreInv store) {row : DirectPrincipal} (hrow : row ∈ store.principals) :
    store.find row.id = some row := by
  cases hfind : store.find row.id with
  | none =>
      have hnone := List.find?_eq_none.mp hfind row hrow
      simp at hnone
  | some other =>
      obtain ⟨hmem, hid⟩ := find_id hfind
      have heq := List.inj_on_of_nodup_map h.ids hmem hrow hid
      rw [heq]

/-- The rows after one was replaced. -/
theorem mem_replace {row' other : DirectPrincipal} :
    other ∈ (store.replace row').principals ↔
      ∃ before ∈ store.principals, other = if before.id = row'.id then row' else before := by
  unfold DirectStore.replace
  rw [List.mem_map]
  constructor
  · rintro ⟨before, hbefore, rfl⟩
    exact ⟨before, hbefore, rfl⟩
  · rintro ⟨before, hbefore, rfl⟩
    exact ⟨before, hbefore, rfl⟩

/-- Replacing a row by one of the same identity keeps the ids. -/
theorem ids_replace (row' : DirectPrincipal) :
    (store.replace row').principals.map (·.id) = store.principals.map (·.id) := by
  unfold DirectStore.replace
  rw [List.map_map]
  refine List.map_congr_left fun row _ => ?_
  show (if row.id = row'.id then row' else row).id = row.id
  split
  case isTrue h => exact h.symm
  case isFalse => rfl

/-- A statement keeps the invariant. -/
theorem StoreInv.statement (h : StoreInv store) (hcases : StatementCases store store') :
    StoreInv store' := by
  cases hcases with
  | same => exact h
  | @inserted row new =>
      refine ⟨?_, ?_, ?_⟩
      · intro other hother
        rcases List.mem_append.mp hother with hold | hnew
        · exact h.rows other hold
        · rw [List.mem_singleton.mp hnew]
          exact new.inv
      · rw [List.map_append, List.map_singleton, List.nodup_append]
        refine ⟨h.ids, List.nodup_singleton _, ?_⟩
        intro id hid id' hid'
        obtain ⟨other, hother, rfl⟩ := List.mem_map.mp hid
        rw [List.mem_singleton.mp hid']
        exact new.id other hother
      · intro a ha b hb halive hblive hmember
        rcases List.mem_append.mp ha with ha | ha
        · rcases List.mem_append.mp hb with hb | hb
          · exact h.members a ha b hb halive hblive hmember
          · rw [List.mem_singleton.mp hb] at hmember
            exact absurd hmember (new.member a ha halive)
        · rcases List.mem_append.mp hb with hb | hb
          · rw [List.mem_singleton.mp ha] at hmember
            exact absurd hmember.symm (new.member b hb hblive)
          · rw [List.mem_singleton.mp ha, List.mem_singleton.mp hb]
  | @replaced row row' found step fingerprint =>
      obtain ⟨hrow, -⟩ := find_id found
      have hid : ∀ other ∈ store.principals, other.id = row'.id → other = row := by
        intro other hother heq
        rw [step.same.id] at heq
        exact List.inj_on_of_nodup_map h.ids hother hrow heq
      refine ⟨?_, ?_, ?_⟩
      · intro other hother
        obtain ⟨before, hbefore, rfl⟩ := mem_replace.mp hother
        split
        · exact step.inv (h.rows row hrow)
        · exact h.rows before hbefore
      · rw [ids_replace]
        exact h.ids
      · intro a ha b hb halive hblive hmember
        obtain ⟨a, harow, rfl⟩ := mem_replace.mp ha
        obtain ⟨b, hbrow, rfl⟩ := mem_replace.mp hb
        -- of two live rows of a member, each is the replaced row or was there before
        by_cases haeq : a.id = row'.id
        · rw [if_pos haeq] at hmember halive ⊢
          by_cases hbeq : b.id = row'.id
          · rw [if_pos hbeq]
          · rw [if_neg hbeq] at hmember hblive ⊢
            have heq := h.members row hrow b hbrow step.live hblive (by
              rw [← step.same.memberId]
              exact hmember)
            rw [← heq, ← step.same.id] at hbeq
            exact absurd rfl hbeq
        · rw [if_neg haeq] at hmember halive ⊢
          by_cases hbeq : b.id = row'.id
          · rw [if_pos hbeq] at hmember hblive ⊢
            have heq := h.members a harow row hrow halive step.live (by
              rw [← step.same.memberId]
              exact hmember)
            rw [heq, ← step.same.id] at haeq
            exact absurd rfl haeq
          · rw [if_neg hbeq] at hmember hblive ⊢
            exact h.members a harow b hbrow halive hblive hmember

/-- A principal as it is inserted. -/
def DirectPrincipal.inserted (principal : DirectPrincipal) (now : Nat) : DirectPrincipal where
  id := principal.id
  memberId := principal.memberId
  userId := principal.userId
  principalName := principal.principalName
  marker := principal.marker
  verifierKind := principal.verifierKind
  verifier := principal.verifier
  createdAt := now

/-- An inserted principal is sound. -/
theorem new_row_inv (principal : DirectPrincipal) (now : Nat) : RowInv (principal.inserted now) := by
  refine ⟨⟨nofun, nofun⟩, ⟨Nat.le_refl 1, ?_, Nat.zero_le 1⟩, nofun⟩
  show 1 ≤ MAX_SAFE_INTEGER
  unfold MAX_SAFE_INTEGER
  omega

/-- A claim applies or drops. -/
theorem claim_direction (drop : Bool) :
    (if drop then .dropPending else .applying) = DirectPrincipalState.applying ∨
      (if drop then .dropPending else .applying) = DirectPrincipalState.dropPending := by
  cases drop with
  | true => exact .inr rfl
  | false => exact .inl rfl

/-- An event is a statement, or it leaves the principals. -/
theorem direct_step_cases (store : DirectStore) (event : DirectEvent) :
    StatementCases store (directStep store event) ∨
      (directStep store event).principals = store.principals := by
  have hcommitted : ∀ result : Except DirectAbort (DirectStore × Bool),
      (∀ store' matched, result = .ok (store', matched) → StatementCases store store') →
        StatementCases store (store.committed result) := by
    intro result h
    cases result with
    | error abort => exact .same
    | ok next => exact h next.1 next.2 rfl
  cases event with
  | insert principal =>
      refine .inl (hcommitted _ fun store' matched h => ?_)
      obtain ⟨hnew, rfl⟩ := insert_spec rfl (new_row_inv principal store.now) h
      exact .inserted hnew
  | revise id readVersion userId verifierKind verifier =>
      refine .inl (hcommitted _ fun store' matched h => ?_)
      rcases revise_spec h with rfl | ⟨row, row', hfind, -, -, hstep, -, -, rfl⟩
      · exact .same
      · exact .replaced hfind hstep store.serverFingerprint
  | claim id deviceId drop =>
      refine .inl (hcommitted _ fun store' matched h => ?_)
      rcases claim_spec (claim_direction drop) h with ⟨rfl, -⟩ | ⟨row, hfind, -, hstep, -, rfl⟩
      · exact .same
      · exact .replaced hfind hstep store.serverFingerprint
  | settle receipt =>
      refine .inl (hcommitted _ fun store' matched h => ?_)
      rcases settle_spec h with rfl | ⟨row, row', fingerprint, hfind, -, -, -, -, hstep, -, -, rfl⟩
      · exact .same
      · exact .replaced hfind hstep fingerprint
  | change facts => exact .inr rfl
  | tick milliseconds => exact .inr rfl

/-- Every event takes every principal along an allowed transition. -/
theorem direct_step_allowed (h : StoreInv store) (event : DirectEvent) :
    ∀ row ∈ store.principals, ∃ row' ∈ (directStep store event).principals, row'.id = row.id ∧
      isDirectTransitionAllowed row.state row'.state = true := by
  have hself : ∀ state, isDirectTransitionAllowed state state = true := by
    intro state
    unfold isDirectTransitionAllowed
    rw [decide_eq_true_iff]
    exact .inl rfl
  intro row hrow
  rcases direct_step_cases store event with hcases | hsame
  · generalize directStep store event = store' at hcases
    cases hcases with
    | same => exact ⟨row, hrow, rfl, hself _⟩
    | inserted new => exact ⟨row, List.mem_append_left _ hrow, rfl, hself _⟩
    | @replaced before row' found step fingerprint =>
        refine ⟨_, mem_replace.mpr ⟨row, hrow, rfl⟩, ?_⟩
        by_cases hid : row.id = row'.id
        · rw [if_pos hid]
          rw [step.same.id] at hid
          have heq := List.inj_on_of_nodup_map h.ids hrow (find_id found).1 hid
          rw [heq]
          exact ⟨step.same.id, step.allowed⟩
        · rw [if_neg hid]
          exact ⟨rfl, hself _⟩
  · rw [hsame]
    exact ⟨row, hrow, rfl, hself _⟩

/-- Every event keeps the invariant. -/
theorem StoreInv.step (h : StoreInv store) (event : DirectEvent) :
    StoreInv (directStep store event) := by
  rcases direct_step_cases store event with hcases | hsame
  · exact h.statement hcases
  · obtain ⟨hrows, hids, hmembers⟩ := h
    rw [← hsame] at hrows hids hmembers
    exact ⟨hrows, hids, hmembers⟩

/-- The tables before any principal was requested. -/
def DirectStore.new (engine : DirectEngine) (facts : DirectFacts) (fingerprint : Option String)
    (now : Nat) : DirectStore where
  engine := engine
  facts := facts
  serverFingerprint := fingerprint
  now := now

/-- Every run keeps the invariant. -/
theorem store_inv_run (engine : DirectEngine) (facts : DirectFacts) (fingerprint : Option String)
    (now : Nat) (events : List DirectEvent) :
    StoreInv (run directStep (DirectStore.new engine facts fingerprint now) events) := by
  have hstart : StoreInv (DirectStore.new engine facts fingerprint now) :=
    ⟨fun _ h => absurd h List.not_mem_nil, List.nodup_nil, fun _ h => absurd h List.not_mem_nil⟩
  exact run_invariant hstart (fun _ event h => StoreInv.step h event) events

end Invariant

end Dopedb.Cloud
