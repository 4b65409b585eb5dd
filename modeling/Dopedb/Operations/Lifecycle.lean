import Dopedb.Operations.Rows
import Dopedb.Reference

/-!
# Lifecycle guarantees

What holds along every run: how a stored operation relates to itself later (`Later`), that a
target-mutating operation never starts without the exact approval of a person, and that an
operation enters `executing` at most once.

Read `row_sound_step` for the row invariant and `reached_later` for the history relation.
-/

namespace Dopedb.Operations

open Library OperationState

variable {platform : Platform} {s s' : Store}

/-! ## The row invariant -/

/-- The invariant of a row: an execution that started is recorded in `startedAt` for good, and a
target-mutating operation started with the exact approval of a person. -/
structure RowSound (s : Store) (row : OperationRow) : Prop where
  executed : row.state = executing → row.startedAt.isSome = true
  started : row.startedAt.isSome = true → row.state = executing ∨ row.state.isTerminal = true
  approved : row.kind.mayMutateTarget = true → ∀ now, row.startedAt = some now →
    ∃ approval ∈ s.approvals, ExactApproval row now approval

/-- The ledger records the start of a row: only a started row has an event in `executing`, and
exactly one event announces the start. -/
structure StartRecorded (s : Store) (row : OperationRow) : Prop where
  entered : ∀ event ∈ s.eventsOf row.id, event.state = executing → row.startedAt.isSome = true
  announced : (s.eventsOf row.id).countP (fun event => event.kind = .executionStarted) =
    row.startedAt.isSome.toNat

/-- The invariant of the store. -/
structure Sound (s : Store) : Prop where
  rows : ∀ row ∈ s.operations, RowSound s row
  starts : ∀ row ∈ s.operations, StartRecorded s row
  human : ∀ approval ∈ s.approvals, IsHuman approval.approverKind
  owned : ∀ event ∈ s.events, ∃ row ∈ s.operations, row.id = event.operationId

/-- An approval stays exact while the columns it covers stay the same. -/
theorem ExactApproval.congr {row row' : OperationRow} {now : DateTime} {approval : ApprovalRow}
    (h : ExactApproval row now approval) (hid : row'.id = row.id)
    (hhash : row'.payloadHash = row.payloadHash)
    (hrevision : row'.policyRevision = row.policyRevision) : ExactApproval row' now approval :=
  ⟨h.operationId.trans hid.symm, h.decision, h.payloadHash.trans hhash.symm,
    h.policyRevision.trans hrevision.symm, h.unexpired⟩

/-- Every step keeps the row invariant. Entering `executing` sets `startedAt` and brings the
approval; leaving it keeps `startedAt`, and no other step touches it. -/
theorem row_sound_step (h : Change platform s s') {row row' : OperationRow}
    (hsound : RowSound s row) (hstep : RowStep platform s s' row row') : RowSound s' row' := by
  have hkept : ∀ {now}, (∃ approval ∈ s.approvals, ExactApproval row now approval) →
      ∃ approval ∈ s'.approvals, ExactApproval row' now approval := by
    rintro now ⟨approval, hmem, hexact⟩
    refine ⟨approval, change_approval_kept h hmem, ?_⟩
    cases hstep <;> exact hexact.congr rfl rfl rfl
  cases hstep with
  | kept =>
      exact ⟨hsound.executed, hsound.started,
        fun hmutates now hnow => hkept (hsound.approved hmutates now hnow)⟩
  | progressed =>
      exact ⟨hsound.executed, hsound.started,
        fun hmutates now hnow => hkept (hsound.approved hmutates now hnow)⟩
  | reowned runtimeId now hlive =>
      exact ⟨hsound.executed, hsound.started,
        fun hmutates start hstart => hkept (hsound.approved hmutates start hstart)⟩
  | advanced target now event hallowed hstart =>
      by_cases htarget : target = executing
      · have hnow : (row.advance target now).startedAt = some now := if_pos htarget
        refine ⟨fun _ => by rw [hnow]; rfl, fun _ => .inl htarget, fun hmutates start heq => ?_⟩
        obtain rfl : now = start := Option.some.inj (hnow.symm.trans heq)
        exact hkept ((hstart htarget).approval hmutates)
      · have hsame : (row.advance target now).startedAt = row.startedAt := if_neg htarget
        refine ⟨fun heq => (htarget heq).elim, fun hstarted => ?_, fun hmutates start heq => ?_⟩
        · rw [hsame] at hstarted
          rcases hsound.started hstarted with hexecuting | hterminal
          · exact .inr (terminal_of_executing_allowed (hexecuting ▸ hallowed))
          · rw [not_terminal_of_allowed hallowed] at hterminal
            cases hterminal
        · rw [hsame] at heq
          exact hkept (hsound.approved hmutates start heq)

/-- A new row has not started. -/
theorem row_sound_new {row : OperationRow} (hnew : NewRow platform s s' row) : RowSound s' row := by
  refine ⟨fun hexecuting => ?_, fun hstarted => ?_, fun _ now hnow => ?_⟩
  · cases hnew.state.symm.trans hexecuting
  · rw [hnew.started] at hstarted
    cases hstarted
  · cases hnew.started.symm.trans hnow

/-- An event that does not announce a start, in a state other than `executing` unless the row has
started, keeps the record of the start. -/
theorem StartRecorded.extend {row row' : OperationRow} {event : EventRow}
    (h : StartRecorded s row) (hextends : Extends platform row.id event s s')
    (hid : row'.id = row.id) (hstarted : row'.startedAt = row.startedAt)
    (hkind : event.kind ≠ .executionStarted)
    (hstate : event.state = executing → row.startedAt.isSome = true) : StartRecorded s' row' := by
  constructor
  · rw [hid, hextends.eventsOf, hstarted]
    intro e he hexecuting
    rcases List.mem_append.mp he with hold | hnew
    · exact h.entered e hold hexecuting
    · obtain rfl := List.mem_singleton.mp hnew
      exact hstate hexecuting
  · rw [hid, hextends.eventsOf, hstarted, List.countP_append, h.announced]
    simp [hkind]

/-- Every step keeps the record of the start. -/
theorem start_recorded_step {row row' : OperationRow} (hrow : RowSound s row)
    (h : StartRecorded s row) (hstep : RowStep platform s s' row row') : StartRecorded s' row' := by
  cases hstep with
  | kept hevents => exact ⟨hevents ▸ h.entered, hevents ▸ h.announced⟩
  | reowned runtimeId now hlive hevents => exact ⟨hevents ▸ h.entered, hevents ▸ h.announced⟩
  | progressed event hkind hstate hextends =>
      refine h.extend hextends rfl rfl (by rw [hkind]; decide) fun hexecuting => ?_
      exact hrow.executed (hstate ▸ hexecuting)
  | advanced target now event hallowed hstart hkind hstate hextends =>
      by_cases htarget : target = executing
      · have hnow : (row.advance target now).startedAt = some now := if_pos htarget
        have hfresh : row.startedAt.isSome = false := by
          rw [Bool.eq_false_iff]
          intro hstarted
          subst htarget
          rcases hrow.started hstarted with hexecuting | hterminal
          · rw [hexecuting] at hallowed
            cases hallowed
          · cases (not_terminal_of_allowed hallowed).symm.trans hterminal
        refine ⟨fun _ _ _ => by rw [hnow]; rfl, ?_⟩
        have hevent : event.kind = .executionStarted :=
          hkind.trans (transition_event_kind_started.mpr htarget)
        rw [hnow]
        change (s'.eventsOf row.id).countP _ = _
        rw [hextends.eventsOf, List.countP_append, h.announced, hfresh]
        simp [hevent]
      · refine h.extend hextends rfl (if_neg htarget) ?_ fun hexecuting => ?_
        · rw [hkind]
          exact fun hstarts => htarget (transition_event_kind_started.mp hstarts)
        · exact (htarget (hstate.symm.trans hexecuting)).elim

/-- An operation outside the store has no events. -/
theorem Sound.events_of_fresh (h : Sound s) {operationId : Uuid}
    (hfresh : ∀ row ∈ s.operations, row.id ≠ operationId) : s.eventsOf operationId = [] := by
  refine List.eq_nil_iff_forall_not_mem.mpr fun event hevent => ?_
  obtain ⟨hmem, hid⟩ := mem_events_of.mp hevent
  obtain ⟨row, hrow, hown⟩ := h.owned event hmem
  exact hfresh row hrow (hown.trans hid)

/-- The ledger of a new row is its first event. -/
theorem NewRow.first_event {row : OperationRow} (hs : Sound s) (hnew : NewRow platform s s' row) :
    ∃ event, event.kind = .planned ∧ event.state = planned ∧ s'.eventsOf row.id = [event] ∧
      Extends platform row.id event s s' := by
  obtain ⟨event, hkind, hstate, hextends⟩ := hnew.event
  refine ⟨event, hkind, hstate, ?_, hextends⟩
  rw [hextends.eventsOf, hs.events_of_fresh hnew.fresh, List.nil_append]

/-- A new row has no start to record. -/
theorem start_recorded_new {row : OperationRow} (hs : Sound s) (hnew : NewRow platform s s' row) :
    StartRecorded s' row := by
  obtain ⟨event, hkind, hstate, hevents, -⟩ := hnew.first_event hs
  constructor
  · rw [hevents]
    intro e he hexecuting
    obtain rfl := List.mem_singleton.mp he
    cases hstate.symm.trans hexecuting
  · rw [hevents, hnew.started]
    simp [hkind]

/-- Every change keeps the invariant of the store. -/
theorem sound_change (s s' : Store) (hs : Sound s) (h : Change platform s s') : Sound s' := by
  refine ⟨fun row' hrow' => ?_, fun row' hrow' => ?_, fun approval happroval => ?_,
    fun event hevent => ?_⟩
  · rcases change_row h hrow' with hnew | ⟨row, hrow, hstep⟩
    · exact row_sound_new hnew
    · exact row_sound_step h (hs.rows row hrow) hstep
  · rcases change_row h hrow' with hnew | ⟨row, hrow, hstep⟩
    · exact start_recorded_new hs hnew
    · exact start_recorded_step (hs.rows row hrow) (hs.starts row hrow) hstep
  · rcases change_approval_human h happroval with hold | hhuman
    · exact hs.human approval hold
    · exact hhuman
  · rcases change_event h hevent with hold | hown
    · obtain ⟨row, hrow, hid⟩ := hs.owned event hold
      obtain ⟨row', hrow', hid'⟩ := change_row_id h hrow
      exact ⟨row', hrow', hid'.trans hid⟩
    · exact hown

/-- The empty store satisfies the invariant. -/
theorem sound_empty : Sound Store.empty :=
  ⟨fun _ h => (Table.not_mem_empty h).elim, fun _ h => (Table.not_mem_empty h).elim,
    fun _ h => (Table.not_mem_empty h).elim, fun _ h => (Table.not_mem_empty h).elim⟩

/-- Every reachable store satisfies the invariant. -/
theorem reached_sound (platform : Platform) (calls : List Call) :
    Sound (reached platform calls) :=
  reached_invariant sound_empty sound_change calls

/-! ## History -/

/-- `row'` is the same operation as `row` at a later moment. Only the owner, the state and the
time columns may differ, a finished operation does not change at all, a recorded start stays,
and an executing operation only finishes. -/
structure Later (row row' : OperationRow) : Prop where
  fixed : row' = { row with
    runtimeId := row'.runtimeId, state := row'.state, startedAt := row'.startedAt,
    finishedAt := row'.finishedAt, updatedAt := row'.updatedAt }
  terminal : row.state.isTerminal = true → row' = row
  started : row.startedAt.isSome = true → row'.startedAt = row.startedAt
  executing : row.state = executing → row'.state = executing ∨ row'.state.isTerminal = true

/-- An operation is its own later self. -/
theorem Later.refl (row : OperationRow) : Later row row :=
  ⟨rfl, fun _ => rfl, fun _ => rfl, .inl⟩

/-- Later moments compose. -/
theorem Later.trans {row row' row'' : OperationRow} (h : Later row row') (h' : Later row' row'') :
    Later row row'' := by
  refine ⟨?_, fun hterminal => ?_, fun hstarted => ?_, fun hexecuting => ?_⟩
  · rw [h'.fixed, h.fixed]
  · obtain rfl := h.terminal hterminal
    exact h'.terminal hterminal
  · have hsame := h.started hstarted
    rw [h'.started (by rw [hsame]; exact hstarted), hsame]
  · rcases h.executing hexecuting with hstill | hdone
    · exact h'.executing hstill
    · obtain rfl := h'.terminal hdone
      exact .inr hdone

/-- The same operation keeps its id. -/
theorem Later.id_eq {row row' : OperationRow} (h : Later row row') : row'.id = row.id := by
  rw [h.fixed]

/-- A step of a sound row leads to a later moment of it. -/
theorem RowStep.later {row row' : OperationRow} (hsound : RowSound s row)
    (h : RowStep platform s s' row row') : Later row row' := by
  cases h with
  | kept | progressed => exact .refl row
  | reowned runtimeId now hlive =>
      refine ⟨rfl, fun hterminal => ?_, fun _ => rfl, .inl⟩
      cases hlive.symm.trans hterminal
  | advanced target now event hallowed =>
      have hlive := not_terminal_of_allowed hallowed
      refine ⟨rfl, fun hterminal => ?_, fun hstarted => ?_, fun hexecuting => ?_⟩
      · cases hlive.symm.trans hterminal
      · refine if_neg ?_
        rintro rfl
        rcases hsound.started hstarted with hexecuting | hterminal
        · rw [hexecuting] at hallowed
          cases hallowed
        · cases hlive.symm.trans hterminal
      · exact .inr (terminal_of_executing_allowed (hexecuting ▸ hallowed))

/-- Every operation of `s` is still in `s'`, at a later moment. -/
def Continues (s s' : Store) : Prop :=
  ∀ row ∈ s.operations, ∃ row' ∈ s'.operations, Later row row'

/-- Later stores compose. -/
theorem Continues.trans {s s' s'' : Store} (h : Continues s s') (h' : Continues s' s'') :
    Continues s s'' := by
  intro row hrow
  obtain ⟨row', hrow', hlater⟩ := h row hrow
  obtain ⟨row'', hrow'', hlater'⟩ := h' row' hrow'
  exact ⟨row'', hrow'', hlater.trans hlater'⟩

/-- Every call continues the operations of a sound store. -/
theorem exec_continues (s : Store) (call : Call) (hs : Sound s) :
    Continues s (exec platform s call) := by
  refine Changes.relation (R := Continues) sound_change (fun s row hrow => ⟨row, hrow, .refl row⟩)
    Continues.trans (fun s s' hs h row hrow => ?_) (exec_changes s call) hs
  obtain ⟨row', hrow', hstep⟩ := change_row_step h hrow
  exact ⟨row', hrow', hstep.later (hs.rows row hrow)⟩

/-- Every run continues the operations of a sound store. -/
theorem run_continues {s : Store} (hs : Sound s) (calls : List Call) :
    Continues s (run (exec platform) s calls) :=
  run_relation (R := Continues) hs (fun s call h => (exec_changes s call).invariant sound_change h)
    (fun _ row hrow => ⟨row, hrow, .refl row⟩) Continues.trans
    (fun s call h => exec_continues s call h) calls

/-- The row of an operation after a run is a later moment of its row after a prefix. -/
theorem reached_later {earlier calls : List Call} (hfirst : earlier <+: calls)
    {row row' : OperationRow} (hrow : row ∈ (reached platform earlier).operations)
    (hrow' : row' ∈ (reached platform calls).operations) (hid : row'.id = row.id) :
    Later row row' := by
  obtain ⟨later, rfl⟩ := hfirst
  rw [reached, run_append] at hrow'
  obtain ⟨row'', hrow'', hlater⟩ := run_continues (reached_sound platform earlier) later row hrow
  obtain rfl := Table.eq_of_key_eq hrow' hrow'' (hid.trans hlater.id_eq.symm)
  exact hlater

/-! ## Approval before execution -/

/-- The operation was executing at some point of the run, or its ledger says so. -/
def HasExecuted (platform : Platform) (calls : List Call) (operationId : Uuid) : Prop :=
  (∃ earlier, earlier <+: calls ∧ ∃ row ∈ (reached platform earlier).operations,
    row.id = operationId ∧ row.state = executing) ∨
  ∃ event ∈ (reached platform calls).eventsOf operationId, event.state = executing

/-- An operation that has executed has a recorded start. -/
theorem started_of_has_executed {calls : List Call} {row : OperationRow}
    (hrow : row ∈ (reached platform calls).operations)
    (h : HasExecuted platform calls row.id) : row.startedAt.isSome = true := by
  rcases h with ⟨earlier, hfirst, row₀, hrow₀, hid, hexecuting⟩ | ⟨event, hevent, hstate⟩
  · have hstarted := ((reached_sound platform earlier).rows row₀ hrow₀).executed hexecuting
    rw [(reached_later hfirst hrow₀ hrow hid.symm).started hstarted]
    exact hstarted
  · exact ((reached_sound platform calls).starts row hrow).entered event hevent hstate

/-- A target-mutating operation that executes, or has executed, holds the exact approval of a
person that had not expired when the execution started. -/
theorem mutation_executes_only_with_human_approval (platform : Platform) (calls : List Call)
    {row : OperationRow} (hrow : row ∈ (reached platform calls).operations)
    (hmutates : row.kind.mayMutateTarget = true) (hexecuted : HasExecuted platform calls row.id) :
    ∃ approval ∈ (reached platform calls).approvals, ∃ startedAt : DateTime,
      approval.operationId = row.id ∧ approval.decision = .approved ∧
      approval.payloadHash = row.payloadHash ∧ approval.policyRevision = row.policyRevision ∧
      (approval.approverKind = .localUser ∨ approval.approverKind = .workspaceUser) ∧
      row.startedAt = some startedAt ∧
      ∀ expiry, approval.expiresAt = some expiry → startedAt < expiry := by
  have hsound := reached_sound platform calls
  obtain ⟨startedAt, hstarted⟩ :=
    Option.isSome_iff_exists.mp (started_of_has_executed hrow hexecuted)
  obtain ⟨approval, hmem, hexact⟩ := (hsound.rows row hrow).approved hmutates startedAt hstarted
  refine ⟨approval, hmem, startedAt, hexact.operationId, hexact.decision, hexact.payloadHash,
    hexact.policyRevision, hsound.human approval hmem, hstarted, fun expiry hexpiry => ?_⟩
  have hunexpired := hexact.unexpired
  rw [hexpiry] at hunexpired
  exact of_decide_eq_true hunexpired

/-- A write that a person must approve. -/
def samplePlan : NewOperation :=
  { id := ⟨"00000000-0000-4000-8000-000000000001"⟩
    workspaceId := ⟨"00000000-0000-4000-8000-000000000002"⟩
    accountScope := "local"
    connectionId := ⟨"00000000-0000-4000-8000-000000000003"⟩
    connectionRevision := 1
    terminalSessionId := none
    actor := ⟨.localUser, "user", ⟨none, none, none, none, none, none, none, "desktop"⟩⟩
    kind := .writeSql
    payloadSchemaVersion := 1
    payload := .obj [("sql", .str "DELETE FROM t")]
    schemaFingerprint := none
    riskLevel := .high
    preview := .null
    policySnapshot := .null
    policyRevision := "p1"
    singleUse := true
    idempotencyKey := "k1"
    expiresAt := some 60000000000 }

/-- The runtime of the sample runs. -/
def sampleRuntime : Uuid := ⟨"00000000-0000-4000-8000-000000000004"⟩

/-- A fresh id of the sample runs. -/
def sampleId (n : Nat) : Uuid := ⟨"00000000-0000-4000-8000-00000000001" ++ n.repr⟩

/-- The user approves the write. -/
def sampleDecision : OperationApprovalCommand :=
  { operationId := samplePlan.id
    runtimeId := sampleRuntime
    expectedPayloadHash := (CanonicalJson.fromValue Reference.platform samplePlan.payload).sha256
    approver := ⟨.localUser, "user"⟩
    decision := .approved
    reason := none
    currentPolicyRevision := "p1"
    now := 2000000000 }

/-- The write is planned and waits for its approval. -/
def plannedCalls : List Call :=
  [.insertPlanned sampleRuntime samplePlan 0 (sampleId 0),
    .transition samplePlan.id sampleRuntime pendingApproval (.obj []) 1000000000 (sampleId 1)]

/-- The write is approved and claimed. -/
def claimedCalls : List Call :=
  plannedCalls ++ [.decideApproval sampleDecision (sampleId 2) (sampleId 3),
    .claimExecution samplePlan.id sampleRuntime 3000000000 (sampleId 4)]

set_option maxRecDepth 100000 in
/-- The claimed write executes. -/
theorem sample_executes :
    ((reached Reference.platform claimedCalls).operations.find? samplePlan.id).any
      (fun row => row.kind = .writeSql && row.state = executing) = true := by
  decide

/-- The claimed write holds its approval. -/
theorem sample_write_has_approval :
    ∃ row ∈ (reached Reference.platform claimedCalls).operations, row.state = executing ∧
      ∃ approval ∈ (reached Reference.platform claimedCalls).approvals, ∃ startedAt : DateTime,
        approval.operationId = row.id ∧ approval.decision = .approved ∧
        approval.payloadHash = row.payloadHash ∧ approval.policyRevision = row.policyRevision ∧
        (approval.approverKind = .localUser ∨ approval.approverKind = .workspaceUser) ∧
        row.startedAt = some startedAt ∧
        ∀ expiry, approval.expiresAt = some expiry → startedAt < expiry := by
  obtain ⟨row, hfind, hstate⟩ := Option.any_eq_true _ _ |>.mp sample_executes
  simp only [Bool.and_eq_true, decide_eq_true_eq] at hstate
  have hrow := (Table.find?_eq_some.mp hfind).1
  have hmutates : row.kind.mayMutateTarget = true := by rw [hstate.1]; rfl
  exact ⟨row, hrow, hstate.2,
    mutation_executes_only_with_human_approval Reference.platform claimedCalls hrow hmutates
      (.inl ⟨claimedCalls, List.prefix_refl _, row, hrow, rfl, hstate.2⟩)⟩

/-! ## At most one execution -/

/-- At most one event of an operation announces its execution. -/
theorem count_execution_started_le_one (hs : Sound s) (operationId : Uuid) :
    (s.eventsOf operationId).countP (fun event => event.kind = .executionStarted) ≤ 1 := by
  by_cases hrow : ∃ row ∈ s.operations, row.id = operationId
  · obtain ⟨row, hrow, rfl⟩ := hrow
    rw [(hs.starts row hrow).announced]
    exact Bool.toNat_le _
  · rw [hs.events_of_fresh fun row hmem hid => hrow ⟨row, hmem, hid⟩]
    exact Nat.zero_le _

/-- After an accepted claim the operation is executing or finished for good. -/
theorem claimed_state {earlier between : List Call} {operationId runtimeId : Uuid}
    {now : DateTime} {eventId : Uuid} {a : Answer}
    (h : answer platform (reached platform earlier)
      (.claimExecution operationId runtimeId now eventId) = .ok a)
    {row : OperationRow} (hid : row.id = operationId)
    (hrow : row ∈ (reached platform (earlier ++
      .claimExecution operationId runtimeId now eventId :: between)).operations) :
    row.state = executing ∨ row.state.isTerminal = true := by
  obtain ⟨source, hsource, -, -, hadvances⟩ := answer_claim_ok h
  have hclaimed := hadvances.mem_after
  have hfirst : earlier ++ [.claimExecution operationId runtimeId now eventId] <+:
      earlier ++ .claimExecution operationId runtimeId now eventId :: between := by
    simp [List.prefix_append_right_inj]
  have hafter : source.advance executing now ∈ (reached platform
      (earlier ++ [.claimExecution operationId runtimeId now eventId])).operations := by
    rw [reached, run_append]
    exact hclaimed
  exact (reached_later hfirst hafter hrow (hid.trans hsource.symm)).executing rfl

/-- An operation enters `executing` at most once. Along every run each operation only moves on to
later moments of itself, one event at most announces an execution, an operation that left
`executing` never returns to it, a second claim is refused, and a refused call changes nothing
but the expiry that it records. -/
theorem operation_executes_at_most_once (platform : Platform) (calls : List Call) :
    (∀ earlier, earlier <+: calls →
      Continues (reached platform earlier) (reached platform calls)) ∧
    (∀ operationId, ((reached platform calls).eventsOf operationId).countP
      (fun event => event.kind = .executionStarted) ≤ 1) ∧
    (∀ earlier middle, earlier <+: middle → middle <+: calls →
      ∀ row ∈ (reached platform earlier).operations, ∀ row' ∈ (reached platform middle).operations,
      ∀ row'' ∈ (reached platform calls).operations, row'.id = row.id → row''.id = row.id →
      row.state = executing → row'.state ≠ executing → row''.state ≠ executing) ∧
    (∀ earlier between operationId runtimeId now eventId a,
      calls = earlier ++ .claimExecution operationId runtimeId now eventId :: between →
      answer platform (reached platform earlier)
        (.claimExecution operationId runtimeId now eventId) = .ok a →
      ∀ runtimeId' now' eventId' a', answer platform (reached platform calls)
        (.claimExecution operationId runtimeId' now' eventId') ≠ .ok a') ∧
    (∀ call e, answer platform (reached platform calls) call = .error e →
      exec platform (reached platform calls) call = reached platform calls ∨
      ∃ operationId now, call.expirable = some (operationId, now) ∧
        Expires platform operationId now (reached platform calls)
          (exec platform (reached platform calls) call)) := by
  refine ⟨?_, ?_, ?_, ?_, fun call e => exec_of_error⟩
  · rintro earlier ⟨later, rfl⟩
    rw [reached, reached, run_append]
    exact run_continues (reached_sound platform earlier) later
  · exact count_execution_started_le_one (reached_sound platform calls)
  · intro earlier middle hearlier hmiddle row hrow row' hrow' row'' hrow'' hid hid' hexecuting hleft
    have hterminal : row'.state.isTerminal = true :=
      ((reached_later hearlier hrow hrow' hid).executing hexecuting).resolve_left hleft
    rw [(reached_later hmiddle hrow' hrow'' (hid'.trans hid.symm)).terminal hterminal]
    exact hleft
  · rintro earlier between operationId runtimeId now eventId a rfl haccepted runtimeId' now'
      eventId' a' haccepted'
    obtain ⟨row, hid, hstate, -, hadvances⟩ := answer_claim_ok haccepted'
    -- the first claim left the operation executing or ended, and neither can be claimed
    rcases claimed_state haccepted hid hadvances.mem with hexecuting | hterminal
    · rcases hstate with hready | happroved
      · cases hready.symm.trans hexecuting
      · cases happroved.symm.trans hexecuting
    · cases (not_terminal_of_allowed hadvances.allowed).symm.trans hterminal

end Dopedb.Operations
