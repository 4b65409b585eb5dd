import Dopedb.Library.Runs
import Dopedb.Library.Sorting
import Dopedb.Operations.Repository

/-!
# Calls and their changes

A `Call` is one use of the repository with its fresh ids and its reading of the clock, and
`exec` commits it. Every call is a sequence of five kinds of small change (`Change`): a plan
with its first event, an approval, a new owner, a transition with its event, and a progress
event. The invariants of the store are proved for these changes.

Read `transition_tx_changes` for the shared transition primitive and `exec_changes` for the
decomposition of every call.
-/

namespace Dopedb.Operations

open Library OperationState

/-! ## Calls -/

/-- One call on the repository. -/
inductive Call where
  | insertPlanned (runtimeId : Uuid) (operation : NewOperation) (createdAt : DateTime)
      (eventId : Uuid)
  | transition (operationId runtimeId : Uuid) (target : OperationState) (details : Json)
      (now : DateTime) (eventId : Uuid)
  | claimExecution (operationId runtimeId : Uuid) (now : DateTime) (eventId : Uuid)
  | rebindResumableExecution (operationId runtimeId : Uuid) (expectedPayloadHash : String)
      (now : DateTime) (eventId : Uuid)
  | rebindProviderExecution (operationId runtimeId : Uuid) (expectedPayloadHash : String)
      (now : DateTime) (eventId : Uuid)
  | rebindPendingJob (operationId runtimeId : Uuid) (expectedPayloadHash : String)
      (now : DateTime) (eventId : Uuid)
  | rebindPausedJob (operationId runtimeId : Uuid) (expectedPayloadHash : String)
      (now : DateTime) (eventId : Uuid)
  | quarantineProviderExecution (operationId runtimeId : Uuid)
      (expectedPayloadHash reason : String) (now : DateTime) (eventId : Uuid)
  | appendProgress (operationId runtimeId : Uuid) (details : Json) (now : DateTime)
      (eventId : Uuid)
  | decideApproval (command : OperationApprovalCommand) (approvalId eventId : Uuid)
  | recoverPreviousRuntimes (currentRuntimeId : Uuid) (clock : Uuid → DateTime)
      (eventIds : Uuid → Uuid)

/-- What a call returns. -/
inductive Answer where
  | operation (record : OperationRecord)
  | done
  | report (report : RestartRecoveryReport)

section
variable (platform : Platform)

/-- The transaction of a call. -/
def Call.tx : Call → RepoTx (Except AppError Answer)
  | .insertPlanned runtimeId operation createdAt eventId =>
    Except.map .operation <$> Operations.insertPlanned platform runtimeId operation createdAt
      eventId
  | .transition operationId runtimeId target details now eventId =>
    Except.map .operation <$> Operations.transition platform operationId runtimeId target details
      now eventId
  | .claimExecution operationId runtimeId now eventId =>
    Except.map .operation <$> Operations.claimExecution platform operationId runtimeId now eventId
  | .rebindResumableExecution operationId runtimeId expectedPayloadHash now eventId =>
    Except.map .operation <$> Operations.rebindResumableExecution platform operationId runtimeId
      expectedPayloadHash now eventId
  | .rebindProviderExecution operationId runtimeId expectedPayloadHash now eventId =>
    Except.map .operation <$> Operations.rebindProviderExecution platform operationId runtimeId
      expectedPayloadHash now eventId
  | .rebindPendingJob operationId runtimeId expectedPayloadHash now eventId =>
    Except.map .operation <$> Operations.rebindPendingJob platform operationId runtimeId
      expectedPayloadHash now eventId
  | .rebindPausedJob operationId runtimeId expectedPayloadHash now eventId =>
    Except.map .operation <$> Operations.rebindPausedJob platform operationId runtimeId
      expectedPayloadHash now eventId
  | .quarantineProviderExecution operationId runtimeId expectedPayloadHash reason now eventId =>
    Except.map .operation <$> Operations.quarantineProviderExecution platform operationId
      runtimeId expectedPayloadHash reason now eventId
  | .appendProgress operationId runtimeId details now eventId =>
    Except.map (fun _ => .done) <$> Operations.appendProgress platform operationId runtimeId
      details now eventId
  | .decideApproval command approvalId eventId =>
    Except.map .operation <$> Operations.decideApproval platform command approvalId eventId
  | .recoverPreviousRuntimes currentRuntimeId clock eventIds =>
    Except.map .report <$> Operations.recoverPreviousRuntimes platform currentRuntimeId clock
      eventIds

/-- What a call answers. -/
def answer (s : Store) (call : Call) : Except AppError Answer := (Tx.commit (call.tx platform) s).1

/-- The store after a call. -/
def exec (s : Store) (call : Call) : Store := (Tx.commit (call.tx platform) s).2

/-- The store after a run from the empty store. -/
def reached (calls : List Call) : Store := run (exec platform) Store.empty calls

end

/-! ## Small changes -/

/-- The store with one operation rewritten. -/
def Store.modifyOperation (s : Store) (id : Uuid) (f : OperationRow → OperationRow)
    (hf : ∀ r : OperationRow, (f r).key = r.key) : Store :=
  { s with operations := s.operations.modify id f hf }

/-- The rows after one operation was rewritten. -/
theorem mem_modify_operation {s : Store} {id : Uuid} {f : OperationRow → OperationRow}
    {hf : ∀ r : OperationRow, (f r).key = r.key} {x : OperationRow} :
    x ∈ (s.modifyOperation id f hf).operations ↔
      ∃ r ∈ s.operations, x = if r.id = id then f r else r :=
  (Table.mem_modify : x ∈ s.operations.modify id f hf ↔ _)

/-- The rewritten row is in the store. -/
theorem modified_mem {s : Store} {f : OperationRow → OperationRow}
    {hf : ∀ r : OperationRow, (f r).key = r.key} {row : OperationRow}
    (hrow : row ∈ s.operations) : f row ∈ (s.modifyOperation row.id f hf).operations :=
  mem_modify_operation.mpr ⟨row, hrow, (if_pos rfl).symm⟩

/-- The person who approves is a local or a workspace user. -/
def IsHuman (kind : OperationActorKind) : Prop := kind = .localUser ∨ kind = .workspaceUser

/-- The approval covers exactly this operation at the given instant. -/
structure ExactApproval (row : OperationRow) (now : DateTime) (approval : ApprovalRow) : Prop where
  operationId : approval.operationId = row.id
  decision : approval.decision = .approved
  payloadHash : approval.payloadHash = row.payloadHash
  policyRevision : approval.policyRevision = row.policyRevision
  unexpired : unexpired approval.expiresAt now = true

/-- A row may start to execute: it is not expired, and if it changes its target it has an exact
approval. -/
structure MayStart (s : Store) (row : OperationRow) (now : DateTime) : Prop where
  unexpired : unexpired row.expiresAt now = true
  approval : row.kind.mayMutateTarget = true →
    ∃ approval ∈ s.approvals, ExactApproval row now approval

section
variable (platform : Platform)

/-- The fields of an event row that its hash covers. -/
def EventRow.hashInput (event : EventRow) : EventHashInput :=
  { eventId := event.id
    operationId := event.operationId
    sequence := event.sequence
    kind := event.kind
    state := event.state
    eventJson := event.eventJson
    createdAt := event.createdAt
    prevHash := event.prevHash }

/-- `s'` is `s` with one more event at the end of its operation's ledger. -/
structure Appended (event : EventRow) (s s' : Store) : Prop where
  operations : s'.operations = s.operations
  approvals : s'.approvals = s.approvals
  events : s'.events.rows = s.events.rows ++ [event]
  eventsOf : s'.eventsOf event.operationId = s.eventsOf event.operationId ++ [event]
  link : nextLink (s.tail event.operationId) = .ok (event.sequence, event.prevHash)
  details : ∃ details, event.eventJson = canonicalJson platform details
  hash : event.hash = eventHash platform event.hashInput

/-- `s'` is `s` with the row moved to an allowed state and the event that records it. -/
structure Advances (row : OperationRow) (target : OperationState) (now : DateTime)
    (s s' : Store) : Prop where
  mem : row ∈ s.operations
  allowed : Allowed row.state target
  event : ∃ event : EventRow, event.operationId = row.id ∧
    event.kind = transitionEventKind target ∧ event.state = target ∧
    Appended platform event
      (s.modifyOperation row.id (OperationRow.advance target now) fun _ => rfl) s'

/-- The small changes a call is made of. -/
inductive Change : Store → Store → Prop where
  | planned {s s₁ s' : Store} (row : OperationRow) (event : EventRow) (record : OperationRecord)
      (hstate : row.state = planned) (hstarted : row.startedAt = none)
      (hload : rowToOperation platform row = .ok record)
      (hinsert : s.insertOperation row = some s₁)
      (hid : event.operationId = row.id) (hkind : event.kind = .planned)
      (hplanned : event.state = planned) (happend : Appended platform event s₁ s') : Change s s'
  | approved {s s' : Store} (row : ApprovalRow) (hhuman : IsHuman row.approverKind)
      (hinsert : s.insertApproval row = some s') : Change s s'
  | reowned {s : Store} (row : OperationRow) (runtimeId : Uuid) (now : DateTime)
      (hrow : row ∈ s.operations) (hlive : row.state.isTerminal = false) :
      Change s (s.modifyOperation row.id (OperationRow.reown runtimeId now) fun _ => rfl)
  | advanced {s s' : Store} (row : OperationRow) (target : OperationState) (now : DateTime)
      (hadvances : Advances platform row target now s s')
      (hstart : target = executing → MayStart s row now) : Change s s'
  | progressed {s s' : Store} (row : OperationRow) (event : EventRow) (hrow : row ∈ s.operations)
      (hid : event.operationId = row.id) (hkind : event.kind = .progress)
      (hstate : event.state = row.state) (happend : Appended platform event s s') : Change s s'

end

variable {platform : Platform} {s s' : Store}

/-! ## Transaction primitives -/

/-- Loading an operation finds its row and keeps the store. -/
theorem fetch_operation_tx_ok {operationId : Uuid} {r : OperationRecord × Store}
    (h : fetchOperationTx platform operationId s = .ok r) :
    r.2 = s ∧ ∃ row ∈ s.operations, row.id = operationId ∧
      rowToOperation platform row = .ok r.1 ∧ r.1.toOperationColumns = row.toOperationColumns := by
  simp only [fetchOperationTx, Tx.read_bind_ok] at h
  cases hfind : s.operations.find? operationId with
  | none => simp [hfind] at h
  | some row =>
      simp only [hfind, Tx.lift_ok] at h
      obtain ⟨hrow, hkey⟩ := Table.find?_eq_some.mp hfind
      exact ⟨h.2, row, hrow, hkey, h.1, (row_to_operation_ok.mp h.1).1⟩

/-- A completed sequence after loading an operation goes on with its record. -/
theorem fetch_bind_ok {α : Type} {operationId : Uuid} {f : OperationRecord → RepoTx α}
    {r : α × Store} (h : (fetchOperationTx platform operationId >>= f) s = .ok r) :
    ∃ record, ∃ row ∈ s.operations, row.id = operationId ∧
      rowToOperation platform row = .ok record ∧
      record.toOperationColumns = row.toOperationColumns ∧ f record s = .ok r := by
  obtain ⟨record, s₁, hfetch, hrest⟩ := Tx.bind_ok.mp h
  obtain ⟨hkeep, row, hrow, hkey, hload, hcolumns⟩ := fetch_operation_tx_ok hfetch
  exact ⟨record, row, hrow, hkey, hload, hcolumns, hkeep ▸ hrest⟩

/-- The events of an operation stand in sequence order. -/
theorem events_of_sorted (s : Store) (operationId : Uuid) :
    (s.eventsOf operationId).Pairwise fun a b => a.sequence ≤ b.sequence :=
  haveI : Std.Total fun a b : EventRow => a.sequence ≤ b.sequence := ⟨fun _ _ => Int.le_total _ _⟩
  haveI : IsTrans EventRow fun a b => a.sequence ≤ b.sequence := ⟨fun _ _ _ => Int.le_trans⟩
  List.pairwise_insertionSort _ _

/-- The events of an operation are its rows of the ledger. -/
theorem mem_events_of {s : Store} {operationId : Uuid} {event : EventRow} :
    event ∈ s.eventsOf operationId ↔ event ∈ s.events ∧ event.operationId = operationId := by
  simp [Store.eventsOf, List.mem_insertionSort, List.mem_filter]

/-- No event of the operation comes after its tail. -/
theorem sequence_le_next {operationId : Uuid} {link : Int × Option String}
    (h : nextLink (s.tail operationId) = .ok link) :
    ∀ event ∈ s.eventsOf operationId, event.sequence ≤ link.1 := by
  intro event hevent
  rcases List.eq_nil_or_concat (s.eventsOf operationId) with hnil | ⟨front, last, hconcat⟩
  · simp [hnil] at hevent
  · have hsorted := events_of_sorted s operationId
    rw [hconcat, List.concat_eq_append] at hsorted hevent
    have htail : s.tail operationId = some last := by simp [Store.tail, hconcat]
    rw [htail, nextLink] at h
    split at h
    · cases h
      have hle : event.sequence ≤ last.sequence := by
        rcases List.mem_append.mp hevent with hfront | hlast
        · exact (List.pairwise_append.mp hsorted).2.2 event hfront last (by simp)
        · rw [List.mem_singleton.mp hlast]
      change event.sequence ≤ last.sequence + 1
      omega
    · cases h

/-- Inserting an event that is linked to the tail appends it to its operation's ledger. -/
theorem insert_event_appended {eventId operationId : Uuid} {kind : OperationEventKind}
    {state : OperationState} {details : Json} {createdAt : DateTime} {link : Int × Option String}
    (hlink : nextLink (s.tail operationId) = .ok link)
    (h : s.insertEvent (eventRow platform eventId operationId kind state details createdAt link)
      = some s') :
    Appended platform (eventRow platform eventId operationId kind state details createdAt link)
      s s' := by
  obtain ⟨events, hinsert, rfl⟩ := Option.map_eq_some_iff.mp h
  have hrows := (Table.insert_eq_some hinsert).1
  refine ⟨rfl, rfl, hrows, ?_, hlink, ⟨details, rfl⟩, rfl⟩
  simp only [Store.eventsOf, hrows, List.filter_append]
  rw [List.filter_cons_of_pos (by simp [eventRow]), List.filter_nil]
  refine insertion_sort_concat fun x hx => sequence_le_next hlink x ?_
  obtain ⟨hmem, hid⟩ := List.mem_filter.mp hx
  exact mem_events_of.mpr ⟨hmem, of_decide_eq_true hid⟩

/-- The ledgers of other operations stay as they were. -/
theorem Appended.eventsOf_other {event : EventRow} (h : Appended platform event s s')
    {operationId : Uuid} (hne : event.operationId ≠ operationId) :
    s'.eventsOf operationId = s.eventsOf operationId := by
  simp [Store.eventsOf, h.events, List.filter_append, hne]

/-- The rows of the ledger after an append. -/
theorem Appended.mem {event x : EventRow} (h : Appended platform event s s') :
    x ∈ s'.events ↔ x ∈ s.events ∨ x = event := by
  rw [← Table.mem_rows, h.events]
  simp

/-- A completed append adds one event of the given operation, kind and state. -/
theorem append_event_tx_ok {eventId operationId : Uuid} {kind : OperationEventKind}
    {state : OperationState} {details : Json} {createdAt : DateTime} {u : PUnit}
    (h : appendEventTx platform eventId operationId kind state details createdAt s
      = .ok (u, s')) :
    ∃ event : EventRow, event.operationId = operationId ∧ event.kind = kind ∧
      event.state = state ∧ Appended platform event s s' := by
  simp only [appendEventTx, Tx.require_bind_ok, Tx.read_bind_ok, Tx.lift_bind_ok, Tx.write_ok] at h
  obtain ⟨-, link, hlink, hinsert⟩ := h
  exact ⟨_, rfl, rfl, rfl, insert_event_appended hlink hinsert⟩

/-- A completed update of an operation found its row and saw the guard hold. -/
theorem update_operation_ok {id : Uuid} {guard : OperationRow → Bool}
    {f : OperationRow → OperationRow} {hf : ∀ r : OperationRow, (f r).key = r.key}
    (h : s.updateOperation id guard f hf = some s') :
    ∃ row ∈ s.operations, row.id = id ∧ guard row = true ∧ s' = s.modifyOperation id f hf := by
  obtain ⟨operations, hupdate, rfl⟩ := Option.map_eq_some_iff.mp h
  obtain ⟨row, hfind, hguard, rfl⟩ := Table.updateWhere_eq_some hupdate
  obtain ⟨hrow, hkey⟩ := Table.find?_eq_some.mp hfind
  exact ⟨row, hrow, hkey, hguard, rfl⟩

/-- A completed transition moved the stored row of the loaded operation. A row that starts to
execute is not expired. -/
theorem transition_tx_ok {current : OperationRecord} {target : OperationState} {details : Json}
    {now : DateTime} {eventId : Uuid} {r : OperationRecord × Store}
    (h : transitionTx platform current target details now eventId s = .ok r) :
    ∃ row : OperationRow, row.id = current.id ∧ row.state = current.state ∧
      row.payloadHash = current.payloadHash ∧
      (target = executing → unexpired row.expiresAt now = true) ∧
      Advances platform row target now s r.2 := by
  simp only [transitionTx, Tx.require_bind_ok, Tx.write_bind_ok] at h
  obtain ⟨hallowed, s₁, hupdate, h⟩ := h
  obtain ⟨row, hrow, hid, hguard, rfl⟩ := update_operation_ok hupdate
  obtain ⟨u, s₂, happend, hfetch⟩ := Tx.bind_ok.mp h
  obtain ⟨event, hevent, hkind, hstate, happended⟩ := append_event_tx_ok happend
  obtain ⟨hkeep, -⟩ := fetch_operation_tx_ok hfetch
  simp only [Bool.and_eq_true, decide_eq_true_eq, Bool.or_eq_true] at hguard
  obtain ⟨⟨hsource, hhash⟩, hexpiry⟩ := hguard
  refine ⟨row, hid, hsource, hhash, fun htarget => hexpiry.resolve_left fun hne => hne htarget,
    hrow, hsource ▸ hallowed, event, hevent.trans hid.symm, hkind, hstate, ?_⟩
  rw [hkeep, hid]
  exact happended

/-! ## Calls as sequences of changes -/

/-- The operation was expired at the given instant and moved to `expired`. -/
def Expires (platform : Platform) (operationId : Uuid) (now : DateTime) (s s' : Store) : Prop :=
  ∃ row : OperationRow, row.id = operationId ∧ unexpired row.expiresAt now = false ∧
    Advances platform row expired now s s'

/-- A completed transaction answered and made some changes, or it refused after the expiry
transition of the operation that it may expire. -/
def Completes {α : Type} (platform : Platform) (expirable : Option (Uuid × DateTime)) (s : Store)
    (r : Except AppError α × Store) : Prop :=
  (∃ a, r.1 = .ok a) ∧ Changes (Change platform) s r.2 ∨
    (∃ e, r.1 = .error e) ∧ ∃ operationId now, expirable = some (operationId, now) ∧
      Expires platform operationId now s r.2

/-- A transition to another state than `executing` is one change. -/
theorem transition_tx_changes {current : OperationRecord} {target : OperationState}
    {details : Json} {now : DateTime} {eventId : Uuid} {r : OperationRecord × Store}
    (hne : target ≠ executing)
    (h : transitionTx platform current target details now eventId s = .ok r) :
    Changes (Change platform) s r.2 := by
  obtain ⟨row, -, -, -, -, hadvances⟩ := transition_tx_ok h
  exact .single (.advanced row target now hadvances fun htarget => (hne htarget).elim)

/-- A plan adds its row with the first event, or finds the stored plan. -/
theorem insert_planned_completes {runtimeId : Uuid} {operation : NewOperation}
    {createdAt : DateTime} {eventId : Uuid} {r : Except AppError OperationRecord × Store}
    (h : insertPlanned platform runtimeId operation createdAt eventId s = .ok r) :
    Completes platform none s r := by
  simp only [insertPlanned, Tx.lift_bind_ok, Tx.read_bind_ok] at h
  obtain ⟨prepared, hprepared, h⟩ := h
  cases hfind : findByIdempotencyKey s operation with
  | some row =>
      simp only [hfind, Tx.lift_bind_ok, Tx.require_bind_ok, Tx.pure_ok] at h
      obtain ⟨existing, -, -, rfl⟩ := h
      exact .inl ⟨⟨existing, rfl⟩, .refl⟩
  | none =>
      simp only [hfind, Tx.write_bind_ok] at h
      obtain ⟨s₁, hinsert, h⟩ := h
      obtain ⟨u, s₂, happend, h⟩ := Tx.bind_ok.mp h
      obtain ⟨event, hid, hkind, hstate, happended⟩ := append_event_tx_ok happend
      obtain ⟨record, row, hrow, hkey, hload, -, h⟩ := fetch_bind_ok h
      obtain rfl := Tx.pure_ok.mp h
      obtain ⟨operations, htable, rfl⟩ := Option.map_eq_some_iff.mp hinsert
      have hoperation : prepared.operation = operation := prepared_operation hprepared
      have hrowId : (prepared.toRow createdAt).id = operation.id := by
        rw [← hoperation]
        rfl
      rw [happended.operations] at hrow
      have hsame : row = prepared.toRow createdAt := Table.eq_of_key_eq hrow
        ((Table.mem_insert htable).mpr (.inr rfl)) (hkey.trans hrowId.symm)
      exact .inl ⟨⟨record, rfl⟩, .single (.planned (prepared.toRow createdAt) event record rfl rfl
        (hsame ▸ hload) hinsert (hid.trans hrowId.symm) hkind hstate happended)⟩

/-- A requested transition never enters `executing`. -/
theorem transition_completes {operationId runtimeId : Uuid} {target : OperationState}
    {details : Json} {now : DateTime} {eventId : Uuid}
    {r : Except AppError OperationRecord × Store}
    (h : transition platform operationId runtimeId target details now eventId s = .ok r) :
    Completes platform none s r := by
  simp only [transition, ensureRuntime, Tx.require_bind_ok] at h
  obtain ⟨hne, h⟩ := h
  obtain ⟨current, row, hrow, hkey, hload, hcolumns, h⟩ := fetch_bind_ok h
  obtain ⟨-, h⟩ := Tx.require_bind_ok.mp h
  obtain ⟨updated, s₁, htransition, h⟩ := Tx.bind_ok.mp h
  obtain rfl := Tx.pure_ok.mp h
  exact .inl ⟨⟨updated, rfl⟩, transition_tx_changes hne htransition⟩

/-- An approval row that the claim accepts is an exact approval. -/
theorem exact_approval_of_has {current : OperationRecord} {row : OperationRow} {now : DateTime}
    (hcolumns : current.toOperationColumns = row.toOperationColumns)
    (h : hasExactApproval s current now = true) :
    ∃ approval ∈ s.approvals, ExactApproval row now approval := by
  obtain ⟨approval, hmem, happroval⟩ := List.any_eq_true.mp h
  simp only [Bool.and_eq_true, decide_eq_true_eq, hcolumns] at happroval
  obtain ⟨⟨⟨⟨hid, hhash⟩, hdecision⟩, hrevision⟩, hexpiry⟩ := happroval
  exact ⟨approval, hmem, hid, hdecision, hhash, hrevision, hexpiry⟩

/-- A claim starts a ready or approved operation that may start, or expires it. -/
theorem claim_execution_ok {operationId runtimeId : Uuid} {now : DateTime} {eventId : Uuid}
    {r : Except AppError OperationRecord × Store}
    (h : claimExecution platform operationId runtimeId now eventId s = .ok r) :
    ∃ row : OperationRow, row.id = operationId ∧ (row.state = ready ∨ row.state = approved) ∧
      ((∃ e, r.1 = .error e) ∧ unexpired row.expiresAt now = false ∧
          Advances platform row expired now s r.2 ∨
        (∃ record, r.1 = .ok record) ∧ MayStart s row now ∧
          Advances platform row executing now s r.2) := by
  obtain ⟨current, row, hrow, hkey, hload, hcolumns, h⟩ := fetch_bind_ok h
  simp only [ensureRuntime, requireExactApproval, Tx.require_bind_ok, hcolumns] at h
  obtain ⟨-, hstate, hmutates, h⟩ := h
  refine ⟨row, hkey, hstate, ?_⟩
  -- the row that the transition finds is the row that was loaded
  have hsame : ∀ {row' : OperationRow} {target : OperationState} {t : Store},
      row'.id = current.id → Advances platform row' target now s t → row' = row :=
    fun hid hadvances => Table.eq_of_key_eq hadvances.mem hrow (hid.trans (by rw [hcolumns]))
  split at h
  · next hexpired =>
      obtain ⟨updated, s₁, htransition, h⟩ := Tx.bind_ok.mp h
      obtain rfl := Tx.pure_ok.mp h
      obtain ⟨row', hid, -, -, -, hadvances⟩ := transition_tx_ok htransition
      obtain rfl := hsame hid hadvances
      exact .inl ⟨⟨_, rfl⟩, hexpired, hadvances⟩
  · next hunexpired =>
      obtain ⟨u, s₁, hrequire, hclaim⟩ := Tx.bind_ok.mp h
      simp only [Tx.read_bind_ok, Tx.require_ok] at hrequire
      obtain ⟨happroved, hkeep⟩ := hrequire
      rw [hkeep] at hclaim
      obtain ⟨updated, s₂, htransition, h⟩ := Tx.bind_ok.mp hclaim
      obtain rfl := Tx.pure_ok.mp h
      obtain ⟨row', hid, -, -, hexpiry, hadvances⟩ := transition_tx_ok htransition
      obtain rfl := hsame hid hadvances
      refine .inr ⟨⟨_, rfl⟩, ⟨hexpiry rfl, fun hmutate => ?_⟩, hadvances⟩
      have hstate' : row'.state = approved :=
        hstate.resolve_left fun hready => hmutates ⟨hready, hmutate⟩
      exact exact_approval_of_has hcolumns (happroved (by rw [hcolumns, hstate']))

/-- A claim is the transition to `executing`, or the expiry transition. -/
theorem claim_execution_completes {operationId runtimeId : Uuid} {now : DateTime} {eventId : Uuid}
    {r : Except AppError OperationRecord × Store}
    (h : claimExecution platform operationId runtimeId now eventId s = .ok r) :
    Completes platform (some (operationId, now)) s r := by
  obtain ⟨row, hid, -, ⟨herror, hexpired, hadvances⟩ | ⟨hanswer, hstart, hadvances⟩⟩ :=
    claim_execution_ok h
  · exact .inr ⟨herror, operationId, now, rfl, row, hid, hexpired, hadvances⟩
  · exact .inl ⟨hanswer, .single (.advanced row executing now hadvances fun _ => hstart)⟩

/-- A rebind gives a live operation a new owner and records it. -/
theorem rebind_completes {accepts : OperationRecord → Bool} {rowGuard : OperationRow → Bool}
    {refusal changed lost : String} {note : String × Json} {operationId runtimeId : Uuid}
    {expectedPayloadHash : String} {now : DateTime} {eventId : Uuid}
    {r : Except AppError OperationRecord × Store}
    (haccepts : ∀ record : OperationRecord, accepts record = true →
      record.state.isTerminal = false)
    (h : rebind platform accepts rowGuard refusal changed lost note operationId runtimeId
      expectedPayloadHash now eventId s = .ok r) :
    Completes platform none s r := by
  obtain ⟨current, loaded, hloaded, hkey, hload, hcolumns, h⟩ := fetch_bind_ok h
  simp only [Tx.require_bind_ok, Tx.write_bind_ok] at h
  obtain ⟨haccept, hhash, s₁, hupdate, h⟩ := h
  obtain ⟨row, hrow, hid, hguard, rfl⟩ := update_operation_ok hupdate
  obtain ⟨u, s₂, happend, h⟩ := Tx.bind_ok.mp h
  obtain ⟨event, hevent, hkind, hstate, happended⟩ := append_event_tx_ok happend
  obtain ⟨rebound, row', -, -, -, -, h⟩ := fetch_bind_ok h
  obtain rfl := Tx.pure_ok.mp h
  simp only [Bool.and_eq_true, decide_eq_true_eq] at hguard
  obtain rfl := hid
  have hlive : row.state.isTerminal = false := by
    rw [hguard.1.1]
    exact haccepts current haccept
  exact .inl ⟨⟨rebound, rfl⟩, .tail (.single (.reowned row runtimeId now hrow hlive))
    (.progressed (row.reown runtimeId now) event (modified_mem hrow) hevent hkind
      (hstate.trans hguard.1.1.symm) happended)⟩

/-- A quarantine gives the operation a new owner and closes it. -/
theorem quarantine_provider_execution_completes {operationId runtimeId : Uuid}
    {expectedPayloadHash reason : String} {now : DateTime} {eventId : Uuid}
    {r : Except AppError OperationRecord × Store}
    (h : quarantineProviderExecution platform operationId runtimeId expectedPayloadHash reason now
      eventId s = .ok r) :
    Completes platform none s r := by
  obtain ⟨current, loaded, hloaded, hkey, hload, hcolumns, h⟩ := fetch_bind_ok h
  simp only [Tx.require_bind_ok, Tx.write_bind_ok] at h
  obtain ⟨hcurrent, s₁, hupdate, h⟩ := h
  obtain ⟨row, hrow, rfl, hguard, rfl⟩ := update_operation_ok hupdate
  obtain ⟨rebound, row', -, -, -, -, h⟩ := fetch_bind_ok h
  obtain ⟨quarantined, s₂, htransition, h⟩ := Tx.bind_ok.mp h
  obtain rfl := Tx.pure_ok.mp h
  simp only [Bool.and_eq_true, decide_eq_true_eq] at hguard
  have hlive : row.state.isTerminal = false := by
    rw [hguard.1.1]
    rfl
  exact .inl ⟨⟨quarantined, rfl⟩, .trans (.single (.reowned row runtimeId now hrow hlive))
    (transition_tx_changes (by decide) htransition)⟩

/-- Progress is one event of an executing operation. -/
theorem append_progress_completes {operationId runtimeId : Uuid} {details : Json} {now : DateTime}
    {eventId : Uuid} {r : Except AppError PUnit × Store}
    (h : appendProgress platform operationId runtimeId details now eventId s = .ok r) :
    Completes platform none s r := by
  obtain ⟨current, row, hrow, rfl, hload, hcolumns, h⟩ := fetch_bind_ok h
  simp only [ensureRuntime, Tx.require_bind_ok] at h
  obtain ⟨-, hexecuting, h⟩ := h
  obtain ⟨u, s₁, happend, h⟩ := Tx.bind_ok.mp h
  obtain ⟨event, hid, hkind, hstate, happended⟩ := append_event_tx_ok happend
  obtain rfl := Tx.pure_ok.mp h
  exact .inl ⟨⟨⟨⟩, rfl⟩, .single (.progressed row event hrow hid hkind
    (hstate.trans (by rw [hcolumns])) happended)⟩

/-- A decision records an approval row with its transition, or expires the operation. -/
theorem decide_approval_completes {command : OperationApprovalCommand} {approvalId eventId : Uuid}
    {r : Except AppError OperationRecord × Store}
    (h : decideApproval platform command approvalId eventId s = .ok r) :
    Completes platform (some (command.operationId, command.now)) s r := by
  simp only [decideApproval, Tx.require_bind_ok] at h
  obtain ⟨hperson, -, h⟩ := h
  obtain ⟨current, row, hrow, hkey, hload, hcolumns, h⟩ := fetch_bind_ok h
  simp only [ensureRuntime, Tx.require_bind_ok] at h
  obtain ⟨-, hpending, hhash, hrevision, h⟩ := h
  split at h
  · next hexpired =>
      obtain ⟨updated, s₁, htransition, h⟩ := Tx.bind_ok.mp h
      obtain rfl := Tx.pure_ok.mp h
      obtain ⟨row', hid, -, -, -, hadvances⟩ := transition_tx_ok htransition
      have hsame : row' = row :=
        Table.eq_of_key_eq hadvances.mem hrow (hid.trans (by rw [hcolumns]))
      subst hsame
      rw [hcolumns] at hexpired
      exact .inr ⟨⟨_, rfl⟩, command.operationId, command.now, rfl, row', hkey, hexpired, hadvances⟩
  · simp only [Tx.write_bind_ok] at h
    obtain ⟨s₁, hinsert, h⟩ := h
    obtain ⟨updated, s₂, htransition, h⟩ := Tx.bind_ok.mp h
    obtain rfl := Tx.pure_ok.mp h
    have hhuman : IsHuman command.approver.kind := by
      simp only [identifiedPerson, Bool.and_eq_true, Bool.or_eq_true, decide_eq_true_eq] at hperson
      exact hperson.1
    have hne : decisionTarget command.decision ≠ executing := by
      cases command.decision <;> decide
    exact .inl ⟨⟨updated, rfl⟩, .trans
      (.single (.approved (approvalRow command current approvalId) hhuman hinsert))
      (transition_tx_changes hne htransition)⟩

/-- Recovery of a list of rows is a sequence of changes, by induction on the list. -/
theorem recover_rows_changes {clock : Uuid → DateTime} {eventIds : Uuid → Uuid}
    {rows : List OperationRow} {report : RestartRecoveryReport}
    {r : RestartRecoveryReport × Store}
    (h : recoverRows platform clock eventIds rows report s = .ok r) :
    Changes (Change platform) s r.2 := by
  induction rows generalizing s report with
  | nil =>
      obtain rfl := Tx.pure_ok.mp h
      exact .refl
  | cons row rest ih =>
      simp only [recoverRows, Tx.lift_bind_ok] at h
      obtain ⟨operation, -, h⟩ := h
      have hmoved : ∀ {target : OperationState} {details : Json} {report' : RestartRecoveryReport},
          target ≠ executing → (transitionTx platform operation target details
            (clock operation.id) (eventIds operation.id) >>= fun _ =>
              recoverRows platform clock eventIds rest report') s = .ok r →
          Changes (Change platform) s r.2 := by
        intro target details report' hne hmove
        obtain ⟨updated, s₁, htransition, hrest⟩ := Tx.bind_ok.mp hmove
        exact .trans (transition_tx_changes hne htransition) (ih hrest)
      cases hrecovery : restartRecovery operation.kind operation.state <;>
        simp only [hrecovery] at h
      case keepTerminal => exact ih h
      case expire => exact hmoved (by decide) h
      case markFailed => exact hmoved (by decide) h
      case outcomeUnknown => exact hmoved (by decide) h
      case validateJobCheckpoint => exact ih h
      case validateProvisioningCheckpoint => exact ih h

/-- Restart recovery never refuses once it completes. -/
theorem recover_previous_runtimes_completes {currentRuntimeId : Uuid} {clock : Uuid → DateTime}
    {eventIds : Uuid → Uuid} {r : Except AppError RestartRecoveryReport × Store}
    (h : recoverPreviousRuntimes platform currentRuntimeId clock eventIds s = .ok r) :
    Completes platform none s r := by
  simp only [recoverPreviousRuntimes, Tx.read_bind_ok] at h
  obtain ⟨report, s₁, hrows, h⟩ := Tx.bind_ok.mp h
  obtain rfl := Tx.pure_ok.mp h
  exact .inl ⟨⟨report, rfl⟩, recover_rows_changes hrows⟩

/-! ## Every call -/

/-- The operation a call may expire before it refuses, with the instant it compares. -/
def Call.expirable : Call → Option (Uuid × DateTime)
  | .claimExecution operationId _ now _ => some (operationId, now)
  | .decideApproval command _ _ => some (command.operationId, command.now)
  | _ => none

/-- Renaming the answer of a transaction keeps what it did. -/
theorem completes_map {α : Type} {tx : RepoTx (Except AppError α)} {wrap : α → Answer}
    {expirable : Option (Uuid × DateTime)} {r : Except AppError Answer × Store}
    (htx : ∀ {r' : Except AppError α × Store}, tx s = .ok r' → Completes platform expirable s r')
    (h : (Except.map wrap <$> tx) s = .ok r) : Completes platform expirable s r := by
  rw [map_eq_pure_bind] at h
  obtain ⟨a, s₁, htx', h⟩ := Tx.bind_ok.mp h
  obtain rfl := Tx.pure_ok.mp h
  rcases htx htx' with ⟨⟨a', rfl⟩, hchanges⟩ | ⟨⟨e, rfl⟩, hexpires⟩
  · exact .inl ⟨⟨wrap a', rfl⟩, hchanges⟩
  · exact .inr ⟨⟨e, rfl⟩, hexpires⟩

/-- Every completed call is a sequence of changes, or the expiry transition before a refusal. -/
theorem call_completes {call : Call} {r : Except AppError Answer × Store}
    (h : call.tx platform s = .ok r) : Completes platform call.expirable s r := by
  cases call with
  | insertPlanned => exact completes_map insert_planned_completes h
  | transition => exact completes_map transition_completes h
  | claimExecution => exact completes_map claim_execution_completes h
  | rebindResumableExecution =>
      refine completes_map (rebind_completes fun record haccepts => ?_) h
      simp only [Bool.and_eq_true, decide_eq_true_eq] at haccepts
      rw [haccepts.1]
      rfl
  | rebindProviderExecution =>
      refine completes_map (rebind_completes fun record haccepts => ?_) h
      simp only [Bool.and_eq_true, decide_eq_true_eq] at haccepts
      rw [haccepts.1]
      rfl
  | rebindPendingJob =>
      refine completes_map (rebind_completes fun record haccepts => ?_) h
      simp only [Bool.and_eq_true, Bool.or_eq_true, decide_eq_true_eq] at haccepts
      rcases haccepts.2 with (hstate | hstate) | hstate <;> rw [hstate] <;> rfl
  | rebindPausedJob =>
      refine completes_map (rebind_completes fun record haccepts => ?_) h
      simp only [Bool.and_eq_true, decide_eq_true_eq] at haccepts
      rw [haccepts.1]
      rfl
  | quarantineProviderExecution => exact completes_map quarantine_provider_execution_completes h
  | appendProgress => exact completes_map append_progress_completes h
  | decideApproval => exact completes_map decide_approval_completes h
  | recoverPreviousRuntimes => exact completes_map recover_previous_runtimes_completes h

/-- An expiry transition is one change. -/
theorem Expires.changes {operationId : Uuid} {now : DateTime}
    (h : Expires platform operationId now s s') : Changes (Change platform) s s' := by
  obtain ⟨row, -, -, hadvances⟩ := h
  exact .single (.advanced row expired now hadvances fun hne => by cases hne)

/-- An accepted claim found a ready or approved operation that may start, and started it. -/
theorem answer_claim_ok {operationId runtimeId : Uuid} {now : DateTime} {eventId : Uuid}
    {a : Answer}
    (h : answer platform s (.claimExecution operationId runtimeId now eventId) = .ok a) :
    ∃ row : OperationRow, row.id = operationId ∧ (row.state = ready ∨ row.state = approved) ∧
      MayStart s row now ∧ Advances platform row executing now s
        (exec platform s (.claimExecution operationId runtimeId now eventId)) := by
  rcases Tx.commit_cases (Call.tx platform (.claimExecution operationId runtimeId now eventId)) s
    with ⟨e, -, hcommit⟩ | ⟨a', s₁, htx, hcommit⟩
  · rw [answer, hcommit] at h
    cases h
  · rw [answer, hcommit] at h
    rw [exec, hcommit]
    rw [Call.tx, map_eq_pure_bind] at htx
    obtain ⟨a'', s₂, hclaim, hpure⟩ := Tx.bind_ok.mp htx
    cases Tx.pure_ok.mp hpure
    obtain ⟨row, hid, hstate, ⟨⟨e, herror⟩, -⟩ | ⟨-, hstart, hadvances⟩⟩ :=
      claim_execution_ok hclaim
    · simp only at herror
      rw [herror] at h
      cases h
    · exact ⟨row, hid, hstate, hstart, hadvances⟩

/-- The row that advanced is in the store in its new state. -/
theorem Advances.mem_after {row : OperationRow} {target : OperationState} {now : DateTime}
    (h : Advances platform row target now s s') : row.advance target now ∈ s'.operations := by
  obtain ⟨event, -, -, -, happend⟩ := h.event
  exact happend.operations ▸ modified_mem h.mem

/-- Every call is a sequence of changes. -/
theorem exec_changes (s : Store) (call : Call) :
    Changes (Change platform) s (exec platform s call) := by
  rcases Tx.commit_cases (call.tx platform) s with ⟨e, -, hcommit⟩ | ⟨a, s₁, htx, hcommit⟩
  · rw [exec, hcommit]
  · rw [exec, hcommit]
    rcases call_completes htx with ⟨-, hchanges⟩ | ⟨-, operationId, now, -, hexpires⟩
    · exact hchanges
    · exact hexpires.changes

/-- A call that refuses left the store as it was, or expired the operation that it names. -/
theorem exec_of_error {call : Call} {e : AppError} (h : answer platform s call = .error e) :
    exec platform s call = s ∨ ∃ operationId now, call.expirable = some (operationId, now) ∧
      Expires platform operationId now s (exec platform s call) := by
  rcases Tx.commit_cases (call.tx platform) s with ⟨e', -, hcommit⟩ | ⟨a, s₁, htx, hcommit⟩
  · exact .inl (by rw [exec, hcommit])
  · rw [answer, hcommit] at h
    rw [exec, hcommit]
    rcases call_completes htx with ⟨⟨a', hanswer⟩, -⟩ | ⟨-, hexpires⟩
    · cases hanswer.symm.trans h
    · exact .inr hexpires

/-- A predicate that every change preserves holds after every run from the empty store. -/
theorem reached_invariant {P : Store → Prop} (hempty : P Store.empty)
    (hchange : ∀ s s', P s → Change platform s s' → P s') (calls : List Call) :
    P (reached platform calls) :=
  run_invariant hempty (fun s call hs => (exec_changes s call).invariant hchange hs) calls

end Dopedb.Operations
