import Dopedb.Operations.Steps

/-!
# One operation under a change

What a small change does to one operation: to its row, to its part of the ledger and to the
approvals. `change_row` says it once for all changes; the invariants of rows and ledgers are
preserved because each `RowStep` preserves them.
-/

namespace Dopedb.Operations

open Library OperationState

/-- The ledger of one operation grows by an event that is linked to its tail. -/
structure Extends (platform : Platform) (operationId : Uuid) (event : EventRow) (s s' : Store) :
    Prop where
  owner : event.operationId = operationId
  eventsOf : s'.eventsOf operationId = s.eventsOf operationId ++ [event]
  link : nextLink (s.tail operationId) = .ok (event.sequence, event.prevHash)
  details : ∃ details, event.eventJson = canonicalJson platform details
  hash : event.hash = eventHash platform event.hashInput

/-- A row that a change added, with the first event of its ledger. -/
structure NewRow (platform : Platform) (s s' : Store) (row : OperationRow) : Prop where
  fresh : ∀ other ∈ s.operations, other.id ≠ row.id
  state : row.state = planned
  started : row.startedAt = none
  loads : ∃ record, rowToOperation platform row = .ok record
  event : ∃ event, event.kind = .planned ∧ event.state = planned ∧
    Extends platform row.id event s s'

/-- What a change does to a row and its ledger. -/
inductive RowStep (platform : Platform) (s s' : Store) (row : OperationRow) :
    OperationRow → Prop where
  | kept (hevents : s'.eventsOf row.id = s.eventsOf row.id) : RowStep platform s s' row row
  | reowned (runtimeId : Uuid) (now : DateTime) (hlive : row.state.isTerminal = false)
      (hevents : s'.eventsOf row.id = s.eventsOf row.id) :
      RowStep platform s s' row (row.reown runtimeId now)
  | advanced (target : OperationState) (now : DateTime) (event : EventRow)
      (hallowed : Allowed row.state target) (hstart : target = executing → MayStart s row now)
      (hkind : event.kind = transitionEventKind target) (hstate : event.state = target)
      (hextends : Extends platform row.id event s s') :
      RowStep platform s s' row (row.advance target now)
  | progressed (event : EventRow) (hkind : event.kind = .progress)
      (hstate : event.state = row.state) (hextends : Extends platform row.id event s s') :
      RowStep platform s s' row row

variable {platform : Platform} {s s' : Store}

/-- A step keeps the id. -/
theorem RowStep.id_eq {row row' : OperationRow} (h : RowStep platform s s' row row') :
    row'.id = row.id := by
  cases h <;> rfl

/-- An appended event extends its operation's ledger, which other tables do not touch. -/
theorem Appended.extends_ledger {t : Store} {event : EventRow} {operationId : Uuid}
    (h : Appended platform event t s') (hid : event.operationId = operationId)
    (hevents : t.events = s.events) : Extends platform operationId event s s' := by
  subst hid
  have hledger : ∀ id, t.eventsOf id = s.eventsOf id := fun id => by rw [Store.eventsOf, hevents]; rfl
  refine ⟨rfl, hledger _ ▸ h.eventsOf, ?_, h.details, h.hash⟩
  have hlink := h.link
  rwa [Store.tail, hledger] at hlink

/-- Every row after a change is new or a step of a row before it. -/
theorem change_row (h : Change platform s s') {row' : OperationRow}
    (hrow' : row' ∈ s'.operations) :
    NewRow platform s s' row' ∨ ∃ row ∈ s.operations, RowStep platform s s' row row' := by
  cases h with
  | @planned s₁ _ row event record hstate hstarted hload hinsert hid hkind hplanned happend =>
      obtain ⟨operations, htable, rfl⟩ := Option.map_eq_some_iff.mp hinsert
      have hfresh : ∀ other ∈ s.operations, other.id ≠ row.id := (Table.insert_eq_some htable).2
      rw [happend.operations] at hrow'
      rcases (Table.mem_insert htable).mp hrow' with hold | rfl
      · refine .inr ⟨row', hold, .kept (happend.eventsOf_other ?_)⟩
        rw [hid]
        exact (hfresh row' hold).symm
      · exact .inl ⟨hfresh, hstate, hstarted, ⟨record, hload⟩, event, hkind, hplanned,
          happend.extends_ledger hid rfl⟩
  | approved row hhuman hinsert =>
      obtain ⟨approvals, htable, rfl⟩ := Option.map_eq_some_iff.mp hinsert
      exact .inr ⟨row', hrow', .kept rfl⟩
  | reowned row runtimeId now hrow hlive =>
      obtain ⟨r, hr, rfl⟩ := mem_modify_operation.mp hrow'
      refine .inr ⟨r, hr, ?_⟩
      split
      · next hid =>
          obtain rfl := Table.eq_of_key_eq hr hrow hid
          exact .reowned runtimeId now hlive rfl
      · exact .kept rfl
  | advanced row target now hadvances hstart =>
      obtain ⟨hrow, hallowed, event, hid, hkind, hstate, happend⟩ := hadvances
      rw [happend.operations] at hrow'
      obtain ⟨r, hr, rfl⟩ := mem_modify_operation.mp hrow'
      refine .inr ⟨r, hr, ?_⟩
      split
      · next hsame =>
          obtain rfl := Table.eq_of_key_eq hr hrow hsame
          exact .advanced target now event hallowed hstart hkind hstate
            (happend.extends_ledger hid rfl)
      · next hne =>
          refine .kept (happend.eventsOf_other ?_)
          rw [hid]
          exact fun heq => hne heq.symm
  | progressed row event hrow hid hkind hstate happend =>
      rw [happend.operations] at hrow'
      by_cases hsame : row'.id = row.id
      · obtain rfl := Table.eq_of_key_eq hrow' hrow hsame
        exact .inr ⟨row', hrow, .progressed event hkind hstate (happend.extends_ledger hid rfl)⟩
      · refine .inr ⟨row', hrow', .kept (happend.eventsOf_other ?_)⟩
        rw [hid]
        exact fun heq => hsame heq.symm

/-- No change removes an operation. -/
theorem change_row_id (h : Change platform s s') {row : OperationRow} (hrow : row ∈ s.operations) :
    ∃ row' ∈ s'.operations, row'.id = row.id := by
  cases h with
  | planned new event record hstate hstarted hload hinsert hid hkind hplanned happend =>
      obtain ⟨operations, htable, rfl⟩ := Option.map_eq_some_iff.mp hinsert
      exact ⟨row, happend.operations ▸ (Table.mem_insert htable).mpr (.inl hrow), rfl⟩
  | approved approval hhuman hinsert =>
      obtain ⟨approvals, htable, rfl⟩ := Option.map_eq_some_iff.mp hinsert
      exact ⟨row, hrow, rfl⟩
  | reowned live runtimeId now hlive =>
      refine ⟨_, mem_modify_operation.mpr ⟨row, hrow, rfl⟩, ?_⟩
      split <;> rfl
  | advanced live target now hadvances hstart =>
      obtain ⟨-, -, event, -, -, -, happend⟩ := hadvances
      refine ⟨_, happend.operations ▸ mem_modify_operation.mpr ⟨row, hrow, rfl⟩, ?_⟩
      split <;> rfl
  | progressed live event hlive hid hkind hstate happend =>
      exact ⟨row, happend.operations ▸ hrow, rfl⟩

/-- Every operation takes a step under a change. -/
theorem change_row_step (h : Change platform s s') {row : OperationRow}
    (hrow : row ∈ s.operations) :
    ∃ row' ∈ s'.operations, RowStep platform s s' row row' := by
  obtain ⟨row', hrow', hid⟩ := change_row_id h hrow
  rcases change_row h hrow' with hnew | ⟨source, hsource, hstep⟩
  · exact absurd hid.symm (hnew.fresh row hrow)
  · obtain rfl := Table.eq_of_key_eq hsource hrow (hstep.id_eq.symm.trans hid)
    exact ⟨row', hrow', hstep⟩

/-- A change keeps the approvals or adds one of a person. -/
theorem change_approvals (h : Change platform s s') :
    s'.approvals = s.approvals ∨
      ∃ row, IsHuman row.approverKind ∧ s.approvals.insert row = some s'.approvals := by
  cases h with
  | planned new event record hstate hstarted hload hinsert hid hkind hplanned happend =>
      obtain ⟨operations, htable, rfl⟩ := Option.map_eq_some_iff.mp hinsert
      exact .inl happend.approvals
  | approved new hhuman hinsert =>
      obtain ⟨approvals, htable, rfl⟩ := Option.map_eq_some_iff.mp hinsert
      exact .inr ⟨new, hhuman, htable⟩
  | reowned => exact .inl rfl
  | advanced row target now hadvances hstart =>
      obtain ⟨-, -, event, -, -, -, happend⟩ := hadvances
      exact .inl happend.approvals
  | progressed row event hrow hid hkind hstate happend => exact .inl happend.approvals

/-- No change removes an approval. -/
theorem change_approval_kept (h : Change platform s s') {approval : ApprovalRow}
    (happroval : approval ∈ s.approvals) : approval ∈ s'.approvals := by
  rcases change_approvals h with hsame | ⟨row, -, hinsert⟩
  · exact hsame ▸ happroval
  · exact (Table.mem_insert hinsert).mpr (.inl happroval)

/-- Only a person adds an approval. -/
theorem change_approval_human (h : Change platform s s') {approval : ApprovalRow}
    (happroval : approval ∈ s'.approvals) :
    approval ∈ s.approvals ∨ IsHuman approval.approverKind := by
  rcases change_approvals h with hsame | ⟨row, hhuman, hinsert⟩
  · exact .inl (hsame ▸ happroval)
  · rcases (Table.mem_insert hinsert).mp happroval with hold | rfl
    · exact .inl hold
    · exact .inr hhuman

/-- A change adds events only to operations of the store. -/
theorem change_event (h : Change platform s s') {event : EventRow} (hevent : event ∈ s'.events) :
    event ∈ s.events ∨ ∃ row ∈ s'.operations, row.id = event.operationId := by
  cases h with
  | planned new first record hstate hstarted hload hinsert hid hkind hplanned happend =>
      obtain ⟨operations, htable, rfl⟩ := Option.map_eq_some_iff.mp hinsert
      rcases happend.mem.mp hevent with hold | rfl
      · exact .inl hold
      · exact .inr ⟨new, happend.operations ▸ (Table.mem_insert htable).mpr (.inr rfl), hid.symm⟩
  | approved new hhuman hinsert =>
      obtain ⟨approvals, htable, rfl⟩ := Option.map_eq_some_iff.mp hinsert
      exact .inl hevent
  | reowned => exact .inl hevent
  | advanced row target now hadvances hstart =>
      obtain ⟨hrow, -, next, hid, -, -, happend⟩ := hadvances
      rcases happend.mem.mp hevent with hold | rfl
      · exact .inl hold
      · exact .inr ⟨row.advance target now, happend.operations ▸ modified_mem hrow, hid.symm⟩
  | progressed row next hrow hid hkind hstate happend =>
      rcases happend.mem.mp hevent with hold | rfl
      · exact .inl hold
      · exact .inr ⟨row, happend.operations ▸ hrow, hid.symm⟩

end Dopedb.Operations
