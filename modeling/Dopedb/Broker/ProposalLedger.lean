import Dopedb.Broker.SessionRegistry

/-!
# What becomes of a session's proposals

A proposal is in the ledger of its session until a call takes it out, and that call hands it to the
revocation sink. `Accounted` says where a proposal is between any two accesses; every access keeps
it, unless `revoke_all` clears a session that it did not list.
-/

namespace Dopedb.Broker

open Library

/-! ## What the history says -/

/-- The operations that were put into the ledger of a session, in order. -/
def recordedOperations (id : TerminalSessionId) (history : List Event) : List Uuid :=
  history.filterMap fun
    | .recorded id' operation => if id' = id then some operation else none
    | _ => none

@[simp] theorem recorded_operations_append (id : TerminalSessionId) (first second : List Event) :
    recordedOperations id (first ++ second) =
      recordedOperations id first ++ recordedOperations id second := List.filterMap_append

/-- A revocation with the operation was sent for the session. -/
def Sent (history : List Event) (id : TerminalSessionId) (operation : Uuid) : Prop :=
  ∃ operations, .sent ⟨id, operations⟩ ∈ history ∧ operation ∈ operations

/-- A running call will take the ledger of the session out. -/
def Draining (broker : BrokerPool) (id : TerminalSessionId) : Prop :=
  Pending broker (.drainProposals id) ∨
    ∃ shard ids, Pending broker (.clearSessions shard ids) ∧ id ∈ ids

/-- A running call will send a revocation of the session. -/
def Reporting (broker : BrokerPool) (id : TerminalSessionId) : Prop :=
  ∃ operations, Pending broker (.notifyRevoked id operations)

/-- A running call will send a revocation of the session with the operation. -/
def InHand (broker : BrokerPool) (id : TerminalSessionId) (operation : Uuid) : Prop :=
  ∃ operations, Pending broker (.notifyRevoked id operations) ∧ operation ∈ operations

/-- No proposal outlives its session: a proposal is in the ledger of a registered session or was
sent to the sink, and a session that left was reported afterwards. -/
structure NoneOutlives (broker : BrokerPool) : Prop where
  proposals : ∀ id operation, .tracked id operation ∈ broker.shared.history →
    (operation ∈ broker.shared.ledger id ∧ id ∈ broker.shared.sessions) ∨
      Sent broker.shared.history id operation
  sessions : ∀ before after id, broker.shared.history = before ++ .left id :: after →
    ∃ operations, .sent ⟨id, operations⟩ ∈ after

/-- Where a proposal is between any two accesses: in the ledger of a session that is registered or
that a running call drains, in the hand of a call that sends it, sent, or dropped from a ledger
that had as many newer ones as it keeps. -/
structure Accounted (broker : BrokerPool) : Prop where
  proposals : ∀ id operation, .tracked id operation ∈ broker.shared.history →
    (operation ∈ broker.shared.ledger id ∧
        (id ∈ broker.shared.sessions ∨ Draining broker id)) ∨
      InHand broker id operation ∨ Sent broker.shared.history id operation ∨
        .dropped id operation ∈ broker.shared.history
  sessions : ∀ before after id, broker.shared.history = before ++ .left id :: after →
    (∃ operations, .sent ⟨id, operations⟩ ∈ after) ∨ Draining broker id ∨ Reporting broker id
  dropped : ∀ before after id operation,
    broker.shared.history = before ++ .dropped id operation :: after →
      ∃ newer : List Uuid, newer.length = MAX_TRACKED_PROPOSALS_PER_SESSION ∧
        operation :: newer <:+ recordedOperations id before
  ledger : ∀ id, broker.shared.ledger id <:+ recordedOperations id broker.shared.history ∧
    (broker.shared.ledger id).length ≤ MAX_TRACKED_PROPOSALS_PER_SESSION

/-- An event of an extended history is an old one or a new one. -/
theorem split_history {history more before after : List Event} {event : Event}
    (h : history ++ more = before ++ event :: after) :
    (∃ after', history = before ++ event :: after' ∧ after = after' ++ more) ∨
      ∃ before', before = history ++ before' ∧ more = before' ++ event :: after := by
  rcases List.append_eq_append_iff.mp h with ⟨before', hbefore, hmore⟩ | ⟨after', hhistory, hafter⟩
  · exact .inr ⟨before', hbefore, hmore⟩
  · cases after' with
    | nil =>
        refine .inr ⟨[], by simpa using hhistory.symm, ?_⟩
        simpa using hafter.symm
    | cons first after' =>
        obtain ⟨rfl, hrest⟩ := List.cons.inj hafter
        exact .inl ⟨after', hhistory, hrest⟩

/-- What was sent stays sent. -/
theorem Sent.append {history : List Event} {id : TerminalSessionId} {operation : Uuid}
    (h : Sent history id operation) (more : List Event) : Sent (history ++ more) id operation := by
  obtain ⟨operations, hsent, hmem⟩ := h
  exact ⟨operations, List.mem_append_left _ hsent, hmem⟩

/-! ## What a step keeps -/

section Steps

variable {broker broker' : BrokerPool}

/-- The promises of the running calls are kept by a step. -/
structure Promises (broker broker' : BrokerPool) : Prop where
  draining : ∀ id, Draining broker id → Draining broker' id
  inHand : ∀ id operation, InHand broker id operation → InHand broker' id operation
  reporting : ∀ id, Reporting broker id → Reporting broker' id

/-- A step that makes no promised access keeps all promises. -/
theorem promises_of_pending (h : ∀ pending, Pending broker pending → Pending broker' pending) :
    Promises broker broker' where
  draining := by
    rintro id (hdrain | ⟨shard, ids, hclear, hid⟩)
    · exact .inl (h _ hdrain)
    · exact .inr ⟨shard, ids, h _ hclear, hid⟩
  inHand := fun id operation ⟨operations, hpending, hmem⟩ => ⟨operations, h _ hpending, hmem⟩
  reporting := fun id ⟨operations, hpending⟩ => ⟨operations, h _ hpending⟩

/-- A step that makes an access of another kind keeps all promises. -/
theorem promises_of_other {first : Access}
    (h : ∀ pending, Pending broker pending → pending = first ∨ Pending broker' pending)
    (hdrain : ∀ id, first ≠ .drainProposals id) (hnotify : ∀ id operations,
      first ≠ .notifyRevoked id operations) (hclear : ∀ shard ids,
      first ≠ .clearSessions shard ids) : Promises broker broker' where
  draining := by
    rintro id (hpending | ⟨shard, ids, hpending, hid⟩)
    · exact .inl ((h _ hpending).resolve_left fun heq => hdrain id heq.symm)
    · exact .inr ⟨shard, ids, (h _ hpending).resolve_left fun heq => hclear shard ids heq.symm, hid⟩
  inHand := fun id operation ⟨operations, hpending, hmem⟩ =>
    ⟨operations, (h _ hpending).resolve_left fun heq => hnotify id operations heq.symm, hmem⟩
  reporting := fun id ⟨operations, hpending⟩ =>
    ⟨operations, (h _ hpending).resolve_left fun heq => hnotify id operations heq.symm⟩

/-- A step that leaves the ledgers and the history as they are, and every session. -/
theorem Accounted.quiet (hinv : Accounted broker) (hpromises : Promises broker broker')
    (hproposals : broker'.shared.proposals = broker.shared.proposals)
    (hhistory : broker'.shared.history = broker.shared.history)
    (hsessions : ∀ id, id ∈ broker.shared.sessions → id ∈ broker'.shared.sessions) :
    Accounted broker' := by
  have hledger : ∀ id, broker'.shared.ledger id = broker.shared.ledger id := by
    intro id
    unfold Registry.ledger
    rw [hproposals]
  refine ⟨?_, ?_, ?_, ?_⟩
  · intro id operation htracked
    rw [hhistory] at htracked ⊢
    rw [hledger id]
    rcases hinv.proposals id operation htracked with ⟨hmem, hwhere⟩ | hhand | hrest
    · exact .inl ⟨hmem, hwhere.imp (hsessions id) (hpromises.draining id)⟩
    · exact .inr (.inl (hpromises.inHand id operation hhand))
    · exact .inr (.inr hrest)
  · intro before after id hsplit
    rw [hhistory] at hsplit
    exact (hinv.sessions before after id hsplit).imp_right
      (Or.imp (hpromises.draining id) (hpromises.reporting id))
  · intro before after id operation hsplit
    rw [hhistory] at hsplit
    exact hinv.dropped before after id operation hsplit
  · intro id
    rw [hhistory, hledger id]
    exact hinv.ledger id

/-- Where a proposal is stays right while its ledger is left alone. -/
theorem placed_more {more : List Event} {id : TerminalSessionId} {operation : Uuid}
    (hpromises : Promises broker broker')
    (hhistory : broker'.shared.history = broker.shared.history ++ more)
    (hledger : broker'.shared.ledger id = broker.shared.ledger id)
    (hsessions : id ∈ broker.shared.sessions → id ∈ broker'.shared.sessions ∨ Draining broker' id)
    (h : (operation ∈ broker.shared.ledger id ∧
        (id ∈ broker.shared.sessions ∨ Draining broker id)) ∨
      InHand broker id operation ∨ Sent broker.shared.history id operation ∨
        .dropped id operation ∈ broker.shared.history) :
    (operation ∈ broker'.shared.ledger id ∧
        (id ∈ broker'.shared.sessions ∨ Draining broker' id)) ∨
      InHand broker' id operation ∨ Sent broker'.shared.history id operation ∨
        .dropped id operation ∈ broker'.shared.history := by
  rw [hhistory, hledger]
  rcases h with ⟨hmem, hregistered | hdrain⟩ | hhand | hsent | hdropped
  · exact .inl ⟨hmem, hsessions hregistered⟩
  · exact .inl ⟨hmem, .inr (hpromises.draining id hdrain)⟩
  · exact .inr (.inl (hpromises.inHand id operation hhand))
  · exact .inr (.inr (.inl (hsent.append more)))
  · exact .inr (.inr (.inr (List.mem_append_left _ hdropped)))

/-- Every session that left is still reported, when those that leave now are promised to be. -/
theorem Accounted.sessions_more (hinv : Accounted broker) {more : List Event}
    (hhistory : broker'.shared.history = broker.shared.history ++ more)
    (hkept : ∀ id, Draining broker id ∨ Reporting broker id →
      (∃ operations, .sent ⟨id, operations⟩ ∈ more) ∨ Draining broker' id ∨ Reporting broker' id)
    (hleft : ∀ id, .left id ∈ more → Draining broker' id) :
    ∀ before after id, broker'.shared.history = before ++ .left id :: after →
      (∃ operations, .sent ⟨id, operations⟩ ∈ after) ∨ Draining broker' id ∨
        Reporting broker' id := by
  intro before after id hsplit
  rw [hhistory] at hsplit
  rcases split_history hsplit with ⟨after', hold, rfl⟩ | ⟨before', -, hnew⟩
  · rcases hinv.sessions before after' id hold with ⟨operations, hsent⟩ | hpromise
    · exact .inl ⟨operations, List.mem_append_left _ hsent⟩
    · rcases hkept id hpromise with ⟨operations, hsent⟩ | hlater
      · exact .inl ⟨operations, List.mem_append_right _ hsent⟩
      · exact .inr hlater
  · refine .inr (.inl (hleft id ?_))
    rw [hnew]
    exact List.mem_append_right _ List.mem_cons_self

/-- Every entry that was dropped had as many newer ones, when none is dropped now. -/
theorem Accounted.dropped_more (hinv : Accounted broker) {more : List Event}
    (hhistory : broker'.shared.history = broker.shared.history ++ more)
    (hnone : ∀ id operation, .dropped id operation ∉ more) :
    ∀ before after id operation,
      broker'.shared.history = before ++ .dropped id operation :: after →
        ∃ newer : List Uuid, newer.length = MAX_TRACKED_PROPOSALS_PER_SESSION ∧
          operation :: newer <:+ recordedOperations id before := by
  intro before after id operation hsplit
  rw [hhistory] at hsplit
  rcases split_history hsplit with ⟨after', hold, rfl⟩ | ⟨before', -, hnew⟩
  · exact hinv.dropped before after' id operation hold
  · refine absurd ?_ (hnone id operation)
    rw [hnew]
    exact List.mem_append_right _ List.mem_cons_self

/-- The sessions that are left when some are removed. -/
theorem mem_erase_sessions {registry : Registry} {ids : List TerminalSessionId}
    {id : TerminalSessionId} :
    id ∈ (eraseSessions registry ids).sessions ↔ id ∈ registry.sessions ∧ id ∉ ids := by
  show id ∈ ids.foldl (fun sessions id => sessions.erase id) registry.sessions ↔ _
  generalize registry.sessions = sessions
  induction ids generalizing sessions with
  | nil => simp
  | cons first ids ih =>
      rw [List.foldl_cons, ih, AList.mem_erase, List.mem_cons, not_or]
      tauto

/-- Sessions leave only while a running call drains them. -/
theorem Accounted.erase (hinv : Accounted broker) (hpromises : Promises broker broker')
    {ids : List TerminalSessionId} (hshared : broker'.shared = eraseSessions broker.shared ids)
    (hdraining : ∀ id ∈ ids, Draining broker' id) : Accounted broker' := by
  have hledger : ∀ id, broker'.shared.ledger id = broker.shared.ledger id := by
    intro id
    rw [hshared]
    rfl
  have hhistory : broker'.shared.history = broker.shared.history ++ ids.map .left := by
    rw [hshared]
    rfl
  have hrecorded : ∀ id, recordedOperations id (ids.map Event.left) = [] := by
    intro id
    simp [recordedOperations, List.filterMap_map]
  refine ⟨?_, hinv.sessions_more hhistory ?_ ?_, hinv.dropped_more hhistory (by simp), ?_⟩
  · intro id operation htracked
    rw [hhistory] at htracked
    have hold : .tracked id operation ∈ broker.shared.history := by simpa using htracked
    refine placed_more hpromises hhistory (hledger id) ?_ (hinv.proposals id operation hold)
    intro hregistered
    by_cases hid : id ∈ ids
    · exact .inr (hdraining id hid)
    · rw [hshared]
      exact .inl (mem_erase_sessions.mpr ⟨hregistered, hid⟩)
  · exact fun id hpromise =>
      .inr (hpromise.imp (hpromises.draining id) (hpromises.reporting id))
  · intro id hleft
    obtain ⟨id', hid', heq⟩ := List.mem_map.mp hleft
    cases heq
    exact hdraining id hid'
  · intro id
    rw [hledger id, hhistory, recorded_operations_append, hrecorded, List.append_nil]
    exact hinv.ledger id

/-- The ledger of a session takes an operation, and drops as many of the oldest as are over the
bound. -/
structure Records (broker broker' : BrokerPool) (id : TerminalSessionId) (operation : Uuid)
    (tracked : List Uuid) (overflow : Nat) : Prop where
  extended : tracked = broker.shared.ledger id ++ [operation]
  excess : overflow = tracked.length - MAX_TRACKED_PROPOSALS_PER_SESSION
  history : broker'.shared.history = broker.shared.history ++
    ([.tracked id operation, .recorded id operation] ++ (tracked.take overflow).map (.dropped id))
  ledger : broker'.shared.ledger id = tracked.drop overflow
  others : ∀ id', id' ≠ id → broker'.shared.ledger id' = broker.shared.ledger id'
  sessions : broker'.shared.sessions = broker.shared.sessions

/-- Recording a proposal takes it into the ledger. -/
theorem records_proposal {id : TerminalSessionId} {operation : Uuid}
    (hshared : broker'.shared = recordProposal broker.shared id operation) :
    ∃ tracked overflow, Records broker broker' id operation tracked overflow := by
  refine ⟨_, _, ⟨rfl, rfl, ?_, ?_, ?_, ?_⟩⟩
  · rw [hshared]
    unfold recordProposal
    simp only [List.append_assoc]
  · rw [hshared]
    unfold recordProposal
    simp only [Registry.ledger, AList.lookup_insert, Option.getD_some]
  · intro id' hne
    rw [hshared]
    unfold recordProposal
    simp only [Registry.ledger, AList.lookup_insert_ne hne]
  · rw [hshared]
    rfl

/-- Dropping entries records none. -/
theorem recorded_dropped (id id' : TerminalSessionId) (dropped : List Uuid) :
    recordedOperations id' (dropped.map (Event.dropped id)) = [] := by
  simp [recordedOperations, List.filterMap_map]

/-- The new entry is recorded for its session. -/
theorem recorded_entry (id : TerminalSessionId) (operation : Uuid) :
    recordedOperations id [Event.tracked id operation, .recorded id operation] = [operation] := by
  simp [recordedOperations]

section Recording

variable {id : TerminalSessionId} {operation : Uuid} {tracked : List Uuid} {overflow : Nat}

/-- The ledger was not over its bound, so it has at most one entry too many. -/
theorem Records.length (hrecords : Records broker broker' id operation tracked overflow)
    (hinv : Accounted broker) :
    tracked.length ≤ MAX_TRACKED_PROPOSALS_PER_SESSION + 1 := by
  obtain ⟨-, hlength⟩ := hinv.ledger id
  rw [hrecords.extended, List.length_append, List.length_singleton]
  omega

/-- The ledger with the new entry has the newest that were recorded. -/
theorem Records.suffix (hrecords : Records broker broker' id operation tracked overflow)
    (hinv : Accounted broker) :
    tracked <:+ recordedOperations id broker.shared.history ++ [operation] := by
  obtain ⟨⟨older, holder⟩, -⟩ := hinv.ledger id
  rw [hrecords.extended]
  exact ⟨older, by rw [← List.append_assoc, holder]⟩

/-- An entry of the ledger is still there or was dropped from it. -/
theorem Records.kept (hrecords : Records broker broker' id operation tracked overflow)
    {entry : Uuid} (h : entry ∈ tracked) :
    entry ∈ broker'.shared.ledger id ∨ .dropped id entry ∈ broker'.shared.history := by
  rw [← List.take_append_drop overflow tracked] at h
  rcases List.mem_append.mp h with htaken | hleft
  · right
    rw [hrecords.history]
    exact List.mem_append_right _ (List.mem_append_right _ (List.mem_map_of_mem htaken))
  · left
    rw [hrecords.ledger]
    exact hleft

/-- A proposal that was tracked is an old one or the new one. -/
theorem Records.tracked_cases (hrecords : Records broker broker' id operation tracked overflow)
    {id' : TerminalSessionId} {operation' : Uuid}
    (h : .tracked id' operation' ∈ broker'.shared.history) :
    .tracked id' operation' ∈ broker.shared.history ∨ (id' = id ∧ operation' = operation) := by
  rw [hrecords.history] at h
  rcases List.mem_append.mp h with hold | hnew
  · exact .inl hold
  · rcases List.mem_append.mp hnew with hnew | hdropped
    · exact .inr (by simpa using hnew)
    · obtain ⟨dropped, -, heq⟩ := List.mem_map.mp hdropped
      cases heq

/-- Only one entry is over the bound: the oldest, before as many newer ones as are kept. -/
theorem Records.dropped (hrecords : Records broker broker' id operation tracked overflow)
    (hinv : Accounted broker) {id' : TerminalSessionId} {operation' : Uuid}
    {before after : List Event}
    (hnew : [Event.tracked id operation, .recorded id operation] ++
      (tracked.take overflow).map (.dropped id) = before ++ .dropped id' operation' :: after) :
    before = [.tracked id operation, .recorded id operation] ∧ id' = id ∧
      ∃ newer : List Uuid, newer.length = MAX_TRACKED_PROPOSALS_PER_SESSION ∧
        tracked = operation' :: newer := by
  have hlength := hrecords.length hinv
  have hoverflow := hrecords.excess
  cases htaken : tracked.take overflow with
  | nil =>
      rw [htaken, List.map_nil, List.append_nil] at hnew
      have hmem : Event.dropped id' operation' ∈
          [Event.tracked id operation, .recorded id operation] := by
        rw [hnew]
        exact List.mem_append_right _ List.mem_cons_self
      simp at hmem
  | cons oldest others =>
      have hover : overflow = 1 := by
        have hle := List.length_take_le overflow tracked
        rw [htaken, List.length_cons] at hle
        omega
      obtain ⟨hone, hothers⟩ : tracked = oldest :: tracked.drop 1 ∧ others = [] := by
        rw [hover] at htaken
        cases tracked with
        | nil => cases htaken
        | cons first rest =>
            obtain ⟨rfl, rfl⟩ := List.cons.inj (htaken : [first] = oldest :: others)
            exact ⟨rfl, rfl⟩
      rw [htaken, hothers] at hnew
      -- the dropped entry is the third of the three new events
      rcases before with _ | ⟨e1, _ | ⟨e2, _ | ⟨e3, rest⟩⟩⟩ <;> simp at hnew
      obtain ⟨rfl, rfl, ⟨rfl, rfl⟩, -⟩ := hnew
      refine ⟨rfl, rfl, tracked.drop 1, ?_, hone⟩
      rw [List.length_drop]
      omega

end Recording

/-- A proposal of a registered session goes into its ledger. -/
theorem Accounted.record (hinv : Accounted broker) (hpromises : Promises broker broker')
    {id : TerminalSessionId} {operation : Uuid} (hid : id ∈ broker.shared.sessions)
    (hshared : broker'.shared = recordProposal broker.shared id operation) :
    Accounted broker' := by
  obtain ⟨tracked, overflow, hrecords⟩ := records_proposal hshared
  refine ⟨?_, hinv.sessions_more hrecords.history ?_ ?_, ?_, ?_⟩
  · intro id' operation' htracked
    -- an entry of the longer ledger is kept in it, or dropped from its front
    have hmine : ∀ entry ∈ tracked, (entry ∈ broker'.shared.ledger id ∧
          (id ∈ broker'.shared.sessions ∨ Draining broker' id)) ∨
        InHand broker' id entry ∨ Sent broker'.shared.history id entry ∨
          .dropped id entry ∈ broker'.shared.history := by
      intro entry hentry
      rcases hrecords.kept hentry with hledger | hdropped
      · exact .inl ⟨hledger, .inl (by rw [hrecords.sessions]; exact hid)⟩
      · exact .inr (.inr (.inr hdropped))
    rcases hrecords.tracked_cases htracked with hold | ⟨rfl, rfl⟩
    · by_cases heq : id' = id
      · subst heq
        rcases hinv.proposals id' operation' hold with ⟨hmem, -⟩ | hhand | hsent | hdropped
        · exact hmine operation' (by rw [hrecords.extended]; exact List.mem_append_left _ hmem)
        · exact .inr (.inl (hpromises.inHand id' operation' hhand))
        · rw [hrecords.history]
          exact .inr (.inr (.inl (hsent.append _)))
        · rw [hrecords.history]
          exact .inr (.inr (.inr (List.mem_append_left _ hdropped)))
      · refine placed_more hpromises hrecords.history (hrecords.others id' heq) ?_
          (hinv.proposals id' operation' hold)
        rw [hrecords.sessions]
        exact .inl
    · exact hmine operation' (by rw [hrecords.extended]; exact List.mem_append_right _ (by simp))
  · exact fun id' hpromise =>
      .inr (hpromise.imp (hpromises.draining id') (hpromises.reporting id'))
  · intro id' hleft
    rcases List.mem_append.mp hleft with hleft | hleft
    · simp at hleft
    · obtain ⟨dropped, -, heq⟩ := List.mem_map.mp hleft
      cases heq
  · intro before after id' operation' hsplit
    rw [hrecords.history] at hsplit
    rcases split_history hsplit with ⟨after', hold, rfl⟩ | ⟨before', hbefore, hnew⟩
    · exact hinv.dropped before after' id' operation' hold
    · obtain ⟨rfl, rfl, newer, hlength, hone⟩ := hrecords.dropped hinv hnew
      refine ⟨newer, hlength, ?_⟩
      rw [← hone, hbefore, recorded_operations_append, recorded_entry]
      exact hrecords.suffix hinv
  · intro id'
    rw [hrecords.history, recorded_operations_append, recorded_operations_append,
      recorded_dropped, List.append_nil]
    by_cases heq : id' = id
    · subst heq
      rw [hrecords.ledger, recorded_entry]
      refine ⟨(List.drop_suffix overflow tracked).trans (hrecords.suffix hinv), ?_⟩
      rw [List.length_drop, hrecords.excess]
      omega
    · have hnone : recordedOperations id'
          [Event.tracked id operation, .recorded id operation] = [] := by
        simp [recordedOperations, Ne.symm heq]
      rw [hrecords.others id' heq, hnone, List.append_nil]
      exact hinv.ledger id'

/-- A ledger that is taken out is in the hand of the call that took it. -/
theorem Accounted.drain (hinv : Accounted broker) {id : TerminalSessionId}
    (hpending : ∀ pending, Pending broker pending →
      pending = .drainProposals id ∨ Pending broker' pending)
    (hnotify : Pending broker' (.notifyRevoked id (broker.shared.ledger id)))
    (hshared : broker'.shared =
      { broker.shared with proposals := broker.shared.proposals.erase id }) :
    Accounted broker' := by
  have hself : broker'.shared.ledger id = [] := by
    rw [hshared]
    simp only [Registry.ledger, AList.lookup_erase, Option.getD_none]
  have hother : ∀ id', id' ≠ id → broker'.shared.ledger id' = broker.shared.ledger id' := by
    intro id' hne
    rw [hshared]
    simp only [Registry.ledger, AList.lookup_erase_ne hne]
  have hhistory : broker'.shared.history = broker.shared.history := by
    rw [hshared]
  have hsessions : broker'.shared.sessions = broker.shared.sessions := by
    rw [hshared]
  have hkept : ∀ pending, (∀ id', pending ≠ .drainProposals id') → Pending broker pending →
      Pending broker' pending := by
    intro pending hne h
    exact (hpending _ h).resolve_left (hne id)
  have hdraining : ∀ id', id' ≠ id → Draining broker id' → Draining broker' id' := by
    rintro id' hne (h | ⟨shard, ids, h, hmem⟩)
    · refine .inl ((hpending _ h).resolve_left fun heq => hne ?_)
      cases heq
      rfl
    · exact .inr ⟨shard, ids, hkept _ (fun _ heq => by cases heq) h, hmem⟩
  -- what the ledger held is in the hand of the call that will report it
  refine ⟨?_, ?_, ?_, ?_⟩
  · intro id' operation htracked
    rw [hhistory] at htracked ⊢
    rcases hinv.proposals id' operation htracked with ⟨hmem, hwhere⟩ | ⟨operations, h, hmem⟩ | hrest
    · by_cases heq : id' = id
      · subst heq
        exact .inr (.inl ⟨_, hnotify, hmem⟩)
      · rw [hother id' heq, hsessions]
        exact .inl ⟨hmem, hwhere.imp_right (hdraining id' heq)⟩
    · exact .inr (.inl ⟨operations, hkept _ (fun _ heq => by cases heq) h, hmem⟩)
    · exact .inr (.inr hrest)
  · intro before after id' hsplit
    rw [hhistory] at hsplit
    rcases hinv.sessions before after id' hsplit with hsent | hdrain | ⟨operations, h⟩
    · exact .inl hsent
    · by_cases heq : id' = id
      · subst heq
        exact .inr (.inr ⟨_, hnotify⟩)
      · exact .inr (.inl (hdraining id' heq hdrain))
    · exact .inr (.inr ⟨operations, hkept _ (fun _ heq => by cases heq) h⟩)
  · intro before after id' operation hsplit
    rw [hhistory] at hsplit
    exact hinv.dropped before after id' operation hsplit
  · intro id'
    rw [hhistory]
    by_cases heq : id' = id
    · subst heq
      rw [hself]
      exact ⟨List.nil_suffix, Nat.zero_le _⟩
    · rw [hother id' heq]
      exact hinv.ledger id'

/-- A revocation that is sent was in the hand of the call that sends it. A proposal of a session
that is gone is one. -/
theorem Accounted.notify (hinv : Accounted broker) {id : TerminalSessionId}
    {operations : List Uuid}
    (hpending : ∀ pending, Pending broker pending →
      pending = .notifyRevoked id operations ∨ Pending broker' pending)
    (hshared : broker'.shared =
      { broker.shared with history := broker.shared.history ++ [.sent ⟨id, operations⟩] }) :
    Accounted broker' := by
  have hledger : ∀ id', broker'.shared.ledger id' = broker.shared.ledger id' := by
    intro id'
    rw [hshared]
    rfl
  have hhistory : broker'.shared.history =
      broker.shared.history ++ [.sent ⟨id, operations⟩] := by
    rw [hshared]
  have hsessions : broker'.shared.sessions = broker.shared.sessions := by
    rw [hshared]
  have hdraining : ∀ id', Draining broker id' → Draining broker' id' := by
    rintro id' (h | ⟨shard, ids, h, hmem⟩)
    · exact .inl ((hpending _ h).resolve_left fun heq => by cases heq)
    · exact .inr ⟨shard, ids, (hpending _ h).resolve_left (fun heq => by cases heq), hmem⟩
  have hsent : Event.sent ⟨id, operations⟩ ∈ broker'.shared.history := by
    rw [hhistory]
    exact List.mem_append_right _ (List.mem_singleton.mpr rfl)
  refine ⟨?_, ?_, ?_, ?_⟩
  · intro id' operation htracked
    have hold : .tracked id' operation ∈ broker.shared.history := by
      rw [hhistory] at htracked
      simpa using htracked
    rcases hinv.proposals id' operation hold with
      ⟨hmem, hwhere⟩ | ⟨operations', h, hmem⟩ | h | hdropped
    · rw [hledger id', hsessions]
      exact .inl ⟨hmem, hwhere.imp_right (hdraining id')⟩
    · rcases hpending _ h with heq | h
      · cases heq
        exact .inr (.inr (.inl ⟨operations, hsent, hmem⟩))
      · exact .inr (.inl ⟨operations', h, hmem⟩)
    · rw [hhistory]
      exact .inr (.inr (.inl (h.append _)))
    · rw [hhistory]
      exact .inr (.inr (.inr (List.mem_append_left _ hdropped)))
  · refine hinv.sessions_more hhistory ?_ (by simp)
    rintro id' (hdrain | ⟨operations', h⟩)
    · exact .inr (.inl (hdraining id' hdrain))
    · rcases hpending _ h with heq | h
      · cases heq
        exact .inl ⟨operations, List.mem_singleton.mpr rfl⟩
      · exact .inr (.inr ⟨operations', h⟩)
  · exact hinv.dropped_more hhistory (by simp)
  · intro id'
    have hnone : recordedOperations id' [Event.sent ⟨id, operations⟩] = [] := rfl
    rw [hledger id', hhistory, recorded_operations_append, hnone, List.append_nil]
    exact hinv.ledger id'

/-- A proposal of a session that is gone is in the hand of the call that was to track it. -/
theorem Accounted.late (hinv : Accounted broker) (hpromises : Promises broker broker')
    {id : TerminalSessionId} {operation : Uuid}
    (hnotify : Pending broker' (.notifyRevoked id [operation]))
    (hshared : broker'.shared =
      { broker.shared with history := broker.shared.history ++ [.tracked id operation] }) :
    Accounted broker' := by
  have hledger : ∀ id', broker'.shared.ledger id' = broker.shared.ledger id' := by
    intro id'
    rw [hshared]
    rfl
  have hhistory : broker'.shared.history = broker.shared.history ++ [.tracked id operation] := by
    rw [hshared]
  have hsessions : broker'.shared.sessions = broker.shared.sessions := by
    rw [hshared]
  refine ⟨?_, ?_, ?_, ?_⟩
  · intro id' operation' htracked
    have hcases : .tracked id' operation' ∈ broker.shared.history ∨
        (id' = id ∧ operation' = operation) := by
      rw [hhistory] at htracked
      simpa using htracked
    rcases hcases with hold | ⟨rfl, rfl⟩
    · refine placed_more hpromises hhistory (hledger id') ?_ (hinv.proposals id' operation' hold)
      rw [hsessions]
      exact .inl
    · exact .inr (.inl ⟨[operation'], hnotify, List.mem_singleton.mpr rfl⟩)
  · refine hinv.sessions_more hhistory ?_ (by simp)
    exact fun id' hpromise =>
      .inr (hpromise.imp (hpromises.draining id') (hpromises.reporting id'))
  · exact hinv.dropped_more hhistory (by simp)
  · intro id'
    have hnone : recordedOperations id' [Event.tracked id operation] = [] := rfl
    rw [hledger id', hhistory, recorded_operations_append, hnone, List.append_nil]
    exact hinv.ledger id'

end Steps

end Dopedb.Broker
