import Dopedb.Broker.SessionRegistry
import Dopedb.Operations.Model

/-!
# The approval queue of external Agents

`broker/external_agent_requests.rs`, with the calls that `broker/dispatch` makes of it. The
identities of the external sessions and the queue of their proposals have a lock each, and a call
is a task that goes from one locked section to the next; what the operation service answers
between two of them is an input. `forgotten` records the sessions that `forget_external_session`
has returned for since they were last registered.
-/

namespace Dopedb.Broker

open Library Operations

/-- The proposals that the queue has room for. -/
def MAX_QUEUED_PROPOSALS : Nat := 16

inductive ExternalAgentRequestKind where
  | configure | start | proposal
  deriving DecidableEq, Repr

inductive ExternalAgentProvider where
  | codex | claude
  deriving DecidableEq, Repr

/-- The resources of one Project that a configuration selects. -/
structure ExternalAgentResourceScope where
  authorityConnectionId : ConnectionId
  projectEnvironmentId : Uuid
  connectionIds : List ConnectionId
  sourceIds : List Uuid
  deriving DecidableEq, Repr

/-- What an external Agent process was approved for. -/
structure ExternalAgentConfig where
  schemaVersion : UInt16
  provider : ExternalAgentProvider
  projectId : Uuid
  anchorConnectionId : ConnectionId
  resourceScopes : List ExternalAgentResourceScope
  writeConnectionId : Option ConnectionId
  deriving DecidableEq, Repr

/-- A redacted reference to one operation. -/
structure ExternalAgentProposalReference where
  operationId : Uuid
  connectionId : ConnectionId
  payloadHash : String
  state : OperationState
  deriving DecidableEq, Repr

/-- What the approval surface shows of a request. -/
structure ExternalAgentRequestSummary where
  id : Uuid
  kind : ExternalAgentRequestKind
  provider : ExternalAgentProvider
  workingDirectory : String
  config : Option ExternalAgentConfig
  proposal : Option ExternalAgentProposalReference
  deriving DecidableEq, Repr

/-- An external Agent process that a person approved. -/
structure ExternalAgentIdentity where
  terminalSessionId : TerminalSessionId
  provider : ExternalAgentProvider
  workingDirectory : String
  deriving DecidableEq, Repr

/-- A queued proposal, with the session that made it. -/
structure QueuedProposal where
  terminalSessionId : TerminalSessionId
  summary : ExternalAgentRequestSummary
  deriving DecidableEq, Repr

/-- The two locked lists, and the sessions that were forgotten. -/
structure ExternalAgentRequestRegistry where
  externalSessions : List ExternalAgentIdentity := []
  proposals : List QueuedProposal := []
  forgotten : List TerminalSessionId := []
  deriving DecidableEq, Repr

namespace ExternalAgentRequestRegistry

/-- The identities of the other sessions. -/
def otherSessions (registry : ExternalAgentRequestRegistry) (id : TerminalSessionId) :
    List ExternalAgentIdentity :=
  registry.externalSessions.filter (·.terminalSessionId ≠ id)

/-- The entries of the other operations. -/
def otherOperations (registry : ExternalAgentRequestRegistry) (operation : Uuid) :
    List QueuedProposal :=
  registry.proposals.filter (·.summary.id ≠ operation)

/-- The only section of `register_external_session`. -/
def registerExternalSession (registry : ExternalAgentRequestRegistry)
    (identity : ExternalAgentIdentity) : ExternalAgentRequestRegistry :=
  { registry with
    externalSessions := registry.otherSessions identity.terminalSessionId ++ [identity]
    forgotten := registry.forgotten.filter (· ≠ identity.terminalSessionId) }

/-- The first section of `forget_external_session`. -/
def forgetIdentity (registry : ExternalAgentRequestRegistry) (id : TerminalSessionId) :
    ExternalAgentRequestRegistry :=
  { registry with externalSessions := registry.otherSessions id }

/-- The entries that the second section of `forget_external_session` releases. -/
def released (registry : ExternalAgentRequestRegistry) (id : TerminalSessionId) : List Uuid :=
  (registry.proposals.filter (·.terminalSessionId = id)).map (·.summary.id)

/-- The second section of `forget_external_session`, which then returns. -/
def releaseProposals (registry : ExternalAgentRequestRegistry) (id : TerminalSessionId) :
    ExternalAgentRequestRegistry :=
  { registry with
    proposals := registry.proposals.filter (·.terminalSessionId ≠ id)
    forgotten := id :: registry.forgotten }

/-- What the first section of `accepts_proposal` finds. -/
def external (registry : ExternalAgentRequestRegistry) (id : TerminalSessionId) : Bool :=
  registry.externalSessions.any (·.terminalSessionId = id)

/-- What the second section of `accepts_proposal` finds. -/
def hasRoom (registry : ExternalAgentRequestRegistry) : Bool :=
  registry.proposals.length < MAX_QUEUED_PROPOSALS

/-- What the first section of `enqueue_proposal` finds. -/
def identity (registry : ExternalAgentRequestRegistry) (id : TerminalSessionId) :
    Option ExternalAgentIdentity :=
  registry.externalSessions.find? (·.terminalSessionId = id)

/-- The second section of `enqueue_proposal`. -/
def queueEntry (registry : ExternalAgentRequestRegistry) (id : TerminalSessionId)
    (entry : ExternalAgentRequestSummary) : ExternalAgentRequestRegistry :=
  { registry with proposals := registry.otherOperations entry.id ++ [⟨id, entry⟩] }

/-- The only section of `dismiss_proposal`. -/
def dismissProposal (registry : ExternalAgentRequestRegistry) (operation : Uuid) :
    ExternalAgentRequestRegistry :=
  { registry with proposals := registry.otherOperations operation }

end ExternalAgentRequestRegistry

/-- The entry of a proposal from a known process. -/
def proposalEntry (identity : ExternalAgentIdentity) (proposal : ExternalAgentProposalReference) :
    ExternalAgentRequestSummary where
  id := proposal.operationId
  kind := .proposal
  provider := identity.provider
  workingDirectory := identity.workingDirectory
  config := none
  proposal := some proposal

/-- A call of the registry. `propose` is `sql_propose` of the dispatcher, from the question whether
the queue has room to the announcement of what was proposed. -/
inductive RequestCall where
  | register (identity : ExternalAgentIdentity)
  | forget (id : TerminalSessionId)
  | propose (id : TerminalSessionId)
  | dismiss (operation : Uuid)
  deriving DecidableEq, Repr

/-- What a call answers. -/
inductive RequestAnswer where
  | registered
  | forgot (released : List Uuid)
  | conflict
  | failed
  | proposed (announced : Option ExternalAgentRequestSummary)
  | dismissed (found : Bool)
  deriving DecidableEq, Repr

/-- Where a call is: before one of its sections, waiting for the operation service, or at its
end. -/
inductive RequestControl where
  | register (identity : ExternalAgentIdentity)
  | forgetIdentity (id : TerminalSessionId)
  | releaseProposals (id : TerminalSessionId)
  | askSession (id : TerminalSessionId)
  | askRoom (id : TerminalSessionId)
  | create (id : TerminalSessionId)
  | findIdentity (id : TerminalSessionId) (proposal : ExternalAgentProposalReference)
  | queueEntry (id : TerminalSessionId) (entry : ExternalAgentRequestSummary)
  | dismiss (operation : Uuid)
  | returned (answer : RequestAnswer)
  deriving DecidableEq, Repr

/-- The first section of a call. -/
def RequestCall.control : RequestCall → RequestControl
  | .register identity => .register identity
  | .forget id => .forgetIdentity id
  | .propose id => .askSession id
  | .dismiss operation => .dismiss operation

/-- A call goes through its next section. The input is what the operation service has proposed,
nothing when it failed. -/
def requestResume : Resume ExternalAgentRequestRegistry RequestControl
    (Option ExternalAgentProposalReference)
  | registry, .register identity, _ =>
    some (registry.registerExternalSession identity, .returned .registered, [])
  | registry, .forgetIdentity id, _ =>
    some (registry.forgetIdentity id, .releaseProposals id, [])
  | registry, .releaseProposals id, _ =>
    some (registry.releaseProposals id, .returned (.forgot (registry.released id)), [])
  | registry, .askSession id, _ =>
    -- A session of the app is accepted without a look at the queue.
    some (registry, if registry.external id then .askRoom id else .create id, [])
  | registry, .askRoom id, _ =>
    some (registry, if registry.hasRoom then .create id else .returned .conflict, [])
  | registry, .create id, answer =>
    match answer with
    | none => some (registry, .returned .failed, [])
    | some proposal =>
      -- `surface_proposal` announces only what waits for approval.
      some (registry,
        if proposal.state = .pendingApproval then .findIdentity id proposal
        else .returned (.proposed none), [])
  | registry, .findIdentity id proposal, _ =>
    match registry.identity id with
    | none => some (registry, .returned (.proposed none), [])
    | some identity => some (registry, .queueEntry id (proposalEntry identity proposal), [])
  | registry, .queueEntry id entry, _ =>
    some (registry.queueEntry id entry, .returned (.proposed (some entry)), [])
  | registry, .dismiss operation, _ =>
    let after := registry.dismissProposal operation
    some (after, .returned (.dismissed (after.proposals.length != registry.proposals.length)), [])
  | _, .returned _, _ => none

/-- The registry and the calls that run. -/
abbrev RequestPool := Pool ExternalAgentRequestRegistry RequestControl

/-- A call starts, or one that runs goes through its next section. -/
inductive RequestMove where
  | call (call : RequestCall)
  | section (task : Nat) (answer : Option ExternalAgentProposalReference)
  deriving DecidableEq, Repr

/-- The registry and its calls after a move. -/
def requestMove (pool : RequestPool) : RequestMove → RequestPool
  | .call call => pool.move requestResume (.start call.control)
  | .section task answer => pool.move requestResume (.resume task answer)

/-- No session, no proposal and no call. -/
def emptyRequests : RequestPool := ⟨{}, []⟩

/-! ## What a section does to the queue -/

/-- A section leaves the queue as it is, and forgets no further session, unless it releases the
proposals of a session, puts an entry into the queue or takes the entries of an operation out. -/
theorem request_section_cases {registry registry' : ExternalAgentRequestRegistry}
    {control control' : RequestControl} {answer : Option ExternalAgentProposalReference}
    {spawned : List RequestControl}
    (h : requestResume registry control answer = some (registry', control', spawned)) :
    (registry'.proposals = registry.proposals ∧ registry'.forgotten ⊆ registry.forgotten) ∨
    (∃ id, control = .releaseProposals id ∧ registry' = registry.releaseProposals id) ∨
    (∃ id entry, control = .queueEntry id entry ∧ registry' = registry.queueEntry id entry) ∨
    ∃ operation, control = .dismiss operation ∧
      registry' = registry.dismissProposal operation := by
  cases control with
  | register identity =>
      obtain ⟨rfl, -⟩ : registry.registerExternalSession identity = registry' ∧ _ :=
        Prod.mk.inj (Option.some.inj h)
      exact .inl ⟨rfl, List.filter_subset_self _⟩
  | forgetIdentity id =>
      obtain ⟨rfl, -⟩ : registry.forgetIdentity id = registry' ∧ _ :=
        Prod.mk.inj (Option.some.inj h)
      exact .inl ⟨rfl, fun _ hmem => hmem⟩
  | releaseProposals id =>
      obtain ⟨rfl, -⟩ : registry.releaseProposals id = registry' ∧ _ :=
        Prod.mk.inj (Option.some.inj h)
      exact .inr (.inl ⟨id, rfl, rfl⟩)
  | askSession id =>
      obtain ⟨rfl, -⟩ : registry = registry' ∧ _ := Prod.mk.inj (Option.some.inj h)
      exact .inl ⟨rfl, fun _ hmem => hmem⟩
  | askRoom id =>
      obtain ⟨rfl, -⟩ : registry = registry' ∧ _ := Prod.mk.inj (Option.some.inj h)
      exact .inl ⟨rfl, fun _ hmem => hmem⟩
  | create id =>
      have hsame : registry = registry' := by
        cases answer with
        | none => exact (Prod.mk.inj (Option.some.inj h)).1
        | some proposal => exact (Prod.mk.inj (Option.some.inj h)).1
      exact .inl ⟨by rw [hsame], fun _ hmem => hsame ▸ hmem⟩
  | findIdentity id proposal =>
      have hsame : registry = registry' := by
        simp only [requestResume] at h
        cases hidentity : registry.identity id with
        | none =>
            rw [hidentity] at h
            exact (Prod.mk.inj (Option.some.inj h)).1
        | some identity =>
            rw [hidentity] at h
            exact (Prod.mk.inj (Option.some.inj h)).1
      exact .inl ⟨by rw [hsame], fun _ hmem => hsame ▸ hmem⟩
  | queueEntry id entry =>
      obtain ⟨rfl, -⟩ : registry.queueEntry id entry = registry' ∧ _ :=
        Prod.mk.inj (Option.some.inj h)
      exact .inr (.inr (.inl ⟨id, entry, rfl, rfl⟩))
  | dismiss operation =>
      obtain ⟨rfl, -⟩ : registry.dismissProposal operation = registry' ∧ _ :=
        Prod.mk.inj (Option.some.inj h)
      exact .inr (.inr (.inr ⟨operation, rfl, rfl⟩))
  | returned answer => exact absurd h (by simp [requestResume])

/-! ## The law of the queue -/

/-- No operation has two entries, the queue is not overfull, and no entry is of a session that was
forgotten. -/
structure QueueSound (registry : ExternalAgentRequestRegistry) : Prop where
  distinct : (registry.proposals.map (·.summary.id)).Nodup
  bounded : registry.proposals.length ≤ MAX_QUEUED_PROPOSALS
  live : ∀ queued ∈ registry.proposals, queued.terminalSessionId ∉ registry.forgotten

/-- The section dismisses the entry, announces its operation again, or is the one in which its
session is forgotten. -/
def Removes (queued : QueuedProposal) : RequestControl → Prop
  | .dismiss operation => queued.summary.id = operation
  | .queueEntry _ entry => queued.summary.id = entry.id
  | .releaseProposals id => queued.terminalSessionId = id
  | _ => False

/-- The call that moves goes through this section. -/
def Runs (pool : RequestPool) (control : RequestControl) : RequestMove → Prop
  | .call _ => False
  | .section task _ => pool.tasks[task]? = some control

/-- An entry leaves the queue only in a section that may remove it. -/
def LeavesRightly (pool : RequestPool) (step : RequestMove) : Prop :=
  ∀ queued ∈ pool.shared.proposals, queued ∉ (requestMove pool step).shared.proposals →
    ∃ control, Runs pool control step ∧ Removes queued control

/-- After the move the queue is sound, and nothing left it wrongly. -/
def QueueLaw (pool : RequestPool) (step : RequestMove) : Prop :=
  QueueSound (requestMove pool step).shared ∧ LeavesRightly pool step

/-- Where the move puts an entry into the queue, the operation has one already or there is room
for it, and its session was not forgotten. -/
def QueuesRightly (pool : RequestPool) (step : RequestMove) : Prop :=
  ∀ id entry, Runs pool (.queueEntry id entry) step →
    (pool.shared.proposals.length < MAX_QUEUED_PROPOSALS ∨
      entry.id ∈ pool.shared.proposals.map (·.summary.id)) ∧ id ∉ pool.shared.forgotten

/-- A queue that only lost entries stays sound, as long as no session it still has was forgotten. -/
theorem sound_of_sublist {registry registry' : ExternalAgentRequestRegistry}
    (hsound : QueueSound registry) (hsub : registry'.proposals.Sublist registry.proposals)
    (hlive : ∀ queued ∈ registry'.proposals, queued.terminalSessionId ∉ registry.forgotten →
      queued.terminalSessionId ∉ registry'.forgotten) : QueueSound registry' where
  distinct := hsound.distinct.sublist (hsub.map _)
  bounded := hsub.length_le.trans hsound.bounded
  live queued hqueued := hlive queued hqueued (hsound.live queued (hsub.subset hqueued))

/-- The operations that have an entry besides the one given. -/
theorem other_operation_ids (registry : ExternalAgentRequestRegistry) (operation : Uuid) :
    (registry.otherOperations operation).map (·.summary.id) =
      (registry.proposals.map (·.summary.id)).filter (· ≠ operation) := by
  rw [List.filter_map]
  rfl

/-- How many entries stay when those of one operation are taken out. -/
theorem other_operations_length {registry : ExternalAgentRequestRegistry}
    (hsound : QueueSound registry) (operation : Uuid) :
    (registry.otherOperations operation).length =
      if operation ∈ registry.proposals.map (·.summary.id) then registry.proposals.length - 1
      else registry.proposals.length := by
  have hids := congrArg List.length (other_operation_ids registry operation)
  have herase := hsound.distinct.erase_eq_filter operation
  rw [List.length_map] at hids
  rw [hids, ← @List.length_map _ _ registry.proposals (·.summary.id), ← List.length_erase,
    herase]
  congr 1
  exact List.filter_congr fun id _ => by by_cases hid : id = operation <;> simp [hid]

/-- An entry put into a sound queue leaves it sound exactly when there is room for it, or its
operation has an entry already, and its session was not forgotten. -/
theorem sound_queue_entry_iff {registry : ExternalAgentRequestRegistry}
    (hsound : QueueSound registry) (id : TerminalSessionId) (entry : ExternalAgentRequestSummary) :
    QueueSound (registry.queueEntry id entry) ↔
      (registry.proposals.length < MAX_QUEUED_PROPOSALS ∨
        entry.id ∈ registry.proposals.map (·.summary.id)) ∧ id ∉ registry.forgotten := by
  have hlength : (registry.queueEntry id entry).proposals.length =
      (registry.otherOperations entry.id).length + 1 := List.length_append
  rw [other_operations_length hsound entry.id] at hlength
  have hbound := hsound.bounded
  constructor
  · intro h
    refine ⟨?_, h.live ⟨id, entry⟩ (List.mem_append_right _ (List.mem_singleton_self _))⟩
    by_cases hqueued : entry.id ∈ registry.proposals.map (·.summary.id)
    · exact .inr hqueued
    · have hafter := h.bounded
      rw [if_neg hqueued] at hlength
      exact .inl (by omega)
  · rintro ⟨hroom, hlive⟩
    refine ⟨?_, ?_, ?_⟩
    · have hids : (registry.queueEntry id entry).proposals.map (·.summary.id) =
          (registry.otherOperations entry.id).map (·.summary.id) ++ [entry.id] :=
        List.map_append
      rw [hids, other_operation_ids]
      refine (hsound.distinct.filter _).append (List.nodup_singleton _) ?_
      intro operation hother hentry
      have hne := List.of_mem_filter hother
      rw [List.mem_singleton.mp hentry] at hne
      simp at hne
    · rcases hroom with hroom | hqueued
      · split at hlength <;> omega
      · have hpos := List.length_pos_of_mem hqueued
        rw [List.length_map] at hpos
        rw [if_pos hqueued] at hlength
        omega
    · intro queued hqueued
      rcases List.mem_append.mp hqueued with hother | hnew
      · exact hsound.live queued (List.mem_of_mem_filter hother)
      · rw [List.mem_singleton.mp hnew]
        exact hlive

/-! ## What a move does -/

/-- What a section does is what the move does that goes through it. -/
theorem request_move_of_runs {pool : RequestPool} {step : RequestMove} {control : RequestControl}
    (hruns : Runs pool control step) :
    ∃ answer, ∀ registry control' spawned,
      requestResume pool.shared control answer = some (registry, control', spawned) →
        (requestMove pool step).shared = registry := by
  cases step with
  | call call => exact hruns.elim
  | «section» task answer =>
      refine ⟨answer, fun registry control' spawned hresume => ?_⟩
      have htask : pool.tasks[task]? = some control := hruns
      show Pool.shared (pool.move requestResume (.resume task answer)) = registry
      simp only [Pool.move, htask, hresume]

/-- A move leaves the registry as it is, or goes through a section of one call. -/
theorem request_move_cases (pool : RequestPool) (step : RequestMove) :
    (requestMove pool step).shared = pool.shared ∨
    ∃ control control' answer spawned, Runs pool control step ∧
      requestResume pool.shared control answer =
        some ((requestMove pool step).shared, control', spawned) := by
  cases step with
  | call call => exact .inl rfl
  | «section» task answer =>
      show Pool.shared (pool.move requestResume (.resume task answer)) = _ ∨ _
      rcases move_cases requestResume pool (.resume task answer) with
        ⟨_, habsurd, _⟩ | hsame | ⟨task', answer', control, registry, control', spawned, heq,
          htask, hresume, hmoved⟩
      · exact nomatch habsurd
      · exact .inl (by rw [hsame])
      · obtain ⟨rfl, rfl⟩ := Move.resume.inj heq
        refine .inr ⟨control, control', answer, spawned, htask, ?_⟩
        show requestResume pool.shared control answer =
          some (Pool.shared (pool.move requestResume (.resume task answer)), _)
        rw [hmoved, hresume]

/-- A move keeps a sound queue to its law exactly when it queues rightly. -/
theorem queue_law_iff {pool : RequestPool} (hsound : QueueSound pool.shared)
    (step : RequestMove) : QueueLaw pool step ↔ QueuesRightly pool step := by
  constructor
  · rintro ⟨hafter, -⟩ id entry hruns
    obtain ⟨answer, hmoved⟩ := request_move_of_runs hruns
    have hqueued : (requestMove pool step).shared = pool.shared.queueEntry id entry :=
      hmoved _ _ _ rfl
    rw [hqueued] at hafter
    exact (sound_queue_entry_iff hsound id entry).mp hafter
  · intro hrightly
    rcases request_move_cases pool step with
      hsame | ⟨control, control', answer, spawned, hruns, hresume⟩
    · refine ⟨by rwa [hsame], ?_⟩
      intro queued hqueued hleft
      rw [hsame] at hleft
      exact absurd hqueued hleft
    · rcases request_section_cases hresume with
        ⟨hproposals, hforgotten⟩ | ⟨id, rfl, hafter⟩ | ⟨id, entry, rfl, hafter⟩ |
          ⟨operation, rfl, hafter⟩
      · -- Registering a session again only makes it a session that was not forgotten.
        refine ⟨sound_of_sublist hsound (by rw [hproposals]) ?_, ?_⟩
        · exact fun queued _ hlive hmem => hlive (hforgotten hmem)
        · intro queued hqueued hleft
          rw [hproposals] at hleft
          exact absurd hqueued hleft
      · refine ⟨?_, ?_⟩
        · rw [hafter]
          refine sound_of_sublist hsound List.filter_sublist ?_
          intro queued hqueued hlive hmem
          have hother := List.of_mem_filter hqueued
          rcases List.mem_cons.mp hmem with hid | hmem
          · simp [hid] at hother
          · exact hlive hmem
        · intro queued hqueued hleft
          refine ⟨_, hruns, ?_⟩
          show queued.terminalSessionId = id
          rw [hafter] at hleft
          by_contra hother
          exact hleft (List.mem_filter.mpr ⟨hqueued, by simpa using hother⟩)
      · refine ⟨?_, ?_⟩
        · rw [hafter]
          exact (sound_queue_entry_iff hsound id entry).mpr (hrightly id entry hruns)
        · intro queued hqueued hleft
          refine ⟨_, hruns, ?_⟩
          show queued.summary.id = entry.id
          rw [hafter] at hleft
          by_contra hother
          refine hleft (List.mem_append_left _ ?_)
          exact List.mem_filter.mpr ⟨hqueued, by simpa using hother⟩
      · refine ⟨?_, ?_⟩
        · rw [hafter]
          exact sound_of_sublist hsound List.filter_sublist fun queued _ hlive => hlive
        · intro queued hqueued hleft
          refine ⟨_, hruns, ?_⟩
          show queued.summary.id = operation
          rw [hafter] at hleft
          by_contra hother
          exact hleft (List.mem_filter.mpr ⟨hqueued, by simpa using hother⟩)

/-- The queue starts sound. -/
theorem queue_sound_empty : QueueSound emptyRequests.shared where
  distinct := List.nodup_nil
  bounded := Nat.zero_le _
  live _ hqueued := absurd hqueued List.not_mem_nil

/-! ## The law over every run -/

/-- Where every move of a run keeps the queue to its law, the queue is sound at the end. -/
theorem sound_of_law {moves : List RequestMove}
    (h : EachCall requestMove QueueLaw emptyRequests moves) :
    QueueSound (run requestMove emptyRequests moves).shared :=
  run_invariant_of (P := fun pool => QueueSound pool.shared) queue_sound_empty
    (fun _ _ _ hlaw => hlaw.1) h

/-- In a run of any calls, interleaved in any way, every move keeps the queue to its law exactly
when every move queues rightly. -/
theorem approval_queue_iff (moves : List RequestMove) :
    EachCall requestMove QueueLaw emptyRequests moves ↔
      EachCall requestMove QueuesRightly emptyRequests moves :=
  each_call_iff (P := fun pool => QueueSound pool.shared)
    (fun _ step hsound => queue_law_iff hsound step) (fun _ _ _ hlaw => hlaw.1)
    queue_sound_empty moves

/-- An external process that a person approved. -/
def sampleIdentity : ExternalAgentIdentity where
  terminalSessionId := ⟨"2f9c1a7e-5d14-4b0e-9a55-1c83c4b2d6f0"⟩
  provider := .claude
  workingDirectory := "/workspace/project"

/-- Its proposals, which wait for approval. -/
def sampleProposal (n : Nat) : ExternalAgentProposalReference where
  operationId := ⟨s!"c0a8f1d2-7b34-4f11-8c0d-0000000000{n / 10}{n % 10}"⟩
  connectionId := ⟨"6b1f0e52-90a3-4c55-8d4e-0f6f2f1c7a01"⟩
  payloadHash := "9f86d081884c7d659a2feaa0c55ad015a3bf4f1b2b0b822cd15d6c15b0f00a08"
  state := .pendingApproval

/-- The process is registered. -/
def sampleStart : List RequestMove :=
  [.call (.register sampleIdentity), .section 0 none]

/-- One of its proposals, up to the section that queues it. -/
def sampleProposing (n : Nat) : List RequestMove :=
  [.call (.propose sampleIdentity.terminalSessionId), .section n none, .section n none,
    .section n (some (sampleProposal n)), .section n none]

/-- The session is forgotten between the two sections of `enqueue_proposal`. -/
def leakMoves : List RequestMove :=
  sampleStart ++ sampleProposing 1 ++
    [.call (.forget sampleIdentity.terminalSessionId), .section 2 none, .section 2 none,
      .section 1 none]

/-- Two proposals both find the last free place of the queue. -/
def crowdMoves : List RequestMove :=
  sampleStart ++
    (List.range 15).flatMap (fun n => sampleProposing (n + 1) ++ [.section (n + 1) none]) ++
    sampleProposing 16 ++ sampleProposing 17 ++ [.section 16 none, .section 17 none]

set_option maxRecDepth 100000 in
/-- The entry of a forgotten session stays in the queue, and the queue gets more entries than it
has room for. -/
theorem approval_queue_broken :
    ¬ EachCall requestMove QueueLaw emptyRequests leakMoves ∧
      ¬ EachCall requestMove QueueLaw emptyRequests crowdMoves := by
  refine ⟨fun h => ?_, fun h => ?_⟩
  · have hend : ∃ queued ∈ (run requestMove emptyRequests leakMoves).shared.proposals,
        queued.terminalSessionId ∈ (run requestMove emptyRequests leakMoves).shared.forgotten := by
      decide
    obtain ⟨queued, hqueued, hforgotten⟩ := hend
    exact (sound_of_law h).live queued hqueued hforgotten
  · have hend : ¬ (run requestMove emptyRequests crowdMoves).shared.proposals.length ≤
        MAX_QUEUED_PROPOSALS := by decide
    exact hend (sound_of_law h).bounded

end Dopedb.Broker
