import Dopedb.Broker.ProposalLedger

/-!
# Proposals and revoked sessions

Over every interleaving of the registry's calls a proposal stays accounted for, as long as
`revoke_all` clears no session that was registered after it listed the keys. Once no call runs, a
proposal is in the ledger of a registered session, was sent to the sink, or was dropped from a full
ledger, and every session that left was reported.
-/

namespace Dopedb.Broker

open Library

/-- The sessions that an access clears without having listed them are none. -/
def clearsListed (sharding : Sharding) (registry : Registry) : Access → Bool
  | .clearSessions shard ids => (sessionKeys sharding registry shard).all (· ∈ ids)
  | _ => true

/-- A move clears only sessions that its call has listed. -/
def movesListed (sharding : Sharding) (broker : BrokerPool) : BrokerMove → Bool
  | .call _ => true
  | .access task =>
    match broker.tasks[task]? with
    | some (first :: _) => clearsListed sharding broker.shared first
    | _ => true

/-- The condition on the moves of a run. -/
def ClearsListed (sharding : Sharding) (broker : BrokerPool) (step : BrokerMove) : Prop :=
  movesListed sharding broker step = true

instance (sharding : Sharding) (broker : BrokerPool) (step : BrokerMove) :
    Decidable (ClearsListed sharding broker step) :=
  inferInstanceAs (Decidable (movesListed sharding broker step = true))

/-- A shard's sessions were listed, so the call that clears them drains them afterwards. -/
theorem Accounted.clear {sharding : Sharding} {broker broker' : BrokerPool} {shard : Nat}
    {ids : List TerminalSessionId} (hinv : Accounted broker)
    (hlisted : clearsListed sharding broker.shared (.clearSessions shard ids) = true)
    (hpending : ∀ pending, Pending broker pending →
      pending = .clearSessions shard ids ∨ Pending broker' pending)
    (hnext : ∀ pending ∈ (access sharding broker.shared (.clearSessions shard ids)).2,
      Pending broker' pending)
    (hshared : broker'.shared =
      eraseSessions broker.shared (sessionKeys sharding broker.shared shard)) :
    Accounted broker' := by
  have hids : ∀ id ∈ ids, Draining broker' id := by
    intro id hid
    simp only [access] at hnext
    split at hnext
    · exact .inr ⟨shard + 1, ids, hnext _ (List.mem_singleton.mpr rfl), hid⟩
    · exact .inl (hnext _ (List.mem_map_of_mem hid))
  have hpromises : Promises broker broker' := by
    refine ⟨?_, ?_, ?_⟩
    · rintro id (h | ⟨shard', ids', h, hmem⟩)
      · exact .inl ((hpending _ h).resolve_left fun heq => by cases heq)
      · rcases hpending _ h with heq | h
        · cases heq
          exact hids id hmem
        · exact .inr ⟨shard', ids', h, hmem⟩
    · rintro id operation ⟨operations, h, hmem⟩
      exact ⟨operations, (hpending _ h).resolve_left (fun heq => by cases heq), hmem⟩
    · rintro id ⟨operations, h⟩
      exact ⟨operations, (hpending _ h).resolve_left fun heq => by cases heq⟩
  refine hinv.erase hpromises hshared fun id hid => hids id ?_
  unfold clearsListed at hlisted
  simpa using List.all_eq_true.mp hlisted id hid

/-- Every move keeps the proposals accounted for. -/
theorem accounted_move {sharding : Sharding} {broker : BrokerPool} {step : BrokerMove}
    (hinv : Accounted broker) (hlisted : ClearsListed sharding broker step) :
    Accounted (move sharding broker step) := by
  rcases broker_move_cases sharding broker step with
    ⟨hshared, hpending⟩ | ⟨task, first, rest, rfl, htask, hshared, hnext, hpending⟩
  · exact hinv.quiet (promises_of_pending hpending) (by rw [hshared]) (by rw [hshared])
      (fun id h => by rwa [hshared])
  · cases first with
    | insert id session =>
        refine hinv.quiet (promises_of_other hpending nofun nofun nofun) (by rw [hshared]; rfl)
          (by rw [hshared]; rfl) fun id' h => ?_
        rw [hshared]
        exact (AList.mem_insert _).mpr (.inr h)
    | track id operation =>
        have hpromises := promises_of_other hpending nofun nofun nofun
        simp only [access] at hshared hnext
        by_cases hid : id ∈ broker.shared.sessions
        · rw [if_pos hid] at hshared
          exact hinv.record hpromises hid hshared
        -- a proposal of a session that is gone is reported at once
        · rw [if_neg hid] at hshared hnext
          exact hinv.late hpromises (hnext _ (List.mem_singleton.mpr rfl)) hshared
    | checkExpiry id now =>
        have hsame : (access sharding broker.shared (.checkExpiry id now)).1 = broker.shared := by
          simp only [access]
          split <;> rfl
        rw [hsame] at hshared
        exact hinv.quiet (promises_of_other hpending nofun nofun nofun) (by rw [hshared])
          (by rw [hshared]) fun id h => by rwa [hshared]
    | removeSession id =>
        have hpromises := promises_of_other hpending nofun nofun nofun
        have hdrain : Draining (move sharding broker (.access task)) id :=
          .inl (hnext _ (List.mem_singleton.mpr rfl))
        simp only [access] at hshared
        by_cases hid : id ∈ broker.shared.sessions
        · rw [if_pos hid] at hshared
          refine hinv.erase hpromises hshared fun id' h => ?_
          rwa [List.mem_singleton.mp h]
        · rw [if_neg hid] at hshared
          exact hinv.quiet hpromises (by rw [hshared]) (by rw [hshared])
            fun id h => by rwa [hshared]
    | drainProposals id =>
        exact hinv.drain hpending (hnext _ (List.mem_singleton.mpr rfl)) hshared
    | notifyRevoked id operations => exact hinv.notify hpending hshared
    | select selection shard ids =>
        exact hinv.quiet (promises_of_other hpending nofun nofun nofun) (by rw [hshared]; rfl)
          (by rw [hshared]; rfl) fun id h => by rwa [hshared]
    | listSessions shard ids =>
        exact hinv.quiet (promises_of_other hpending nofun nofun nofun) (by rw [hshared]; rfl)
          (by rw [hshared]; rfl) fun id h => by rwa [hshared]
    | listProposals shard ids =>
        exact hinv.quiet (promises_of_other hpending nofun nofun nofun) (by rw [hshared]; rfl)
          (by rw [hshared]; rfl) fun id h => by rwa [hshared]
    | clearSessions shard ids =>
        simp only [ClearsListed, movesListed, htask] at hlisted
        exact hinv.clear hlisted hpending hnext hshared

/-- Without sessions nothing is to be accounted for. -/
theorem accounted_empty (runtimeId : RuntimeId) : Accounted (emptyBroker runtimeId) := by
  refine ⟨?_, ?_, ?_, ?_⟩
  · intro id operation htracked
    cases htracked
  · intro before after id hsplit
    exact absurd hsplit.symm (by simp [emptyBroker])
  · intro before after id operation hsplit
    exact absurd hsplit.symm (by simp [emptyBroker])
  · intro id
    exact ⟨List.nil_suffix, Nat.zero_le _⟩

/-! ## Between calls -/

/-- Where a proposal is while no call runs, and that every session that left was reported. -/
structure Settled (registry : Registry) : Prop where
  proposals : ∀ id operation, .tracked id operation ∈ registry.history →
    (operation ∈ registry.ledger id ∧ id ∈ registry.sessions) ∨
      Sent registry.history id operation ∨ .dropped id operation ∈ registry.history
  sessions : ∀ before after id, registry.history = before ++ .left id :: after →
    ∃ operations, .sent ⟨id, operations⟩ ∈ after

/-- Once no call runs, nothing is on its way. -/
theorem Accounted.settled {broker : BrokerPool} (hinv : Accounted broker)
    (hdone : ∀ program ∈ broker.tasks, program = []) : Settled broker.shared := by
  have hnone : ∀ pending, ¬ Pending broker pending := by
    rintro pending ⟨program, hprogram, hpending⟩
    rw [hdone program hprogram] at hpending
    cases hpending
  have hdraining : ∀ id, ¬ Draining broker id := by
    rintro id (h | ⟨shard, ids, h, -⟩)
    · exact hnone _ h
    · exact hnone _ h
  refine ⟨?_, ?_⟩
  · intro id operation htracked
    rcases hinv.proposals id operation htracked with
      ⟨hmem, hregistered | hdrain⟩ | ⟨operations, h, -⟩ | hrest
    · exact .inl ⟨hmem, hregistered⟩
    · exact absurd hdrain (hdraining id)
    · exact absurd h (hnone _)
    · exact .inr hrest
  · intro before after id hsplit
    rcases hinv.sessions before after id hsplit with hsent | hdrain | ⟨operations, h⟩
    · exact hsent
    · exact absurd hdrain (hdraining id)
    · exact absurd h (hnone _)

/-- Over every interleaving in which `revoke_all` clears only sessions it listed, every proposal is
accounted for between any two accesses, and once no call runs none has outlived its session but
those dropped from a full ledger. -/
theorem proposals_accounted (sharding : Sharding) (runtimeId : RuntimeId)
    {moves : List BrokerMove}
    (hmoves : EachCall (move sharding) (ClearsListed sharding) (emptyBroker runtimeId) moves) :
    Accounted (run (move sharding) (emptyBroker runtimeId) moves) ∧
      ((∀ program ∈ (run (move sharding) (emptyBroker runtimeId) moves).tasks, program = []) →
        Settled (run (move sharding) (emptyBroker runtimeId) moves).shared) := by
  have hinv : Accounted (run (move sharding) (emptyBroker runtimeId) moves) :=
    run_invariant_of (P := Accounted) (accounted_empty runtimeId)
      (fun _ _ hinv hlisted => accounted_move hinv hlisted) hmoves
  exact ⟨hinv, hinv.settled⟩

/-! ## Proposals that do outlive their session -/

/-- One shard for every session. -/
def oneShard : Sharding := ⟨1, fun _ => 0, fun _ => 0⟩

/-- A session of the runtime. -/
def sampleSession : AuthenticatedSession :=
  ⟨⟨"runtime"⟩, ⟨"connection"⟩, [], none, 10⟩

/-- A session is registered and proposes an operation; then everything is revoked. -/
def revokedMoves : List BrokerMove :=
  [.call (.issue ⟨"s"⟩ sampleSession), .access 0, .call (.trackProposal ⟨"s"⟩ ⟨"a"⟩), .access 1,
    .call .revokeAll, .access 2, .access 2, .access 2, .access 2, .access 2]

/-- The proposal of a revoked session was sent to the sink. -/
theorem revoked_moves_accounted :
    Accounted (run (move oneShard) (emptyBroker ⟨"runtime"⟩) revokedMoves) ∧
      ((∀ program ∈ (run (move oneShard) (emptyBroker ⟨"runtime"⟩) revokedMoves).tasks,
          program = []) →
        Settled (run (move oneShard) (emptyBroker ⟨"runtime"⟩) revokedMoves).shared) :=
  proposals_accounted oneShard ⟨"runtime"⟩ (by decide)

/-- The session has left the registry and its ledger is still there. -/
def betweenMoves : List BrokerMove :=
  [.call (.issue ⟨"s"⟩ sampleSession), .access 0, .call (.trackProposal ⟨"s"⟩ ⟨"a"⟩), .access 1,
    .call (.revoke ⟨"s"⟩), .access 2]

/-- A session proposes one operation more than its ledger keeps. -/
def fullLedgerMoves : List BrokerMove :=
  [.call (.issue ⟨"s"⟩ sampleSession), .access 0, .call (.trackProposal ⟨"s"⟩ ⟨"a"⟩), .access 1] ++
    (List.range 256).flatMap fun n =>
      [.call (.trackProposal ⟨"s"⟩ ⟨"b"⟩), .access (n + 2)]

/-- A session is registered after `revoke_all` has listed the keys and before it clears the map. -/
def lateSessionMoves : List BrokerMove :=
  [.call .revokeAll, .access 0, .access 0, .call (.issue ⟨"s"⟩ sampleSession), .access 1,
    .call (.trackProposal ⟨"s"⟩ ⟨"a"⟩), .access 2, .access 0]

/-- The event reports the operation of the session. -/
def reports (id : TerminalSessionId) (operation : Uuid) : Event → Bool
  | .sent revocation => revocation.terminalSessionId = id && operation ∈ revocation.operations
  | _ => false

/-- A proposal that is in no ledger of a registered session and was not sent has outlived it. -/
theorem not_none_outlives {broker : BrokerPool} (id : TerminalSessionId) (operation : Uuid)
    (htracked : .tracked id operation ∈ broker.shared.history)
    (hledger : ¬ (operation ∈ broker.shared.ledger id ∧ id ∈ broker.shared.sessions))
    (hsent : broker.shared.history.all (fun event => !reports id operation event) = true) :
    ¬ NoneOutlives broker := by
  intro hnone
  rcases hnone.proposals id operation htracked with hmem | ⟨operations, hevent, hmem⟩
  · exact hledger hmem
  · have hfalse := List.all_eq_true.mp hsent _ hevent
    simp [reports, hmem] at hfalse

set_option maxRecDepth 100000 in
/-- Proposals outlive their session between two accesses of a call that removes it, when they are
dropped from a full ledger, and when `revoke_all` clears a session that it did not list; in the
last two cases no call is running. -/
theorem proposals_outlive_session :
    ¬ NoneOutlives (run (move oneShard) (emptyBroker ⟨"runtime"⟩) betweenMoves) ∧
    ¬ NoneOutlives (run (move oneShard) (emptyBroker ⟨"runtime"⟩) fullLedgerMoves) ∧
    ¬ NoneOutlives (run (move oneShard) (emptyBroker ⟨"runtime"⟩) lateSessionMoves) ∧
    (run (move oneShard) (emptyBroker ⟨"runtime"⟩) fullLedgerMoves).tasks.all (·.isEmpty) ∧
    (run (move oneShard) (emptyBroker ⟨"runtime"⟩) lateSessionMoves).tasks.all (·.isEmpty) := by
  refine ⟨?_, ?_, ?_, ?_, ?_⟩
  · exact not_none_outlives ⟨"s"⟩ ⟨"a"⟩ (by decide) (by decide)
      (by decide)
  · exact not_none_outlives ⟨"s"⟩ ⟨"a"⟩ (by decide) (by decide)
      (by decide)
  · exact not_none_outlives ⟨"s"⟩ ⟨"a"⟩ (by decide) (by decide)
      (by decide)
  · decide
  · decide

end Dopedb.Broker
