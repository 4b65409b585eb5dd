import Dopedb.Library.Tasks
import Dopedb.Platform
import Mathlib.Data.List.AList
import Mathlib.Data.List.Sort

/-!
# The registry of Broker sessions

`broker/session.rs` with `session/issue.rs` and `session/proposals.rs`. The sessions and the
proposals are two concurrent maps, each split in shards, and a call is a program of accesses, each
of which holds the lock of one shard. Calls interleave between accesses. `history` records what
happened to proposals and sessions; what was sent to the revocation sink is part of it.
-/

namespace Dopedb.Broker

open Library

abbrev TerminalSessionId := Uuid
abbrev ConnectionId := Uuid
abbrev RuntimeId := Uuid

/-- Proposals that a session's ledger keeps. -/
def MAX_TRACKED_PROPOSALS_PER_SESSION : Nat := 256

/-- A Project resource that a session may read. -/
structure KnowledgeSessionScope where
  authorityConnectionId : ConnectionId
  connections : List ConnectionId
  deriving DecidableEq, Repr

/-- The metadata of a session that removal looks at. -/
structure AuthenticatedSession where
  runtimeId : RuntimeId
  connectionId : ConnectionId
  knowledgeScopes : List KnowledgeSessionScope
  writeConnectionId : Option ConnectionId
  expiresAt : DateTime
  deriving DecidableEq, Repr

/-- One session that was removed, with the operations it proposed. -/
structure SessionRevocation where
  terminalSessionId : TerminalSessionId
  operations : List Uuid
  deriving DecidableEq, Repr

/-- What happened: an operation was passed to `track_proposal`, was put into a ledger, or was
dropped from a full one; a session left the registry; a revocation was sent to the sink. -/
inductive Event where
  | tracked (id : TerminalSessionId) (operation : Uuid)
  | recorded (id : TerminalSessionId) (operation : Uuid)
  | dropped (id : TerminalSessionId) (operation : Uuid)
  | left (id : TerminalSessionId)
  | sent (revocation : SessionRevocation)
  deriving DecidableEq, Repr

/-- How the two maps are split in shards. -/
structure Sharding where
  count : Nat
  ofSession : TerminalSessionId → Fin count
  ofProposals : TerminalSessionId → Fin count

/-- The registry, and what happened so far. -/
structure Registry where
  runtimeId : RuntimeId
  sessions : AList (fun _ : TerminalSessionId => AuthenticatedSession) := ∅
  proposals : AList (fun _ : TerminalSessionId => List Uuid) := ∅
  history : List Event := []

namespace Registry

/-- The ledger of a session. -/
def ledger (registry : Registry) (id : TerminalSessionId) : List Uuid :=
  (registry.proposals.lookup id).getD []

end Registry

/-- A session is expired, or of another runtime. -/
def AuthenticatedSession.expired (session : AuthenticatedSession) (runtimeId : RuntimeId)
    (now : DateTime) : Bool :=
  session.expiresAt ≤ now || session.runtimeId ≠ runtimeId

/-- A session reaches a connection. -/
def AuthenticatedSession.reaches (session : AuthenticatedSession) (connectionId : ConnectionId) :
    Bool :=
  let selected := session.knowledgeScopes.any fun scope =>
    scope.authorityConnectionId = connectionId || scope.connections.any (· = connectionId)
  session.connectionId = connectionId || session.writeConnectionId = some connectionId || selected

/-- The sessions that `sweep_expired` or `revoke_connection` removes. -/
inductive Selection where
  | expired (now : DateTime)
  | connection (connectionId : ConnectionId)
  deriving DecidableEq, Repr

/-- The session is selected. -/
def Selection.selects (selection : Selection) (runtimeId : RuntimeId)
    (session : AuthenticatedSession) : Bool :=
  match selection with
  | .expired now => session.expired runtimeId now
  | .connection connectionId => session.reaches connectionId

/-- One access to a map under its lock, or to the sink. Those that go through all shards have the
shard they are at and the ids they have collected. -/
inductive Access where
  | insert (id : TerminalSessionId) (session : AuthenticatedSession)
  | track (id : TerminalSessionId) (operation : Uuid)
  | checkExpiry (id : TerminalSessionId) (now : DateTime)
  | removeSession (id : TerminalSessionId)
  | drainProposals (id : TerminalSessionId)
  | notifyRevoked (id : TerminalSessionId) (operations : List Uuid)
  | select (selection : Selection) (shard : Nat) (ids : List TerminalSessionId)
  | listSessions (shard : Nat) (ids : List TerminalSessionId)
  | listProposals (shard : Nat) (ids : List TerminalSessionId)
  | clearSessions (shard : Nat) (ids : List TerminalSessionId)
  deriving DecidableEq, Repr

/-- The keys of the sessions in a shard. -/
def sessionKeys (sharding : Sharding) (registry : Registry) (shard : Nat) :
    List TerminalSessionId :=
  registry.sessions.keys.filter fun id => (sharding.ofSession id).val = shard

/-- The keys of the ledgers in a shard. -/
def proposalKeys (sharding : Sharding) (registry : Registry) (shard : Nat) :
    List TerminalSessionId :=
  registry.proposals.keys.filter fun id => (sharding.ofProposals id).val = shard

/-- The ids in the order of their texts, each once. -/
def sortedIds (ids : List TerminalSessionId) : List TerminalSessionId :=
  (ids.insertionSort fun a b => a.text ≤ b.text).dedup

/-- A proposal of a registered session goes into its ledger, which drops its oldest entries. -/
def recordProposal (registry : Registry) (id : TerminalSessionId) (operation : Uuid) : Registry :=
  let tracked := registry.ledger id ++ [operation]
  let overflow := tracked.length - MAX_TRACKED_PROPOSALS_PER_SESSION
  { registry with
    proposals := registry.proposals.insert id (tracked.drop overflow)
    history := registry.history ++ [.tracked id operation, .recorded id operation] ++
      (tracked.take overflow).map (.dropped id) }

/-- The sessions are removed. -/
def eraseSessions (registry : Registry) (ids : List TerminalSessionId) : Registry :=
  { registry with
    sessions := ids.foldl (fun sessions id => sessions.erase id) registry.sessions
    history := registry.history ++ ids.map .left }

/-- What an access does, and the accesses that its call makes next. -/
def access (sharding : Sharding) (registry : Registry) : Access → Registry × List Access
  | .insert id session => ({ registry with sessions := registry.sessions.insert id session }, [])
  | .track id operation =>
    -- The entry of the session stays locked while its ledger is written.
    if id ∈ registry.sessions then (recordProposal registry id operation, [])
    else
      ({ registry with history := registry.history ++ [.tracked id operation] },
        [.notifyRevoked id [operation]])
  | .checkExpiry id now =>
    match registry.sessions.lookup id with
    | some session =>
      (registry, if session.expired registry.runtimeId now then [.removeSession id] else [])
    | none => (registry, [])
  | .removeSession id =>
    (if id ∈ registry.sessions then eraseSessions registry [id] else registry, [.drainProposals id])
  | .drainProposals id =>
    ({ registry with proposals := registry.proposals.erase id },
      [.notifyRevoked id (registry.ledger id)])
  | .notifyRevoked id operations =>
    ({ registry with history := registry.history ++ [.sent ⟨id, operations⟩] }, [])
  | .select selection shard ids =>
    let selected := (sessionKeys sharding registry shard).filter fun id =>
      (registry.sessions.lookup id).any (selection.selects registry.runtimeId)
    let ids := ids ++ selected
    (registry,
      if shard + 1 < sharding.count then [.select selection (shard + 1) ids]
      else ids.map .removeSession)
  | .listSessions shard ids =>
    let ids := ids ++ sessionKeys sharding registry shard
    (registry,
      if shard + 1 < sharding.count then [.listSessions (shard + 1) ids]
      else [.listProposals 0 ids])
  | .listProposals shard ids =>
    let ids := ids ++ proposalKeys sharding registry shard
    (registry,
      if shard + 1 < sharding.count then [.listProposals (shard + 1) ids]
      else [.clearSessions 0 (sortedIds ids)])
  | .clearSessions shard ids =>
    (eraseSessions registry (sessionKeys sharding registry shard),
      if shard + 1 < sharding.count then [.clearSessions (shard + 1) ids]
      else ids.map .drainProposals)

/-- A call of the registry. A call that its own checks refuse makes no access. -/
inductive Call where
  | issue (id : TerminalSessionId) (session : AuthenticatedSession)
  | trackProposal (id : TerminalSessionId) (operation : Uuid)
  | authenticate (id : TerminalSessionId) (now : DateTime)
  | revoke (id : TerminalSessionId)
  | revokeConnection (connectionId : ConnectionId)
  | revokeAll
  | sweepExpired (now : DateTime)
  deriving DecidableEq, Repr

/-- The first accesses of a call. -/
def Call.program : Call → List Access
  | .issue id session => [.insert id session]
  | .trackProposal id operation => [.track id operation]
  | .authenticate id now => [.checkExpiry id now]
  | .revoke id => [.removeSession id]
  | .revokeConnection connectionId => [.select (.connection connectionId) 0 []]
  | .revokeAll => [.listSessions 0 []]
  | .sweepExpired now => [.select (.expired now) 0 []]

/-- A call goes on by its next access. -/
def resume (sharding : Sharding) : Resume Registry (List Access) Unit
  | _, [], _ => none
  | registry, first :: rest, _ =>
    let (registry, more) := access sharding registry first
    some (registry, more ++ rest, [])

/-- The registry and the calls that run. -/
abbrev BrokerPool := Pool Registry (List Access)

/-- A call starts, or one that runs makes its next access. -/
inductive BrokerMove where
  | call (call : Call)
  | access (task : Nat)
  deriving DecidableEq, Repr

/-- The Broker after a move. -/
def move (sharding : Sharding) (broker : BrokerPool) : BrokerMove → BrokerPool
  | .call call => broker.move (resume sharding) (.start call.program)
  | .access task => broker.move (resume sharding) (.resume task ())

/-- A registry without sessions. -/
def emptyBroker (runtimeId : RuntimeId) : BrokerPool := ⟨{ runtimeId }, []⟩

/-! ## What a move does -/

/-- An access is still to be made by some call. -/
def Pending (broker : BrokerPool) (pending : Access) : Prop :=
  ∃ program ∈ broker.tasks, pending ∈ program

/-- A move starts a call, changes nothing, or makes the next access of one call; then the accesses
that were to be made still are, but for that one. -/
theorem broker_move_cases (sharding : Sharding) (broker : BrokerPool) (step : BrokerMove) :
    ((move sharding broker step).shared = broker.shared ∧
      ∀ pending, Pending broker pending → Pending (move sharding broker step) pending) ∨
    ∃ task first rest, step = .access task ∧ broker.tasks[task]? = some (first :: rest) ∧
      (move sharding broker step).shared = (access sharding broker.shared first).1 ∧
      (∀ pending ∈ (access sharding broker.shared first).2,
        Pending (move sharding broker step) pending) ∧
      ∀ pending, Pending broker pending →
        pending = first ∨ Pending (move sharding broker step) pending := by
  cases step with
  | call call =>
      refine .inl ⟨rfl, ?_⟩
      rintro pending ⟨program, hprogram, hpending⟩
      exact ⟨program, List.mem_append_left _ hprogram, hpending⟩
  | access task =>
      show (Pool.shared (broker.move (resume sharding) (.resume task ())) = _ ∧ _) ∨ _
      cases htask : broker.tasks[task]? with
      | none =>
          have hsame : broker.move (resume sharding) (.resume task ()) = broker := by
            simp only [Pool.move, htask]
          exact .inl ⟨by rw [hsame], fun pending h => by
            show Pending (broker.move (resume sharding) (.resume task ())) pending
            rwa [hsame]⟩
      | some program =>
          cases program with
          | nil =>
              have hsame : broker.move (resume sharding) (.resume task ()) = broker := by
                simp only [Pool.move, htask, resume]
              exact .inl ⟨by rw [hsame], fun pending h => by
                show Pending (broker.move (resume sharding) (.resume task ())) pending
                rwa [hsame]⟩
          | cons first rest =>
              have hmoved : broker.move (resume sharding) (.resume task ()) =
                  ⟨(access sharding broker.shared first).1,
                    broker.tasks.set task ((access sharding broker.shared first).2 ++ rest) ++
                      []⟩ := by
                simp only [Pool.move, htask, resume]
              have hlt : task < broker.tasks.length := (List.getElem?_eq_some_iff.mp htask).1
              have hmem : (access sharding broker.shared first).2 ++ rest ∈
                  broker.tasks.set task ((access sharding broker.shared first).2 ++ rest) :=
                List.mem_set hlt _
              refine .inr ⟨task, first, rest, rfl, htask, congrArg Pool.shared hmoved, ?_, ?_⟩
              · intro pending hpending
                show Pending (broker.move (resume sharding) (.resume task ())) pending
                rw [hmoved, List.append_nil]
                exact ⟨_, hmem, List.mem_append_left _ hpending⟩
              · rintro pending ⟨program, hprogram, hpending⟩
                show _ ∨ Pending (broker.move (resume sharding) (.resume task ())) pending
                rw [hmoved, List.append_nil]
                obtain ⟨other, hother⟩ := List.mem_iff_getElem?.mp hprogram
                by_cases htaskEq : other = task
                · -- The access is one of the call that moves: its next one, or a later one.
                  subst htaskEq
                  obtain rfl : first :: rest = program := Option.some.inj (htask.symm.trans hother)
                  rcases List.mem_cons.mp hpending with hfirst | hrest
                  · exact .inl hfirst
                  · exact .inr ⟨_, hmem, List.mem_append_right _ hrest⟩
                · refine .inr ⟨program, ?_, hpending⟩
                  refine List.mem_iff_getElem?.mpr ⟨other, ?_⟩
                  rw [List.getElem?_set_ne (Ne.symm htaskEq), hother]

end Dopedb.Broker
