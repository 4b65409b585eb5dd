import Dopedb.Library.Tasks
import Dopedb.Queries.ManualSession

/-!
# The manual transaction runtime

The calls of `ManualTransactionRuntime` on one connection, cut at their await points: `begin`,
`commit`, `rollback`, `revoke` (which `shutdown` calls too), the expiry timer, the status read that
finds an expired session, and a statement with its authority check. `resume` runs a call from one
await point to the next.

A session is its place in the list of sessions, which stands for its identity (`transaction_id`,
`Arc::ptr_eq`). The session map has one entry per connection, so `mapped` is that entry. What
reaches a session's connection is recorded in `sent`, what comes back in `acknowledged`.
-/

namespace Dopedb.Queries

open Dopedb.Library

/-- The identity of a session. -/
abbrev TransactionId := Nat

/-- The statement that ends a transaction. -/
inductive Boundary where
  | commit | rollback
  deriving DecidableEq, Repr

/-- The SQL text of a boundary statement. -/
def Boundary.sql : Boundary → String
  | .commit => "COMMIT"
  | .rollback => "ROLLBACK"

/-- What a status read shows of a session. -/
structure ManualTransactionStatus where
  transactionId : TransactionId
  database : String
  failed : Bool
  statementCount : Nat
  rolledBackStatementCount : Nat
  deriving DecidableEq, Repr

/-- A published end. -/
structure ManualTransactionEnded where
  transactionId : TransactionId
  database : String
  reason : ManualTransactionEndReason
  statementCount : Nat
  deriving DecidableEq, Repr

/-- The audit actions of a transaction's boundary, each stored behind `manual_transaction:`. -/
inductive BoundaryAction where
  | commit | commitOutcomeUnknown | rollback | forcedRollback
  deriving DecidableEq, Repr

/-- The boundary statement that an audit action records. -/
def BoundaryAction.boundary : BoundaryAction → Boundary
  | .commit | .commitOutcomeUnknown => .commit
  | .rollback | .forcedRollback => .rollback

/-- An audit record of a transaction's boundary. -/
structure BoundaryRecord where
  transactionId : TransactionId
  action : BoundaryAction
  sql : String
  error : Option String
  deriving DecidableEq, Repr

/-- What a call answers. -/
inductive Answer where
  | status (status : ManualTransactionStatus)
  | refused (refusal : ManualTransactionRefusal)
  | outcomeUnknown (detail : String)
  | failed (error : String)
  | done
  deriving DecidableEq, Repr

/-- The runtime's state for one connection. -/
structure Runtime (Λ : Type) where
  mapped : Option TransactionId := none
  sessions : List (ManualSession Λ) := []
  published : List ManualTransactionEnded := []
  audit : List BoundaryRecord := []
  sent : List (TransactionId × Boundary) := []
  acknowledged : List (TransactionId × Boundary) := []

/-- The result of re-checking authority immediately before COMMIT. -/
inductive CommitAuthority where
  | allowed
  | refuse (error : String)
  | rollBack

/-- On whose behalf a session is rolled back: the user's ROLLBACK, or an end without a user
command, with the detail of its audit record. The caller answers afterwards. -/
inductive Cause where
  | user
  | forced (reason : ForcedReason) (detail : String)

/-- The reason that an end publishes. -/
def Cause.reason : Cause → ManualTransactionEndReason
  | .user => .rolledBack
  | .forced reason _ => reason.1

/-- The audit action that an end records. -/
def Cause.action : Cause → BoundaryAction
  | .user => .rollback
  | .forced _ _ => .forcedRollback

/-- The error text that an end records. -/
def Cause.error (warning : Option String) : Cause → Option String
  | .user => warning
  | .forced _ detail => some (match warning with
    | some warning => detail ++ "; " ++ warning
    | none => detail)

/-- The await points of the calls, with the variables that are live there. -/
inductive Control where
  | begin (database : Option String)
  | beginOpening (database : Option String)
  | commit (transaction : TransactionId)
  | commitAuthority (session : TransactionId)
  | commitUnmap (session : TransactionId)
  | commitFinish (session : TransactionId) (status : Answer)
  | rollback (transaction : TransactionId)
  | rollbackUnmap (session : TransactionId)
  | endSession (expected : Option TransactionId) (reason : ForcedReason) (detail : String)
      (answer : Answer)
  | revoke (reason : String)
  | expiry (session : TransactionId)
  | status
  | rollBack (session : TransactionId) (cause : Cause) (answer : Answer)
  | rollBackLocked (session : TransactionId) (cause : Cause) (answer : Answer)
  | rollBackFinish (session : TransactionId) (cause : Cause) (answer : Answer)
  | record (session : TransactionId) (action : BoundaryAction) (error : Option String)
      (answer : Answer)
  | statement (database : String) (statements : Nat)
  | statementAuthority (session : TransactionId) (statements : Nat)
  | statementLock (session : TransactionId) (statements : Nat)
  | statementLocked (session : TransactionId) (statements : Nat)
  | statementRun (session : TransactionId) (statements : Nat)
  | answered (answer : Answer)

/-- What a call learns when it is resumed: the answer of what it awaited, or nothing. -/
inductive Input (Λ : Type) where
  | go
  | opened (answer : Except Answer (String × Λ))
  | authority (answer : CommitAuthority)
  | finished (error : Option String)
  | timedOut
  | abandoned (why : Abandoned)
  | recorded (error : Option String)
  | current (answer : Except String Bool)
  | clock (expired : Bool)
  | worked (link : Λ) (outcome : WorkOutcome String Unit)

variable {Λ : Type}

namespace Runtime

/-- What a status read shows of a session. -/
def statusOf (s : Runtime Λ) (session : TransactionId) : Answer :=
  match s.sessions[session]? with
  | none => .done
  | some x => .status ⟨session, x.database, x.info.failed, x.info.statementCount,
      x.info.rolledBackStatementCount⟩

/-- Replace a session's record. -/
def setSession (s : Runtime Λ) (session : TransactionId) (x : ManualSession Λ) : Runtime Λ :=
  { s with sessions := s.sessions.set session x }

/-- The open session with this exact identity, still mapped. -/
def exact (s : Runtime Λ) (transaction : TransactionId) :
    Except ManualTransactionRefusal TransactionId :=
  match s.mapped with
  | some session => if session = transaction then .ok session else .error .stale
  | none => .error .ended

/-- Remove the session from the map only if it is still the mapped one. -/
def unmap (s : Runtime Λ) (expected : TransactionId) : Runtime Λ × Bool :=
  if s.mapped = some expected then ({ s with mapped := none }, true) else (s, false)

/-- Send a boundary statement on a session's connection. -/
def send (s : Runtime Λ) (session : TransactionId) (boundary : Boundary) : Runtime Λ :=
  { s with sent := s.sent ++ [(session, boundary)] }

/-- A boundary statement was acknowledged. -/
def acknowledge (s : Runtime Λ) (session : TransactionId) (boundary : Boundary) : Runtime Λ :=
  { s with acknowledged := s.acknowledged ++ [(session, boundary)] }

/-- Publish the end of a session. -/
def publishEnded (s : Runtime Λ) (session : TransactionId)
    (reason : ManualTransactionEndReason) : Runtime Λ :=
  match s.sessions[session]? with
  | none => s
  | some x => { s with
      published := s.published ++ [⟨session, x.database, reason, x.info.statementCount⟩] }

/-- The audit record of a boundary. -/
def recordBoundary (s : Runtime Λ) (session : TransactionId) (action : BoundaryAction)
    (error : Option String) : Runtime Λ :=
  { s with audit := s.audit ++ [⟨session, action, action.boundary.sql, error⟩] }

/-- The session that `end_session` removes from the map. -/
def matching (s : Runtime Λ) (expected : Option TransactionId) : Option TransactionId :=
  match s.mapped, expected with
  | some current, some expected => if current = expected then some current else none
  | some current, none => some current
  | none, _ => none

/-- The status of a session that is already open, unless it is open on another database. -/
def existingStatus (s : Runtime Λ) (existing : TransactionId) (database : Option String) :
    Answer :=
  match s.sessions[existing]?, database with
  | some x, some database =>
      if database ≠ x.database then .refused .otherDatabase else s.statusOf existing
  | _, _ => s.statusOf existing

end Runtime

/-- Map a connection-runtime revocation reason to the user-facing end reason. -/
def revocationEndReason (reason : String) : ForcedReason :=
  if reason = "application exiting" ∨ reason = "application shutdown" then
    ⟨.applicationExit, rfl⟩
  else if reason = "connection profile changed" then ⟨.connectionChanged, rfl⟩
  else if reason = "workspace changed" ∨ reason = "workspace account changed" ∨
      reason = "workspace account removed" then
    ⟨.workspaceChanged, rfl⟩
  else ⟨.authorityChanged, rfl⟩

/-- The warning of a rollback whose connection a running statement kept. -/
def unreleasedWarning : String :=
  "a running statement did not release the connection; it closes when the statement stops"

/-- Publish a rollback and go on to its audit record. -/
def rolledBack (s : Runtime Λ) (session : TransactionId) (cause : Cause) (answer : Answer)
    (warning : Option String) : Runtime Λ × Control × List Control :=
  (s.publishEnded session cause.reason,
    .record session cause.action (cause.error warning) answer, [])

/-- Run a call from its await point to the next one. -/
def resume (s : Runtime Λ) (control : Control) (input : Input Λ) :
    Option (Runtime Λ × Control × List Control) :=
  match control, input with
  | .begin database, .go =>
    match s.mapped with
    | some existing => some (s, .answered (s.existingStatus existing database), [])
    | none => some (s, .beginOpening database, [])
  | .beginOpening _, .opened (.error answer) => some (s, .answered answer, [])
  | .beginOpening database, .opened (.ok (opened, link)) =>
    -- Nobody sees the new session before this insertion; dropping it closes its connection.
    match s.mapped with
    | some existing =>
      some (s, .answered (s.existingStatus existing database), [])
    | none =>
      let transaction := s.sessions.length
      let s := { s with
        sessions := s.sessions ++ [{ database := opened, link := some link }]
        mapped := some transaction }
      some (s, .answered (s.statusOf transaction), [.expiry transaction])
  | .commit transaction, .go =>
    match s.exact transaction with
    | .ok session => some (s, .commitAuthority session, [])
    | .error refusal => some (s, .answered (.refused refusal), [])
  | .commitAuthority _, .authority (.refuse error) => some (s, .answered (.failed error), [])
  | .commitAuthority session, .authority .rollBack =>
    some (s, .endSession (some session) ⟨.authorityChanged, rfl⟩
      "connection authority changed before commit" (.refused .authorityChanged), [])
  | .commitAuthority session, .authority .allowed =>
    match s.sessions[session]? with
    | none => none
    | some x =>
      match x.takeForCommit with
      | .error refusal => some (s, .answered (.refused refusal), [])
      | .ok x => some (s.setSession session x, .commitUnmap session, [])
  | .commitUnmap session, .go =>
    let s := (s.unmap session).1
    some (s.send session .commit, .commitFinish session (s.statusOf session), [])
  | .commitFinish session status, .finished none =>
    some ((s.acknowledge session .commit).publishEnded session .committed,
      .record session .commit none status, [])
  | .commitFinish session _, .finished (some detail) =>
    -- The connection is already closed, and the server may have applied the COMMIT.
    some (s.publishEnded session .commitOutcomeUnknown,
      .record session .commitOutcomeUnknown (some detail)
        (.outcomeUnknown ("manual transaction commit acknowledgement failed: " ++ detail)), [])
  | .rollback transaction, .go =>
    match s.exact transaction with
    | .ok session => some (s, .rollbackUnmap session, [])
    | .error refusal => some (s, .answered (.refused refusal), [])
  | .rollbackUnmap session, .go =>
    let s := (s.unmap session).1
    some (s, .rollBack session .user (s.statusOf session), [])
  | .endSession expected reason detail answer, .go =>
    match s.matching expected with
    | some session =>
      some ({ s with mapped := none }, .rollBack session (.forced reason detail) answer, [])
    | none => some (s, .answered answer, [])
  | .revoke reason, .go =>
    match s.mapped with
    | some session =>
      some ({ s with mapped := none },
        .rollBack session (.forced (revocationEndReason reason) reason) .done, [])
    | none => some (s, .answered .done, [])
  | .expiry session, .go =>
    some (s, .endSession (some session) ⟨.expired, rfl⟩ "transaction expired" .done, [])
  | .status, .clock expired =>
    match s.mapped with
    | some session =>
      if expired then
        some (s, .answered .done,
          [.endSession (some session) ⟨.expired, rfl⟩ "transaction expired" .done])
      else some (s, .answered (s.statusOf session), [])
    | none => some (s, .answered .done, [])
  | .rollBack session cause answer, .go =>
    match s.sessions[session]? with
    | some x =>
      if x.locked then none
      else some (s.setSession session { x with locked := true },
        .rollBackLocked session cause answer, [])
    | none => none
  | .rollBack session cause answer, .timedOut =>
    some (rolledBack s session cause answer (some unreleasedWarning))
  | .rollBackLocked session cause answer, .go =>
    match s.sessions[session]? with
    | none => none
    | some x =>
      let s' := s.setSession session { x with locked := false, link := none }
      if x.link.isSome then
        some (s'.send session .rollback, .rollBackFinish session cause answer, [])
      else some (rolledBack s' session cause answer none)
  | .rollBackFinish session cause answer, .finished none =>
    some (rolledBack (s.acknowledge session .rollback) session cause answer none)
  | .rollBackFinish session cause answer, .finished (some detail) =>
    some (rolledBack s session cause answer (some detail))
  | .record session action error answer, .recorded none =>
    some (s.recordBoundary session action error, .answered answer, [])
  | .record _ action _ answer, .recorded (some error) =>
    -- Only a commit tells its caller that the receipt is missing.
    some (s, .answered (if action = .commit then
      .outcomeUnknown ("manual transaction committed but its audit receipt failed: " ++ error)
      else answer), [])
  | .statement database statements, .go =>
    match s.mapped with
    | none => some (s, .answered .done, [])
    | some session =>
      match s.sessions[session]? with
      | none => none
      | some x =>
        if x.database ≠ database then some (s, .answered (.refused .otherDatabase), [])
        else some (s, .statementAuthority session statements, [])
  | .statementAuthority _ _, .current (.error error) => some (s, .answered (.failed error), [])
  | .statementAuthority session _, .current (.ok false) =>
    some (s, .endSession (some session) ⟨.authorityChanged, rfl⟩
      "connection authority changed before a statement" (.refused .authorityChanged), [])
  | .statementAuthority session statements, .current (.ok true) =>
    some (s, .statementLock session statements, [])
  | .statementLock _ _, .abandoned why => some (s, .answered (.failed why.intoError), [])
  | .statementLock session statements, .go =>
    match s.sessions[session]? with
    | none => none
    | some x =>
      if x.locked then none
      else some (s.setSession session { x with locked := true },
        .statementLocked session statements, [])
  | .statementLocked session statements, .clock expired =>
    match s.sessions[session]? with
    | none => none
    | some x =>
      match x.admits expired with
      | some refusal =>
        some (s.setSession session { x with locked := false }, .answered (.refused refusal), [])
      | none => some (s, .statementRun session statements, [])
  | .statementRun session statements, .worked link outcome =>
    match s.sessions[session]? with
    | none => none
    | some x =>
      let (x', result) := x.concluded statements link outcome
      let s' := s.setSession session { x' with locked := false }
      match result with
      | .ok _ => some (s', .answered .done, [])
      | .error (.statement error) => some (s', .answered (.failed error), [])
      | .error (.abandoned why) =>
        some (s', .endSession (some session) why.endReason
          "statement cancelled or timed out; connection closed" (.failed why.intoError), [])
  | _, _ => none

/-- The runtime before its first call. -/
def idle : Pool (Runtime Λ) Control := ⟨{}, []⟩

/-- Whether a control point is the first one of a call. -/
def Control.isCall : Control → Bool
  | .begin _ | .commit _ | .rollback _ | .revoke _ | .status | .statement _ _ => true
  | _ => false

/-- One move of the runtime: only calls are started from outside. -/
def move (s : Pool (Runtime Λ) Control) (m : Move Control (Input Λ)) :
    Pool (Runtime Λ) Control :=
  match m with
  | .start control => if control.isCall then s.move resume m else s
  | .resume _ _ => s.move resume m

/-- The runtime after a list of moves. -/
def reached (moves : List (Move Control (Input Λ))) : Pool (Runtime Λ) Control :=
  run move idle moves

end Dopedb.Queries
