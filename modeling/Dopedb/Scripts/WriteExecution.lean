import Dopedb.Operations.StateMachine
import Dopedb.Queries.ScriptSession
import Dopedb.Scripts.ScriptTransaction

/-!
# Execution of an approved script

`run_write` of `features/scripts/write_execution.rs`: the checks before the target is reached, the
two routes to it (the open manual transaction, or a transaction of its own under a cancellation and
a timeout), and what is recorded in the audit log, in the history and for the claimed operation.
`Surroundings` holds everything the outside decides. The texts of records, the cached schema and
the returned receipt are left out.
-/

namespace Dopedb.Scripts

open Dopedb.Library Dopedb.Queries
open Dopedb.Operations (OperationState ensureTransition)

/-- A claimed operation with its stored script and the settings of its connection. -/
structure PreparedScriptRun where
  operationId : Uuid
  grant : Uuid
  engine : Engine
  database : String
  namespace_ : Option String
  statements : List String
  kinds : List QueryKind
  expectedAffected : Option (List Nat)
  canManage : Bool
  canWrite : Bool
  allowWrites : Bool
  allowSchemaChanges : Bool

/-- The details recorded with a finished operation. -/
inductive Receipt where
  | reason (reason : String)
  | succeeded (committed manualTransaction : Bool) (rowCount statementCount : Nat)
  deriving DecidableEq, Repr

/-- An entry of the audit log. -/
structure AuditRecord where
  kind : QueryKind
  action : String
  deriving DecidableEq, Repr

/-- An entry of the history. -/
structure HistoryRecord where
  kind : QueryKind
  status : String
  rowCount : Option Nat
  deriving DecidableEq, Repr

variable {D : Type}

/-- What a run changes: the target, the open manual transaction of the connection, the claimed
operation, and the records. -/
structure World (D : Type) where
  target : Connection D
  session : Option (ManualSession (ManualLink D))
  operation : OperationState := .executing
  receipt : Option Receipt := none
  audit : List AuditRecord := []
  history : List HistoryRecord := []

/-- Whether the authority that opened the manual transaction is still the current one. -/
inductive Authority where
  | current | changed
  | unreadable (failure : ScriptFailure)
  deriving DecidableEq, Repr

/-- Everything the outside decides about one run. -/
structure Surroundings (D : Type) (engine : Engine) where
  auditsAttempt : Bool
  connect : Option ScriptFailure
  sqlBackend : Option ScriptFailure
  pool : Option DbPool
  poolEngine : ∀ p ∈ pool, p.engine = engine
  authority : Authority
  connection : ManualConnection
  manual : Behaviour D
  guarded : Guarded
  driverText : String
  target : TargetBehaviour D
  recordsAudit : Bool
  recordsHistory : Bool
  finishes : OperationState → Option ScriptFailure

/-- A step of the run. -/
abbrev Run (D α : Type) := Command ScriptFailure (World D) α

namespace PreparedScriptRun

variable (run : PreparedScriptRun)

/-- Whether a statement of the script is DDL. -/
def hasDdl : Bool := run.kinds.any (· = .ddl)

/-- The kind that the records of the run carry. -/
def scriptKind : QueryKind :=
  if run.hasDdl then .ddl else if run.kinds.any (· = .privilege) then .privilege else .write

/-- Whether the script has a statement that a manual transaction refuses, which are the ones that
MySQL may commit implicitly. -/
def containsUnsupportedKind : Bool := run.kinds.any fun kind => kind = .ddl || kind = .privilege

/-- The row count that the statement at an index must report. -/
def expected (index : Nat) : Option Nat := run.expectedAffected.bind fun values => values[index]?

/-- Whether the target commits before the statement at an index: MySQL, for DDL. -/
def commitsImplicitly (pool : DbPool) (index : Nat) : Bool :=
  pool = .mysql && (run.kinds[index]?).any fun kind => kind = .ddl || kind = .privilege

/-- The script as the manual transaction runs it. -/
def script : ManualScript := ⟨run.statements, run.kinds, run.expectedAffected⟩

end PreparedScriptRun

/-- The error of a statement of a manual transaction. -/
def ScriptFailure.ofExecution (driverText : String) : ExecutionError → ScriptFailure
  | .db _ => .db driverText
  | .blocked reason => .blocked reason
  | .refused refusal => .manualTransaction refusal
  | .abandoned why => .safety why.intoError

/-- The error of a session. -/
def ScriptFailure.ofSession (driverText : String) : SessionFailure ExecutionError → ScriptFailure
  | .statement error => .ofExecution driverText error
  | .abandoned why => .safety why.intoError

/-- The error of an interrupted script with its own transaction. -/
def interruptedFailure : ScriptFailure → ScriptFailure
  | .safety reason => .outcomeUnknown
      ("script execution was interrupted before rollback or commit could be confirmed: " ++
        "safety violation: " ++ reason)
  | failure => failure

section

variable {engine : Engine} (e : Surroundings D engine)

/-- Record a run in the audit log and in the history. A record that cannot be written is logged and
the run goes on. -/
def recordScriptRun (kind : QueryKind) (action status : String) (rowCount : Option Nat) :
    Run D Unit := Command.modify fun world =>
  { world with
    audit := if e.recordsAudit then world.audit ++ [⟨kind, action⟩] else world.audit
    history :=
      if e.recordsHistory then world.history ++ [⟨kind, status, rowCount⟩] else world.history }

/-- Finish the claimed operation. -/
def finish (state : OperationState) (receipt : Receipt) : Run D (Option ScriptFailure) :=
  fun world =>
    match e.finishes state, ensureTransition world.operation state with
    | none, .ok _ => (.ok none, { world with operation := state, receipt := some receipt })
    | none, .error _ => (.ok (some (.blocked "operation lifecycle conflict")), world)
    | some failure, _ => (.ok (some failure), world)

/-- `fail` of the operation service. -/
def fail (reason : String) : Run D (Option ScriptFailure) := finish e .failed (.reason reason)

/-- `confirm_cancelled` of the operation service. -/
def confirmCancelled (reason : String) : Run D (Option ScriptFailure) :=
  finish e .cancelled (.reason reason)

/-- `mark_outcome_unknown` of the operation service. -/
def markOutcomeUnknown (reason : String) : Run D (Option ScriptFailure) :=
  finish e .outcomeUnknown (.reason reason)

/-- `succeed` of the operation service. -/
def succeed (committed manualTransaction : Bool) (rowCount statementCount : Nat) :
    Run D (Option ScriptFailure) :=
  finish e .succeeded (.succeeded committed manualTransaction rowCount statementCount)

/-- Run the script inside the manual transaction that is open for the connection. -/
def runScript (run : PreparedScriptRun) (session : ManualSession (ManualLink D)) :
    ManualSession (ManualLink D) × Except ScriptFailure (List ScriptStatement) :=
  if session.database ≠ run.database then
    (session, .error (.manualTransaction .otherDatabase))
  else match e.authority with
    | .unreadable failure => (session, .error failure)
    | .changed => ({ session with link := none }, .error (.manualTransaction .authorityChanged))
    | .current =>
      if run.operationId ≠ run.grant then
        (session, .error (.blocked
          "manual script transaction scope does not match its approved operation"))
      else if run.containsUnsupportedKind then
        (session, .error (.manualTransaction .unsupportedStatement))
      else
        match executeWork (scriptStatements e.manual.wire e.connection run.namespace_ run.script)
            run.statements.length session e.guarded with
        | (session, .ok statements) => (session, .ok statements)
        | (session, .error failure) => (session, .error (.ofSession e.driverText failure))

/-- Run the script in a transaction of its own, cancelled or timed out as the target's answers
say. -/
def runGuarded (run : PreparedScriptRun) (pool : DbPool) (target : Connection D) :
    Connection D × Except ScriptFailure (List ScriptStatement × Bool) :=
  match executeScriptTransaction e.target pool run.statements run.namespace_
      (run.commitsImplicitly pool) run.expected run.grant run.operationId target with
  | (.ok result, target) => (target, result)
  | (.error why, target) => (target, .error (.safety why.intoError))

/-- Run the script on its route: whether that is the manual transaction, and the result. -/
def executeScript (run : PreparedScriptRun) (pool : DbPool) :
    Run D (Bool × Except ScriptFailure (List ScriptStatement × Bool)) := fun world =>
  match world.session with
  | some session =>
    match runScript e run session with
    | (session, result) =>
      (.ok (true, result.map fun statements => (statements, false)),
        { world with session := some session })
  | none =>
    match runGuarded e run pool world.target with
    | (target, result) => (.ok (false, result), { world with target := target })

/-- The checks before the target is reached, up to the pool that mutates it. -/
def reachTarget (run : PreparedScriptRun) : Run D DbPool :=
  if run.hasDdl && !run.canManage || !run.hasDdl && !run.canWrite then
    Command.throw (.blocked (if run.hasDdl then
      "your workspace role does not permit schema changes"
    else "your workspace role grants read-only database access"))
  else if !run.allowWrites then do
    recordScriptRun e .write "blocked" "blocked" none
    Command.throw (.blocked ("writing is disabled for this connection (writes are off by " ++
      "default). Enable writes in the connection's safety settings to run this script."))
  else if run.hasDdl && !run.allowSchemaChanges then do
    recordScriptRun e run.scriptKind "blocked" "blocked" none
    let _ ← fail e "schema_access_disabled"
    Command.throw (.blocked ("schema changes are disabled for this connection; review the " ++
      "required permission shown with this result before running this DDL script."))
  else if !e.auditsAttempt then do
    let _ ← fail e "audit_pre_record_failed"
    Command.throw (.config "audit pre-record failed — refusing to run script")
  else do
    Command.modify fun world =>
      { world with audit := world.audit ++ [⟨run.scriptKind, "script:execute:attempt"⟩] }
    match e.connect, e.sqlBackend, e.pool with
    | some failure, _, _ => do
      recordScriptRun e run.scriptKind "script:execute" "error" none
      let _ ← fail e "connection_failed"
      Command.throw failure
    | none, some failure, _ => do
      recordScriptRun e run.scriptKind "script:execute" "error" none
      let _ ← fail e "sql_backend_unavailable"
      Command.throw failure
    | none, none, none =>
      Command.throw (.blocked "this connection was opened without mutation authority")
    | none, none, some pool => pure pool

/-- The records of a script that reported an error. A cancelled script of the manual transaction is
a confirmed rollback; an interrupted script of its own transaction has an unknown outcome. -/
def concludeFailure {α : Type} (run : PreparedScriptRun) (manual : Bool)
    (failure : ScriptFailure) : Run D α := do
  let error := if failure.interrupted && !manual then interruptedFailure failure else failure
  if error.isOutcomeUnknown then do
    recordScriptRun e run.scriptKind "script:execute:outcome_unknown" "outcome_unknown" none
    let _ ← markOutcomeUnknown e "target_outcome_unconfirmed"
    Command.throw error
  else if failure.cancelled then do
    recordScriptRun e run.scriptKind "script:execute:cancelled" "cancelled" none
    let _ ← confirmCancelled e "user_cancelled"
    Command.throw error
  else do
    recordScriptRun e run.scriptKind "script:execute" "error" none
    let _ ← fail e error.kind
    Command.throw error

/-- The records of a script whose statements have outcomes. -/
def concludeOutcomes (run : PreparedScriptRun) (manual : Bool) (outcomes : List ScriptStatement)
    (committed : Bool) : Run D (List ScriptStatement × Bool) :=
  if !manual && !committed && run.engine = .mysql && run.containsUnsupportedKind then do
    recordScriptRun e run.scriptKind "script:execute" "outcome_unknown" none
    let _ ← markOutcomeUnknown e "mysql_implicit_commit_unconfirmed"
    Command.throw (.outcomeUnknown ("MySQL may implicitly commit DDL or privilege statements " ++
      "before a later script statement fails"))
  else do
    let total := (outcomes.filterMap (·.affected)).sum
    recordScriptRun e run.scriptKind "script:execute"
      (if manual then "staged" else if committed then "ok" else "error") (some total)
    let lifecycle ← if committed || manual then succeed e committed manual total run.statements.length
      else fail e "script_transaction_rolled_back"
    match lifecycle with
    | none => pure (outcomes, committed)
    | some failure =>
      -- the target has committed, and no receipt says so
      if committed then do
        let _ ← markOutcomeUnknown e "local_receipt_failed"
        Command.throw failure
      else Command.throw failure

/-- Run an approved script that writes. -/
def runWrite (run : PreparedScriptRun) : Run D (List ScriptStatement × Bool) := do
  let pool ← reachTarget e run
  let (manual, result) ← executeScript e run pool
  match result with
  | .error failure => concludeFailure e run manual failure
  | .ok (outcomes, committed) => concludeOutcomes e run manual outcomes committed

end

end Dopedb.Scripts
