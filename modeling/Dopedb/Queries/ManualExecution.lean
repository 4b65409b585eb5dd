import Dopedb.Library.Commands
import Dopedb.Library.Savepoints
import Dopedb.Model
import Dopedb.Queries.ManualSession

/-!
# Statements of a manual transaction

The engine-specific execution of `manual_transaction_execution.rs` over a target that is a stack of
named savepoints over a data state. A `Behaviour` says how the target answers the statements of one
call: which control statements it accepts, which user statements run, and what they do to the data.
It is an arbitrary function, so every mixture of successes and failures is covered. A control
statement is identified by its text and the position of the user statement it serves.
-/

namespace Dopedb.Queries

open Dopedb.Library

/-- The engines that a manual transaction has a connection to. -/
inductive ManualConnection where
  | postgres | mysql | sqlite
  deriving DecidableEq, Repr

/-- The engine of a connection. -/
def ManualConnection.engine : ManualConnection → Engine
  | .postgres => .postgres
  | .mysql => .mysql
  | .sqlite => .sqlite

/-- The savepoints that the execution opens: `dopedb_statement`, `dopedb_read`, `dopedb_script`. -/
inductive SavepointName where
  | statement | read | script
  deriving DecidableEq, Repr

/-- The fixed transaction-control statements. -/
inductive ControlStatement where
  | savepoint (name : SavepointName)
  | rollbackTo (name : SavepointName)
  | release (name : SavepointName)
  /-- `SET LOCAL transaction_read_only = on`. -/
  | readOnly
  /-- `PRAGMA query_only`. -/
  | queryOnly (on : Bool)
  deriving DecidableEq, Repr

/-- What a savepoint saves: the data, and PostgreSQL's `transaction_read_only`. -/
structure Contents (D : Type) where
  data : D
  readOnly : Bool := false

/-- The target's side of the connection. SQLite's `query_only` belongs to the connection, so no
savepoint restores it. -/
structure Target (D : Type) where
  savepoints : Savepoints SavepointName (Contents D)
  queryOnly : Bool := false

/-- The link of a session: the connection, and whether the previous write's savepoint is open. -/
structure ManualLink (D : Type) where
  target : Target D
  statementSavepoint : Bool := false

/-- How the target answers the statements of one call. -/
structure Behaviour (D : Type) where
  accepts : Nat → ControlStatement → Bool
  setsNamespace : Bool
  runs : Nat → Bool
  effect : Nat → D → D
  debris : Nat → D → D
  affected : Nat → Nat
  readOnlyViolation : Nat → Bool

/-- What can go wrong in a call. -/
inductive ExecutionError where
  | db (readOnlyViolation : Bool)
  | blocked (reason : String)
  | refused (refusal : ManualTransactionRefusal)
  | abandoned (why : Abandoned)
  deriving DecidableEq, Repr

/-- Why a statement did not complete normally. -/
inductive StatementError where
  | rolledBack (error : ExecutionError)
  | poisoned (error : ExecutionError)
  deriving DecidableEq, Repr

variable {D Λ : Type}

/-- What an accepted control statement does to the target; a savepoint must exist to be used. -/
def Target.control (t : Target D) : ControlStatement → Option (Target D)
  | .savepoint name => some { t with savepoints := t.savepoints.save name }
  | .rollbackTo name =>
      (t.savepoints.rollbackTo name).map fun savepoints => { t with savepoints := savepoints }
  | .release name =>
      (t.savepoints.release name).map fun savepoints => { t with savepoints := savepoints }
  | .readOnly =>
      some { t with savepoints := { t.savepoints with
        current := { t.savepoints.current with readOnly := true } } }
  | .queryOnly on => some { t with queryOnly := on }

/-- Whether the target refuses every write. -/
def Target.restricted (t : Target D) : Bool :=
  t.savepoints.current.readOnly || t.queryOnly

/-- What a user statement does to the data: nothing while writes are refused. -/
def Target.change (t : Target D) (f : D → D) : Target D :=
  if t.restricted then t
  else { t with savepoints := { t.savepoints with
    current := { t.savepoints.current with data := f t.savepoints.current.data } } }

/-- A call's work on the link. -/
abbrev Work (D : Type) (ε α : Type) := Command ε (ManualLink D) α

/-- The connection as the execution uses it: what sending a control statement, choosing a schema
and running a user statement do to the link, and the flag for the previous write's savepoint. -/
structure Wire (Λ : Type) where
  sends : Nat → ControlStatement → Command ExecutionError Λ Unit
  choosesNamespace : Nat → String → Command ExecutionError Λ Unit
  executes : Nat → Command ExecutionError Λ Nat
  reads : Nat → Command ExecutionError Λ Unit
  statementSavepoint : Λ → Bool
  opened : Λ → Λ

section

variable (b : Behaviour D) (index : Nat)

/-- Send one control statement. -/
def sendControl (statement : ControlStatement) : Work D ExecutionError Unit := fun link =>
  if b.accepts index statement then
    match link.target.control statement with
    | some target => (.ok (), { link with target := target })
    | none => (.error (.db false), link)
  else (.error (.db false), link)

/-- Run a statement that writes. A failed one may leave debris behind. -/
def executeOn : Work D ExecutionError Nat := fun link =>
  if b.runs index && !link.target.restricted then
    (.ok (b.affected index), { link with target := link.target.change (b.effect index) })
  else
    (.error (.db (b.readOnlyViolation index)),
      { link with target := link.target.change (b.debris index) })

/-- Read with a user statement: the rows are left out, what it does to the data is not. -/
def readOn : Work D ExecutionError Unit := fun link =>
  if b.runs index then
    (.ok (), { link with target := link.target.change (b.effect index) })
  else
    (.error (.db (b.readOnlyViolation index)),
      { link with target := link.target.change (b.debris index) })

end

/-- The wire to a target over data. The search path is no data. -/
def Behaviour.wire (b : Behaviour D) : Wire (ManualLink D) where
  sends := sendControl b
  choosesNamespace index _ :=
    if b.setsNamespace then pure () else Command.throw (.db (b.readOnlyViolation index))
  executes := executeOn b
  reads := readOn b
  statementSavepoint link := link.statementSavepoint
  opened link := { link with statementSavepoint := true }

section

variable (w : Wire Λ) (connection : ManualConnection) (index : Nat)

/-- Run fixed transaction-control SQL. Several statements in one round trip stop at the first that
fails, as statements sent one at a time do. -/
def control : List ControlStatement → Command ExecutionError Λ Unit
  | [] => pure ()
  | statement :: statements => do
    w.sends index statement
    control statements

/-- Choose the schema of an unqualified name. -/
def setNamespace (schema : Option String) : Command ExecutionError Λ Unit :=
  match schema, connection with
  | some schema, .postgres => w.choosesNamespace index schema
  | _, _ => pure ()

/-- Open this write's savepoint, releasing the previous write's savepoint in the same round trip. -/
def openStatementSavepoint : Command ExecutionError Λ Unit := do
  let link ← Command.get
  if w.statementSavepoint link then
    control w index [.release .statement, .savepoint .statement]
  else do
    control w index [.savepoint .statement]
    Command.modify w.opened

/-- Classify a statement failure: rolled back alone when the savepoint restores, otherwise the
transaction can only be rolled back. -/
def restore {α : Type} (rollback : List ControlStatement) (error : ExecutionError) :
    Command StatementError Λ α := do
  match ← Command.attempt (control w index rollback) with
  | .ok _ => Command.throw (.rolledBack error)
  | .error _ => Command.throw (.poisoned error)

/-- Run one write inside its own savepoint. -/
def writeStatement (schema : Option String) : Command StatementError Λ Nat := do
  (openStatementSavepoint w index).mapError .poisoned
  match ← Command.attempt (do setNamespace w connection index schema; w.executes index) with
  | .ok affected => pure affected
  | .error error => restore w index [.rollbackTo .statement] error

/-- Enter the read-only scope. -/
def enterReadScope : Command ExecutionError Λ Unit :=
  match connection with
  | .postgres => control w index [.savepoint .read, .readOnly]
  | .mysql => control w index [.savepoint .read]
  | .sqlite => control w index [.queryOnly true]

/-- Leave the read-only scope. -/
def exitReadScope : Command ExecutionError Λ Unit :=
  match connection with
  | .postgres | .mysql => control w index [.rollbackTo .read, .release .read]
  | .sqlite => control w index [.queryOnly false]

/-- A write attempted inside the read-only scope is reported as a typed block. -/
def readOnlyError : ExecutionError → ExecutionError
  | .db true => .blocked ("read-only session rejected a write (" ++ engineStr connection.engine ++
      "). The statement was classified as a read but the database detected a write — nothing was " ++
      "executed.")
  | error => error

/-- Finish a read scope and classify the read's outcome. -/
def leaveReadScope {α : Type} (outcome : Except ExecutionError α) : Command StatementError Λ α := do
  let left ← Command.attempt (exitReadScope w connection index)
  match outcome, left with
  | .ok value, .ok _ => pure value
  | .error error, .ok _ => Command.throw (.rolledBack (readOnlyError connection error))
  | .ok _, .error error => Command.throw (.poisoned error)
  | .error error, .error _ => Command.throw (.poisoned (readOnlyError connection error))

/-- Run one read inside the read-only scope. -/
def readStatement (schema : Option String) : Command StatementError Λ Unit := do
  (enterReadScope w connection index).mapError .poisoned
  let outcome ← Command.attempt (do setNamespace w connection index schema; w.reads index)
  leaveReadScope w connection index outcome

/-- Stream one read inside the read-only scope. A batch that the reader refuses ends the read like
a statement that fails. -/
def readStreamedStatement (schema : Option String) : Command StatementError Λ Unit := do
  (enterReadScope w connection index).mapError .poisoned
  let outcome ← Command.attempt (do setNamespace w connection index schema; w.reads index)
  leaveReadScope w connection index outcome

end

/-- The exact statements of one approved script. -/
structure ManualScript where
  statements : List String
  kinds : List QueryKind
  expectedAffected : Option (List Nat)

/-- The row count that the statement at an index must report, where the script has one. -/
def ManualScript.expected (script : ManualScript) (index : Nat) : Option Nat :=
  script.expectedAffected.bind fun values => values[index]?

/-- The error of a statement that changed another number of rows than expected. -/
def conflict (expected affected : Nat) : ExecutionError :=
  .blocked ("optimistic concurrency conflict: expected " ++ toString expected ++
    " affected row, got " ++ toString affected)

/-- Run the statements of a script from an index on: reads in their own scope, the others in the
script's savepoint. -/
def runStatements (w : Wire Λ) (connection : ManualConnection) (script : ManualScript) :
    Nat → List String → Command ExecutionError Λ (List ScriptStatement)
  | _, [] => pure []
  | index, statement :: statements =>
    if script.kinds[index]? = some .read then do
      enterReadScope w connection index
      let read ← Command.attempt (w.reads index)
      -- the scope is left whether the read failed or not
      exitReadScope w connection index
      Command.ofExcept (read.mapError (readOnlyError connection))
      let outcomes ← runStatements w connection script (index + 1) statements
      pure (.mk statement none none :: outcomes)
    else do
      let affected ← w.executes index
      if (script.expected index).any (· ≠ affected) then
        Command.throw (conflict ((script.expected index).getD 0) affected)
      else do
        let outcomes ← runStatements w connection script (index + 1) statements
        pure (.mk statement (some affected) none :: outcomes)

/-- Run a script inside one savepoint, so that a failure undoes the whole script while earlier work
in the transaction stays. -/
def scriptStatements (w : Wire Λ) (connection : ManualConnection) (schema : Option String)
    (script : ManualScript) : Command StatementError Λ (List ScriptStatement) := do
  (control w 0 [.savepoint .script]).mapError .poisoned
  let outcome ← Command.attempt do
    setNamespace w connection 0 schema
    runStatements w connection script 0 script.statements
  match outcome with
  | .ok statements => do
    match ← Command.attempt (control w 0 [.release .script]) with
    | .ok _ => pure statements
    | .error error => Command.throw (.poisoned error)
  | .error error => restore w 0 [.rollbackTo .script, .release .script] error

/-- What a call runs on the link. -/
inductive Call where
  | write (schema : Option String)
  | read (schema : Option String)
  | readStreamed (schema : Option String)
  | script (schema : Option String) (body : ManualScript)

/-- The number of statements that a call counts. -/
def Call.statements : Call → Nat
  | .script _ body => body.statements.length
  | _ => 1

/-- The work of a call; its value is left out. -/
def Call.work (w : Wire Λ) (connection : ManualConnection) :
    Call → Command StatementError Λ Unit
  | .write schema => do
    let _ ← writeStatement w connection 0 schema
    pure ()
  | .read schema => readStatement w connection 0 schema
  | .readStreamed schema => readStreamedStatement w connection 0 schema
  | .script schema body => do
    let _ ← scriptStatements w connection schema body
    pure ()

/-- One call with everything the outside decides: how the target answers, whether the statement is
dropped while it waits for the link, whether the session has expired, and whether the statement is
dropped before it completes. -/
structure Request (D : Type) where
  call : Call
  behaviour : Behaviour D
  queued : Option Abandoned := none
  expired : Bool := false
  abandoned : Option Abandoned := none

/-- Run one statement (or script) on the session connection. -/
def execute (connection : ManualConnection) (session : ManualSession (ManualLink D))
    (request : Request D) :
    ManualSession (ManualLink D) × Except (SessionFailure ExecutionError) Unit :=
  match request.queued, session.admits request.expired, session.link with
  | some why, _, _ => (session, .error (.statement (.abandoned why)))
  | none, some refusal, _ => (session, .error (.statement (.refused refusal)))
  | none, none, none => (session, .error (.statement (.refused .ended)))
  | none, none, some link =>
    match request.abandoned with
    | some why => session.concluded request.call.statements link (.abandoned why)
    | none =>
      match request.call.work request.behaviour.wire connection link with
      | (.ok value, link) => session.concluded request.call.statements link (.completed value)
      | (.error (.rolledBack error), link) =>
        session.concluded request.call.statements link (.rolledBack error)
      | (.error (.poisoned error), link) =>
        session.concluded request.call.statements link (.poisoned error)

end Dopedb.Queries
