import Dopedb.Library.Autocommit
import Dopedb.Library.Commands
import Dopedb.Model
import Dopedb.Platform
import Dopedb.Queries.ManualSession

/-!
# The transaction of a script

`execute_script_transaction` of `features/scripts/helpers.rs` over a connection whose every answer
is arbitrary: each of acquire, begin, the search path, every statement, rollback and commit is done,
fails, or is cut off by a cancellation or the timeout, which closes the connection. A cut is the
error of the `Command`. On MySQL a DDL statement commits the open transaction before it runs, and
what follows it runs without one.
-/

namespace Dopedb.Scripts

open Dopedb.Library Dopedb.Queries

/-- The pools that a live connection can hold. -/
inductive DbPool where
  | postgres | mysql | sqlite | bigquery | cloudflareD1
  deriving DecidableEq, Repr

/-- The engine of the profile that a pool belongs to. -/
def DbPool.engine : DbPool → Engine
  | .postgres => .postgres
  | .mysql => .mysql
  | .sqlite | .cloudflareD1 => .sqlite
  | .bigquery => .bigquery

/-- An error of a driver, with the text users see. -/
inductive DriverError where
  | database (text : String)
  | unsupportedColumnType (text : String)
  deriving DecidableEq, Repr

/-- The text of a driver error. -/
def DriverError.text : DriverError → String
  | .database text | .unsupportedColumnType text => text

/-- The errors that a script run tells apart. `other` is any error of opening the connection. -/
inductive ScriptFailure where
  | db (text : String)
  | unsupportedColumnType
  | safety (reason : String)
  | config (message : String)
  | blocked (reason : String)
  | outcomeUnknown (message : String)
  | manualTransaction (refusal : ManualTransactionRefusal)
  | other (kind message : String)
  deriving DecidableEq, Repr

/-- The kind of an error. -/
def ScriptFailure.kind : ScriptFailure → String
  | .db _ => "db"
  | .unsupportedColumnType => "unsupportedColumnType"
  | .safety _ => "safety"
  | .config _ => "config"
  | .blocked _ => "blocked"
  | .outcomeUnknown _ => "outcomeUnknown"
  | .manualTransaction _ => "manualTransaction"
  | .other kind _ => kind

/-- A driver error as an application error. -/
def ScriptFailure.ofDriver : DriverError → ScriptFailure
  | .database text => .db text
  | .unsupportedColumnType _ => .unsupportedColumnType

/-- The message of a driver error as an application error. -/
def driverMessage : DriverError → String
  | .database text => "database error: " ++ text
  | .unsupportedColumnType _ =>
      "the result has a column type DopeDB cannot read yet, such as a multirange; cast that " ++
        "column to text (column::text) and run again"

/-- The error of a guarded script that was cancelled. -/
def ScriptFailure.cancelled (failure : ScriptFailure) : Bool := failure = .safety "query cancelled"

/-- The error of a guarded script that was cancelled or timed out, recognised by its text. -/
def ScriptFailure.interrupted (failure : ScriptFailure) : Bool :=
  failure.cancelled || match failure with
    | .safety reason => "query timed out after ".toList.isPrefixOf reason.toList
    | _ => false

/-- The error says that the outcome is unknown. -/
def ScriptFailure.isOutcomeUnknown : ScriptFailure → Bool
  | .outcomeUnknown _ => true
  | _ => false

/-- How one request to the target ends. -/
inductive Reply where
  | done
  | failed (error : DriverError)
  | cut (why : Abandoned)
  deriving DecidableEq, Repr

/-- How the target answers the requests of one script. `debris` is what a statement leaves behind
that fails or is cut, `commitsFirst` whether such a DDL statement has committed before,
`commitApplied` whether a COMMIT took effect that was not acknowledged. -/
structure TargetBehaviour (D : Type) where
  acquire : Reply
  begins : Reply
  context : Reply
  statement : Nat → Reply
  rollback : Reply
  commit : Reply
  effect : Nat → D → D
  debris : Nat → D → D
  affected : Nat → Nat
  commitsFirst : Nat → Bool
  commitApplied : Bool

/-- A statement that ran. -/
def statementOk (sql : String) (affected : Nat) : ScriptStatement := ⟨sql, some affected, none⟩

/-- A statement without a result. -/
def statementError (sql kind message : String) : ScriptStatement := ⟨sql, none, some ⟨kind, message⟩⟩

/-- A statement that the database rejected. -/
def statementFailed (sql : String) (error : DriverError) : ScriptStatement :=
  statementError sql (ScriptFailure.ofDriver error).kind (driverMessage error)

/-- A statement that was not reached. -/
def statementSkipped (sql : String) : ScriptStatement :=
  statementError sql "skipped" "skipped — transaction rolled back"

/-- Every statement of a script whose transaction could not begin. -/
def beginFailed (statements : List String) (error : DriverError) : List ScriptStatement :=
  statements.map fun sql =>
    statementError sql "transactionBeginFailed" ("could not begin transaction: " ++ error.text)

variable {D : Type}

/-- Requests to the target; a request that is cut ends the script. -/
abbrev OnTarget (D α : Type) := Command Abandoned (Connection D) α

/-- Send one request. One that is cut closes the connection, which drops the transaction. -/
def request (reply : Reply) (done other : Connection D → Connection D) :
    OnTarget D (Except DriverError Unit) := fun c =>
  match reply with
  | .done => (.ok (.ok ()), done c)
  | .failed error => (.ok (.error error), other c)
  | .cut why => (.error why, (other c).rollback)

section

variable (b : TargetBehaviour D)

/-- What a statement does that the target runs. -/
def ran (implicit : Bool) (index : Nat) (c : Connection D) : Connection D :=
  (if implicit then c.commit else c).change (b.effect index)

/-- What a statement does that fails or is cut. -/
def broke (implicit : Bool) (index : Nat) (c : Connection D) : Connection D :=
  (if implicit && b.commitsFirst index then c.commit else c).change (b.debris index)

/-- Run the statements from an index on, up to the first that fails or changes another number of
rows than expected. -/
def executeStatements (implicit : Nat → Bool) (expected : Nat → Option Nat) :
    Nat → List String → OnTarget D (List ScriptStatement × Bool)
  | _, [] => pure ([], true)
  | index, statement :: statements => do
    match ← request (b.statement index) (ran b (implicit index) index)
        (broke b (implicit index) index) with
    | .ok _ =>
      if (expected index).any (· ≠ b.affected index) then
        pure ([statementError statement "optimisticConflict"
          ("optimistic concurrency conflict: expected " ++
            toString ((expected index).getD 0) ++ " affected row, got " ++
            toString (b.affected index))], false)
      else do
        let (outcomes, succeeded) ← executeStatements implicit expected (index + 1) statements
        pure (statementOk statement (b.affected index) :: outcomes, succeeded)
    | .error error => pure ([statementFailed statement error], false)

/-- Choose the schema inside the transaction; only PostgreSQL has a statement for it. -/
def sendContext (pool : DbPool) (namespace_ : Option String) :
    OnTarget D (Except DriverError Unit) :=
  match pool, namespace_ with
  | .postgres, some _ => request b.context id id
  | _, _ => pure (.ok ())

/-- Run every statement in one transaction of an acquired connection. -/
def runTransaction (pool : DbPool) (statements : List String) (namespace_ : Option String)
    (implicit : Nat → Bool) (expected : Nat → Option Nat) :
    OnTarget D (Except ScriptFailure (List ScriptStatement × Bool)) := do
  match ← request b.begins Connection.begin id with
  | .error error => pure (.ok (beginFailed statements error, false))
  | .ok _ =>
    match ← sendContext b pool namespace_ with
    | .error error =>
      match ← request b.rollback Connection.rollback id with
      | .error rollback =>
        pure (.error (.outcomeUnknown
          ("script namespace rollback acknowledgement failed: " ++ rollback.text)))
      | .ok _ => pure (.error (.ofDriver error))
    | .ok _ =>
      let (outcomes, succeeded) ← executeStatements b implicit expected 0 statements
      if succeeded then
        match ← request b.commit Connection.commit
            (fun c => if b.commitApplied then c.commit else c) with
        | .error error =>
          pure (.error (.outcomeUnknown ("script commit acknowledgement failed: " ++ error.text)))
        | .ok _ => pure (.ok (outcomes, true))
      else
        match ← request b.rollback Connection.rollback id with
        | .error error =>
          pure (.error (.outcomeUnknown ("script rollback acknowledgement failed: " ++ error.text)))
        | .ok _ =>
          pure (.ok (outcomes ++ (statements.drop outcomes.length).map statementSkipped, false))

/-- Execute every statement in one write-pool transaction. -/
def executeScriptTransaction (pool : DbPool) (statements : List String)
    (namespace_ : Option String) (implicit : Nat → Bool) (expected : Nat → Option Nat)
    (grant operationId : Uuid) :
    OnTarget D (Except ScriptFailure (List ScriptStatement × Bool)) :=
  if grant ≠ operationId then
    pure (.error (.blocked "script transaction scope does not match its approved operation"))
  else match pool with
    | .bigquery =>
      pure (.error (.blocked
        "BigQuery scripts are unavailable through the single-statement read adapter"))
    | .cloudflareD1 =>
      pure (.error (.blocked
        "Cloudflare D1 scripts require the dedicated remote batch workflow"))
    | .postgres | .mysql | .sqlite => do
      match ← request b.acquire id id with
      | .error error => pure (.ok (beginFailed statements error, false))
      | .ok _ => runTransaction b pool statements namespace_ implicit expected

end

/-! ## What the transaction does -/

namespace TargetBehaviour

variable (b : TargetBehaviour D) (expected : Nat → Option Nat)

/-- What the statements from an index on do to the data. -/
def effects : Nat → List String → D → D
  | _, [], d => d
  | index, _ :: statements, d => effects (index + 1) statements (b.effect index d)

/-- Every statement from an index on is done and changes as many rows as expected. -/
def allPass : Nat → List String → Bool
  | _, [] => true
  | index, _ :: statements =>
    b.statement index = .done && !(expected index).any (· ≠ b.affected index) &&
      allPass (index + 1) statements

/-- The first statement that does not pass fails or changes another number of rows than expected:
it is not cut. -/
def stops : Nat → List String → Bool
  | _, [] => false
  | index, _ :: statements =>
    match b.statement index with
    | .failed _ => true
    | .cut _ => false
    | .done => (expected index).any (· ≠ b.affected index) || stops (index + 1) statements

/-- Where every statement passes, none stops the script. -/
theorem stops_of_all_pass {index : Nat} {statements : List String}
    (h : b.allPass expected index statements = true) :
    b.stops expected index statements = false := by
  induction statements generalizing index with
  | nil => rfl
  | cons statement statements ih =>
      unfold allPass at h
      rw [Bool.and_eq_true, Bool.and_eq_true, Bool.not_eq_true', decide_eq_true_eq] at h
      obtain ⟨⟨hdone, hexpected⟩, hrest⟩ := h
      unfold stops
      rw [hdone]
      simp only [hexpected, Bool.false_or]
      exact ih hrest

/-- The pool runs scripts for the operation that the grant names, and a connection is acquired. -/
def connects (pool : DbPool) (grant operationId : Uuid) : Bool :=
  grant = operationId && (pool = .postgres || pool = .mysql || pool = .sqlite)

/-- The search path is set, or there is none to set. -/
def hasContext (pool : DbPool) (namespace_ : Option String) : Bool :=
  b.context = .done || !(pool = .postgres && namespace_.isSome)

/-- The transaction begins and has its search path. -/
def opens (pool : DbPool) (namespace_ : Option String) : Bool :=
  b.acquire = .done && b.begins = .done && b.hasContext pool namespace_

/-- Acquiring or BEGIN fails. -/
def staysClosed : Bool :=
  match b.acquire, b.begins with
  | .failed _, _ => true
  | .done, .failed _ => true
  | _, _ => false

/-- The whole script is committed and the target says so. -/
def commits (pool : DbPool) (statements : List String) (namespace_ : Option String)
    (grant operationId : Uuid) : Bool :=
  connects pool grant operationId && b.opens pool namespace_ && b.allPass expected 0 statements &&
    b.commit = .done

/-- The script is not committed and the target says so: it could not begin, or a statement did not
pass and the rollback is acknowledged. -/
def rollsBack (pool : DbPool) (statements : List String) (namespace_ : Option String)
    (grant operationId : Uuid) : Bool :=
  connects pool grant operationId && (b.staysClosed ||
    b.opens pool namespace_ && b.stops expected 0 statements && b.rollback = .done)

end TargetBehaviour

open Command

variable {b : TargetBehaviour D} {implicit : Nat → Bool} {expected : Nat → Option Nat}

/-- A request does one of three things. -/
theorem request_triple {P : Connection D → Prop}
    {Q : Except DriverError Unit → Connection D → Prop} {E : Abandoned → Connection D → Prop}
    {reply : Reply} {done other : Connection D → Connection D}
    (hdone : reply = .done → ∀ c, P c → Q (.ok ()) (done c))
    (hfailed : ∀ error, reply = .failed error → ∀ c, P c → Q (.error error) (other c))
    (hcut : ∀ why, reply = .cut why → ∀ c, P c → E why (other c).rollback) :
    Triple P (request reply done other) Q E := by
  intro c hc
  cases reply with
  | done => exact hdone rfl c hc
  | failed error => exact hfailed error rfl c hc
  | cut why => exact hcut why rfl c hc

/-- The connection inside the transaction that began with `d`, where no statement commits on its
own, and the data that the connection sees. -/
def Within (implicit : Nat → Bool) (d seen : D) (c : Connection D) : Prop :=
  ((∀ index, implicit index = false) → c.Holds d) ∧ c.view = seen

/-- A statement that ran has its effect, inside the transaction unless it commits on its own. -/
theorem Within.ran {d seen : D} {c : Connection D} (h : Within implicit d seen c) (index : Nat) :
    Within implicit d (b.effect index seen) (ran b (implicit index) index c) := by
  refine ⟨fun hnone => ?_, ?_⟩
  · have hc := (h.1 hnone).change (b.effect index)
    simpa [Scripts.ran, hnone index] using hc
  · unfold Scripts.ran
    rw [Connection.view_change, ← h.2]
    split <;> rfl

/-- A statement that broke is inside the transaction unless it commits on its own. -/
theorem Within.broke {d seen : D} {c : Connection D} (h : Within implicit d seen c) (index : Nat) :
    ∃ seen', Within implicit d seen' (broke b (implicit index) index c) := by
  refine ⟨_, fun hnone => ?_, rfl⟩
  have hc := (h.1 hnone).change (b.debris index)
  simpa [Scripts.broke, hnone index] using hc

/-- Running the statements: all of them pass and have their effects, or one stops the script. -/
theorem execute_statements_triple (d : D) (statements : List String) (index : Nat) (seen : D) :
    Triple (Within implicit d seen) (executeStatements b implicit expected index statements)
      (fun result c => match result.2 with
        | true => b.allPass expected index statements = true ∧
            Within implicit d (b.effects index statements seen) c
        | false => b.stops expected index statements = true ∧ ∃ seen', Within implicit d seen' c)
      (fun _ _ => b.allPass expected index statements = false ∧
        b.stops expected index statements = false) := by
  induction statements generalizing index seen with
  | nil => exact .pure fun _ h => ⟨rfl, h⟩
  | cons statement statements ih =>
      unfold executeStatements TargetBehaviour.allPass TargetBehaviour.stops TargetBehaviour.effects
      refine Triple.bind (Q := fun result c => match result with
          | .ok _ => b.statement index = .done ∧ Within implicit d (b.effect index seen) c
          | .error error => b.statement index = .failed error ∧ ∃ seen', Within implicit d seen' c)
        (request_triple (fun hreply c hc => ⟨hreply, hc.ran index⟩)
          (fun error hreply c hc => ⟨hreply, hc.broke index⟩)
          (fun why hreply c hc => by simp [hreply])) fun result => ?_
      cases result with
      | error error =>
          exact .assume fun hreply => .pure fun c hc => ⟨by rw [hreply], hc⟩
      | ok done =>
          refine .assume fun hreply => ?_
          rw [hreply]
          refine .ite (fun hconflict => ?_) fun hexpected => ?_
          · exact .pure fun c hc => ⟨by rw [hconflict, Bool.true_or], _, hc⟩
          · rw [Bool.not_eq_true] at hexpected
            simp only [hexpected, decide_true, Bool.not_false, Bool.true_and, Bool.and_true,
              Bool.false_or]
            exact (ih (index + 1) (b.effect index seen)).bind fun result => .pure fun c hc => hc

variable {pool : DbPool} {namespace_ : Option String} {statements : List String}
  {grant operationId : Uuid}

/-- A target that says the script is not committed does not say that it is. -/
theorem commits_of_rolls_back
    (h : b.rollsBack expected pool statements namespace_ grant operationId = true) :
    b.commits expected pool statements namespace_ grant operationId = false := by
  rw [← Bool.not_eq_true]
  intro hcommits
  unfold TargetBehaviour.rollsBack at h
  unfold TargetBehaviour.commits at hcommits
  rw [Bool.and_eq_true, Bool.or_eq_true] at h
  rw [Bool.and_eq_true, Bool.and_eq_true, Bool.and_eq_true] at hcommits
  obtain ⟨⟨⟨-, hopens⟩, hpass⟩, -⟩ := hcommits
  rcases h.2 with hclosed | hstops
  · unfold TargetBehaviour.staysClosed at hclosed
    unfold TargetBehaviour.opens at hopens
    simp only [Bool.and_eq_true, decide_eq_true_eq] at hopens
    rw [hopens.1.1, hopens.1.2] at hclosed
    cases hclosed
  · rw [b.stops_of_all_pass expected hpass, Bool.and_false, Bool.false_and] at hstops
    cases hstops

/-- How a script can end: committed with all its effects; rolled back with none, unless a statement
committed on its own; with an unknown outcome; or refused, with none. -/
def TransactionEnd (b : TargetBehaviour D) (implicit : Nat → Bool) (expected : Nat → Option Nat)
    (pool : DbPool) (namespace_ : Option String) (statements : List String)
    (grant operationId : Uuid) (d : D)
    (result : Except ScriptFailure (List ScriptStatement × Bool)) (c : Connection D) : Prop :=
  match result with
  | .ok (_, true) =>
    b.commits expected pool statements namespace_ grant operationId = true ∧
      c = ⟨b.effects 0 statements d, none⟩
  | .ok (_, false) =>
    b.rollsBack expected pool statements namespace_ grant operationId = true ∧
      ((∀ index, implicit index = false) → c = ⟨d, none⟩)
  | .error failure =>
    (b.commits expected pool statements namespace_ grant operationId = false ∧
      b.rollsBack expected pool statements namespace_ grant operationId = false) ∧
      failure.interrupted = false ∧ (failure.isOutcomeUnknown = true ∨ c = ⟨d, none⟩)

/-- A driver error is no interruption. -/
theorem of_driver_not_interrupted (error : DriverError) :
    (ScriptFailure.ofDriver error).interrupted = false := by
  cases error <;> rfl

/-- The search path changes nothing, and is always there where it is not needed. -/
theorem send_context_triple (c₀ : Connection D) :
    Triple (fun c => c = c₀) (sendContext b pool namespace_)
      (fun result c => match result with
        | .ok _ => b.hasContext pool namespace_ = true ∧ c = c₀
        | .error _ => b.hasContext pool namespace_ = false ∧ c = c₀)
      (fun _ _ => b.hasContext pool namespace_ = false) := by
  unfold sendContext TargetBehaviour.hasContext
  split
  · exact request_triple (fun hreply c hc => ⟨by simp [hreply], hc⟩)
      (fun error hreply c hc => ⟨by simp [hreply], hc⟩) (fun why hreply c hc => by simp [hreply])
  · next hother =>
      refine .pure fun c hc => ⟨?_, hc⟩
      cases pool <;> cases namespace_ <;> first | exact absurd rfl (hother _ rfl) | simp

/-- What the statements of an open transaction come to, once it is committed or rolled back. -/
theorem finish_transaction_triple (d : D)
    (hconnects : TargetBehaviour.connects pool grant operationId = true)
    (hopens : b.opens pool namespace_ = true) (hstays : b.staysClosed = false) :
    Triple (Within implicit d d)
      (do
        let (outcomes, succeeded) ← executeStatements b implicit expected 0 statements
        if succeeded then
          match ← request b.commit Connection.commit
              (fun c => if b.commitApplied then c.commit else c) with
          | .error error =>
            pure (.error (.outcomeUnknown ("script commit acknowledgement failed: " ++ error.text)))
          | .ok _ => pure (.ok (outcomes, true))
        else
          match ← request b.rollback Connection.rollback id with
          | .error error =>
            pure (.error
              (.outcomeUnknown ("script rollback acknowledgement failed: " ++ error.text)))
          | .ok _ =>
            pure (.ok (outcomes ++ (statements.drop outcomes.length).map statementSkipped, false)))
      (TransactionEnd b implicit expected pool namespace_ statements grant operationId d)
      (fun _ _ => b.commits expected pool statements namespace_ grant operationId = false ∧
        b.rollsBack expected pool statements namespace_ grant operationId = false) := by
  unfold TransactionEnd TargetBehaviour.commits TargetBehaviour.rollsBack
  rw [hconnects, hopens, hstays]
  simp only [Bool.true_and, Bool.false_or]
  refine Triple.bind ((execute_statements_triple d statements 0 d).weaken (fun _ h => h)
    (fun _ _ h => h) fun _ _ h => by simp [h.1, h.2]) fun result => ?_
  obtain ⟨outcomes, _ | _⟩ := result
  -- a statement did not pass, so the transaction is rolled back
  · refine .assume fun hstops => ?_
    have hpass : b.allPass expected 0 statements = false := by
      cases hall : b.allPass expected 0 statements with
      | false => rfl
      | true => rw [b.stops_of_all_pass expected hall] at hstops; cases hstops
    refine Triple.bind (Q := fun result c => match result with
        | .ok _ => b.rollback = .done ∧ ((∀ index, implicit index = false) → c = ⟨d, none⟩)
        | .error error => b.rollback = .failed error ∧ True)
      (request_triple (fun hreply c ⟨_, hc⟩ => ⟨hreply, fun hnone => (hc.1 hnone).rollback⟩)
        (fun error hreply c hc => ⟨hreply, trivial⟩)
        fun why hreply c hc => by simp [hpass, hreply]) fun result => ?_
    cases result with
    | ok _ => exact .assume fun hreply => .pure fun c hc => ⟨by simp [hstops, hreply], hc⟩
    | error error =>
        exact .assume fun hreply => .pure fun c hc => ⟨by simp [hpass, hreply], rfl, .inl rfl⟩
  -- all statements passed, so it is committed
  · refine .assume fun hpass => ?_
    have hstops : b.stops expected 0 statements = false := b.stops_of_all_pass expected hpass
    refine Triple.bind (Q := fun result c => match result with
        | .ok _ => b.commit = .done ∧ c = ⟨b.effects 0 statements d, none⟩
        | .error error => b.commit = .failed error ∧ True)
      (request_triple (fun hreply c hc => ⟨hreply, hc.2 ▸ rfl⟩)
        (fun error hreply c hc => ⟨hreply, trivial⟩)
        fun why hreply c hc => by simp [hstops, hreply]) fun result => ?_
    cases result with
    | ok _ => exact .assume fun hreply => .pure fun c hc => ⟨by simp [hpass, hreply], hc⟩
    | error error =>
        exact .assume fun hreply => .pure fun c hc => ⟨by simp [hstops, hreply], rfl, .inl rfl⟩

/-- What the transaction of an acquired connection comes to. -/
theorem run_transaction_triple (d : D)
    (hconnects : TargetBehaviour.connects pool grant operationId = true)
    (hacquire : b.acquire = .done) :
    Triple (fun c => c = ⟨d, none⟩)
      (runTransaction b pool statements namespace_ implicit expected)
      (TransactionEnd b implicit expected pool namespace_ statements grant operationId d)
      (fun _ _ => b.commits expected pool statements namespace_ grant operationId = false ∧
        b.rollsBack expected pool statements namespace_ grant operationId = false) := by
  unfold runTransaction
  refine Triple.bind (Q := fun result c => match result with
      | .ok _ => b.begins = .done ∧ c = ⟨d, some d⟩
      | .error error => b.begins = .failed error ∧ c = ⟨d, none⟩)
    (request_triple (fun hreply c hc => ⟨hreply, hc ▸ rfl⟩) (fun error hreply c hc => ⟨hreply, hc⟩)
      fun why hreply c hc => by
        simp [TargetBehaviour.commits, TargetBehaviour.rollsBack, TargetBehaviour.opens,
          TargetBehaviour.staysClosed, hacquire, hreply]) fun begun => ?_
  cases begun with
  | error error =>
      refine .assume fun hbegins => .pure fun c hc => ⟨?_, fun _ => hc⟩
      simp [TargetBehaviour.rollsBack, TargetBehaviour.staysClosed, hconnects, hacquire, hbegins]
  | ok _ =>
  refine .assume fun hbegins => ?_
  have hstays : b.staysClosed = false := by
    unfold TargetBehaviour.staysClosed
    rw [hacquire, hbegins]
  have hnocontext : b.hasContext pool namespace_ = false →
      b.commits expected pool statements namespace_ grant operationId = false ∧
        b.rollsBack expected pool statements namespace_ grant operationId = false := fun h => by
    simp [TargetBehaviour.commits, TargetBehaviour.rollsBack, TargetBehaviour.opens, hstays, h]
  refine Triple.bind ((send_context_triple ⟨d, some d⟩).weaken (fun _ h => h) (fun _ _ h => h)
    fun _ _ h => hnocontext h) fun context => ?_
  cases context with
  | error error =>
      refine .assume fun hcontext => ?_
      refine Triple.bind (Q := fun result c => match result with
          | .ok _ => c = ⟨d, none⟩
          | .error _ => True)
        (request_triple (fun _ c hc => hc ▸ rfl) (fun _ _ _ _ => trivial)
          fun _ _ _ _ => hnocontext hcontext) fun rollback => ?_
      cases rollback with
      | ok _ =>
          exact .pure fun c hc => ⟨hnocontext hcontext, of_driver_not_interrupted error, .inr hc⟩
      | error rollback => exact .pure fun c hc => ⟨hnocontext hcontext, rfl, .inl rfl⟩
  | ok _ =>
      refine .assume fun hcontext => ?_
      have hopens : b.opens pool namespace_ = true := by
        simp [TargetBehaviour.opens, hacquire, hbegins, hcontext]
      exact (finish_transaction_triple d hconnects hopens hstays).weaken
        (fun c hc => hc ▸ ⟨fun _ => ⟨rfl, rfl⟩, rfl⟩) (fun _ _ h => h) fun _ _ h => h

/-- What a script in a transaction of its own comes to. -/
theorem execute_script_transaction_triple (d : D) :
    Triple (fun c => c = ⟨d, none⟩)
      (executeScriptTransaction b pool statements namespace_ implicit expected grant operationId)
      (TransactionEnd b implicit expected pool namespace_ statements grant operationId d)
      (fun _ _ => b.commits expected pool statements namespace_ grant operationId = false ∧
        b.rollsBack expected pool statements namespace_ grant operationId = false) := by
  unfold executeScriptTransaction
  refine .ite (fun hgrant => .pure fun c hc => ?_) fun hgrant => ?_
  · refine ⟨?_, rfl, .inr hc⟩
    simp [TargetBehaviour.commits, TargetBehaviour.rollsBack, TargetBehaviour.connects, hgrant]
  · rw [not_not] at hgrant
    have hacquired (hpool : (pool = .postgres || pool = .mysql || pool = .sqlite) = true) :
        Triple (fun c => c = ⟨d, none⟩)
          (do
            match ← request b.acquire id id with
            | .error error => pure (.ok (beginFailed statements error, false))
            | .ok _ => runTransaction b pool statements namespace_ implicit expected)
          (TransactionEnd b implicit expected pool namespace_ statements grant operationId d)
          (fun _ _ => b.commits expected pool statements namespace_ grant operationId = false ∧
            b.rollsBack expected pool statements namespace_ grant operationId = false) := by
      have hconnects : TargetBehaviour.connects pool grant operationId = true := by
        simpa [TargetBehaviour.connects, hgrant] using hpool
      refine Triple.bind (Q := fun result c => match result with
          | .ok _ => b.acquire = .done ∧ c = ⟨d, none⟩
          | .error error => b.acquire = .failed error ∧ c = ⟨d, none⟩)
        (request_triple (fun hreply c hc => ⟨hreply, hc⟩) (fun error hreply c hc => ⟨hreply, hc⟩)
          fun why hreply c hc => by
            simp [TargetBehaviour.commits, TargetBehaviour.rollsBack, TargetBehaviour.opens,
              TargetBehaviour.staysClosed, hreply]) fun acquired => ?_
      cases acquired with
      | ok _ => exact .assume fun hreply => run_transaction_triple d hconnects hreply
      | error error =>
          refine .assume fun hreply => .pure fun c hc => ⟨?_, fun _ => hc⟩
          simp [TargetBehaviour.rollsBack, TargetBehaviour.staysClosed, hconnects, hreply]
    cases pool with
    | bigquery | cloudflareD1 =>
        refine .pure fun c hc => ⟨?_, rfl, .inr hc⟩
        simp [TargetBehaviour.commits, TargetBehaviour.rollsBack, TargetBehaviour.connects]
    | postgres | mysql | sqlite => exact hacquired rfl

end Dopedb.Scripts
