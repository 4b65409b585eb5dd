import Dopedb.Library.Runs
import Dopedb.Queries.SavepointDiscipline
import Dopedb.Queries.ScriptSession

/-!
# Namespaces in a manual transaction

The execution of a manual transaction over the search path of a PostgreSQL connection. `SET LOCAL
search_path` is transaction state: a rollback to a savepoint restores it and a release keeps it.
A read gives the search path back, a write or a script that completes leaves it where its request
put it, so a later request that names no namespace finds that one. `namespace_isolation` is what
holds of a run in which no request is in that position, and `found_isolated_iff` says that no other
request finds the wrong namespace.
-/

namespace Dopedb.Queries

open Dopedb.Library Command

variable {D : Type}

/-- What a user statement ran under: the namespace its request names and the search path in effect.
`none` is the search path that the connection had at BEGIN. -/
structure Execution where
  named : Option String
  path : Option String
  deriving DecidableEq, Repr

/-- The statement ran under the namespace of its own request. -/
def Execution.Own (execution : Execution) : Prop := execution.path = execution.named

instance (execution : Execution) : Decidable execution.Own := by
  unfold Execution.Own
  infer_instance

/-- The connection as far as namespaces go: the search path with what the savepoints saved of it,
and the user statements that were run. -/
structure PathLink where
  searchPath : Savepoints SavepointName (Option String)
  statementSavepoint : Bool := false
  executed : List Execution := []

namespace PathLink

/-- What an accepted control statement does to the search path. -/
def control (link : PathLink) : ControlStatement → Option PathLink
  | .savepoint name => some { link with searchPath := link.searchPath.save name }
  | .rollbackTo name =>
      (link.searchPath.rollbackTo name).map fun searchPath => { link with searchPath := searchPath }
  | .release name =>
      (link.searchPath.release name).map fun searchPath => { link with searchPath := searchPath }
  | .readOnly | .queryOnly _ => some link

/-- `SET LOCAL search_path`. -/
def choose (link : PathLink) (schema : String) : PathLink :=
  { link with searchPath := { link.searchPath with current := some schema } }

/-- A user statement of a request runs, and may fail. -/
def record (link : PathLink) (named : Option String) : PathLink :=
  { link with executed := link.executed ++ [⟨named, link.searchPath.current⟩] }

end PathLink

section

variable (b : Behaviour D) (named : Option String) (index : Nat)

/-- Send one control statement. -/
def sendPath (statement : ControlStatement) : Command ExecutionError PathLink Unit := fun link =>
  if b.accepts index statement then
    match link.control statement with
    | some link' => (.ok (), link')
    | none => (.error (.db false), link)
  else (.error (.db false), link)

/-- Send `SET LOCAL search_path`. -/
def choosePath (schema : String) : Command ExecutionError PathLink Unit := fun link =>
  if b.setsNamespace then (.ok (), link.choose schema)
  else (.error (.db (b.readOnlyViolation index)), link)

/-- Run a user statement of a request. -/
def runOnPath {α : Type} (value : α) : Command ExecutionError PathLink α := fun link =>
  if b.runs index then (.ok value, link.record named)
  else (.error (.db (b.readOnlyViolation index)), link.record named)

end

/-- The wire to a search path, for the statements of a request. -/
def Behaviour.pathWire (b : Behaviour D) (named : Option String) : Wire PathLink where
  sends := sendPath b
  choosesNamespace := choosePath b
  executes index := runOnPath b named index (b.affected index)
  reads index := runOnPath b named index ()
  statementSavepoint link := link.statementSavepoint
  opened link := { link with statementSavepoint := true }

/-- The namespace that a call names. -/
def Call.schema : Call → Option String
  | .write schema | .read schema | .readStreamed schema | .script schema _ => schema

/-- Where a call that completes leaves the search path. -/
def Call.leaves (path : Option String) : Call → Option String
  | .write schema | .script schema _ => schema <|> path
  | .read _ | .readStreamed _ => path

/-- The work of a request over the search path. -/
def Request.pathWork (request : Request D) : Command StatementError PathLink Unit :=
  request.call.work (request.behaviour.pathWire request.call.schema) .postgres

/-! ## Rules -/

variable {b : Behaviour D} {named : Option String} {index : Nat} {L : List Execution → Prop}

/-- The search path of a link over some open savepoints. -/
def pathAt (L : List Execution → Prop) (opened : List (SavepointName × Option String))
    (flag : Bool) (path : Option String) (link : PathLink) : Prop :=
  link.searchPath = ⟨path, opened⟩ ∧ link.statementSavepoint = flag ∧ L link.executed

/-- The savepoints that stay open between calls. -/
def pathBetween (flag : Bool) (path : Option String) : List (SavepointName × Option String) :=
  if flag then [(.statement, path)] else []

/-- A link between calls. -/
def PathSettled (L : List Execution → Prop) (path : Option String) (link : PathLink) : Prop :=
  ∃ flag path₀, pathAt L (pathBetween flag path₀) flag path link

/-- A link inside a script, with at most read scopes open above it. -/
def insidePath (L : List Execution → Prop) (opened : List (SavepointName × Option String))
    (flag : Bool) (link : PathLink) : Prop :=
  (∃ later, link.searchPath.saved = later ++ opened ∧ ∀ entry ∈ later, entry.1 = .read) ∧
    link.statementSavepoint = flag ∧ L link.executed

/-- The log takes another statement of the request. -/
def Logs (named path : Option String) (L : List Execution → Prop) : Prop :=
  ∀ executed, L executed → L (executed ++ [⟨named, path⟩])

/-- Outside every scope is inside the script. -/
theorem inside_of_path_at {opened : List (SavepointName × Option String)} {flag : Bool}
    {path : Option String} {link : PathLink} (h : pathAt L opened flag path link) :
    insidePath L opened flag link := by
  obtain ⟨hpath, hflag, hlog⟩ := h
  refine ⟨⟨[], ?_, List.forall_mem_nil _⟩, hflag, hlog⟩
  rw [hpath]
  rfl

/-- A read scope is inside the script. -/
theorem inside_of_read_scope {opened : List (SavepointName × Option String)} {flag : Bool}
    {path saved : Option String} {link : PathLink}
    (h : pathAt L ((.read, saved) :: opened) flag path link) : insidePath L opened flag link := by
  obtain ⟨hpath, hflag, hlog⟩ := h
  refine ⟨⟨[(.read, saved)], ?_, by simp⟩, hflag, hlog⟩
  rw [hpath]
  rfl

/-- A control statement does what it says when it is accepted, and nothing when it is refused. -/
theorem sends_path {P Q R : PathLink → Prop} {statement : ControlStatement}
    (hok : ∀ link, P link → ∃ link', link.control statement = some link' ∧ Q link')
    (herror : ∀ link, P link → R link) :
    Triple P ((b.pathWire named).sends index statement) (fun _ => Q) (fun _ => R) := by
  show Triple P (sendPath b index statement) (fun _ => Q) (fun _ => R)
  intro link hlink
  obtain ⟨link', hcontrol, hQ⟩ := hok link hlink
  unfold sendPath
  rw [hcontrol]
  cases b.accepts index statement with
  | true => exact hQ
  | false => exact herror link hlink

section

variable {opened : List (SavepointName × Option String)} {flag : Bool} {path : Option String}
  {R : PathLink → Prop}

/-- `SAVEPOINT`. -/
theorem sends_savepoint {name : SavepointName}
    (herror : ∀ link, pathAt L opened flag path link → R link) :
    Triple (pathAt L opened flag path) ((b.pathWire named).sends index (.savepoint name))
      (fun _ => pathAt L ((name, path) :: opened) flag path) (fun _ => R) := by
  refine sends_path (fun link h => ?_) herror
  obtain ⟨hpath, hflag, hlog⟩ := h
  refine ⟨_, rfl, ?_, hflag, hlog⟩
  show link.searchPath.save name = _
  rw [hpath]
  rfl

/-- `ROLLBACK TO SAVEPOINT` to the newest savepoint. -/
theorem sends_rollback {name : SavepointName} {saved : Option String}
    (herror : ∀ link, pathAt L ((name, saved) :: opened) flag path link → R link) :
    Triple (pathAt L ((name, saved) :: opened) flag path)
      ((b.pathWire named).sends index (.rollbackTo name))
      (fun _ => pathAt L ((name, saved) :: opened) flag saved) (fun _ => R) := by
  refine sends_path (fun link h => ?_) herror
  obtain ⟨hpath, hflag, hlog⟩ := h
  refine ⟨{ link with searchPath := ⟨saved, (name, saved) :: opened⟩ }, ?_, rfl, hflag, hlog⟩
  show Option.map _ (link.searchPath.rollbackTo name) = _
  rw [hpath, Savepoints.rollback_to_cons]
  rfl

/-- `RELEASE SAVEPOINT` of the newest savepoint. -/
theorem sends_release {name : SavepointName} {saved : Option String}
    (herror : ∀ link, pathAt L ((name, saved) :: opened) flag path link → R link) :
    Triple (pathAt L ((name, saved) :: opened) flag path)
      ((b.pathWire named).sends index (.release name))
      (fun _ => pathAt L opened flag path) (fun _ => R) := by
  refine sends_path (fun link h => ?_) herror
  obtain ⟨hpath, hflag, hlog⟩ := h
  refine ⟨{ link with searchPath := ⟨path, opened⟩ }, ?_, rfl, hflag, hlog⟩
  show Option.map _ (link.searchPath.release name) = _
  rw [hpath, Savepoints.release_cons]
  rfl

/-- Choosing the schema puts the search path where the request says, or fails. -/
theorem set_namespace_path (schema : Option String)
    (herror : ∀ link, pathAt L opened flag path link → R link) :
    Triple (pathAt L opened flag path) (setNamespace (b.pathWire named) .postgres index schema)
      (fun _ => pathAt L opened flag (schema <|> path)) (fun _ => R) := by
  cases schema with
  | none => exact .pure fun _ h => h
  | some schema =>
      show Triple (pathAt L opened flag path) (choosePath b index schema)
        (fun _ => pathAt L opened flag (some schema)) (fun _ => R)
      intro link h
      obtain ⟨hpath, hflag, hlog⟩ := h
      unfold choosePath
      cases b.setsNamespace with
      | true =>
          refine ⟨?_, hflag, hlog⟩
          show { link.searchPath with current := some schema } = _
          rw [hpath]
      | false => exact herror link ⟨hpath, hflag, hlog⟩

/-- A user statement leaves the search path alone. -/
theorem record_path (hlogs : Logs named path L) {link : PathLink}
    (h : pathAt L opened flag path link) : pathAt L opened flag path (link.record named) := by
  obtain ⟨hpath, hflag, hlog⟩ := h
  refine ⟨hpath, hflag, ?_⟩
  show L (link.executed ++ [⟨named, link.searchPath.current⟩])
  rw [hpath]
  exact hlogs link.executed hlog

/-- A user statement runs under the search path, whether or not it succeeds. -/
theorem run_on_path {α : Type} (hlogs : Logs named path L) (value : α) :
    Triple (pathAt L opened flag path) (runOnPath b named index value)
      (fun _ => pathAt L opened flag path) (fun _ => pathAt L opened flag path) := by
  intro link h
  unfold runOnPath
  cases b.runs index with
  | true => exact record_path hlogs h
  | false => exact record_path hlogs h

/-- Entering a read scope saves the search path. -/
theorem enter_read_scope_path :
    Triple (pathAt L opened flag path) (enterReadScope (b.pathWire named) .postgres index)
      (fun _ => pathAt L ((.read, path) :: opened) flag path)
      (fun _ => insidePath L opened flag) := by
  refine control_cons_triple (sends_savepoint fun link h => inside_of_path_at h)
    (control_singleton_triple (sends_path (fun link h => ?_) fun link h => ?_))
  · exact ⟨link, rfl, h⟩
  · exact inside_of_read_scope h

/-- Leaving a read scope brings the search path back. -/
theorem exit_read_scope_path {saved : Option String} :
    Triple (pathAt L ((.read, saved) :: opened) flag path)
      (exitReadScope (b.pathWire named) .postgres index)
      (fun _ => pathAt L opened flag saved) (fun _ => insidePath L opened flag) :=
  control_cons_triple (sends_rollback fun _ h => inside_of_read_scope h)
    (control_singleton_triple (sends_release fun _ h => inside_of_read_scope h))

/-- The statements of a script run under the search path and leave it alone. -/
theorem run_statements_path (hlogs : Logs named path L) (script : ManualScript)
    (statements : List String) (index : Nat) :
    Triple (pathAt L opened flag path)
      (runStatements (b.pathWire named) .postgres script index statements)
      (fun _ => pathAt L opened flag path) (fun _ => insidePath L opened flag) := by
  induction statements generalizing index with
  | nil => exact .pure fun _ h => h
  | cons statement statements ih =>
      unfold runStatements
      refine .ite (fun hread => ?_) fun hwrite => ?_
      · refine Triple.bind enter_read_scope_path fun _ => ?_
        refine (run_on_path hlogs ()).attempt.bind fun read => ?_
        refine Triple.bind (Q := fun _ => pathAt L opened flag path) ?_ fun _ => ?_
        · cases read with
          | ok value => exact exit_read_scope_path
          | error error => exact exit_read_scope_path
        · exact Triple.bind (Q := fun _ => pathAt L opened flag path)
            (.ofExcept (fun _ _ _ h => h) fun _ _ _ h => inside_of_path_at h) fun _ =>
            (ih (index + 1)).bind fun _ => .pure fun _ h => h
      · refine Triple.bind ((run_on_path hlogs _).weaken (fun _ h => h) (fun _ _ h => h)
          fun _ _ h => inside_of_path_at h) fun affected => ?_
        refine .ite (fun _ => .throw fun _ h => inside_of_path_at h) fun _ => ?_
        exact (ih (index + 1)).bind fun _ => .pure fun _ h => h

end

/-- How a call ends: the search path is as before, or the transaction is poisoned. -/
def PathRestored (L : List Execution → Prop) (path : Option String) (e : StatementError)
    (link : PathLink) : Prop :=
  L link.executed ∧ ∀ error, e = .rolledBack error → PathSettled L path link

/-- A poisoned transaction restores nothing. -/
theorem restored_poisoned {path : Option String} {error : ExecutionError} {link : PathLink}
    (h : L link.executed) : PathRestored L path (.poisoned error) link :=
  ⟨h, fun _ heq => nomatch heq⟩

/-- A settled link is restored. -/
theorem restored_settled {path : Option String} {e : StatementError} {link : PathLink}
    (h : PathSettled L path link) : PathRestored L path e link := by
  obtain ⟨flag, path₀, hpath, hflag, hlog⟩ := h
  exact ⟨hlog, fun _ _ => ⟨flag, path₀, hpath, hflag, hlog⟩⟩

/-- Opening a write's savepoint saves the search path. -/
theorem open_statement_savepoint_path {path : Option String} :
    Triple (PathSettled L path) (openStatementSavepoint (b.pathWire named) index)
      (fun _ => pathAt L [(.statement, path)] true path) (fun _ link => L link.executed) := by
  refine Triple.exists fun flag => Triple.exists fun path₀ => ?_
  refine Triple.bind (Q := fun read link => read.statementSavepoint = flag ∧
    pathAt L (pathBetween flag path₀) flag path link)
    (.get fun link h => ⟨h.2.1, h⟩) fun read => .assume fun hflag => ?_
  refine .ite (fun hopen => ?_) fun hclosed => ?_
  · obtain rfl : flag = true := hflag ▸ hopen
    exact control_cons_triple (sends_release fun _ h => h.2.2)
      (control_singleton_triple (sends_savepoint fun _ h => h.2.2))
  · obtain rfl : flag = false := hflag ▸ Bool.eq_false_iff.mpr hclosed
    refine Triple.bind (Q := fun _ => pathAt L [(.statement, path)] false path)
      (control_singleton_triple (sends_savepoint fun _ h => h.2.2)) fun _ => ?_
    exact .modify fun link h => ⟨h.1, rfl, h.2.2⟩

/-- A write leaves the search path where its request put it, or brings it back, or poisons the
transaction. -/
theorem write_statement_path {path : Option String} (schema : Option String)
    (hlogs : Logs named (schema <|> path) L) :
    Triple (PathSettled L path) (writeStatement (b.pathWire named) .postgres index schema)
      (fun _ => PathSettled L (schema <|> path)) (PathRestored L path) := by
  refine Triple.bind (.mapError (open_statement_savepoint_path.weaken (fun _ h => h)
    (fun _ _ h => h) fun _ _ h => restored_poisoned h)) fun _ => ?_
  have hbody : Triple (pathAt L [(.statement, path)] true path)
      (do setNamespace (b.pathWire named) .postgres index schema; (b.pathWire named).executes index)
      (fun _ => pathAt L [(.statement, path)] true (schema <|> path))
      (fun _ link => ∃ found, pathAt L [(.statement, path)] true found link) :=
    (set_namespace_path schema fun _ h => ⟨path, h⟩).bind fun _ =>
      (run_on_path hlogs _).weaken (fun _ h => h) (fun _ _ h => h) fun _ _ h => ⟨_, h⟩
  refine hbody.attempt.bind fun outcome => ?_
  cases outcome with
  | ok affected => exact .pure fun link h => ⟨true, path, h⟩
  | error error =>
      refine Triple.exists fun found => ?_
      have hcontrol : Triple (pathAt L [(.statement, path)] true found)
          (control (b.pathWire named) index [.rollbackTo .statement])
          (fun _ => pathAt L [(.statement, path)] true path) (fun _ link => L link.executed) :=
        control_singleton_triple (sends_rollback fun _ h => h.2.2)
      refine hcontrol.attempt.bind fun outcome => ?_
      cases outcome with
      | ok => exact .throw fun link h => restored_settled ⟨true, path, h⟩
      | error => exact .throw fun link h => restored_poisoned h

/-- A read gives the search path back, or poisons the transaction. -/
theorem read_statement_path {path : Option String} (schema : Option String)
    (hlogs : Logs named (schema <|> path) L) :
    Triple (PathSettled L path) (readStatement (b.pathWire named) .postgres index schema)
      (fun _ => PathSettled L path) (PathRestored L path) := by
  refine Triple.exists fun flag => Triple.exists fun path₀ => ?_
  refine Triple.bind (.mapError (enter_read_scope_path.weaken (fun _ h => h)
    (fun _ _ h => h) fun _ _ h => restored_poisoned h.2.2)) fun _ => ?_
  have hbody : Triple (pathAt L ((.read, path) :: pathBetween flag path₀) flag path)
      (do setNamespace (b.pathWire named) .postgres index schema; (b.pathWire named).reads index)
      (fun _ link => ∃ found, pathAt L ((.read, path) :: pathBetween flag path₀) flag found link)
      (fun _ link => ∃ found, pathAt L ((.read, path) :: pathBetween flag path₀) flag found link) :=
    (set_namespace_path schema fun _ h => ⟨path, h⟩).bind fun _ =>
      (run_on_path hlogs ()).weaken (fun _ h => h) (fun _ _ h => ⟨_, h⟩) fun _ _ h => ⟨_, h⟩
  refine hbody.attempt.bind fun outcome => ?_
  have hleave : Triple
      (fun link => ∃ found, pathAt L ((.read, path) :: pathBetween flag path₀) flag found link)
      (exitReadScope (b.pathWire named) .postgres index)
      (fun _ => PathSettled L path) (fun _ link => L link.executed) :=
    Triple.exists fun found => exit_read_scope_path.weaken (fun _ h => h)
      (fun _ _ h => ⟨flag, path₀, h⟩) fun _ _ h => h.2.2
  cases outcome with
  | ok value =>
      refine hleave.attempt.bind fun left => ?_
      cases left with
      | ok => exact .pure fun _ h => h
      | error error => exact .throw fun _ h => restored_poisoned h
  | error error =>
      refine hleave.attempt.bind fun left => ?_
      cases left with
      | ok => exact .throw fun _ h => restored_settled h
      | error error' => exact .throw fun _ h => restored_poisoned h

/-- The rollback to the script's savepoint brings the search path back from inside the script. -/
theorem rollback_script_path {opened : List (SavepointName × Option String)} {flag : Bool}
    {path : Option String} :
    Triple (insidePath L ((.script, path) :: opened) flag)
      (control (b.pathWire named) 0 [.rollbackTo .script, .release .script])
      (fun _ => pathAt L opened flag path) (fun _ link => L link.executed) := by
  refine control_cons_triple (R := pathAt L ((.script, path) :: opened) flag path)
    (sends_path (fun link h => ?_) fun _ h => h.2.2)
    (control_singleton_triple (sends_release fun _ h => h.2.2))
  obtain ⟨⟨later, hsaved, hreads⟩, hflag, hlog⟩ := h
  have hother : ∀ entry ∈ later, entry.1 ≠ SavepointName.script := fun entry hentry => by
    rw [hreads entry hentry]
    exact nofun
  have hrollback :=
    Savepoints.rollback_to_append hother link.searchPath.current path opened
  rw [← hsaved] at hrollback
  refine ⟨{ link with searchPath := ⟨path, (.script, path) :: opened⟩ }, ?_, rfl, hflag, hlog⟩
  show Option.map _ (link.searchPath.rollbackTo .script) = _
  rw [show link.searchPath.rollbackTo .script = _ from hrollback]
  rfl

/-- A script leaves the search path where its request put it, or brings it back, or poisons the
transaction. -/
theorem script_statements_path {path : Option String} (schema : Option String)
    (script : ManualScript) (hlogs : Logs named (schema <|> path) L) :
    Triple (PathSettled L path) (scriptStatements (b.pathWire named) .postgres schema script)
      (fun _ => PathSettled L (schema <|> path)) (PathRestored L path) := by
  refine Triple.exists fun flag => Triple.exists fun path₀ => ?_
  refine Triple.bind (Q := fun _ => pathAt L ((.script, path) :: pathBetween flag path₀) flag path)
    (.mapError ((control_singleton_triple (sends_savepoint fun _ h => h.2.2)).weaken (fun _ h => h)
      (fun _ _ h => h) fun _ _ h => restored_poisoned h)) fun _ => ?_
  have hbody : Triple (pathAt L ((.script, path) :: pathBetween flag path₀) flag path)
      (do
        setNamespace (b.pathWire named) .postgres 0 schema
        runStatements (b.pathWire named) .postgres script 0 script.statements)
      (fun _ => pathAt L ((.script, path) :: pathBetween flag path₀) flag (schema <|> path))
      (fun _ => insidePath L ((.script, path) :: pathBetween flag path₀) flag) :=
    (set_namespace_path schema fun _ h => inside_of_path_at h).bind fun _ =>
      run_statements_path hlogs script script.statements 0
  refine hbody.attempt.bind fun outcome => ?_
  cases outcome with
  | ok statements =>
      have hrelease : Triple
          (pathAt L ((.script, path) :: pathBetween flag path₀) flag (schema <|> path))
          (control (b.pathWire named) 0 [.release .script])
          (fun _ => pathAt L (pathBetween flag path₀) flag (schema <|> path))
          (fun _ link => L link.executed) :=
        control_singleton_triple (sends_release fun _ h => h.2.2)
      refine hrelease.attempt.bind fun released => ?_
      cases released with
      | ok => exact .pure fun link h => ⟨flag, path₀, h⟩
      | error => exact .throw fun link h => restored_poisoned h
  | error error =>
      refine rollback_script_path.attempt.bind fun restored => ?_
      cases restored with
      | ok => exact .throw fun link h => restored_settled ⟨flag, path₀, h⟩
      | error => exact .throw fun link h => restored_poisoned h

/-! ## Runs -/

/-- A call runs its statements under the namespace that it names, or under the search path that it
finds. -/
theorem work_path (request : Request D) {path : Option String}
    (hlogs : Logs request.call.schema (request.call.schema <|> path) L) :
    Triple (PathSettled L path) request.pathWork
      (fun _ => PathSettled L (request.call.leaves path)) (PathRestored L path) := by
  obtain ⟨call, behaviour, queued, expired, abandoned⟩ := request
  cases call with
  | write schema => exact (write_statement_path schema hlogs).bind fun _ => .pure fun _ h => h
  | read schema => exact read_statement_path schema hlogs
  | readStreamed schema => exact read_statement_path schema hlogs
  | script schema body =>
      exact (script_statements_path schema body hlogs).bind fun _ => .pure fun _ h => h

/-- The user statements that the work of a request runs on a link. -/
def Request.executions (request : Request D) (link : PathLink) : List Execution :=
  (request.pathWork { link with executed := [] }).2.executed

/-- Every statement of a request runs under what the request names, or else under what it finds. -/
theorem executions_eq (request : Request D) {path : Option String} {link : PathLink}
    (h : PathSettled (fun _ => True) path link) :
    ∀ execution ∈ request.executions link,
      execution = ⟨request.call.schema, request.call.schema <|> path⟩ := by
  have hwork := work_path (L := fun executed => ∀ execution ∈ executed,
    execution = ⟨request.call.schema, request.call.schema <|> path⟩) request
    (fun executed hall => List.forall_mem_append.mpr ⟨hall, List.forall_mem_singleton.mpr rfl⟩)
  obtain ⟨flag, path₀, hpath, hflag, -⟩ := h
  have hlog := hwork { link with executed := [] }
    ⟨flag, path₀, hpath, hflag, List.forall_mem_nil _⟩
  unfold Request.executions
  split at hlog
  · next heq =>
      obtain ⟨flag', path', -, -, hall⟩ := hlog
      rw [heq]
      exact hall
  · next heq =>
      rw [heq]
      exact hlog.1

/-- A transaction: its session, the user statements that its calls ran, and whether a write or a
script that named a namespace has completed. -/
structure PathTransaction where
  session : ManualSession PathLink
  executed : List Execution := []
  kept : Bool := false

namespace PathTransaction

/-- A transaction after BEGIN. -/
def begin (database : String) : PathTransaction :=
  { session := { database := database, link := some { searchPath := ⟨none, []⟩ } } }

/-- The user statements that a call runs. One that is abandoned runs the first of them. -/
def found (t : PathTransaction) (request : Request D) : List Execution :=
  match request.queued, t.session.admits request.expired, t.session.link with
  | none, none, some link => request.executions link
  | _, _, _ => []

/-- The session after a call, and its answer. -/
def answer (t : PathTransaction) (request : Request D) :
    ManualSession PathLink × Except (SessionFailure ExecutionError) Unit :=
  executeWork request.pathWork request.call.statements t.session
    ⟨request.queued, request.expired, request.abandoned⟩

/-- A transaction after a call. -/
def call (t : PathTransaction) (request : Request D) : PathTransaction where
  session := (t.answer request).1
  executed := t.executed ++ t.found request
  kept := t.kept || ((t.answer request).2.isOk && (request.call.leaves none).isSome)

/-- The request names a namespace, unless no write or script that named one has completed. -/
def Names (t : PathTransaction) (request : Request D) : Prop :=
  t.kept = true → request.call.schema.isSome = true

instance (t : PathTransaction) (request : Request D) : Decidable (t.Names request) := by
  unfold Names
  infer_instance

/-- The link of a session that is neither failed nor ended is settled, and the search path is the
one at BEGIN until a write or a script that names a namespace completes. -/
def Tracked (t : PathTransaction) : Prop :=
  ∀ link, t.session.link = some link → t.session.info.failed = false →
    ∃ path, PathSettled (fun _ => True) path link ∧ path.isSome = t.kept

/-- A new transaction has the search path at BEGIN. -/
theorem begin_tracked (database : String) : (begin database).Tracked := by
  intro link hlink _
  obtain rfl := Option.some.inj hlink
  exact ⟨none, ⟨false, none, rfl, rfl, trivial⟩, rfl⟩

/-- A call that completes leaves a namespace when it names one or finds one. -/
theorem leaves_is_some (call : Call) (path : Option String) :
    (call.leaves path).isSome = (path.isSome || (call.leaves none).isSome) := by
  cases call with
  | write schema => cases schema <;> cases path <;> rfl
  | read schema => cases path <;> rfl
  | readStreamed schema => cases path <;> rfl
  | script schema body => cases schema <;> cases path <;> rfl

/-- A transaction whose session is as before, after a call that did not complete. -/
theorem tracked_of_refused {t : PathTransaction} (htracked : t.Tracked)
    (executed : List Execution) (named : Bool) :
    Tracked ⟨t.session, executed, t.kept || (false && named)⟩ := by
  intro link hlink hactive
  obtain ⟨path, hsettled, hkept⟩ := htracked link hlink hactive
  exact ⟨path, hsettled, hkept.trans (Bool.or_false _).symm⟩

/-- A call keeps track of the search path. -/
theorem call_tracked {t : PathTransaction} (htracked : t.Tracked) (request : Request D) :
    (t.call request).Tracked := by
  unfold call answer executeWork
  cases request.queued with
  | some why => exact tracked_of_refused htracked _ _
  | none =>
    cases hadmits : t.session.admits request.expired with
    | some refusal => exact tracked_of_refused htracked _ _
    | none =>
      obtain ⟨hactive, link, hlink⟩ := ManualSession.active_of_admits hadmits
      rw [hlink]
      cases request.abandoned with
      | some why => exact fun _ h => absurd h (Option.some_ne_none _).symm
      | none =>
          obtain ⟨path, hsettled, hkept⟩ := htracked link hlink hactive
          have hwork := work_path (L := fun _ => True) request (fun _ _ => trivial) link hsettled
          simp only
          split at hwork
          · next value link' heq =>
              rw [heq]
              simp only [ManualSession.concluded, hlink, Option.map_some]
              intro _ hlink' _
              obtain rfl := Option.some.inj hlink'
              refine ⟨request.call.leaves path, hwork, ?_⟩
              rw [leaves_is_some, hkept]
              rfl
          · next e link' heq =>
              rw [heq]
              cases e with
              | rolledBack error =>
                  simp only [ManualSession.concluded, hlink, Option.map_some]
                  intro _ hlink' _
                  obtain rfl := Option.some.inj hlink'
                  exact ⟨path, hwork.2 error rfl, hkept.trans (Bool.or_false _).symm⟩
              | poisoned error =>
                  intro _ _ h
                  cases h

/-- The statements of a call run under the namespace of the call exactly when it runs none, or
names one, or nothing before it has left one behind. -/
theorem found_isolated_iff {t : PathTransaction} (htracked : t.Tracked) (request : Request D) :
    (∀ execution ∈ t.found request, execution.Own) ↔
      t.found request = [] ∨ t.Names request := by
  unfold found
  split
  · next link hqueued hadmits hlink =>
      obtain ⟨hactive, -⟩ := ManualSession.active_of_admits hadmits
      obtain ⟨path, hsettled, hkept⟩ := htracked link hlink hactive
      have hall := executions_eq request hsettled
      have hown : ∀ execution ∈ request.executions link,
          execution.Own ↔ t.Names request := by
        intro execution hexecution
        rw [hall execution hexecution]
        unfold Execution.Own Names
        rw [← hkept]
        cases request.call.schema <;> cases path <;> simp
      constructor
      · intro h
        cases hfound : request.executions link with
        | nil => exact .inl rfl
        | cons execution rest =>
            have hmem : execution ∈ request.executions link := hfound ▸ List.mem_cons_self
            exact .inr ((hown execution hmem).mp (h execution hmem))
      · intro h execution hexecution
        cases h with
        | inl hnone => rw [hnone] at hexecution; cases hexecution
        | inr hnames => exact (hown execution hexecution).mpr hnames
  · exact ⟨fun _ => .inl rfl, fun _ _ h => nomatch h⟩

/-- In every run of calls that name a namespace once a write or a script that named one has
completed, every user statement runs under the namespace of its own request, or under the search
path at BEGIN when the request names none. -/
theorem namespace_isolation (database : String) {requests : List (Request D)}
    (h : EachCall call Names (begin database) requests) :
    ∀ execution ∈ (run call (begin database) requests).executed, execution.Own := by
  have hinvariant := run_invariant_of
    (P := fun t : PathTransaction => t.Tracked ∧ ∀ execution ∈ t.executed, execution.Own)
    ⟨begin_tracked database, List.forall_mem_nil _⟩
    (fun t request hkept hnames => ⟨call_tracked hkept.1 request, List.forall_mem_append.mpr
      ⟨hkept.2, (found_isolated_iff hkept.1 request).mpr (.inr hnames)⟩⟩) h
  exact hinvariant.2

/-- A write in a named schema, a read of it, and a write in another one. -/
def qualified : List (Request Nat) :=
  [⟨.write (some "sales"), obliging, none, false, none⟩,
    ⟨.read (some "sales"), obliging, none, false, none⟩,
    ⟨.write (some "archive"), obliging, none, false, none⟩]

theorem qualified_isolated :
    (run call (begin "main") qualified).executed ≠ [] ∧
      ∀ execution ∈ (run call (begin "main") qualified).executed, execution.Own :=
  ⟨by decide, namespace_isolation "main" (by decide)⟩

/-- A write that names no namespace lands in the one of an earlier write. -/
theorem namespace_inherited :
    ¬ ∀ requests : List (Request Nat),
      ∀ execution ∈ (run call (begin "main") requests).executed, execution.Own := by
  intro h
  have hown := h [⟨.write (some "sales"), obliging, none, false, none⟩,
    ⟨.write none, obliging, none, false, none⟩] ⟨none, some "sales"⟩ (by decide)
  exact absurd hown (by decide)

end PathTransaction

end Dopedb.Queries
