import Dopedb.Desktop.ResultView

/-!
# The runs of a SQL result view

`features/queries/useSqlResultStream.ts` as a machine. A step is one stretch of the hook between
two awaits, one commit of React, or an answer from outside. A start and a reset first wait until
the old run is invalidated and then take the view with a run of their own; from there on the place
where the call stands is part of the record of its run. Performance marks are left out.
-/

namespace Dopedb.Desktop

/-- How the promise of a commit stands; it is resolved by the commit of a state of some run. -/
inductive CommitAnswer where
  | waiting
  | resolved (shownRun : Nat)
  | rejected
  deriving DecidableEq, Repr

/-- A commit that a run waits for. -/
structure PendingCommit where
  run : Nat
  answer : CommitAnswer := .waiting

/-- Where the start or the reset that took a run stands. A thrown value carries the message of an
`Error`. -/
inductive CallPoint where
  | untaken
  | connecting (commit : Nat)
  | streaming
  | dropping
  | finishing (commit : Nat)
  | failing (commit : Nat) (error : Option String)
  | resetting (commit : Nat)
  | returned
  | threw (error : Option String)

/-- Where the cancel that keeps the rows of a run stands. -/
inductive CancelPoint where
  | absent | cancelling | reading | done
  deriving DecidableEq

/-- A run, with its controller: `handed` says that the factory has the callback of the run,
`created` that it returned a controller, and `cancels` counts the calls of its `cancel`. -/
structure StreamRun where
  active : Bool := true
  controller : Bool := false
  invalidated : Bool := false
  call : CallPoint := .untaken
  handed : Bool := false
  created : Bool := false
  cancels : Nat := 0
  completion : Option (Except (Option String) SqlStreamReceipt) := none
  cancel : CancelPoint := .absent
  accepted : List SqlStreamBatch := []

/-- The hook: its references, the states that React has not committed yet, the state it shows, the
calls that wait for an invalidation, the runs by their id and the promises of commits. -/
structure ResultStream where
  mounted : Bool := true
  stateRef : SqlStreamViewState := emptySqlStreamView 0
  queued : List SqlStreamViewState := []
  shown : SqlStreamViewState := emptySqlStreamView 0
  activeRun : Option Nat := none
  nextRunId : Nat := 0
  starting : Nat := 0
  resetting : Nat := 0
  runs : Nat → StreamRun := fun _ => {}
  commits : List PendingCommit := []

/-- The message of a stale run. -/
def staleRun : String := "SQL stream run is no longer active"

namespace ResultStream

/-- The run holds the view. -/
def owns (s : ResultStream) (run : Nat) : Bool :=
  s.mounted && (s.runs run).active && s.activeRun = some run

/-- Change the record of a run. -/
def setRun (s : ResultStream) (run : Nat) (change : StreamRun → StreamRun) : ResultStream :=
  { s with runs := fun id => if id = run then change (s.runs id) else s.runs id }

/-- Set the state of the view. -/
def setStream (s : ResultStream) (next : SqlStreamViewState) : ResultStream :=
  { s with stateRef := next, queued := s.queued ++ [next] }

/-- Answer the commits that a run waits for. -/
def settlePending (s : ResultStream) (run : Nat) (answer : CommitAnswer) : ResultStream :=
  { s with commits := s.commits.map fun pending =>
      if pending.run = run ∧ pending.answer = .waiting then { pending with answer } else pending }

/-- The layout effect of one React commit. -/
def layoutEffect (s : ResultStream) : ResultStream :=
  match s.activeRun with
  | some run =>
      if s.shown.runId = run && s.owns run then s.settlePending run (.resolved s.shown.runId) else s
  | none => s

/-- A commit of React shows one of the states that are set and forgets the earlier ones. -/
def react (s : ResultStream) (index : Nat) : ResultStream :=
  match s.queued[index]? with
  | some next =>
      if s.mounted then
        ({ s with shown := next, queued := s.queued.drop (index + 1) } : ResultStream).layoutEffect
      else s
  | none => s

/-- Set a state for a run; its promise is the last of the commits. React commits nothing for a
state that is the same object as before. -/
def commit (s : ResultStream) (run : Nat) (next : SqlStreamViewState) (changed : Bool) :
    ResultStream :=
  if s.owns run then
    let s := if changed then s.setStream next else s
    { s with commits := s.commits ++ [{ run }] }
  else { s with commits := s.commits ++ [{ run, answer := .rejected }] }

/-- Whether an invalidation keeps the rows that the view of the run has. -/
def keepsRows (s : ResultStream) (run : Nat) (keepRows : Bool) : Bool :=
  s.stateRef.runId = run && s.stateRef.isOpen && keepRows && 0 < s.stateRef.rowCount

/-- The view of a cancelled run. -/
def cancelledView (current : SqlStreamViewState) (keeps : Bool) : SqlStreamViewState :=
  if keeps then { current with phase := .cancelled }
  else { current with phase := .cancelled, rowSource := emptySqlStreamRows, rowCount := 0 }

/-- The record of a run that is invalidated and whose controller is cancelled. -/
def invalidatedRun (keeps : Bool) (record : StreamRun) : StreamRun :=
  { record with
    active := false
    invalidated := true
    controller := false
    cancels := if record.controller then record.cancels + 1 else record.cancels
    cancel := if keeps && record.controller then .cancelling else record.cancel }

/-- Nobody holds the view in place of the run, and its commits are rejected. -/
def release (s : ResultStream) (run : Nat) : ResultStream :=
  { s with activeRun := if s.activeRun = some run then none else s.activeRun }.settlePending run
    .rejected

/-- The first stretch of an invalidation. -/
def invalidate (s : ResultStream) (run : Option Nat) (keepRows : Bool) : ResultStream :=
  match run with
  | none => s
  | some run =>
      if (s.runs run).active then
        let released := (s.setRun run (invalidatedRun (s.keepsRows run keepRows))).release run
        if s.stateRef.runId = run && s.stateRef.isOpen then
          released.setStream (cancelledView s.stateRef (s.keepsRows run keepRows))
        else released
      else s

/-- The call that took a run goes to another place. -/
def setCall (s : ResultStream) (run : Nat) (call : CallPoint) : ResultStream :=
  s.setRun run fun record => { record with call }

/-- The call that took a run commits a state and waits for the promise. -/
def awaitCommit (s : ResultStream) (run : Nat) (next : SqlStreamViewState) (changed : Bool)
    (call : Nat → CallPoint) : ResultStream :=
  (s.commit run next changed).setCall run (call s.commits.length)

/-- A start ends, through its `finally`. -/
def endStart (s : ResultStream) (run : Nat) (call : CallPoint) : ResultStream :=
  let s := s.setCall run call
  if s.activeRun = some run then
    (s.setRun run fun record => { record with controller := false, active := false }).release run
  else s

/-- The view of a run that failed. -/
def failedView (current : SqlStreamViewState) (error : Option String) : SqlStreamViewState :=
  { current with
    phase := if current.operationId.any fun operationId => !operationId.isEmpty then .outcomeUnknown
      else .error
    error := some (error.getD "stream operation failed") }

/-- A start catches an error. -/
def caught (s : ResultStream) (run : Nat) (error : Option String) : ResultStream :=
  if !s.owns run then s.endStart run (if s.mounted then .returned else .threw error)
  else if s.stateRef.phase = .cancelled then s.endStart run .returned
  else s.awaitCommit run (failedView s.stateRef error) true fun commit => .failing commit error

end ResultStream

open ResultStream

/-- What a factory does: it throws, or it returns a controller, after it may have called the
`cancel` of the hook. -/
inductive FactoryAnswer where
  | throws (error : Option String)
  | returns (interrupts : Bool)

/-- What a stretch reads from outside: the factory, the clock, and which promise of the race
settled first. -/
structure Outside where
  factory : FactoryAnswer := .returns false
  clientTotalMs : Nat := 0
  invalidatedFirst : Bool := false

namespace ResultStream

/-- A start that is connected calls its factory. -/
def create (s : ResultStream) (run : Nat) (factory : FactoryAnswer) : ResultStream :=
  let s := s.setRun run fun record => { record with handed := true }
  match factory with
  | .throws error => s.caught run error
  | .returns interrupts =>
      let s := if interrupts then s.invalidate s.activeRun true else s
      if s.owns run then
        s.setRun run fun record =>
          { record with created := true, controller := true, call := .streaming }
      else
        s.setRun run fun record =>
          { record with created := true, cancels := record.cancels + 1, call := .dropping }

/-- A start takes the view. -/
def startTakes (s : ResultStream) : ResultStream :=
  let run := s.nextRunId + 1
  let s : ResultStream :=
    { s with starting := s.starting - 1, nextRunId := run, activeRun := some run }
  s.awaitCommit run { emptySqlStreamView run with phase := .connecting } true .connecting

/-- A reset takes the view, unless the hook is unmounted. -/
def resetTakes (s : ResultStream) : ResultStream :=
  if s.mounted then
    let run := s.nextRunId + 1
    let s : ResultStream :=
      { s with resetting := s.resetting - 1, nextRunId := run, activeRun := some run }
    s.awaitCommit run (emptySqlStreamView run) true .resetting
  else { s with resetting := s.resetting - 1 }

/-- A reset whose commit is shown gives the view up. -/
def endReset (s : ResultStream) (run : Nat) : ResultStream :=
  let s := s.setCall run .returned
  if s.activeRun = some run then
    { s.setRun run fun record => { record with active := false } with activeRun := none }
  else s

/-- The answer of a commit. -/
def answer (s : ResultStream) (commit : Nat) : CommitAnswer :=
  (s.commits[commit]?.map PendingCommit.answer).getD .waiting

/-- A start whose race is settled. -/
def raced (s : ResultStream) (run : Nat) (outside : Outside) : ResultStream :=
  let record := s.runs run
  if record.invalidated && (outside.invalidatedFirst || record.completion.isNone) then
    s.endStart run .returned
  else match record.completion with
    | none => s
    | some (.error error) => s.caught run error
    | some (.ok receipt) =>
        if s.owns run then
          -- `finishSqlStream` returns the state itself unless it is an open one of the run.
          s.awaitCommit run (finishSqlStream s.stateRef run receipt (some ⟨outside.clientTotalMs⟩))
            (s.stateRef.runId = run && s.stateRef.isOpen) .finishing
        else s.endStart run .returned

/-- The call that took a run goes on behind its await, if that is settled. -/
def proceed (s : ResultStream) (run : Nat) (outside : Outside) : ResultStream :=
  match (s.runs run).call with
  | .connecting commit =>
      match s.answer commit with
      | .waiting => s
      | .rejected => s.caught run (some staleRun)
      | .resolved _ =>
          if s.owns run then s.create run outside.factory else s.endStart run .returned
  | .streaming => s.raced run outside
  | .dropping => s.endStart run .returned
  | .finishing commit =>
      match s.answer commit with
      | .waiting => s
      | .rejected => s.caught run (some staleRun)
      | .resolved _ => s.endStart run .returned
  | .failing commit error =>
      match s.answer commit with
      | .waiting => s
      | .rejected => s.endStart run (.threw (some staleRun))
      | .resolved _ => s.endStart run (.threw error)
  | .resetting commit =>
      match s.answer commit with
      | .waiting => s
      | .rejected => s.setCall run (.threw (some staleRun))
      | .resolved _ => s.endReset run
  | .untaken | .returned | .threw _ => s

/-- The cancel that keeps the rows of a run goes on: the cancellation is answered, and when the
stream has settled the rows can be read back. -/
def readBack (s : ResultStream) (run : Nat) : ResultStream :=
  match (s.runs run).cancel with
  | .cancelling => s.setRun run fun record => { record with cancel := .reading }
  | .reading =>
      if (s.runs run).completion.isSome then
        let done := s.setRun run fun record => { record with cancel := .done }
        if !s.mounted || s.stateRef.runId ≠ run || s.stateRef.phase ≠ .cancelled then done
        else
          done.setStream
            { s.stateRef with rowSource := { s.stateRef.rowSource with complete := true } }
      else s
  | .absent | .done => s

/-- The run has accepted a page. -/
def acceptPage (s : ResultStream) (run : Nat) (batch : SqlStreamBatch) : ResultStream :=
  s.setRun run fun record => { record with accepted := record.accepted ++ [batch] }

/-- The controller of a run delivers a page; a page of a stale run and a page that is not the next
one are refused. -/
def deliver (number : String → Option Int) (s : ResultStream) (run : Nat)
    (batch : SqlStreamBatch) : ResultStream :=
  if (s.runs run).handed && s.owns run then
    match acceptSqlStreamBatch number s.stateRef run batch with
    | some next => (s.acceptPage run batch).commit run next true
    | none => s
  else s

/-- The stream of a run settles, once. -/
def settle (s : ResultStream) (run : Nat)
    (outcome : Except (Option String) SqlStreamReceipt) : ResultStream :=
  if (s.runs run).created && (s.runs run).completion.isNone then
    s.setRun run fun record => { record with completion := some outcome }
  else s

end ResultStream

/-- A step: a call of the hook, a change of its scope, its unmount, a stretch of a call behind an
await, an answer of a controller, a commit of React. -/
inductive ResultStep where
  | start
  | reset
  | cancel
  | scopeChange
  | unmount
  | startTakes
  | resetTakes
  | proceed (run : Nat) (outside : Outside)
  | readBack (run : Nat)
  | deliver (run : Nat) (batch : SqlStreamBatch)
  | settle (run : Nat) (outcome : Except (Option String) SqlStreamReceipt)
  | react (index : Nat)

/-- One step of the hook; a step that is not due changes nothing. -/
def resultStep (number : String → Option Int) (s : ResultStream) : ResultStep → ResultStream
  | .start =>
      let s := s.invalidate s.activeRun false
      { s with starting := s.starting + 1 }
  | .reset =>
      let s := s.invalidate s.activeRun false
      { s with resetting := s.resetting + 1 }
  | .cancel => s.invalidate s.activeRun true
  | .scopeChange =>
      if s.mounted then
        { ({ s with mounted := false } : ResultStream).invalidate s.activeRun false with
          mounted := true }
      else s
  | .unmount =>
      if s.mounted then ({ s with mounted := false } : ResultStream).invalidate s.activeRun false
      else s
  | .startTakes => if 0 < s.starting then s.startTakes else s
  | .resetTakes => if 0 < s.resetting then s.resetTakes else s
  | .proceed run outside => s.proceed run outside
  | .readBack run => s.readBack run
  | .deliver run batch => s.deliver number run batch
  | .settle run outcome => s.settle run outcome
  | .react index => s.react index

end Dopedb.Desktop
