import Dopedb.Jobs.StateMachine
import Dopedb.Library.Tasks
import Dopedb.Operations.StateMachine

/-!
# Control of a job

The calls `start`, `pause` and `cancel`, the worker a start spawns, and its completion
(`jobs/application/execution.rs` with `run_import`) on one job. A task moves from one await point
to the next: a move is either one store call, whose answer the next control point carries, or the
stretch of code after it where that touches the running map or a token. What the outside decides
is the input of a move. Store calls do not fail, though their guards may refuse.
-/

namespace Dopedb.Jobs

open Dopedb.Library
open Dopedb.Operations (OperationState ensureTransition)

/-- A cancellation token. -/
abbrev Token := Nat

/-- What a worker asks of the target. -/
inductive TargetRequest where
  | batch | commit
  deriving DecidableEq, Repr

/-- A request to the target, and whether the job had ended for its user before it: a terminal job
or operation, or a cancel call that has returned with the job cancelled. -/
structure TargetEvent where
  request : TargetRequest
  ended : Bool
  deriving DecidableEq, Repr

/-- What the tasks of one job share: its row, its operation, its input capability, its entry in the
running map, the tokens that were cancelled, and what happened. -/
structure JobRuntime where
  kind : JobKind
  resumable : Bool
  state : JobState
  operation : OperationState
  capability : Bool := true
  running : Option Token := none
  cancelled : List Token := []
  issued : Token := 0
  target : List TargetEvent := []
  returnedCancelled : Bool := false
  deriving DecidableEq, Repr

/-- How a transaction of a worker ends. -/
inductive TransactionAnswer where
  | committed
  | failed (stop : Bool)
  | unknown (applied : Bool)
  deriving DecidableEq, Repr

/-- What a task learns from outside. -/
inductive Input where
  | proceed
  | refused
  | revoked
  | answer (answer : TransactionAnswer)
  | exhausted
  deriving DecidableEq, Repr

/-- The await points of a `start` call. -/
inductive StartPoint where
  | begin
  | current
  | operation (current : JobState)
  | claim (current : JobState) (operation : OperationState)
  | execute (current : JobState) (operation : OperationState)
  | register
  | reread (token : Token)
  | spawn (token : Token) (latest : JobState)
  | refused (current : JobState)
  | restore (current latest : JobState)
  deriving DecidableEq, Repr

/-- The await points of a `pause` call. -/
inductive PausePoint where
  | begin | request | signal
  deriving DecidableEq, Repr

/-- The await points of a `cancel` call. -/
inductive CancelPoint where
  | begin
  | request
  | transition (current : JobState)
  | updated
  | signal (updated : JobState)
  | operation (updated : JobState)
  | settle (updated : JobState) (operation : OperationState)
  | retire (updated : JobState)
  deriving DecidableEq, Repr

/-- The await points of `finish_cancelled_without_worker`. -/
inductive FinishPoint where
  | row
  | operation
  | settle (operation : OperationState)
  | retire
  deriving DecidableEq, Repr

/-- The await points of a worker that runs. -/
inductive WorkPoint where
  | permit | queuedStop | prepare | batches | transaction
  | rows (committed : Bool)
  | rowTransaction (committed : Bool)
  | progress | checkpoint | stopOutcome
  deriving DecidableEq, Repr

/-- The result of a worker, with whether a failure leaves the outcome unknown. -/
inductive WorkerResult where
  | succeeded | paused | cancelled
  | failed (unknown : Bool)
  deriving DecidableEq, Repr

/-- The await points of `complete`, and the removal from the running map after it. -/
inductive CompletePoint where
  | result (result : WorkerResult)
  | pauseLost
  | failing (unknown : Bool)
  | settle (target : OperationState)
  | retire
  | remove
  deriving DecidableEq, Repr

/-- The control points of all tasks. A worker's carry its token; `finish` carries the token that is
removed afterwards when a worker's completion runs it. -/
inductive Control where
  | start (point : StartPoint)
  | pause (point : PausePoint)
  | cancel (point : CancelPoint)
  | finish (after : Option Token) (point : FinishPoint)
  | work (token : Token) (point : WorkPoint)
  | complete (token : Token) (point : CompletePoint)
  | ended
  deriving DecidableEq, Repr

namespace JobRuntime

/-- The job has ended for its user. -/
def hasEnded (s : JobRuntime) : Bool :=
  s.state.terminal || s.operation.isTerminal || s.returnedCancelled

/-- A request to the target. -/
def asks (s : JobRuntime) (request : TargetRequest) : JobRuntime :=
  { s with target := s.target ++ [⟨request, s.hasEnded⟩] }

/-- A token is cancelled. -/
def cancelToken (s : JobRuntime) (token : Token) : JobRuntime :=
  { s with cancelled := token :: s.cancelled }

/-- Move the operation where its lifecycle allows it. -/
def moveOperation (s : JobRuntime) (target : OperationState) : JobRuntime :=
  match ensureTransition s.operation target with
  | .ok _ => { s with operation := target }
  | .error _ => s

/-- `confirm_cancelled` of an executing operation, `cancel_before_execution` of a waiting one: one
transition, chosen by a state that may have changed since. -/
def cancelOperationFrom (s : JobRuntime) (operation : OperationState) : JobRuntime :=
  if operation.isTerminal then s else s.moveOperation .cancelled

/-- A cancel call returns the job in a state. -/
def returns (s : JobRuntime) (state : JobState) : JobRuntime :=
  { s with returnedCancelled := s.returnedCancelled || state = .cancelled }

end JobRuntime

/-- `claim` of a waiting operation, `resume_job_claim` of a paused one: whether the operation is
claimed, and what the call leaves. A claim for a session that was revoked meanwhile cancels the
operation. -/
def claimOperation (s : JobRuntime) (current : JobState) (operation : OperationState)
    (input : Input) : Bool × JobRuntime :=
  if operation = .ready ∨ operation = .approved then
    match input, ensureTransition s.operation .executing with
    | .proceed, .ok _ => (true, { s with operation := .executing })
    | .revoked, .ok _ => (false, { s with operation := .cancelled })
    | _, _ => (false, s)
  else if operation = .executing ∧ current = .paused then
    match input with
    | .proceed => if s.operation = .executing then (true, s) else (false, s)
    | _ => (false, s)
  else (false, s)

/-- The next await point of a `start` call. -/
def resumeStart (s : JobRuntime) (input : Input) :
    StartPoint → JobRuntime × Control × List Control
  -- The call looks the job up in the map once, before it reads anything.
  | .begin => (s, if s.running.isSome then .ended else .start .current, [])
  | .current => (s, if input = .refused then .ended else .start (.operation s.state), [])
  | .operation current => (s, .start (.claim current s.operation), [])
  | .claim current operation =>
    if input = .refused ∨ operation = .pendingApproval ∨
        current = .paused ∧ s.resumable = false then (s, .ended, [])
    else match s.state.claimRunning with
      | some state => ({ s with state := state }, .start (.execute current operation), [])
      | none => (s, .ended, [])
  | .execute current operation =>
    match claimOperation s current operation input with
    | (true, s) => (s, .start .register, [])
    | (false, s) => (s, .start (.refused current), [])
  | .register =>
    ({ s with running := some s.issued, issued := s.issued + 1 }, .start (.reread s.issued), [])
  | .reread token => (s, .start (.spawn token s.state), [])
  | .spawn token latest =>
    if latest = .cancelRequested then
      ({ s.cancelToken token with running := none }, .finish none .row, [])
    else
      (if latest = .pauseRequested then s.cancelToken token else s, .ended, [.work token .permit])
  | .refused current => (s, .start (.restore current s.state), [])
  | .restore current latest =>
    if latest = .cancelRequested then (s, .finish none .row, [])
    else
      let back := if current = .paused then .pauseCompleted else .initialStartRolledBack
      ({ s with state := (s.state.transition back).getD s.state }, .ended, [])

/-- The next await point of a `pause` call. -/
def resumePause (s : JobRuntime) (input : Input) : PausePoint → JobRuntime × Control
  | .begin => (s, if input = .refused ∨ s.resumable = false then .ended else .pause .request)
  | .request =>
    match s.state.requestPause with
    | some state => ({ s with state := state }, .pause .signal)
    | none => (s, .ended)
  | .signal =>
    match s.running with
    | some token => (s.cancelToken token, .ended)
    | none => (s, .ended)

/-- The next await point of a `cancel` call. -/
def resumeCancel (s : JobRuntime) (input : Input) : CancelPoint → JobRuntime × Control
  | .begin =>
    if input = .refused then (s, .ended)
    else if s.state.doomed then (s.returns s.state, .ended)
    else (s, .cancel .request)
  | .request => (s, .cancel (.transition s.state))
  | .transition current =>
    let transition := if current.stored = .running then .runningCancellationRequested
      else .waitingCancelled
    match s.state.transition transition with
    | some state => ({ s with state := state }, .cancel .updated)
    | none => (s, .ended)
  | .updated => (s, .cancel (.signal s.state))
  | .signal updated =>
    match s.running with
    | some token => ((s.cancelToken token).returns updated, .ended)
    | none => (s, .cancel (.operation updated))
  | .operation updated => (s, .cancel (.settle updated s.operation))
  | .settle updated operation =>
    (s.cancelOperationFrom operation,
      if updated = .cancelRequested then .finish none .row else .cancel (.retire updated))
  | .retire updated =>
    ({ s.returns updated with capability := s.capability && !updated.terminal }, .ended)

/-- The next await point of `finish_cancelled_without_worker`, which a call returns from, or after
which a worker removes its token. -/
def resumeFinish (s : JobRuntime) (after : Option Token) : FinishPoint → JobRuntime × Control
  | .row =>
    match s.state.transition .executionCancelled with
    | some state => ({ s with state := state }, .finish after .operation)
    | none => (s, after.elim .ended fun token => .complete token .remove)
  | .operation => (s, .finish after (.settle s.operation))
  | .settle operation => (s.cancelOperationFrom operation, .finish after .retire)
  | .retire =>
    match after with
    | some token => ({ s with capability := false }, .complete token .remove)
    | none => ({ s.returns .cancelled with capability := false }, .ended)

/-- The next await point of a worker: what it asks of the target, and where it goes. -/
def resumeWork (s : JobRuntime) (token : Token) (input : Input) :
    WorkPoint → Option (Option TargetRequest × Control)
  -- The worker waits for its turn, unless its token is cancelled before.
  | .permit => some (none, .work token (if token ∈ s.cancelled then .queuedStop else .prepare))
  | .queuedStop =>
    some (none, if s.state = .cancelRequested then .complete token (.result .cancelled)
      else .work token .prepare)
  | .prepare =>
    some (none, if input = .refused ∨ s.kind = .import ∧ s.capability = false then
        .complete token (.result (.failed false))
      else .work token .batches)
  | .batches =>
    if token ∈ s.cancelled then some (none, .work token .checkpoint)
    else match input with
      | .refused => some (none, .complete token (.result (.failed false)))
      | .exhausted => some (none, .complete token (.result .succeeded))
      | _ =>
        if s.kind = .import then some (some .batch, .work token .transaction)
        else some (none, .work token .progress)
  | .transaction =>
    match input with
    | .answer .committed => some (some .commit, .work token .progress)
    | .answer (.unknown applied) =>
      some (if applied then some .commit else none, .complete token (.result (.failed true)))
    | .answer (.failed stop) =>
      some (none, if token ∈ s.cancelled then .work token .checkpoint
        else if stop then .complete token (.result (.failed false))
        else .work token (.rows false))
    | _ => none
  -- The rows of a failed batch, one transaction each.
  | .rows committed =>
    match input with
    | .exhausted => some (none, .work token .progress)
    | .refused => some (none, .complete token (.result (.failed false)))
    | .proceed => some (some .batch, .work token (.rowTransaction committed))
    | _ => none
  | .rowTransaction committed =>
    match input with
    | .answer .committed => some (some .commit, .work token (.rows true))
    | .answer (.unknown applied) =>
      some (if applied then some .commit else none, .complete token (.result (.failed true)))
    | .answer (.failed stop) =>
      some (none, if token ∈ s.cancelled then
          if committed then .complete token (.result (.failed true)) else .work token .checkpoint
        else if stop then .complete token (.result (.failed false))
        else .work token (.rows committed))
    | _ => none
  | .progress =>
    some (none, if s.state.progresses then .work token .batches
      else .complete token (.result (.failed false)))
  | .checkpoint =>
    some (none, if s.state.progresses then .work token .stopOutcome
      else .complete token (.result (.failed false)))
  | .stopOutcome =>
    some (none, .complete token (.result (match s.state with
      | .running | .pauseRequested | .paused => .paused
      | .cancelRequested => .cancelled
      | _ => .failed false)))

/-- The next await point of `complete`. -/
def resumeComplete (s : JobRuntime) (token : Token) : CompletePoint → JobRuntime × Control
  | .result .succeeded =>
    match s.state.transition .executionSucceeded with
    | some state => ({ s with state := state }, .complete token (.settle .succeeded))
    | none => (s, .complete token .remove)
  | .result .paused =>
    match s.state.transition .pauseCompleted with
    | some state => ({ s with state := state }, .complete token .remove)
    | none => (s, .complete token .pauseLost)
  | .result .cancelled =>
    match s.state.transition .executionCancelled with
    | some state => ({ s with state := state }, .complete token (.settle .cancelled))
    | none => (s, .complete token .remove)
  | .result (.failed unknown) =>
    (s, .complete token (if s.state = .paused then .remove else .failing unknown))
  | .pauseLost =>
    (s, if s.state = .cancelRequested then .finish (some token) .row else .complete token .remove)
  | .failing unknown =>
    match s.state.transition .executionFailed with
    | some state =>
      ({ s with state := state },
        .complete token (.settle (if unknown then .outcomeUnknown else .failed)))
    | none => (s, .complete token .remove)
  | .settle target => (s.moveOperation target, .complete token .retire)
  | .retire => ({ s with capability := false }, .complete token .remove)
  -- The map is keyed by the job, so this removes whatever token is there.
  | .remove => ({ s with running := none }, .ended)

/-- What a task does up to its next await point. -/
def resume : Resume JobRuntime Control Input := fun s control input =>
  match control with
  | .start point => some (resumeStart s input point)
  | .pause point =>
    let (s, control) := resumePause s input point
    some (s, control, [])
  | .cancel point =>
    let (s, control) := resumeCancel s input point
    some (s, control, [])
  | .finish after point =>
    let (s, control) := resumeFinish s after point
    some (s, control, [])
  | .work token point =>
    (resumeWork s token input point).map fun (request, control) =>
      ((request.map s.asks).getD s, control, [])
  | .complete token point =>
    let (s, control) := resumeComplete s token point
    some (s, control, [])
  | .ended => none

end Dopedb.Jobs
