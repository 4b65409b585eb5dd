import Dopedb.Model

/-!
# States of a job

The job states and the durable transition policy of `features/jobs/state_machine.rs`, with the
guarded row updates of `ledger/transitions.rs`. A job that was asked to pause is stored as running
with a flag; `JobState` is what `row_to_job` makes of the two columns.
-/

namespace Dopedb.Jobs

/-- The kinds of jobs. -/
inductive JobKind where
  | import | export
  deriving DecidableEq, Repr

/-- The states of a job. -/
inductive JobState where
  | queued | running | pauseRequested | paused | cancelRequested | cancelled | succeeded | failed
  deriving DecidableEq, Repr

namespace JobState

/-- The states without a successor. -/
def terminal : JobState → Bool
  | .cancelled | .succeeded | .failed => true
  | _ => false

/-- The value of the state column: a pause request is a flag beside it. -/
def stored : JobState → JobState
  | .pauseRequested => .running
  | state => state

end JobState

/-- The named transitions of a job. -/
inductive JobTransition where
  | pauseCompleted | initialStartRolledBack | runningCancellationRequested | waitingCancelled
  | executionSucceeded | executionCancelled | executionFailed | queuedCancelled | queuedFailed
  | pausedFailed
  deriving DecidableEq, Repr

/-- Where a transition starts, where it leads, and the event it appends. -/
structure JobTransitionRule where
  source : List JobState
  target : JobState
  event : String

/-- The policy. -/
def JobTransition.rule : JobTransition → JobTransitionRule
  | .pauseCompleted => ⟨[.running], .paused, "paused"⟩
  | .initialStartRolledBack => ⟨[.running], .queued, "warning"⟩
  | .runningCancellationRequested => ⟨[.running], .cancelRequested, "warning"⟩
  | .waitingCancelled => ⟨[.queued, .paused], .cancelled, "cancelled"⟩
  | .executionSucceeded => ⟨[.running, .cancelRequested], .succeeded, "succeeded"⟩
  | .executionCancelled => ⟨[.running, .cancelRequested], .cancelled, "cancelled"⟩
  | .executionFailed => ⟨[.running, .cancelRequested], .failed, "failed"⟩
  | .queuedCancelled => ⟨[.queued], .cancelled, "cancelled"⟩
  | .queuedFailed => ⟨[.queued], .failed, "failed"⟩
  | .pausedFailed => ⟨[.paused], .failed, "failed"⟩

namespace JobState

/-- A guarded update of the row: it fails where the state is not one the transition starts from. -/
def transition (state : JobState) (transition : JobTransition) : Option JobState :=
  if state.stored ∈ transition.rule.source then some transition.rule.target else none

/-- The update of `claim_running`. -/
def claimRunning (state : JobState) : Option JobState :=
  if state.stored = .queued ∨ state.stored = .paused then some .running else none

/-- The update of `request_pause`. -/
def requestPause (state : JobState) : Option JobState :=
  if state = .running then some .pauseRequested else none

/-- The guard of `update_progress`. -/
def progresses (state : JobState) : Bool :=
  state.stored = .running || state.stored = .cancelRequested

/-- The job will not run again: it is terminal, or its cancellation was requested. -/
def doomed (state : JobState) : Bool := state = .cancelRequested || state.terminal

/-- The job has been claimed by a worker that has not given it back. -/
def claimed (state : JobState) : Bool := state.stored = .running || state.doomed

/-- What never changes back: a terminal state, and a requested cancellation short of its end. -/
def Later (state state' : JobState) : Prop :=
  (state.terminal = true → state' = state) ∧ (state.doomed = true → state'.doomed = true)

instance (state state' : JobState) : Decidable (state.Later state') := by
  unfold Later
  infer_instance

/-- Every state is later than itself. -/
theorem Later.refl (state : JobState) : state.Later state := ⟨fun _ => rfl, fun h => h⟩

/-- A transition leads to a later state. -/
theorem later_of_transition {state state' : JobState} {t : JobTransition}
    (h : state.transition t = some state') : state.Later state' := by
  unfold transition at h
  split at h
  · next hsource =>
      obtain rfl := Option.some.inj h
      revert hsource
      cases state <;> cases t <;> decide
  · cases h

end JobState

end Dopedb.Jobs
