import Dopedb.Operations.Model

/-!
# Lifecycle transitions

The pure transition relation of `operations/state_machine.rs` and the startup decision for an
operation that an older runtime owns.
-/

namespace Dopedb.Operations

open OperationState

/-- Validate a lifecycle transition. -/
def ensureTransition (source target : OperationState) : Except (OperationState × OperationState) Unit :=
  match source, target with
  | planned, pendingApproval | planned, ready | planned, cancelled | planned, expired => .ok ()
  | pendingApproval, approved | pendingApproval, rejected | pendingApproval, cancelled
  | pendingApproval, expired => .ok ()
  | ready, executing | ready, cancelled | ready, expired => .ok ()
  | approved, executing | approved, cancelled | approved, expired => .ok ()
  | executing, succeeded | executing, failed | executing, cancelled
  | executing, outcomeUnknown => .ok ()
  | _, _ => .error (source, target)

/-- The transition is allowed. -/
def Allowed (source target : OperationState) : Prop := ensureTransition source target = .ok ()

instance (source target : OperationState) : Decidable (Allowed source target) :=
  match h : ensureTransition source target with
  | .ok () => .isTrue h
  | .error _ => .isFalse fun hallowed => by
      rw [Allowed, h] at hallowed
      cases hallowed

/-- A terminal state has no successor. -/
theorem not_terminal_of_allowed {source target : OperationState} (h : Allowed source target) :
    source.isTerminal = false := by
  revert h
  cases source <;> cases target <;> decide

/-- An executing operation can only finish. -/
theorem terminal_of_executing_allowed {target : OperationState} (h : Allowed executing target) :
    target.isTerminal = true := by
  revert h
  cases target <;> decide

/-- What startup does with an operation of an older runtime. -/
inductive RestartRecovery where
  | keepTerminal | expire | markFailed | outcomeUnknown | validateJobCheckpoint
  | validateProvisioningCheckpoint
  deriving DecidableEq, Repr

/-- Decide the startup action for an operation owned by an older runtime. -/
def restartRecovery (kind : OperationKind) (state : OperationState) : RestartRecovery :=
  if state.isTerminal then .keepTerminal
  else if state ≠ executing then .expire
  else if kind = .export then .validateJobCheckpoint
  else if kind = .providerAction then .validateProvisioningCheckpoint
  else if kind.mayMutateTarget then .outcomeUnknown
  else .markFailed

end Dopedb.Operations
