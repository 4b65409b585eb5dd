import Dopedb.Scripts.RecordedOutcome

/-!
# The end of a claimed script operation

A run of `run_write` starts with its operation executing. `terminal_transition_requested_iff` says
exactly which runs request a terminal transition for it before they return: all but three early
returns. `Requested` tells a request from the outside: a store that accepts the transition has the
operation in that state when the run is over, whatever the store does with other requests.
-/

namespace Dopedb.Scripts

open Dopedb.Library Dopedb.Queries Command
open Dopedb.Operations (OperationState ensureTransition)

variable {D : Type} {run : PreparedScriptRun}

/-- The same surroundings with another operation store. -/
def Surroundings.storing (e : Surroundings D run.engine)
    (finishes : OperationState → Option ScriptFailure) : Surroundings D run.engine :=
  { e with finishes }

/-- The run requests the transition of its operation to the state. -/
def Requested (e : Surroundings D run.engine) (d : D)
    (session : Option (ManualSession (ManualLink D))) (state : OperationState) : Prop :=
  ∀ finishes : OperationState → Option ScriptFailure, finishes state = none →
    (runWrite (e.storing finishes) run (World.start d session)).2.operation = state

/-- The run requests a terminal transition of its operation. -/
def Finishes (e : Surroundings D run.engine) (d : D)
    (session : Option (ManualSession (ManualLink D))) : Prop :=
  ∃ state : OperationState, state.isTerminal = true ∧ Requested e d session state

/-- The role of the account does not permit the script. -/
def PreparedScriptRun.deniedByRole (run : PreparedScriptRun) : Bool :=
  if run.hasDdl then !run.canManage else !run.canWrite

/-- The run stops at a check behind the role and the writes: the schema changes, the audit entry,
the connection or its SQL backend. -/
def PreparedScriptRun.stopsLater (run : PreparedScriptRun) (e : Surroundings D run.engine) : Bool :=
  (run.hasDdl && !run.allowSchemaChanges) || !e.auditsAttempt || e.connect.isSome ||
    e.sqlBackend.isSome

/-- The role does not permit the script, or writes are off, or nothing else stops the run and the
connection has no pool to mutate with. -/
def PreparedScriptRun.strands (run : PreparedScriptRun) (e : Surroundings D run.engine) : Bool :=
  run.deniedByRole || !run.allowWrites || (!run.stopsLater e && e.pool.isNone)

variable {e : Surroundings D run.engine}

/-! ## Requests -/

/-- A transition that the store accepts is made. -/
theorem finish_accepted {α : Type} {state : OperationState} (haccepts : e.finishes state = none)
    (hallowed : ensureTransition .executing state = .ok ()) {receipt : Receipt}
    {k : Option ScriptFailure → Run D α} {Q : α → World D → Prop}
    {E : ScriptFailure → World D → Prop}
    (hdone : Triple (fun w => w.operation = state) (k none) Q E) :
    Triple (fun w => w.operation = .executing)
      (do let failure ← finish e state receipt; k failure) Q E := by
  refine Triple.bind (Q := fun failure w => failure = none ∧ w.operation = state) ?_
    fun failure => .assume fun hfailure => hfailure ▸ hdone
  intro w hw
  unfold finish
  rw [hw, hallowed, haccepts]
  exact ⟨rfl, rfl⟩

/-- Recording a run leaves the operation as it is. -/
theorem record_keeps_operation {α : Type} {state : OperationState} {kind : QueryKind}
    {action status : String} {rows : Option Nat} {k : PUnit → Run D α} {Q : α → World D → Prop}
    {E : ScriptFailure → World D → Prop}
    (h : Triple (fun w => w.operation = state) (k ⟨⟩) Q E) :
    Triple (fun w => w.operation = state)
      (do let done ← recordScriptRun e kind action status rows; k done) Q E := by
  refine Triple.bind (Q := fun _ w => w.operation = state) (.modify fun w hw => hw) ?_
  intro _
  exact h

/-- A run that fails with an error has requested the transition. -/
theorem throw_after_finish {α : Type} {state : OperationState} (haccepts : e.finishes state = none)
    (hallowed : ensureTransition .executing state = .ok ()) {receipt : Receipt}
    {failure : ScriptFailure} :
    Triple (fun w => w.operation = .executing)
      (do let _ ← finish e state receipt; (Command.throw failure : Run D α))
      (fun _ w => w.operation = state) fun _ w => w.operation = state :=
  finish_accepted haccepts hallowed (.throw fun _ hw => hw)

/-! ## The states that are requested -/

/-- The state that is requested for a script that reported an error. -/
def failureState (manual : Bool) (failure : ScriptFailure) : OperationState :=
  if (if failure.interrupted && !manual then interruptedFailure failure
    else failure).isOutcomeUnknown then .outcomeUnknown
  else if failure.cancelled then .cancelled
  else .failed

/-- The state that is requested for a script whose statements have outcomes. -/
def outcomesState (run : PreparedScriptRun) (manual committed : Bool) : OperationState :=
  if !manual && !committed && run.engine = .mysql && run.containsUnsupportedKind then
    .outcomeUnknown
  else if committed || manual then .succeeded
  else .failed

/-- The state of a failure is terminal. -/
theorem failure_state_terminal (manual : Bool) (failure : ScriptFailure) :
    (failureState manual failure).isTerminal = true := by
  unfold failureState
  rw [apply_ite OperationState.isTerminal, apply_ite OperationState.isTerminal]
  simp [OperationState.isTerminal]

/-- The state of statements with outcomes is terminal. -/
theorem outcomes_state_terminal (run : PreparedScriptRun) (manual committed : Bool) :
    (outcomesState run manual committed).isTerminal = true := by
  unfold outcomesState
  rw [apply_ite OperationState.isTerminal, apply_ite OperationState.isTerminal]
  simp [OperationState.isTerminal]

/-- A script that reported an error ends in its state. -/
theorem conclude_failure_state {α : Type} {manual : Bool} {failure : ScriptFailure}
    (haccepts : e.finishes (failureState manual failure) = none) :
    Triple (fun w => w.operation = .executing) (concludeFailure (α := α) e run manual failure)
      (fun _ w => w.operation = failureState manual failure)
      fun _ w => w.operation = failureState manual failure := by
  unfold concludeFailure failureState at *
  refine .ite (fun hunknown => ?_) fun hknown => .ite (fun hcancelled => ?_) fun hfailed => ?_
  · rw [if_pos hunknown] at haccepts ⊢
    exact record_keeps_operation (throw_after_finish haccepts rfl)
  · rw [if_neg hknown, if_pos hcancelled] at haccepts ⊢
    exact record_keeps_operation (throw_after_finish haccepts rfl)
  · rw [if_neg hknown, if_neg hfailed] at haccepts ⊢
    exact record_keeps_operation (throw_after_finish haccepts rfl)

/-- A script whose statements have outcomes ends in its state. -/
theorem conclude_outcomes_state {manual committed : Bool} {outcomes : List ScriptStatement}
    (haccepts : e.finishes (outcomesState run manual committed) = none) :
    Triple (fun w => w.operation = .executing) (concludeOutcomes e run manual outcomes committed)
      (fun _ w => w.operation = outcomesState run manual committed)
      fun _ w => w.operation = outcomesState run manual committed := by
  unfold concludeOutcomes outcomesState at *
  refine .ite (fun himplicit => ?_) fun hexplicit => ?_
  · rw [if_pos himplicit] at haccepts ⊢
    exact record_keeps_operation (throw_after_finish haccepts rfl)
  · rw [if_neg hexplicit] at haccepts ⊢
    by_cases hdone : (committed || manual) = true
    · rw [if_pos hdone] at haccepts ⊢
      simp only [if_pos hdone]
      exact record_keeps_operation (finish_accepted haccepts rfl (.pure fun _ hw => hw))
    · rw [if_neg hdone] at haccepts ⊢
      simp only [if_neg hdone]
      exact record_keeps_operation (finish_accepted haccepts rfl (.pure fun _ hw => hw))

/-- The state of the world at the end of a command. -/
theorem operation_of_triple {α : Type} {x : Run D α} {state : OperationState} {w : World D}
    (h : Triple (fun w => w.operation = .executing) x (fun _ w => w.operation = state)
      fun _ w => w.operation = state) (hw : w.operation = .executing) :
    (x w).2.operation = state := by
  have hend := h w hw
  split at hend
  · next heq => rw [heq]; exact hend
  · next heq => rw [heq]; exact hend

/-- The world of a run that is let through to the target. -/
def admitted (run : PreparedScriptRun) (w : World D) : World D :=
  { w with audit := w.audit ++ [⟨run.scriptKind, "script:execute:attempt"⟩] }

/-- A check that stops the run behind the role and the writes requests a failure. -/
theorem reach_target_stops (hrole : run.deniedByRole = false) (hwrites : run.allowWrites = true)
    (hstops : run.stopsLater e = true) (haccepts : e.finishes .failed = none) :
    Triple (fun w => w.operation = .executing) (reachTarget e run) (fun _ _ => False)
      fun _ w => w.operation = .failed := by
  have hstopped : ∀ {α : Type} {receipt : Receipt} {failure : ScriptFailure},
      Triple (fun w => w.operation = .executing)
        (do let _ ← finish e .failed receipt; (Command.throw failure : Run D α))
        (fun _ _ => False) fun _ w => w.operation = .failed :=
    finish_accepted haccepts rfl (.throw fun _ hw => hw)
  unfold reachTarget
  refine .ite (fun hdenied => ?_) fun _ => .ite (fun hoff => ?_) fun _ =>
    .ite (fun _ => record_keeps_operation hstopped) fun hschema => .ite (fun _ => hstopped)
      fun haudit => ?_
  · unfold PreparedScriptRun.deniedByRole at hrole
    cases hddl : run.hasDdl <;> simp_all
  · simp [hwrites] at hoff
  · refine Triple.bind (Q := fun _ w => w.operation = .executing) (.modify fun w hw => hw) ?_
    intro _
    cases hconnect : e.connect with
    | some failure => exact record_keeps_operation hstopped
    | none =>
        cases hbackend : e.sqlBackend with
        | some failure => exact record_keeps_operation hstopped
        | none =>
            unfold PreparedScriptRun.stopsLater at hstops
            simp_all

/-- A run that no check stops reaches the pool of the connection, if there is one. -/
theorem reach_target_passes (hrole : run.deniedByRole = false) (hwrites : run.allowWrites = true)
    (hpasses : run.stopsLater e = false) (w : World D) :
    reachTarget e run w = match e.pool with
      | some pool => (.ok pool, admitted run w)
      | none => (.error (.blocked "this connection was opened without mutation authority"),
        admitted run w) := by
  unfold PreparedScriptRun.stopsLater at hpasses
  simp only [Bool.or_eq_false_iff, Bool.not_eq_false', Option.isSome_eq_false_iff,
    Option.isNone_iff_eq_none] at hpasses
  obtain ⟨⟨⟨hschema, haudit⟩, hconnect⟩, hbackend⟩ := hpasses
  have hpermitted : ¬((run.hasDdl && !run.canManage || !run.hasDdl && !run.canWrite) = true) := by
    unfold PreparedScriptRun.deniedByRole at hrole
    cases hddl : run.hasDdl <;> simp_all
  unfold reachTarget
  rw [if_neg hpermitted, if_neg (by simp [hwrites]), if_neg (by simp [hschema]),
    if_neg (by simp [haudit]), hconnect, hbackend]
  cases e.pool with
  | none => rfl
  | some pool => rfl

/-- A run that the role or the writes stop leaves the operation as it is. -/
theorem reach_target_blocked (hblocked : (run.deniedByRole || !run.allowWrites) = true)
    (w : World D) :
    ∃ failure, (reachTarget e run w).1 = .error failure ∧
      (reachTarget e run w).2.operation = w.operation := by
  unfold reachTarget
  split
  · exact ⟨_, rfl, rfl⟩
  · next hrole =>
      have hwrites : (!run.allowWrites) = true := by
        unfold PreparedScriptRun.deniedByRole at hblocked
        cases hddl : run.hasDdl <;> simp_all
      rw [if_pos hwrites]
      exact ⟨_, rfl, rfl⟩

/-- A run that reaches no pool ends there. -/
theorem run_write_of_error {w w' : World D} {failure : ScriptFailure}
    (h : reachTarget e run w = (.error failure, w')) : runWrite e run w = (.error failure, w') := by
  show Command.bind (reachTarget e run) _ w = _
  unfold Command.bind
  rw [h]

/-- A run that reaches a pool concludes the script's result. -/
theorem run_write_of_pool {w w' : World D} {pool : DbPool}
    (h : reachTarget e run w = (.ok pool, w')) :
    runWrite e run w = match executeScript e run pool w' with
      | (.ok (manual, .error failure), w'') => concludeFailure e run manual failure w''
      | (.ok (manual, .ok (outcomes, committed)), w'') =>
        concludeOutcomes e run manual outcomes committed w''
      | (.error failure, w'') => (.error failure, w'') := by
  show Command.bind (reachTarget e run) _ w = _
  unfold Command.bind
  rw [h]
  show Command.bind (executeScript e run pool) _ w' = _
  unfold Command.bind
  cases executeScript e run pool w' with
  | mk result w'' =>
      cases result with
      | error failure => rfl
      | ok answer =>
          obtain ⟨manual, result⟩ := answer
          cases result with
          | error failure => rfl
          | ok outcomes => rfl

/-- Running the script leaves the operation as it is, and has a result. -/
theorem execute_script_result (e : Surroundings D run.engine) (pool : DbPool) (w : World D) :
    ∃ answer w', executeScript e run pool w = (.ok answer, w') ∧ w'.operation = w.operation := by
  unfold executeScript
  cases w.session with
  | some session => exact ⟨_, _, rfl, rfl⟩
  | none => exact ⟨_, _, rfl, rfl⟩

/-- A run requests a terminal transition for its operation exactly when it does not return early
for the role, for the writes or for want of a pool. -/
theorem terminal_transition_requested_iff (e : Surroundings D run.engine) (d : D)
    (session : Option (ManualSession (ManualLink D))) :
    Finishes e d session ↔ run.strands e = false := by
  constructor
  · rintro ⟨state, hterminal, hrequested⟩
    by_contra hstrands
    have hstranded := hrequested (fun _ => none) rfl
    have hleft : (runWrite (e.storing fun _ => none) run (World.start d session)).2.operation =
        .executing := by
      by_cases hblocked : (run.deniedByRole || !run.allowWrites) = true
      · obtain ⟨failure, hfailure, hoperation⟩ :=
          @reach_target_blocked D run (e.storing fun _ => none) hblocked (World.start d session)
        rw [run_write_of_error (Prod.ext hfailure rfl)]
        exact hoperation
      · unfold PreparedScriptRun.strands at hstrands
        simp only [Bool.or_eq_true, not_or, Bool.not_eq_true, Bool.not_eq_true'] at hblocked
        obtain ⟨hrole, hwrites⟩ := hblocked
        have hlate : (!run.stopsLater e && e.pool.isNone) = true := by
          simpa [hrole, hwrites] using hstrands
        rw [Bool.and_eq_true, Bool.not_eq_true', Option.isNone_iff_eq_none] at hlate
        obtain ⟨hpasses, hpool⟩ := hlate
        have hwrites' : run.allowWrites = true := by simpa using hwrites
        have hreach := @reach_target_passes D run (e.storing fun _ => none) hrole hwrites' hpasses
          (World.start d session)
        rw [show (e.storing fun _ => none).pool = none from hpool] at hreach
        rw [run_write_of_error hreach]
        rfl
    rw [hleft] at hstranded
    rw [← hstranded] at hterminal
    cases hterminal
  · intro hstrands
    unfold PreparedScriptRun.strands at hstrands
    simp only [Bool.or_eq_false_iff, Bool.not_eq_false', Bool.and_eq_false_iff] at hstrands
    obtain ⟨⟨hrole, hwrites⟩, hpool⟩ := hstrands
    cases hstops : run.stopsLater e with
    | true =>
        refine ⟨.failed, rfl, ?_⟩
        intro finishes haccepts
        have hreach := @reach_target_stops D run (e.storing finishes) hrole hwrites hstops haccepts
          (World.start d session) rfl
        split at hreach
        · exact hreach.elim
        · next heq =>
            rw [run_write_of_error heq]
            exact hreach
    | false =>
        obtain ⟨pool, hsome⟩ : ∃ pool, e.pool = some pool := by
          cases hpool' : e.pool with
          | none => simp [hstops, hpool'] at hpool
          | some pool => exact ⟨pool, rfl⟩
        obtain ⟨⟨manual, result⟩, w', hscript, hoperation⟩ :=
          execute_script_result e pool (admitted run (World.start d session))
        have hreach : ∀ finishes, reachTarget (e.storing finishes) run (World.start d session) =
            (.ok pool, admitted run (World.start d session)) := by
          intro finishes
          rw [@reach_target_passes D run (e.storing finishes) hrole hwrites hstops,
            show (e.storing finishes).pool = some pool from hsome]
        -- the script runs in the same way whatever the store does
        have hsame : ∀ finishes, executeScript (e.storing finishes) run pool
            (admitted run (World.start d session)) = (.ok (manual, result), w') :=
          fun _ => hscript
        cases result with
        | error failure =>
            refine ⟨failureState manual failure, ?_, ?_⟩
            · exact failure_state_terminal manual failure
            · intro finishes haccepts
              rw [run_write_of_pool (hreach finishes), hsame finishes]
              exact operation_of_triple (conclude_failure_state haccepts) hoperation
        | ok answer =>
            obtain ⟨outcomes, committed⟩ := answer
            refine ⟨outcomesState run manual committed, ?_, ?_⟩
            · exact outcomes_state_terminal run manual committed
            · intro finishes haccepts
              rw [run_write_of_pool (hreach finishes), hsame finishes]
              exact operation_of_triple (conclude_outcomes_state haccepts) hoperation

/-- A script for which writes are off. -/
def writesOff : PreparedScriptRun := { createThenInsert with allowWrites := false }

/-- A run that finds the writes off returns without a request. -/
theorem writes_off_stranded :
    ¬∀ (run : PreparedScriptRun) (e : Surroundings Nat run.engine) (d : Nat)
      (session : Option (ManualSession (ManualLink Nat))), Finishes e d session := by
  intro hfinishes
  obtain ⟨state, hterminal, hrequested⟩ := hfinishes writesOff cooperative 0 none
  have hstranded := hrequested (fun _ => none) rfl
  rw [← hstranded] at hterminal
  exact absurd hterminal (by decide)

end Dopedb.Scripts
