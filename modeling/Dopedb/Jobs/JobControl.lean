import Dopedb.Jobs.ControlSteps

/-!
# The job control protocol

What `start`, `pause`, `cancel`, the worker and its completion do to one job, over all runs of any
number of calls that interleave at their await points. A start looks the job up in the running map
before it claims the row, and re-reads the row after it registered its token, but asks only whether
the cancellation was requested. Where a worker of an earlier start is still registered when the row
is claimed, or a cancel call has ended the job between the claim and the re-read, the protocol does
not hold, so `JobControlled` is proved of the runs that are `Orderly`.
-/

namespace Dopedb.Jobs

open Dopedb.Library
open Dopedb.Operations (OperationState)

/-- The entry points of the calls on a job. -/
def Control.isCall : Control → Bool
  | .start .begin | .pause .begin | .cancel .begin => true
  | _ => false

/-- A move of the job's tasks: only calls are started from outside. -/
def move (s : Pool JobRuntime Control) (m : Move Control Input) : Pool JobRuntime Control :=
  match m with
  | .start control => if control.isCall then s.move resume m else s
  | .resume _ _ => s.move resume m

instance (s : JobRuntime) (input : Input) (current : JobState) (operation : OperationState) :
    Decidable (ClaimGranted s input current operation) := by
  unfold ClaimGranted
  infer_instance

instance (s : JobRuntime) (input : Input) (control : Control) :
    Decidable (FindsInOrder s input control) := by
  unfold FindsInOrder
  split <;> infer_instance

/-- A start that is given the row, or about to read it again, finds the job in order. -/
def Orderly (s : Pool JobRuntime Control) : Move Control Input → Prop
  | .start _ => True
  | .resume task input =>
    match s.tasks[task]? with
    | some control => FindsInOrder s.shared input control
    | none => True

instance (s : Pool JobRuntime Control) (m : Move Control Input) : Decidable (Orderly s m) := by
  unfold Orderly
  split
  · infer_instance
  · split <;> infer_instance

/-- A job that no task of this runtime has touched. -/
structure Quiescent (s : JobRuntime) : Prop where
  running : s.running = none
  notRunning : s.state.stored ≠ .running
  notRequested : s.state ≠ .cancelRequested
  target : s.target = []
  returned : s.returnedCancelled = false

/-- The pool after a run. -/
def reached (s : JobRuntime) (moves : List (Move Control Input)) : Pool JobRuntime Control :=
  run move ⟨s, []⟩ moves

/-! ## Runs -/

/-- The counts of all tasks are balanced, and each of them knows what its control point says. -/
structure Controlled (s : Pool JobRuntime Control) : Prop where
  balanced : Balanced s.shared (countsOf s.tasks)
  good : ∀ control ∈ s.tasks, Good s.shared (countsOf s.tasks).closing control

/-- What a task and others count for. -/
theorem countsOf_cons (control : Control) (tasks : List Control) :
    countsOf (control :: tasks) = control.counts.add (countsOf tasks) := rfl

/-- What two groups of tasks count for. -/
theorem countsOf_append (first second : List Control) :
    countsOf (first ++ second) = (countsOf first).add (countsOf second) := by
  simp [countsOf, Counts.add]

/-- The order of the tasks does not matter to what they count for. -/
theorem countsOf_perm {tasks tasks' : List Control} (h : tasks.Perm tasks') :
    countsOf tasks = countsOf tasks' := by
  unfold countsOf
  rw [total_perm _ h, total_perm _ h, total_perm _ h, total_perm _ h, total_perm _ h,
    total_perm _ h]

/-- Adding counts may be regrouped. -/
theorem Counts.add_assoc (c c' c'' : Counts) : (c.add c').add c'' = c.add (c'.add c'') := by
  simp only [Counts.add, Nat.add_assoc]

/-- What a control point counts for fits together. -/
theorem Control.counts_fits (control : Control) : control.counts.Fits := by
  unfold Control.counts
  split <;> (try split) <;> exact ⟨by decide, by decide, by decide⟩

/-- What tasks count for fits together. -/
theorem countsOf_fits (tasks : List Control) : (countsOf tasks).Fits := by
  induction tasks with
  | nil => exact ⟨Nat.le_refl 0, Nat.le_refl 0, Nat.le_refl 0⟩
  | cons control tasks ih =>
      obtain ⟨h1, h2, h3⟩ := control.counts_fits
      obtain ⟨h1', h2', h3'⟩ := ih
      rw [countsOf_cons]
      constructor <;> simp only [Counts.add] <;> omega

/-- The order of the tasks does not matter. -/
theorem Controlled.perm {s : JobRuntime} {tasks tasks' : List Control}
    (h : Controlled ⟨s, tasks⟩) (hperm : tasks.Perm tasks') : Controlled ⟨s, tasks'⟩ := by
  obtain ⟨hbalanced, hgood⟩ := h
  rw [countsOf_perm hperm] at hbalanced hgood
  exact ⟨hbalanced, fun control hcontrol => hgood control (hperm.mem_iff.mpr hcontrol)⟩

/-- A task that moves keeps the job controlled. -/
theorem Controlled.step {s s' : JobRuntime} {p p' : Control} {others spawned : List Control}
    (h : Controlled ⟨s, p :: others⟩) (hstep : Step s s' p p' spawned (countsOf others)) :
    Controlled ⟨s', p' :: (spawned ++ others)⟩ := by
  have hcounts : countsOf (p' :: (spawned ++ others)) =
      (p'.counts.add (countsOf spawned)).add (countsOf others) := by
    rw [countsOf_cons, countsOf_append, Counts.add_assoc]
  constructor
  · rw [hcounts]
    exact hstep.balanced
  · rw [hcounts]
    intro control hcontrol
    rcases List.mem_append.mp (show control ∈ (p' :: spawned) ++ others from hcontrol) with
      hmem | hmem
    · exact hstep.good control hmem
    · refine (h.good control (List.mem_cons_of_mem p hmem)).frame hstep.later fun howner => ?_
      -- There is one owner, so a task that leaves the job to another does not own it.
      have hone : p.counts.owner + (countsOf others).owner ≤ 1 := h.balanced.one
      have hle : control.counts.owner ≤ (countsOf others).owner := by
        obtain ⟨task, htask⟩ := List.getElem?_of_mem hmem
        exact weight_le_total (·.counts.owner) htask
      exact hstep.leaves (by omega)

/-- A call that begins holds nothing. -/
theorem counts_of_isCall {control : Control} (h : control.isCall = true) :
    control.counts = {} ∧ ∀ s closing, Good s closing control := by
  unfold Control.isCall at h
  split at h
  · exact ⟨rfl, fun _ _ => ⟨nofun, trivial⟩⟩
  · exact ⟨rfl, fun _ _ => ⟨nofun, trivial⟩⟩
  · exact ⟨rfl, fun _ _ => ⟨nofun, trivial⟩⟩
  · cases h

/-- An orderly move keeps the job controlled. -/
theorem Controlled.move {s : Pool JobRuntime Control} {m : Move Control Input}
    (h : Controlled s) (horderly : Orderly s m) : Controlled (move s m) := by
  cases m with
  | start control =>
      by_cases hcall : control.isCall = true
      · obtain ⟨hcounts, hgood⟩ := counts_of_isCall hcall
        have hmove : Jobs.move s (.start control) = { s with tasks := s.tasks ++ [control] } :=
          if_pos hcall
        rw [hmove]
        have hsame : countsOf (s.tasks ++ [control]) = countsOf s.tasks := by
          rw [countsOf_append, countsOf_cons, hcounts]
          rfl
        constructor
        · rw [hsame]
          exact h.balanced
        · rw [hsame]
          intro other hother
          rcases List.mem_append.mp hother with hother | hother
          · exact h.good other hother
          · obtain rfl := List.mem_singleton.mp hother
            exact hgood _ _
      · have hmove : Jobs.move s (.start control) = s := if_neg hcall
        rw [hmove]
        exact h
  | resume task input =>
      show Controlled (s.move resume (.resume task input))
      rcases move_cases resume s (.resume task input) with ⟨_, heq, -⟩ | heq |
        ⟨task', input', p, s', p', spawned, heq, htask, hresume, hmove⟩
      · cases heq
      · rw [heq]
        exact h
      · cases heq
        rw [hmove]
        have hfinds : FindsInOrder s.shared input p := by simpa [Orderly, htask] using horderly
        -- the counts do not depend on the order of the tasks, so the one that moves is put first
        obtain ⟨others, hbefore, hafter⟩ := others_of_task htask
        have hperm : Controlled ⟨s.shared, p :: others⟩ := h.perm hbefore
        have hstep := resume_step
          ⟨hperm.balanced, hperm.good p List.mem_cons_self, countsOf_fits others⟩ hfinds hresume
        exact (hperm.step hstep).perm (hafter p' spawned).symm

/-- A job that nobody has touched is controlled. -/
theorem Quiescent.controlled {s : JobRuntime} (h : Quiescent s) : Controlled ⟨s, []⟩ := by
  obtain ⟨hrunning, hnotRunning, hnotRequested, htarget, hreturned⟩ := h
  refine ⟨⟨Nat.zero_le 1, ?_, nofun, fun h => absurd h hnotRunning, nofun,
    fun h => absurd h hnotRequested, fun _ h => ?_, ?_, fun h => ?_⟩, nofun⟩
  · rw [hrunning]
    rfl
  · rw [hrunning] at h
    cases h
  · rw [htarget]
    exact nofun
  · rw [hreturned] at h
    cases h

/-- A job is controlled after every orderly run. -/
theorem reached_controlled {s : JobRuntime} {moves : List (Move Control Input)}
    (hquiet : Quiescent s) (h : EachCall move Orderly ⟨s, []⟩ moves) :
    Controlled (reached s moves) :=
  run_invariant_of (P := Controlled) hquiet.controlled
    (fun _ _ hcontrolled horderly => hcontrolled.move horderly) h

/-! ## The protocol -/

/-- A call that has not returned. -/
def Control.inCall : Control → Bool
  | .start _ | .pause _ | .cancel _ | .finish none _ => true
  | _ => false

/-- At most one worker runs; nothing is asked of the target after the job has ended for its user; a
worker that runs is the one in the running map; and a job that is stored as running, or whose
cancellation was requested, has a worker when no call is in progress. -/
structure JobControlled (s : Pool JobRuntime Control) : Prop where
  oneWorker : ∀ (task task' : Nat) (control control' : Control), s.tasks[task]? = some control →
    s.tasks[task']? = some control' → control.worker.isSome → control'.worker.isSome → task = task'
  target : ∀ event ∈ s.shared.target, event.ended = false
  reachable : ∀ control ∈ s.tasks, ∀ token, control.worker = some token →
    s.shared.running = some token
  worker : (∀ control ∈ s.tasks, control.inCall = false) → s.shared.state.progresses = true →
    ∃ control ∈ s.tasks, control.worker.isSome

/-- A worker owns its job. -/
theorem owner_of_worker {control : Control} {token : Token} (h : control.worker = some token) :
    control.counts.owner = 1 ∧ control.token = some token := by
  unfold Control.worker at h
  split at h
  · exact ⟨rfl, h⟩
  · exact ⟨rfl, h⟩
  · exact ⟨rfl, h⟩
  · exact ⟨rfl, h⟩
  · subst h
    exact ⟨rfl, rfl⟩
  · cases h

/-- Outside of the calls, only a worker holds or closes a job. -/
theorem worker_of_counts {control : Control} (hcall : control.inCall = false)
    (hcounts : control.worker = none) :
    control.counts.holds = 0 ∧ control.counts.working = 0 ∧ control.counts.pending = 0 ∧
      control.counts.closing = 0 := by
  cases control with
  | start | pause | cancel => cases hcall
  | finish after point =>
      cases after with
      | none => cases hcall
      | some token =>
          cases point with
          | row => cases hcounts
          | operation | settle | retire => exact ⟨rfl, rfl, rfl, rfl⟩
  | work token point => cases hcounts
  | complete token point =>
      cases point with
      | result | pauseLost | failing => cases hcounts
      | settle | retire | remove => exact ⟨rfl, rfl, rfl, rfl⟩
  | ended => exact ⟨rfl, rfl, rfl, rfl⟩

/-- The job is controlled in every run in which each start claims the row while no token is
registered and does not find it terminal after it registered its own. -/
theorem job_control_protocol {s : JobRuntime} {moves : List (Move Control Input)}
    (hquiet : Quiescent s) (h : EachCall move Orderly ⟨s, []⟩ moves) :
    JobControlled (reached s moves) := by
  obtain ⟨hbalanced, hgood⟩ := reached_controlled hquiet h
  refine ⟨fun task task' control control' htask htask' hworker hworker' => ?_, hbalanced.target,
    fun control hcontrol token htoken => ?_, fun hcalls hprogresses => ?_⟩
  · by_contra hne
    obtain ⟨token, htoken⟩ := Option.isSome_iff_exists.mp hworker
    obtain ⟨token', htoken'⟩ := Option.isSome_iff_exists.mp hworker'
    have hle := weight_add_le_total (·.counts.owner) htask htask' hne
    have hone : total (·.counts.owner) (reached s moves).tasks ≤ 1 := hbalanced.one
    have howner := (owner_of_worker htoken).1
    have howner' := (owner_of_worker htoken').1
    omega
  · exact (hgood control hcontrol).token token (owner_of_worker htoken).2
  · by_contra hnone
    push Not at hnone
    -- without a worker the counts leave nobody who would bring the row on
    have hidle : ∀ control ∈ (reached s moves).tasks, control.worker = none := fun control hcontrol =>
      Option.not_isSome_iff_eq_none.mp (by simpa using hnone control hcontrol)
    have hcounts := fun control hcontrol =>
      worker_of_counts (hcalls control hcontrol) (hidle control hcontrol)
    have hholds : (countsOf (reached s moves).tasks).holds = 0 :=
      total_eq_zero.mpr fun control hcontrol => (hcounts control hcontrol).1
    have hworking : (countsOf (reached s moves).tasks).working = 0 :=
      total_eq_zero.mpr fun control hcontrol => (hcounts control hcontrol).2.1
    have hpending : (countsOf (reached s moves).tasks).pending = 0 :=
      total_eq_zero.mpr fun control hcontrol => (hcounts control hcontrol).2.2.1
    have hclosing : (countsOf (reached s moves).tasks).closing = 0 :=
      total_eq_zero.mpr fun control hcontrol => (hcounts control hcontrol).2.2.2
    unfold JobState.progresses at hprogresses
    rcases Bool.or_eq_true_iff.mp hprogresses with hstate | hstate
    · have := hbalanced.running (of_decide_eq_true hstate)
      omega
    · have hstored : (reached s moves).shared.state = .cancelRequested := by
        have := of_decide_eq_true hstate
        revert this
        cases (reached s moves).shared.state <;> decide
      have := hbalanced.requested hstored
      omega

/-- An import that waits to be started. -/
def waitingImport : JobRuntime :=
  { kind := .import, resumable := true, state := .queued, operation := .approved }

theorem waiting_import_quiescent : Quiescent waitingImport := ⟨rfl, nofun, nofun, rfl, rfl⟩

/-- Start an import, let its worker commit a batch, and cancel it. -/
def cancelledImport : List (Move Control Input) :=
  [.start (.start .begin), .resume 0 .proceed, .resume 0 .proceed, .resume 0 .proceed,
    .resume 0 .proceed, .resume 0 .proceed, .resume 0 .proceed, .resume 0 .proceed,
    .resume 0 .proceed, .resume 1 .proceed, .resume 1 .proceed, .resume 1 .proceed,
    .start (.cancel .begin), .resume 2 .proceed, .resume 2 .proceed, .resume 2 .proceed,
    .resume 1 (.answer .committed), .resume 2 .proceed, .resume 2 .proceed, .resume 1 .proceed,
    .resume 1 .proceed, .resume 1 .proceed, .resume 1 .proceed, .resume 1 .proceed]

theorem cancelled_import_controlled : JobControlled (reached waitingImport cancelledImport) :=
  job_control_protocol waiting_import_quiescent (by decide)

/-- A cancel call finds no token while a start waits for its operation, cancels the operation and
the row, and the start still spawns its worker. -/
def racingImport : List (Move Control Input) :=
  [.start (.start .begin), .resume 0 .proceed, .resume 0 .proceed, .resume 0 .proceed,
    .resume 0 .proceed, .start (.cancel .begin), .resume 1 .proceed, .resume 1 .proceed,
    .resume 1 .proceed, .resume 1 .proceed, .resume 1 .proceed, .resume 0 .proceed,
    .resume 0 .proceed, .resume 1 .proceed, .resume 1 .proceed, .resume 1 .proceed,
    .resume 0 .proceed, .resume 0 .proceed, .resume 2 .proceed, .resume 2 .proceed,
    .resume 1 .proceed, .resume 1 .proceed, .resume 1 .proceed, .resume 2 .proceed]

/-- The worker sends a batch although the cancel call has returned with the job cancelled. -/
theorem batch_after_cancelled :
    ¬ ∀ (s : JobRuntime) (moves : List (Move Control Input)), Quiescent s →
      JobControlled (reached s moves) := by
  intro h
  have htarget := (h waitingImport racingImport waiting_import_quiescent).target ⟨.batch, true⟩
    (by decide)
  cases htarget

end Dopedb.Jobs
