import Dopedb.Jobs.Control

/-!
# What the tasks of a job hold

A start that has claimed the row, and the worker it spawns, own the job; an owner that is in the
running map is registered there. A cancel call that has requested its cancellation and found no
token is closing the job. `Balanced` says how many of each there are, and `Good` what a task knows
at its control point. What a task knows survives the moves of the others: `Good.frame`.
-/

namespace Dopedb.Jobs

open Dopedb.Library
open Dopedb.Operations (OperationState ensureTransition)

/-- What a task counts for. -/
structure Counts where
  owner : Nat := 0
  registered : Nat := 0
  holds : Nat := 0
  working : Nat := 0
  pending : Nat := 0
  closing : Nat := 0

namespace Control

/-- The worker that runs at a control point: from when it is spawned to its last row update. -/
def worker : Control → Option Token
  | .work token _ | .complete token (.result _) | .complete token .pauseLost
  | .complete token (.failing _) => some token
  | .finish after .row => after
  | _ => none

/-- The token that a task is registered with. -/
def token : Control → Option Token
  | .start (.reread token) | .start (.spawn token _) | .work token _ | .complete token _ => some token
  | .finish after _ => after
  | _ => none

/-- What a task counts for. -/
def counts : Control → Counts
  | .start (.execute ..) | .start .register | .start (.refused _) | .start (.restore ..) =>
      { owner := 1, holds := 1 }
  | .start (.reread _) | .start (.spawn ..) | .work .. | .complete _ (.result _)
  | .complete _ .pauseLost | .complete _ (.failing _) =>
      { owner := 1, registered := 1, holds := 1, working := 1 }
  | .complete _ (.settle _) | .complete _ .retire | .complete _ .remove =>
      { owner := 1, registered := 1 }
  | .cancel .updated | .cancel (.signal _) => { pending := 1 }
  | .cancel (.operation updated) | .cancel (.settle updated _) =>
      if updated = .cancelRequested then { closing := 1 } else {}
  | .finish (some _) .row => { owner := 1, registered := 1, closing := 1 }
  | .finish none .row => { closing := 1 }
  | .finish (some _) _ => { owner := 1, registered := 1 }
  | _ => {}

end Control

namespace Counts

/-- The sum of what tasks count for. -/
def add (c c' : Counts) : Counts :=
  ⟨c.owner + c'.owner, c.registered + c'.registered, c.holds + c'.holds, c.working + c'.working,
    c.pending + c'.pending, c.closing + c'.closing⟩

/-- How the counts of every task fit together. -/
structure Fits (c : Counts) : Prop where
  holds : c.holds ≤ c.owner
  registered : c.registered ≤ c.owner
  owner : c.owner ≤ c.holds + c.registered

end Counts

/-- What tasks count for together. -/
def countsOf (tasks : List Control) : Counts :=
  ⟨total (·.counts.owner) tasks, total (·.counts.registered) tasks, total (·.counts.holds) tasks,
    total (·.counts.working) tasks, total (·.counts.pending) tasks, total (·.counts.closing) tasks⟩

/-- The counts fit the shared state, and nothing has happened after the end. -/
structure Balanced (s : JobRuntime) (c : Counts) : Prop where
  one : c.owner ≤ 1
  map : c.registered = if s.running.isSome then 1 else 0
  held : 1 ≤ c.holds → s.state.claimed = true
  running : s.state.stored = .running → 1 ≤ c.holds
  closing : 1 ≤ c.closing → s.state.doomed = true
  requested : s.state = .cancelRequested → 1 ≤ c.working + c.pending + c.closing
  busy : s.state.progresses = true → s.running.isSome → 1 ≤ c.working + c.closing
  target : ∀ event ∈ s.target, event.ended = false
  returned : s.returnedCancelled = true → s.state.terminal = true

/-- A worker may work: the row and the operation say so, and no cancel call is closing the job. -/
structure Works (s : JobRuntime) (closing : Nat) : Prop where
  state : s.state.progresses = true
  operation : s.operation = .executing
  closing : closing = 0

/-- What a task knows at its control point. -/
def Knows (s : JobRuntime) (closing : Nat) : Control → Prop
  | .start (.execute ..) | .start (.refused _) => s.state.claimed = true
  | .start (.restore _ latest) =>
      s.state.claimed = true ∧ (latest = .cancelRequested → s.state.doomed = true)
  | .start .register | .start (.reread _) =>
      s.state.claimed = true ∧ (s.operation = .executing ∨ s.state.doomed = true)
  | .start (.spawn _ latest) =>
      (latest = .cancelRequested → s.state.doomed = true) ∧
        (latest ≠ .cancelRequested → Works s closing)
  | .work .. | .complete _ (.result _) | .complete _ (.failing _) => Works s closing
  | .complete _ .pauseLost => Works s closing ∧ s.state = .cancelRequested
  | .complete _ (.settle _) | .complete _ .retire | .complete _ .remove =>
      s.state = .paused ∨ s.state.terminal = true
  | .cancel .updated | .finish _ .row => s.state.doomed = true
  | .cancel (.signal updated) | .cancel (.operation updated) | .cancel (.settle updated _) =>
      s.state.doomed = true ∧ updated.doomed = true ∧
        (updated.terminal = true → s.state.terminal = true)
  | .finish .. | .cancel (.retire _) => s.state.terminal = true
  | _ => True

/-- What a task knows, its token in the map included. -/
structure Good (s : JobRuntime) (closing : Nat) (control : Control) : Prop where
  token : ∀ token, control.token = some token → s.running = some token
  knows : Knows s closing control

/-- What a task that is no owner leaves to the owner. -/
structure Leaves (s s' : JobRuntime) (closing closing' : Nat) : Prop where
  running : s'.running = s.running
  claimed : s.state.claimed = true → s'.state.claimed = true
  operation : s.operation = .executing → s'.operation = .executing ∨ s'.state.doomed = true
  works : s.running.isSome → Works s closing → Works s' closing'
  ended : s.running.isSome → s.state = .paused ∨ s.state.terminal = true →
    s'.state = .paused ∨ s'.state.terminal = true

/-- `claim_running` gives the row to a start. -/
def ClaimGranted (s : JobRuntime) (input : Input) (current : JobState) (operation : OperationState) :
    Prop :=
  ¬(input = .refused ∨ operation = .pendingApproval ∨ current = .paused ∧ s.resumable = false) ∧
    s.state.claimRunning.isSome = true

/-- A start is given the row while no token is registered, and finds a job that has not ended after
it registered its own. -/
def FindsInOrder (s : JobRuntime) (input : Input) : Control → Prop
  | .start (.claim current operation) => ClaimGranted s input current operation → s.running = none
  | .start (.reread _) => s.state.terminal = false
  | _ => True

/-- A terminal state stays. -/
theorem terminal_later {state state' : JobState} (h : state.Later state')
    (hterminal : state.terminal = true) : state'.terminal = true := by
  rw [h.1 hterminal]
  exact hterminal

/-- What other tasks know survives a later state that leaves the owner alone. -/
theorem Good.frame {s s' : JobRuntime} {closing closing' : Nat} {control : Control}
    (h : Good s closing control) (hlater : s.state.Later s'.state)
    (hleaves : 1 ≤ control.counts.owner → Leaves s s' closing closing') :
    Good s' closing' control := by
  obtain ⟨htoken, hknows⟩ := h
  have hterminal := terminal_later hlater
  have hdoomed := hlater.2
  -- what the owner of the job knows needs the others to leave it alone; the rest only grows
  cases control with
  | start point =>
      cases point with
      | execute current operation | refused current =>
          exact ⟨nofun, (hleaves (Nat.le_refl 1)).claimed hknows⟩
      | restore current latest =>
          exact ⟨nofun, (hleaves (Nat.le_refl 1)).claimed hknows.1, fun h => hdoomed (hknows.2 h)⟩
      | register =>
          refine ⟨nofun, (hleaves (Nat.le_refl 1)).claimed hknows.1, ?_⟩
          rcases hknows.2 with h | h
          · exact (hleaves (Nat.le_refl 1)).operation h
          · exact .inr (hdoomed h)
      | reread token =>
          have hframe := hleaves (Nat.le_refl 1)
          refine ⟨fun t ht => hframe.running.trans (htoken t ht), hframe.claimed hknows.1, ?_⟩
          rcases hknows.2 with h | h
          · exact hframe.operation h
          · exact .inr (hdoomed h)
      | spawn token latest =>
          have hframe := hleaves (Nat.le_refl 1)
          have hrunning : s.running.isSome := by rw [htoken token rfl]; rfl
          exact ⟨fun t ht => hframe.running.trans (htoken t ht), fun h => hdoomed (hknows.1 h),
            fun h => hframe.works hrunning (hknows.2 h)⟩
      | begin | current | operation | claim => exact ⟨nofun, trivial⟩
  | pause point => exact ⟨nofun, trivial⟩
  | cancel point =>
      refine ⟨nofun, ?_⟩
      cases point with
      | begin | request | transition => exact trivial
      | updated => exact hdoomed hknows
      | signal updated | operation updated | settle updated operation =>
          exact ⟨hdoomed hknows.1, hknows.2.1, fun h => hterminal (hknows.2.2 h)⟩
      | retire updated => exact hterminal hknows
  | finish after point =>
      refine ⟨fun t ht => ?_, ?_⟩
      · obtain rfl : after = some t := ht
        have howner : 1 ≤ (Control.finish (some t) point).counts.owner := by
          cases point <;> exact Nat.le_refl 1
        exact (hleaves howner).running.trans (htoken t rfl)
      · cases point with
        | row => exact hdoomed hknows
        | operation | settle | retire => exact hterminal hknows
  | work token point =>
      have hframe := hleaves (Nat.le_refl 1)
      have hrunning : s.running.isSome := by rw [htoken token rfl]; rfl
      exact ⟨fun t ht => hframe.running.trans (htoken t ht), hframe.works hrunning hknows⟩
  | complete token point =>
      have howner : 1 ≤ (Control.complete token point).counts.owner := by
        cases point <;> exact Nat.le_refl 1
      have hframe := hleaves howner
      have hrunning : s.running.isSome := by rw [htoken token rfl]; rfl
      refine ⟨fun t ht => hframe.running.trans (htoken t ht), ?_⟩
      cases point with
      | result result | failing unknown => exact hframe.works hrunning hknows
      | pauseLost =>
          have hworks := hframe.works hrunning hknows.1
          have hlost := hdoomed (by rw [hknows.2]; rfl)
          refine ⟨hworks, ?_⟩
          have hstate := hworks.state
          revert hstate hlost
          cases s'.state <;> decide
      | settle | retire | remove => exact hframe.ended hrunning hknows
  | ended => exact ⟨nofun, trivial⟩

end Dopedb.Jobs
