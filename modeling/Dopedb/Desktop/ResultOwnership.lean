import Mathlib.Data.List.Basic
import Dopedb.Desktop.ResultStream
import Dopedb.Library.Runs

/-!
# Who holds a SQL result view

`Sound` is the invariant of the hook while no call takes the view from a run that still waits for a
commit or has a controller. The lemmas say what keeps it, one small change of the state at a time.
-/

namespace Dopedb.Desktop

open Library

/-! ## The invariant -/

/-- The promise that a call waits for. -/
def CallPoint.awaits : CallPoint → Option Nat
  | .connecting commit | .finishing commit | .failing commit _ | .resetting commit => some commit
  | _ => none

/-- The call has no controller yet, and gets one only from here. -/
def CallPoint.isEarly : CallPoint → Bool
  | .connecting _ | .resetting _ => true
  | _ => false

/-- The call streams, or is about to. -/
def CallPoint.isRunning : CallPoint → Bool
  | .connecting _ | .streaming => true
  | _ => false

/-- The view shows pages that its run accepted, from the first one on, and is complete only under a
receipt that matches them. -/
def Faithful (record : StreamRun) (view : SqlStreamViewState) : Prop :=
  ∃ batches, batches <+: record.accepted ∧ Consists batches view ∧
    (view.phase = .complete → ∃ receipt, record.completion = some (.ok receipt) ∧
      ReceiptMatches receipt batches view)

/-- The record of a run fits the hook. -/
structure RunSound (s : ResultStream) (run : Nat) (record : StreamRun) : Prop where
  held : record.controller = true →
    s.activeRun = some run ∧ record.created = true ∧ record.cancels = 0
  uncreated : record.created = false → record.cancels = 0
  once : record.created = true → record.controller = false →
    record.cancels = 1 ∨ record.cancels = 0 ∧ record.active = false ∧ record.invalidated = false
  awaits : ∀ commit, record.call.awaits = some commit → commit < s.commits.length
  early : record.call.isEarly = true → record.created = false
  unhanded : ∀ commit, record.call = .resetting commit → record.handed = false
  single : ∀ commit, record.call = .resetting commit →
    ∀ index pending, s.commits[index]? = some pending → pending.run = run → index = commit
  running : record.call.isRunning = true → s.activeRun = some run → s.mounted = true →
    s.stateRef.isOpen = true

/-- A promise fits the hook. -/
structure CommitSound (s : ResultStream) (pending : PendingCommit) : Prop where
  known : pending.run ≤ s.nextRunId
  waiting : pending.answer = .waiting →
    s.activeRun = some pending.run ∧ s.mounted = true ∧ s.queued ≠ []
  resolved : ∀ shownRun, pending.answer = .resolved shownRun → shownRun = pending.run

/-- The invariant of the hook. -/
structure Sound (s : ResultStream) : Prop where
  last : s.stateRef = s.queued.getLast?.getD s.shown
  fresh : ∀ run, s.nextRunId < run → s.runs run = {}
  views : ∀ view, view = s.shown ∨ view ∈ s.queued → Faithful (s.runs view.runId) view
  whole : s.stateRef.isOpen = true → Whole (s.runs s.stateRef.runId).accepted s.stateRef
  owner : ∀ run, s.activeRun = some run → run ≤ s.nextRunId ∧ (s.runs run).active = true ∧
    (s.runs run).invalidated = false ∧ (s.mounted = true → s.stateRef.runId = run)
  runs : ∀ run, RunSound s run (s.runs run)
  commits : ∀ pending ∈ s.commits, CommitSound s pending

/-- The state that is set last is shown already or is still to be shown. -/
theorem Sound.state_ref (h : Sound s) : s.stateRef = s.shown ∨ s.stateRef ∈ s.queued := by
  rw [h.last]
  cases hlast : s.queued.getLast? with
  | none => exact .inl rfl
  | some view => exact .inr (List.mem_of_getLast? hlast)

/-- The record of a run that no call has taken. -/
theorem run_sound_fresh (s : ResultStream) (run : Nat) : RunSound s run {} where
  held := nofun
  uncreated := fun _ => rfl
  once := nofun
  awaits := nofun
  early := nofun
  unhanded := nofun
  single := nofun
  running := nofun

/-- A hook that nobody has called. -/
theorem sound_start : Sound {} where
  last := rfl
  fresh := fun _ _ => rfl
  views := by
    intro view hview
    rcases hview with rfl | hmem
    · exact ⟨[], List.prefix_rfl, .of_empty rfl rfl fun _ => rfl, nofun⟩
    · cases hmem
  whole := nofun
  owner := nofun
  runs := fun run => run_sound_fresh _ run
  commits := nofun

/-! ## Records of runs -/

/-- The record keeps its flags, its pages and its receipt. -/
structure Continues (record record' : StreamRun) : Prop where
  active : record'.active = record.active
  invalidated : record'.invalidated = record.invalidated
  accepted : record'.accepted = record.accepted
  completion : record.completion ≠ none → record'.completion = record.completion

/-- The record also keeps its controller. -/
structure Keeps (record record' : StreamRun) : Prop extends Continues record record' where
  controller : record'.controller = record.controller
  created : record'.created = record.created
  cancels : record'.cancels = record.cancels

/-- A view stays faithful when its run accepts more pages. -/
theorem Faithful.mono {record record' : StreamRun} {view : SqlStreamViewState}
    (h : Faithful record view) (haccepted : record.accepted <+: record'.accepted)
    (hcompletion : record.completion ≠ none → record'.completion = record.completion) :
    Faithful record' view := by
  obtain ⟨batches, hleads, hconsists, hcomplete⟩ := h
  refine ⟨batches, hleads.trans haccepted, hconsists, fun hphase => ?_⟩
  obtain ⟨receipt, hreceipt, hmatches⟩ := hcomplete hphase
  have hkept := hcompletion (by rw [hreceipt]; exact nofun)
  exact ⟨receipt, hkept.trans hreceipt, hmatches⟩

/-- A record that keeps its controller fits the hook when its call does. -/
theorem RunSound.keep {s : ResultStream} {run : Nat} {record record' : StreamRun}
    (h : RunSound s run record) (hkeeps : Keeps record record')
    (hawaits : ∀ commit, record'.call.awaits = some commit → commit < s.commits.length)
    (hearly : record'.call.isEarly = true → record'.created = false)
    (hunhanded : ∀ commit, record'.call = .resetting commit → record'.handed = false)
    (hsingle : ∀ commit, record'.call = .resetting commit →
      ∀ index pending, s.commits[index]? = some pending → pending.run = run → index = commit)
    (hrunning : record'.call.isRunning = true → s.activeRun = some run → s.mounted = true →
      s.stateRef.isOpen = true) : RunSound s run record' where
  held := by
    rw [hkeeps.controller, hkeeps.created, hkeeps.cancels]
    exact h.held
  uncreated := by
    rw [hkeeps.created, hkeeps.cancels]
    exact h.uncreated
  once := by
    rw [hkeeps.created, hkeeps.controller, hkeeps.cancels, hkeeps.active, hkeeps.invalidated]
    exact h.once
  awaits := hawaits
  early := hearly
  unhanded := hunhanded
  single := hsingle
  running := hrunning

namespace ResultStream

@[simp] theorem set_run_self (s : ResultStream) (run : Nat) (change : StreamRun → StreamRun) :
    (s.setRun run change).runs run = change (s.runs run) := if_pos rfl

/-- Other runs keep their records. -/
theorem set_run_other {s : ResultStream} {run id : Nat} (hne : id ≠ run)
    (change : StreamRun → StreamRun) : (s.setRun run change).runs id = s.runs id := if_neg hne

end ResultStream

/-- Changing a known record into one that fits the hook keeps the invariant. -/
theorem Sound.set_run {s : ResultStream} (h : Sound s) {run : Nat} (hrun : run ≤ s.nextRunId)
    {change : StreamRun → StreamRun} (hkeeps : Continues (s.runs run) (change (s.runs run)))
    (hsound : RunSound s run (change (s.runs run))) : Sound (s.setRun run change) where
  last := h.last
  fresh := by
    intro id hid
    rw [ResultStream.set_run_other (Nat.lt_of_le_of_lt hrun hid).ne']
    exact h.fresh id hid
  views := by
    intro view hview
    by_cases hid : view.runId = run
    · have hold := h.views view hview
      rw [hid] at hold ⊢
      rw [ResultStream.set_run_self]
      exact hold.mono (by rw [hkeeps.accepted]) hkeeps.completion
    · rw [ResultStream.set_run_other hid]
      exact h.views view hview
  whole := by
    intro hopen
    have hold := h.whole hopen
    show Whole ((s.setRun run change).runs s.stateRef.runId).accepted s.stateRef
    by_cases hid : s.stateRef.runId = run
    · rw [hid] at hold ⊢
      rw [ResultStream.set_run_self, hkeeps.accepted]
      exact hold
    · rw [ResultStream.set_run_other hid]
      exact hold
  owner := by
    intro id hid
    obtain ⟨hknown, hactive, hinvalidated, hstate⟩ := h.owner id hid
    by_cases hrun : id = run
    · subst hrun
      rw [ResultStream.set_run_self, hkeeps.active, hkeeps.invalidated]
      exact ⟨hknown, hactive, hinvalidated, hstate⟩
    · rw [ResultStream.set_run_other hrun]
      exact ⟨hknown, hactive, hinvalidated, hstate⟩
  runs := by
    intro id
    by_cases hid : id = run
    · subst hid
      rw [ResultStream.set_run_self]
      exact { hsound with }
    · rw [ResultStream.set_run_other hid]
      exact { h.runs id with }
  commits := fun pending hmem => { h.commits pending hmem with }

/-! ## States and promises -/

/-- A faithful state of the run that holds the view is set. -/
theorem Sound.set_stream {s : ResultStream} (h : Sound s) {next : SqlStreamViewState}
    (hfaithful : Faithful (s.runs next.runId) next)
    (hwhole : next.isOpen = true → Whole (s.runs next.runId).accepted next)
    (howner : ∀ run, s.activeRun = some run → s.mounted = true → next.runId = run ∧
      ((s.runs run).call.isRunning = true → next.isOpen = true)) : Sound (s.setStream next) where
  last := by
    show next = (s.queued ++ [next]).getLast?.getD s.shown
    rw [List.getLast?_append, List.getLast?_singleton]
    rfl
  fresh := h.fresh
  views := by
    intro view hview
    rcases hview with hshown | hmem
    · exact h.views view (.inl hshown)
    · rcases List.mem_append.mp hmem with hold | hnew
      · exact h.views view (.inr hold)
      · rw [List.mem_singleton.mp hnew]
        exact hfaithful
  whole := hwhole
  owner := by
    intro run hrun
    obtain ⟨hknown, hactive, hinvalidated, -⟩ := h.owner run hrun
    exact ⟨hknown, hactive, hinvalidated, fun hmounted => (howner run hrun hmounted).1⟩
  runs := fun run => { h.runs run with
    running := fun hcall hrun hmounted => (howner run hrun hmounted).2 hcall }
  commits := fun pending hmem => { h.commits pending hmem with
    waiting := fun hwaiting => by
      obtain ⟨hrun, hmounted, -⟩ := (h.commits pending hmem).waiting hwaiting
      exact ⟨hrun, hmounted, List.append_ne_nil_of_right_ne_nil _ (List.cons_ne_nil _ _)⟩ }

/-- The promise of a commit is added. -/
theorem Sound.push {s : ResultStream} (h : Sound s) {pending : PendingCommit}
    (hsound : CommitSound s pending)
    (hcall : ∀ commit, (s.runs pending.run).call ≠ .resetting commit) :
    Sound { s with commits := s.commits ++ [pending] } where
  last := h.last
  fresh := h.fresh
  views := h.views
  whole := h.whole
  owner := h.owner
  runs := by
    intro run
    refine { h.runs run with awaits := ?_, single := ?_ }
    · intro commit hawaits
      show commit < (s.commits ++ [pending]).length
      rw [List.length_append]
      exact Nat.lt_add_right _ ((h.runs run).awaits commit hawaits)
    · intro commit hresetting index other hother hrun
      rw [show ({ s with commits := s.commits ++ [pending] } : ResultStream).commits =
        s.commits ++ [pending] from rfl, List.getElem?_append] at hother
      split at hother
      · exact (h.runs run).single commit hresetting index other hother hrun
      · obtain rfl := List.mem_singleton.mp (List.mem_of_getElem? hother)
        exact absurd hresetting (hrun ▸ hcall commit)
  commits := by
    intro other hmem
    rcases List.mem_append.mp hmem with hold | hnew
    · exact { h.commits other hold with }
    · rw [List.mem_singleton.mp hnew]
      exact { hsound with }

/-- What settling does to a promise. -/
theorem ResultStream.mem_settle_pending {s : ResultStream} {run : Nat} {answer : CommitAnswer}
    {pending : PendingCommit} (hmem : pending ∈ (s.settlePending run answer).commits) :
    ∃ before ∈ s.commits, pending.run = before.run ∧
      (pending.answer = before.answer ∧ ¬(pending.run = run ∧ pending.answer = .waiting) ∨
        pending.run = run ∧ pending.answer = answer) := by
  obtain ⟨before, hbefore, rfl⟩ := List.mem_map.mp hmem
  refine ⟨before, hbefore, ?_⟩
  by_cases hwaits : before.run = run ∧ before.answer = .waiting
  · rw [if_pos hwaits]
    exact ⟨rfl, .inr ⟨hwaits.1, rfl⟩⟩
  · rw [if_neg hwaits]
    exact ⟨rfl, .inl ⟨rfl, hwaits⟩⟩

/-- Settling keeps the number of promises and the runs they are for. -/
theorem ResultStream.get_settle_pending {s : ResultStream} {run : Nat} {answer : CommitAnswer}
    {index : Nat} {pending : PendingCommit}
    (hget : (s.settlePending run answer).commits[index]? = some pending) :
    ∃ before, s.commits[index]? = some before ∧ before.run = pending.run := by
  simp only [ResultStream.settlePending, List.getElem?_map, Option.map_eq_some_iff] at hget
  obtain ⟨before, hbefore, rfl⟩ := hget
  exact ⟨before, hbefore, by split <;> rfl⟩

/-- The records of the runs fit a hook whose promises are settled. -/
theorem RunSound.settle_pending {s : ResultStream} {run id : Nat} {answer : CommitAnswer}
    {record : StreamRun} (h : RunSound s id record) :
    RunSound (s.settlePending run answer) id record := by
  refine { h with awaits := ?_, single := ?_ }
  · intro commit hawaits
    show commit < (s.commits.map _).length
    rw [List.length_map]
    exact h.awaits commit hawaits
  · intro commit hresetting index pending hget hrun
    obtain ⟨before, hbefore, hsame⟩ := ResultStream.get_settle_pending hget
    exact h.single commit hresetting index before hbefore (hsame.trans hrun)

/-- The run that holds the view gives it up, and its promises are rejected. -/
theorem Sound.give_up {s : ResultStream} (h : Sound s) {run : Nat} (howner : s.activeRun = some run)
    {change : StreamRun → StreamRun}
    (haccepted : (change (s.runs run)).accepted = (s.runs run).accepted)
    (hcompletion : (change (s.runs run)).completion = (s.runs run).completion)
    (hsound : RunSound { s with activeRun := none } run (change (s.runs run))) :
    Sound ((s.setRun run change).release run) := by
  have hrelease : (s.setRun run change).release run =
      { s.setRun run change with activeRun := none }.settlePending run .rejected := by
    unfold ResultStream.release
    rw [if_pos (show (s.setRun run change).activeRun = some run from howner)]
  rw [hrelease]
  have hrecord : ∀ id, (change (s.runs run)).accepted = (s.runs run).accepted ∧
      (((s.setRun run change).runs id).accepted = (s.runs id).accepted ∧
        ((s.setRun run change).runs id).completion = (s.runs id).completion) := by
    intro id
    refine ⟨haccepted, ?_⟩
    by_cases hid : id = run
    · subst hid
      rw [ResultStream.set_run_self]
      exact ⟨haccepted, hcompletion⟩
    · rw [ResultStream.set_run_other hid]
      exact ⟨rfl, rfl⟩
  constructor
  case last => exact h.last
  case fresh =>
    intro id hid
    show (s.setRun run change).runs id = {}
    rw [ResultStream.set_run_other (Nat.lt_of_le_of_lt (h.owner run howner).1 hid).ne']
    exact h.fresh id hid
  case views =>
    intro view hview
    obtain ⟨-, hacc, hcomp⟩ := hrecord view.runId
    exact (h.views view hview).mono (by rw [← hacc]; exact List.prefix_rfl) fun _ => hcomp
  case whole =>
    intro hopen
    show Whole ((s.setRun run change).runs s.stateRef.runId).accepted s.stateRef
    rw [(hrecord _).2.1]
    exact h.whole hopen
  case owner => exact nofun
  case runs =>
    intro id
    refine RunSound.settle_pending ?_
    show RunSound _ id ((s.setRun run change).runs id)
    by_cases hid : id = run
    · subst hid
      rw [ResultStream.set_run_self]
      exact { hsound with }
    · rw [ResultStream.set_run_other hid]
      refine { h.runs id with held := ?_, running := nofun }
      intro hcontroller
      -- another run with a controller would hold the view too
      have hholds := ((h.runs id).held hcontroller).1
      exact absurd (Option.some.inj (hholds.symm.trans howner)) hid
  case commits =>
    intro pending hmem
    obtain ⟨before, hbefore, hsame, hanswer⟩ := ResultStream.mem_settle_pending hmem
    have hold := h.commits before hbefore
    constructor
    case known => rw [hsame]; exact hold.known
    case waiting =>
      intro hwaiting
      -- a waiting commit belongs to the run that holds the view, and those are rejected here
      rcases hanswer with ⟨hkept, hnot⟩ | ⟨-, hrejected⟩
      · have hrun := (hold.waiting (hkept.symm.trans hwaiting)).1
        rw [howner, ← hsame] at hrun
        exact absurd ⟨(Option.some.inj hrun).symm, hwaiting⟩ hnot
      · rw [hrejected] at hwaiting
        cases hwaiting
    case resolved =>
      intro shownRun hresolved
      rcases hanswer with ⟨hkept, -⟩ | ⟨-, hrejected⟩
      · rw [hsame]
        exact hold.resolved shownRun (hkept.symm.trans hresolved)
      · rw [hrejected] at hresolved
        cases hresolved

/-! ## Commits of React -/

/-- The state that is set last stays the last one that is set or shown. -/
theorem last_after_commit {s : ResultStream} (h : Sound s) {index : Nat}
    {view : SqlStreamViewState} (hnext : s.queued[index]? = some view) :
    s.stateRef = (s.queued.drop (index + 1)).getLast?.getD view := by
  rw [h.last, List.getLast?_drop]
  split
  · next hend =>
      obtain ⟨hlt, -⟩ := List.getElem?_eq_some_iff.mp hnext
      have hindex : index = s.queued.length - 1 := by omega
      rw [List.getLast?_eq_getElem?, ← hindex, hnext]
      rfl
  · next hmore =>
      cases hlast : s.queued.getLast? with
      | none =>
          rw [List.getLast?_eq_none_iff.mp hlast] at hnext
          cases hnext
      | some _ => rfl

/-- A state that is shown leaves a hook that is sound but for the promises. -/
theorem Sound.show_next {s : ResultStream} (h : Sound s) {index : Nat} {next : SqlStreamViewState}
    (hnext : s.queued[index]? = some next)
    (hcommits : ∀ pending ∈ s.commits, pending.answer = .waiting →
      s.queued.drop (index + 1) ≠ []) :
    Sound { s with shown := next, queued := s.queued.drop (index + 1) } where
  last := last_after_commit h hnext
  fresh := h.fresh
  views := by
    intro view hview
    rcases hview with rfl | hmem
    · exact h.views view (.inr (List.mem_of_getElem? hnext))
    · exact h.views view (.inr (List.mem_of_mem_drop hmem))
  whole := h.whole
  owner := h.owner
  runs := fun run => { h.runs run with }
  commits := fun pending hmem => { h.commits pending hmem with
    waiting := fun hwaiting => by
      obtain ⟨hrun, hmounted, -⟩ := (h.commits pending hmem).waiting hwaiting
      exact ⟨hrun, hmounted, hcommits pending hmem hwaiting⟩ }

/-- The run that holds the view owns it while the hook is mounted. -/
theorem Sound.owns {s : ResultStream} (h : Sound s) {run : Nat} (hrun : s.activeRun = some run)
    (hmounted : s.mounted = true) : s.owns run = true := by
  unfold ResultStream.owns
  rw [hmounted, (h.owner run hrun).2.1, hrun]
  simp

/-- A run that owns the view holds it, in a mounted hook whose last state is of the run. -/
theorem Sound.of_owns {s : ResultStream} (h : Sound s) {run : Nat} (howns : s.owns run = true) :
    s.activeRun = some run ∧ s.mounted = true ∧ s.stateRef.runId = run := by
  unfold ResultStream.owns at howns
  simp only [Bool.and_eq_true, decide_eq_true_eq] at howns
  obtain ⟨⟨hmounted, -⟩, hrun⟩ := howns
  exact ⟨hrun, hmounted, (h.owner run hrun).2.2.2 hmounted⟩

/-- The promises of the run whose state is shown are resolved. -/
theorem Sound.resolve {s : ResultStream} (h : Sound s) {run : Nat} :
    Sound (s.settlePending run (.resolved run)) where
  last := h.last
  fresh := h.fresh
  views := h.views
  whole := h.whole
  owner := h.owner
  runs := fun id => (h.runs id).settle_pending
  commits := by
    intro pending hmem
    obtain ⟨before, hbefore, hsame, hanswer⟩ := ResultStream.mem_settle_pending hmem
    have hold := h.commits before hbefore
    constructor
    case known => rw [hsame]; exact hold.known
    case waiting =>
      intro hwaiting
      rcases hanswer with ⟨hkept, -⟩ | ⟨-, hresolved⟩
      · rw [hsame]
        exact hold.waiting (hkept.symm.trans hwaiting)
      · rw [hresolved] at hwaiting
        cases hwaiting
    case resolved =>
      intro shownRun hresolved
      rcases hanswer with ⟨hkept, -⟩ | ⟨hrun, hnow⟩
      · rw [hsame]
        exact hold.resolved shownRun (hkept.symm.trans hresolved)
      · rw [hnow] at hresolved
        cases hresolved
        exact hrun.symm

/-- The layout effect resolves the promises of the run whose state is shown, or does nothing. -/
theorem ResultStream.layout_effect_cases (s : ResultStream) :
    (∃ run, s.activeRun = some run ∧ s.shown.runId = run ∧
      s.layoutEffect = s.settlePending run (.resolved run)) ∨
    ((∀ run, s.activeRun = some run → s.owns run = true → s.shown.runId ≠ run) ∧
      s.layoutEffect = s) := by
  unfold ResultStream.layoutEffect
  cases hrun : s.activeRun with
  | none => exact .inr ⟨nofun, rfl⟩
  | some run =>
      by_cases hshown : s.shown.runId = run
      · cases howns : s.owns run with
        | true =>
            refine .inl ⟨run, rfl, hshown, ?_⟩
            simp [hshown, howns]
        | false =>
            refine .inr ⟨?_, by simp [howns]⟩
            intro other hother
            cases hother
            rw [howns]
            exact nofun
      · refine .inr ⟨?_, by simp [hshown]⟩
        intro other hother _
        cases hother
        exact hshown

/-- A commit of React keeps the invariant. -/
theorem Sound.react {s : ResultStream} (h : Sound s) (index : Nat) : Sound (s.react index) := by
  unfold ResultStream.react
  cases hnext : s.queued[index]? with
  | none => exact h
  | some next =>
      show Sound (if s.mounted then _ else s)
      by_cases hmounted : s.mounted = true
      · rw [if_pos hmounted]
        rcases ResultStream.layout_effect_cases
          { s with shown := next, queued := s.queued.drop (index + 1) } with
          ⟨run, hrun, hshown, heffect⟩ | ⟨hother, heffect⟩
        · -- the promises of the run that holds the view are all there are
          rw [heffect]
          have hnone : ∀ pending ∈ (s.settlePending run (.resolved run)).commits,
              pending.answer = .waiting → s.queued.drop (index + 1) ≠ [] := by
            intro pending hmem hwaiting
            obtain ⟨before, hbefore, hsame, hanswer⟩ := ResultStream.mem_settle_pending hmem
            rcases hanswer with ⟨hkept, hnot⟩ | ⟨-, hresolved⟩
            · have hholds := ((h.commits before hbefore).waiting (hkept.symm.trans hwaiting)).1
              rw [show s.activeRun = some run from hrun, ← hsame] at hholds
              exact absurd ⟨(Option.some.inj hholds).symm, hwaiting⟩ hnot
            · rw [hresolved] at hwaiting
              cases hwaiting
          exact h.resolve.show_next (s := s.settlePending run (.resolved run)) hnext hnone
        · rw [heffect]
          refine h.show_next hnext ?_
          intro pending hmem hwaiting hempty
          obtain ⟨hholds, -, -⟩ := (h.commits pending hmem).waiting hwaiting
          have hlast := last_after_commit h hnext
          rw [hempty] at hlast
          have hstate := (h.owner _ hholds).2.2.2 hmounted
          rw [hlast] at hstate
          exact hother _ hholds (h.owns hholds hmounted) hstate
      · rw [if_neg hmounted]
        exact h

end Dopedb.Desktop
