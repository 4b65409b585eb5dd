import Dopedb.Desktop.ResultOwnership

/-!
# The steps of a SQL result view

Each stretch of the hook keeps the invariant; a call that takes the view does so when the run that
holds it waits for no commit and has no controller.
-/

namespace Dopedb.Desktop

open ResultStream

/-! ## Fields of the hook -/

/-- The numbers of waiting calls do not matter. -/
theorem Sound.counters {s : ResultStream} (h : Sound s) (starting resetting : Nat) :
    Sound { s with starting, resetting } where
  last := h.last
  fresh := h.fresh
  views := h.views
  whole := h.whole
  owner := h.owner
  runs := fun run => { h.runs run with }
  commits := fun pending hmem => { h.commits pending hmem with }

/-- While nobody holds the view the hook may be mounted or not. -/
theorem Sound.mount {s : ResultStream} (h : Sound s) (hfree : s.activeRun = none) (mounted : Bool) :
    Sound { s with mounted } where
  last := h.last
  fresh := h.fresh
  views := h.views
  whole := h.whole
  owner := fun _ hrun => absurd (hfree.symm.trans hrun) nofun
  runs := fun run => { h.runs run with
    running := fun _ hrun => absurd (hfree.symm.trans hrun) nofun }
  commits := fun pending hmem => { h.commits pending hmem with
    waiting := fun hwaiting =>
      absurd (hfree.symm.trans ((h.commits pending hmem).waiting hwaiting).1) nofun }

/-- A run whose record is not the one of an untaken run is known. -/
theorem Sound.known {s : ResultStream} (h : Sound s) {run : Nat} (htaken : s.runs run ≠ {}) :
    run ≤ s.nextRunId := by
  by_contra hbeyond
  exact htaken (h.fresh run (by omega))

/-! ## Places of a call -/

/-- A call goes to a place that is neither early nor running. -/
theorem Sound.set_call {s : ResultStream} (h : Sound s) {run : Nat} (hrun : run ≤ s.nextRunId)
    {call : CallPoint} (hearly : call.isEarly = false) (hrunning : call.isRunning = false)
    (hawaits : ∀ commit, call.awaits = some commit → commit < s.commits.length) :
    Sound (s.setCall run call) := by
  have hnever : ∀ commit, call ≠ .resetting commit := by
    intro commit hcall
    rw [hcall] at hearly
    cases hearly
  refine h.set_run hrun ⟨rfl, rfl, rfl, fun _ => rfl⟩ ?_
  refine (h.runs run).keep ⟨⟨rfl, rfl, rfl, fun _ => rfl⟩, rfl, rfl, rfl⟩ hawaits ?_ ?_ ?_ ?_
  · intro hcall
    exact absurd (hearly.symm.trans hcall) nofun
  · intro commit hcall
    exact absurd hcall (hnever commit)
  · intro commit hcall
    exact absurd hcall (hnever commit)
  · intro hcall
    exact absurd (hrunning.symm.trans hcall) nofun

/-- The promise of a run that does not own the view is rejected at once. -/
theorem Sound.commit_stale {s : ResultStream} (h : Sound s) {run : Nat} (hstale : s.owns run = false)
    (hrun : run ≤ s.nextRunId) (hcall : ∀ commit, (s.runs run).call ≠ .resetting commit)
    (next : SqlStreamViewState) (changed : Bool) : Sound (s.commit run next changed) := by
  unfold ResultStream.commit
  rw [if_neg (by rw [hstale]; exact nofun)]
  exact h.push ⟨hrun, nofun, nofun⟩ hcall

/-- A run that owns the view commits a faithful state of its own. -/
theorem Sound.commit_owned {s : ResultStream} (h : Sound s) {run : Nat} (howns : s.owns run = true)
    (hcall : ∀ commit, (s.runs run).call ≠ .resetting commit) {next : SqlStreamViewState}
    (hnext : next.runId = run) (hfaithful : Faithful (s.runs run) next)
    (hwhole : next.isOpen = true → Whole (s.runs run).accepted next)
    (hrunning : (s.runs run).call.isRunning = true → next.isOpen = true) :
    Sound (s.commit run next true) := by
  obtain ⟨hholds, hmounted, -⟩ := h.of_owns howns
  subst hnext
  unfold ResultStream.commit
  rw [if_pos howns]
  have hpending : CommitSound (s.setStream next) { run := next.runId } :=
    ⟨(h.owner _ hholds).1, fun _ => ⟨hholds, hmounted,
      List.append_ne_nil_of_right_ne_nil _ (List.cons_ne_nil _ _)⟩, nofun⟩
  refine (h.set_stream hfaithful hwhole ?_).push hpending hcall
  intro id hid _
  obtain rfl : next.runId = id := Option.some.inj (hholds.symm.trans hid)
  exact ⟨rfl, hrunning⟩

/-- Only the last place of a call matters. -/
theorem ResultStream.set_call_set_call (s : ResultStream) (run : Nat) (before after : CallPoint) :
    (s.setCall run before).setCall run after = s.setCall run after := by
  have hruns : ((s.setCall run before).setCall run after).runs = (s.setCall run after).runs := by
    funext id
    simp only [ResultStream.setCall, ResultStream.setRun]
    split <;> rfl
  show { s with runs := ((s.setCall run before).setCall run after).runs } = _
  rw [hruns]
  rfl

/-- The place of a call does not decide who owns the view. -/
theorem ResultStream.owns_set_call (s : ResultStream) (run : Nat) (call : CallPoint) :
    (s.setCall run call).owns run = s.owns run := by
  unfold ResultStream.owns ResultStream.setCall
  rw [ResultStream.set_run_self]
  rfl

/-- A commit does not read the place of a call. -/
theorem ResultStream.commit_set_call (s : ResultStream) (run : Nat) (call : CallPoint)
    (next : SqlStreamViewState) (changed : Bool) :
    (s.setCall run call).commit run next changed = (s.commit run next changed).setCall run call := by
  unfold ResultStream.commit
  rw [ResultStream.owns_set_call]
  cases s.owns run with
  | false => rfl
  | true => cases changed <;> rfl

/-- The place where the call stood before it commits does not matter. -/
theorem ResultStream.await_commit_eq (s : ResultStream) (run : Nat) (next : SqlStreamViewState)
    (changed : Bool) (call : Nat → CallPoint) :
    s.awaitCommit run next changed call =
      ((s.setCall run .returned).commit run next changed).setCall run (call s.commits.length) := by
  rw [ResultStream.commit_set_call, ResultStream.set_call_set_call]
  rfl

/-- A commit adds one promise. -/
theorem ResultStream.length_commit (s : ResultStream) (run : Nat) (next : SqlStreamViewState)
    (changed : Bool) : (s.commit run next changed).commits.length = s.commits.length + 1 := by
  unfold ResultStream.commit
  split
  · cases changed <;> exact List.length_append
  · exact List.length_append

/-- A run that owns the view commits a faithful state and waits, in a place behind its stream. -/
theorem Sound.await_commit {s : ResultStream} (h : Sound s) {run : Nat} (howns : s.owns run = true)
    {next : SqlStreamViewState} (hnext : next.runId = run)
    (hfaithful : Faithful (s.runs run) next) (hclosed : next.isOpen = false)
    {call : Nat → CallPoint}
    (hcall : ∀ commit, (call commit).isEarly = false ∧ (call commit).isRunning = false ∧
      (call commit).awaits = some commit) : Sound (s.awaitCommit run next true call) := by
  have hrun : run ≤ s.nextRunId := (h.owner run (h.of_owns howns).1).1
  have hleft : Sound (s.setCall run .returned) := h.set_call hrun rfl rfl nofun
  have hcommitted : Sound ((s.setCall run .returned).commit run next true) := by
    refine hleft.commit_owned ((ResultStream.owns_set_call s run _).trans howns) ?_ hnext ?_ ?_ ?_
    · intro commit
      rw [show ((s.setCall run .returned).runs run).call = .returned by
        rw [ResultStream.setCall, ResultStream.set_run_self]]
      exact nofun
    · rw [ResultStream.setCall, ResultStream.set_run_self]
      exact hfaithful
    · intro hopen
      exact absurd (hclosed.symm.trans hopen) nofun
    · rw [ResultStream.setCall, ResultStream.set_run_self]
      exact nofun
  rw [ResultStream.await_commit_eq]
  obtain ⟨hearly, hrunning, hawaits⟩ := hcall s.commits.length
  refine hcommitted.set_call ?_ hearly hrunning ?_
  · unfold ResultStream.commit
    split <;> exact hrun
  · intro commit hcommit
    rw [hawaits] at hcommit
    cases hcommit
    rw [ResultStream.length_commit]
    exact Nat.lt_succ_self _

/-! ## Giving the view up -/

/-- The view of a cancelled run keeps its pages or shows none. -/
theorem Sound.cancelled_view {s : ResultStream} (h : Sound s) (hopen : s.stateRef.isOpen = true)
    (keeps : Bool) :
    Faithful (s.runs s.stateRef.runId) (cancelledView s.stateRef keeps) ∧
      (cancelledView s.stateRef keeps).runId = s.stateRef.runId ∧
      (cancelledView s.stateRef keeps).isOpen = false := by
  cases keeps with
  | true =>
      exact ⟨⟨_, List.prefix_rfl, (h.whole hopen).consists.congr rfl rfl fun hphase =>
        absurd rfl hphase, nofun⟩, rfl, rfl⟩
  | false =>
      exact ⟨⟨[], List.nil_prefix, .of_empty rfl rfl fun hphase => absurd rfl hphase, nofun⟩, rfl,
        rfl⟩

/-- The record of an invalidated run fits a hook whose view nobody holds: its controller is
cancelled once. -/
theorem Sound.invalidated_run {s : ResultStream} (h : Sound s) {run : Nat}
    (hactive : (s.runs run).active = true) (keeps : Bool) :
    RunSound { s with activeRun := none } run (invalidatedRun keeps (s.runs run)) := by
  have hold := h.runs run
  refine { hold with held := nofun, uncreated := ?_, once := ?_, running := nofun }
  · intro hcreated
    show (if (s.runs run).controller then _ else _) = 0
    cases hcontroller : (s.runs run).controller with
    | true => exact absurd ((hold.held hcontroller).2.1.symm.trans hcreated) nofun
    | false => exact hold.uncreated hcreated
  · intro hcreated _
    show (if (s.runs run).controller then (s.runs run).cancels + 1 else (s.runs run).cancels) = 1 ∨ _
    cases hcontroller : (s.runs run).controller with
    | true =>
        left
        rw [if_pos rfl, (hold.held hcontroller).2.2]
    | false =>
        left
        rcases hold.once hcreated hcontroller with hone | ⟨-, hended, -⟩
        · exact hone
        · exact absurd (hactive.symm.trans hended) nofun

/-- An invalidation of the run that holds the view keeps the invariant, and nobody holds the view
behind it. -/
theorem Sound.invalidate {s : ResultStream} (h : Sound s) (keepRows : Bool) :
    Sound (s.invalidate s.activeRun keepRows) ∧
      (s.invalidate s.activeRun keepRows).activeRun = none := by
  cases hholds : s.activeRun with
  | none => exact ⟨h, hholds⟩
  | some run =>
      have hactive := (h.owner run hholds).2.1
      have hreleased : Sound ((s.setRun run (invalidatedRun (s.keepsRows run keepRows))).release
          run) := h.give_up hholds rfl rfl (h.invalidated_run hactive _)
      have hfree : ((s.setRun run (invalidatedRun (s.keepsRows run keepRows))).release
          run).activeRun = none := if_pos hholds
      simp only [ResultStream.invalidate, if_pos hactive]
      split
      · next hopen =>
          simp only [Bool.and_eq_true, decide_eq_true_eq] at hopen
          obtain ⟨hfaithful, hid, hclosed⟩ := h.cancelled_view hopen.2 (s.keepsRows run keepRows)
          refine ⟨hreleased.set_stream ?_ (fun hopen => absurd (hclosed.symm.trans hopen) nofun)
            (fun id hsome => absurd (hfree.symm.trans hsome) nofun), hfree⟩
          rw [hopen.1] at hfaithful hid
          rw [hid]
          show Faithful ((s.setRun run _).runs run) _
          rw [ResultStream.set_run_self]
          exact hfaithful
      · exact ⟨hreleased, hfree⟩

/-- A start that ends keeps the invariant: its controller is dropped. -/
theorem Sound.end_start {s : ResultStream} (h : Sound s) {run : Nat} (hrun : run ≤ s.nextRunId)
    {call : CallPoint} (hearly : call.isEarly = false) (hrunning : call.isRunning = false)
    (hawaits : call.awaits = none) : Sound (s.endStart run call) := by
  have hcalled : Sound (s.setCall run call) :=
    h.set_call hrun hearly hrunning fun commit hcommit => absurd (hawaits.symm.trans hcommit) nofun
  unfold ResultStream.endStart
  simp only
  split
  · next hholds =>
      have hold := hcalled.runs run
      obtain ⟨-, hactive, hinvalidated, -⟩ := hcalled.owner run hholds
      refine hcalled.give_up hholds rfl rfl ?_
      refine { hold with held := nofun, once := ?_, running := nofun }
      intro hcreated _
      cases hcontroller : ((s.setCall run call).runs run).controller with
      | true => exact .inr ⟨(hold.held hcontroller).2.2, rfl, hinvalidated⟩
      | false =>
          rcases hold.once hcreated hcontroller with hone | ⟨-, hended, -⟩
          · exact .inl hone
          · exact absurd (hactive.symm.trans hended) nofun
  · exact hcalled

/-- The view of a failed run shows the pages it had. -/
theorem Sound.failed_view {s : ResultStream} (h : Sound s) (hphase : s.stateRef.phase ≠ .cancelled)
    (error : Option String) :
    Faithful (s.runs s.stateRef.runId) (failedView s.stateRef error) ∧
      (failedView s.stateRef error).isOpen = false := by
  have hfailed : (failedView s.stateRef error).phase = .outcomeUnknown ∨
      (failedView s.stateRef error).phase = .error := by
    unfold failedView
    simp only
    split
    · exact .inl rfl
    · exact .inr rfl
  obtain ⟨batches, hleads, hconsists, -⟩ := h.views s.stateRef h.state_ref
  refine ⟨⟨batches, hleads, hconsists.congr rfl rfl fun _ => hconsists.counted hphase, ?_⟩, ?_⟩
  · intro hcomplete
    rcases hfailed with hunknown | herror
    · exact absurd (hunknown.symm.trans hcomplete) nofun
    · exact absurd (herror.symm.trans hcomplete) nofun
  · unfold SqlStreamViewState.isOpen
    rcases hfailed with hunknown | herror
    · rw [hunknown]
      rfl
    · rw [herror]
      rfl

/-- A start that catches an error keeps the invariant. -/
theorem Sound.caught {s : ResultStream} (h : Sound s) {run : Nat} (hrun : run ≤ s.nextRunId)
    (error : Option String) : Sound (s.caught run error) := by
  unfold ResultStream.caught
  cases howns : s.owns run with
  | false =>
      show Sound (s.endStart run (if s.mounted then .returned else .threw error))
      cases s.mounted with
      | true => exact h.end_start hrun rfl rfl rfl
      | false => exact h.end_start hrun rfl rfl rfl
  | true =>
      rw [if_neg nofun]
      split
      · exact h.end_start hrun rfl rfl rfl
      · next hphase =>
          obtain ⟨hfaithful, hclosed⟩ := h.failed_view hphase error
          have hid := (h.of_owns howns).2.2
          rw [hid] at hfaithful
          exact @Sound.await_commit s h run howns (failedView s.stateRef error) hid hfaithful hclosed
            (fun commit => .failing commit error) fun _ => ⟨rfl, rfl, rfl⟩

/-- Releasing a run that waits for nothing only frees the view. -/
theorem ResultStream.release_of_settled {s : ResultStream} {run : Nat}
    (hholds : s.activeRun = some run)
    (hsettled : ∀ pending ∈ s.commits, pending.run = run → pending.answer ≠ .waiting) :
    s.release run = { s with activeRun := none } := by
  unfold ResultStream.release
  rw [if_pos hholds]
  have hcommits : (s.commits.map fun pending =>
      if pending.run = run ∧ pending.answer = .waiting then { pending with answer := .rejected }
      else pending) = s.commits := by
    refine (List.map_congr_left fun pending hmem => ?_).trans (List.map_id _)
    exact if_neg fun hwaits => hsettled pending hmem hwaits.1 hwaits.2
  show { s with activeRun := none, commits := _ } = _
  rw [hcommits]

/-- A reset that is shown waits for nothing else. -/
theorem Sound.reset_settled {s : ResultStream} (h : Sound s) {run commit shownRun : Nat}
    (hcall : (s.runs run).call = .resetting commit) (hanswer : s.answer commit = .resolved shownRun) :
    ∀ pending ∈ s.commits, pending.run = run → pending.answer ≠ .waiting := by
  intro pending hmem hpending hwaiting
  obtain ⟨index, hlt, hget⟩ := List.getElem_of_mem hmem
  have hindex := (h.runs run).single commit hcall index pending
    (List.getElem?_eq_some_iff.mpr ⟨hlt, hget⟩) hpending
  subst hindex
  unfold ResultStream.answer at hanswer
  rw [List.getElem?_eq_some_iff.mpr ⟨hlt, hget⟩] at hanswer
  rw [show pending.answer = .resolved shownRun from hanswer] at hwaiting
  cases hwaiting

/-- A reset that is shown gives the view up. -/
theorem Sound.end_reset {s : ResultStream} (h : Sound s) {run commit shownRun : Nat}
    (hcall : (s.runs run).call = .resetting commit)
    (hanswer : s.answer commit = .resolved shownRun) : Sound (s.endReset run) := by
  have hearly : (s.runs run).created = false := (h.runs run).early (by rw [hcall]; rfl)
  have hrun : run ≤ s.nextRunId := h.known (by intro hfresh; rw [hfresh] at hcall; cases hcall)
  have hcalled : Sound (s.setCall run .returned) := h.set_call hrun rfl rfl nofun
  unfold ResultStream.endReset
  simp only
  split
  · next hholds =>
      have hrecord : ((s.setCall run .returned).runs run).created = false := by
        rw [ResultStream.setCall, ResultStream.set_run_self]
        exact hearly
      have hgiven : Sound (((s.setCall run .returned).setRun run
          fun record => { record with active := false }).release run) := by
        refine hcalled.give_up hholds rfl rfl ?_
        refine { hcalled.runs run with held := ?_, once := ?_, running := nofun }
        · intro hcontroller
          have hcreated := ((hcalled.runs run).held hcontroller).2.1
          exact absurd (hrecord.symm.trans hcreated) nofun
        · intro hcreated
          exact absurd (hrecord.symm.trans hcreated) nofun
      have hreleased := @ResultStream.release_of_settled ((s.setCall run .returned).setRun run
        fun record => { record with active := false }) run hholds (h.reset_settled hcall hanswer)
      rw [hreleased] at hgiven
      exact hgiven
  · exact hcalled

/-! ## Taking the view -/

/-- The run that holds the view waits for no commit and has no controller. -/
def ResultStream.spare (s : ResultStream) : Bool :=
  match s.activeRun with
  | none => true
  | some run =>
      !(s.runs run).controller &&
        s.commits.all fun pending => pending.run ≠ run || pending.answer ≠ .waiting

/-- What a spare view means for the run that holds it. -/
theorem ResultStream.spare_iff (s : ResultStream) :
    s.spare = true ↔ ∀ run, s.activeRun = some run → (s.runs run).controller = false ∧
      ∀ pending ∈ s.commits, pending.run = run → pending.answer ≠ .waiting := by
  unfold ResultStream.spare
  cases s.activeRun with
  | none => exact ⟨fun _ => nofun, fun _ => rfl⟩
  | some run =>
      simp only [Bool.and_eq_true, Bool.not_eq_true', List.all_eq_true, Bool.or_eq_true,
        decide_eq_true_eq, Option.some.injEq, forall_eq']
      refine and_congr_right fun _ => forall_congr' fun pending => forall_congr' fun _ => ?_
      rw [imp_iff_not_or]

/-- A new run holds the view in place of one that nothing depends on. -/
theorem Sound.hold {s : ResultStream} (h : Sound s) (hspare : s.spare = true)
    (hmounted : s.mounted = false) :
    Sound { s with nextRunId := s.nextRunId + 1, activeRun := some (s.nextRunId + 1) } where
  last := h.last
  fresh := fun run hrun => h.fresh run (Nat.lt_of_succ_lt hrun)
  views := h.views
  whole := h.whole
  owner := by
    intro run hrun
    cases hrun
    show _ ∧ (s.runs (s.nextRunId + 1)).active = true ∧
      (s.runs (s.nextRunId + 1)).invalidated = false ∧ _
    rw [h.fresh _ (Nat.lt_succ_self _)]
    exact ⟨Nat.le_refl _, rfl, rfl, fun hup => absurd (hmounted.symm.trans hup) nofun⟩
  runs := fun run => { h.runs run with
    held := fun hcontroller => by
      have hholds := ((h.runs run).held hcontroller).1
      have hnone := (s.spare_iff.mp hspare run hholds).1
      exact absurd (hnone.symm.trans hcontroller) nofun
    running := fun _ _ hup => absurd (hmounted.symm.trans hup) nofun }
  commits := fun pending hmem => { h.commits pending hmem with
    known := Nat.le_succ_of_le (h.commits pending hmem).known
    waiting := fun hwaiting => by
      have hup := ((h.commits pending hmem).waiting hwaiting).2.1
      exact absurd (hmounted.symm.trans hup) nofun }

/-- The first view of a run. -/
structure FirstView (run : Nat) (view : SqlStreamViewState) : Prop where
  runId : view.runId = run
  ranges : view.rowSource = emptySqlStreamRows
  rows : view.rowCount = 0
  sequence : view.nextSequence = 0
  operation : view.operationId = none
  incomplete : view.phase ≠ .complete

/-- A new run holds the view of a mounted hook and sets its first state. -/
theorem Sound.hold_first {s : ResultStream} (h : Sound s) (hspare : s.spare = true)
    {view : SqlStreamViewState} (hview : FirstView (s.nextRunId + 1) view) :
    Sound { s with
      nextRunId := s.nextRunId + 1
      activeRun := some (s.nextRunId + 1)
      stateRef := view
      queued := s.queued ++ [view] } where
  last := by
    show view = (s.queued ++ [view]).getLast?.getD s.shown
    rw [List.getLast?_append, List.getLast?_singleton]
    rfl
  fresh := fun run hrun => h.fresh run (Nat.lt_of_succ_lt hrun)
  views := by
    intro other hother
    rcases hother with hshown | hmem
    · exact h.views other (.inl hshown)
    · rcases List.mem_append.mp hmem with hold | hnew
      · exact h.views other (.inr hold)
      · rw [List.mem_singleton.mp hnew]
        exact ⟨[], List.nil_prefix, .of_empty (by rw [hview.ranges]; rfl) hview.rows
          fun _ => hview.sequence, fun hcomplete => absurd hcomplete hview.incomplete⟩
  whole := by
    intro _
    show Whole (s.runs view.runId).accepted view
    rw [hview.runId, h.fresh _ (Nat.lt_succ_self _)]
    exact ⟨.of_empty (by rw [hview.ranges]; rfl) hview.rows fun _ => hview.sequence,
      by rw [hview.operation, hview.ranges]; rfl, nofun⟩
  owner := by
    intro run hrun
    cases hrun
    show _ ∧ (s.runs (s.nextRunId + 1)).active = true ∧
      (s.runs (s.nextRunId + 1)).invalidated = false ∧ _
    rw [h.fresh _ (Nat.lt_succ_self _)]
    exact ⟨Nat.le_refl _, rfl, rfl, fun _ => hview.runId⟩
  runs := fun run => { h.runs run with
    held := fun hcontroller => by
      have hholds := ((h.runs run).held hcontroller).1
      have hnone := (s.spare_iff.mp hspare run hholds).1
      exact absurd (hnone.symm.trans hcontroller) nofun
    running := fun hcall hholds _ => by
      cases hholds
      rw [h.fresh _ (Nat.lt_succ_self _)] at hcall
      cases hcall }
  commits := fun pending hmem => { h.commits pending hmem with
    known := Nat.le_succ_of_le (h.commits pending hmem).known
    waiting := fun hwaiting => by
      have hholds := ((h.commits pending hmem).waiting hwaiting).1
      exact absurd hwaiting ((s.spare_iff.mp hspare _ hholds).2 pending hmem rfl) }

/-- A commit changes no record, and adds a promise of the run. -/
theorem ResultStream.commit_fields (s : ResultStream) (run : Nat) (next : SqlStreamViewState)
    (changed : Bool) : (s.commit run next changed).runs = s.runs ∧
      (s.commit run next changed).mounted = s.mounted ∧
      (s.commit run next changed).nextRunId = s.nextRunId ∧
      ∃ answer, (s.commit run next changed).commits = s.commits ++ [⟨run, answer⟩] := by
  unfold ResultStream.commit
  split
  · cases changed with
    | true => exact ⟨rfl, rfl, rfl, _, rfl⟩
    | false => exact ⟨rfl, rfl, rfl, _, rfl⟩
  · exact ⟨rfl, rfl, rfl, _, rfl⟩

/-- The hook right behind a call that took the view. -/
def ResultStream.taken (s : ResultStream) : ResultStream :=
  { s with nextRunId := s.nextRunId + 1, activeRun := some (s.nextRunId + 1) }

/-- The first commit of a run that takes a spare view keeps the invariant. -/
theorem Sound.commit_first {s : ResultStream} (h : Sound s) (hspare : s.spare = true)
    {view : SqlStreamViewState} (hview : FirstView (s.nextRunId + 1) view) :
    Sound (s.taken.commit (s.nextRunId + 1) view true) ∧
      (s.mounted = true → (s.taken.commit (s.nextRunId + 1) view true).stateRef = view) := by
  have hfresh := h.fresh _ (Nat.lt_succ_self s.nextRunId)
  have huntaken : ∀ commit, (s.runs (s.nextRunId + 1)).call ≠ .resetting commit := by
    rw [hfresh]
    exact nofun
  by_cases hmounted : s.mounted = true
  · have howns : s.taken.owns (s.nextRunId + 1) = true := by
      unfold ResultStream.owns ResultStream.taken
      simp only [hmounted, hfresh, Bool.and_true, decide_true]
    have hpending : CommitSound { s.taken with stateRef := view, queued := s.queued ++ [view] }
        { run := s.nextRunId + 1 } :=
      ⟨Nat.le_refl _, fun _ => ⟨rfl, hmounted,
        List.append_ne_nil_of_right_ne_nil _ (List.cons_ne_nil _ _)⟩, nofun⟩
    unfold ResultStream.commit
    rw [if_pos howns]
    exact ⟨(h.hold_first hspare hview).push hpending huntaken, fun _ => rfl⟩
  · have hdown : s.mounted = false := Bool.eq_false_iff.mpr hmounted
    have hstale : s.taken.owns (s.nextRunId + 1) = false := by
      unfold ResultStream.owns ResultStream.taken
      simp only [hdown, Bool.false_and]
    exact ⟨(h.hold hspare hdown).commit_stale hstale (Nat.le_refl _) huntaken view true,
      fun hup => absurd hup hmounted⟩

/-- A start or a reset that takes a spare view keeps the invariant. -/
theorem Sound.take {s : ResultStream} (h : Sound s) (hspare : s.spare = true)
    {view : SqlStreamViewState} (hview : FirstView (s.nextRunId + 1) view)
    {call : Nat → CallPoint} (hawaits : ∀ commit, (call commit).awaits = some commit)
    (hrunning : ∀ commit, (call commit).isRunning = true → view.isOpen = true) :
    Sound (s.taken.awaitCommit (s.nextRunId + 1) view true call) := by
  obtain ⟨hcommitted, hstate⟩ := h.commit_first hspare hview
  obtain ⟨hruns, hmounted, hnext, answer, hcommits⟩ :=
    s.taken.commit_fields (s.nextRunId + 1) view true
  have hrecord : (s.taken.commit (s.nextRunId + 1) view true).runs (s.nextRunId + 1) = {} := by
    rw [hruns]
    exact h.fresh _ (Nat.lt_succ_self _)
  have hknown : s.nextRunId + 1 ≤ (s.taken.commit (s.nextRunId + 1) view true).nextRunId := hnext.ge
  show Sound ((s.taken.commit (s.nextRunId + 1) view true).setRun (s.nextRunId + 1)
    fun record => { record with call := call s.taken.commits.length })
  refine hcommitted.set_run hknown ⟨rfl, rfl, rfl, fun _ => rfl⟩ ?_
  refine (hcommitted.runs _).keep ⟨⟨rfl, rfl, rfl, fun _ => rfl⟩, rfl, rfl, rfl⟩ ?_ ?_ ?_ ?_ ?_
  · intro commit hcommit
    have hsame := (hawaits s.taken.commits.length).symm.trans hcommit
    cases hsame
    rw [hcommits, List.length_append]
    exact Nat.lt_succ_self _
  · intro _
    rw [hrecord]
  · intro _ _
    rw [hrecord]
  · -- the promise of the new run is the only one of its id
    intro commit hcall index pending hget hpending
    have hsame : commit = s.taken.commits.length := by
      have hcommit := hawaits s.taken.commits.length
      rw [show call s.taken.commits.length = .resetting commit from hcall] at hcommit
      exact Option.some.inj hcommit
    rw [hcommits, List.getElem?_append] at hget
    split at hget
    · have hknown := (h.commits pending (List.mem_of_getElem? hget)).known
      omega
    · have hindex := (List.getElem?_eq_some_iff.mp hget).1
      rw [List.length_singleton] at hindex
      omega
  · intro hcall _ hup
    rw [hstate (hmounted.symm.trans hup)]
    exact hrunning _ hcall

/-! ## The stretches of a start -/

/-- An invalidation neither creates a controller nor moves a call. -/
theorem ResultStream.invalidate_record (s : ResultStream) (run : Option Nat) (keepRows : Bool)
    (id : Nat) : ((s.invalidate run keepRows).runs id).created = (s.runs id).created ∧
      ((s.invalidate run keepRows).runs id).call = (s.runs id).call := by
  cases run with
  | none => exact ⟨rfl, rfl⟩
  | some run =>
      have hrecord : ∀ keeps, ((s.setRun run (invalidatedRun keeps)).runs id).created =
          (s.runs id).created ∧
          ((s.setRun run (invalidatedRun keeps)).runs id).call = (s.runs id).call := by
        intro keeps
        by_cases hid : id = run
        · subst hid
          rw [ResultStream.set_run_self]
          exact ⟨rfl, rfl⟩
        · rw [ResultStream.set_run_other hid]
          exact ⟨rfl, rfl⟩
      simp only [ResultStream.invalidate]
      split
      · split
        · exact hrecord _
        · exact hrecord _
      · exact ⟨rfl, rfl⟩

/-- A run that is connected gets its controller, and keeps it if it owns the view. -/
theorem Sound.created {s : ResultStream} (h : Sound s) {run commit : Nat}
    (hcall : (s.runs run).call = .connecting commit) (howns : s.owns run = true) :
    Sound (s.setRun run fun record =>
      { record with created := true, controller := true, call := .streaming }) := by
  have hold := h.runs run
  have hcreated : (s.runs run).created = false := hold.early (by rw [hcall]; rfl)
  obtain ⟨hholds, -, -⟩ := h.of_owns howns
  refine h.set_run (h.owner run hholds).1 ⟨rfl, rfl, rfl, fun _ => rfl⟩ ?_
  exact { hold with
    held := fun _ => ⟨hholds, rfl, hold.uncreated hcreated⟩
    uncreated := nofun
    once := nofun
    awaits := nofun
    early := nofun
    unhanded := nofun
    single := nofun
    running := fun _ => hold.running (by rw [hcall]; rfl) }

/-- A run that is connected and lost the view has its controller cancelled at once. -/
theorem Sound.dropped {s : ResultStream} (h : Sound s) {run commit : Nat}
    (hcall : (s.runs run).call = .connecting commit) :
    Sound (s.setRun run fun record =>
      { record with created := true, cancels := record.cancels + 1, call := .dropping }) := by
  have hold := h.runs run
  have hcreated : (s.runs run).created = false := hold.early (by rw [hcall]; rfl)
  have hrun : run ≤ s.nextRunId := h.known (by intro hfresh; rw [hfresh] at hcall; cases hcall)
  have hfree : (s.runs run).controller = false := by
    cases hcontroller : (s.runs run).controller with
    | false => rfl
    | true => exact absurd (hcreated.symm.trans (hold.held hcontroller).2.1) nofun
  refine h.set_run hrun ⟨rfl, rfl, rfl, fun _ => rfl⟩ ?_
  exact { hold with
    held := fun hcontroller => absurd (hfree.symm.trans hcontroller) nofun
    uncreated := nofun
    once := fun _ _ => .inl (by rw [hold.uncreated hcreated])
    awaits := nofun
    early := nofun
    unhanded := nofun
    single := nofun
    running := nofun }

/-- A start whose factory is called keeps the invariant. -/
theorem Sound.create {s : ResultStream} (h : Sound s) {run commit : Nat}
    (hcall : (s.runs run).call = .connecting commit) (factory : FactoryAnswer) :
    Sound (s.create run factory) := by
  have hrun : run ≤ s.nextRunId := h.known (by intro hfresh; rw [hfresh] at hcall; cases hcall)
  have hhanded : Sound (s.setRun run fun record => { record with handed := true }) := by
    have hnever : ∀ index, (s.runs run).call ≠ .resetting index := by
      intro index hresetting
      rw [hcall] at hresetting
      cases hresetting
    refine h.set_run hrun ⟨rfl, rfl, rfl, fun _ => rfl⟩ ?_
    exact (h.runs run).keep ⟨⟨rfl, rfl, rfl, fun _ => rfl⟩, rfl, rfl, rfl⟩ (h.runs run).awaits
      (h.runs run).early (fun index hresetting => absurd hresetting (hnever index))
      (h.runs run).single (h.runs run).running
  have hhandedCall : ((s.setRun run fun record => { record with handed := true }).runs run).call =
      .connecting commit := by
    rw [ResultStream.set_run_self]
    exact hcall
  have hkeeps : ∀ t : ResultStream, Sound t → (t.runs run).call = .connecting commit →
      Sound (if t.owns run then
        t.setRun run fun record =>
          { record with created := true, controller := true, call := .streaming }
      else
        t.setRun run fun record =>
          { record with created := true, cancels := record.cancels + 1, call := .dropping }) := by
    intro t ht htcall
    split
    · next howns => exact ht.created htcall howns
    · exact ht.dropped htcall
  unfold ResultStream.create
  cases factory with
  | throws error => exact hhanded.caught hrun error
  | returns interrupts =>
      cases interrupts with
      | false => exact hkeeps _ hhanded hhandedCall
      | true =>
          exact hkeeps _ (hhanded.invalidate true).1
            ((ResultStream.invalidate_record _ _ true run).2.trans hhandedCall)

/-- A finished view is no longer open. -/
theorem finish_closed {state : SqlStreamViewState} {run : Nat} {receipt : SqlStreamReceipt}
    {timings : Option SqlStreamTimings} (hrun : state.runId = run) (hopen : state.isOpen = true) :
    (finishSqlStream state run receipt timings).isOpen = false ∧
      (finishSqlStream state run receipt timings).runId = run := by
  unfold finishSqlStream
  rw [if_neg (by simp [hrun, hopen])]
  split
  · exact ⟨rfl, hrun⟩
  · exact ⟨rfl, hrun⟩

/-- A start whose race is settled keeps the invariant. -/
theorem Sound.raced {s : ResultStream} (h : Sound s) {run : Nat}
    (hcall : (s.runs run).call = .streaming) (outside : Outside) : Sound (s.raced run outside) := by
  have hrun : run ≤ s.nextRunId := h.known (by intro hfresh; rw [hfresh] at hcall; cases hcall)
  unfold ResultStream.raced
  simp only
  split
  · exact h.end_start hrun rfl rfl rfl
  · cases hcompletion : (s.runs run).completion with
    | none => exact h
    | some outcome =>
        cases outcome with
        | error error => exact h.caught hrun error
        | ok receipt =>
            show Sound (if s.owns run then _ else _)
            split
            · next howns =>
                obtain ⟨hholds, hmounted, hid⟩ := h.of_owns howns
                have hopen := (h.runs run).running (by rw [hcall]; rfl) hholds hmounted
                have hwhole := h.whole hopen
                rw [hid] at hwhole
                obtain ⟨hconsists, hcomplete⟩ := @Whole.finish s.stateRef _ hwhole run receipt
                  (some ⟨outside.clientTotalMs⟩) hopen
                obtain ⟨hclosed, hnext⟩ := @finish_closed s.stateRef run receipt
                  (some ⟨outside.clientTotalMs⟩) hid hopen
                rw [show (s.stateRef.runId = run && s.stateRef.isOpen : Bool) = true by
                  simp [hid, hopen]]
                exact h.await_commit howns hnext ⟨_, List.prefix_rfl, hconsists,
                  fun hphase => ⟨receipt, hcompletion, hcomplete hphase⟩⟩ hclosed
                  fun _ => ⟨rfl, rfl, rfl⟩
            · exact h.end_start hrun rfl rfl rfl

/-- The call that took a run goes on: the invariant is kept. -/
theorem Sound.proceed {s : ResultStream} (h : Sound s) (run : Nat) (outside : Outside) :
    Sound (s.proceed run outside) := by
  have hknown : (s.runs run).call ≠ .untaken → run ≤ s.nextRunId :=
    fun htaken => h.known (by intro hfresh; rw [hfresh] at htaken; exact htaken rfl)
  unfold ResultStream.proceed
  cases hcall : (s.runs run).call with
  | untaken => exact h
  | returned => exact h
  | threw error => exact h
  | streaming => exact h.raced hcall outside
  | dropping => exact h.end_start (hknown (by rw [hcall]; nofun)) rfl rfl rfl
  | connecting commit =>
      have hrun := hknown (by rw [hcall]; nofun)
      simp only
      cases s.answer commit with
      | waiting => exact h
      | rejected => exact h.caught hrun _
      | resolved shownRun =>
          simp only
          split
          · exact h.create hcall outside.factory
          · exact h.end_start hrun rfl rfl rfl
  | finishing commit =>
      have hrun := hknown (by rw [hcall]; nofun)
      simp only
      cases s.answer commit with
      | waiting => exact h
      | rejected => exact h.caught hrun _
      | resolved shownRun => exact h.end_start hrun rfl rfl rfl
  | failing commit error =>
      have hrun := hknown (by rw [hcall]; nofun)
      simp only
      cases s.answer commit with
      | waiting => exact h
      | rejected => exact h.end_start hrun rfl rfl rfl
      | resolved shownRun => exact h.end_start hrun rfl rfl rfl
  | resetting commit =>
      have hrun := hknown (by rw [hcall]; nofun)
      simp only
      cases hanswer : s.answer commit with
      | waiting => exact h
      | rejected => exact h.set_call hrun rfl rfl nofun
      | resolved shownRun => exact h.end_reset hcall hanswer

end Dopedb.Desktop
