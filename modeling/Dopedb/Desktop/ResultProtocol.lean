import Dopedb.Desktop.ResultSteps

/-!
# Runs of a SQL result view

`Orderly` is what the view owes its callers. `result_view_orderly_iff` says which runs of the hook
keep it: those in which a start or a reset takes the view only when the run that holds it waits for
no commit and has no controller. Two starts that overlap do not.
-/

namespace Dopedb.Desktop

open Library ResultStream

/-! ## Answers of a controller -/

/-- Only the record of the run that accepts a page changes. -/
theorem ResultStream.accept_page_other {s : ResultStream} {run id : Nat} (hne : id ≠ run)
    (batch : SqlStreamBatch) (next : SqlStreamViewState) :
    ((s.acceptPage run batch).setStream next).runs id = s.runs id := if_neg hne

/-- The record of the run that accepts a page. -/
theorem ResultStream.accept_page_self (s : ResultStream) (run : Nat) (batch : SqlStreamBatch)
    (next : SqlStreamViewState) : ((s.acceptPage run batch).setStream next).runs run =
      { s.runs run with accepted := (s.runs run).accepted ++ [batch] } := if_pos rfl

/-- A page that the view takes is the next one of the run that owns it. -/
theorem Sound.take_page {s : ResultStream} (h : Sound s) {number : String → Option Int} {run : Nat}
    (howns : s.owns run = true) {batch : SqlStreamBatch} {next : SqlStreamViewState}
    (haccept : acceptSqlStreamBatch number s.stateRef run batch = some next) :
    Sound ((s.acceptPage run batch).setStream next) := by
  obtain ⟨hholds, -, hid⟩ := h.of_owns howns
  obtain ⟨-, hopen, -, -, -, hadvanced⟩ := accept_sql_stream_batch_some haccept
  have hnext : next.runId = run := by rw [hadvanced]; exact hid
  have hwhole : Whole ((s.runs run).accepted ++ [batch]) next := by
    have hold := h.whole hopen
    rw [hid] at hold
    exact hold.accept haccept
  have hphase : next.phase = .streaming := by rw [hadvanced]; rfl
  constructor
  case last =>
    show next = (s.queued ++ [next]).getLast?.getD s.shown
    rw [List.getLast?_append, List.getLast?_singleton]
    rfl
  case fresh =>
    intro id hbeyond
    rw [ResultStream.accept_page_other (Nat.lt_of_le_of_lt (h.owner run hholds).1 hbeyond).ne']
    exact h.fresh id hbeyond
  case views =>
    intro view hview
    have hmem : view = s.shown ∨ view ∈ s.queued ∨ view = next := by
      rcases hview with hshown | hmem
      · exact .inl hshown
      · rcases List.mem_append.mp hmem with hold | hnew
        · exact .inr (.inl hold)
        · exact .inr (.inr (List.mem_singleton.mp hnew))
    -- the new view shows all pages of the run, the older ones a prefix of them
    by_cases hview' : view.runId = run
    · rw [hview', ResultStream.accept_page_self]
      rcases or_assoc.mpr hmem with hold | rfl
      · have hfaithful := h.views view hold
        rw [hview'] at hfaithful
        exact hfaithful.mono (List.prefix_append _ _) fun _ => rfl
      · exact ⟨_, List.prefix_rfl, hwhole.consists,
          fun hcomplete => absurd (hphase.symm.trans hcomplete) nofun⟩
    · rw [ResultStream.accept_page_other hview']
      rcases or_assoc.mpr hmem with hold | rfl
      · exact h.views view hold
      · exact absurd hnext hview'
  case whole =>
    intro _
    show Whole (((s.acceptPage run batch).setStream next).runs next.runId).accepted next
    rw [hnext, ResultStream.accept_page_self]
    exact hwhole
  case owner =>
    intro id hsome
    obtain rfl : run = id := Option.some.inj (hholds.symm.trans hsome)
    obtain ⟨hknown, hactive, hinvalidated, -⟩ := h.owner run hholds
    rw [ResultStream.accept_page_self]
    exact ⟨hknown, hactive, hinvalidated, fun _ => hnext⟩
  case runs =>
    intro id
    have hstreams : next.isOpen = true := by
      unfold SqlStreamViewState.isOpen
      rw [hphase]
      rfl
    by_cases hid : id = run
    · subst hid
      rw [ResultStream.accept_page_self]
      exact { h.runs id with running := fun _ _ _ => hstreams }
    · rw [ResultStream.accept_page_other hid]
      exact { h.runs id with running := fun _ _ _ => hstreams }
  case commits =>
    intro pending hmem
    exact { h.commits pending hmem with
      waiting := fun hwaiting => by
        obtain ⟨hrun, hmounted, -⟩ := (h.commits pending hmem).waiting hwaiting
        exact ⟨hrun, hmounted, List.append_ne_nil_of_right_ne_nil _ (List.cons_ne_nil _ _)⟩ }

/-- A delivered page keeps the invariant. -/
theorem Sound.deliver {s : ResultStream} (h : Sound s) (number : String → Option Int) (run : Nat)
    (batch : SqlStreamBatch) : Sound (s.deliver number run batch) := by
  unfold ResultStream.deliver
  split
  · next hhanded =>
      rw [Bool.and_eq_true] at hhanded
      obtain ⟨hhanded, howns⟩ := hhanded
      cases haccept : acceptSqlStreamBatch number s.stateRef run batch with
      | none => exact h
      | some next =>
          obtain ⟨hholds, hmounted, -⟩ := h.of_owns howns
          have hnever : ∀ commit, (s.runs run).call ≠ .resetting commit := by
            intro commit hcall
            exact absurd (((h.runs run).unhanded commit hcall).symm.trans hhanded) nofun
          have hstill : (s.acceptPage run batch).owns run = true := by
            unfold ResultStream.owns at howns ⊢
            rw [ResultStream.acceptPage, ResultStream.set_run_self]
            exact howns
          show Sound ((s.acceptPage run batch).commit run next true)
          unfold ResultStream.commit
          rw [if_pos hstill]
          have hpending : CommitSound ((s.acceptPage run batch).setStream next) ⟨run, .waiting⟩ :=
            ⟨(h.owner run hholds).1, fun _ => ⟨hholds, hmounted,
              List.append_ne_nil_of_right_ne_nil _ (List.cons_ne_nil _ _)⟩, nofun⟩
          refine (h.take_page howns haccept).push hpending ?_
          intro commit
          rw [ResultStream.accept_page_self]
          exact hnever commit
  · exact h

/-- A stream that settles keeps the invariant. -/
theorem Sound.settle {s : ResultStream} (h : Sound s) (run : Nat)
    (outcome : Except (Option String) SqlStreamReceipt) : Sound (s.settle run outcome) := by
  unfold ResultStream.settle
  split
  · next hopen =>
      rw [Bool.and_eq_true] at hopen
      have hrun : run ≤ s.nextRunId := h.known (by
        intro hfresh
        rw [hfresh] at hopen
        exact absurd hopen.1 nofun)
      refine h.set_run hrun ⟨rfl, rfl, rfl, fun hsome => ?_⟩ { h.runs run with }
      exact absurd (Option.isNone_iff_eq_none.mp hopen.2) hsome
  · exact h

/-- Reading the rows of a cancelled run back keeps the invariant. -/
theorem Sound.read_back {s : ResultStream} (h : Sound s) (run : Nat) : Sound (s.readBack run) := by
  have hmoves : ∀ point : CancelPoint, (s.runs run).cancel ≠ .absent →
      Sound (s.setRun run fun record => { record with cancel := point }) := by
    intro point hpresent
    have hrun : run ≤ s.nextRunId := h.known (by
      intro hfresh
      rw [hfresh] at hpresent
      exact hpresent rfl)
    exact h.set_run hrun ⟨rfl, rfl, rfl, fun _ => rfl⟩ { h.runs run with }
  unfold ResultStream.readBack
  cases hcancel : (s.runs run).cancel with
  | absent => exact h
  | done => exact h
  | cancelling => exact hmoves .reading (by rw [hcancel]; nofun)
  | reading =>
      have hdone := hmoves .done (by rw [hcancel]; nofun)
      simp only
      split
      · split
        · exact hdone
        · next hcurrent =>
            simp only [ne_eq, Bool.or_eq_true, Bool.not_eq_true', decide_eq_true_eq, not_or,
              not_not] at hcurrent
            obtain ⟨⟨-, hid⟩, hphase⟩ := hcurrent
            have hclosed : s.stateRef.isOpen = false := by
              unfold SqlStreamViewState.isOpen
              rw [hphase]
              rfl
            have hread : ({ s.stateRef with
                rowSource := { s.stateRef.rowSource with complete := true } } :
                  SqlStreamViewState).isOpen = false := hclosed
            refine hdone.set_stream ?_ (fun hopen => absurd (hread.symm.trans hopen) nofun) ?_
            · obtain ⟨batches, hleads, hconsists, -⟩ := hdone.views s.stateRef h.state_ref
              exact ⟨batches, hleads, hconsists.congr rfl rfl fun hother => absurd hphase hother,
                fun hcomplete => absurd (hphase.symm.trans hcomplete) nofun⟩
            · intro id hholds hmounted
              refine ⟨(h.owner id hholds).2.2.2 hmounted, fun hrunning => ?_⟩
              have hopen := (hdone.runs id).running hrunning hholds hmounted
              exact absurd (hclosed.symm.trans hopen) nofun
      · exact h

/-! ## A step -/

/-- A start or a reset that takes the view takes it from a run that waits for no commit and has no
controller. -/
def TakesSpare (s : ResultStream) : ResultStep → Prop
  | .startTakes => 0 < s.starting → s.spare = true
  | .resetTakes => 0 < s.resetting → s.mounted = true → s.spare = true
  | _ => True

/-- An invalidation does not read whether the hook is mounted. -/
theorem ResultStream.invalidate_mounted (s : ResultStream) (mounted : Bool) (run : Option Nat)
    (keepRows : Bool) : ({ s with mounted } : ResultStream).invalidate run keepRows =
      { s.invalidate run keepRows with mounted } := by
  cases run with
  | none => rfl
  | some run =>
      simp only [ResultStream.invalidate]
      split
      · split
        · rfl
        · rfl
      · rfl

/-- The first view of a connecting run. -/
theorem first_view_connecting (run : Nat) :
    FirstView run { emptySqlStreamView run with phase := .connecting } :=
  ⟨rfl, rfl, rfl, rfl, rfl, nofun⟩

/-- The view of a reset. -/
theorem first_view_empty (run : Nat) : FirstView run (emptySqlStreamView run) :=
  ⟨rfl, rfl, rfl, rfl, rfl, nofun⟩

/-- Every step that takes only a spare view keeps the invariant. -/
theorem Sound.step {s : ResultStream} (h : Sound s) (number : String → Option Int)
    {step : ResultStep} (hspare : TakesSpare s step) : Sound (resultStep number s step) := by
  cases step with
  | start => exact (h.invalidate false).1.counters _ _
  | reset => exact (h.invalidate false).1.counters _ _
  | cancel => exact (h.invalidate true).1
  | scopeChange =>
      show Sound (if s.mounted then _ else s)
      split
      · rw [ResultStream.invalidate_mounted]
        exact (h.invalidate false).1.mount (h.invalidate false).2 true
      · exact h
  | unmount =>
      show Sound (if s.mounted then _ else s)
      split
      · rw [ResultStream.invalidate_mounted]
        exact (h.invalidate false).1.mount (h.invalidate false).2 false
      · exact h
  | startTakes =>
      show Sound (if 0 < s.starting then s.startTakes else s)
      split
      · next hdue =>
          exact (h.counters (s.starting - 1) s.resetting).take (hspare hdue)
            (first_view_connecting _) (fun _ => rfl) fun _ _ => rfl
      · exact h
  | resetTakes =>
      show Sound (if 0 < s.resetting then s.resetTakes else s)
      split
      · next hdue =>
          unfold ResultStream.resetTakes
          split
          · next hmounted =>
              exact (h.counters s.starting (s.resetting - 1)).take (hspare hdue hmounted)
                (first_view_empty _) (fun _ => rfl) fun _ hcall => absurd hcall nofun
          · exact h.counters s.starting (s.resetting - 1)
      · exact h
  | proceed run outside => exact h.proceed run outside
  | readBack run => exact h.read_back run
  | deliver run batch => exact h.deliver number run batch
  | settle run outcome => exact h.settle run outcome
  | react index => exact h.react index

/-! ## What the view owes its callers -/

/-- The run lost the view: another run replaced it, or it was cancelled or unmounted. -/
def ResultStream.lost (s : ResultStream) (run : Nat) : Prop :=
  s.activeRun ≠ some run ∧ ((s.runs run).active = true ∨ (s.runs run).invalidated = true)

/-- React has no state left to commit. -/
def ResultStream.flushed (s : ResultStream) : Prop := s.queued = [] ∨ s.mounted = false

/-- React commits all states that are set. -/
def ResultStream.flush (s : ResultStream) : ResultStream := s.react (s.queued.length - 1)

/-- The shown state consists of pages of its run and is complete only under a matching receipt, the
controller of a run that lost the view is cancelled exactly once, a promise is resolved only by a
state of its run, and when React has committed every state all promises are settled and every call
can go on. -/
structure Orderly (s : ResultStream) : Prop where
  shown : Faithful (s.runs s.shown.runId) s.shown
  cancelled : ∀ run, (s.runs run).created = true →
    (s.runs run).cancels ≤ 1 ∧ (s.lost run → (s.runs run).cancels = 1)
  resolved : ∀ pending ∈ s.commits, ∀ shownRun, pending.answer = .resolved shownRun →
    shownRun = pending.run
  settled : s.flushed → ∀ pending ∈ s.commits, pending.answer ≠ .waiting
  free : s.flushed → ∀ run commit, (s.runs run).call.awaits = some commit →
    s.answer commit ≠ .waiting

/-- A hook that keeps the invariant is orderly. -/
theorem Sound.orderly {s : ResultStream} (h : Sound s) : Orderly s := by
  have hsettled : s.flushed → ∀ pending ∈ s.commits, pending.answer ≠ .waiting := by
    intro hflushed pending hmem hwaiting
    obtain ⟨-, hmounted, hqueued⟩ := (h.commits pending hmem).waiting hwaiting
    rcases hflushed with hempty | hdown
    · exact hqueued hempty
    · exact absurd (hmounted.symm.trans hdown) nofun
  constructor
  case shown => exact h.views s.shown (.inl rfl)
  case cancelled =>
    intro run hcreated
    have hrun := h.runs run
    cases hcontroller : (s.runs run).controller with
    | true =>
        obtain ⟨hholds, -, hnone⟩ := hrun.held hcontroller
        exact ⟨by omega, fun hlost => absurd hholds hlost.1⟩
    | false =>
        rcases hrun.once hcreated hcontroller with hone | ⟨hnone, hended, hvalid⟩
        · exact ⟨hone.le, fun _ => hone⟩
        · refine ⟨by omega, fun hlost => ?_⟩
          rcases hlost.2 with hactive | hinvalidated
          · exact absurd (hended.symm.trans hactive) nofun
          · exact absurd (hvalid.symm.trans hinvalidated) nofun
  case resolved => exact fun pending hmem => (h.commits pending hmem).resolved
  case settled => exact hsettled
  case free =>
    intro hflushed run commit hawaits
    have hlt := (h.runs run).awaits commit hawaits
    unfold ResultStream.answer
    rw [List.getElem?_eq_getElem hlt]
    exact hsettled hflushed _ (List.getElem_mem hlt)

/-! ## A view that is not spare -/

/-- What keeps the run that holds the view from giving it up unnoticed. -/
theorem Sound.not_spare {s : ResultStream} (h : Sound s) (hspare : s.spare = false) :
    ∃ run, s.activeRun = some run ∧ ((s.runs run).controller = true ∨ s.mounted = true ∧
      ∃ pending ∈ s.commits, pending.run = run ∧ pending.answer = .waiting) := by
  have hnot := mt s.spare_iff.mpr (by rw [hspare]; exact nofun)
  push Not at hnot
  obtain ⟨run, hholds, hdepends⟩ := hnot
  refine ⟨run, hholds, ?_⟩
  cases hcontroller : (s.runs run).controller with
  | true => exact .inl rfl
  | false =>
      obtain ⟨pending, hmem, hrun, hwaiting⟩ := hdepends hcontroller
      exact .inr ⟨((h.commits pending hmem).waiting hwaiting).2.1, pending, hmem, hrun, hwaiting⟩

/-- A promise of another run survives a flush. -/
theorem ResultStream.mem_flush {s : ResultStream} {run : Nat} (hholds : s.activeRun = some run)
    {pending : PendingCommit} (hmem : pending ∈ s.commits) (hother : pending.run ≠ run) :
    pending ∈ s.flush.commits := by
  unfold ResultStream.flush ResultStream.react
  split
  · next next hnext =>
      split
      · rcases ResultStream.layout_effect_cases
          { s with shown := next, queued := s.queued.drop (s.queued.length - 1 + 1) } with
          ⟨owner, howner, -, heffect⟩ | ⟨-, heffect⟩
        · obtain rfl : run = owner := Option.some.inj (hholds.symm.trans howner)
          rw [heffect]
          exact List.mem_map.mpr ⟨pending, hmem, if_neg fun hwaits => hother hwaits.1⟩
        · rw [heffect]
          exact hmem
      · exact hmem
  · exact hmem

/-- A flush leaves no state to commit. -/
theorem ResultStream.flush_flushed (s : ResultStream) : s.flush.flushed := by
  unfold ResultStream.flush ResultStream.react ResultStream.flushed
  split
  · next next hnext =>
      split
      · left
        have hqueue : s.queued.drop (s.queued.length - 1 + 1) = [] :=
          List.drop_eq_nil_of_le (by omega)
        rcases ResultStream.layout_effect_cases
          { s with shown := next, queued := s.queued.drop (s.queued.length - 1 + 1) } with
          ⟨owner, -, -, heffect⟩ | ⟨-, heffect⟩
        · rw [heffect]
          exact hqueue
        · rw [heffect]
          exact hqueue
      · next hmounted => exact .inr (Bool.eq_false_iff.mpr hmounted)
  · next hnext =>
      left
      rw [List.getElem?_eq_none_iff] at hnext
      exact List.length_eq_zero_iff.mp (by omega)

/-- A call that takes a view that is not spare leaves a controller without its cancellation, or a
promise that nothing settles. -/
theorem Sound.take_breaks {s : ResultStream} (h : Sound s) (hspare : s.spare = false)
    (view : SqlStreamViewState) (call : Nat → CallPoint)
    (horderly : Orderly (s.taken.awaitCommit (s.nextRunId + 1) view true call))
    (hflush : Orderly (s.taken.awaitCommit (s.nextRunId + 1) view true call).flush) : False := by
  obtain ⟨run, hholds, hdepends⟩ := h.not_spare hspare
  have hne : run ≠ s.nextRunId + 1 := by
    have := (h.owner run hholds).1
    omega
  obtain ⟨hruns, -, -, answer, hcommits⟩ := s.taken.commit_fields (s.nextRunId + 1) view true
  have htakes : (s.taken.awaitCommit (s.nextRunId + 1) view true call).activeRun =
      some (s.nextRunId + 1) := by
    unfold ResultStream.awaitCommit ResultStream.commit
    split
    · rfl
    · rfl
  rcases hdepends with hcontroller | ⟨-, pending, hmem, rfl, hwaiting⟩
  · have hrecord : (s.taken.awaitCommit (s.nextRunId + 1) view true call).runs run = s.runs run := by
      unfold ResultStream.awaitCommit ResultStream.setCall
      rw [ResultStream.set_run_other hne, hruns]
      rfl
    obtain ⟨-, hcreated, hnone⟩ := (h.runs run).held hcontroller
    have hcancelled := (horderly.cancelled run (by rw [hrecord]; exact hcreated)).2
    rw [hrecord, hnone] at hcancelled
    refine absurd (hcancelled ⟨?_, .inl ?_⟩) nofun
    · rw [htakes]
      intro hsame
      exact hne (Option.some.inj hsame).symm
    · rw [hrecord]
      exact (h.owner run hholds).2.1
  · have hkept : pending ∈ (s.taken.awaitCommit (s.nextRunId + 1) view true call).commits := by
      show pending ∈ (s.taken.commit (s.nextRunId + 1) view true).commits
      rw [hcommits]
      exact List.mem_append_left _ hmem
    exact hflush.settled (ResultStream.flush_flushed _) pending
      (ResultStream.mem_flush htakes hkept hne) hwaiting

/-- A step that leaves the hook orderly takes no view that is not spare. -/
theorem Sound.takes_spare {s : ResultStream} (h : Sound s) {number : String → Option Int}
    {step : ResultStep} (horderly : Orderly (resultStep number s step))
    (hflush : Orderly (resultStep number s step).flush) : TakesSpare s step := by
  cases step with
  | startTakes =>
      intro hdue
      by_contra hspare
      rw [Bool.not_eq_true] at hspare
      rw [show resultStep number s .startTakes = s.startTakes from if_pos hdue] at horderly hflush
      exact (h.counters (s.starting - 1) s.resetting).take_breaks hspare _ _ horderly hflush
  | resetTakes =>
      intro hdue hmounted
      by_contra hspare
      rw [Bool.not_eq_true] at hspare
      rw [show resultStep number s .resetTakes = s.resetTakes from if_pos hdue,
        ResultStream.resetTakes, if_pos hmounted] at horderly hflush
      exact (h.counters s.starting (s.resetting - 1)).take_breaks hspare _ _ horderly hflush
  | _ => trivial

/-! ## Runs of the hook -/

/-- In a run whose steps take only spare views the hook keeps the invariant. -/
theorem sound_run {number : String → Option Int} {steps : List ResultStep}
    (hspare : EachCall (resultStep number) TakesSpare {} steps) :
    Sound (run (resultStep number) {} steps) :=
  run_invariant_of sound_start (fun _ _ h hspare => h.step number hspare) hspare

/-- A run from a sound hook takes only spare views if the hook is orderly after each of its steps,
also when React has committed every state. -/
theorem each_takes_spare {number : String → Option Int} {s : ResultStream} (h : Sound s)
    {steps : List ResultStep}
    (horderly : ∀ before after, steps = before ++ after →
      Orderly (run (resultStep number) s before) ∧
        Orderly (run (resultStep number) s before).flush) :
    EachCall (resultStep number) TakesSpare s steps := by
  induction steps generalizing s with
  | nil => trivial
  | cons step steps ih =>
      obtain ⟨hnext, hflush⟩ := horderly [step] steps rfl
      have hspare : TakesSpare s step := h.takes_spare hnext hflush
      refine ⟨hspare, ih (h.step number hspare) ?_⟩
      intro before after hsteps
      exact horderly (step :: before) after (by rw [hsteps]; rfl)

/-- The hook is orderly all along a run, also when React has committed every state, exactly when
each start and each reset takes the view while the run that holds it, if any, waits for no commit
and has no controller. -/
theorem result_view_orderly_iff (number : String → Option Int) (steps : List ResultStep) :
    EachCall (resultStep number) TakesSpare {} steps ↔
      ∀ before after, steps = before ++ after →
        Orderly (run (resultStep number) {} before) ∧
          Orderly (run (resultStep number) {} before).flush := by
  constructor
  · intro hspare before after hsteps
    rw [hsteps] at hspare
    have hsound := sound_run (each_call_of_append hspare).1
    exact ⟨hsound.orderly, (hsound.react _).orderly⟩
  · exact each_takes_spare sound_start

/-- Two starts that overlap leave the first one waiting: both wait for an invalidation that has
nothing to do, the second takes the view from the first, and React commits only its state. -/
theorem overlapping_starts_orphan : ¬∀ (number : String → Option Int) (steps : List ResultStep),
    Orderly (run (resultStep number) {} steps) := by
  intro horderly
  have hsettled := (horderly (fun _ => none)
    [.start, .start, .startTakes, .startTakes, .react 1]).settled (.inl rfl)
  exact hsettled ⟨1, .waiting⟩ (.head _) rfl

end Dopedb.Desktop
