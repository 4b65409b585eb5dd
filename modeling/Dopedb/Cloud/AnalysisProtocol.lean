import Dopedb.Cloud.AnalysisChanges

/-!
# The protocol of analysis runs

What holds in every reachable store (`RunTables`) and what no later event takes back (`Later`), each
proved once for every small change. The main result is `analysis_run_protocol`.
-/

namespace Dopedb.Cloud

open Library AnalysisStore

/-- The run, receipt, runner and article tables fit together. -/
structure RunTables (store : AnalysisStore) : Prop where
  runIds : (store.runs.map (·.id)).Nodup
  runnerIds : (store.runners.map (·.id)).Nodup
  receipts : ∀ stored ∈ store.receipts, ∃ run ∈ store.runs,
    run.id = stored.runId ∧ run.state = .succeeded
  succeeded : ∀ run ∈ store.runs, run.state = .succeeded →
    (store.receiptsOf run.id).length = 1 ∧ run.cancelRequestedAt = none
  shown : ∀ article ∈ store.articles, ∀ id, article.latestSuccessfulRunId = some id →
    ∃ run ∈ store.runs, run.id = id ∧ run.state = .succeeded ∧ run.articleId = article.id ∧
      run.articleRevision = article.revision

/-- The run was cancelled, or its runner is revoked. -/
def AnalysisStore.Withdrawn (store : AnalysisStore) (run : AnalysisRun) : Prop :=
  run.cancelRequestedAt.isSome = true ∨
    ∃ runner ∈ store.runners, runner.id = run.runnerId ∧ runner.revokedAt.isSome = true

/-- What no event takes back about a run. -/
structure RunLater (store store' : AnalysisStore) (run run' : AnalysisRun) : Prop where
  id : run'.id = run.id
  runner : run'.runnerId = run.runnerId
  final : run.state.isActive = false →
    run'.toAnalysisOutcome = run.toAnalysisOutcome ∧
      store'.receiptsOf run.id = store.receiptsOf run.id
  cancelled : run.cancelRequestedAt.isSome = true → run'.cancelRequestedAt.isSome = true
  withdrawn : store.Withdrawn run → run.state ≠ .succeeded → run'.state ≠ .succeeded

/-- What no event takes back. -/
structure Later (store store' : AnalysisStore) : Prop where
  runs : ∀ run ∈ store.runs, ∃ run' ∈ store'.runs, RunLater store store' run run'
  revoked : ∀ runner ∈ store.runners, runner.revokedAt.isSome = true →
    ∃ runner' ∈ store'.runners, runner'.id = runner.id ∧ runner'.revokedAt.isSome = true

/-! ## Rows -/

/-- A run that is found has the id and is in the table. -/
theorem found_run {store : AnalysisStore} {id : String} {run : AnalysisRun}
    (h : store.findRun id = some run) : run ∈ store.runs ∧ run.id = id :=
  ⟨List.mem_of_find?_eq_some h, by simpa using List.find?_some h⟩

/-- Two runs of one id are the same run. -/
theorem RunTables.run_eq {store : AnalysisStore} (h : RunTables store) {run run' : AnalysisRun}
    (hrun : run ∈ store.runs) (hrun' : run' ∈ store.runs) (hid : run.id = run'.id) : run = run' :=
  List.inj_on_of_nodup_map h.runIds hrun hrun' hid

/-- Two runners of one id are the same runner. -/
theorem RunTables.runner_eq {store : AnalysisStore} (h : RunTables store)
    {runner runner' : AnalysisRunner} (hrunner : runner ∈ store.runners)
    (hrunner' : runner' ∈ store.runners) (hid : runner.id = runner'.id) : runner = runner' :=
  List.inj_on_of_nodup_map h.runnerIds hrunner hrunner' hid

/-- A run of the table is found by its id. -/
theorem RunTables.find_run {store : AnalysisStore} (h : RunTables store) {run : AnalysisRun}
    (hrun : run ∈ store.runs) : store.findRun run.id = some run := by
  cases hfind : store.findRun run.id with
  | none =>
      have hnone := List.find?_eq_none.mp hfind run hrun
      simp at hnone
  | some found =>
      obtain ⟨hmem, hid⟩ := found_run hfind
      rw [h.run_eq hmem hrun hid]

/-- A run that did not succeed has no receipts. -/
theorem RunTables.no_receipts {store : AnalysisStore} (h : RunTables store) {run : AnalysisRun}
    (hrun : run ∈ store.runs) (hstate : run.state ≠ .succeeded) :
    ∀ stored ∈ store.receipts, stored.runId ≠ run.id := by
  intro stored hstored hid
  obtain ⟨other, hother, hotherId, hsucceeded⟩ := h.receipts stored hstored
  rw [h.run_eq hother hrun (hotherId.trans hid)] at hsucceeded
  exact hstate hsucceeded

/-- A run without receipts in the table has none. -/
theorem receipts_of_eq_nil {store : AnalysisStore} {id : String}
    (h : ∀ stored ∈ store.receipts, stored.runId ≠ id) : store.receiptsOf id = [] := by
  unfold receiptsOf
  rw [List.map_eq_nil_iff, List.filter_eq_nil_iff]
  intro stored hstored
  simpa using h stored hstored

/-- The ids of runs that are rewritten in place. -/
theorem map_run_ids {runs : List AnalysisRun} {change : AnalysisRun → AnalysisRun}
    (hid : ∀ run, (change run).id = run.id) :
    (runs.map change).map (·.id) = runs.map (·.id) := by
  simp only [List.map_map, List.map_inj_left, Function.comp_apply]
  intro run _
  exact hid run

/-- The ids of runners that are rewritten in place. -/
theorem map_runner_ids {runners : List AnalysisRunner} {change : AnalysisRunner → AnalysisRunner}
    (hid : ∀ runner, (change runner).id = runner.id) :
    (runners.map change).map (·.id) = runners.map (·.id) := by
  simp only [List.map_map, List.map_inj_left, Function.comp_apply]
  intro runner _
  exact hid runner

/-! ## Invariants -/

/-- Rewriting runs in place keeps the tables when no success comes or goes. -/
theorem RunTables.map_runs {store : AnalysisStore} (h : RunTables store)
    (change : AnalysisRun → AnalysisRun)
    (hkeys : ∀ run, (change run).id = run.id ∧ (change run).articleId = run.articleId ∧
      (change run).articleRevision = run.articleRevision)
    (hstate : ∀ run ∈ store.runs, (change run).state = .succeeded ↔ run.state = .succeeded)
    (hcancel : ∀ run ∈ store.runs, run.state = .succeeded →
      (change run).cancelRequestedAt = run.cancelRequestedAt) :
    RunTables { store with runs := store.runs.map change } where
  runIds := by
    show ((store.runs.map change).map (·.id)).Nodup
    rw [map_run_ids fun run => (hkeys run).1]
    exact h.runIds
  runnerIds := h.runnerIds
  receipts := by
    intro stored hstored
    obtain ⟨run, hrun, hid, hsucceeded⟩ := h.receipts stored hstored
    exact ⟨change run, List.mem_map_of_mem hrun, (hkeys run).1.trans hid,
      (hstate run hrun).mpr hsucceeded⟩
  succeeded := by
    intro run' hrun' hsucceeded
    obtain ⟨run, hrun, rfl⟩ := List.mem_map.mp hrun'
    have hbefore := (hstate run hrun).mp hsucceeded
    rw [(hkeys run).1, hcancel run hrun hbefore]
    exact h.succeeded run hrun hbefore
  shown := by
    intro article harticle id hlatest
    obtain ⟨run, hrun, hid, hsucceeded, harticleId, hrevision⟩ := h.shown article harticle id hlatest
    obtain ⟨hkeyId, hkeyArticle, hkeyRevision⟩ := hkeys run
    exact ⟨change run, List.mem_map_of_mem hrun, hkeyId.trans hid, (hstate run hrun).mpr hsucceeded,
      hkeyArticle.trans harticleId, hkeyRevision.trans hrevision⟩

/-- Runners with pairwise different ids may take the place of the runners. -/
theorem RunTables.set_runners {store : AnalysisStore} (h : RunTables store)
    {runners : List AnalysisRunner} (hrunners : (runners.map (·.id)).Nodup) :
    RunTables { store with runners := runners } where
  runIds := h.runIds
  runnerIds := hrunners
  receipts := h.receipts
  succeeded := h.succeeded
  shown := h.shown

/-- Articles that show a success of theirs may take the place of the articles. -/
theorem RunTables.set_articles {store : AnalysisStore} (h : RunTables store)
    {articles : List AnalysisArticle}
    (hshown : ∀ article ∈ articles, ∀ id, article.latestSuccessfulRunId = some id →
      ∃ run ∈ store.runs, run.id = id ∧ run.state = .succeeded ∧ run.articleId = article.id ∧
        run.articleRevision = article.revision) :
    RunTables { store with articles := articles } where
  runIds := h.runIds
  runnerIds := h.runnerIds
  receipts := h.receipts
  succeeded := h.succeeded
  shown := hshown

/-- A new run that has not ended joins the table. -/
theorem RunTables.add_run {store : AnalysisStore} (h : RunTables store) {run : AnalysisRun}
    (hfresh : ∀ old ∈ store.runs, old.id ≠ run.id) (hstate : run.state = .running) :
    RunTables { store with runs := store.runs ++ [run] } where
  runIds := by
    show ((store.runs ++ [run]).map (·.id)).Nodup
    rw [List.map_append, List.map_singleton, ← List.concat_eq_append]
    refine List.Nodup.concat ?_ h.runIds
    intro hmem
    obtain ⟨old, hold, heq⟩ := List.mem_map.mp hmem
    exact hfresh old hold heq
  runnerIds := h.runnerIds
  receipts := by
    intro stored hstored
    obtain ⟨old, hold, hid, hsucceeded⟩ := h.receipts stored hstored
    exact ⟨old, List.mem_append_left _ hold, hid, hsucceeded⟩
  succeeded := by
    intro other hother hsucceeded
    obtain hold | hnew := List.mem_append.mp hother
    · exact h.succeeded other hold hsucceeded
    · rw [List.mem_singleton.mp hnew, hstate] at hsucceeded
      cases hsucceeded
  shown := by
    intro article harticle id hlatest
    obtain ⟨old, hold, hrest⟩ := h.shown article harticle id hlatest
    exact ⟨old, List.mem_append_left _ hold, hrest⟩

/-- What a completion's scope had checked. -/
theorem complete_scope_spec {store : AnalysisStore} {input : RunCompletion} {revision : Nat}
    (h : completeScope input store = some revision) :
    ∃ run, store.findRun input.runId = some run ∧ run.state = .running ∧
      store.speaksFor input run = true ∧ run.articleRevision = revision ∧
      (input.completion.state = .succeeded → run.cancelRequestedAt = none) := by
  unfold completeScope at h
  split at h
  · cases h
  · next run hfind =>
      split at h
      · cases h
      · split at h
        · next hallowed =>
            cases h
            simp only [Bool.and_eq_true, Bool.or_eq_true, decide_eq_true_eq] at hallowed
            obtain ⟨⟨⟨⟨⟨hspeaks, hrunning⟩, -⟩, -⟩, hcancel⟩, -⟩ := hallowed
            refine ⟨run, hfind, hrunning, hspeaks, rfl, ?_⟩
            intro hsucceeded
            obtain hnone | hother := hcancel
            · simpa using hnone
            · exact absurd hsucceeded hother
        · cases h

/-- Who speaks for a run has its article and a live runner. -/
theorem speaks_for_spec {store : AnalysisStore} {input : RunCompletion} {run : AnalysisRun}
    (h : store.speaksFor input run = true) :
    run.articleId = input.articleId ∧
      ∃ runner ∈ store.runners, runner.id = run.runnerId ∧ runner.revokedAt = none := by
  unfold speaksFor at h
  simp only [Bool.and_eq_true, decide_eq_true_eq] at h
  obtain ⟨⟨⟨-, hrunner⟩, harticle⟩, -⟩ := h
  refine ⟨harticle, ?_⟩
  unfold runnerAuthorized at hrunner
  split at hrunner
  · cases hrunner
  · next runner hfind =>
      simp only [Bool.and_eq_true] at hrunner
      refine ⟨runner, List.mem_of_find?_eq_some hfind, ?_, ?_⟩
      · simpa using List.find?_some hfind
      · simpa using hrunner.1.1.2

/-- A consistent completion that succeeded has one receipt and no error. -/
theorem completion_succeeded {completion : AnalysisRunCompletion}
    (h : completion.state = .succeeded) :
    ∃ receipt, completion.queryReceipts = [receipt] ∧ completion.error = none := by
  have hconsistent := completion.consistent
  unfold completionConsistent at hconsistent
  rw [if_pos h] at hconsistent
  split at hconsistent
  · next receipt heq =>
      simp only [Bool.and_eq_true, Option.isNone_iff_eq_none] at hconsistent
      exact ⟨receipt, heq, hconsistent.2⟩
  · cases hconsistent

/-- A consistent completion that did not succeed has no receipts and an error. -/
theorem completion_not_succeeded {completion : AnalysisRunCompletion}
    (h : completion.state ≠ .succeeded) :
    completion.queryReceipts = [] ∧ ∃ error, completion.error = some error := by
  have hconsistent := completion.consistent
  unfold completionConsistent at hconsistent
  rw [if_neg h] at hconsistent
  simp only [Bool.and_eq_true, List.isEmpty_iff] at hconsistent
  exact ⟨hconsistent.1, Option.isSome_iff_exists.mp hconsistent.2⟩

/-! ## The end of a run -/

variable {collation : Collation}

/-- The state that a completion writes is a success when the completion says so. -/
theorem outcome_state (completion : AnalysisRunCompletion) (now : Nat) :
    (completion.outcome collation now).state = .succeeded ↔ completion.state = .succeeded := by
  show completion.state.state = .succeeded ↔ _
  cases completion.state <;> simp [AnalysisEnd.state]

/-- The receipts of the run that ended. -/
theorem receipts_ended_self {store : AnalysisStore} {input : RunCompletion}
    (hnone : ∀ stored ∈ store.receipts, stored.runId ≠ input.runId) :
    (store.ended collation input).receiptsOf input.runId =
      if input.completion.state = .succeeded then input.completion.queryReceipts else [] := by
  have hbefore : (store.receipts.filter fun stored => stored.runId = input.runId) = [] := by
    rw [List.filter_eq_nil_iff]
    intro stored hstored
    simpa using hnone stored hstored
  unfold receiptsOf ended
  split
  · simp [List.filter_append, hbefore, List.filter_map, Function.comp_def]
  · simp [hbefore]

/-- The receipts of other runs stay. -/
theorem receipts_ended_other {store : AnalysisStore} {input : RunCompletion} {id : String}
    (hne : id ≠ input.runId) :
    (store.ended collation input).receiptsOf id = store.receiptsOf id := by
  unfold receiptsOf ended
  split
  · simp [List.filter_append, Ne.symm hne]
  · rfl

/-- A completion that its scope admits keeps the run and receipt tables together. -/
theorem RunTables.ended {store : AnalysisStore} (h : RunTables store) {input : RunCompletion}
    {revision : Nat} (hscope : completeScope input store = some revision) :
    RunTables (store.ended collation input) := by
  obtain ⟨run, hfind, hrunning, hspeaks, -, hcancel⟩ := complete_scope_spec hscope
  obtain ⟨hrun, hid⟩ := found_run hfind
  have hactive : run.state ≠ .succeeded := by rw [hrunning]; decide
  have hnone : ∀ stored ∈ store.receipts, stored.runId ≠ input.runId := by
    rw [← hid]
    exact h.no_receipts hrun hactive
  -- the run was running, so those that have succeeded are others
  have hother : ∀ other ∈ store.runs, other.state = .succeeded → other.id ≠ input.runId := by
    intro other hmem hsucceeded heq
    rw [h.run_eq hmem hrun (heq.trans hid.symm), hrunning] at hsucceeded
    cases hsucceeded
  have hends : { run with toAnalysisOutcome := input.completion.outcome collation store.now } ∈
      (store.ended collation input).runs := by
    refine List.mem_map.mpr ⟨run, hrun, ?_⟩
    rw [if_pos hid]
  have hkeeps : ∀ other ∈ store.runs, other.state = .succeeded →
      other ∈ (store.ended collation input).runs := by
    intro other hmem hsucceeded
    refine List.mem_map.mpr ⟨other, hmem, ?_⟩
    rw [if_neg (hother other hmem hsucceeded)]
  refine ⟨?_, h.runnerIds, ?_, ?_, ?_⟩
  · have hids : (store.ended collation input).runs.map (·.id) = store.runs.map (·.id) :=
      map_run_ids fun run => by split <;> rfl
    rw [hids]
    exact h.runIds
  · intro stored hstored
    unfold AnalysisStore.ended at hstored
    by_cases hsucceeded : input.completion.state = .succeeded
    · simp only [if_pos hsucceeded, List.mem_append, List.mem_map] at hstored
      obtain hold | ⟨receipt, -, rfl⟩ := hstored
      · obtain ⟨other, hmem, hotherId, hstate⟩ := h.receipts stored hold
        exact ⟨other, hkeeps other hmem hstate, hotherId, hstate⟩
      · exact ⟨_, hends, hid, (outcome_state _ _).mpr hsucceeded⟩
    · simp only [if_neg hsucceeded] at hstored
      obtain ⟨other, hmem, hotherId, hstate⟩ := h.receipts stored hstored
      exact ⟨other, hkeeps other hmem hstate, hotherId, hstate⟩
  · intro run' hrun' hsucceeded
    obtain ⟨other, hmem, rfl⟩ := List.mem_map.mp hrun'
    -- a run that succeeds here has the one receipt of its completion
    by_cases hotherId : other.id = input.runId
    · rw [if_pos hotherId] at hsucceeded ⊢
      have hend := (outcome_state _ _).mp hsucceeded
      obtain ⟨receipt, hreceipt, -⟩ := completion_succeeded hend
      refine ⟨?_, ?_⟩
      · show ((store.ended collation input).receiptsOf other.id).length = 1
        rw [hotherId, receipts_ended_self hnone, if_pos hend, hreceipt]
        rfl
      · rw [← h.run_eq hrun hmem (hid.trans hotherId.symm)]
        exact hcancel hend
    · rw [if_neg hotherId] at hsucceeded ⊢
      rw [receipts_ended_other hotherId]
      exact h.succeeded other hmem hsucceeded
  · intro article harticle id hlatest
    obtain ⟨other, hmem, hotherId, hstate, hrest⟩ := h.shown article harticle id hlatest
    exact ⟨other, hkeeps other hmem hstate, hotherId, hstate, hrest⟩

/-- The article of a completion that its scope admits shows a success of its own. -/
theorem RunTables.show_success {store : AnalysisStore} (h : RunTables store)
    {input : RunCompletion} {revision : Nat}
    (hscope : completeScope input store = some revision) :
    RunTables ((store.ended collation input).shown input revision) := by
  have hended := @RunTables.ended collation _ h _ _ hscope
  obtain ⟨run, hfind, -, hspeaks, hrevision, -⟩ := complete_scope_spec hscope
  obtain ⟨hrun, hid⟩ := found_run hfind
  obtain ⟨harticleId, -⟩ := speaks_for_spec hspeaks
  refine hended.set_articles ?_
  intro article' harticle' id hlatest
  obtain ⟨article, harticle, rfl⟩ := List.mem_map.mp harticle'
  split at hlatest
  · next hshown =>
      simp only [Bool.and_eq_true, decide_eq_true_eq] at hshown
      obtain ⟨⟨harticleEq, hend⟩, hrevisionEq⟩ := hshown
      cases hlatest
      rw [if_pos (by simp [harticleEq, hend, hrevisionEq])]
      refine ⟨{ run with toAnalysisOutcome := input.completion.outcome collation store.now },
        List.mem_map.mpr ⟨run, hrun, by rw [if_pos hid]⟩, hid, (outcome_state _ _).mpr hend, ?_, ?_⟩
      · exact harticleId.trans harticleEq.symm
      · exact hrevision.trans hrevisionEq.symm
  · next hkept =>
      rw [if_neg hkept]
      exact hended.shown article harticle id hlatest

/-- A cleanup discards no receipt, since live runs have none. -/
theorem RunTables.cleaned_receipts {store : AnalysisStore} (h : RunTables store)
    (runnerIds : List String) (message : String) :
    (store.cleaned (store.cleanupSnapshot runnerIds) message).receipts = store.receipts := by
  show store.receipts.filter _ = store.receipts
  rw [List.filter_eq_self]
  intro stored hstored
  rw [decide_eq_true_eq]
  intro hmem
  simp only [cleanupSnapshot, List.mem_map, List.mem_filter, Bool.and_eq_true,
    decide_eq_true_eq] at hmem
  obtain ⟨run, ⟨hrun, -, hactive⟩, hid⟩ := hmem
  refine h.no_receipts hrun ?_ stored hstored hid.symm
  intro hsucceeded
  rw [hsucceeded] at hactive
  cases hactive

/-- Every run has its receipts after a cleanup. -/
theorem RunTables.receipts_cleaned {store : AnalysisStore} (h : RunTables store)
    {runnerIds : List String} {message id : String} :
    (store.cleaned (store.cleanupSnapshot runnerIds) message).receiptsOf id =
      store.receiptsOf id := by
  unfold receiptsOf
  rw [h.cleaned_receipts]

/-- The runs of a cleanup snapshot are live runs of its runners. -/
theorem RunTables.mem_cleanup {store : AnalysisStore} (h : RunTables store)
    {runnerIds : List String} {run : AnalysisRun} (hrun : run ∈ store.runs)
    (hmem : run.id ∈ (store.cleanupSnapshot runnerIds).runIds) :
    run.runnerId ∈ runnerIds ∧ run.state.isActive = true := by
  simp only [cleanupSnapshot, List.mem_map, List.mem_filter, Bool.and_eq_true,
    decide_eq_true_eq] at hmem
  obtain ⟨other, ⟨hother, hrunner, hactive⟩, hid⟩ := hmem
  rw [h.run_eq hother hrun hid] at hrunner hactive
  exact ⟨hrunner, hactive⟩

/-- A live run has not succeeded. -/
theorem not_succeeded_of_active {state : AnalysisRunState} (h : state.isActive = true) :
    state ≠ .succeeded := by
  rintro rfl
  cases h

/-- A cleanup keeps the tables together. -/
theorem RunTables.cleaned {store : AnalysisStore} (h : RunTables store) (runnerIds : List String)
    (message : String) :
    RunTables (store.cleaned (store.cleanupSnapshot runnerIds) message) := by
  have hruns := h.map_runs (fun run =>
    if run.id ∈ (store.cleanupSnapshot runnerIds).runIds then
      { run with
        state := .stale
        finishedAt := some store.now
        errorKind := some "runner_revoked"
        errorMessage := some message }
    else run) (fun run => by split <;> exact ⟨rfl, rfl, rfl⟩) (fun run hrun => by
      split
      · next hmem =>
          have hactive := not_succeeded_of_active (h.mem_cleanup hrun hmem).2
          simp [hactive]
      · rfl) (fun run _ _ => by split <;> rfl)
  have hrunners := @RunTables.set_runners _ hruns (store.runners.map fun runner =>
    if runner.id ∈ runnerIds then
      { runner with revokedAt := runner.revokedAt.or (some store.now) }
    else runner) (by
      rw [map_runner_ids fun runner => by split <;> rfl]
      exact h.runnerIds)
  refine ⟨hrunners.runIds, hrunners.runnerIds, ?_, ?_, hrunners.shown⟩
  · rw [h.cleaned_receipts]
    exact hrunners.receipts
  · intro run hrun hsucceeded
    rw [h.receipts_cleaned]
    exact hrunners.succeeded run hrun hsucceeded

/-- Every small change keeps the tables together. -/
theorem RunTables.change {store after : AnalysisStore} (h : RunTables store)
    (hchange : AnalysisChange collation store after) : RunTables after := by
  cases hchange with
  | other facts revisions now => exact ⟨h.runIds, h.runnerIds, h.receipts, h.succeeded, h.shown⟩
  | created run hfresh hstate hcancel => exact h.add_run hfresh hstate
  | cancelled run memberId hrun hactive hfirst =>
      -- only an active run is cancelled, so a run that has succeeded stays as it is
      refine h.map_runs _ (fun other => by split <;> exact ⟨rfl, rfl, rfl⟩)
        (fun other _ => by split <;> rfl) ?_
      intro other hother hsucceeded
      split
      · next hid =>
          have heq := h.run_eq hother (found_run hrun).1 hid
          rw [heq] at hsucceeded
          exact absurd hsucceeded (not_succeeded_of_active hactive)
      · rfl
  | ended input revision hscope => exact h.show_success hscope
  | registered runner hfresh =>
      refine h.set_runners ?_
      rw [List.map_append, List.map_singleton, ← List.concat_eq_append]
      refine List.Nodup.concat ?_ h.runnerIds
      intro hmem
      obtain ⟨old, hold, heq⟩ := List.mem_map.mp hmem
      exact hfresh old hold heq
  | seen id displayName =>
      refine h.set_runners ?_
      rw [map_runner_ids fun runner => by split <;> rfl]
      exact h.runnerIds
  | cleaned runnerIds message => exact h.cleaned runnerIds message
  | detached detach =>
      have hruns := h.map_runs (fun run =>
        { run with
          requestedByMemberId := detach run.requestedByMemberId
          cancelRequestedByMemberId := detach run.cancelRequestedByMemberId })
        (fun _ => ⟨rfl, rfl, rfl⟩) (fun _ _ => Iff.rfl) (fun _ _ _ => rfl)
      refine hruns.set_runners ?_
      have hids : (store.runners.map fun runner =>
          { runner with memberId := detach runner.memberId }).map (·.id) =
          store.runners.map (·.id) := map_runner_ids fun _ => rfl
      rw [hids]
      exact h.runnerIds
  | added article hlatest =>
      refine h.set_articles ?_
      intro other hother id hid
      obtain hold | hnew := List.mem_append.mp hother
      · exact h.shown other hold id hid
      · rw [List.mem_singleton.mp hnew, hlatest] at hid
        cases hid
  | edited articleId edit hlatest =>
      refine h.set_articles ?_
      intro other hother id hid
      obtain ⟨article, harticle, rfl⟩ := List.mem_map.mp hother
      split at hid
      · rw [hlatest] at hid
        cases hid
      · next hne =>
          rw [if_neg hne]
          exact h.shown article harticle id hid

/-! ## What no event takes back -/

/-- Nothing is taken back by doing nothing. -/
theorem Later.refl (store : AnalysisStore) : Later store store where
  runs := by
    intro run hrun
    exact ⟨run, hrun, rfl, rfl, fun _ => ⟨rfl, rfl⟩, id, fun _ hstate => hstate⟩
  revoked := by
    intro runner hrunner hrevoked
    exact ⟨runner, hrunner, rfl, hrevoked⟩

/-- A withdrawn run stays withdrawn. -/
theorem Later.withdrawn {store store' : AnalysisStore} (h : Later store store')
    {run run' : AnalysisRun} (hrun : RunLater store store' run run')
    (hwithdrawn : store.Withdrawn run) : store'.Withdrawn run' := by
  obtain hcancelled | ⟨runner, hrunner, hid, hrevoked⟩ := hwithdrawn
  · exact .inl (hrun.cancelled hcancelled)
  · obtain ⟨runner', hrunner', hid', hrevoked'⟩ := h.revoked runner hrunner hrevoked
    exact .inr ⟨runner', hrunner', by rw [hid', hid, hrun.runner], hrevoked'⟩

/-- What is not taken back twice is not taken back. -/
theorem Later.trans {first second third : AnalysisStore} (h : Later first second)
    (h' : Later second third) : Later first third where
  runs := by
    intro run hrun
    obtain ⟨run', hrun', hlater⟩ := h.runs run hrun
    obtain ⟨run'', hrun'', hlater'⟩ := h'.runs run' hrun'
    refine ⟨run'', hrun'', hlater'.id.trans hlater.id, hlater'.runner.trans hlater.runner, ?_, ?_, ?_⟩
    · intro hended
      obtain ⟨houtcome, hreceipts⟩ := hlater.final hended
      have hended' : run'.state.isActive = false := by
        rw [show run'.state = run.state from congrArg (·.state) houtcome]
        exact hended
      obtain ⟨houtcome', hreceipts'⟩ := hlater'.final hended'
      rw [hlater.id] at hreceipts'
      exact ⟨houtcome'.trans houtcome, hreceipts'.trans hreceipts⟩
    · intro hcancelled
      exact hlater'.cancelled (hlater.cancelled hcancelled)
    · intro hwithdrawn hstate
      exact hlater'.withdrawn (h.withdrawn hlater hwithdrawn) (hlater.withdrawn hwithdrawn hstate)
  revoked := by
    intro runner hrunner hrevoked
    obtain ⟨runner', hrunner', hid', hrevoked'⟩ := h.revoked runner hrunner hrevoked
    obtain ⟨runner'', hrunner'', hid'', hrevoked''⟩ := h'.revoked runner' hrunner' hrevoked'
    exact ⟨runner'', hrunner'', hid''.trans hid', hrevoked''⟩

/-- A run that is left as it is, with its receipts. -/
theorem RunLater.kept {store store' : AnalysisStore} {run run' : AnalysisRun}
    (hid : run'.id = run.id) (hrunner : run'.runnerId = run.runnerId)
    (houtcome : run'.toAnalysisOutcome = run.toAnalysisOutcome)
    (hreceipts : store'.receiptsOf run.id = store.receiptsOf run.id)
    (hcancel : run.cancelRequestedAt.isSome = true → run'.cancelRequestedAt.isSome = true) :
    RunLater store store' run run' where
  id := hid
  runner := hrunner
  final := fun _ => ⟨houtcome, hreceipts⟩
  cancelled := hcancel
  withdrawn := by
    intro _ hstate
    rw [show run'.state = run.state from congrArg (·.state) houtcome]
    exact hstate

/-- Nothing is taken back about runs by a change that leaves the runs and the receipts. -/
theorem later_runs_of_eq {store store' : AnalysisStore} (hruns : store'.runs = store.runs)
    (hreceipts : store'.receipts = store.receipts) :
    ∀ run ∈ store.runs, ∃ run' ∈ store'.runs, RunLater store store' run run' := by
  intro run hrun
  refine ⟨run, hruns ▸ hrun, .kept rfl rfl rfl ?_ id⟩
  unfold receiptsOf
  rw [hreceipts]

/-- Nothing is taken back by a change that leaves the runs, the receipts and the runners. -/
theorem Later.of_eq {store store' : AnalysisStore} (hruns : store'.runs = store.runs)
    (hreceipts : store'.receipts = store.receipts) (hrunners : store'.runners = store.runners) :
    Later store store' where
  runs := later_runs_of_eq hruns hreceipts
  revoked := by
    intro runner hrunner hrevoked
    exact ⟨runner, hrunners ▸ hrunner, rfl, hrevoked⟩

/-- A completion that its scope admits ends a run that nobody withdrew. -/
theorem RunTables.ended_later {store : AnalysisStore} (h : RunTables store) {input : RunCompletion}
    {revision : Nat} (hscope : completeScope input store = some revision) :
    Later store ((store.ended collation input).shown input revision) where
  runs := by
    obtain ⟨found, hfind, hrunning, hspeaks, -, hcancel⟩ := complete_scope_spec hscope
    obtain ⟨hfound, hid⟩ := found_run hfind
    obtain ⟨-, runner, hrunner, hrunnerId, hlive⟩ := speaks_for_spec hspeaks
    intro run hrun
    by_cases hrunId : run.id = input.runId
    · have heq : run = found := h.run_eq hrun hfound (hrunId.trans hid.symm)
      subst heq
      refine ⟨{ run with toAnalysisOutcome := input.completion.outcome collation store.now },
        List.mem_map.mpr ⟨run, hrun, by rw [if_pos hrunId]⟩, rfl, rfl, ?_, fun hsome => hsome, ?_⟩
      · intro hended
        rw [hrunning] at hended
        cases hended
      · intro hwithdrawn _ hsucceeded
        have hend := (outcome_state _ _).mp hsucceeded
        obtain hcancelled | ⟨other, hother, hotherId, hrevoked⟩ := hwithdrawn
        · rw [hcancel hend] at hcancelled
          cases hcancelled
        · rw [h.runner_eq hother hrunner (hotherId.trans hrunnerId.symm), hlive] at hrevoked
          cases hrevoked
    · refine ⟨run, List.mem_map.mpr ⟨run, hrun, by rw [if_neg hrunId]⟩,
        .kept rfl rfl rfl ?_ id⟩
      exact @receipts_ended_other collation _ _ _ hrunId
  revoked := by
    intro runner hrunner hrevoked
    exact ⟨runner, hrunner, rfl, hrevoked⟩

/-- A cleanup ends live runs without success. -/
theorem RunTables.cleaned_later {store : AnalysisStore} (h : RunTables store)
    (runnerIds : List String) (message : String) :
    Later store (store.cleaned (store.cleanupSnapshot runnerIds) message) where
  runs := by
    intro run hrun
    by_cases hmem : run.id ∈ (store.cleanupSnapshot runnerIds).runIds
    · have hactive := (h.mem_cleanup hrun hmem).2
      refine ⟨_, List.mem_map.mpr ⟨run, hrun, if_pos hmem⟩, rfl, rfl, ?_, id, ?_⟩
      · intro hended
        rw [hactive] at hended
        cases hended
      · intro _ _ hsucceeded
        cases hsucceeded
    · exact ⟨run, List.mem_map.mpr ⟨run, hrun, if_neg hmem⟩, .kept rfl rfl rfl h.receipts_cleaned id⟩
  revoked := by
    intro runner hrunner hrevoked
    by_cases hmem : runner.id ∈ runnerIds
    · refine ⟨_, List.mem_map.mpr ⟨runner, hrunner, if_pos hmem⟩, rfl, ?_⟩
      simp
    · exact ⟨runner, List.mem_map.mpr ⟨runner, hrunner, if_neg hmem⟩, rfl, hrevoked⟩

/-- No small change takes anything back. -/
theorem RunTables.change_later {store after : AnalysisStore} (h : RunTables store)
    (hchange : AnalysisChange collation store after) : Later store after := by
  cases hchange with
  | other facts revisions now => exact .of_eq rfl rfl rfl
  | created run hfresh hstate hcancel =>
      refine ⟨?_, (Later.refl store).revoked⟩
      intro old hold
      exact ⟨old, List.mem_append_left _ hold, .kept rfl rfl rfl rfl id⟩
  | cancelled run memberId hrun hactive hfirst =>
      refine ⟨?_, (Later.refl store).revoked⟩
      intro old hold
      by_cases hid : old.id = run.id
      · exact ⟨_, List.mem_map.mpr ⟨old, hold, if_pos hid⟩, .kept rfl rfl rfl rfl fun _ => rfl⟩
      · exact ⟨old, List.mem_map.mpr ⟨old, hold, if_neg hid⟩, .kept rfl rfl rfl rfl id⟩
  | ended input revision hscope => exact h.ended_later hscope
  | registered runner hfresh =>
      refine ⟨later_runs_of_eq rfl rfl, ?_⟩
      intro old hold hrevoked
      exact ⟨old, List.mem_append_left _ hold, rfl, hrevoked⟩
  | seen id displayName =>
      refine ⟨later_runs_of_eq rfl rfl, ?_⟩
      intro runner hrunner hrevoked
      by_cases hid : runner.id = id
      · exact ⟨_, List.mem_map.mpr ⟨runner, hrunner, if_pos hid⟩, rfl, hrevoked⟩
      · exact ⟨runner, List.mem_map.mpr ⟨runner, hrunner, if_neg hid⟩, rfl, hrevoked⟩
  | cleaned runnerIds message => exact h.cleaned_later runnerIds message
  | detached detach =>
      refine ⟨?_, ?_⟩
      · intro run hrun
        exact ⟨_, List.mem_map_of_mem hrun, .kept rfl rfl rfl rfl id⟩
      · intro runner hrunner hrevoked
        exact ⟨_, List.mem_map_of_mem hrunner, rfl, hrevoked⟩
  | added article hlatest => exact .of_eq rfl rfl rfl
  | edited articleId edit hlatest => exact .of_eq rfl rfl rfl

/-! ## Reachable stores -/

/-- The store of a new workspace after a list of events. -/
def AnalysisStore.reached (collation : Collation) (facts : AnalysisFacts)
    (events : List AnalysisEvent) : AnalysisStore :=
  run (analysisStep collation) { facts := facts } events

/-- An event keeps the tables together. -/
theorem RunTables.step {store : AnalysisStore} (h : RunTables store) (event : AnalysisEvent) :
    RunTables (analysisStep collation store event) :=
  (step_changes store event).invariant (fun _ _ hbefore hchange => hbefore.change hchange) h

/-- No event takes anything back. -/
theorem RunTables.step_later {store : AnalysisStore} (h : RunTables store)
    (event : AnalysisEvent) : Later store (analysisStep collation store event) :=
  (step_changes store event).relation (fun _ _ hbefore hchange => hbefore.change hchange)
    Later.refl Later.trans (fun _ _ hbefore hchange => hbefore.change_later hchange) h

/-- The tables fit together after every run of events. -/
theorem RunTables.run {store : AnalysisStore} (h : RunTables store) (events : List AnalysisEvent) :
    RunTables (run (analysisStep collation) store events) :=
  run_invariant h (fun _ event hbefore => hbefore.step event) events

/-- The tables of a new workspace fit together. -/
theorem reached_tables (facts : AnalysisFacts) (events : List AnalysisEvent) :
    RunTables (AnalysisStore.reached collation facts events) :=
  @RunTables.run collation { facts := facts }
    ⟨List.nodup_nil, List.nodup_nil, by simp, by simp, by simp⟩ events

/-- No run of events takes anything back. -/
theorem RunTables.run_later {store : AnalysisStore} (h : RunTables store)
    (events : List AnalysisEvent) : Later store (Library.run (analysisStep collation) store events) :=
  run_relation h (fun _ event hbefore => hbefore.step event) Later.refl Later.trans
    (fun _ event hbefore => hbefore.step_later event) events

/-! ## Replays -/

/-- An end is known by its state. -/
theorem end_state_injective : Function.Injective AnalysisEnd.state := by
  intro first second h
  cases first <;> cases second <;> first | rfl | cases h

/-- Completions with the same parts are the same. -/
theorem completion_ext {first second : AnalysisRunCompletion} (hstate : first.state = second.state)
    (hreceipts : first.queryReceipts = second.queryReceipts) (herror : first.error = second.error) :
    first = second := by
  cases first
  cases second
  cases hstate
  cases hreceipts
  cases herror
  rfl

/-- The receipts that a completion stores. -/
def AnalysisRunCompletion.storedReceipts (completion : AnalysisRunCompletion) :
    List AnalysisQueryReceiptInput :=
  if completion.state = .succeeded then completion.queryReceipts else []

/-- What the replay compares tells a completion from every other. -/
theorem replay_condition (accepted completion : AnalysisRunCompletion) (run : AnalysisRun)
    (finishedAt : Nat) (houtcome : run.toAnalysisOutcome = accepted.outcome collation finishedAt) :
    replayMatches collation run accepted.storedReceipts completion = true ↔
      completion = accepted := by
  simp only [replayMatches, Bool.and_eq_true, decide_eq_true_eq, and_assoc]
  rw [houtcome]
  constructor
  · rintro ⟨hstate, -, -, -, -, -, hkind, hmessage, -, hcount⟩
    have hsame : completion.state = accepted.state := end_state_injective hstate.symm
    by_cases hsucceeded : accepted.state = .succeeded
    · obtain ⟨receipt, hreceipt, herror⟩ := completion_succeeded hsucceeded
      obtain ⟨receipt', hreceipt', herror'⟩ := completion_succeeded (hsame.trans hsucceeded)
      rw [hsame, if_pos hsucceeded, hreceipt', AnalysisRunCompletion.storedReceipts,
        if_pos hsucceeded, hreceipt] at hcount
      have hequal : receipt' = receipt := by
        by_contra hne
        have hapart : receipt ≠ receipt' := fun heq => hne heq.symm
        simp [hapart] at hcount
      refine completion_ext hsame ?_ (herror'.trans herror.symm)
      rw [hreceipt', hreceipt, hequal]
    · obtain ⟨hreceipts, ⟨error, herror⟩⟩ := completion_not_succeeded hsucceeded
      obtain ⟨hreceipts', ⟨error', herror'⟩⟩ :=
        @completion_not_succeeded completion (by rw [hsame]; exact hsucceeded)
      refine completion_ext hsame (hreceipts'.trans hreceipts.symm) ?_
      have hkinds : some error.kind = some error'.kind := by
        have hwritten : accepted.error.map (·.kind) = completion.error.map (·.kind) := hkind
        rwa [herror, herror'] at hwritten
      have hmessages : some error.message = some error'.message := by
        have hwritten : accepted.error.map (·.message) = completion.error.map (·.message) := hmessage
        rwa [herror, herror'] at hwritten
      cases error
      cases error'
      cases hkinds
      cases hmessages
      rw [herror, herror']
  · rintro rfl
    refine ⟨rfl, rfl, rfl, rfl, rfl, rfl, rfl, rfl, ?_, ?_⟩
    · unfold AnalysisRunCompletion.storedReceipts
      split <;> rfl
    · by_cases hsucceeded : completion.state = .succeeded
      · obtain ⟨receipt, hreceipt, -⟩ := completion_succeeded hsucceeded
        simp [AnalysisRunCompletion.storedReceipts, hsucceeded, hreceipt]
      · obtain ⟨hreceipts, -⟩ := completion_not_succeeded hsucceeded
        simp [hsucceeded, hreceipts]

/-- A completion that was accepted ended its run with what it said. -/
theorem accepted_completion {store after : AnalysisStore} (h : RunTables store)
    {input : RunCompletion} {revision : Nat}
    (haccepted : store.commitAnalysisRunCompletion collation input = .ok (after, some revision)) :
    RunTables after ∧ ∃ run ∈ after.runs, run.id = input.runId ∧ run.state.isActive = false ∧
      run.toAnalysisOutcome = input.completion.outcome collation store.now ∧
      after.receiptsOf run.id = input.completion.storedReceipts := by
  have hafter : committed store (store.commitAnalysisRunCompletion collation input) = after := by
    rw [haccepted]
    rfl
  have htables : RunTables after := by
    rw [← hafter]
    exact h.step (.complete input)
  obtain ⟨hscope, hstatements⟩ := run_batch_matched.mp haccepted
  have hends := completion_statements hstatements
  obtain ⟨run, hfind, hrunning, -⟩ := complete_scope_spec hscope
  obtain ⟨hrun, hid⟩ := found_run hfind
  have hnone : ∀ stored ∈ store.receipts, stored.runId ≠ input.runId := by
    rw [← hid]
    exact h.no_receipts hrun (by rw [hrunning]; decide)
  refine ⟨htables, { run with
    toAnalysisOutcome := input.completion.outcome collation store.now }, ?_, hid, ?_, rfl, ?_⟩
  · rw [hends]
    exact List.mem_map.mpr ⟨run, hrun, by rw [if_pos hid]⟩
  · show input.completion.state.state.isActive = false
    cases input.completion.state <;> rfl
  · rw [hends]
    show (store.ended collation input).receiptsOf run.id = _
    rw [hid]
    exact receipts_ended_self hnone

/-- What a later call with the completion of a run that has ended reads and changes. -/
theorem replay_after {store after : AnalysisStore} (h : RunTables store) {input : RunCompletion}
    {revision : Nat}
    (haccepted : store.commitAnalysisRunCompletion collation input = .ok (after, some revision))
    (later : List AnalysisEvent) (replay : RunCompletion) (hid : replay.runId = input.runId) :
    analysisStep collation (Library.run (analysisStep collation) after later) (.complete replay) =
        Library.run (analysisStep collation) after later ∧
      ∀ row, (Library.run (analysisStep collation) after later).replayAnalysisRunCompletion
          collation replay = some row ↔
        (Library.run (analysisStep collation) after later).findRun replay.runId = some row ∧
          (Library.run (analysisStep collation) after later).speaksFor replay row = true ∧
          replay.completion = input.completion := by
  obtain ⟨htables, run, hrun, hrunId, hended, houtcome, hreceipts⟩ := accepted_completion h haccepted
  have hlater := @RunTables.run_later collation _ htables later
  have hfinal := @RunTables.run collation _ htables later
  generalize Library.run (analysisStep collation) after later = final at hlater hfinal ⊢
  obtain ⟨run', hrun', hkept⟩ := hlater.runs run hrun
  obtain ⟨houtcome', hreceipts'⟩ := hkept.final hended
  have hfind : final.findRun replay.runId = some run' := by
    have hself := hfinal.find_run hrun'
    rwa [hkept.id, hrunId, ← hid] at hself
  have hstate : run'.state.isActive = false := by
    rw [show run'.state = run.state from congrArg (·.state) houtcome']
    exact hended
  refine ⟨?_, ?_⟩
  · -- the run is not running, so the scope of the batch selects nothing
    have hscope : completeScope replay final = none := by
      rw [Option.eq_none_iff_forall_ne_some]
      intro revision hsome
      obtain ⟨other, hother, hrunning, -⟩ := complete_scope_spec hsome
      rw [hfind] at hother
      cases hother
      rw [hrunning] at hstate
      cases hstate
    have hbatch : final.commitAnalysisRunCompletion collation replay = .ok (final, none) :=
      unmatched_batch (by simp [Gated, insertReceipts, endRun, showSuccess]) hscope
    show committed final (final.commitAnalysisRunCompletion collation replay) = final
    rw [hbatch]
    rfl
  · intro row
    have hstored : final.receiptsOf run'.id = input.completion.storedReceipts := by
      rw [hkept.id, hreceipts', hreceipts]
    have hsame := @replay_condition collation input.completion replay.completion run'
      store.now (houtcome'.trans houtcome)
    unfold replayAnalysisRunCompletion
    rw [hfind]
    simp only [hstored, Option.ite_none_right_eq_some, Bool.and_eq_true]
    constructor
    · rintro ⟨⟨hspeaks, hcompared⟩, hrow⟩
      cases hrow
      exact ⟨rfl, hspeaks, hsame.mp hcompared⟩
    · rintro ⟨hrow, hspeaks, hcompletion⟩
      cases hrow
      exact ⟨⟨hspeaks, hsame.mpr hcompletion⟩, rfl⟩

/-- A run ends at most once and keeps its outcome and its receipts; a later call with a completion
changes nothing, and reads the stored run exactly when it is the completion that ended it, by
someone who may still speak for the run; a withdrawn run never succeeds; exactly the runs that
succeeded have receipts; and an article shows a success of its current revision. -/
theorem analysis_run_protocol (collation : Collation) (facts : AnalysisFacts)
    (events later : List AnalysisEvent) :
    (∀ run ∈ (AnalysisStore.reached collation facts events).runs, run.state.isActive = false →
      ∃ run' ∈ (AnalysisStore.reached collation facts (events ++ later)).runs, run'.id = run.id ∧
        run'.toAnalysisOutcome = run.toAnalysisOutcome ∧
        (AnalysisStore.reached collation facts (events ++ later)).receiptsOf run.id =
          (AnalysisStore.reached collation facts events).receiptsOf run.id) ∧
    ((AnalysisStore.reached collation facts events).runs.map (·.id)).Nodup ∧
    (∀ input revision after,
      (AnalysisStore.reached collation facts events).commitAnalysisRunCompletion collation input =
        .ok (after, some revision) →
      ∀ replay : RunCompletion, replay.runId = input.runId →
        analysisStep collation (Library.run (analysisStep collation) after later)
            (.complete replay) = Library.run (analysisStep collation) after later ∧
          ∀ row, (Library.run (analysisStep collation) after later).replayAnalysisRunCompletion
              collation replay = some row ↔
            (Library.run (analysisStep collation) after later).findRun replay.runId = some row ∧
              (Library.run (analysisStep collation) after later).speaksFor replay row = true ∧
              replay.completion = input.completion) ∧
    (∀ run ∈ (AnalysisStore.reached collation facts events).runs,
      (AnalysisStore.reached collation facts events).Withdrawn run → run.state ≠ .succeeded →
      ∀ run' ∈ (AnalysisStore.reached collation facts (events ++ later)).runs,
        run'.id = run.id → run'.state ≠ .succeeded) ∧
    (∀ run ∈ (AnalysisStore.reached collation facts events).runs,
      (AnalysisStore.reached collation facts events).receiptsOf run.id ≠ [] ↔
        run.state = .succeeded) ∧
    (∀ stored ∈ (AnalysisStore.reached collation facts events).receipts,
      ∃ run ∈ (AnalysisStore.reached collation facts events).runs, run.id = stored.runId) ∧
    (∀ article ∈ (AnalysisStore.reached collation facts events).articles, ∀ id,
      article.latestSuccessfulRunId = some id →
      ∃ run ∈ (AnalysisStore.reached collation facts events).runs, run.id = id ∧
        run.state = .succeeded ∧ run.articleId = article.id ∧
        run.articleRevision = article.revision) := by
  have htables := @reached_tables collation facts events
  have hrest : AnalysisStore.reached collation facts (events ++ later) =
      Library.run (analysisStep collation) (AnalysisStore.reached collation facts events) later :=
    run_append _ _ _ _
  have hlater := @RunTables.run_later collation _ htables later
  have hfinal := @RunTables.run collation _ htables later
  rw [← hrest] at hlater hfinal
  refine ⟨?_, htables.runIds, ?_, ?_, ?_, ?_, htables.shown⟩
  · intro run hrun hended
    obtain ⟨run', hrun', hkept⟩ := hlater.runs run hrun
    obtain ⟨houtcome, hreceipts⟩ := hkept.final hended
    exact ⟨run', hrun', hkept.id, houtcome, hreceipts⟩
  · intro input revision after haccepted replay hid
    exact replay_after htables haccepted later replay hid
  · intro run hrun hwithdrawn hstate run' hrun' hid
    -- ids are unique, so the later run of this id is what became of this one
    obtain ⟨kept, hkeptRun, hkept⟩ := hlater.runs run hrun
    rw [hfinal.run_eq hrun' hkeptRun (hid.trans hkept.id.symm)]
    exact hkept.withdrawn hwithdrawn hstate
  · intro run hrun
    constructor
    · intro hsome
      by_contra hstate
      exact hsome (receipts_of_eq_nil (htables.no_receipts hrun hstate))
    · intro hsucceeded hnil
      have hone := (htables.succeeded run hrun hsucceeded).1
      rw [hnil] at hone
      cases hone
  · intro stored hstored
    obtain ⟨run, hrun, hid, -⟩ := htables.receipts stored hstored
    exact ⟨run, hrun, hid⟩

/-! ## A replay after the runner was revoked -/

/-- An editor with one connection. -/
def runFixtureFacts : AnalysisFacts where
  directory := {
    sessions := [{ id := "session", userId := "user", expiresAt := 1000 }]
    members := [{ id := "member", userId := "user", role := "editor" }] }
  connections := [{ id := "connection", contentRevision := 1 }]
  bindings := [{
    projectEnvironmentId := "environment"
    environmentRevision := 1
    connectionId := "connection"
    connectionRevision := 1 }]
  environments := [{ id := "environment", revision := 1 }]
  grants := [{ connectionId := "connection", memberId := "member", capability := "use" }]

/-- The editor. -/
def runFixtureActor : MemberAuthority where
  sessionId := "session"
  userId := "user"
  membershipId := "member"
  role := "editor"

/-- A success with one receipt. -/
def runFixtureCompletion : RunCompletion where
  articleId := "article"
  runId := "run"
  runnerId := "runner"
  runnerCapabilityHash := "capability"
  completion := {
    state := .succeeded
    queryReceipts := [{
      queryNodeId := "query"
      connectionId := "connection"
      connectionRevision := 1
      queryRunId := "query-run"
      queryHash := "hash"
      schemaFingerprint := "fingerprint"
      state := .succeeded
      rowCount := 2
      byteCount := 257
      durationMs := 9 }]
    error := none
    consistent := rfl }
  authority := runFixtureActor

/-- An article is saved and a run of it starts on a new runner. -/
def runFixtureEvents : List AnalysisEvent := [
  .createArticle {
    id := "article"
    projectEnvironmentId := "environment"
    environmentRevision := 1
    connectionId := "connection"
    connectionRevision := 1
    definition := "definition"
    authority := runFixtureActor },
  .register {
    deviceId := "device"
    displayName := "Runner"
    providedCapabilityHash := none
    issuedCapabilityHash := "capability"
    runnerId := "runner"
    authority := runFixtureActor },
  .create {
    articleId := "article"
    runId := "run"
    articleRevision := 1
    runnerId := "runner"
    definitionHash := "definition-hash"
    runnerCapabilityHash := "capability"
    authority := runFixtureActor }]

/-- The collation of the fixture. -/
def fixtureCollation : Collation := fun left right => left ≤ right

/-- The completion ends the run with success, the runner is revoked, and the same completion reads
nothing although the run is stored. -/
theorem replay_of_revoked_runner :
    ((AnalysisStore.reached fixtureCollation runFixtureFacts
      (runFixtureEvents ++ [.complete runFixtureCompletion])).findRun "run").map (·.state) =
        some .succeeded ∧
    ((AnalysisStore.reached fixtureCollation runFixtureFacts
      (runFixtureEvents ++ [.complete runFixtureCompletion, .revokeRunner {
        runnerId := "runner"
        authority := runFixtureActor }])).findRun "run").map (·.state) = some .succeeded ∧
    (AnalysisStore.reached fixtureCollation runFixtureFacts
      (runFixtureEvents ++ [.complete runFixtureCompletion, .revokeRunner {
        runnerId := "runner"
        authority := runFixtureActor }])).replayAnalysisRunCompletion fixtureCollation
          runFixtureCompletion = none := by
  decide

end Dopedb.Cloud
