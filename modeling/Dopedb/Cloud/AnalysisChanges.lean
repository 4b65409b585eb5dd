import Dopedb.Cloud.AnalysisRuns

/-!
# What a batch changes about analysis runs

`AnalysisChange` lists the small changes of the run, receipt, runner and article tables, each with
what its batch had checked. Read `step_changes` first: every event is a sequence of them, so that an
invariant is proved once for each small change.
-/

namespace Dopedb.Cloud

open Library AnalysisStore

variable {collation : Collation}

/-! ## Changes -/

/-- The runs of a snapshot end, their receipts go and its runners are revoked. -/
def AnalysisStore.cleaned (store : AnalysisStore) (snapshot : CleanupSnapshot)
    (message : String) : AnalysisStore :=
  { store with
    runners := store.runners.map fun runner =>
      if runner.id ∈ snapshot.runnerIds then
        { runner with revokedAt := runner.revokedAt.or (some store.now) }
      else runner
    runs := store.runs.map fun run =>
      if run.id ∈ snapshot.runIds then
        { run with
          state := .stale
          finishedAt := some store.now
          errorKind := some "runner_revoked"
          errorMessage := some message }
      else run
    receipts := store.receipts.filter fun stored => decide (stored.runId ∉ snapshot.runIds) }

/-- The run ends with its receipts. -/
def AnalysisStore.ended (collation : Collation) (store : AnalysisStore) (input : RunCompletion) :
    AnalysisStore :=
  { store.updateRun input.runId fun run =>
      { run with
        toAnalysisOutcome := input.completion.outcome collation store.now } with
    receipts :=
      if input.completion.state = .succeeded then
        store.receipts ++ input.completion.queryReceipts.map fun receipt => ⟨input.runId, receipt⟩
      else store.receipts }

/-- An article shows a success. -/
def AnalysisStore.shown (store : AnalysisStore) (input : RunCompletion) (revision : Nat) :
    AnalysisStore :=
  { store with
    articles := store.articles.map fun article =>
      if article.id = input.articleId && input.completion.state = .succeeded &&
          article.revision = revision then
        { article with
          latestSuccessfulRunId := some input.runId
          updatedAt := store.now }
      else article }

/-- The small changes, each with what its batch had checked. -/
inductive AnalysisChange (collation : Collation) : AnalysisStore → AnalysisStore → Prop where
  | other (store : AnalysisStore) (facts : AnalysisFacts)
      (revisions : List AnalysisArticleRevision) (now : Nat) :
      AnalysisChange collation store
        { store with
          facts := facts
          revisions := revisions
          now := now }
  | created (store : AnalysisStore) (run : AnalysisRun) (hfresh : ∀ old ∈ store.runs, old.id ≠ run.id)
      (hstate : run.state = .running) (hcancel : run.cancelRequestedAt = none) :
      AnalysisChange collation store { store with runs := store.runs ++ [run] }
  | cancelled (store : AnalysisStore) (run : AnalysisRun) (memberId : String)
      (hrun : store.findRun run.id = some run) (hactive : run.state.isActive = true)
      (hfirst : run.cancelRequestedAt = none) :
      AnalysisChange collation store (store.updateRun run.id fun run =>
        { run with
          cancelRequestedAt := some store.now
          cancelRequestedByMemberId := some memberId })
  | ended (store : AnalysisStore) (input : RunCompletion) (revision : Nat)
      (hscope : completeScope input store = some revision) :
      AnalysisChange collation store ((store.ended collation input).shown input revision)
  | registered (store : AnalysisStore) (runner : AnalysisRunner)
      (hfresh : ∀ old ∈ store.runners, old.id ≠ runner.id) :
      AnalysisChange collation store { store with runners := store.runners ++ [runner] }
  | seen (store : AnalysisStore) (id displayName : String) :
      AnalysisChange collation store { store with
        runners := store.runners.map fun runner =>
          if runner.id = id then
            { runner with
              displayName := displayName
              lastSeenAt := store.now }
          else runner }
  | cleaned (store : AnalysisStore) (runnerIds : List String) (message : String) :
      AnalysisChange collation store (store.cleaned (store.cleanupSnapshot runnerIds) message)
  | detached (store : AnalysisStore) (detach : Option String → Option String) :
      AnalysisChange collation store { store with
        runners := store.runners.map fun runner =>
          { runner with memberId := detach runner.memberId }
        runs := store.runs.map fun run =>
          { run with
            requestedByMemberId := detach run.requestedByMemberId
            cancelRequestedByMemberId := detach run.cancelRequestedByMemberId } }
  | added (store : AnalysisStore) (article : AnalysisArticle)
      (hlatest : article.latestSuccessfulRunId = none) :
      AnalysisChange collation store { store with articles := store.articles ++ [article] }
  | edited (store : AnalysisStore) (id : String) (edit : AnalysisArticle → AnalysisArticle)
      (hlatest : ∀ article, (edit article).latestSuccessfulRunId = none) :
      AnalysisChange collation store (store.updateArticle id edit)

/-- One small change. -/
theorem one_change {store after : AnalysisStore} (h : AnalysisChange collation store after) :
    Changes (AnalysisChange collation) store after :=
  Relation.ReflTransGen.single h

/-- A committed batch is a sequence of small changes when its matched run is. -/
theorem batch_changes {π : Type} {scope : AnalysisStore → Option π}
    {statements : List (Statement AnalysisAbort AnalysisStore π)} {store : AnalysisStore}
    (hgated : ∀ statement ∈ statements, Gated statement)
    (hmatched : ∀ payload after, scope store = some payload →
      runStatements statements (some payload) store = .ok after →
      Changes (AnalysisChange collation) store after) :
    Changes (AnalysisChange collation) store
      (committed store (runBatch scope statements store)) := by
  obtain hkept | ⟨payload, hscope, hrun⟩ := batch_cases hgated store
  · rw [hkept]
  · exact hmatched payload _ hscope hrun

/-! ## Runs -/

/-- A started run is new. -/
theorem create_changes (store : AnalysisStore) (input : RunCreation) :
    Changes (AnalysisChange collation) store
      (committed store (store.commitAnalysisRunCreate input)) := by
  refine batch_changes (by simp [Gated, insertRun]) ?_
  intro generation after _ hrun
  simp only [run_statements_cons, run_statements_nil, insertRun] at hrun
  obtain ⟨between, hinsert, rfl⟩ := hrun
  split at hinsert
  · cases hinsert
  · next hfresh =>
      cases hinsert
      refine one_change (.created store _ ?_ rfl rfl)
      intro old hold heq
      exact hfresh (List.any_eq_true.mpr ⟨old, hold, by simpa using heq⟩)

/-- A cancellation is noted at the live run that was found. -/
theorem cancel_changes (store : AnalysisStore) (input : RunCancellation) :
    Changes (AnalysisChange collation) store
      (committed store (store.requestAnalysisRunCancellation input)) := by
  refine batch_changes (by simp [Gated, noteCancellation]) ?_
  intro revision after hscope hrun
  simp only [run_statements_cons, run_statements_nil, noteCancellation, Except.ok.injEq] at hrun
  obtain ⟨between, rfl, rfl⟩ := hrun
  unfold cancelScope at hscope
  split at hscope
  · next actor run _ hfind =>
      split at hscope
      · cases hscope
      · split at hscope
        · next hallowed =>
            simp only [Bool.and_eq_true] at hallowed
            have hid : run.id = input.runId := by simpa using List.find?_some hfind
            rw [← hid] at hfind ⊢
            have hfirst : run.cancelRequestedAt = none := by simpa using hallowed.1.2
            exact one_change (.cancelled store run _ hfind hallowed.1.1.2 hfirst)
        · cases hscope
  · cases hscope

/-- What the statements of a completion do. -/
theorem completion_statements {store after : AnalysisStore} {input : RunCompletion}
    {revision : Nat} (hrun : runStatements
      [insertReceipts input, endRun collation input, showSuccess input] (some revision) store =
        .ok after) : after = (store.ended collation input).shown input revision := by
  simp only [run_statements_cons, run_statements_nil] at hrun
  obtain ⟨received, hreceive, finished, hend, shown, hshow, rfl⟩ := hrun
  have hreceived : received = { store with
      receipts :=
        if input.completion.state = .succeeded then
          store.receipts ++ input.completion.queryReceipts.map fun receipt =>
            ⟨input.runId, receipt⟩
        else store.receipts } := by
    simp only [insertReceipts] at hreceive
    split at hreceive
    · next hsucceeded =>
        split at hreceive
        · cases hreceive
        · cases hreceive
          rw [if_pos hsucceeded]
    · next hother =>
        cases hreceive
        rw [if_neg hother]
  simp only [endRun] at hend
  split at hend
  · cases hend
    cases hshow
    rw [hreceived]
    rfl
  · cases hend

/-- A completion that its scope admits ends the run. -/
theorem complete_changes (store : AnalysisStore) (input : RunCompletion) :
    Changes (AnalysisChange collation) store
      (committed store (store.commitAnalysisRunCompletion collation input)) := by
  refine batch_changes (by simp [Gated, insertReceipts, endRun, showSuccess]) ?_
  intro revision after hscope hrun
  rw [completion_statements hrun]
  exact one_change (.ended store input revision hscope)

/-! ## Runners -/

/-- A registration adds a new runner or notes that a runner was seen. -/
theorem register_changes (store : AnalysisStore) (input : RunnerRegistration) :
    Changes (AnalysisChange collation) store
      (committed store (store.registerAnalysisRunner input)) := by
  refine batch_changes (by simp [Gated, insertRunner, seeRunner]) ?_
  intro payload after _ hrun
  simp only [run_statements_cons, run_statements_nil] at hrun
  obtain ⟨inserted, hinsert, seen, hsee, rfl⟩ := hrun
  obtain ⟨id, status⟩ := payload
  cases status with
  | created =>
      simp only [insertRunner] at hinsert
      split at hinsert
      · cases hinsert
      · next hfresh =>
          cases hinsert
          cases hsee
          refine one_change (.registered store _ ?_)
          intro old hold heq
          exact hfresh (List.any_eq_true.mpr ⟨old, hold, by simpa using heq⟩)
  | verified =>
      cases hinsert
      cases hsee
      exact one_change (.seen store id input.displayName)
  | missing =>
      cases hinsert
      cases hsee
      exact .refl
  | invalid =>
      cases hinsert
      cases hsee
      exact .refl

/-- A revoked runner takes its live runs with it. -/
theorem revoke_changes (store : AnalysisStore) (input : RunnerRevocation) :
    Changes (AnalysisChange collation) store
      (committed store (store.revokeAnalysisRunner input)) := by
  refine batch_changes (by simp [Gated, revokeRunners, staleRuns, discardReceipts]) ?_
  intro snapshot after hscope hrun
  simp only [run_statements_cons, run_statements_nil, revokeRunners, staleRuns, discardReceipts,
    Except.ok.injEq] at hrun
  obtain ⟨_, rfl, _, rfl, _, rfl, rfl⟩ := hrun
  simp only [revokeScope] at hscope
  split at hscope
  · cases hscope
    exact one_change (.cleaned store _ _)
  · cases hscope

/-- A deleted member is detached from its runners and runs. -/
theorem delete_member_changes {store after : AnalysisStore} {input : MemberRemoval}
    {snapshot : CleanupSnapshot} (h : deleteMember input (some snapshot) store = .ok after) :
    Changes (AnalysisChange collation) store after := by
  simp only [deleteMember] at h
  split at h
  · cases h
  · cases h
    have hdetached := @AnalysisChange.detached collation store fun member =>
      if member = some input.memberId then none else member
    exact (one_change hdetached).trans (one_change (.other _ _ _ _))

/-- A removed member's runners take their live runs with them, and the member is detached. -/
theorem remove_changes (store : AnalysisStore) (input : MemberRemoval) :
    Changes (AnalysisChange collation) store
      (committed store (store.removeMemberAfterAnalysisRunnerCleanup input)) := by
  refine batch_changes (by simp [Gated, revokeRunners, staleRuns, discardReceipts, deleteMember]) ?_
  intro snapshot after hscope hrun
  simp only [removeScope] at hscope
  split at hscope
  · cases hscope
    obtain ⟨_, hrevoke, hrun⟩ := run_statements_cons.mp hrun
    cases hrevoke
    obtain ⟨_, hstale, hrun⟩ := run_statements_cons.mp hrun
    cases hstale
    obtain ⟨_, hdiscard, hrun⟩ := run_statements_cons.mp hrun
    cases hdiscard
    obtain ⟨_, hdelete, hrun⟩ := run_statements_cons.mp hrun
    cases hrun
    have hcleaned := @AnalysisChange.cleaned collation store
      ((store.runners.filter fun runner => runner.memberId = some input.memberId).map (·.id))
      "The Desktop runner owner was removed before this run completed."
    exact (one_change hcleaned).trans (delete_member_changes hdelete)
  · cases hscope

/-! ## Articles -/

/-- A revision is recorded beside what was there. -/
theorem revision_changes {store after : AnalysisStore} {articleId operation : String}
    {revision : Nat} (h : insertRevision articleId revision operation (some ()) store = .ok after) :
    Changes (AnalysisChange collation) store after := by
  simp only [insertRevision] at h
  split at h
  · cases h
  · cases h
    exact one_change (.other store store.facts _ store.now)

/-- A new article has no success yet. -/
theorem create_article_changes (store : AnalysisStore) (input : ArticleInput) :
    Changes (AnalysisChange collation) store
      (committed store (store.commitAnalysisArticleCreate input)) := by
  refine batch_changes (by simp [Gated, insertArticle, insertRevision]) ?_
  intro payload after _ hrun
  simp only [run_statements_cons, run_statements_nil] at hrun
  obtain ⟨inserted, hinsert, recorded, hrecord, rfl⟩ := hrun
  simp only [insertArticle] at hinsert
  split at hinsert
  · cases hinsert
  · cases hinsert
    exact (one_change (.added store _ rfl)).trans (revision_changes hrecord)

/-- An edit forgets the latest success. -/
theorem mutate_article_changes (store : AnalysisStore) (input : ArticleMutation) :
    Changes (AnalysisChange collation) store
      (committed store (store.commitAnalysisArticleMutation input)) := by
  refine batch_changes (by simp [Gated, AnalysisStore.mutateArticle, insertRevision]) ?_
  intro payload after _ hrun
  simp only [run_statements_cons, run_statements_nil, AnalysisStore.mutateArticle,
    Except.ok.injEq] at hrun
  obtain ⟨_, rfl, recorded, hrecord, rfl⟩ := hrun
  exact (one_change (.edited store input.id _ fun _ => rfl)).trans (revision_changes hrecord)

/-- A deletion forgets the latest success. -/
theorem delete_article_changes (store : AnalysisStore) (input : ArticleDeletion) :
    Changes (AnalysisChange collation) store
      (committed store (store.commitAnalysisArticleDelete input)) := by
  refine batch_changes (by simp [Gated, AnalysisStore.deleteArticle, insertRevision]) ?_
  intro payload after _ hrun
  simp only [run_statements_cons, run_statements_nil, AnalysisStore.deleteArticle,
    Except.ok.injEq] at hrun
  obtain ⟨_, rfl, recorded, hrecord, rfl⟩ := hrun
  exact (one_change (.edited store input.id _ fun _ => rfl)).trans (revision_changes hrecord)

/-- Every event is a sequence of small changes. -/
theorem step_changes (store : AnalysisStore) (event : AnalysisEvent) :
    Changes (AnalysisChange collation) store (analysisStep collation store event) := by
  cases event with
  | create input => exact create_changes store input
  | cancel input => exact cancel_changes store input
  | complete input => exact complete_changes store input
  | register input => exact register_changes store input
  | revokeRunner input => exact revoke_changes store input
  | removeMember input => exact remove_changes store input
  | createArticle input => exact create_article_changes store input
  | mutateArticle input => exact mutate_article_changes store input
  | deleteArticle input => exact delete_article_changes store input
  | change facts => exact one_change (.other store facts store.revisions store.now)
  | tick milliseconds =>
      exact one_change (.other store store.facts store.revisions (store.now + milliseconds))

end Dopedb.Cloud
