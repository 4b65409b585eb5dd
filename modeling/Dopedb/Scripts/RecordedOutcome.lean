import Dopedb.Scripts.WriteExecution

/-!
# The recorded outcome of a script

What `run_write` records about the claimed operation is true of the target, for every script and
every target. The history and the audit log agree with it except in two places: a script with DDL
that MySQL reports as rolled back is audited as `script:execute`, and a committed script whose
receipt cannot be stored is in the history as `ok` (`recorded_outcome_iff`).
-/

namespace Dopedb.Scripts

open Dopedb.Library Dopedb.Queries Command
open Dopedb.Operations (OperationState ensureTransition)

variable {D : Type}

/-- The world before a run: the operation is claimed, and nothing is recorded. -/
def World.start (d : D) (session : Option (ManualSession (ManualLink D))) : World D :=
  { target := ⟨d, none⟩, session := session }

/-- The link of the open manual transaction. -/
def World.link (w : World D) : Option (ManualLink D) := w.session.bind (·.link)

variable {run : PreparedScriptRun}

/-- The script is staged in the manual transaction, with nothing else changed in it. -/
def Staged (e : Surroundings D run.engine) (start w : World D) : Prop :=
  ∃ link link', start.link = some link ∧ w.link = some link' ∧
    link'.target.savepoints.current.data =
      run.script.effect e.manual 0 run.statements link.target.savepoints.current.data ∧
    link'.target.savepoints.saved = link.target.savepoints.saved

/-- The state recorded for the operation is true of the target. While the operation is still
executing, nothing is recorded. -/
structure Truthful (e : Surroundings D run.engine) (start w : World D) : Prop where
  failed : w.operation = .failed ∨ w.operation = .cancelled → w.target = start.target
  committed : ∀ manual rows count, w.operation = .succeeded →
    w.receipt = some (.succeeded true manual rows count) →
    w.target.persistent = e.target.effects 0 run.statements start.target.persistent
  staged : ∀ committed rows count, w.operation = .succeeded →
    w.receipt = some (.succeeded committed true rows count) →
    Staged e start w ∧ w.target = start.target
  otherwise : w.operation = .executing ∨ w.operation = .failed ∨ w.operation = .cancelled ∨
    w.operation = .outcomeUnknown ∨ w.operation = .succeeded ∧ ∃ committed manual rows count,
      w.receipt = some (.succeeded committed manual rows count) ∧ (committed || manual) = true

/-- The history statuses that agree with a recorded state. -/
def agreeingStatuses : OperationState → Option Receipt → List String
  | .failed, _ => ["error", "blocked"]
  | .cancelled, _ => ["cancelled"]
  | .outcomeUnknown, _ => ["outcome_unknown"]
  | .succeeded, some (.succeeded true false _ _) => ["ok"]
  | .succeeded, some (.succeeded false true _ _) => ["staged"]
  | _, _ => []

/-- The audit actions that agree with a recorded state. -/
def agreeingActions : OperationState → List String
  | .failed => ["script:execute", "blocked"]
  | .cancelled => ["script:execute:cancelled"]
  | .outcomeUnknown => ["script:execute:outcome_unknown"]
  | .succeeded => ["script:execute"]
  | _ => []

/-- The history and the audit log agree with what is recorded for the operation. -/
def Agrees (w : World D) : Prop :=
  w.operation ≠ .executing →
    (∀ entry ∈ w.history, entry.status ∈ agreeingStatuses w.operation w.receipt) ∧
      ∀ entry ∈ w.audit, entry.action ≠ "script:execute:attempt" →
        entry.action ∈ agreeingActions w.operation

/-- The checks before the target let the run through. -/
def PreparedScriptRun.reaches (run : PreparedScriptRun) (e : Surroundings D run.engine) : Bool :=
  (if run.hasDdl then run.canManage && run.allowSchemaChanges else run.canWrite) &&
    run.allowWrites && e.auditsAttempt && e.connect.isNone && e.sqlBackend.isNone

/-- The run records an unknown outcome beside an entry that says something else. Either MySQL may
have committed the DDL of a script that is reported as rolled back, and the audit log has the entry;
or the script is committed, the receipt is refused, and one of the logs has the entry. -/
def PreparedScriptRun.misrecords (run : PreparedScriptRun) (e : Surroundings D run.engine)
    (session : Option (ManualSession (ManualLink D))) : Bool :=
  run.reaches e && session.isNone && (e.finishes .outcomeUnknown).isNone && e.pool.any fun pool =>
    (run.engine = .mysql && run.containsUnsupportedKind && e.recordsAudit &&
      e.target.rollsBack run.expected pool run.statements run.namespace_ run.grant
        run.operationId) ||
    ((e.finishes .succeeded).isSome && (e.recordsAudit || e.recordsHistory) &&
      e.target.commits run.expected pool run.statements run.namespace_ run.grant run.operationId)

variable {e : Surroundings D run.engine}

/-- What holds at the end of every run. -/
def Concluded (e : Surroundings D run.engine) (d : D)
    (session : Option (ManualSession (ManualLink D))) (w : World D) : Prop :=
  Truthful e (.start d session) w ∧ (Agrees w ↔ run.misrecords e session = false)

/-! ## Records -/

/-- The world while the run has recorded no outcome. -/
structure Fresh (w : World D) : Prop where
  operation : w.operation = .executing
  receipt : w.receipt = none
  history : w.history = []
  audit : ∀ entry ∈ w.audit, entry.action = "script:execute:attempt"

/-- The world after at most one entry in each log. -/
def logged (e : Surroundings D run.engine) (kind : QueryKind) (action status : String)
    (rows : Option Nat) (w : World D) : World D :=
  { w with
    audit := if e.recordsAudit then w.audit ++ [⟨kind, action⟩] else w.audit
    history := if e.recordsHistory then w.history ++ [⟨kind, status, rows⟩] else w.history }

/-- Finishing an operation that executes. -/
theorem finish_triple {α : Type} {w : World D} (hw : w.operation = .executing)
    {state : OperationState} (hallowed : ensureTransition .executing state = .ok ())
    {receipt : Receipt} {k : Option ScriptFailure → Run D α} {Q : α → World D → Prop}
    {E : ScriptFailure → World D → Prop}
    (hdone : e.finishes state = none →
      Triple (fun w' => w' = { w with operation := state, receipt := some receipt }) (k none) Q E)
    (hrefused : ∀ failure, e.finishes state = some failure →
      Triple (fun w' => w' = w) (k (some failure)) Q E) :
    Triple (fun w' => w' = w) (do let failure ← finish e state receipt; k failure) Q E := by
  cases hfinishes : e.finishes state with
  | none =>
      refine Triple.bind (Q := fun failure w' => failure = none ∧
        w' = { w with operation := state, receipt := some receipt }) ?_
        fun failure => .assume fun hfailure => hfailure ▸ hdone hfinishes
      rintro w' rfl
      unfold finish
      rw [hw, hallowed, hfinishes]
      exact ⟨rfl, rfl⟩
  | some failure =>
      refine Triple.bind (Q := fun failure' w' => failure' = some failure ∧ w' = w) ?_
        fun failure' => .assume fun hfailure => hfailure ▸ hrefused failure hfinishes
      rintro w' rfl
      unfold finish
      rw [hfinishes]
      exact ⟨rfl, rfl⟩

/-- Recording a run and finishing the operation. -/
theorem record_finish_triple {α : Type} {w : World D} (hw : Fresh w) {state : OperationState}
    (hallowed : ensureTransition .executing state = .ok ()) {kind : QueryKind}
    {action status : String} {rows : Option Nat} {receipt : Receipt}
    {k : Option ScriptFailure → Run D α} {Q : α → World D → Prop}
    {E : ScriptFailure → World D → Prop}
    (hdone : e.finishes state = none →
      Triple (fun w' => w' = { logged e kind action status rows w with
        operation := state, receipt := some receipt }) (k none) Q E)
    (hrefused : ∀ failure, e.finishes state = some failure →
      Triple (fun w' => w' = logged e kind action status rows w) (k (some failure)) Q E) :
    Triple (fun w' => w' = w)
      (do recordScriptRun e kind action status rows; let failure ← finish e state receipt; k failure)
      Q E := by
  refine Triple.bind (Q := fun _ w' => w' = logged e kind action status rows w)
    (.modify fun w' hw' => hw' ▸ rfl) fun _ => ?_
  exact finish_triple (w := logged e kind action status rows w) hw.operation hallowed hdone hrefused

/-- Nothing is recorded while the operation executes. -/
theorem Concluded.of_executing {d : D} {session : Option (ManualSession (ManualLink D))}
    {w : World D} (hw : w.operation = .executing) (hmis : run.misrecords e session = false) :
    Concluded e d session w := by
  refine ⟨⟨?_, ?_, ?_, .inl hw⟩, fun _ => hmis, fun _ h => absurd hw h⟩
  · rintro (h | h) <;> rw [hw] at h <;> cases h
  · intro _ _ _ h
    rw [hw] at h
    cases h
  · intro _ _ _ h
    rw [hw] at h
    cases h

/-- The logs of a fresh world after an entry agree with the recorded state when the entry does. -/
theorem agrees_logged_iff {w : World D} (hw : Fresh w) {kind : QueryKind} {action status : String}
    {rows : Option Nat} {state : OperationState} {receipt : Receipt}
    (haction : action ≠ "script:execute:attempt") (hstate : state ≠ .executing) :
    Agrees { logged e kind action status rows w with operation := state, receipt := some receipt } ↔
      (e.recordsHistory = true → status ∈ agreeingStatuses state (some receipt)) ∧
        (e.recordsAudit = true → action ∈ agreeingActions state) := by
  unfold Agrees logged
  simp only [ne_eq, hstate, not_false_eq_true, true_implies, hw.history]
  refine and_congr ?_ ?_
  · cases e.recordsHistory <;> simp
  · cases e.recordsAudit with
    | false =>
        simp only [Bool.false_eq_true, if_false, false_implies, iff_true]
        exact fun entry hentry hne => absurd (hw.audit entry hentry) hne
    | true =>
        simp only [if_true, true_implies, List.mem_append, List.mem_singleton]
        refine ⟨fun h => h _ (.inr rfl) haction, fun h entry hentry hne => ?_⟩
        rcases hentry with hentry | rfl
        · exact absurd (hw.audit entry hentry) hne
        · exact h

/-- The entries of a run that did not succeed, with the state they agree with. -/
inductive Unsuccessful : String → String → OperationState → Prop where
  | failed : Unsuccessful "script:execute" "error" .failed
  | blocked : Unsuccessful "blocked" "blocked" .failed
  | cancelled : Unsuccessful "script:execute:cancelled" "cancelled" .cancelled
  | unknown : Unsuccessful "script:execute:outcome_unknown" "outcome_unknown" .outcomeUnknown

/-- A state that is not a success is true where it says that nothing persists and nothing does. -/
theorem truthful_of_state {d : D} {session : Option (ManualSession (ManualLink D))} {w : World D}
    (hstate : w.operation = .failed ∨ w.operation = .cancelled ∨ w.operation = .outcomeUnknown)
    (htarget : w.operation ≠ .outcomeUnknown → w.target = ⟨d, none⟩) :
    Truthful e (.start d session) w := by
  have hne : w.operation ≠ .succeeded := by
    rcases hstate with h | h | h <;> rw [h] <;> exact nofun
  refine ⟨fun h => htarget ?_, fun _ _ _ h => absurd h hne, fun _ _ _ h => absurd h hne, ?_⟩
  · rcases h with h | h <;> rw [h] <;> exact nofun
  · rcases hstate with h | h | h
    · exact .inr (.inl h)
    · exact .inr (.inr (.inl h))
    · exact .inr (.inr (.inr (.inl h)))

/-- A run that records a failure, a cancellation or an unknown outcome, with entries that agree. -/
theorem unsuccessful_triple {α : Type} {d : D} {session : Option (ManualSession (ManualLink D))}
    {w : World D} (hw : Fresh w) {state : OperationState} {kind : QueryKind}
    {action status reason : String} {rows : Option Nat} {failure : ScriptFailure}
    (hstate : Unsuccessful action status state)
    (htarget : state ≠ .outcomeUnknown → w.target = ⟨d, none⟩)
    (hmis : run.misrecords e session = false) :
    Triple (fun w' => w' = w)
      (do
        recordScriptRun e kind action status rows
        let _ ← finish e state (.reason reason)
        (Command.throw failure : Run D α))
      (fun _ _ => False) (fun _ => Concluded e d session) := by
  have hallowed : ensureTransition .executing state = .ok () := by cases hstate <;> rfl
  refine record_finish_triple hw hallowed (fun _ => .throw ?_) fun _ _ => .throw ?_
  · rintro w' rfl
    refine ⟨truthful_of_state ?_ htarget, ?_⟩
    · cases hstate with
      | failed => exact .inl rfl
      | blocked => exact .inl rfl
      | cancelled => exact .inr (.inl rfl)
      | unknown => exact .inr (.inr rfl)
    · rw [agrees_logged_iff hw (by cases hstate <;> decide) (by cases hstate <;> decide)]
      refine iff_of_true ?_ hmis
      cases hstate <;> exact ⟨fun _ => by simp [agreeingStatuses], fun _ => by decide⟩
  · rintro w' rfl
    exact .of_executing hw.operation hmis

/-! ## The stages of a run -/

/-- A run that the checks stop concludes, and one that they let through is fresh. -/
theorem reach_target_triple (d : D) (session : Option (ManualSession (ManualLink D))) :
    Triple (fun w => w = World.start d session) (reachTarget e run)
      (fun pool w => (run.reaches e = true ∧ e.pool = some pool) ∧
        w = { World.start d session with audit := [⟨run.scriptKind, "script:execute:attempt"⟩] })
      (fun _ => Concluded e d session) := by
  have hstart : Fresh (World.start d session) := ⟨rfl, rfl, rfl, List.forall_mem_nil _⟩
  have hmis (h : run.reaches e = false) : run.misrecords e session = false := by
    unfold PreparedScriptRun.misrecords
    rw [h]
    rfl
  unfold reachTarget
  -- the checks stand in their order: role, writes, schema, attempt record, and then the target
  refine .ite (fun hrole => .throw ?_) fun hrole => .ite (fun hwrites => ?_) fun hwrites =>
    .ite (fun hschema => ?_) fun hschema => .ite (fun haudit => ?_) fun haudit => ?_
  · rintro w rfl
    refine .of_executing rfl (hmis ?_)
    unfold PreparedScriptRun.reaches
    cases hddl : run.hasDdl <;> simp_all
  · refine Triple.bind (.modify (Q := fun _ => Concluded e d session) ?_) fun _ => .throw fun _ h => h
    rintro w rfl
    exact .of_executing rfl (hmis (by simp_all [PreparedScriptRun.reaches]))
  · exact (unsuccessful_triple hstart .blocked (fun _ => rfl)
      (hmis (by simp_all [PreparedScriptRun.reaches]))).weaken (fun _ h => h)
      (fun _ _ h => h.elim) fun _ _ h => h
  · have hstop := hmis (by simp_all [PreparedScriptRun.reaches])
    refine finish_triple rfl rfl (fun _ => .throw ?_) fun _ _ => .throw ?_
    · rintro w rfl
      refine ⟨truthful_of_state (.inl rfl) fun _ => rfl, iff_of_true (fun _ => ?_) hstop⟩
      exact ⟨List.forall_mem_nil _, List.forall_mem_nil _⟩
    · rintro w rfl
      exact .of_executing rfl hstop
  · refine Triple.bind (Q := fun _ w => w = { World.start d session with
      audit := [⟨run.scriptKind, "script:execute:attempt"⟩] })
      (.modify (by rintro w rfl; rfl)) fun _ => ?_
    have hattempted : Fresh { World.start d session with
        audit := [⟨run.scriptKind, "script:execute:attempt"⟩] } := ⟨rfl, rfl, rfl, by simp⟩
    cases hconnect : e.connect with
    | some failure =>
        exact (unsuccessful_triple hattempted .failed (fun _ => rfl)
          (hmis (by simp [PreparedScriptRun.reaches, hconnect]))).weaken (fun _ h => h)
          (fun _ _ h => h.elim) fun _ _ h => h
    | none =>
      cases hbackend : e.sqlBackend with
      | some failure =>
          exact (unsuccessful_triple hattempted .failed (fun _ => rfl)
            (hmis (by simp [PreparedScriptRun.reaches, hbackend]))).weaken (fun _ h => h)
            (fun _ _ h => h.elim) fun _ _ h => h
      | none =>
        cases hpool : e.pool with
        | none =>
            refine .throw ?_
            rintro w rfl
            exact .of_executing rfl (by simp [PreparedScriptRun.misrecords, hpool])
        | some pool =>
            refine .pure fun w hw => ⟨⟨?_, rfl⟩, hw⟩
            unfold PreparedScriptRun.reaches
            cases hddl : run.hasDdl <;> simp_all

/-- An interrupted script has an unknown outcome. -/
theorem interrupted_failure_unknown {failure : ScriptFailure} (h : failure.interrupted = true) :
    (interruptedFailure failure).isOutcomeUnknown = true := by
  cases failure with
  | safety reason => rfl
  | _ => cases h

/-- A script that reported an error concludes. -/
theorem conclude_failure_triple {α : Type} {d : D}
    {session : Option (ManualSession (ManualLink D))} {w : World D} (hw : Fresh w)
    {manual : Bool} {failure : ScriptFailure}
    (htarget : failure.isOutcomeUnknown = false → (failure.interrupted && !manual) = false →
      w.target = ⟨d, none⟩)
    (hmis : run.misrecords e session = false) :
    Triple (fun w' => w' = w) (concludeFailure e run manual failure : Run D α)
      (fun _ _ => False) (fun _ => Concluded e d session) := by
  unfold concludeFailure
  refine .ite (fun _ => unsuccessful_triple hw .unknown (fun h => absurd rfl h) hmis)
    fun hknown => ?_
  have hdone : w.target = ⟨d, none⟩ := by
    cases hinterrupted : failure.interrupted && !manual with
    | true =>
        rw [hinterrupted, if_pos rfl] at hknown
        exact absurd (interrupted_failure_unknown (Bool.and_eq_true_iff.mp hinterrupted).1) hknown
    | false =>
        rw [hinterrupted, if_neg Bool.false_ne_true, Bool.not_eq_true] at hknown
        exact htarget hknown hinterrupted
  exact .ite (fun _ => unsuccessful_triple hw .cancelled (fun _ => hdone) hmis)
    fun _ => unsuccessful_triple hw .failed (fun _ => hdone) hmis

/-- MySQL's report of a rolled back script with DDL is recorded as unknown; only the audit log
disagrees. -/
theorem conclude_implicit_triple {d : D}
    {session : Option (ManualSession (ManualLink D))} {w : World D} (hw : Fresh w)
    {outcomes : List ScriptStatement}
    (hkinds : (run.engine = .mysql && run.containsUnsupportedKind) = true)
    (hmis : run.misrecords e session = ((e.finishes .outcomeUnknown).isNone && e.recordsAudit)) :
    Triple (fun w' => w' = w) (concludeOutcomes e run false outcomes false)
      (fun _ => Concluded e d session) (fun _ => Concluded e d session) := by
  unfold concludeOutcomes
  simp only [Bool.not_false, Bool.true_and, hkinds, if_true]
  refine record_finish_triple hw rfl (fun hfinishes => .throw ?_) fun failure hfinishes => .throw ?_
  · rintro w' rfl
    refine ⟨truthful_of_state (.inr (.inr rfl)) fun h => absurd rfl h, ?_⟩
    rw [agrees_logged_iff hw (by decide) (by decide), hmis, hfinishes]
    cases e.recordsAudit <;> simp [agreeingStatuses, agreeingActions]
  · rintro w' rfl
    exact .of_executing hw.operation (by rw [hmis, hfinishes]; rfl)

/-- A script that is rolled back is recorded as failed. -/
theorem conclude_rolled_back_triple {d : D}
    {session : Option (ManualSession (ManualLink D))} {w : World D} (hw : Fresh w)
    {outcomes : List ScriptStatement}
    (hkinds : (run.engine = .mysql && run.containsUnsupportedKind) = false)
    (htarget : w.target = ⟨d, none⟩) (hmis : run.misrecords e session = false) :
    Triple (fun w' => w' = w) (concludeOutcomes e run false outcomes false)
      (fun _ => Concluded e d session) (fun _ => Concluded e d session) := by
  unfold concludeOutcomes
  simp only [Bool.not_false, Bool.true_and, hkinds, Bool.false_eq_true, if_false, Bool.or_self]
  refine record_finish_triple hw rfl (fun _ => .pure ?_) fun _ _ => .throw ?_
  · rintro w' rfl
    refine ⟨truthful_of_state (.inl rfl) fun _ => htarget, ?_⟩
    rw [agrees_logged_iff hw (by decide) (by decide)]
    exact iff_of_true (by simp [agreeingStatuses, agreeingActions]) hmis
  · rintro w' rfl
    exact .of_executing hw.operation hmis

/-- A success that is true of the target. -/
theorem truthful_of_succeeded {d : D} {session : Option (ManualSession (ManualLink D))}
    {w : World D} {committed manual : Bool} {rows count : Nat} (hoperation : w.operation = .succeeded)
    (hreceipt : w.receipt = some (.succeeded committed manual rows count))
    (hsome : (committed || manual) = true)
    (hcommitted : committed = true →
      w.target.persistent = e.target.effects 0 run.statements d)
    (hstaged : manual = true → Staged e (.start d session) w ∧ w.target = ⟨d, none⟩) :
    Truthful e (.start d session) w := by
  refine ⟨?_, ?_, ?_, .inr (.inr (.inr (.inr ⟨hoperation, _, _, _, _, hreceipt, hsome⟩)))⟩
  · rintro (h | h) <;> rw [hoperation] at h <;> cases h
  · intro manual' rows' count' _ h
    rw [hreceipt] at h
    cases h
    exact hcommitted rfl
  · intro committed' rows' count' _ h
    rw [hreceipt] at h
    cases h
    exact hstaged rfl

/-- A script that is committed is recorded as such, unless its receipt is refused. -/
theorem conclude_committed_triple {d : D}
    {session : Option (ManualSession (ManualLink D))} {w : World D} (hw : Fresh w)
    {outcomes : List ScriptStatement}
    (htarget : w.target.persistent = e.target.effects 0 run.statements d)
    (hmis : run.misrecords e session = ((e.finishes .outcomeUnknown).isNone &&
      ((e.finishes .succeeded).isSome && (e.recordsAudit || e.recordsHistory)))) :
    Triple (fun w' => w' = w) (concludeOutcomes e run false outcomes true)
      (fun _ => Concluded e d session) (fun _ => Concluded e d session) := by
  unfold concludeOutcomes
  simp only [Bool.not_false, Bool.not_true, Bool.and_false, Bool.false_and, Bool.false_eq_true,
    if_false, if_true, Bool.true_or]
  refine record_finish_triple hw rfl (fun hfinishes => .pure ?_) fun failure hfinishes => ?_
  · rintro w' rfl
    refine ⟨truthful_of_succeeded rfl rfl rfl (fun _ => htarget) nofun, ?_⟩
    rw [agrees_logged_iff hw (by decide) (by decide), hmis, hfinishes]
    simp [agreeingStatuses, agreeingActions]
  · refine finish_triple (w := logged e _ _ _ _ w) hw.operation rfl (fun hunknown => .throw ?_)
      fun other hunknown => .throw ?_
    · rintro w' rfl
      refine ⟨truthful_of_state (.inr (.inr rfl)) fun h => absurd rfl h, ?_⟩
      rw [agrees_logged_iff hw (by decide) (by decide), hmis, hfinishes, hunknown]
      cases e.recordsAudit <;> cases e.recordsHistory <;> simp [agreeingStatuses, agreeingActions]
    · rintro w' rfl
      exact .of_executing hw.operation (by rw [hmis, hunknown]; rfl)

/-- A script of the manual transaction that completed is recorded as staged. -/
theorem conclude_staged_triple {d : D}
    {session : Option (ManualSession (ManualLink D))} {w : World D} (hw : Fresh w)
    {outcomes : List ScriptStatement} (hstaged : Staged e (.start d session) w)
    (htarget : w.target = ⟨d, none⟩) (hmis : run.misrecords e session = false) :
    Triple (fun w' => w' = w) (concludeOutcomes e run true outcomes false)
      (fun _ => Concluded e d session) (fun _ => Concluded e d session) := by
  unfold concludeOutcomes
  simp only [Bool.not_true, Bool.false_and, Bool.false_eq_true, if_false, if_true, Bool.or_true]
  refine record_finish_triple hw rfl (fun _ => .pure ?_) fun _ _ => .throw ?_
  · rintro w' rfl
    refine ⟨truthful_of_succeeded rfl rfl rfl nofun fun _ => ⟨hstaged, htarget⟩, ?_⟩
    rw [agrees_logged_iff hw (by decide) (by decide)]
    exact iff_of_true (by simp [agreeingStatuses, agreeingActions]) hmis
  · rintro w' rfl
    exact .of_executing hw.operation hmis

/-! ## Runs -/

/-- The world of a run that has reached the target. -/
def attempted (run : PreparedScriptRun) (target : Connection D)
    (session : Option (ManualSession (ManualLink D))) : World D :=
  { target := target, session := session,
    audit := [⟨run.scriptKind, "script:execute:attempt"⟩] }

/-- It has recorded no outcome. -/
theorem attempted_fresh (target : Connection D)
    (session : Option (ManualSession (ManualLink D))) : Fresh (attempted run target session) :=
  ⟨rfl, rfl, rfl, by simp [attempted]⟩

/-- With a manual transaction open, nothing is misrecorded. -/
theorem misrecords_some (session : ManualSession (ManualLink D)) :
    run.misrecords e (some session) = false := by
  simp [PreparedScriptRun.misrecords]

/-- A run with a transaction of its own misrecords as the end of that transaction decides. -/
theorem misrecords_none {pool : DbPool} (hreaches : run.reaches e = true)
    (hpool : e.pool = some pool) :
    run.misrecords e none = ((e.finishes .outcomeUnknown).isNone &&
      ((run.engine = .mysql && run.containsUnsupportedKind && e.recordsAudit &&
        e.target.rollsBack run.expected pool run.statements run.namespace_ run.grant
          run.operationId) ||
      ((e.finishes .succeeded).isSome && (e.recordsAudit || e.recordsHistory) &&
        e.target.commits run.expected pool run.statements run.namespace_ run.grant
          run.operationId))) := by
  simp [PreparedScriptRun.misrecords, hreaches, hpool]

/-- Where no statement of the script commits implicitly, none does on the pool. -/
theorem commits_implicitly_false {pool : DbPool} (hpool : e.pool = some pool)
    (hkinds : (run.engine = .mysql && run.containsUnsupportedKind) = false) (index : Nat) :
    run.commitsImplicitly pool index = false := by
  unfold PreparedScriptRun.commitsImplicitly
  by_cases hmysql : pool = .mysql
  · have hengine : run.engine = .mysql := by
      rw [← e.poolEngine pool hpool, hmysql]
      rfl
    rw [hengine, decide_eq_true rfl, Bool.true_and] at hkinds
    unfold PreparedScriptRun.containsUnsupportedKind at hkinds
    rw [List.any_eq_false] at hkinds
    cases hkind : run.kinds[index]? with
    | none => simp
    | some kind =>
        have hother := hkinds kind (List.mem_of_getElem? hkind)
        exact Bool.and_eq_false_imp.mpr fun _ => by simpa using hother
  · simp [hmysql]

/-- How a script in a transaction of its own ends: as the transaction does, or cut off. -/
def GuardedEnd (e : Surroundings D run.engine) (pool : DbPool) (d : D)
    (result : Except ScriptFailure (List ScriptStatement × Bool)) (c : Connection D) : Prop :=
  TransactionEnd e.target (run.commitsImplicitly pool) run.expected pool run.namespace_
      run.statements run.grant run.operationId d result c ∨
    ((e.target.commits run.expected pool run.statements run.namespace_ run.grant
          run.operationId = false ∧
        e.target.rollsBack run.expected pool run.statements run.namespace_ run.grant
          run.operationId = false) ∧
      ∃ why : Abandoned, result = .error (.safety why.intoError))

/-- The guard turns a cut into an error. -/
theorem run_guarded_end (pool : DbPool) (d : D) :
    GuardedEnd e pool d (runGuarded e run pool ⟨d, none⟩).2 (runGuarded e run pool ⟨d, none⟩).1 := by
  have hend := @execute_script_transaction_triple D e.target (run.commitsImplicitly pool)
    run.expected pool run.namespace_ run.statements run.grant run.operationId d ⟨d, none⟩ rfl
  unfold runGuarded
  split at hend
  · next result c heq =>
      rw [heq]
      exact .inl hend
  · next why c heq =>
      rw [heq]
      exact .inr ⟨hend, why, rfl⟩

/-- The error of a cut script is recognised as an interruption. -/
theorem into_error_interrupted (why : Abandoned) :
    (ScriptFailure.safety why.intoError).interrupted = true := by
  cases why <;> decide

/-- A run with a transaction of its own concludes. -/
theorem autocommit_triple {pool : DbPool} (d : D) (hreaches : run.reaches e = true)
    (hpool : e.pool = some pool) :
    Triple (fun w => w = attempted run ⟨d, none⟩ none)
      (do
        let (manual, result) ← executeScript e run pool
        match result with
        | .error failure => concludeFailure e run manual failure
        | .ok (outcomes, committed) => concludeOutcomes e run manual outcomes committed)
      (fun _ => Concluded e d none) (fun _ => Concluded e d none) := by
  have hmis := misrecords_none hreaches hpool
  have hquiet (h : e.target.commits run.expected pool run.statements run.namespace_ run.grant
      run.operationId = false ∧ e.target.rollsBack run.expected pool run.statements
        run.namespace_ run.grant run.operationId = false) : run.misrecords e none = false := by
    rw [hmis, h.1, h.2]
    simp
  refine Triple.bind (Q := fun r w => r.1 = false ∧ ∃ c, GuardedEnd e pool d r.2 c ∧
    w = attempted run c none) ?_ ?_
  · rintro w rfl
    exact ⟨rfl, _, run_guarded_end pool d, rfl⟩
  · rintro ⟨manual, result⟩
    refine .assume fun hmanual => .exists fun c => .assume fun hend => ?_
    obtain rfl : manual = false := hmanual
    have hfresh : Fresh (attempted run c none) := attempted_fresh c none
    -- the script came to one of its ends, or it was interrupted
    rcases hend with hend | ⟨hneither, why, rfl⟩
    · obtain failure | ⟨outcomes, _ | _⟩ := result
      · obtain ⟨hneither, hplain, hknown⟩ := hend
        refine (conclude_failure_triple hfresh (fun hknown' _ => ?_) (hquiet hneither)).weaken
          (fun _ h => h) (fun _ _ h => h.elim) fun _ _ h => h
        exact hknown.resolve_left (by rw [hknown']; exact Bool.false_ne_true)
      · obtain ⟨hrollsBack, hnothing⟩ := hend
        have hcommits := commits_of_rolls_back hrollsBack
        cases hkinds : (run.engine = .mysql && run.containsUnsupportedKind : Bool) with
        | true =>
            refine conclude_implicit_triple hfresh hkinds ?_
            rw [hmis, hkinds, hrollsBack, hcommits]
            simp
        | false =>
            refine conclude_rolled_back_triple hfresh hkinds
              (hnothing (commits_implicitly_false hpool hkinds)) ?_
            rw [hmis, hkinds, hcommits]
            simp
      · obtain ⟨hcommits, rfl⟩ := hend
        refine conclude_committed_triple hfresh rfl ?_
        have hrollsBack : e.target.rollsBack run.expected pool run.statements run.namespace_
            run.grant run.operationId = false := by
          rw [← Bool.not_eq_true]
          intro h
          rw [commits_of_rolls_back h] at hcommits
          cases hcommits
        rw [hmis, hrollsBack, hcommits]
        simp
    · refine (conclude_failure_triple hfresh (fun _ hcut => ?_) (hquiet hneither)).weaken
        (fun _ h => h) (fun _ _ h => h.elim) fun _ _ h => h
      rw [into_error_interrupted why] at hcut
      cases hcut

/-- A script that completed in the manual transaction is staged there. -/
theorem run_script_staged {session session' : ManualSession (ManualLink D)}
    {outcomes : List ScriptStatement} (h : runScript e run session = (session', .ok outcomes)) :
    ∃ link link', session.link = some link ∧ session'.link = some link' ∧
      link'.target.savepoints.current.data =
        run.script.effect e.manual 0 run.statements link.target.savepoints.current.data ∧
      link'.target.savepoints.saved = link.target.savepoints.saved := by
  unfold runScript at h
  split at h
  · cases h
  · split at h
    · cases h
    · cases h
    · split at h
      · cases h
      · split at h
        · cases h
        · split at h
          · next session'' statements heq =>
              cases h
              exact script_staged heq
          · cases h

/-- A run inside the manual transaction concludes. -/
theorem manual_triple {pool : DbPool} (d : D) (session : ManualSession (ManualLink D)) :
    Triple (fun w => w = attempted run ⟨d, none⟩ (some session))
      (do
        let (manual, result) ← executeScript e run pool
        match result with
        | .error failure => concludeFailure e run manual failure
        | .ok (outcomes, committed) => concludeOutcomes e run manual outcomes committed)
      (fun _ => Concluded e d (some session)) (fun _ => Concluded e d (some session)) := by
  refine Triple.bind (Q := fun r w => r.1 = true ∧ ∃ session',
    (∀ outcomes committed, r.2 = .ok (outcomes, committed) → committed = false ∧
      Staged e (.start d (some session)) (attempted run ⟨d, none⟩ session')) ∧
    w = attempted run ⟨d, none⟩ session') ?_ ?_
  · rintro w rfl
    rcases hrun : runScript e run session with ⟨session', result⟩
    simp only [executeScript, attempted, hrun]
    refine ⟨trivial, some session', fun outcomes committed h => ?_, rfl⟩
    cases result with
    | error failure => cases h
    | ok statements =>
        cases h
        exact ⟨rfl, run_script_staged hrun⟩
  · rintro ⟨manual, result⟩
    refine .assume fun hmanual => .exists fun session' => .assume fun hstaged => ?_
    obtain rfl : manual = true := hmanual
    have hfresh : Fresh (attempted run ⟨d, none⟩ session') := attempted_fresh ⟨d, none⟩ session'
    have hmis := misrecords_some (e := e) session
    obtain failure | ⟨outcomes, committed⟩ := result
    · exact (conclude_failure_triple hfresh (fun _ _ => rfl) hmis).weaken (fun _ h => h)
        (fun _ _ h => h.elim) fun _ _ h => h
    · obtain ⟨rfl, hscript⟩ := hstaged outcomes committed rfl
      exact conclude_staged_triple hfresh hscript rfl hmis

/-- Every run concludes. -/
theorem run_write_triple (d : D) (session : Option (ManualSession (ManualLink D))) :
    Triple (fun w => w = World.start d session) (runWrite e run) (fun _ => Concluded e d session)
      (fun _ => Concluded e d session) := by
  refine Triple.bind (reach_target_triple d session) fun pool => .assume fun ⟨hreaches, hpool⟩ => ?_
  cases session with
  | none => exact autocommit_triple d hreaches hpool
  | some session => exact manual_triple d session

/-- For every script, every target and every behaviour of the stores: what is recorded for the
operation is true of the target, and the history and the audit log agree with it, exactly when the
run does not misrecord. -/
theorem recorded_outcome_iff (run : PreparedScriptRun) (e : Surroundings D run.engine) (d : D)
    (session : Option (ManualSession (ManualLink D))) :
    Truthful e (.start d session) (runWrite e run (.start d session)).2 ∧
        Agrees (runWrite e run (.start d session)).2 ↔
      run.misrecords e session = false := by
  have hconcluded : Concluded e d session (runWrite e run (.start d session)).2 := by
    have hrun := @run_write_triple _ run e d session _ rfl
    split at hrun
    · next heq => rw [heq]; exact hrun
    · next heq => rw [heq]; exact hrun
  exact ⟨fun h => hconcluded.2.mp h.2, fun h => ⟨hconcluded.1, hconcluded.2.mpr h⟩⟩

/-- A MySQL script of a DDL statement and a write. -/
def createThenInsert : PreparedScriptRun where
  operationId := ⟨"00000000-0000-4000-8000-000000000021"⟩
  grant := ⟨"00000000-0000-4000-8000-000000000021"⟩
  engine := .mysql
  database := "main"
  namespace_ := none
  statements := ["CREATE TABLE t (a INT)", "INSERT INTO t VALUES (1)"]
  kinds := [.ddl, .write]
  expectedAffected := none
  canManage := true
  canWrite := true
  allowWrites := true
  allowSchemaChanges := true

/-- A target that runs the DDL and rejects the write. -/
def rejecting : TargetBehaviour Nat where
  acquire := .done
  begins := .done
  context := .done
  statement index := if index = 0 then .done else .failed (.database "duplicate entry")
  rollback := .done
  commit := .done
  effect _ d := d + 1
  debris _ d := d
  affected _ := 1
  commitsFirst _ := true
  commitApplied := false

/-- Surroundings in which everything else goes well. -/
def cooperative : Surroundings Nat .mysql where
  auditsAttempt := true
  connect := none
  sqlBackend := none
  pool := some .mysql
  poolEngine := by rintro p ⟨rfl⟩; rfl
  authority := .current
  connection := .mysql
  manual :=
    { accepts := fun _ _ => true, setsNamespace := true, runs := fun _ => true,
      effect := fun _ d => d, debris := fun _ d => d, affected := fun _ => 1,
      readOnlyViolation := fun _ => false }
  guarded := {}
  driverText := ""
  target := rejecting
  recordsAudit := true
  recordsHistory := true
  finishes _ := none

/-- A rolled back MySQL script with DDL is recorded as unknown and audited as executed. -/
theorem unknown_outcome_audited_as_executed :
    ¬ ∀ (run : PreparedScriptRun) (e : Surroundings Nat run.engine) (d : Nat)
      (session : Option (ManualSession (ManualLink Nat))),
      Truthful e (.start d session) (runWrite e run (.start d session)).2 ∧
        Agrees (runWrite e run (.start d session)).2 := by
  intro h
  have hagrees := (h createThenInsert cooperative 0 none).2 (by decide)
  have haction := hagrees.2 ⟨.ddl, "script:execute"⟩ (by decide) (by decide)
  exact absurd haction (by decide)

end Dopedb.Scripts
