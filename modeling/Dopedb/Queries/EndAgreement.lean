import Mathlib.Tactic.ByContra
import Dopedb.Queries.EndSteps

/-!
# Agreement on the end of a manual transaction

`EndAgreement` says of a session that at most one end is published for it and exactly one once
nobody is ending it, that at most one COMMIT or ROLLBACK is sent on its connection, and that what
is published and audited is true of what was sent and acknowledged.

`commit` and `rollback` ignore what `unmap` answers. A call that looked the session up before
another end removed it goes on to publish a second end, so `EndAgreement` is proved of the runs
that are `Orderly`: whenever a commit or a rollback reaches its `unmap`, the session is still
mapped.
-/

namespace Dopedb.Queries

open Dopedb.Library

variable {Λ : Type}

/-- Only control points without tokens are spawned. -/
theorem resume_spawned {s s' : Runtime Λ} {control control' : Control} {input : Input Λ}
    {spawned : List Control} (h : resume s control input = some (s', control', spawned)) :
    ∀ other ∈ spawned, ∀ id, other.tokens id = {} := by
  unfold resume at h
  split at h <;> grind [rolledBack, Control.tokens]

/-! ## Every run -/

/-- The session's end in a pool of calls. -/
def endOf (s : Pool (Runtime Λ) Control) (id : TransactionId) : End :=
  s.shared.endWith
    { rolling := total (fun control => (control.tokens id).rolling) s.tasks
      holding := total (fun control => (control.tokens id).holding) s.tasks
      committing := total (fun control => (control.tokens id).committing) s.tasks } id

/-- A call that is about to unmap its session in a commit or a rollback finds it mapped. -/
def Orderly (s : Pool (Runtime Λ) Control) : Move Control (Input Λ) → Prop
  | .start _ => True
  | .resume task _ =>
    match s.tasks[task]? with
    | some control => s.shared.FindsMapped control
    | none => True

instance (s : Runtime Λ) (control : Control) : Decidable (s.FindsMapped control) := by
  unfold Runtime.FindsMapped
  split <;> infer_instance

instance (s : Pool (Runtime Λ) Control) (m : Move Control (Input Λ)) : Decidable (Orderly s m) := by
  unfold Orderly
  split
  · infer_instance
  · split <;> infer_instance

/-- The tokens of a pool are those of one call and those of the others. -/
theorem end_of_task {s : Pool (Runtime Λ) Control} {task : Nat} {control : Control}
    (htask : s.tasks[task]? = some control) (id : TransactionId) :
    ∃ rolling holding committing,
      endOf s id = (s.shared.endWith (control.tokens id) id).add rolling holding committing ∧
      ∀ (s' : Runtime Λ) (control' : Control) (spawned : List Control),
        (∀ other ∈ spawned, other.tokens id = {}) →
        endOf ⟨s', s.tasks.set task control' ++ spawned⟩ id =
          (s'.endWith (control'.tokens id) id).add rolling holding committing := by
  -- The weight of the other calls, for each of the three tokens.
  have hsplit : ∀ weight : Tokens → Nat, ∃ rest,
      total (fun control => weight (control.tokens id)) s.tasks =
        weight (control.tokens id) + rest ∧
      ∀ (control' : Control) (spawned : List Control), weight {} = 0 →
        (∀ other ∈ spawned, other.tokens id = {}) →
        total (fun control => weight (control.tokens id)) (s.tasks.set task control' ++ spawned) =
          weight (control'.tokens id) + rest := by
    intro weight
    have hle := weight_le_total (fun control => weight (control.tokens id)) htask
    refine ⟨total (fun control => weight (control.tokens id)) s.tasks - weight (control.tokens id),
      by omega, fun control' spawned hzero hspawned => ?_⟩
    have hset := total_set (fun control => weight (control.tokens id)) htask control'
    have hnone : total (fun control => weight (control.tokens id)) spawned = 0 :=
      total_eq_zero.mpr fun other hother => by rw [hspawned other hother, hzero]
    rw [total_append, hnone]
    omega
  obtain ⟨rolling, hrolling, hrolling'⟩ := hsplit Tokens.rolling
  obtain ⟨holding, hholding, hholding'⟩ := hsplit Tokens.holding
  obtain ⟨committing, hcommitting, hcommitting'⟩ := hsplit Tokens.committing
  refine ⟨rolling, holding, committing, ?_, fun s' control' spawned hspawned => ?_⟩
  · rw [endOf, hrolling, hholding, hcommitting]
    rfl
  · rw [endOf]
    simp only [hrolling' control' spawned rfl hspawned, hholding' control' spawned rfl hspawned,
      hcommitting' control' spawned rfl hspawned]
    rfl

/-- A call with a token of a session's end has a begun session. -/
theorem owns_of_inv {s : Pool (Runtime Λ) Control} (hinv : ∀ id, (endOf s id).Inv) {task : Nat}
    {control : Control} (htask : s.tasks[task]? = some control) : s.shared.Owns control := by
  intro session htokens
  have hbegun := (hinv session).token
  have hrolling := weight_le_total (fun c => (c.tokens session).rolling) htask
  have hcommitting := weight_le_total (fun c => (c.tokens session).committing) htask
  by_contra hnot
  simp only [endOf, Runtime.endWith, if_neg hnot] at hbegun
  omega

/-- Every orderly move is a step of every session's end protocol. -/
theorem move_step {s : Pool (Runtime Λ) Control} {m : Move Control (Input Λ)}
    (hinv : ∀ id, (endOf s id).Inv) (horderly : Orderly s m) (id : TransactionId) :
    End.Step (endOf s id) (endOf (move s m) id) := by
  have hkeep : ∀ s' : Pool (Runtime Λ) Control, endOf s' id = endOf s id →
      End.Step (endOf s id) (endOf s' id) := by
    intro s' h
    rw [h]
    exact .keep _
  cases m with
  | start control =>
      by_cases hcall : control.isCall = true
      · have hidle : control.tokens id = {} := by cases control <;> first | rfl | cases hcall
        have hmove : move s (.start control) = { s with tasks := s.tasks ++ [control] } :=
          if_pos hcall
        rw [hmove]
        apply hkeep
        simp only [endOf, total_append, total_cons, total_nil, hidle, Nat.add_zero]
      · have hmove : move s (.start control) = s := if_neg hcall
        rw [hmove]
        exact .keep _
  | resume task input =>
      rcases move_cases resume s (.resume task input) with ⟨_, h, -⟩ | h |
        ⟨task', input', control, s', control', spawned, h, htask, hresume, hmove⟩
      · cases h
      · exact hkeep _ (congrArg (endOf · id) h)
      · cases h
        have hmapped : s.shared.FindsMapped control := by simpa [Orderly, htask] using horderly
        have howns := owns_of_inv hinv htask
        obtain ⟨rolling, holding, committing, hbefore, hafter⟩ := end_of_task htask id
        have hstep := resume_step hresume howns hmapped id
        have hadd := hstep.add rolling holding committing
        rw [← hbefore, ← hafter s' control' spawned fun other hother =>
          resume_spawned hresume other hother id] at hadd
        show End.Step _ (endOf (s.move resume (.resume task input)) id)
        rw [hmove]
        exact hadd

/-! ## Audit records go with published ends -/

/-- An end was published for the session whose reason goes with the audit action. -/
def Runtime.Reported (s : Runtime Λ) (session : TransactionId) (action : BoundaryAction) : Prop :=
  ∃ reason ∈ s.endsOf session, reason.action = action

/-- A call that is about to write an audit record has published the end it records. -/
def Runtime.ReportedBy (s : Runtime Λ) : Control → Prop
  | .record session action _ _ => s.Reported session action
  | _ => True

/-- Every audit record goes with a published end, and so does every one still to be written. -/
structure Recorded (s : Pool (Runtime Λ) Control) : Prop where
  audit : ∀ record ∈ s.shared.audit, s.shared.Reported record.transactionId record.action
  tasks : ∀ control ∈ s.tasks, s.shared.ReportedBy control

/-- The audit action of a rollback goes with the reason it publishes. -/
theorem cause_action (cause : Cause) : cause.reason.action = cause.action := by
  cases cause with
  | user => rfl
  | forced reason detail =>
      obtain ⟨reason, hforced⟩ := reason
      cases reason <;> first | rfl | cases hforced

/-- Calls that publish an end or write its audit record when they are resumed. -/
def Control.reports : Control → Bool
  | .commitFinish _ _ | .rollBack _ _ _ | .rollBackLocked _ _ _ | .rollBackFinish _ _ _
  | .record _ _ _ _ => true
  | _ => false

/-- Calls that are about to write an audit record. -/
def Control.recording : Control → Bool
  | .record _ _ _ _ => true
  | _ => false

/-- A call that is not about to write an audit record owes none. -/
theorem reported_of_not_recording {s : Runtime Λ} {control : Control}
    (h : control.recording = false) : s.ReportedBy control := by
  cases control <;> first | exact True.intro | cases h

/-- The other calls publish and record nothing. -/
theorem resume_quiet {s s' : Runtime Λ} {control control' : Control} {input : Input Λ}
    {spawned : List Control} (h : resume s control input = some (s', control', spawned))
    (hquiet : control.reports = false) :
    s'.published = s.published ∧ s'.audit = s.audit ∧ control'.recording = false ∧
      ∀ other ∈ spawned, other.recording = false := by
  cases control <;> cases hquiet <;> cases input <;> simp only [resume] at h <;>
    grind [Runtime.send, Runtime.setSession, Runtime.unmap, Control.recording]

/-- What a call leaves behind for the audit log at its next await point. -/
structure Reports (s s' : Runtime Λ) (control' : Control) (spawned : List Control) : Prop where
  kept : ∀ session action, s.Reported session action → s'.Reported session action
  audit : ∀ record ∈ s'.audit, record ∈ s.audit ∨
    s'.Reported record.transactionId record.action
  control : s'.ReportedBy control'
  spawned : ∀ other ∈ spawned, s'.ReportedBy other

/-- A call that publishes the end of its session and goes on to record it. -/
theorem reports_published {s s' : Runtime Λ} {session : TransactionId}
    (hsession : session < s'.sessions.length)
    (hsame : s'.published = s.published ∧ s'.audit = s.audit)
    (reason : ManualTransactionEndReason) (error : Option String) (answer : Answer) :
    Reports s (s'.publishEnded session reason) (.record session reason.action error answer) [] := by
  have hends : ∀ id, (s'.publishEnded session reason).endsOf id =
      s.endsOf id ++ if session = id then [reason] else [] := by
    intro id
    have hpublished := Runtime.end_with_publish_ended hsession reason {} id
    have hbefore : s'.endsOf id = s.endsOf id := by rw [Runtime.endsOf, hsame.1, Runtime.endsOf]
    rw [← hbefore]
    exact congrArg End.published hpublished
  have haudit : (s'.publishEnded session reason).audit = s.audit := by
    rw [Runtime.publishEnded, List.getElem?_eq_getElem hsession]
    exact hsame.2
  refine ⟨?_, fun record hrecord => .inl (haudit ▸ hrecord), ?_, List.forall_mem_nil _⟩
  · rintro id action ⟨other, hother, haction⟩
    exact ⟨other, by rw [hends]; exact List.mem_append_left _ hother, haction⟩
  · show (s'.publishEnded session reason).Reported session reason.action
    exact ⟨reason, by simp [hends], rfl⟩

/-- From one await point to the next, a call records only what was published. -/
theorem resume_reports {s s' : Runtime Λ} {control control' : Control} {input : Input Λ}
    {spawned : List Control} (h : resume s control input = some (s', control', spawned))
    (howns : s.Owns control) (hreported : s.ReportedBy control) :
    Reports s s' control' spawned := by
  -- only the last stretch of a call that ends a transaction publishes or records
  cases hquiet : control.reports with
  | false =>
      obtain ⟨hpublished, haudit, hcontrol, hspawned⟩ := resume_quiet h hquiet
      refine ⟨fun id action hreported => ?_, fun record hrecord => .inl (haudit ▸ hrecord),
        reported_of_not_recording hcontrol,
        fun other hother => reported_of_not_recording (hspawned other hother)⟩
      rwa [Runtime.Reported, Runtime.endsOf, hpublished]
  | true =>
      cases control with
      | commitFinish session status =>
          have hsession : session < s.sessions.length := howns session (by simp [Control.tokens])
          cases input <;> try cases h
          next error =>
            cases error with
            | none =>
                obtain ⟨rfl, rfl, rfl⟩ := h
                exact @reports_published _ s (s.acknowledge session .commit) session hsession
                  ⟨rfl, rfl⟩ .committed none status
            | some detail =>
                obtain ⟨rfl, rfl, rfl⟩ := h
                exact reports_published hsession ⟨rfl, rfl⟩ .commitOutcomeUnknown _ _
      | rollBack session cause answer =>
          have hsession : session < s.sessions.length := howns session (by simp [Control.tokens])
          cases input <;> try cases h
          · simp only [resume] at h
            split at h
            · split at h
              · cases h
              · obtain ⟨rfl, rfl, rfl⟩ := h
                exact ⟨fun _ _ h => h, fun _ h => .inl h, trivial, List.forall_mem_nil _⟩
            · cases h
          · rw [← cause_action cause]
            exact reports_published hsession ⟨rfl, rfl⟩ _ _ _
      | rollBackLocked session cause answer =>
          have hsession : session < s.sessions.length := howns session (by simp [Control.tokens])
          cases input <;> try cases h
          simp only [resume] at h
          split at h
          · cases h
          next x hx =>
            split at h
            · obtain ⟨rfl, rfl, rfl⟩ := h
              exact ⟨fun _ _ h => h, fun _ h => .inl h, trivial, List.forall_mem_nil _⟩
            · obtain ⟨rfl, rfl, rfl⟩ := h
              rw [← cause_action cause]
              have hlength : session < (s.setSession session
                  { x with locked := false, link := none }).sessions.length := by
                simpa [Runtime.setSession] using hsession
              exact reports_published (s := s) hlength ⟨rfl, rfl⟩ _ _ _
      | rollBackFinish session cause answer =>
          have hsession : session < s.sessions.length := howns session (by simp [Control.tokens])
          cases input <;> try cases h
          next error =>
            cases error with
            | none =>
                obtain ⟨rfl, rfl, rfl⟩ := h
                rw [← cause_action cause]
                exact @reports_published _ s (s.acknowledge session .rollback) session hsession
                  ⟨rfl, rfl⟩ _ _ _
            | some detail =>
                obtain ⟨rfl, rfl, rfl⟩ := h
                rw [← cause_action cause]
                exact reports_published hsession ⟨rfl, rfl⟩ _ _ _
      | record session action error answer =>
          cases input <;> try cases h
          next failure =>
            cases failure with
            | some failure =>
                obtain ⟨rfl, rfl, rfl⟩ := h
                exact ⟨fun _ _ h => h, fun _ h => .inl h, trivial, List.forall_mem_nil _⟩
            | none =>
                -- the end that is recorded was published when the call went to record it
                obtain ⟨rfl, rfl, rfl⟩ := h
                refine ⟨fun _ _ h => h, fun record hrecord => ?_, trivial, List.forall_mem_nil _⟩
                rcases List.mem_append.mp hrecord with hrecord | hrecord
                · exact .inl hrecord
                · obtain rfl := List.mem_singleton.mp hrecord
                  exact .inr hreported
      | _ => cases hquiet

/-- What a call has published stays published. -/
theorem Reports.reported_by {s s' : Runtime Λ} {control' : Control} {spawned : List Control}
    (h : Reports s s' control' spawned) {other : Control} (hother : s.ReportedBy other) :
    s'.ReportedBy other := by
  cases other with
  | record session action error answer => exact h.kept session action hother
  | _ => trivial

/-- Every move keeps the audit records in step with the published ends. -/
theorem recorded_move {s : Pool (Runtime Λ) Control} {m : Move Control (Input Λ)}
    (hinv : ∀ id, (endOf s id).Inv) (h : Recorded s) : Recorded (move s m) := by
  cases m with
  | start control =>
      by_cases hcall : control.isCall = true
      · have hmove : move s (.start control) = { s with tasks := s.tasks ++ [control] } :=
          if_pos hcall
        rw [hmove]
        refine ⟨h.audit, fun other hother => ?_⟩
        rcases List.mem_append.mp hother with hother | hother
        · exact h.tasks other hother
        · obtain rfl := List.mem_singleton.mp hother
          exact reported_of_not_recording (by cases other <;> first | rfl | cases hcall)
      · have hmove : move s (.start control) = s := if_neg hcall
        rw [hmove]
        exact h
  | resume task input =>
      rcases move_cases resume s (.resume task input) with ⟨_, heq, -⟩ | heq |
        ⟨task', input', control, s', control', spawned, heq, htask, hresume, hmove⟩
      · cases heq
      · show Recorded (s.move resume (.resume task input))
        rw [heq]
        exact h
      · have hreports := resume_reports hresume (owns_of_inv hinv htask)
          (h.tasks control (List.mem_of_getElem? htask))
        show Recorded (s.move resume (.resume task input))
        rw [hmove]
        constructor
        · intro record hrecord
          rcases hreports.audit record hrecord with hrecord | hrecord
          · exact hreports.kept _ _ (h.audit record hrecord)
          · exact hrecord
        · intro other hother
          rcases mem_moved hother with hother | rfl | hother
          · exact hreports.reported_by (h.tasks other hother)
          · exact hreports.control
          · exact hreports.spawned other hother

/-! ## Agreement -/

/-- The runtime after an orderly run keeps the end protocol and its audit log. -/
theorem reached_ends {moves : List (Move Control (Input Λ))}
    (h : EachCall move Orderly idle moves) :
    (∀ id, (endOf (reached moves) id).Inv) ∧ Recorded (reached moves) := by
  refine run_invariant_of (P := fun s => (∀ id, (endOf s id).Inv) ∧ Recorded s) ⟨fun id => ?_, ?_⟩
    (fun s m hs horderly => ⟨fun id => (hs.1 id).step (move_step hs.1 horderly id),
      recorded_move hs.1 hs.2⟩) h
  · exact ⟨rfl, Nat.zero_le 1, Nat.le_refl 0, nofun, nofun, nofun, nofun⟩
  · exact ⟨nofun, nofun⟩

/-- A call is ending the session: it removed the session from the map, or sent its COMMIT, and has
not published the end. -/
def Control.Ending (id : TransactionId) (control : Control) : Prop :=
  0 < (control.tokens id).rolling + (control.tokens id).committing

/-- The calls on a session agree on its end: at most one end is published, exactly one once the
session is out of the map and nobody is ending it, at most one COMMIT or ROLLBACK is sent on its
connection, and what is published and audited is true. -/
structure EndAgreement (s : Pool (Runtime Λ) Control) (id : TransactionId) : Prop where
  atMostOnce : (s.shared.endsOf id).length ≤ 1
  once : id < s.shared.sessions.length → s.shared.mapped ≠ some id →
    (∀ control ∈ s.tasks, ¬ control.Ending id) → (s.shared.endsOf id).length = 1
  boundary : (s.shared.sentOn id).length ≤ 1
  published : ∀ reason ∈ s.shared.endsOf id,
    Truthful (s.shared.sentOn id) (s.shared.acknowledgedOn id) reason
  audit : ∀ record ∈ s.shared.audit, record.transactionId = id →
    TruthfulAction (s.shared.sentOn id) (s.shared.acknowledgedOn id) record.action

/-- The calls on a session agree on its end in every run in which each commit and each rollback
that reaches its `unmap` finds the session still mapped. -/
theorem manual_transaction_ends_agree {moves : List (Move Control (Input Λ))}
    (h : EachCall move Orderly idle moves) (id : TransactionId) :
    EndAgreement (reached moves) id := by
  obtain ⟨hinv, hrecorded⟩ := reached_ends h
  obtain ⟨htoken, honce, hlink, -, -, -, htruthful⟩ := hinv id
  simp only [endOf, Runtime.endWith] at htoken honce hlink htruthful
  refine ⟨by omega, fun hbegun hmapped hidle => ?_, by omega, htruthful, ?_⟩
  -- no call is about to end the session, so none holds its token
  · have hrolling : total (fun control => (control.tokens id).rolling) (reached moves).tasks = 0 :=
      total_eq_zero.mpr fun control hcontrol => by
        have := hidle control hcontrol
        unfold Control.Ending at this
        omega
    have hcommitting : total (fun control => (control.tokens id).committing)
        (reached moves).tasks = 0 :=
      total_eq_zero.mpr fun control hcontrol => by
        have := hidle control hcontrol
        unfold Control.Ending at this
        omega
    rw [if_neg hmapped, if_pos hbegun, hrolling, hcommitting] at htoken
    omega
  · rintro record hrecord rfl
    obtain ⟨reason, hreason, haction⟩ := hrecorded.audit record hrecord
    rw [← haction]
    exact (htruthful reason hreason).action

/-- Begin a transaction on `app` and commit it. -/
def committedRun : List (Move Control (Input Unit)) :=
  [.start (.begin none), .resume 0 .go, .resume 0 (.opened (.ok ("app", ()))),
    .start (.commit 0), .resume 2 .go, .resume 2 (.authority .allowed), .resume 2 .go,
    .resume 2 (.finished none), .resume 2 (.recorded none)]

theorem committed_run_agrees : EndAgreement (reached committedRun) 0 :=
  manual_transaction_ends_agree (by decide) 0

/-- A rollback looks its session up before a commit unmaps it. -/
def racingRun : List (Move Control (Input Unit)) :=
  [.start (.begin none), .resume 0 .go, .resume 0 (.opened (.ok ("app", ()))),
    .start (.commit 0), .resume 2 .go, .start (.rollback 0), .resume 3 .go,
    .resume 2 (.authority .allowed), .resume 2 .go, .resume 2 (.finished none),
    .resume 3 .go, .resume 3 .go, .resume 3 .go, .resume 3 (.recorded none)]

/-- The rollback is published and audited although the COMMIT was acknowledged. -/
theorem rollback_published_after_commit :
    ¬ ∀ (moves : List (Move Control (Input Unit))) (id : TransactionId),
      EndAgreement (reached moves) id := by
  intro h
  have htruthful := (h racingRun 0).published .rolledBack (by decide)
  exact absurd htruthful (by unfold Truthful; decide)

end Dopedb.Queries
