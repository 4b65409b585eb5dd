import Dopedb.Queries.SavepointRules

/-!
# Scripts on a manual session

`execute` for work of any value, and what a completed script has done to the link: from a link in
any mode and with any savepoints open, the effects of its statements and nothing else.
-/

namespace Dopedb.Queries

open Dopedb.Library Command

variable {D Λ α : Type} {b : Behaviour D} {connection : ManualConnection}

/-- What the outside decides about one guarded statement. -/
structure Guarded where
  queued : Option Abandoned := none
  expired : Bool := false
  abandoned : Option Abandoned := none
  deriving DecidableEq, Repr

/-- Run work on the session connection: `execute` for any value. -/
def executeWork (work : Command StatementError Λ α) (statements : Nat)
    (session : ManualSession Λ) (guarded : Guarded) :
    ManualSession Λ × Except (SessionFailure ExecutionError) α :=
  match guarded.queued, session.admits guarded.expired, session.link with
  | some why, _, _ => (session, .error (.statement (.abandoned why)))
  | none, some refusal, _ => (session, .error (.statement (.refused refusal)))
  | none, none, none => (session, .error (.statement (.refused .ended)))
  | none, none, some link =>
    match guarded.abandoned with
    | some why => session.concluded statements link (.abandoned why)
    | none =>
      match work link with
      | (.ok value, link) => session.concluded statements link (.completed value)
      | (.error (.rolledBack error), link) =>
        session.concluded statements link (.rolledBack error)
      | (.error (.poisoned error), link) => session.concluded statements link (.poisoned error)

/-- Work that completed ran on the link of the session, and its link is the one that stays. -/
theorem execute_work_ok {work : Command StatementError Λ α} {statements : Nat}
    {session session' : ManualSession Λ} {guarded : Guarded} {value : α}
    (h : executeWork work statements session guarded = (session', .ok value)) :
    ∃ link link', session.link = some link ∧ work link = (.ok value, link') ∧
      session'.link = some link' := by
  unfold executeWork at h
  split at h
  · cases h
  · cases h
  · cases h
  · next link _ _ hlink =>
      split at h
      · cases h
      · split at h
        · next value' link' hwork =>
            obtain ⟨hsession, hvalue⟩ := Prod.mk.inj h
            obtain rfl := Except.ok.inj hvalue
            refine ⟨link, link', hlink, hwork, ?_⟩
            rw [← hsession]
            show session.link.map (fun _ => link') = some link'
            rw [hlink]
            rfl
        · cases h
        · cases h

/-- The link with its savepoints and modes, over the data. -/
def linkWith (opened : List (SavepointName × Contents D)) (readOnly flag : Bool) (d : D)
    (link : ManualLink D) : Prop :=
  ∃ queryOnly, link = ⟨⟨⟨⟨d, readOnly⟩, opened⟩, queryOnly⟩, flag⟩

/-- A control statement from any mode. -/
theorem send_control_with {statement : ControlStatement} {index : Nat} {P : ManualLink D → Prop}
    {Q : ManualLink D → Prop}
    (h : ∀ link, P link → ∃ target, link.target.control statement = some target ∧
      Q { link with target := target }) :
    Triple P (sendControl b index statement) (fun _ => Q) (fun _ _ => True) := by
  intro link hlink
  obtain ⟨target, htarget, hQ⟩ := h link hlink
  unfold sendControl
  rw [htarget]
  cases b.accepts index statement with
  | true => exact hQ
  | false => trivial

/-- Inside a read scope: the savepoint holds what leaving restores, and on SQLite nothing can
change. -/
def inReadScope (opened : List (SavepointName × Contents D)) (readOnly flag : Bool) (d : D)
    (link : ManualLink D) : ManualConnection → Prop
  | .postgres | .mysql =>
    ∃ current queryOnly,
      link = ⟨⟨⟨current, (.read, ⟨d, readOnly⟩) :: opened⟩, queryOnly⟩, flag⟩
  | .sqlite => link = ⟨⟨⟨⟨d, readOnly⟩, opened⟩, true⟩, flag⟩

section

variable (opened : List (SavepointName × Contents D)) (readOnly flag : Bool) (d : D) (index : Nat)

/-- Entering a read scope from any mode. -/
theorem enter_read_scope_with :
    Triple (linkWith opened readOnly flag d) (enterReadScope b.wire connection index)
      (fun _ link => inReadScope opened readOnly flag d link connection) (fun _ _ => True) := by
  cases connection with
  | postgres =>
      refine control_cons_triple (R := fun link => ∃ queryOnly,
          link = ⟨⟨⟨⟨d, readOnly⟩, (.read, ⟨d, readOnly⟩) :: opened⟩, queryOnly⟩, flag⟩)
        (send_control_with ?_) (control_singleton_triple (send_control_with ?_))
      · rintro link ⟨queryOnly, rfl⟩
        exact ⟨_, rfl, queryOnly, rfl⟩
      · rintro link ⟨queryOnly, rfl⟩
        exact ⟨_, rfl, ⟨d, true⟩, queryOnly, rfl⟩
  | mysql =>
      refine control_singleton_triple (send_control_with ?_)
      rintro link ⟨queryOnly, rfl⟩
      exact ⟨_, rfl, ⟨d, readOnly⟩, queryOnly, rfl⟩
  | sqlite =>
      refine control_singleton_triple (send_control_with ?_)
      rintro link ⟨queryOnly, rfl⟩
      exact ⟨_, rfl, rfl⟩

/-- A change inside a read scope stays in it. -/
theorem in_read_scope_change {link : ManualLink D} (f : D → D)
    (h : inReadScope opened readOnly flag d link connection) :
    inReadScope opened readOnly flag d { link with target := link.target.change f } connection := by
  cases connection with
  | postgres | mysql =>
      obtain ⟨current, queryOnly, rfl⟩ := h
      unfold Target.change
      split
      · exact ⟨current, queryOnly, rfl⟩
      · exact ⟨{ current with data := f current.data }, queryOnly, rfl⟩
  | sqlite =>
      obtain rfl : link = _ := h
      show inReadScope _ _ _ _ _ ManualConnection.sqlite
      unfold Target.change Target.restricted
      rw [Bool.or_true, if_pos rfl]
      exact rfl

/-- What a read does stays in its scope, whether or not it succeeds. -/
theorem read_on_with :
    Triple (fun link => inReadScope opened readOnly flag d link connection) (readOn b index)
      (fun _ link => inReadScope opened readOnly flag d link connection)
      (fun _ link => inReadScope opened readOnly flag d link connection) := by
  intro link hlink
  unfold readOn
  cases b.runs index with
  | true => exact in_read_scope_change opened readOnly flag d _ hlink
  | false => exact in_read_scope_change opened readOnly flag d _ hlink

/-- Leaving a read scope brings back what was there before it. -/
theorem exit_read_scope_with :
    Triple (fun link => inReadScope opened readOnly flag d link connection)
      (exitReadScope b.wire connection index)
      (fun _ => linkWith opened readOnly flag d) (fun _ _ => True) := by
  cases connection with
  | postgres | mysql =>
      refine control_cons_triple (R := fun link => ∃ queryOnly,
          link = ⟨⟨⟨⟨d, readOnly⟩, (.read, ⟨d, readOnly⟩) :: opened⟩, queryOnly⟩, flag⟩)
        (send_control_with ?_) (control_singleton_triple (send_control_with ?_))
      · rintro link ⟨current, queryOnly, rfl⟩
        exact ⟨_, rfl, queryOnly, rfl⟩
      · rintro link ⟨queryOnly, rfl⟩
        exact ⟨_, rfl, queryOnly, rfl⟩
  | sqlite =>
      refine control_singleton_triple (send_control_with ?_)
      rintro link rfl
      exact ⟨_, rfl, false, rfl⟩

end

/-- A statement that wrote from any mode had its effect: a mode that refuses writes fails it. -/
theorem execute_on_with (opened : List (SavepointName × Contents D)) (readOnly flag : Bool) (d : D)
    (index : Nat) :
    Triple (linkWith opened readOnly flag d) (executeOn b index)
      (fun _ => linkWith opened readOnly flag (b.effect index d)) (fun _ _ => True) := by
  rintro link ⟨queryOnly, rfl⟩
  cases hmode : (⟨⟨⟨d, readOnly⟩, opened⟩, queryOnly⟩ : Target D).restricted with
  | true =>
      unfold executeOn
      rw [hmode, Bool.not_true, Bool.and_false]
      trivial
  | false =>
      refine execute_on_triple hmode (fun _ => ?_) (fun _ _ => trivial) _ rfl
      unfold Target.change
      rw [hmode, if_neg Bool.false_ne_true]
      exact ⟨queryOnly, rfl⟩

/-- The statements of a script that completes apply their effects, from any mode. -/
theorem run_statements_with (script : ManualScript)
    (opened : List (SavepointName × Contents D)) (readOnly flag : Bool) (statements : List String)
    (index : Nat) (d : D) :
    Triple (linkWith opened readOnly flag d) (runStatements b.wire connection script index statements)
      (fun _ => linkWith opened readOnly flag (script.effect b index statements d))
      (fun _ _ => True) := by
  induction statements generalizing index d with
  | nil => exact .pure fun _ h => h
  | cons statement statements ih =>
      unfold runStatements ManualScript.effect
      refine .ite (fun hread => ?_) fun hwrite => ?_
      · simp only [if_pos hread]
        refine Triple.bind (enter_read_scope_with opened readOnly flag d index) fun _ => ?_
        refine (read_on_with opened readOnly flag d index).attempt.bind fun read => ?_
        refine Triple.bind (Q := fun _ => linkWith opened readOnly flag d) ?_ fun _ => ?_
        · refine (exit_read_scope_with opened readOnly flag d index).weaken (fun link h => ?_)
            (fun _ _ h => h) fun _ _ h => h
          cases read with
          | ok value => exact h
          | error error => exact h
        · exact Triple.bind (Q := fun _ => linkWith opened readOnly flag d)
            (.ofExcept (fun _ _ _ h => h) fun _ _ _ _ => trivial) fun _ =>
            (ih (index + 1) d).bind fun _ => .pure fun _ h => h
      · simp only [if_neg hwrite]
        refine Triple.bind (execute_on_with opened readOnly flag d index) fun affected => ?_
        refine .ite (fun _ => .throw fun _ _ => trivial) fun _ => ?_
        exact (ih (index + 1) (b.effect index d)).bind fun _ => .pure fun _ h => h

/-- A restore never completes its statement. -/
theorem restore_with {P : ManualLink D → Prop} {Q : α → ManualLink D → Prop} (index : Nat)
    (rollback : List ControlStatement) (error : ExecutionError) :
    Triple P (restore b.wire index rollback error) Q (fun _ _ => True) := by
  have hcontrol : Triple P (control b.wire index rollback) (fun _ _ => True) (fun _ _ => True) := by
    intro link _
    split <;> trivial
  refine hcontrol.attempt.bind fun outcome => ?_
  cases outcome with
  | ok => exact .throw fun _ _ => trivial
  | error => exact .throw fun _ _ => trivial

/-- A script that completes has applied the effects of its statements, and leaves no savepoint. -/
theorem script_statements_with (schema : Option String) (script : ManualScript)
    (opened : List (SavepointName × Contents D)) (readOnly flag : Bool) (d : D) :
    Triple (linkWith opened readOnly flag d) (scriptStatements b.wire connection schema script)
      (fun _ => linkWith opened readOnly flag (script.effect b 0 script.statements d))
      (fun _ _ => True) := by
  let inside := (SavepointName.script, (⟨d, readOnly⟩ : Contents D)) :: opened
  refine Triple.bind (Q := fun _ => linkWith inside readOnly flag d) (.mapError
    ((control_singleton_triple (send_control_with ?_)).weaken (fun _ h => h) (fun _ _ h => h)
      fun _ _ _ => trivial)) fun _ => ?_
  · rintro link ⟨queryOnly, rfl⟩
    exact ⟨_, rfl, queryOnly, rfl⟩
  have hbody : Triple (linkWith inside readOnly flag d)
      (do
        setNamespace b.wire connection 0 schema
        runStatements b.wire connection script 0 script.statements)
      (fun _ => linkWith inside readOnly flag (script.effect b 0 script.statements d))
      (fun _ _ => True) :=
    (set_namespace_triple schema fun _ _ _ => trivial).bind fun _ =>
      run_statements_with script inside readOnly flag script.statements 0 d
  refine hbody.attempt.bind fun outcome => ?_
  cases outcome with
  | error error => exact restore_with 0 _ error
  | ok statements =>
      have hrelease : Triple
          (linkWith inside readOnly flag (script.effect b 0 script.statements d))
          (control b.wire 0 [.release .script])
          (fun _ => linkWith opened readOnly flag (script.effect b 0 script.statements d))
          (fun _ _ => True) := by
        refine control_singleton_triple (send_control_with ?_)
        rintro link ⟨queryOnly, rfl⟩
        exact ⟨_, rfl, queryOnly, rfl⟩
      refine hrelease.attempt.bind fun released => ?_
      cases released with
      | ok => exact .pure fun link hlink => hlink
      | error => exact .throw fun _ _ => trivial

/-- A script that completed on a session: its effects are staged on the link of the session. -/
theorem script_staged {schema : Option String} {script : ManualScript} {statements : Nat}
    {session session' : ManualSession (ManualLink D)} {guarded : Guarded}
    {outcomes : List ScriptStatement}
    (h : executeWork (scriptStatements b.wire connection schema script) statements session guarded =
      (session', .ok outcomes)) :
    ∃ link link', session.link = some link ∧ session'.link = some link' ∧
      link'.target.savepoints.current.data =
        script.effect b 0 script.statements link.target.savepoints.current.data ∧
      link'.target.savepoints.saved = link.target.savepoints.saved := by
  obtain ⟨link, link', hlink, hwork, hlink'⟩ := execute_work_ok h
  obtain ⟨⟨⟨⟨d, readOnly⟩, opened⟩, queryOnly⟩, flag⟩ := link
  have hscript := @script_statements_with _ b connection schema script opened readOnly flag d _
    ⟨queryOnly, rfl⟩
  rw [hwork] at hscript
  obtain ⟨queryOnly', rfl⟩ := hscript
  exact ⟨_, _, hlink, hlink', rfl, rfl⟩

end Dopedb.Queries
