import Dopedb.Queries.ManualExecution

/-!
# Rules for the statements of a manual transaction

What each function of the execution does to a link, as a rule of pre- and postconditions. Between
calls a link is `Settled`: at most the `dopedb_statement` savepoint is open, and SQLite's
`query_only` is off. A call applies its effect, or changes nothing, or poisons the transaction.

One path keeps less: on SQLite, a read of a script whose closing `PRAGMA query_only = OFF` is
refused ends the script, the rollback to `dopedb_script` restores everything a savepoint saves,
which `query_only` is not, and the session goes on (`script_statements_stuck`).
-/

namespace Dopedb.Queries

open Dopedb.Library

variable {D : Type} {b : Behaviour D} {connection : ManualConnection} {index : Nat}

/-! ## States of a link -/

/-- The link with some open savepoints, outside every read-only scope. -/
def linkAt (opened : List (SavepointName × Contents D)) (flag : Bool) (d : D) : ManualLink D :=
  ⟨⟨⟨⟨d, false⟩, opened⟩, false⟩, flag⟩

/-- The savepoints that stay open between calls. -/
def between (flag : Bool) (d : D) : List (SavepointName × Contents D) :=
  if flag then [(.statement, ⟨d, false⟩)] else []

/-- The link between calls: the data, and at most the previous write's savepoint. -/
def Settled (d : D) (link : ManualLink D) : Prop :=
  ∃ flag d₀, link = linkAt (between flag d₀) flag d

/-- The link inside a read-only scope. A read can change data on MySQL only, where the scope cannot
be made read-only. -/
def InScope (opened : List (SavepointName × Contents D)) (flag : Bool) (d : D)
    (link : ManualLink D) : ManualConnection → Prop
  | .postgres => link = ⟨⟨⟨⟨d, true⟩, (.read, ⟨d, false⟩) :: opened⟩, false⟩, flag⟩
  | .mysql => ∃ d', link = ⟨⟨⟨⟨d', false⟩, (.read, ⟨d, false⟩) :: opened⟩, false⟩, flag⟩
  | .sqlite => link = ⟨⟨⟨⟨d, false⟩, opened⟩, true⟩, flag⟩

/-- The link somewhere inside a script, with at most read scopes open above it. -/
structure Inside (opened : List (SavepointName × Contents D)) (flag : Bool)
    (link : ManualLink D) : Prop where
  saved : ∃ later, link.target.savepoints.saved = later ++ opened ∧ ∀ entry ∈ later, entry.1 = .read
  queryOnly : link.target.queryOnly = false
  flag : link.statementSavepoint = flag

/-- Outside every scope is inside the script. -/
theorem inside_link_at (opened : List (SavepointName × Contents D)) (flag : Bool) (d : D) :
    Inside opened flag (linkAt opened flag d) :=
  ⟨⟨[], rfl, List.forall_mem_nil _⟩, rfl, rfl⟩

/-- Whatever the data are. -/
theorem inside_cons_read (opened : List (SavepointName × Contents D)) (flag : Bool)
    (current saved : Contents D) :
    Inside opened flag ⟨⟨⟨current, (.read, saved) :: opened⟩, false⟩, flag⟩ :=
  ⟨⟨[(.read, saved)], rfl, by simp⟩, rfl, rfl⟩

/-! ## Control statements -/

open Command

variable {P Q : ManualLink D → Prop} {E : ExecutionError → ManualLink D → Prop}

/-- A control statement at a known link does what it says when it is accepted, and nothing when it
is refused. -/
theorem send_control_at {statement : ControlStatement} {link : ManualLink D} {target : Target D}
    (htarget : link.target.control statement = some target)
    (hok : b.accepts index statement = true → Q { link with target := target })
    (herror : b.accepts index statement = false → E (.db false) link) :
    Triple (fun s => s = link) (sendControl b index statement) (fun _ => Q) E := by
  rintro s rfl
  unfold sendControl
  rw [htarget]
  cases haccepts : b.accepts index statement with
  | true => exact hok haccepts
  | false => exact herror haccepts

section

variable {Λ : Type} {w : Wire Λ} {P Q : Λ → Prop} {E : ExecutionError → Λ → Prop}

/-- A list of control statements is one statement after another. -/
theorem control_cons_triple {statement : ControlStatement} {statements : List ControlStatement}
    {R : Λ → Prop} (hfirst : Triple P (w.sends index statement) (fun _ => R) E)
    (hrest : Triple R (control w index statements) (fun _ => Q) E) :
    Triple P (control w index (statement :: statements)) (fun _ => Q) E :=
  hfirst.bind fun _ => hrest

/-- The last control statement of a list. -/
theorem control_singleton_triple {statement : ControlStatement}
    (h : Triple P (w.sends index statement) (fun _ => Q) E) :
    Triple P (control w index [statement]) (fun _ => Q) E :=
  h.bind fun _ => .pure fun _ h => h

end

/-- Opening a write's savepoint leaves it as the only one. -/
theorem open_statement_savepoint_triple (d : D) :
    Triple (Settled d) (openStatementSavepoint b.wire index)
      (fun _ link => link = linkAt (between true d) true d) (fun _ _ => True) := by
  refine Triple.exists fun flag => Triple.exists fun d₀ => ?_
  refine Triple.bind (Q := fun read link =>
    read.statementSavepoint = flag ∧ link = linkAt (between flag d₀) flag d)
    (.get fun link hlink => ⟨hlink ▸ rfl, hlink⟩) fun read => .assume fun hflag => ?_
  refine .ite (fun hopen => ?_) fun hclosed => ?_
  · obtain rfl : flag = true := hflag ▸ hopen
    exact control_cons_triple (R := fun link => link = linkAt [] true d)
      (send_control_at rfl (fun _ => rfl) fun _ => trivial)
      (control_singleton_triple (send_control_at rfl (fun _ => rfl) fun _ => trivial))
  · obtain rfl : flag = false := hflag ▸ Bool.eq_false_iff.mpr hclosed
    refine Triple.bind (Q := fun _ link => link = linkAt (between true d) false d)
      (control_singleton_triple (send_control_at rfl (fun _ => rfl) fun _ => trivial)) fun _ => ?_
    exact .modify fun link hlink => hlink ▸ rfl

/-- Choosing the schema changes neither the data nor the savepoints. -/
theorem set_namespace_triple (schema : Option String) (hE : ∀ e link, P link → E e link) :
    Triple P (setNamespace b.wire connection index schema) (fun _ => P) E := by
  unfold setNamespace
  split
  · exact .ite (fun _ => .pure fun _ h => h) fun _ => .throw fun link h => hE _ link h
  · exact .pure fun _ h => h

/-- A statement that writes changes the data as the target decides. -/
theorem execute_on_triple {link : ManualLink D} {Q : Nat → ManualLink D → Prop}
    (hopen : link.target.restricted = false)
    (hok : b.runs index = true →
      Q (b.affected index) { link with target := link.target.change (b.effect index) })
    (herror : b.runs index = false → ∀ e,
      E e { link with target := link.target.change (b.debris index) }) :
    Triple (fun s => s = link) (executeOn b index) Q E := by
  rintro s rfl
  unfold executeOn
  rw [hopen]
  cases hruns : b.runs index with
  | true => exact hok hruns
  | false => exact herror hruns _

/-- A read changes the data as the target decides. -/
theorem read_at {link : ManualLink D} {Q : Unit → ManualLink D → Prop}
    (hok : b.runs index = true →
      Q () { link with target := link.target.change (b.effect index) })
    (herror : b.runs index = false → ∀ e,
      E e { link with target := link.target.change (b.debris index) }) :
    Triple (fun s => s = link) (readOn b index) Q E := by
  rintro s rfl
  unfold readOn
  cases hruns : b.runs index with
  | true => exact hok hruns
  | false => exact herror hruns _

/-- A write that fails is rolled back to its own savepoint, or the transaction is poisoned. -/
theorem restore_statement_triple {α : Type} {Q : α → ManualLink D → Prop} (d : D)
    (error : ExecutionError) :
    Triple (fun link => ∃ d', link = linkAt (between true d) true d')
      (restore b.wire index [.rollbackTo .statement] error) Q
      (fun e link => match e with
        | .rolledBack _ => Settled d link
        | .poisoned _ => True) := by
  refine Triple.exists fun d' => ?_
  have hcontrol : Triple (fun link => link = linkAt (between true d) true d')
      (control b.wire index [.rollbackTo .statement]) (fun _ => Settled d) (fun _ _ => True) :=
    control_singleton_triple (send_control_at rfl (fun _ => ⟨true, d, rfl⟩) fun _ => trivial)
  refine hcontrol.attempt.bind fun outcome => ?_
  cases outcome with
  | ok => exact .throw fun link hlink => hlink
  | error => exact .throw fun link hlink => hlink

/-- A write applies its effect, or is rolled back alone, or poisons the transaction. -/
theorem write_statement_triple (schema : Option String) (d : D) :
    Triple (Settled d) (writeStatement b.wire connection index schema)
      (fun _ => Settled (b.effect index d))
      (fun e link => match e with
        | .rolledBack _ => Settled d link
        | .poisoned _ => True) := by
  refine Triple.bind (Triple.mapError (open_statement_savepoint_triple d)) fun _ => ?_
  have hbody : Triple (fun link => link = linkAt (between true d) true d)
      (do setNamespace b.wire connection index schema; executeOn b index)
      (fun _ => Settled (b.effect index d))
      (fun _ link => ∃ d', link = linkAt (between true d) true d') := by
    refine Triple.bind (set_namespace_triple schema fun _ link hlink => ⟨d, hlink⟩) fun _ => ?_
    exact execute_on_triple rfl (fun _ => ⟨true, d, rfl⟩) fun _ _ => ⟨b.debris index d, rfl⟩
  refine hbody.attempt.bind fun outcome => ?_
  cases outcome with
  | ok affected => exact .pure fun link hlink => hlink
  | error error => exact restore_statement_triple d error

/-! ## Read scopes -/

/-- Entering a read scope. -/
theorem enter_read_scope_triple (opened : List (SavepointName × Contents D)) (flag : Bool) (d : D) :
    Triple (fun link => link = linkAt opened flag d) (enterReadScope b.wire connection index)
      (fun _ link => (connection = .sqlite → b.accepts index (.queryOnly true) = true) ∧
        InScope opened flag d link connection)
      (fun _ => Inside opened flag) := by
  cases connection with
  | postgres =>
      exact control_cons_triple
        (R := fun link => link = ⟨⟨⟨⟨d, false⟩, (.read, ⟨d, false⟩) :: opened⟩, false⟩, flag⟩)
        (send_control_at rfl (fun _ => rfl) fun _ => inside_link_at opened flag d)
        (control_singleton_triple
          (send_control_at rfl (fun _ => ⟨nofun, rfl⟩) fun _ => inside_cons_read opened flag _ _))
  | mysql =>
      exact control_singleton_triple
        (send_control_at rfl (fun _ => ⟨nofun, d, rfl⟩) fun _ => inside_link_at opened flag d)
  | sqlite =>
      exact control_singleton_triple
        (send_control_at rfl (fun h => ⟨fun _ => h, rfl⟩) fun _ => inside_link_at opened flag d)

/-- What a read does stays inside its scope. -/
theorem read_on_triple (opened : List (SavepointName × Contents D)) (flag : Bool) (d : D)
    (hE : ∀ e link, b.runs index = false → InScope opened flag d link connection → E e link) :
    Triple (fun link => InScope opened flag d link connection) (readOn b index)
      (fun _ link => b.runs index = true ∧ InScope opened flag d link connection) E := by
  cases connection with
  | postgres => exact read_at (fun h => ⟨h, rfl⟩) fun h e => hE e _ h rfl
  | mysql =>
      refine Triple.exists fun d' => ?_
      exact read_at (fun h => ⟨h, b.effect index d', rfl⟩) fun h e =>
        hE e _ h ⟨b.debris index d', rfl⟩
  | sqlite => exact read_at (fun h => ⟨h, rfl⟩) fun h e => hE e _ h rfl

/-- The closing statement of a read scope that was refused on SQLite leaves `query_only` on. -/
def QueryOnlyLeft (b : Behaviour D) (connection : ManualConnection) (index : Nat)
    (opened : List (SavepointName × Contents D)) (flag : Bool) (d : D) (link : ManualLink D) :
    Prop :=
  connection = .sqlite ∧ b.accepts index (.queryOnly false) = false ∧
    link = ⟨⟨⟨⟨d, false⟩, opened⟩, true⟩, flag⟩

/-- Leaving a read scope restores the link; failing to leave it leaves the scope open. -/
theorem exit_read_scope_triple (opened : List (SavepointName × Contents D)) (flag : Bool) (d : D) :
    Triple (fun link => InScope opened flag d link connection) (exitReadScope b.wire connection index)
      (fun _ link => (connection = .sqlite → b.accepts index (.queryOnly false) = true) ∧
        link = linkAt opened flag d)
      (fun _ link => Inside opened flag link ∨
        QueryOnlyLeft b connection index opened flag d link) := by
  cases connection with
  | postgres =>
      exact control_cons_triple
        (R := fun link => link = ⟨⟨⟨⟨d, false⟩, (.read, ⟨d, false⟩) :: opened⟩, false⟩, flag⟩)
        (send_control_at rfl (fun _ => rfl)
          fun _ => .inl (inside_cons_read opened flag _ _))
        (control_singleton_triple
          (send_control_at rfl (fun _ => ⟨nofun, rfl⟩)
            fun _ => .inl (inside_cons_read opened flag _ _)))
  | mysql =>
      refine Triple.exists fun d' => ?_
      exact control_cons_triple
        (R := fun link => link = ⟨⟨⟨⟨d, false⟩, (.read, ⟨d, false⟩) :: opened⟩, false⟩, flag⟩)
        (send_control_at rfl (fun _ => rfl)
          fun _ => .inl (inside_cons_read opened flag _ _))
        (control_singleton_triple
          (send_control_at rfl (fun _ => ⟨nofun, rfl⟩)
            fun _ => .inl (inside_cons_read opened flag _ _)))
  | sqlite =>
      exact control_singleton_triple
        (send_control_at rfl (fun h => ⟨fun _ => h, rfl⟩) fun h => .inr ⟨rfl, h, rfl⟩)

/-- Finishing a read scope on its own leaves the link as it was, or poisons the transaction. -/
theorem leave_read_scope_triple {α : Type} (opened : List (SavepointName × Contents D))
    (flag : Bool) (d : D) (outcome : Except ExecutionError α) :
    Triple (fun link => InScope opened flag d link connection)
      (leaveReadScope b.wire connection index outcome)
      (fun _ link => link = linkAt opened flag d)
      (fun e link => match e with
        | .rolledBack _ => link = linkAt opened flag d
        | .poisoned _ => True) := by
  refine (exit_read_scope_triple opened flag d).attempt.bind fun left => ?_
  cases outcome with
  | ok value =>
      cases left with
      | ok => exact .pure fun link hlink => hlink.2
      | error error => exact .throw fun link hlink => trivial
  | error error =>
      cases left with
      | ok => exact .throw fun link hlink => hlink.2
      | error error' => exact .throw fun link hlink => trivial

/-- A read on its own leaves the link as it was, or poisons the transaction. -/
theorem read_statement_triple (schema : Option String) (d : D) :
    Triple (Settled d) (readStatement b.wire connection index schema) (fun _ => Settled d)
      (fun e link => match e with
        | .rolledBack _ => Settled d link
        | .poisoned _ => True) := by
  refine Triple.exists fun flag => Triple.exists fun d₀ => ?_
  refine Triple.bind (Triple.mapError ((enter_read_scope_triple (between flag d₀) flag d).weaken
    (fun _ h => h) (fun _ _ h => h.2) fun _ _ _ => trivial)) fun _ => ?_
  have hbody : Triple (fun link => InScope (between flag d₀) flag d link connection)
      (do setNamespace b.wire connection index schema; readOn b index)
      (fun _ link => InScope (between flag d₀) flag d link connection)
      (fun _ link => InScope (between flag d₀) flag d link connection) := by
    refine Triple.bind (set_namespace_triple schema fun _ _ h => h) fun _ => ?_
    exact (read_on_triple _ flag d fun _ _ _ h => h).weaken (fun _ h => h) (fun _ _ h => h.2)
      fun _ _ h => h
  refine hbody.attempt.bind fun outcome => ?_
  refine (leave_read_scope_triple (between flag d₀) flag d outcome).weaken (fun link h => ?_)
    (fun _ link h => ⟨flag, d₀, h⟩) fun e link h => ?_
  · cases outcome with
    | ok => exact h
    | error => exact h
  · cases e with
    | rolledBack error => exact ⟨flag, d₀, h⟩
    | poisoned error => trivial

/-! ## Scripts -/

namespace ManualScript

/-- What the statements of a script do to the data: reads do nothing. -/
def effect (script : ManualScript) (b : Behaviour D) : Nat → List String → D → D
  | _, [], d => d
  | index, _ :: statements, d =>
    effect script b (index + 1) statements
      (if script.kinds[index]? = some .read then d else b.effect index d)

/-- Whether the script reaches a read that runs in SQLite's `query_only` and whose closing `PRAGMA`
is refused. -/
def leavesQueryOnly (script : ManualScript) (b : Behaviour D) : Nat → List String → Bool
  | _, [] => false
  | index, _ :: statements =>
    if script.kinds[index]? = some .read then
      b.accepts index (.queryOnly true) &&
        (!b.accepts index (.queryOnly false) ||
          b.runs index && leavesQueryOnly script b (index + 1) statements)
    else
      b.runs index && !(script.expected index).any (· ≠ b.affected index) &&
        leavesQueryOnly script b (index + 1) statements

end ManualScript

/-- The link after a script that gave up with SQLite's `query_only` on. -/
def Stuck (opened : List (SavepointName × Contents D)) (flag : Bool) (link : ManualLink D) : Prop :=
  ∃ d, link = ⟨⟨⟨⟨d, false⟩, opened⟩, true⟩, flag⟩

/-- Leaving the scope of a script's read restores the link. When it cannot be left, the link is
inside the script, or SQLite's `query_only` was left on. -/
theorem left_scope_triple (hon : connection = .sqlite → b.accepts index (.queryOnly true) = true)
    (rest : Bool) (opened : List (SavepointName × Contents D)) (flag : Bool) (d : D) :
    Triple (fun link => InScope opened flag d link connection) (exitReadScope b.wire connection index)
      (fun _ link => (connection = .sqlite → b.accepts index (.queryOnly false) = true) ∧
        link = linkAt opened flag d)
      (fun _ link => Inside opened flag link ∨
        (connection = .sqlite ∧ (b.accepts index (.queryOnly true) &&
          (!b.accepts index (.queryOnly false) || rest)) = true ∧ Stuck opened flag link)) := by
  refine (exit_read_scope_triple opened flag d).weaken (fun _ h => h) (fun _ _ h => h) ?_
  rintro error link (h | ⟨hsqlite, hoff, hlink⟩)
  · exact .inl h
  · exact .inr ⟨hsqlite, by simp [hon hsqlite, hoff], d, hlink⟩

/-- The statements of a script apply their effects one after another. When they give up, the link
is inside the script, or SQLite's `query_only` was left on. -/
theorem run_statements_triple (script : ManualScript)
    (opened : List (SavepointName × Contents D)) (flag : Bool) (statements : List String)
    (index : Nat) (d : D) :
    Triple (fun link => link = linkAt opened flag d)
      (runStatements b.wire connection script index statements)
      (fun _ link => link = linkAt opened flag (script.effect b index statements d))
      (fun _ link => Inside opened flag link ∨
        (connection = .sqlite ∧ script.leavesQueryOnly b index statements = true ∧
          Stuck opened flag link)) := by
  induction statements generalizing index d with
  | nil => exact .pure fun _ h => h
  | cons statement statements ih =>
      unfold runStatements ManualScript.effect ManualScript.leavesQueryOnly
      refine .ite (fun hread => ?_) fun hwrite => ?_
      · simp only [if_pos hread]
        refine Triple.bind ((enter_read_scope_triple opened flag d).weaken (fun _ h => h)
          (fun _ _ h => h) fun _ _ h => .inl h) fun _ => .assume fun hon => ?_
        refine (read_on_triple opened flag d fun _ _ _ h => h).attempt.bind fun read => ?_
        cases read with
        | error error =>
            refine Triple.bind (left_scope_triple hon _ opened flag d) fun _ => .bind
              (Q := fun _ _ => False) (.ofExcept (fun _ _ h => nomatch h)
                fun _ link _ hlink => .inl (hlink.2 ▸ inside_link_at opened flag d)) fun _ _ h => h.elim
        | ok =>
            refine .assume fun hruns => ?_
            refine Triple.bind (left_scope_triple hon _ opened flag d) fun _ =>
              .assume fun hoff => ?_
            refine Triple.bind (Q := fun _ link => link = linkAt opened flag d)
              (.ofExcept (fun _ _ _ h => h) fun _ _ h => nomatch h) fun _ => ?_
            refine Triple.bind ((ih (index + 1) d).weaken (fun _ h => h) (fun _ _ h => h) ?_)
              fun _ => .pure fun _ h => h
            rintro error link (h | ⟨hsqlite, hleaves, hstuck⟩)
            · exact .inl h
            · exact .inr ⟨hsqlite, by simp [hon hsqlite, hoff hsqlite, hruns, hleaves], hstuck⟩
      · simp only [if_neg hwrite]
        refine Triple.bind (Q := fun affected link =>
            (b.runs index = true ∧ affected = b.affected index) ∧
              link = linkAt opened flag (b.effect index d))
          (execute_on_triple rfl (fun h => ⟨⟨h, rfl⟩, rfl⟩)
            fun _ _ => .inl (inside_link_at opened flag (b.debris index d)))
          fun affected => .assume fun ⟨hruns, haffected⟩ => ?_
        subst haffected
        refine .ite (fun _ => .throw fun link hlink =>
          .inl (hlink ▸ inside_link_at opened flag _)) fun hexpected => ?_
        refine Triple.bind ((ih (index + 1) (b.effect index d)).weaken (fun _ h => h)
          (fun _ _ h => h) ?_) fun _ => .pure fun _ h => h
        rintro error link (h | ⟨hsqlite, hleaves, hstuck⟩)
        · exact .inl h
        · exact .inr ⟨hsqlite, by simp_all, hstuck⟩

/-- The restore of a script brings back what its savepoint saved, or poisons the transaction. With
`query_only` left on it must not succeed. -/
theorem restore_script_triple {α : Type} {Q : α → ManualLink D → Prop} {φ : Prop}
    (opened : List (SavepointName × Contents D)) (flag : Bool) (d : D) (error : ExecutionError)
    (hφ : φ → ¬ (b.accepts 0 (.rollbackTo .script) = true ∧ b.accepts 0 (.release .script) = true)) :
    Triple (fun link => Inside ((.script, ⟨d, false⟩) :: opened) flag link ∨
        (φ ∧ Stuck ((.script, ⟨d, false⟩) :: opened) flag link))
      (restore b.wire 0 [.rollbackTo .script, .release .script] error) Q
      (fun e link => match e with
        | .rolledBack _ => link = linkAt opened flag d
        | .poisoned _ => True) := by
  have hinside : Triple (Inside ((.script, ⟨d, false⟩) :: opened) flag)
      (control b.wire 0 [.rollbackTo .script, .release .script])
      (fun _ link => link = linkAt opened flag d) (fun _ _ => True) := by
    rintro ⟨⟨⟨current, saved⟩, queryOnly⟩, flag'⟩ ⟨⟨later, hsaved, hreads⟩, hquery, hflag⟩
    obtain rfl : queryOnly = false := hquery
    obtain rfl : flag' = flag := hflag
    have hother : ∀ entry ∈ later, entry.1 ≠ SavepointName.script := fun entry hentry => by
      rw [hreads entry hentry]
      exact nofun
    have hrollback := Savepoints.rollback_to_append hother current ⟨d, false⟩ opened
    rw [← show saved = later ++ _ from hsaved] at hrollback
    have htarget : (ManualLink.mk ⟨⟨current, saved⟩, false⟩ flag').target.control
        (.rollbackTo .script) =
        some ⟨⟨⟨d, false⟩, (.script, ⟨d, false⟩) :: opened⟩, false⟩ := by
      show Option.map _ (Savepoints.rollbackTo ⟨current, saved⟩ SavepointName.script) = _
      rw [hrollback]
      rfl
    have hcontrol : Triple (fun link => link = ⟨⟨⟨current, saved⟩, false⟩, flag'⟩)
        (control b.wire 0 [.rollbackTo .script, .release .script])
        (fun _ link => link = linkAt opened flag' d) (fun _ _ => True) :=
      control_cons_triple (R := fun link => link = linkAt ((.script, ⟨d, false⟩) :: opened) flag' d)
        (send_control_at htarget (fun _ => rfl) fun _ => trivial)
        (control_singleton_triple (send_control_at rfl (fun _ => rfl) fun _ => trivial))
    exact hcontrol _ rfl
  have hstuck : Triple (fun link => φ ∧ Stuck ((.script, ⟨d, false⟩) :: opened) flag link)
      (control b.wire 0 [.rollbackTo .script, .release .script])
      (fun _ link => link = linkAt opened flag d) (fun _ _ => True) := by
    refine .assume fun h => .exists fun d' => ?_
    refine control_cons_triple (R := fun link => b.accepts 0 (.rollbackTo .script) = true ∧
        link = ⟨⟨⟨⟨d, false⟩, (.script, ⟨d, false⟩) :: opened⟩, true⟩, flag⟩)
      (send_control_at rfl (fun h => ⟨h, rfl⟩) fun _ => trivial) (.assume fun haccepts => ?_)
    exact control_singleton_triple
      (send_control_at rfl (fun hrelease => absurd ⟨haccepts, hrelease⟩ (hφ h)) fun _ => trivial)
  refine (hinside.or hstuck).attempt.bind fun outcome => ?_
  cases outcome with
  | ok => exact .throw fun link hlink => hlink
  | error => exact .throw fun link hlink => hlink

/-- On SQLite, the script is rolled back to its savepoint with `query_only` left on: the statements
so far succeed up to a read whose closing `PRAGMA` is refused, and the restore is accepted. -/
def ManualScript.restoresQueryOnly (script : ManualScript) (b : Behaviour D)
    (connection : ManualConnection) : Bool :=
  connection = .sqlite && b.accepts 0 (.savepoint .script) &&
    script.leavesQueryOnly b 0 script.statements &&
    b.accepts 0 (.rollbackTo .script) && b.accepts 0 (.release .script)

/-- A script applies the effects of its statements, or is rolled back as a unit, or poisons the
transaction. -/
theorem script_statements_triple (schema : Option String) (script : ManualScript)
    (hcloses : script.restoresQueryOnly b connection = false) (d : D) :
    Triple (Settled d) (scriptStatements b.wire connection schema script)
      (fun _ => Settled (script.effect b 0 script.statements d))
      (fun e link => match e with
        | .rolledBack _ => Settled d link
        | .poisoned _ => True) := by
  refine Triple.exists fun flag => Triple.exists fun d₀ => ?_
  let opened := (SavepointName.script, (⟨d, false⟩ : Contents D)) :: between flag d₀
  refine Triple.bind (Q := fun _ link => b.accepts 0 (.savepoint .script) = true ∧
      link = linkAt opened flag d)
    (.mapError (control_singleton_triple (send_control_at rfl (fun h => ⟨h, rfl⟩)
      fun _ => trivial))) fun _ => .assume fun haccepts => ?_
  have hbody : Triple (fun link => link = linkAt opened flag d)
      (do
        setNamespace b.wire connection 0 schema
        runStatements b.wire connection script 0 script.statements)
      (fun _ link => link = linkAt opened flag (script.effect b 0 script.statements d))
      (fun _ link => Inside opened flag link ∨
        ((connection = .sqlite ∧ script.leavesQueryOnly b 0 script.statements = true) ∧
          Stuck opened flag link)) := by
    refine Triple.bind (set_namespace_triple schema fun _ link hlink =>
      .inl (hlink ▸ inside_link_at opened flag d)) fun _ => ?_
    refine (run_statements_triple script opened flag script.statements 0 d).weaken
      (fun _ h => h) (fun _ _ h => h) ?_
    rintro error link (h | ⟨hsqlite, hleaves, hstuck⟩)
    · exact .inl h
    · exact .inr ⟨⟨hsqlite, hleaves⟩, hstuck⟩
  refine hbody.attempt.bind fun outcome => ?_
  cases outcome with
  | ok statements =>
      have hrelease : Triple
          (fun link => link = linkAt opened flag (script.effect b 0 script.statements d))
          (control b.wire 0 [.release .script])
          (fun _ => Settled (script.effect b 0 script.statements d)) (fun _ _ => True) :=
        control_singleton_triple (send_control_at rfl (fun _ => ⟨flag, d₀, rfl⟩) fun _ => trivial)
      refine hrelease.attempt.bind fun released => ?_
      cases released with
      | ok => exact .pure fun link hlink => hlink
      | error => exact .throw fun link hlink => hlink
  | error error =>
      refine (restore_script_triple (between flag d₀) flag d error ?_).weaken (fun _ h => h)
        (fun _ _ h => h) fun e link h => ?_
      · rintro ⟨hsqlite, hleaves⟩ ⟨hrollback, hrelease⟩
        simp [ManualScript.restoresQueryOnly, hsqlite, haccepts, hleaves, hrollback, hrelease]
          at hcloses
      · cases e with
        | rolledBack error => exact ⟨flag, d₀, h⟩
        | poisoned error => trivial

/-! ## Scripts that leave `query_only` on -/

/-- On SQLite, the statements of a script that reaches a read whose closing `PRAGMA` is refused give
up with `query_only` on. -/
theorem run_statements_stuck (script : ManualScript) (opened : List (SavepointName × Contents D))
    (flag : Bool) (statements : List String) (index : Nat) (d : D)
    (h : script.leavesQueryOnly b index statements = true) :
    Triple (fun link => link = linkAt opened flag d)
      (runStatements b.wire .sqlite script index statements)
      (fun _ _ => False) (fun _ => Stuck opened flag) := by
  induction statements generalizing index d with
  | nil => cases h
  | cons statement statements ih =>
      unfold runStatements
      unfold ManualScript.leavesQueryOnly at h
      refine .ite (fun hkind => ?_) fun hkind => ?_
      · rw [if_pos hkind, Bool.and_eq_true, Bool.or_eq_true, Bool.not_eq_true',
          Bool.and_eq_true] at h
        obtain ⟨hon, hrest⟩ := h
        refine Triple.bind (Q := fun _ link => InScope opened flag d link .sqlite)
          (control_singleton_triple (send_control_at rfl (fun _ => rfl)
            fun hoff => absurd hon (by simp [hoff]))) fun _ => ?_
        have hread : Triple (fun link => InScope opened flag d link .sqlite) (readOn b index)
            (fun _ link => b.runs index = true ∧ InScope opened flag d link .sqlite)
            (fun _ link => b.runs index = false ∧ InScope opened flag d link .sqlite) :=
          read_on_triple opened flag d fun _ _ hfails h => ⟨hfails, h⟩
        refine hread.attempt.bind fun read => ?_
        cases hoff : b.accepts index (.queryOnly false) with
        | false =>
            refine Triple.bind (Q := fun _ _ => False) ?_ fun _ _ h => h.elim
            refine Triple.weaken (P := fun link => InScope opened flag d link .sqlite)
              (control_singleton_triple (send_control_at rfl
                (fun hon => absurd hon (by simp [hoff])) fun _ => ⟨d, rfl⟩))
              (fun link h => ?_) (fun _ _ h => h) fun _ _ h => h
            cases read with
            | ok => exact h.2
            | error => exact h.2
        | true =>
            obtain ⟨hruns, hleaves⟩ := hrest.resolve_left (by simp [hoff])
            cases read with
            | error error =>
                exact .assume fun hfails => absurd hruns (by simp [hfails])
            | ok =>
                refine .assume fun _ => ?_
                refine Triple.bind (Q := fun _ link => link = linkAt opened flag d)
                  (control_singleton_triple (send_control_at rfl (fun _ => rfl)
                    fun h => absurd hoff (by simp [h]))) fun _ => ?_
                refine Triple.bind (Q := fun _ link => link = linkAt opened flag d)
                  (.ofExcept (fun _ _ _ h => h) fun _ _ h => nomatch h) fun _ => ?_
                exact (ih (index + 1) d hleaves).bind fun _ _ h => h.elim
      · rw [if_neg hkind, Bool.and_eq_true, Bool.and_eq_true, Bool.not_eq_true'] at h
        obtain ⟨⟨hruns, hexpected⟩, hleaves⟩ := h
        refine Triple.bind (Q := fun affected link => affected = b.affected index ∧
            link = linkAt opened flag (b.effect index d))
          (execute_on_triple rfl (fun _ => ⟨rfl, rfl⟩) fun hfails => absurd hruns (by simp [hfails]))
          fun affected => .assume fun haffected => ?_
        subst haffected
        refine .ite (fun hconflict => by rw [hexpected] at hconflict; cases hconflict) fun _ => ?_
        exact (ih (index + 1) (b.effect index d) hleaves).bind fun _ _ h => h.elim

/-- A script that is rolled back with `query_only` left on reports an ordinary failure. -/
theorem script_statements_stuck (schema : Option String) (script : ManualScript)
    (h : script.restoresQueryOnly b connection = true) (d : D) :
    Triple (Settled d) (scriptStatements b.wire connection schema script) (fun _ _ => False)
      (fun e link => (∃ error, e = .rolledBack error) ∧ link.target.queryOnly = true) := by
  simp only [ManualScript.restoresQueryOnly, Bool.and_eq_true, decide_eq_true_eq] at h
  obtain ⟨⟨⟨⟨rfl, hsavepoint⟩, hleaves⟩, hrollback⟩, hrelease⟩ := h
  refine Triple.exists fun flag => Triple.exists fun d₀ => ?_
  let opened := (SavepointName.script, (⟨d, false⟩ : Contents D)) :: between flag d₀
  refine Triple.bind (Q := fun _ link => link = linkAt opened flag d)
    (.mapError (control_singleton_triple (send_control_at rfl (fun _ => rfl)
      fun h => absurd hsavepoint (by simp [h])))) fun _ => ?_
  have hbody : Triple (fun link => link = linkAt opened flag d)
      (do setNamespace b.wire .sqlite 0 schema; runStatements b.wire .sqlite script 0 script.statements)
      (fun _ _ => False) (fun _ => Stuck opened flag) := by
    refine Triple.bind (Q := fun _ link => link = linkAt opened flag d) ?_
      fun _ => run_statements_stuck script opened flag script.statements 0 d hleaves
    cases schema <;> exact .pure fun _ h => h
  refine hbody.attempt.bind fun outcome => ?_
  cases outcome with
  | ok => exact fun _ h => h.elim
  | error error =>
      have hcontrol : Triple (Stuck opened flag) (control b.wire 0 [.rollbackTo .script, .release .script])
          (fun _ link => link.target.queryOnly = true) (fun _ _ => False) := by
        refine Triple.exists fun d' => ?_
        exact control_cons_triple
          (R := fun link => link = ⟨⟨⟨⟨d, false⟩, opened⟩, true⟩, flag⟩)
          (send_control_at rfl (fun _ => rfl) fun h => absurd hrollback (by simp [h]))
          (control_singleton_triple (send_control_at rfl (fun _ => rfl)
            fun h => absurd hrelease (by simp [h])))
      refine hcontrol.attempt.bind fun restored => ?_
      cases restored with
      | ok => exact .throw fun link hlink => ⟨⟨error, rfl⟩, hlink⟩
      | error => exact fun _ h => h.elim

end Dopedb.Queries
