import Mathlib.Tactic.ByContra
import Dopedb.Library.Runs
import Dopedb.Queries.SavepointRules

/-!
# Savepoint discipline

Every run of calls on one link: as long as the session is neither failed nor ended, the data are
those of the calls that completed, at most the `dopedb_statement` savepoint is open, and no
read-only mode is on. The calls must not run a script that is rolled back with SQLite's
`query_only` left on, and that condition is exact (`Transaction.call_kept_iff`).
-/

namespace Dopedb.Queries

open Dopedb.Library Command

variable {D : Type} {connection : ManualConnection}

namespace Request

/-- What a completed call does to the data. -/
def effect (request : Request D) : D → D :=
  match request.call with
  | .write _ => request.behaviour.effect 0
  | .read _ | .readStreamed _ => id
  | .script _ body => body.effect request.behaviour 0 body.statements

/-- The call is a script that is rolled back with `query_only` left on. -/
def leavesQueryOnly (request : Request D) (connection : ManualConnection) : Bool :=
  match request.call with
  | .script _ body => body.restoresQueryOnly request.behaviour connection
  | _ => false

end Request

/-- A call applies its effect, or changes nothing, or poisons the transaction. -/
theorem work_triple (request : Request D) (hcloses : request.leavesQueryOnly connection = false)
    (d : D) :
    Triple (Settled d) (request.call.work request.behaviour.wire connection)
      (fun _ => Settled (request.effect d))
      (fun e link => match e with
        | .rolledBack _ => Settled d link
        | .poisoned _ => True) := by
  obtain ⟨call, b, expired, abandoned⟩ := request
  cases call with
  | write schema => exact (write_statement_triple schema d).bind fun _ => .pure fun _ h => h
  | read schema => exact read_statement_triple schema d
  | readStreamed schema => exact read_statement_triple schema d
  | script schema body =>
      exact (script_statements_triple schema body hcloses d).bind fun _ => .pure fun _ h => h

/-- A call that leaves `query_only` on leaves it in an active session. -/
theorem work_stuck (request : Request D) (h : request.leavesQueryOnly connection = true) (d : D) :
    Triple (Settled d) (request.call.work request.behaviour.wire connection) (fun _ _ => False)
      (fun e link => (∃ error, e = .rolledBack error) ∧ link.target.queryOnly = true) := by
  obtain ⟨call, b, expired, abandoned⟩ := request
  cases call with
  | script schema body =>
      exact (script_statements_stuck schema body h d).bind fun _ _ hfalse => hfalse.elim
  | _ => cases h

/-- A transaction: its session, and what the completed calls make of the data at BEGIN. -/
structure Transaction (D : Type) where
  session : ManualSession (ManualLink D)
  data : D

namespace Transaction

/-- A transaction after BEGIN. -/
def begin (database : String) (d : D) : Transaction D :=
  ⟨{ database := database, link := some (linkAt [] false d) }, d⟩

/-- A transaction after a call. A call that returns an error contributes nothing. -/
def call (connection : ManualConnection) (t : Transaction D) (request : Request D) :
    Transaction D :=
  match execute connection t.session request with
  | (session, .ok _) => ⟨session, request.effect t.data⟩
  | (session, .error _) => ⟨session, t.data⟩

/-- The request does not run a script that is rolled back with `query_only` left on. -/
def Closes (connection : ManualConnection) (t : Transaction D) (request : Request D) : Prop :=
  request.queued = none → t.session.admits request.expired = none → request.abandoned = none →
    request.leavesQueryOnly connection = false

instance (t : Transaction D) (request : Request D) : Decidable (t.Closes connection request) := by
  unfold Closes
  infer_instance

/-- The link of a session that is neither failed nor ended is settled. -/
def Kept (t : Transaction D) : Prop :=
  ∀ link, t.session.link = some link → t.session.info.failed = false → Settled t.data link

/-- A new transaction is settled. -/
theorem begin_kept (database : String) (d : D) : (begin database d).Kept := by
  rintro link hlink -
  exact ⟨false, d, (Option.some.inj hlink).symm⟩

/-- A call keeps the link of an active session settled. -/
theorem call_kept {t : Transaction D} {request : Request D} (hkept : t.Kept)
    (hcloses : t.Closes connection request) : (t.call connection request).Kept := by
  unfold call execute
  cases hqueued : request.queued with
  | some why => exact hkept
  | none =>
    cases hadmits : t.session.admits request.expired with
    | some refusal => exact hkept
    | none =>
      obtain ⟨hactive, link, hlink⟩ := ManualSession.active_of_admits hadmits
      rw [hlink]
      cases habandoned : request.abandoned with
      | some why => exact fun _ h => nomatch h
      | none =>
          have hwork := work_triple request (hcloses hqueued hadmits habandoned) t.data link
            (hkept link hlink hactive)
          simp only
          split at hwork
          · next value link' heq =>
              rw [heq]
              simp only [ManualSession.concluded, hlink, Option.map_some]
              rintro _ ⟨rfl⟩ -
              exact hwork
          · next e link' heq =>
              rw [heq]
              cases e with
              | rolledBack error =>
                  simp only [ManualSession.concluded, hlink, Option.map_some]
                  rintro _ ⟨rfl⟩ -
                  exact hwork
              | poisoned error => exact fun _ _ h => nomatch h

/-- The condition is exact: on an active, settled session, a call that does not meet it leaves the
session active and not settled. -/
theorem call_kept_iff {t : Transaction D} {request : Request D} (hkept : t.Kept) :
    (t.call connection request).Kept ↔ t.Closes connection request := by
  refine ⟨fun hafter hqueued hadmits habandoned => ?_, call_kept hkept⟩
  by_contra hleaves
  rw [Bool.not_eq_false] at hleaves
  obtain ⟨hactive, link, hlink⟩ := ManualSession.active_of_admits hadmits
  have hwork := work_stuck request hleaves t.data link (hkept link hlink hactive)
  unfold call execute at hafter
  rw [hqueued, hadmits, hlink, habandoned] at hafter
  simp only at hafter
  split at hwork
  · exact hwork
  · next e link' heq =>
      obtain ⟨⟨error, rfl⟩, hquery⟩ := hwork
      rw [heq] at hafter
      simp only [ManualSession.concluded, hlink, Option.map_some] at hafter
      obtain ⟨flag, d₀, hsettled⟩ := hafter link' rfl hactive
      rw [hsettled] at hquery
      cases hquery

end Transaction

/-- A link between calls: the data are the expected ones, the flag tells whether a
`dopedb_statement` savepoint is open, and no other savepoint and no read-only mode is. -/
structure Disciplined (link : ManualLink D) (d : D) : Prop where
  data : link.target.savepoints.current.data = d
  statement : link.statementSavepoint = true ↔
    ∃ saved, (SavepointName.statement, saved) ∈ link.target.savepoints.saved
  read : ∀ saved, (SavepointName.read, saved) ∉ link.target.savepoints.saved
  script : ∀ saved, (SavepointName.script, saved) ∉ link.target.savepoints.saved
  readOnly : link.target.savepoints.current.readOnly = false
  queryOnly : link.target.queryOnly = false

/-- A settled link is disciplined. -/
theorem Settled.disciplined {d : D} {link : ManualLink D} (h : Settled d link) :
    Disciplined link d := by
  obtain ⟨flag, d₀, rfl⟩ := h
  cases flag with
  | true =>
      exact ⟨rfl, ⟨fun _ => ⟨_, List.mem_singleton_self _⟩, fun _ => rfl⟩,
        fun saved h => by simp [linkAt, between] at h, fun saved h => by simp [linkAt, between] at h,
        rfl, rfl⟩
  | false =>
      exact ⟨rfl, ⟨nofun, fun ⟨_, h⟩ => by simp [linkAt, between] at h⟩,
        fun saved h => by simp [linkAt, between] at h, fun saved h => by simp [linkAt, between] at h,
        rfl, rfl⟩

/-- In every run of calls on one link that runs no script that is rolled back with `query_only`
left on, the link of a session that is neither failed nor ended holds the effects of exactly the
calls that completed, in order, and nothing but a `dopedb_statement` savepoint is open. -/
theorem savepoint_discipline (connection : ManualConnection) (database : String) (d : D)
    {requests : List (Request D)}
    (h : EachCall (Transaction.call connection) (Transaction.Closes connection)
      (.begin database d) requests) {link : ManualLink D}
    (hlink : (run (Transaction.call connection) (.begin database d) requests).session.link =
      some link)
    (hactive : (run (Transaction.call connection) (.begin database d)
      requests).session.info.failed = false) :
    Disciplined link (run (Transaction.call connection) (.begin database d) requests).data := by
  have hkept := run_invariant_of (P := Transaction.Kept) (Transaction.begin_kept database d)
    (fun t request hkept hcloses => Transaction.call_kept hkept hcloses) h
  exact (hkept link hlink hactive).disciplined

/-- A target that accepts and runs everything. -/
def obliging : Behaviour Nat where
  accepts _ _ := true
  setsNamespace := true
  runs _ := true
  effect _ d := d + 1
  debris _ d := d
  affected _ := 1
  readOnlyViolation _ := false

/-- A write, and a script of a read and a write. -/
def writeThenScript : List (Request Nat) :=
  [⟨.write none, obliging, none, false, none⟩,
    ⟨.script none ⟨["SELECT 1", "DELETE FROM t"], [.read, .write], none⟩, obliging, none, false, none⟩]

theorem write_then_script_disciplined :
    Disciplined (linkAt (between true 0) true 2)
      (run (Transaction.call .sqlite) (.begin "main" 0) writeThenScript).data :=
  savepoint_discipline .sqlite "main" 0 (by decide) rfl rfl

/-- A target that refuses to turn `query_only` off. -/
def clinging : Behaviour Nat :=
  { obliging with accepts := fun _ statement => statement ≠ .queryOnly false }

/-- On SQLite, a script whose read cannot turn `query_only` off leaves an active session in it. -/
theorem query_only_left_on :
    ¬ ∀ (connection : ManualConnection) (requests : List (Request Nat)) (link : ManualLink Nat),
      (run (Transaction.call connection) (.begin "main" 0) requests).session.link = some link →
      (run (Transaction.call connection) (.begin "main" 0) requests).session.info.failed = false →
      Disciplined link (run (Transaction.call connection) (.begin "main" 0) requests).data := by
  intro h
  have hdisciplined := h .sqlite
    [⟨.script none ⟨["SELECT 1"], [.read], none⟩, clinging, none, false, none⟩]
    ⟨⟨⟨⟨0, false⟩, []⟩, true⟩, false⟩ rfl rfl
  exact absurd hdisciplined.queryOnly nofun

end Dopedb.Queries
