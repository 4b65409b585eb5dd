import Dopedb.Queries.EndProtocol

/-!
# The runtime takes steps of the end protocol

Every call, from one await point to the next, takes one `End.Step` for every session, provided that
a commit or a rollback that reaches its `unmap` finds the session mapped (`resume_step`).
-/

namespace Dopedb.Queries

open Dopedb.Library

variable {Λ : Type}

/-- The tokens of a session's end that a call holds. -/
structure Tokens where
  rolling : Nat := 0
  holding : Nat := 0
  committing : Nat := 0

/-- A call that removed the session from the map rolls it back until it publishes the end. A
commit first holds the session's link and then waits for the acknowledgement of the COMMIT. -/
def Control.tokens (id : TransactionId) : Control → Tokens
  | .rollBack session _ _ | .rollBackLocked session _ _ | .rollBackFinish session _ _ =>
      if session = id then { rolling := 1 } else {}
  | .commitUnmap session => if session = id then { holding := 1 } else {}
  | .commitFinish session _ => if session = id then { committing := 1 } else {}
  | _ => {}

namespace Runtime

/-- Whether the session has its link. -/
def linkOf (s : Runtime Λ) (id : TransactionId) : Nat :=
  if ((s.sessions[id]?).bind ManualSession.link).isSome then 1 else 0

/-- The boundary statements sent on the session's connection. -/
def sentOn (s : Runtime Λ) (id : TransactionId) : List Boundary :=
  (s.sent.filter fun entry => entry.1 = id).map (·.2)

/-- The boundary statements acknowledged on the session's connection. -/
def acknowledgedOn (s : Runtime Λ) (id : TransactionId) : List Boundary :=
  (s.acknowledged.filter fun entry => entry.1 = id).map (·.2)

/-- The reasons published for the session. -/
def endsOf (s : Runtime Λ) (id : TransactionId) : List ManualTransactionEndReason :=
  (s.published.filter fun ended => ended.transactionId = id).map (·.reason)

/-- The session's end, with the tokens that some calls hold. -/
def endWith (s : Runtime Λ) (t : Tokens) (id : TransactionId) : End where
  begun := if id < s.sessions.length then 1 else 0
  mapped := if s.mapped = some id then 1 else 0
  link := s.linkOf id
  rolling := t.rolling
  holding := t.holding
  committing := t.committing
  sent := s.sentOn id
  acknowledged := s.acknowledgedOn id
  published := s.endsOf id

/-- The session's end after it was removed from the map. -/
theorem end_with_unmapped (s : Runtime Λ) (t : Tokens) (id : TransactionId) :
    { s with mapped := none }.endWith t id = { s.endWith t id with mapped := 0 } := rfl

/-- The session's end after a boundary statement was sent. -/
theorem end_with_send (s : Runtime Λ) (session : TransactionId) (boundary : Boundary) (t : Tokens)
    (id : TransactionId) :
    (s.send session boundary).endWith t id =
      { s.endWith t id with sent := s.sentOn id ++ if session = id then [boundary] else [] } := by
  have hsent : (s.send session boundary).sentOn id =
      s.sentOn id ++ if session = id then [boundary] else [] := by
    by_cases h : session = id <;> simp [sentOn, send, h]
  unfold endWith
  rw [hsent]
  rfl

/-- The session's end after a boundary statement was acknowledged. -/
theorem end_with_acknowledge (s : Runtime Λ) (session : TransactionId) (boundary : Boundary)
    (t : Tokens) (id : TransactionId) :
    (s.acknowledge session boundary).endWith t id =
      { s.endWith t id with
        acknowledged := s.acknowledgedOn id ++ if session = id then [boundary] else [] } := by
  have hacknowledged : (s.acknowledge session boundary).acknowledgedOn id =
      s.acknowledgedOn id ++ if session = id then [boundary] else [] := by
    by_cases h : session = id <;> simp [acknowledgedOn, acknowledge, h]
  unfold endWith
  rw [hacknowledged]
  rfl

/-- The session's end after it was published. -/
theorem end_with_publish_ended {s : Runtime Λ} {session : TransactionId}
    (hsession : session < s.sessions.length) (reason : ManualTransactionEndReason) (t : Tokens)
    (id : TransactionId) :
    (s.publishEnded session reason).endWith t id =
      { s.endWith t id with
        published := s.endsOf id ++ if session = id then [reason] else [] } := by
  rw [publishEnded, List.getElem?_eq_getElem hsession]
  have hends : ∀ (database : String) (count : Nat),
      { s with published := s.published ++
          [ManualTransactionEnded.mk session database reason count] }.endsOf id =
        s.endsOf id ++ if session = id then [reason] else [] := by
    intro database count
    by_cases h : session = id <;> simp [endsOf, h]
  unfold endWith
  rw [hends]
  rfl

/-- The session's end after a session's record was replaced. -/
theorem end_with_set_session {s : Runtime Λ} {session : TransactionId} {x : ManualSession Λ}
    (hx : s.sessions[session]? = some x) (x' : ManualSession Λ) (t : Tokens)
    (id : TransactionId) :
    (s.setSession session x').endWith t id =
      { s.endWith t id with
        link := if session = id then (if x'.link.isSome then 1 else 0) else s.linkOf id } := by
  have hlt : session < s.sessions.length := (List.getElem?_eq_some_iff.mp hx).1
  have hlength : (s.setSession session x').sessions.length = s.sessions.length :=
    List.length_set
  have hlink : (s.setSession session x').linkOf id =
      if session = id then (if x'.link.isSome then 1 else 0) else s.linkOf id := by
    by_cases h : session = id
    · subst h
      simp [linkOf, setSession, hlt]
    · simp [linkOf, setSession, h]
  unfold endWith
  rw [hlink, hlength]
  rfl

/-- A record that keeps the link keeps the session's end. -/
theorem end_with_same_link {s : Runtime Λ} {session : TransactionId} {x x' : ManualSession Λ}
    (hx : s.sessions[session]? = some x) (hlink : x'.link.isSome = x.link.isSome) (t : Tokens)
    (id : TransactionId) : (s.setSession session x').endWith t id = s.endWith t id := by
  rw [end_with_set_session hx, hlink]
  split
  · next h =>
      subst h
      simp [endWith, linkOf, hx]
  · rfl

end Runtime

/-- A call that removes the session from the map starts to roll it back. -/
theorem step_unmapped {s : Runtime Λ} {session : TransactionId} (hmapped : s.mapped = some session)
    (cause : Cause) (answer : Answer) (id : TransactionId) :
    End.Step (s.endWith {} id) ({ s with mapped := none }.endWith
      ((Control.rollBack session cause answer).tokens id) id) := by
  rw [Runtime.end_with_unmapped]
  by_cases h : session = id
  · have hbefore : (s.endWith {} id).mapped = 1 := by simp [Runtime.endWith, hmapped, h]
    rw [Control.tokens, if_pos h]
    exact .unmap hbefore
  · have hbefore : (s.endWith {} id).mapped = 0 := by simp [Runtime.endWith, hmapped, h]
    rw [Control.tokens, if_neg h, ← hbefore]
    exact .keep _

/-- A rollback never publishes one of the two reasons of a COMMIT. -/
theorem cause_reason (cause : Cause) :
    cause.reason ≠ .committed ∧ cause.reason ≠ .commitOutcomeUnknown := by
  cases cause with
  | user => exact ⟨nofun, nofun⟩
  | forced reason detail =>
      obtain ⟨reason, hforced⟩ := reason
      constructor
      · intro h
        obtain rfl : reason = .committed := h
        cases hforced
      · intro h
        obtain rfl : reason = .commitOutcomeUnknown := h
        cases hforced

/-- A rollback that is over publishes its end, whether it was acknowledged or not. -/
theorem step_rolled_back {s : Runtime Λ} {session : TransactionId}
    (hsession : session < s.sessions.length) (acknowledged : Bool) (cause : Cause)
    (answer : Answer) (id : TransactionId) :
    End.Step (s.endWith ((Control.rollBack session cause answer).tokens id) id)
      (((if acknowledged then s.acknowledge session .rollback else s).publishEnded session
        cause.reason).endWith {} id) := by
  have hsame : ∀ t, (if acknowledged then s.acknowledge session .rollback else s).endWith t id =
      { s.endWith t id with
        acknowledged := s.acknowledgedOn id ++
          if session = id then (if acknowledged then [.rollback] else []) else [] } := by
    intro t
    cases acknowledged with
    | false => simp [Runtime.endWith]
    | true => exact Runtime.end_with_acknowledge s session .rollback t id
  have hlength : (if acknowledged then s.acknowledge session .rollback else s).sessions.length =
      s.sessions.length := by cases acknowledged <;> rfl
  have hends : (if acknowledged then s.acknowledge session .rollback else s).endsOf id =
      s.endsOf id := by cases acknowledged <;> rfl
  rw [Runtime.end_with_publish_ended (hlength ▸ hsession), hsame, hends]
  by_cases h : session = id
  · have hrolling : 0 < (s.endWith ((Control.rollBack session cause answer).tokens id)
        id).rolling := by simp [Runtime.endWith, Control.tokens, h]
    have hstep := End.Step.rolledBack hrolling (if acknowledged then [.rollback] else [])
      (by cases acknowledged <;> simp) cause.reason (cause_reason cause)
    simpa [Runtime.endWith, Control.tokens, h] using hstep
  · rw [Control.tokens, if_neg h, if_neg h, if_neg h, List.append_nil, List.append_nil]
    exact .keep _

/-- The token of a session's end belongs to a session. -/
def Runtime.Owns (s : Runtime Λ) (control : Control) : Prop :=
  ∀ session, 0 < (control.tokens session).rolling + (control.tokens session).committing →
    session < s.sessions.length

/-- A commit or rollback that is about to unmap its session finds it mapped. -/
def Runtime.FindsMapped (s : Runtime Λ) : Control → Prop
  | .commitUnmap session | .rollbackUnmap session => s.mapped = some session
  | _ => True

/-- `end_session` only removes the mapped session. -/
theorem Runtime.matching_mapped {s : Runtime Λ} {expected : Option TransactionId}
    {session : TransactionId} (h : s.matching expected = some session) :
    s.mapped = some session := by
  unfold Runtime.matching at h
  split at h
  · next current _ hcurrent =>
      split at h
      · rw [hcurrent, h]
      · cases h
  · next hcurrent => rw [hcurrent, h]
  · cases h

/-- A new session begins with its place in the map and its link. -/
theorem step_begun {s : Runtime Λ} (hmapped : s.mapped = none) (x : ManualSession Λ)
    (hx : x.link.isSome) (id : TransactionId) :
    End.Step (s.endWith {} id)
      ({ s with sessions := s.sessions ++ [x], mapped := some s.sessions.length }.endWith {} id) := by
  have hlength : (s.sessions ++ [x]).length = s.sessions.length + 1 := List.length_append
  by_cases heq : id = s.sessions.length
  · subst heq
    have hnew : (s.endWith {} s.sessions.length).begun = 0 := by simp [Runtime.endWith]
    have hget : (s.sessions ++ [x])[s.sessions.length]? = some x := List.getElem?_concat_length
    have hsame : { s with sessions := s.sessions ++ [x], mapped := some s.sessions.length }.endWith
        {} s.sessions.length =
        { s.endWith {} s.sessions.length with begun := 1, mapped := 1, link := 1 } := by
      unfold Runtime.endWith Runtime.linkOf
      simp only [hget, hlength, Option.bind_some, hx, if_true, Nat.lt_succ_self]
      rfl
    rw [hsame]
    exact .begin hnew
  · have hget : (s.sessions ++ [x])[id]? = s.sessions[id]? := by
      rcases Nat.lt_or_gt_of_ne heq with hlt | hgt
      · exact List.getElem?_append_left hlt
      · rw [List.getElem?_eq_none (hlength ▸ hgt), List.getElem?_eq_none (Nat.le_of_lt hgt)]
    have hbegun : id < s.sessions.length + 1 ↔ id < s.sessions.length :=
      ⟨fun h => Nat.lt_of_le_of_ne (Nat.le_of_lt_succ h) heq, Nat.lt_succ_of_lt⟩
    have hother : ¬ some s.sessions.length = some id := fun h => heq (Option.some.inj h).symm
    have hnone : ¬ (none : Option TransactionId) = some id := nofun
    have hsame : { s with sessions := s.sessions ++ [x], mapped := some s.sessions.length }.endWith
        {} id = s.endWith {} id := by
      unfold Runtime.endWith Runtime.linkOf
      simp only [hget, hlength, hmapped, hbegun, if_neg hother, if_neg hnone]
      rfl
    rw [hsame]
    exact .keep _

/-- A commit takes the link of its session. -/
theorem step_taken {s : Runtime Λ} {session : TransactionId} {x : ManualSession Λ}
    (hx : s.sessions[session]? = some x) (hlink : x.link.isSome) (id : TransactionId) :
    End.Step (s.endWith {} id) ((s.setSession session { x with link := none }).endWith
      ((Control.commitUnmap session).tokens id) id) := by
  rw [Runtime.end_with_set_session hx, Control.tokens]
  by_cases h : session = id
  · subst h
    have hbefore : (s.endWith {} session).link = 1 := by
      simp [Runtime.endWith, Runtime.linkOf, hx, hlink]
    rw [if_pos rfl, if_pos rfl]
    exact .take hbefore
  · rw [if_neg h, if_neg h]
    exact .keep _

/-- A commit that finds its session mapped unmaps it and sends the COMMIT. -/
theorem step_commit_sent {s : Runtime Λ} {session : TransactionId}
    (hmapped : s.mapped = some session) (answer : Answer) (id : TransactionId) :
    End.Step (s.endWith ((Control.commitUnmap session).tokens id) id)
      (({ s with mapped := none }.send session .commit).endWith
        ((Control.commitFinish session answer).tokens id) id) := by
  rw [Runtime.end_with_send, Runtime.end_with_unmapped, Control.tokens, Control.tokens]
  by_cases h : session = id
  · subst h
    rw [if_pos rfl, if_pos rfl, if_pos rfl]
    have hbefore : (s.endWith { holding := 1 } session).mapped = 1 := by
      simp [Runtime.endWith, hmapped]
    exact .commit hbefore Nat.one_pos
  · have hbefore : (s.endWith {} id).mapped = 0 := by simp [Runtime.endWith, hmapped, h]
    rw [if_neg h, if_neg h, if_neg h, List.append_nil, ← hbefore]
    exact .keep _

/-- An acknowledged COMMIT is published as committed. -/
theorem step_committed {s : Runtime Λ} {session : TransactionId}
    (hsession : session < s.sessions.length) (answer : Answer) (id : TransactionId) :
    End.Step (s.endWith ((Control.commitFinish session answer).tokens id) id)
      (((s.acknowledge session .commit).publishEnded session .committed).endWith {} id) := by
  have hends := Runtime.end_with_publish_ended (s := s.acknowledge session .commit) hsession
    .committed {} id
  rw [hends, Runtime.end_with_acknowledge, Control.tokens]
  by_cases h : session = id
  · subst h
    rw [if_pos rfl, if_pos rfl, if_pos rfl]
    exact .committed (e := s.endWith { committing := 1 } session) Nat.one_pos
  · rw [if_neg h, if_neg h, if_neg h, List.append_nil, List.append_nil]
    exact .keep _

/-- A COMMIT without an acknowledgement is published as one of unknown outcome. -/
theorem step_unknown {s : Runtime Λ} {session : TransactionId}
    (hsession : session < s.sessions.length) (answer : Answer) (id : TransactionId) :
    End.Step (s.endWith ((Control.commitFinish session answer).tokens id) id)
      ((s.publishEnded session .commitOutcomeUnknown).endWith {} id) := by
  rw [Runtime.end_with_publish_ended hsession, Control.tokens]
  by_cases h : session = id
  · subst h
    rw [if_pos rfl, if_pos rfl]
    exact .unknown (e := s.endWith { committing := 1 } session) Nat.one_pos
  · rw [if_neg h, if_neg h, List.append_nil]
    exact .keep _

/-- A rollback that gets the link sends the ROLLBACK. -/
theorem step_rollback_sent {s : Runtime Λ} {session : TransactionId} {x : ManualSession Λ}
    (hx : s.sessions[session]? = some x) (hlink : x.link.isSome) (locked : Bool) (cause : Cause)
    (answer : Answer) (id : TransactionId) :
    End.Step (s.endWith ((Control.rollBackLocked session cause answer).tokens id) id)
      (((s.setSession session { x with locked := locked, link := none }).send session
        .rollback).endWith ((Control.rollBackFinish session cause answer).tokens id) id) := by
  rw [Runtime.end_with_send, Runtime.end_with_set_session hx, Control.tokens, Control.tokens]
  by_cases h : session = id
  · subst h
    rw [if_pos rfl, if_pos rfl, if_pos rfl]
    have hbefore : (s.endWith { rolling := 1 } session).link = 1 := by
      simp [Runtime.endWith, Runtime.linkOf, hx, hlink]
    exact .rollback hbefore Nat.one_pos
  · rw [if_neg h, if_neg h, if_neg h, List.append_nil]
    exact .keep _

/-- The link's lock is no part of the end. -/
theorem step_locked {s : Runtime Λ} {session : TransactionId} {x : ManualSession Λ}
    (hx : s.sessions[session]? = some x) (locked : Bool) (t : Tokens) (id : TransactionId) :
    End.Step (s.endWith t id) ((s.setSession session { x with locked := locked }).endWith t id) := by
  have hlink : ({ x with locked := locked } : ManualSession Λ).link.isSome = x.link.isSome := rfl
  rw [Runtime.end_with_same_link hx hlink t id]
  exact .keep _

/-- A statement keeps the link or drops it. -/
theorem step_concluded {s : Runtime Λ} {session : TransactionId} {x : ManualSession Λ}
    (hx : s.sessions[session]? = some x) (statements : Nat) (link : Λ)
    (outcome : WorkOutcome String Unit) (id : TransactionId) :
    End.Step (s.endWith {} id) ((s.setSession session
      { (x.concluded statements link outcome).1 with locked := false }).endWith {} id) := by
  have hconcluded := x.concluded_link statements link outcome
  generalize (x.concluded statements link outcome).1 = x' at hconcluded ⊢
  rcases hconcluded with hlink | hlink
  · have hlink' : ({ x' with locked := false } : ManualSession Λ).link.isSome = x.link.isSome := hlink
    rw [Runtime.end_with_same_link hx hlink' {} id]
    exact .keep _
  · rw [Runtime.end_with_set_session hx]
    by_cases h : session = id
    · rw [if_pos h, hlink]
      exact .drop
    · rw [if_neg h]
      exact .keep _

section

variable {s s' : Runtime Λ} {control' : Control} {input : Input Λ} {spawned : List Control}

/-- The connection that was opened becomes the session's, unless another one is mapped. -/
theorem resume_begin_opening {database : Option String}
    (h : resume s (.beginOpening database) input = some (s', control', spawned))
    (id : TransactionId) :
    End.Step (s.endWith (Control.tokens id (.beginOpening database)) id)
      (s'.endWith (control'.tokens id) id) := by
  cases input <;> try cases h
  next answer =>
    cases answer with
    | error answer => obtain ⟨rfl, rfl, rfl⟩ := h; exact .keep _
    | ok opened =>
        obtain ⟨target, link⟩ := opened
        unfold resume at h
        dsimp only at h
        split at h
        · obtain ⟨rfl, rfl, rfl⟩ := h
          exact .keep _
        · next hnone =>
            obtain ⟨rfl, rfl, rfl⟩ := h
            exact step_begun hnone _ rfl id

/-- The answer about the commit lets it take the connection, or leaves the session. -/
theorem resume_commit_authority {session : TransactionId}
    (h : resume s (.commitAuthority session) input = some (s', control', spawned))
    (id : TransactionId) :
    End.Step (s.endWith (Control.tokens id (.commitAuthority session)) id)
      (s'.endWith (control'.tokens id) id) := by
  cases input <;> try cases h
  next answer =>
    cases answer with
    | refuse error => obtain ⟨rfl, rfl, rfl⟩ := h; exact .keep _
    | rollBack => obtain ⟨rfl, rfl, rfl⟩ := h; exact .keep _
    | allowed =>
        unfold resume at h
        dsimp only at h
        split at h
        · cases h
        next x hx =>
          split at h
          · obtain ⟨rfl, rfl, rfl⟩ := h
            exact .keep _
          · next x' htake =>
              obtain ⟨hlink, rfl⟩ := ManualSession.take_for_commit_ok htake
              obtain ⟨rfl, rfl, rfl⟩ := h
              exact step_taken hx hlink id

/-- The session that is to be ended is unmapped when it is the one. -/
theorem resume_end_session {expected : Option TransactionId} {reason : ForcedReason}
    {detail : String} {answer : Answer}
    (h : resume s (.endSession expected reason detail answer) input = some (s', control', spawned))
    (id : TransactionId) :
    End.Step (s.endWith (Control.tokens id (.endSession expected reason detail answer)) id)
      (s'.endWith (control'.tokens id) id) := by
  cases input <;> try cases h
  unfold resume at h
  dsimp only at h
  split at h
  · next session hmatching =>
      obtain ⟨rfl, rfl, rfl⟩ := h
      exact step_unmapped (Runtime.matching_mapped hmatching) _ _ id
  · obtain ⟨rfl, rfl, rfl⟩ := h
    exact .keep _

/-- The mapped session is unmapped when it is revoked. -/
theorem resume_revoke {reason : String}
    (h : resume s (.revoke reason) input = some (s', control', spawned))
    (id : TransactionId) :
    End.Step (s.endWith (Control.tokens id (.revoke reason)) id)
      (s'.endWith (control'.tokens id) id) := by
  cases input <;> try cases h
  unfold resume at h
  dsimp only at h
  split at h
  · next session hfound =>
      obtain ⟨rfl, rfl, rfl⟩ := h
      exact step_unmapped hfound _ _ id
  · obtain ⟨rfl, rfl, rfl⟩ := h
    exact .keep _

/-- A rollback takes the lock, or gives up on it. -/
theorem resume_roll_back {session : TransactionId} {cause : Cause} {answer : Answer}
    (h : resume s (.rollBack session cause answer) input = some (s', control', spawned))
    (hsession : session < s.sessions.length) (id : TransactionId) :
    End.Step (s.endWith (Control.tokens id (.rollBack session cause answer)) id)
      (s'.endWith (control'.tokens id) id) := by
  cases input <;> try cases h
  · unfold resume at h
    dsimp only at h
    split at h
    · next x hx =>
        split at h
        · cases h
        · obtain ⟨rfl, rfl, rfl⟩ := h
          exact step_locked hx true _ id
    · cases h
  · exact step_rolled_back hsession false cause answer id

/-- A rollback with the lock is sent on the connection, or the connection is gone. -/
theorem resume_roll_back_locked {session : TransactionId} {cause : Cause} {answer : Answer}
    (h : resume s (.rollBackLocked session cause answer) input = some (s', control', spawned))
    (hsession : session < s.sessions.length) (id : TransactionId) :
    End.Step (s.endWith (Control.tokens id (.rollBackLocked session cause answer)) id)
      (s'.endWith (control'.tokens id) id) := by
  cases input <;> try cases h
  unfold resume at h
  dsimp only at h
  split at h
  · cases h
  next x hx =>
    split at h
    · next hlink =>
        obtain ⟨rfl, rfl, rfl⟩ := h
        exact step_rollback_sent hx hlink false cause answer id
    · next hlink =>
        obtain ⟨rfl, rfl, rfl⟩ := h
        have hlink' : ({ x with locked := false, link := none } : ManualSession Λ).link.isSome =
            x.link.isSome := by
          simpa using hlink
        have hsame := Runtime.end_with_same_link hx hlink'
        have hlength : session < (s.setSession session
            { x with locked := false, link := none }).sessions.length := by
          simpa [Runtime.setSession] using hsession
        have hstep := step_rolled_back hlength false cause answer id
        rwa [hsame] at hstep

/-- A rollback ends the session whether the connection answered or not. -/
theorem resume_roll_back_finish {session : TransactionId} {cause : Cause} {answer : Answer}
    (h : resume s (.rollBackFinish session cause answer) input = some (s', control', spawned))
    (hsession : session < s.sessions.length) (id : TransactionId) :
    End.Step (s.endWith (Control.tokens id (.rollBackFinish session cause answer)) id)
      (s'.endWith (control'.tokens id) id) := by
  cases input <;> try cases h
  next error =>
    cases error with
    | none => obtain ⟨rfl, rfl, rfl⟩ := h; exact step_rolled_back hsession true cause answer id
    | some detail =>
        obtain ⟨rfl, rfl, rfl⟩ := h
        exact step_rolled_back hsession false cause answer id

/-- A call that runs statements changes no session's end yet. -/
theorem resume_statement {database : String} {statements : Nat}
    (h : resume s (.statement database statements) input = some (s', control', spawned))
    (id : TransactionId) :
    End.Step (s.endWith (Control.tokens id (.statement database statements)) id)
      (s'.endWith (control'.tokens id) id) := by
  cases input <;> try cases h
  unfold resume at h
  dsimp only at h
  split at h
  · obtain ⟨rfl, rfl, rfl⟩ := h
    exact .keep _
  · split at h
    · cases h
    · split at h <;> (obtain ⟨rfl, rfl, rfl⟩ := h; exact .keep _)

/-- The statements take the lock, or give up on it. -/
theorem resume_statement_lock {session : TransactionId} {statements : Nat}
    (h : resume s (.statementLock session statements) input = some (s', control', spawned))
    (id : TransactionId) :
    End.Step (s.endWith (Control.tokens id (.statementLock session statements)) id)
      (s'.endWith (control'.tokens id) id) := by
  cases input <;> try cases h
  · unfold resume at h
    dsimp only at h
    split at h
    · cases h
    next x hx =>
      split at h
      · cases h
      · obtain ⟨rfl, rfl, rfl⟩ := h
        exact step_locked hx true _ id
  · exact .keep _

/-- Statements that may not run any more give the lock back. -/
theorem resume_statement_locked {session : TransactionId} {statements : Nat}
    (h : resume s (.statementLocked session statements) input = some (s', control', spawned))
    (id : TransactionId) :
    End.Step (s.endWith (Control.tokens id (.statementLocked session statements)) id)
      (s'.endWith (control'.tokens id) id) := by
  cases input <;> try cases h
  unfold resume at h
  dsimp only at h
  split at h
  · cases h
  next x hx =>
    split at h
    · obtain ⟨rfl, rfl, rfl⟩ := h
      exact step_locked hx false _ id
    · obtain ⟨rfl, rfl, rfl⟩ := h
      exact .keep _

/-- Statements that have run give the connection back, or conclude the session. -/
theorem resume_statement_run {session : TransactionId} {statements : Nat}
    (h : resume s (.statementRun session statements) input = some (s', control', spawned))
    (id : TransactionId) :
    End.Step (s.endWith (Control.tokens id (.statementRun session statements)) id)
      (s'.endWith (control'.tokens id) id) := by
  cases input <;> try cases h
  next link outcome =>
    unfold resume at h
    dsimp only at h
    split at h
    · cases h
    next x hx =>
      split at h <;> (obtain ⟨rfl, rfl, rfl⟩ := h; exact step_concluded hx _ _ _ id)

end

/-- From one await point to the next, every session's end takes one step of the end protocol. -/
theorem resume_step {s s' : Runtime Λ} {control control' : Control} {input : Input Λ}
    {spawned : List Control} (h : resume s control input = some (s', control', spawned))
    (howns : s.Owns control) (hmapped : s.FindsMapped control) (id : TransactionId) :
    End.Step (s.endWith (control.tokens id) id) (s'.endWith (control'.tokens id) id) := by
  -- one case for each await point; the longer ones have a lemma of their own
  cases control with
  | begin database =>
      cases input <;> try cases h
      unfold resume at h
      dsimp only at h
      split at h <;> (obtain ⟨rfl, rfl, rfl⟩ := h; exact .keep _)
  | beginOpening database => exact resume_begin_opening h id
  | commit transaction =>
      cases input <;> try cases h
      unfold resume at h
      dsimp only at h
      split at h <;> (obtain ⟨rfl, rfl, rfl⟩ := h; exact .keep _)
  | commitAuthority session => exact resume_commit_authority h id
  | commitUnmap session =>
      cases input <;> try cases h
      have hfound : s.mapped = some session := hmapped
      simp only [Runtime.unmap, if_pos hfound]
      exact step_commit_sent hfound _ id
  | commitFinish session status =>
      have hsession : session < s.sessions.length := howns session (by simp [Control.tokens])
      cases input <;> try cases h
      next error =>
        cases error with
        | none => obtain ⟨rfl, rfl, rfl⟩ := h; exact step_committed hsession status id
        | some detail => obtain ⟨rfl, rfl, rfl⟩ := h; exact step_unknown hsession status id
  | rollback transaction =>
      cases input <;> try cases h
      unfold resume at h
      dsimp only at h
      split at h <;> (obtain ⟨rfl, rfl, rfl⟩ := h; exact .keep _)
  | rollbackUnmap session =>
      cases input <;> try cases h
      have hfound : s.mapped = some session := hmapped
      simp only [Runtime.unmap, if_pos hfound]
      exact step_unmapped hfound .user _ id
  | endSession expected reason detail answer => exact resume_end_session h id
  | revoke reason => exact resume_revoke h id
  | expiry session =>
      cases input <;> try cases h
      exact .keep _
  | status =>
      cases input <;> try cases h
      unfold resume at h
      dsimp only at h
      split at h
      · split at h <;> (obtain ⟨rfl, rfl, rfl⟩ := h; exact .keep _)
      · obtain ⟨rfl, rfl, rfl⟩ := h
        exact .keep _
  | rollBack session cause answer =>
      exact resume_roll_back h (howns session (by simp [Control.tokens])) id
  | rollBackLocked session cause answer =>
      exact resume_roll_back_locked h (howns session (by simp [Control.tokens])) id
  | rollBackFinish session cause answer =>
      exact resume_roll_back_finish h (howns session (by simp [Control.tokens])) id
  | record session action error answer =>
      cases input <;> try cases h
      next failure =>
        cases failure with
        | none => obtain ⟨rfl, rfl, rfl⟩ := h; exact .keep _
        | some failure => obtain ⟨rfl, rfl, rfl⟩ := h; exact .keep _
  | statement database statements => exact resume_statement h id
  | statementAuthority session statements =>
      cases input <;> try cases h
      next answer =>
        cases answer with
        | error error => obtain ⟨rfl, rfl, rfl⟩ := h; exact .keep _
        | ok current => cases current <;> (obtain ⟨rfl, rfl, rfl⟩ := h; exact .keep _)
  | statementLock session statements => exact resume_statement_lock h id
  | statementLocked session statements => exact resume_statement_locked h id
  | statementRun session statements => exact resume_statement_run h id
  | answered answer => cases input <;> cases h

end Dopedb.Queries
