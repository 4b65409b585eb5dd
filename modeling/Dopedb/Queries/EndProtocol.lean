import Dopedb.Queries.ManualTransaction

/-!
# The end of a manual transaction, abstractly

`End` is the protocol of one session's end: a session is mapped, then some call is ending it, then
its end is published, and its link is there, then in the hand of a commit, then used for one COMMIT
or ROLLBACK. Both are tokens that are never doubled, and `End.Inv` follows from that.
-/

namespace Dopedb.Queries

/-- One session's end: `begun`, `mapped` and `link` are 0 or 1, the next three count the calls that
are rolling it back, hold its link for COMMIT, or wait for the COMMIT. -/
structure End where
  begun : Nat := 0
  mapped : Nat := 0
  link : Nat := 0
  rolling : Nat := 0
  holding : Nat := 0
  committing : Nat := 0
  sent : List Boundary := []
  acknowledged : List Boundary := []
  published : List ManualTransactionEndReason := []

/-- A published reason is true of what was sent on the connection and what was acknowledged there. -/
def Truthful (sent acknowledged : List Boundary) : ManualTransactionEndReason → Prop
  | .committed => .commit ∈ acknowledged
  | .commitOutcomeUnknown => .commit ∈ sent ∧ .commit ∉ acknowledged
  | _ => .commit ∉ sent

/-- The audit action that goes with a published reason. -/
def ManualTransactionEndReason.action : ManualTransactionEndReason → BoundaryAction
  | .committed => .commit
  | .commitOutcomeUnknown => .commitOutcomeUnknown
  | .rolledBack => .rollback
  | _ => .forcedRollback

/-- An audit action is true of what was sent on the connection and what was acknowledged there. -/
def TruthfulAction (sent acknowledged : List Boundary) : BoundaryAction → Prop
  | .commit => .commit ∈ acknowledged
  | .commitOutcomeUnknown => .commit ∈ sent ∧ .commit ∉ acknowledged
  | .rollback | .forcedRollback => .commit ∉ sent

/-- The audit action of a true reason is true. -/
theorem Truthful.action {sent acknowledged : List Boundary} {reason : ManualTransactionEndReason}
    (h : Truthful sent acknowledged reason) : TruthfulAction sent acknowledged reason.action := by
  cases reason <;> exact h

namespace End

/-- The steps of the end protocol. A COMMIT is sent by the call that unmaps the session. -/
inductive Step : End → End → Prop where
  | keep (e : End) : Step e e
  | begin {e : End} (h : e.begun = 0) : Step e { e with begun := 1, mapped := 1, link := 1 }
  | unmap {e : End} (h : e.mapped = 1) : Step e { e with mapped := 0, rolling := e.rolling + 1 }
  | take {e : End} (h : e.link = 1) : Step e { e with link := 0, holding := e.holding + 1 }
  | drop {e : End} : Step e { e with link := 0 }
  | commit {e : End} (hmapped : e.mapped = 1) (h : 0 < e.holding) :
      Step e { e with
        mapped := 0
        holding := e.holding - 1
        committing := e.committing + 1
        sent := e.sent ++ [.commit] }
  | rollback {e : End} (h : e.link = 1) (hrolling : 0 < e.rolling) :
      Step e { e with link := 0, sent := e.sent ++ [.rollback] }
  | committed {e : End} (h : 0 < e.committing) :
      Step e { e with
        committing := e.committing - 1
        acknowledged := e.acknowledged ++ [.commit]
        published := e.published ++ [.committed] }
  | unknown {e : End} (h : 0 < e.committing) :
      Step e { e with
        committing := e.committing - 1
        published := e.published ++ [.commitOutcomeUnknown] }
  | rolledBack {e : End} (h : 0 < e.rolling) (answers : List Boundary)
      (hanswers : .commit ∉ answers) (reason : ManualTransactionEndReason)
      (hreason : reason ≠ .committed ∧ reason ≠ .commitOutcomeUnknown) :
      Step e { e with
        rolling := e.rolling - 1
        acknowledged := e.acknowledged ++ answers
        published := e.published ++ [reason] }

/-- The end of a begun session is one token, its link another one, and a COMMIT that was sent is
accounted for by the call that waits for it or by what was published. -/
structure Inv (e : End) : Prop where
  token : e.mapped + e.rolling + e.committing + e.published.length = e.begun
  once : e.begun ≤ 1
  link : e.link + e.holding + e.sent.length ≤ e.begun
  waiting : 0 < e.committing → .commit ∈ e.sent ∧ .commit ∉ e.acknowledged
  accounted : .commit ∈ e.sent →
    0 < e.committing ∨ .committed ∈ e.published ∨ .commitOutcomeUnknown ∈ e.published
  acknowledged : .commit ∈ e.acknowledged → .commit ∈ e.sent
  truthful : ∀ reason ∈ e.published, Truthful e.sent e.acknowledged reason

/-- Reasons other than the two of a COMMIT are true when no COMMIT was sent. -/
theorem truthful_other {sent acknowledged : List Boundary} {reason : ManualTransactionEndReason}
    (hreason : reason ≠ .committed ∧ reason ≠ .commitOutcomeUnknown) (h : .commit ∉ sent) :
    Truthful sent acknowledged reason := by
  cases reason <;> first | exact h | exact absurd rfl hreason.1 | exact absurd rfl hreason.2

/-- Every step of the end protocol keeps the invariant. -/
theorem Inv.step {e e' : End} (hinv : Inv e) (h : Step e e') : Inv e' := by
  obtain ⟨htoken, honce, hlink, hwaiting, haccounted, hacknowledged, htruthful⟩ := hinv
  cases h with
  | keep => exact ⟨htoken, honce, hlink, hwaiting, haccounted, hacknowledged, htruthful⟩
  | begin h =>
      refine ⟨?_, Nat.le_refl 1, ?_, hwaiting, haccounted, hacknowledged, htruthful⟩
      · show 1 + e.rolling + e.committing + e.published.length = 1
        omega
      · show 1 + e.holding + e.sent.length ≤ 1
        omega
  | unmap hmapped =>
      exact ⟨by simp only; omega, honce, hlink, hwaiting, haccounted, hacknowledged, htruthful⟩
  | take h =>
      exact ⟨htoken, honce, by simp only; omega, hwaiting, haccounted, hacknowledged, htruthful⟩
  | drop =>
      exact ⟨htoken, honce, by simp only; omega, hwaiting, haccounted, hacknowledged, htruthful⟩
  | commit hmapped h =>
      -- The session was mapped, so nothing was published, and its link was in hand, so nothing
      -- was sent.
      have hpublished : e.published = [] := List.length_eq_zero_iff.mp (by omega)
      have hsent : e.sent = [] := List.length_eq_zero_iff.mp (by omega)
      have hno : Boundary.commit ∉ e.acknowledged := by
        intro hmem
        have := hacknowledged hmem
        simp [hsent] at this
      refine ⟨by simp only; omega, honce, ?_, fun _ => ⟨by simp, hno⟩, fun _ => .inl ?_, ?_, ?_⟩
      · simp only [List.length_append, List.length_singleton]
        omega
      · show 0 < e.committing + 1
        omega
      · exact fun hmem => absurd hmem hno
      · simp [hpublished]
  | rollback h hrolling =>
      have hcommitting : e.committing = 0 := by omega
      have hpublished : e.published = [] := List.length_eq_zero_iff.mp (by omega)
      have hsent : e.sent = [] := List.length_eq_zero_iff.mp (by omega)
      refine ⟨htoken, honce, ?_, fun h => absurd h (by simp only; omega), ?_, ?_, ?_⟩
      · simp only [List.length_append, List.length_singleton]
        omega
      · simp [hsent]
      · intro hmem
        have := hacknowledged hmem
        simp [hsent] at this
      · simp [hpublished]
  | committed h =>
      have hpublished : e.published = [] := List.length_eq_zero_iff.mp (by omega)
      have hcommitting : e.committing = 1 := by omega
      refine ⟨?_, honce, hlink, fun h => absurd h (by simp only; omega), ?_, ?_, ?_⟩
      · simp only [List.length_append, List.length_singleton]
        omega
      · exact fun _ => .inr (.inl (by simp))
      · exact fun _ => (hwaiting h).1
      · intro reason hreason
        obtain rfl : reason = .committed := by simpa [hpublished] using hreason
        exact List.mem_append_right _ (List.mem_singleton.mpr rfl)
  | unknown h =>
      have hpublished : e.published = [] := List.length_eq_zero_iff.mp (by omega)
      have hcommitting : e.committing = 1 := by omega
      refine ⟨?_, honce, hlink, fun h => absurd h (by simp only; omega), ?_, hacknowledged, ?_⟩
      · simp only [List.length_append, List.length_singleton]
        omega
      · exact fun _ => .inr (.inr (by simp))
      · intro reason hreason
        obtain rfl : reason = .commitOutcomeUnknown := by simpa [hpublished] using hreason
        exact hwaiting h
  | rolledBack h answers hanswers reason hreason =>
      have hpublished : e.published = [] := List.length_eq_zero_iff.mp (by omega)
      have hcommitting : e.committing = 0 := by omega
      have hno : Boundary.commit ∉ e.sent := by
        intro hmem
        have := haccounted hmem
        simp [hpublished, hcommitting] at this
      refine ⟨?_, honce, hlink, fun h => absurd h (by simp only; omega),
        fun hmem => absurd hmem hno, ?_, ?_⟩
      · simp only [List.length_append, List.length_singleton]
        omega
      · intro hmem
        rcases List.mem_append.mp hmem with hmem | hmem
        · exact hacknowledged hmem
        · exact absurd hmem hanswers
      · intro other hother
        obtain rfl : other = reason := by simpa [hpublished] using hother
        exact truthful_other hreason hno

/-- The end protocol with more calls in flight. -/
def add (e : End) (rolling holding committing : Nat) : End :=
  { e with
    rolling := e.rolling + rolling
    holding := e.holding + holding
    committing := e.committing + committing }

/-- A step stays one while other calls are in flight. -/
theorem Step.add {e e' : End} (h : Step e e') (rolling holding committing : Nat) :
    Step (e.add rolling holding committing) (e'.add rolling holding committing) := by
  cases h with
  | keep => exact .keep _
  | begin h => exact .begin h
  | unmap hmapped =>
      have hstep := Step.unmap (e := e.add rolling holding committing) hmapped
      simpa only [End.add, Nat.add_right_comm] using hstep
  | take h =>
      have hstep := Step.take (e := e.add rolling holding committing) h
      simpa only [End.add, Nat.add_right_comm] using hstep
  | drop => exact .drop
  | commit hmapped h =>
      have hstep := Step.commit (e := e.add rolling holding committing) hmapped (by
        show 0 < e.holding + holding
        omega)
      simpa only [End.add, Nat.add_right_comm, Nat.sub_add_comm h] using hstep
  | rollback h hrolling =>
      exact .rollback h (by
        show 0 < e.rolling + rolling
        omega)
  | committed h =>
      have hstep := Step.committed (e := e.add rolling holding committing) (by
        show 0 < e.committing + committing
        omega)
      simpa only [End.add, Nat.sub_add_comm h] using hstep
  | unknown h =>
      have hstep := Step.unknown (e := e.add rolling holding committing) (by
        show 0 < e.committing + committing
        omega)
      simpa only [End.add, Nat.sub_add_comm h] using hstep
  | rolledBack h answers hanswers reason hreason =>
      have hstep := Step.rolledBack (e := e.add rolling holding committing) (by
        show 0 < e.rolling + rolling
        omega) answers hanswers reason hreason
      simpa only [End.add, Nat.sub_add_comm h] using hstep

end End

end Dopedb.Queries
