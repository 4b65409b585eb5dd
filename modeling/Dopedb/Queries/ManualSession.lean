/-!
# Manual transaction sessions

The session record of `manual_transaction_session.rs` and the reasons a manual transaction ends
for. A session is polymorphic in the link it owns: the end protocol only moves the link around,
the execution of statements looks inside. Times are not part of the record; where the source
compares `expires_at` with the clock, the caller is told the answer.
-/

namespace Dopedb.Queries

/-- Why a manual transaction ended. -/
inductive ManualTransactionEndReason where
  | committed | rolledBack | commitOutcomeUnknown | expired | statementCancelled
  | statementTimedOut | authorityChanged | connectionChanged | workspaceChanged | applicationExit
  deriving DecidableEq, Repr

/-- Whether the transaction ended without a COMMIT or ROLLBACK of the user. -/
def ManualTransactionEndReason.forced : ManualTransactionEndReason → Bool
  | .committed | .rolledBack | .commitOutcomeUnknown => false
  | _ => true

/-- The reasons a session can be ended for without a user command. -/
abbrev ForcedReason := { reason : ManualTransactionEndReason // reason.forced = true }

/-- Why a call on a manual transaction is refused. -/
inductive ManualTransactionRefusal where
  | stale | ended | statementRunning | failed | expired | otherDatabase | authorityChanged
  | writesDisabled | readOnlyRole | unsupported | unsupportedStatement
  deriving DecidableEq, Repr

/-- Why a guarded statement was dropped before it completed. -/
inductive Abandoned where
  | cancelled | timedOut
  deriving DecidableEq, Repr

/-- The error that an abandoned statement reports; the wall-clock limit is 300 seconds. -/
def Abandoned.intoError : Abandoned → String
  | .cancelled => "query cancelled"
  | .timedOut => "query timed out after 300s and was aborted"

/-- The end reason of a session whose statement was abandoned. -/
def Abandoned.endReason : Abandoned → ForcedReason
  | .cancelled => ⟨.statementCancelled, rfl⟩
  | .timedOut => ⟨.statementTimedOut, rfl⟩

/-- Session facts read without waiting for the connection. -/
structure ManualSessionInfo where
  failed : Bool := false
  statementCount : Nat := 0
  rolledBackStatementCount : Nat := 0
  deriving DecidableEq, Repr

/-- A session: the link is absent once the transaction ended or its connection was closed, and
`locked` says that a statement holds the link's lock. -/
structure ManualSession (Λ : Type) where
  database : String
  info : ManualSessionInfo := {}
  link : Option Λ
  locked : Bool := false

/-- How the work of a statement ended: with a value, rolled back to its own savepoint, with a
savepoint that could not be restored, or dropped midway. -/
inductive WorkOutcome (ε τ : Type) where
  | completed (value : τ)
  | rolledBack (error : ε)
  | poisoned (error : ε)
  | abandoned (why : Abandoned)

/-- How a statement failed at the session level. -/
inductive SessionFailure (ε : Type) where
  | statement (error : ε)
  | abandoned (why : Abandoned)

variable {Λ ε τ : Type}

namespace ManualSession

/-- Take the connection for COMMIT without waiting behind a statement. -/
def takeForCommit (session : ManualSession Λ) :
    Except ManualTransactionRefusal (ManualSession Λ) :=
  if session.locked then .error .statementRunning
  else if session.info.failed then .error .failed
  else if session.link.isSome then .ok { session with link := none }
  else .error .ended

/-- The checks a statement passes once it holds the link's lock. -/
def admits (session : ManualSession Λ) (expired : Bool) : Option ManualTransactionRefusal :=
  if session.link.isNone then some .ended
  else if session.info.failed then some .failed
  else if expired then some .expired
  else none

/-- The session after the work of a statement, which leaves its link in place. An abandoned
statement drops the link, which closes the connection. -/
def concluded (session : ManualSession Λ) (statements : Nat) (link : Λ) :
    WorkOutcome ε τ → ManualSession Λ × Except (SessionFailure ε) τ
  | .completed value =>
    ({ session with
        link := session.link.map fun _ => link
        info := { session.info with
          statementCount := session.info.statementCount + statements } }, .ok value)
  | .rolledBack error =>
    ({ session with
        link := session.link.map fun _ => link
        info := { session.info with
          rolledBackStatementCount := session.info.rolledBackStatementCount + 1 } },
      .error (.statement error))
  | .poisoned error =>
    ({ session with
        link := session.link.map fun _ => link
        info := { session.info with failed := true } },
      .error (.statement error))
  | .abandoned why => ({ session with link := none }, .error (.abandoned why))

/-- An admitted session is neither failed nor ended. -/
theorem active_of_admits {session : ManualSession Λ} {expired : Bool}
    (h : session.admits expired = none) :
    session.info.failed = false ∧ ∃ link, session.link = some link := by
  unfold ManualSession.admits at h
  split at h
  · cases h
  · next hlink =>
      split at h
      · cases h
      · next hfailed =>
          refine ⟨by simpa using hfailed, Option.ne_none_iff_exists'.mp ?_⟩
          simpa using hlink

/-- A link taken for COMMIT was there, and it is the only thing that changes. -/
theorem take_for_commit_ok {session session' : ManualSession Λ}
    (h : session.takeForCommit = .ok session') :
    session.link.isSome ∧ session' = { session with link := none } := by
  unfold takeForCommit at h
  split at h
  · cases h
  split at h
  · cases h
  split at h
  · next hlink => exact ⟨hlink, (Except.ok.inj h).symm⟩
  · cases h

/-- The work of a statement keeps the link or drops it. -/
theorem concluded_link (session : ManualSession Λ) (statements : Nat) (link : Λ)
    (outcome : WorkOutcome ε τ) :
    (session.concluded statements link outcome).1.link.isSome = session.link.isSome ∨
      (session.concluded statements link outcome).1.link = none := by
  cases outcome with
  | completed value => exact .inl (Option.isSome_map ..)
  | rolledBack error => exact .inl (Option.isSome_map ..)
  | poisoned error => exact .inl (Option.isSome_map ..)
  | abandoned why => exact .inr rfl

end ManualSession

end Dopedb.Queries
