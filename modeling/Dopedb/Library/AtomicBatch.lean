import Mathlib.Logic.Basic
import Mathlib.Data.List.Basic

/-!
# Batches that consume one snapshot

A batch first selects a snapshot with its scope and then runs its statements in one transaction.
Each statement reads the snapshot, or finds none. `unmatched_batch` says that statements which
select from the scope change nothing without a snapshot, and `batch_cases` takes a committed batch
apart, so that an invariant is proved for the matched batch only.
-/

namespace Dopedb.Library

universe u

variable {ε σ π : Type u}

/-- A statement changes the store, or is aborted. -/
abbrev Statement (ε σ π : Type u) := Option π → σ → Except ε σ

/-- The statement selects from the scope, so it changes nothing without a snapshot. -/
def Gated (statement : Statement ε σ π) : Prop := ∀ store, statement none store = .ok store

/-- The statements of a batch one after the other. -/
@[simp] def runStatements : List (Statement ε σ π) → Option π → σ → Except ε σ
  | [], _, store => .ok store
  | statement :: rest, snapshot, store =>
    match statement snapshot store with
    | .error abort => .error abort
    | .ok store => runStatements rest snapshot store

/-- A batch, with the snapshot that its statements consumed. -/
def runBatch (scope : σ → Option π) (statements : List (Statement ε σ π)) (store : σ) :
    Except ε (σ × Option π) :=
  match runStatements statements (scope store) store with
  | .error abort => .error abort
  | .ok after => .ok (after, scope store)

/-- A batch that is aborted changes nothing. -/
def committed (store : σ) (result : Except ε (σ × Option π)) : σ :=
  match result with
  | .error _ => store
  | .ok (after, _) => after

/-- Gated statements change nothing without a snapshot. -/
theorem run_statements_none {statements : List (Statement ε σ π)}
    (hgated : ∀ statement ∈ statements, Gated statement) (store : σ) :
    runStatements statements none store = .ok store := by
  induction statements with
  | nil => rfl
  | cons statement rest ih =>
      have hhead : statement none store = .ok store := hgated statement (by simp) store
      simp only [runStatements, hhead]
      exact ih fun other hother => hgated other (by simp [hother])

/-- A batch whose scope selects nothing changes nothing. -/
theorem unmatched_batch {scope : σ → Option π} {statements : List (Statement ε σ π)}
    (hgated : ∀ statement ∈ statements, Gated statement) {store : σ} (hscope : scope store = none) :
    runBatch scope statements store = .ok (store, none) := by
  simp only [runBatch, hscope, run_statements_none hgated]

/-- A committed batch left the store as it was, or it found a snapshot and ran to its end. -/
theorem batch_cases {scope : σ → Option π} {statements : List (Statement ε σ π)}
    (hgated : ∀ statement ∈ statements, Gated statement) (store : σ) :
    committed store (runBatch scope statements store) = store ∨
      ∃ payload, scope store = some payload ∧
        runStatements statements (some payload) store =
          .ok (committed store (runBatch scope statements store)) := by
  cases hscope : scope store with
  | none =>
      left
      rw [unmatched_batch hgated hscope]
      rfl
  | some payload =>
      cases hrun : runStatements statements (some payload) store with
      | error abort =>
          left
          simp only [runBatch, hscope, hrun, committed]
      | ok after =>
          right
          exact ⟨payload, rfl, by simp only [runBatch, hscope, hrun, committed]⟩

/-- A batch that consumed a snapshot found it and ran to its end. -/
theorem run_batch_matched {scope : σ → Option π} {statements : List (Statement ε σ π)}
    {store after : σ} {payload : π} :
    runBatch scope statements store = .ok (after, some payload) ↔
      scope store = some payload ∧ runStatements statements (some payload) store = .ok after := by
  unfold runBatch
  constructor
  · intro h
    cases hrun : runStatements statements (scope store) store with
    | error abort =>
        rw [hrun] at h
        cases h
    | ok finished =>
        rw [hrun] at h
        simp only [Except.ok.injEq, Prod.mk.injEq] at h
        obtain ⟨rfl, hscope⟩ := h
        exact ⟨hscope, hscope ▸ hrun⟩
  · rintro ⟨hscope, hrun⟩
    simp only [hscope, hrun]

/-- The statements after the first of a batch that ran to its end. -/
theorem run_statements_cons {statement : Statement ε σ π} {rest : List (Statement ε σ π)}
    {snapshot : Option π} {store after : σ} :
    runStatements (statement :: rest) snapshot store = .ok after ↔
      ∃ between, statement snapshot store = .ok between ∧
        runStatements rest snapshot between = .ok after := by
  simp only [runStatements]
  cases statement snapshot store with
  | error abort => simp
  | ok between => simp

/-- A batch of no statements leaves the store. -/
theorem run_statements_nil {snapshot : Option π} {store after : σ} :
    runStatements ([] : List (Statement ε σ π)) snapshot store = .ok after ↔ store = after := by
  simp [runStatements]

end Dopedb.Library
