import Mathlib

/-!
# Savepoints

A state with a stack of named savepoints, the newest first. A savepoint may shadow an earlier one
of its name; rolling back to a name restores what the newest savepoint of that name saved and keeps
it, releasing a name drops that savepoint and the ones after it.
-/

namespace Dopedb.Library

universe u v

/-- A current state over a stack of savepoints. -/
structure Savepoints (ν : Type u) (α : Type v) where
  current : α
  saved : List (ν × α) := []

namespace Savepoints

variable {ν : Type u} {α : Type v} [DecidableEq ν]

/-- What the newest savepoint of a name saved, and the savepoints before it. -/
def newest (name : ν) : List (ν × α) → Option (α × List (ν × α))
  | [] => none
  | (name', a) :: older => if name' = name then some (a, older) else newest name older

/-- `SAVEPOINT`. -/
def save (s : Savepoints ν α) (name : ν) : Savepoints ν α :=
  { s with saved := (name, s.current) :: s.saved }

/-- `ROLLBACK TO SAVEPOINT`, which keeps the savepoint. -/
def rollbackTo (s : Savepoints ν α) (name : ν) : Option (Savepoints ν α) :=
  (newest name s.saved).map fun (a, older) => ⟨a, (name, a) :: older⟩

/-- `RELEASE SAVEPOINT`, which drops the savepoint and keeps the state. -/
def release (s : Savepoints ν α) (name : ν) : Option (Savepoints ν α) :=
  (newest name s.saved).map fun (_, older) => { s with saved := older }

/-- Savepoints of other names do not hide one. -/
theorem newest_append {name : ν} {later : List (ν × α)} (h : ∀ entry ∈ later, entry.1 ≠ name)
    (a : α) (older : List (ν × α)) :
    newest name (later ++ (name, a) :: older) = some (a, older) := by
  induction later with
  | nil => exact if_pos rfl
  | cons entry later ih =>
      have hentry : entry.1 ≠ name := h entry List.mem_cons_self
      rw [List.cons_append, newest, if_neg hentry]
      exact ih fun other hother => h other (List.mem_cons_of_mem _ hother)

/-- Rolling back through savepoints of other names. -/
theorem rollback_to_append {name : ν} {later : List (ν × α)} (h : ∀ entry ∈ later, entry.1 ≠ name)
    (current a : α) (older : List (ν × α)) :
    rollbackTo ⟨current, later ++ (name, a) :: older⟩ name = some ⟨a, (name, a) :: older⟩ := by
  rw [rollbackTo, newest_append h]
  rfl

/-- Rolling back to the newest savepoint. -/
@[simp] theorem rollback_to_cons (name : ν) (current a : α) (older : List (ν × α)) :
    rollbackTo ⟨current, (name, a) :: older⟩ name = some ⟨a, (name, a) :: older⟩ :=
  rollback_to_append (List.forall_mem_nil _) current a older

/-- Releasing the newest savepoint. -/
@[simp] theorem release_cons (name : ν) (current a : α) (older : List (ν × α)) :
    release ⟨current, (name, a) :: older⟩ name = some ⟨current, older⟩ := by
  rw [release, newest, if_pos rfl]
  rfl

end Savepoints

end Dopedb.Library
