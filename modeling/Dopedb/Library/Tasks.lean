import Mathlib.Algebra.Order.BigOperators.Group.List
import Mathlib.Algebra.Order.Ring.Nat
import Dopedb.Library.Runs

/-!
# Tasks that interleave at await points

A pool holds a shared state and the control points of the tasks that run over it. A task runs
alone from one await point to the next, so one move of the pool starts a task or resumes one.
`total` adds up a weight over the control points, which is how an invariant counts the tasks that
hold a token; `move_cases` says once what a move can do.
-/

namespace Dopedb.Library

universe u v w

variable {σ : Type u} {π : Type v} {ι : Type w}

/-! ## Weights of control points -/

/-- The weight of all control points of a pool. -/
def total (weight : π → Nat) (tasks : List π) : Nat := (tasks.map weight).sum

@[simp] theorem total_nil (weight : π → Nat) : total weight [] = 0 := rfl

@[simp] theorem total_cons (weight : π → Nat) (p : π) (tasks : List π) :
    total weight (p :: tasks) = weight p + total weight tasks := by
  simp [total]

@[simp] theorem total_append (weight : π → Nat) (first second : List π) :
    total weight (first ++ second) = total weight first + total weight second := by
  simp [total]

/-- Moving one task exchanges its weight. -/
theorem total_set (weight : π → Nat) {tasks : List π} {task : Nat} {p : π}
    (h : tasks[task]? = some p) (p' : π) :
    total weight (tasks.set task p') + weight p = total weight tasks + weight p' := by
  induction tasks generalizing task with
  | nil => simp at h
  | cons first tasks ih =>
      cases task with
      | zero =>
          have hfirst : first = p := by simpa using h
          rw [List.set_cons_zero, total_cons, total_cons, hfirst]
          omega
      | succ task =>
          have hrest := ih (by simpa using h)
          rw [List.set_cons_succ, total_cons, total_cons]
          omega

/-- A task weighs at most as much as all tasks. -/
theorem weight_le_total (weight : π → Nat) {tasks : List π} {task : Nat} {p : π}
    (h : tasks[task]? = some p) : weight p ≤ total weight tasks := by
  have hmem : p ∈ tasks := List.mem_of_getElem? h
  exact List.le_sum_of_mem (List.mem_map_of_mem hmem)

/-- Two tasks with one control point each weigh at most as much as all tasks. -/
theorem weight_add_le_total (weight : π → Nat) {tasks : List π} {task task' : Nat} {p p' : π}
    (h : tasks[task]? = some p) (h' : tasks[task']? = some p') (hne : task ≠ task') :
    weight p + weight p' ≤ total weight tasks := by
  induction tasks generalizing task task' with
  | nil => simp at h
  | cons first tasks ih =>
      cases task with
      | zero =>
          cases task' with
          | zero => exact absurd rfl hne
          | succ task' =>
              have hrest := weight_le_total weight (p := p') (by simpa using h')
              have hfirst : first = p := by simpa using h
              rw [total_cons, hfirst]
              omega
      | succ task =>
          cases task' with
          | zero =>
              have hrest := weight_le_total weight (p := p) (by simpa using h)
              have hfirst : first = p' := by simpa using h'
              rw [total_cons, hfirst]
              omega
          | succ task' =>
              have hrest := ih (by simpa using h) (by simpa using h') (by omega)
              rw [total_cons]
              omega

/-- Nothing weighs anything exactly when no task does. -/
theorem total_eq_zero {weight : π → Nat} {tasks : List π} :
    total weight tasks = 0 ↔ ∀ p ∈ tasks, weight p = 0 := by
  simp [total, List.sum_eq_zero_iff]

/-- The order of the tasks does not matter to their weight. -/
theorem total_perm (weight : π → Nat) {tasks tasks' : List π} (h : tasks.Perm tasks') :
    total weight tasks = total weight tasks' :=
  (h.map weight).sum_eq

/-- A task and the others, before and after it moves. -/
theorem others_of_task {tasks : List π} {task : Nat} {p : π} (h : tasks[task]? = some p) :
    ∃ others, tasks.Perm (p :: others) ∧
      ∀ p' spawned, (tasks.set task p' ++ spawned).Perm (p' :: (spawned ++ others)) := by
  induction tasks generalizing task with
  | nil => simp at h
  | cons first tasks ih =>
      cases task with
      | zero =>
          obtain rfl : first = p := by simpa using h
          exact ⟨tasks, .refl _, fun p' spawned => .cons p' List.perm_append_comm⟩
      | succ task =>
          obtain ⟨others, hbefore, hafter⟩ := ih (by simpa using h)
          refine ⟨first :: others, (hbefore.cons first).trans (.swap p first others), ?_⟩
          intro p' spawned
          have hswap := List.Perm.swap p' first (spawned ++ others)
          have hmiddle : (first :: (spawned ++ others)).Perm (spawned ++ first :: others) :=
            List.perm_middle.symm
          exact ((hafter p' spawned).cons first).trans (hswap.trans (hmiddle.cons p'))

/-! ## Pools -/

/-- A shared state and the control points of the tasks that run over it. -/
structure Pool (σ : Type u) (π : Type v) where
  shared : σ
  tasks : List π

/-- One move of a pool: a new task, or the next stretch of a task with what it learns there. -/
inductive Move (π : Type v) (ι : Type w) where
  | start (p : π)
  | resume (task : Nat) (input : ι)

/-- What a task does up to its next await point: the shared state it leaves, its next control
point, and the tasks it spawns; nothing while it cannot move. -/
abbrev Resume (σ : Type u) (π : Type v) (ι : Type w) := σ → π → ι → Option (σ × π × List π)

/-- A pool after a move. A move that is not possible changes nothing. -/
def Pool.move (resume : Resume σ π ι) (s : Pool σ π) : Move π ι → Pool σ π
  | .start p => { s with tasks := s.tasks ++ [p] }
  | .resume task input =>
    match s.tasks[task]? with
    | none => s
    | some p =>
      match resume s.shared p input with
      | none => s
      | some (shared, p', spawned) => ⟨shared, s.tasks.set task p' ++ spawned⟩

/-- A move starts a task, changes nothing, or carries one task to its next await point. -/
theorem move_cases (resume : Resume σ π ι) (s : Pool σ π) (move : Move π ι) :
    (∃ p, move = .start p ∧ s.move resume move = { s with tasks := s.tasks ++ [p] }) ∨
    s.move resume move = s ∨
    ∃ task input p shared p' spawned, move = .resume task input ∧ s.tasks[task]? = some p ∧
      resume s.shared p input = some (shared, p', spawned) ∧
      s.move resume move = ⟨shared, s.tasks.set task p' ++ spawned⟩ := by
  cases move with
  | start p => exact .inl ⟨p, rfl, rfl⟩
  | resume task input =>
      right
      simp only [Pool.move]
      cases htask : s.tasks[task]? with
      | none => exact .inl rfl
      | some p =>
          cases hresume : resume s.shared p input with
          | none => exact .inl (by simp [hresume])
          | some next =>
              obtain ⟨shared, p', spawned⟩ := next
              exact .inr ⟨task, input, p, shared, p', spawned, rfl, htask, hresume, by
            simp [hresume]⟩

/-- A control point after a task has moved is one of the others or one the move produced. -/
theorem mem_moved {tasks : List π} {task : Nat} {p' q : π} {spawned : List π}
    (h : q ∈ tasks.set task p' ++ spawned) : q ∈ tasks ∨ q = p' ∨ q ∈ spawned := by
  rcases List.mem_append.mp h with h | h
  · rcases List.mem_or_eq_of_mem_set h with h | h
    · exact .inl h
    · exact .inr (.inl h)
  · exact .inr (.inr h)

end Dopedb.Library
