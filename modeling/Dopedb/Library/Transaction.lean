import Mathlib

/-!
# Transactions over a store

A `Tx ε σ α` reads and writes a store of type `σ` and may fail with an error of type `ε`, which
drops every write. `commit` runs a transaction whose answer may itself be a refusal: a failed
transaction leaves the store as it was, a completed one leaves its writes also when it refuses.
The inversion lemmas take a completed transaction apart step by step.
-/

namespace Dopedb.Library

universe u

/-- A completed sequence of fallible computations completed its first part and then its second. -/
theorem except_bind_ok {ε α β : Type u} {x : Except ε α} {f : α → Except ε β} {b : β} :
    (x >>= f) = .ok b ↔ ∃ a, x = .ok a ∧ f a = .ok b := by
  cases x <;> simp [bind, Except.bind]

/-- A list of fallible computations completes when each of them does. -/
theorem except_map_m_ok {ε α β : Type u} {f : α → Except ε β} {l : List α} {l' : List β} :
    l.mapM f = .ok l' ↔ List.Forall₂ (fun a b => f a = .ok b) l l' := by
  induction l generalizing l' with
  | nil => simp [pure, Except.pure, eq_comm]
  | cons a l ih =>
      simp only [List.mapM_cons, except_bind_ok, ih, List.forall₂_cons_left_iff]
      constructor
      · rintro ⟨b, ha, rest, hrest, h⟩
        exact ⟨b, rest, ha, hrest, (Except.ok.inj h).symm⟩
      · rintro ⟨b, rest, ha, hrest, rfl⟩
        exact ⟨b, ha, rest, hrest, rfl⟩

/-- A list of fallible computations completes with what a function says, when each of them completes
under a condition with what the function says. -/
theorem except_map_m_iff {ε α β : Type u} {f : α → Except ε β} {g : α → β} {p : α → Prop}
    (h : ∀ a b, f a = .ok b ↔ p a ∧ b = g a) {l : List α} {l' : List β} :
    l.mapM f = .ok l' ↔ (∀ a ∈ l, p a) ∧ l' = l.map g := by
  rw [except_map_m_ok]
  induction l generalizing l' with
  | nil => simp
  | cons a l ih =>
      rw [List.forall₂_cons_left_iff, List.forall_mem_cons, List.map_cons]
      constructor
      · rintro ⟨b, rest, ha, hrest, rfl⟩
        obtain ⟨hpa, rfl⟩ := (h a b).mp ha
        obtain ⟨hall, rfl⟩ := ih.mp hrest
        exact ⟨⟨hpa, hall⟩, rfl⟩
      · rintro ⟨⟨hpa, hall⟩, rfl⟩
        exact ⟨g a, l.map g, (h a _).mpr ⟨hpa, rfl⟩, ih.mpr ⟨hall, rfl⟩, rfl⟩

/-- Every result of a list of fallible computations is the result of one of them. -/
theorem except_map_m_mem {ε α β : Type u} {f : α → Except ε β} {l : List α} {l' : List β}
    (h : l.mapM f = .ok l') : ∀ b ∈ l', ∃ a ∈ l, f a = .ok b := by
  have hpairs := except_map_m_ok.mp h
  clear h
  induction hpairs with
  | nil => simp
  | @cons a b l l' hab _ ih =>
      intro c hc
      obtain rfl | hrest := List.mem_cons.mp hc
      · exact ⟨a, List.mem_cons_self, hab⟩
      · obtain ⟨found, hfound, hresult⟩ := ih c hrest
        exact ⟨found, List.mem_cons_of_mem _ hfound, hresult⟩

/-- A computation over a store that may fail. -/
abbrev Tx (ε σ α : Type u) := StateT σ (Except ε) α

namespace Tx

variable {ε σ α β : Type u}

/-- Drop the transaction with an error. -/
def fail (e : ε) : Tx ε σ α := fun _ => .error e

/-- A computation that does not touch the store. -/
def lift (x : Except ε α) : Tx ε σ α := fun s => x.map fun a => (a, s)

/-- Drop the transaction unless the condition holds. -/
def require (p : Prop) [Decidable p] (e : ε) : Tx ε σ PUnit :=
  fun s => if p then .ok (⟨⟩, s) else .error e

/-- Read the store. -/
def read : Tx ε σ σ := fun s => .ok (s, s)

/-- Replace the store by the result of a statement that may affect no row. -/
def write (update : σ → Option σ) (e : ε) : Tx ε σ PUnit :=
  fun s => match update s with
    | some s' => .ok (⟨⟩, s')
    | none => .error e

/-- Replace the store by the result of a statement that cannot fail. -/
def update (f : σ → σ) : Tx ε σ PUnit := fun s => .ok (⟨⟩, f s)

/-- A completed sequence completed its first part and then its second. -/
theorem bind_ok {x : Tx ε σ α} {f : α → Tx ε σ β} {s : σ} {r : β × σ} :
    (x >>= f) s = .ok r ↔ ∃ a s₁, x s = .ok (a, s₁) ∧ f a s₁ = .ok r := by
  change (x s).bind (fun p => f p.1 p.2) = _ ↔ _
  cases hx : x s with
  | error e => simp [Except.bind]
  | ok p =>
      simp only [Except.bind, Except.ok.injEq, Prod.ext_iff]
      constructor
      · exact fun h => ⟨_, _, ⟨rfl, rfl⟩, h⟩
      · rintro ⟨_, _, ⟨rfl, rfl⟩, h⟩
        exact h

/-- `pure` answers without touching the store. -/
@[simp] theorem pure_ok {a : α} {s : σ} {r : α × σ} :
    (pure a : Tx ε σ α) s = .ok r ↔ r = (a, s) :=
  ⟨fun h => (Except.ok.inj h).symm, fun h => congrArg _ h.symm⟩

/-- `fail` never completes. -/
@[simp] theorem fail_ok {e : ε} {s : σ} {r : α × σ} : ¬ (fail e : Tx ε σ α) s = .ok r := nofun

/-- A completed `lift` computed its value and kept the store. -/
@[simp] theorem lift_ok {x : Except ε α} {s : σ} {r : α × σ} :
    lift x s = .ok r ↔ x = .ok r.1 ∧ r.2 = s := by
  cases x with
  | error e => simp [lift, Except.map]
  | ok b =>
      simp only [lift, Except.map, Except.ok.injEq, Prod.ext_iff]
      exact and_congr_right fun _ => eq_comm

/-- A completed sequence after `lift` computed its value. -/
@[simp] theorem lift_bind_ok {x : Except ε α} {f : α → Tx ε σ β} {s : σ} {r : β × σ} :
    (lift x >>= f) s = .ok r ↔ ∃ a, x = .ok a ∧ f a s = .ok r := by
  simp only [bind_ok, lift_ok]
  constructor
  · rintro ⟨a, s₁, ⟨hx, rfl⟩, h⟩
    exact ⟨a, hx, h⟩
  · rintro ⟨a, hx, h⟩
    exact ⟨a, s, ⟨hx, rfl⟩, h⟩

/-- A completed `require` saw the condition hold and kept the store. -/
@[simp] theorem require_ok {p : Prop} [Decidable p] {e : ε} {s : σ} {r : PUnit × σ} :
    require p e s = .ok r ↔ p ∧ r.2 = s := by
  by_cases hp : p
  · simp [require, hp, Prod.ext_iff, eq_comm]
  · simp [require, hp]

/-- A completed sequence after `require` saw the condition hold. -/
@[simp] theorem require_bind_ok {p : Prop} [Decidable p] {e : ε} {f : PUnit → Tx ε σ β} {s : σ}
    {r : β × σ} : (require p e >>= f) s = .ok r ↔ p ∧ f ⟨⟩ s = .ok r := by
  simp only [bind_ok, require_ok]
  exact ⟨fun ⟨⟨⟩, _, ⟨hp, rfl⟩, h⟩ => ⟨hp, h⟩, fun ⟨hp, h⟩ => ⟨⟨⟩, s, ⟨hp, rfl⟩, h⟩⟩

/-- A sequence after `read` goes on with the store. -/
@[simp] theorem read_bind_ok {f : σ → Tx ε σ β} {s : σ} {r : β × σ} :
    (read >>= f) s = .ok r ↔ f s s = .ok r := by
  simp [bind_ok, read, and_assoc]

/-- A completed `write` affected a row. -/
@[simp] theorem write_ok {update : σ → Option σ} {e : ε} {s : σ} {r : PUnit × σ} :
    write update e s = .ok r ↔ update s = some r.2 := by
  unfold write
  split
  · next s' hupdate => simp [hupdate, Prod.ext_iff]
  · next hupdate => simp [hupdate]

/-- A completed sequence after `write` affected a row and went on with the new store. -/
@[simp] theorem write_bind_ok {update : σ → Option σ} {e : ε} {f : PUnit → Tx ε σ β} {s : σ}
    {r : β × σ} :
    (write update e >>= f) s = .ok r ↔ ∃ s₁, update s = some s₁ ∧ f ⟨⟩ s₁ = .ok r := by
  simp only [bind_ok, write_ok]
  exact ⟨fun ⟨⟨⟩, s₁, hupdate, h⟩ => ⟨s₁, hupdate, h⟩, fun ⟨s₁, hupdate, h⟩ => ⟨⟨⟩, s₁, hupdate, h⟩⟩

/-- A sequence after `update` goes on with the new store. -/
@[simp] theorem update_bind_ok {f : σ → σ} {g : PUnit → Tx ε σ β} {s : σ} {r : β × σ} :
    (update f >>= g) s = .ok r ↔ g ⟨⟩ (f s) = .ok r := by
  simp only [bind_ok, update, Except.ok.injEq, Prod.mk.injEq]
  exact ⟨fun ⟨⟨⟩, _, ⟨_, rfl⟩, h⟩ => h, fun h => ⟨⟨⟩, _, ⟨trivial, rfl⟩, h⟩⟩

/-- Run a transaction and commit it when it completes, also when its answer is a refusal. -/
def commit (tx : Tx ε σ (Except ε α)) (s : σ) : Except ε α × σ :=
  match tx s with
  | .error e => (.error e, s)
  | .ok (answer, s') => (answer, s')

/-- A committed transaction either was dropped or left the writes of its completion. -/
theorem commit_cases (tx : Tx ε σ (Except ε α)) (s : σ) :
    (∃ e, tx s = .error e ∧ commit tx s = (.error e, s)) ∨
      ∃ answer s', tx s = .ok (answer, s') ∧ commit tx s = (answer, s') := by
  cases htx : tx s with
  | error e => exact .inl ⟨e, rfl, by simp [commit, htx]⟩
  | ok p => exact .inr ⟨p.1, p.2, rfl, by simp [commit, htx]⟩

end Tx

end Dopedb.Library
