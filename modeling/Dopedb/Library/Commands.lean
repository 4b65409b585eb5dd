import Mathlib

/-!
# Commands that fail without undoing what they did

A `Command` runs over a state and ends with a value or an error; either way it leaves a state, as a
program does that returns early with an error. `Triple P x Q E` is its rule of pre- and
postconditions: from a state with `P`, the command `x` ends with a value and `Q`, or with an error
and `E`. The rules below follow the ways commands are composed.
-/

namespace Dopedb.Library

universe u v

/-- A computation over a state that may end with an error; the state survives the error. -/
def Command (ε σ : Type u) (α : Type u) := σ → Except ε α × σ

namespace Command

variable {ε ε' σ α β : Type u}

/-- End with a value. -/
protected def pure (a : α) : Command ε σ α := fun s => (.ok a, s)

/-- Run one command after another; an error of the first ends both. -/
protected def bind (x : Command ε σ α) (f : α → Command ε σ β) : Command ε σ β := fun s =>
  match x s with
  | (.ok a, s') => f a s'
  | (.error e, s') => (.error e, s')

instance : Monad (Command ε σ) where
  pure := Command.pure
  bind := Command.bind

/-- End with an error. -/
def throw (e : ε) : Command ε σ α := fun s => (.error e, s)

/-- Read the state. -/
def get : Command ε σ σ := fun s => (.ok s, s)

/-- Change the state. -/
def modify (f : σ → σ) : Command ε σ PUnit := fun s => (.ok ⟨⟩, f s)

/-- End as a result that is already there. -/
def ofExcept (x : Except ε α) : Command ε σ α := fun s => (x, s)

/-- Turn the error of a command into another error. -/
def mapError (f : ε → ε') (x : Command ε σ α) : Command ε' σ α := fun s =>
  match x s with
  | (.ok a, s') => (.ok a, s')
  | (.error e, s') => (.error (f e), s')

/-- Go on with the outcome of a command, whatever it is. -/
def attempt (x : Command ε σ α) : Command ε' σ (Except ε α) := fun s => (.ok (x s).1, (x s).2)

/-- From a state with `P`, the command ends with a value and `Q`, or with an error and `E`. -/
def Triple (P : σ → Prop) (x : Command ε σ α) (Q : α → σ → Prop) (E : ε → σ → Prop) : Prop :=
  ∀ s, P s → match x s with
    | (.ok a, s') => Q a s'
    | (.error e, s') => E e s'

variable {P P' : σ → Prop} {Q Q' : α → σ → Prop} {R : β → σ → Prop} {E E' : ε → σ → Prop}

/-- A value leaves the state as it is. -/
theorem Triple.pure {a : α} (h : ∀ s, P s → Q a s) : Triple P (Pure.pure a : Command ε σ α) Q E :=
  fun s hs => h s hs

/-- An error leaves the state as it is. -/
theorem Triple.throw {e : ε} (h : ∀ s, P s → E e s) : Triple P (Command.throw e) Q E :=
  fun s hs => h s hs

/-- The postcondition of the first command is the precondition of the second. -/
theorem Triple.bind {x : Command ε σ α} {f : α → Command ε σ β} (hx : Triple P x Q E)
    (hf : ∀ a, Triple (Q a) (f a) R E) : Triple P (x >>= f) R E := by
  intro s hs
  have hfirst := hx s hs
  show match Command.bind x f s with | (.ok a, s') => R a s' | (.error e, s') => E e s'
  unfold Command.bind
  split at hfirst
  · next a s' heq => exact hf a s' hfirst
  · next e s' heq => exact hfirst

/-- A stronger precondition and weaker postconditions. -/
theorem Triple.weaken {x : Command ε σ α} (h : Triple P x Q E) (hP : ∀ s, P' s → P s)
    (hQ : ∀ a s, Q a s → Q' a s) (hE : ∀ e s, E e s → E' e s) : Triple P' x Q' E' := by
  intro s hs
  have hx := h s (hP s hs)
  split at hx
  · next a s' heq => exact hQ a s' hx
  · next e s' heq => exact hE e s' hx

/-- Reading the state. -/
theorem Triple.get {Q : σ → σ → Prop} (h : ∀ s, P s → Q s s) :
    Triple P (Command.get : Command ε σ σ) Q E :=
  fun s hs => h s hs

/-- Changing the state. -/
theorem Triple.modify {f : σ → σ} {Q : PUnit → σ → Prop} (h : ∀ s, P s → Q ⟨⟩ (f s)) :
    Triple P (Command.modify f : Command ε σ PUnit) Q E :=
  fun s hs => h s hs

/-- A result that is already there. -/
theorem Triple.ofExcept {x : Except ε α} (hok : ∀ a s, x = .ok a → P s → Q a s)
    (herror : ∀ e s, x = .error e → P s → E e s) : Triple P (Command.ofExcept x) Q E := by
  intro s hs
  cases x with
  | ok a => exact hok a s rfl hs
  | error e => exact herror e s rfl hs

/-- A command under another error. -/
theorem Triple.mapError {f : ε → ε'} {E' : ε' → σ → Prop} {x : Command ε σ α}
    (h : Triple P x Q fun e s => E' (f e) s) : Triple P (x.mapError f) Q E' := by
  intro s hs
  have hx := h s hs
  unfold Command.mapError
  split at hx
  · next a s' heq => exact hx
  · next e s' heq => exact hx

/-- Going on after an error: both outcomes are the value. -/
theorem Triple.attempt {x : Command ε σ α} {E' : ε' → σ → Prop} (h : Triple P x Q E) :
    Triple P (Command.attempt x)
      (fun outcome s => match outcome with | .ok a => Q a s | .error e => E e s) E' := by
  intro s hs
  have hx := h s hs
  unfold Command.attempt
  split at hx
  · next a s' heq => simpa [heq] using hx
  · next e s' heq => simpa [heq] using hx

/-- A precondition that fixes something about the state. -/
theorem Triple.exists {ι : Sort v} {P : ι → σ → Prop} {x : Command ε σ α}
    (h : ∀ i, Triple (P i) x Q E) : Triple (fun s => ∃ i, P i s) x Q E :=
  fun s ⟨i, hi⟩ => h i s hi

/-- A precondition of two cases. -/
theorem Triple.or {x : Command ε σ α} (h : Triple P x Q E) (h' : Triple P' x Q E) :
    Triple (fun s => P s ∨ P' s) x Q E :=
  fun s hs => hs.elim (h s) (h' s)

/-- A precondition with a fact that does not concern the state. -/
theorem Triple.assume {φ : Prop} {x : Command ε σ α} (h : φ → Triple P x Q E) :
    Triple (fun s => φ ∧ P s) x Q E :=
  fun s ⟨hφ, hs⟩ => h hφ s hs

/-- Case distinction on a condition. -/
theorem Triple.ite {c : Prop} [Decidable c] {x y : Command ε σ α} (hx : c → Triple P x Q E)
    (hy : ¬ c → Triple P y Q E) : Triple P (if c then x else y) Q E := by
  split
  · next h => exact hx h
  · next h => exact hy h

end Command

end Dopedb.Library
