import Mathlib.Logic.Relation

/-!
# Runs of a deterministic machine

A machine executes one call at a time, and a run is a list of calls. The rules below turn a
fact about one call into a fact about every run: `run_invariant` for a predicate on states,
`run_relation` for a relation between the first and the last state of a run.
`Changes` is the reflexive and transitive closure of a relation of small changes, for calls
that are a sequence of such changes.
-/

namespace Dopedb.Library

universe u v

variable {σ : Type u} {α : Type v}

/-- The state after a list of calls. -/
def run (exec : σ → α → σ) (start : σ) (calls : List α) : σ := calls.foldl exec start

@[simp] theorem run_nil (exec : σ → α → σ) (start : σ) : run exec start [] = start := rfl

@[simp] theorem run_cons (exec : σ → α → σ) (start : σ) (call : α) (calls : List α) :
    run exec start (call :: calls) = run exec (exec start call) calls := rfl

/-- A run of two lists of calls continues the first with the second. -/
theorem run_append (exec : σ → α → σ) (start : σ) (first second : List α) :
    run exec start (first ++ second) = run exec (run exec start first) second := by
  simp [run]

/-- A predicate that every call preserves holds after every run. -/
theorem run_invariant {exec : σ → α → σ} {P : σ → Prop} {start : σ} (hstart : P start)
    (hstep : ∀ s call, P s → P (exec s call)) (calls : List α) : P (run exec start calls) := by
  induction calls generalizing start with
  | nil => exact hstart
  | cons call calls ih => exact ih (hstep start call hstart)

/-- Every call of a run meets a condition in the state it is executed in. -/
def EachCall (exec : σ → α → σ) (Q : σ → α → Prop) : σ → List α → Prop
  | _, [] => True
  | s, call :: calls => Q s call ∧ EachCall exec Q (exec s call) calls

instance {exec : σ → α → σ} {Q : σ → α → Prop} [∀ s call, Decidable (Q s call)] :
    ∀ s calls, Decidable (EachCall exec Q s calls)
  | _, [] => inferInstanceAs (Decidable True)
  | s, call :: calls =>
    have : Decidable (EachCall exec Q (exec s call) calls) := instDecidableEachCall _ calls
    inferInstanceAs (Decidable (_ ∧ _))

/-- A run of two lists of calls meets a condition when each of them does in its turn. -/
theorem each_call_append {exec : σ → α → σ} {Q : σ → α → Prop} {start : σ}
    {first second : List α} (hfirst : EachCall exec Q start first)
    (hsecond : EachCall exec Q (run exec start first) second) :
    EachCall exec Q start (first ++ second) := by
  induction first generalizing start with
  | nil => exact hsecond
  | cons call calls ih => exact ⟨hfirst.1, ih hfirst.2 hsecond⟩

/-- Each part of a run meets a condition in its turn when the whole run does. -/
theorem each_call_of_append {exec : σ → α → σ} {Q : σ → α → Prop} {start : σ}
    {first second : List α} (h : EachCall exec Q start (first ++ second)) :
    EachCall exec Q start first ∧ EachCall exec Q (run exec start first) second := by
  induction first generalizing start with
  | nil => exact ⟨trivial, h⟩
  | cons call calls ih =>
      obtain ⟨hfirst, hsecond⟩ := ih h.2
      exact ⟨⟨h.1, hfirst⟩, hsecond⟩

/-- A predicate that every call preserves under a condition holds after every run whose calls meet
the condition. -/
theorem run_invariant_of {exec : σ → α → σ} {P : σ → Prop} {Q : σ → α → Prop} {start : σ}
    (hstart : P start) (hstep : ∀ s call, P s → Q s call → P (exec s call)) {calls : List α}
    (hcalls : EachCall exec Q start calls) : P (run exec start calls) := by
  induction calls generalizing start with
  | nil => exact hstart
  | cons call calls ih => exact ih (hstep start call hstart hcalls.1) hcalls.2

/-- Two conditions that agree on every call, made from a state with the invariant and under a third
condition, agree on every run whose calls meet the third; the first condition keeps the
invariant. -/
theorem each_call_iff_of {exec : σ → α → σ} {P : σ → Prop} {H Q R : σ → α → Prop}
    (hiff : ∀ s call, P s → H s call → (Q s call ↔ R s call))
    (hstep : ∀ s call, P s → Q s call → P (exec s call)) {start : σ} (hstart : P start)
    {calls : List α} (hcalls : EachCall exec H start calls) :
    EachCall exec Q start calls ↔ EachCall exec R start calls := by
  induction calls generalizing start with
  | nil => exact Iff.rfl
  | cons call calls ih =>
      have hhere := hiff start call hstart hcalls.1
      constructor
      · rintro ⟨hcall, hrest⟩
        exact ⟨hhere.mp hcall, (ih (hstep start call hstart hcall) hcalls.2).mp hrest⟩
      · rintro ⟨hcall, hrest⟩
        have hcall' := hhere.mpr hcall
        exact ⟨hcall', (ih (hstep start call hstart hcall') hcalls.2).mpr hrest⟩

/-- A condition that every call meets. -/
theorem each_call_of_forall {exec : σ → α → σ} {Q : σ → α → Prop} (h : ∀ s call, Q s call)
    (start : σ) (calls : List α) : EachCall exec Q start calls := by
  induction calls generalizing start with
  | nil => trivial
  | cons call calls ih => exact ⟨h start call, ih _⟩

/-- Two conditions that agree on every call from a state with the invariant, which the first one
keeps, agree on every run. -/
theorem each_call_iff {exec : σ → α → σ} {P : σ → Prop} {Q R : σ → α → Prop}
    (hiff : ∀ s call, P s → (Q s call ↔ R s call))
    (hstep : ∀ s call, P s → Q s call → P (exec s call)) {start : σ} (hstart : P start)
    (calls : List α) : EachCall exec Q start calls ↔ EachCall exec R start calls :=
  each_call_iff_of (H := fun _ _ => True) (fun s call hs _ => hiff s call hs) hstep hstart
    (each_call_of_forall (fun _ _ => trivial) start calls)

/-- A reflexive and transitive relation that every call respects relates the first and the last
state of every run, from a start that satisfies the invariant the calls preserve. -/
theorem run_relation {exec : σ → α → σ} {P : σ → Prop} {R : σ → σ → Prop} {start : σ}
    (hstart : P start) (hstep : ∀ s call, P s → P (exec s call))
    (hrefl : ∀ s, R s s) (htrans : ∀ {a b c}, R a b → R b c → R a c)
    (hrel : ∀ s call, P s → R s (exec s call)) (calls : List α) :
    R start (run exec start calls) := by
  induction calls generalizing start with
  | nil => exact hrefl start
  | cons call calls ih =>
      exact htrans (hrel start call hstart) (ih (hstep start call hstart))

/-- Finitely many small changes. -/
abbrev Changes (Change : σ → σ → Prop) : σ → σ → Prop := Relation.ReflTransGen Change

/-- A predicate that every small change preserves survives finitely many of them. -/
theorem Changes.invariant {Change : σ → σ → Prop} {P : σ → Prop}
    (hstep : ∀ s s', P s → Change s s' → P s') {s s' : σ} (h : Changes Change s s')
    (hs : P s) : P s' := by
  induction h with
  | refl => exact hs
  | tail _ hchange ih => exact hstep _ _ ih hchange

/-- A reflexive and transitive relation that every small change respects, under an invariant,
relates the ends of finitely many of them. -/
theorem Changes.relation {Change : σ → σ → Prop} {P : σ → Prop} {R : σ → σ → Prop}
    (hinv : ∀ s s', P s → Change s s' → P s') (hrefl : ∀ s, R s s)
    (htrans : ∀ {a b c}, R a b → R b c → R a c) (hrel : ∀ s s', P s → Change s s' → R s s')
    {s s' : σ} (h : Changes Change s s') (hs : P s) : R s s' := by
  induction h with
  | refl => exact hrefl s
  | tail hfirst hchange ih =>
      exact htrans ih (hrel _ _ (Changes.invariant hinv hfirst hs) hchange)

end Dopedb.Library
