/-!
# A connection over a database

Outside a transaction every change persists at once; inside one, changes go to a working copy that
COMMIT persists and ROLLBACK drops.
-/

namespace Dopedb.Library

universe u

/-- What persists in the database, and the working copy of the open transaction. -/
structure Connection (D : Type u) where
  persistent : D
  working : Option D := none
  deriving DecidableEq, Repr

namespace Connection

variable {D : Type u}

/-- The data that statements of the connection see. -/
def view (c : Connection D) : D := c.working.getD c.persistent

/-- `BEGIN`. -/
def begin (c : Connection D) : Connection D := { c with working := some c.persistent }

/-- A statement that changes the data. -/
def change (c : Connection D) (f : D → D) : Connection D :=
  match c.working with
  | some d => { c with working := some (f d) }
  | none => { c with persistent := f c.persistent }

/-- `COMMIT`, which does nothing outside a transaction. -/
def commit (c : Connection D) : Connection D := ⟨c.view, none⟩

/-- `ROLLBACK`, which does nothing outside a transaction. -/
def rollback (c : Connection D) : Connection D := { c with working := none }

/-- A change is seen, whether or not it persists yet. -/
@[simp] theorem view_change (c : Connection D) (f : D → D) : (c.change f).view = f c.view := by
  obtain ⟨persistent, _ | d⟩ := c <;> rfl

/-- The transaction is open, and nothing has persisted since the data were `d`. -/
def Holds (d : D) (c : Connection D) : Prop := c.persistent = d ∧ c.working.isSome

/-- A change inside the transaction persists nothing. -/
theorem Holds.change {d : D} {c : Connection D} (h : c.Holds d) (f : D → D) :
    (c.change f).Holds d := by
  obtain ⟨persistent, _ | working⟩ := c
  · exact nomatch h.2
  · exact ⟨h.1, rfl⟩

/-- A transaction that is rolled back leaves what there was before. -/
theorem Holds.rollback {d : D} {c : Connection D} (h : c.Holds d) : c.rollback = ⟨d, none⟩ := by
  unfold Connection.rollback
  rw [h.1]

end Connection

end Dopedb.Library
