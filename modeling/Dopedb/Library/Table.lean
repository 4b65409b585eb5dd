import Mathlib.Data.List.Nodup

/-!
# Tables with a primary key

A `Table key` is a list of rows in insertion order whose keys are pairwise different, the
shape of a SQL table with a primary key. Inserting fails when the key is taken, and an
update reaches at most the one row that holds the key, so the number of affected rows is
zero or one. The lemmas say what an insertion and an update leave visible to `find?`.
-/

namespace Dopedb.Library

universe u v

/-- Rows in insertion order with pairwise different keys. -/
structure Table {ρ : Type u} {κ : Type v} (key : ρ → κ) where
  rows : List ρ
  unique : (rows.map key).Nodup

namespace Table

variable {ρ : Type u} {κ : Type v} {key : ρ → κ}

/-- The table without rows. -/
def empty : Table key := ⟨[], by simp⟩

/-- Membership of a row in a table. -/
instance : Membership ρ (Table key) := ⟨fun t r => r ∈ t.rows⟩

@[simp] theorem mem_rows {t : Table key} {r : ρ} : r ∈ t.rows ↔ r ∈ t := Iff.rfl

@[simp] theorem not_mem_empty {r : ρ} : r ∉ (empty : Table key) := by
  intro h
  exact List.not_mem_nil h

/-- Two rows of a table that share their key are the same row. -/
theorem eq_of_key_eq {t : Table key} {r r' : ρ} (hr : r ∈ t) (hr' : r' ∈ t)
    (hkey : key r = key r') : r = r' :=
  List.inj_on_of_nodup_map t.unique hr hr' hkey

/-- Adding a row of a fresh key keeps the keys different. -/
theorem nodup_append_fresh {t : Table key} {r : ρ} (h : key r ∉ t.rows.map key) :
    ((t.rows ++ [r]).map key).Nodup := by
  rw [List.map_append, List.map_singleton, ← List.concat_eq_append]
  exact List.Nodup.concat h t.unique

variable [DecidableEq κ]

/-- The row with the given key, when there is one. -/
def find? (t : Table key) (k : κ) : Option ρ := t.rows.find? fun r => key r = k

/-- `find?` returns exactly the row of the table that holds the key. -/
theorem find?_eq_some {t : Table key} {k : κ} {r : ρ} :
    t.find? k = some r ↔ r ∈ t ∧ key r = k := by
  constructor
  · intro h
    exact ⟨List.mem_of_find?_eq_some h, by simpa using List.find?_some h⟩
  · rintro ⟨hr, rfl⟩
    cases hfind : t.find? (key r) with
    | none =>
        have hnone := List.find?_eq_none.mp hfind r hr
        simp at hnone
    | some r' =>
        have hr' : r' ∈ t := List.mem_of_find?_eq_some hfind
        have hkey : key r' = key r := by simpa using List.find?_some hfind
        rw [eq_of_key_eq hr' hr hkey]

/-- `find?` fails exactly when no row holds the key. -/
theorem find?_eq_none {t : Table key} {k : κ} : t.find? k = none ↔ ∀ r ∈ t, key r ≠ k := by
  simp [find?, List.find?_eq_none]

/-- Insert a row at the end, unless its key is taken. -/
def insert (t : Table key) (r : ρ) : Option (Table key) :=
  if h : key r ∈ t.rows.map key then none else some ⟨t.rows ++ [r], nodup_append_fresh h⟩

/-- A successful insertion adds the row at the end of a table that did not hold its key. -/
theorem insert_eq_some {t t' : Table key} {r : ρ} (h : t.insert r = some t') :
    t'.rows = t.rows ++ [r] ∧ ∀ x ∈ t, key x ≠ key r := by
  unfold insert at h
  split at h
  · cases h
  · next hfresh =>
      cases h
      refine ⟨rfl, fun x hx heq => hfresh ?_⟩
      exact List.mem_map.mpr ⟨x, hx, heq⟩

/-- An insertion succeeds when no row holds the key. -/
theorem insert_isSome {t : Table key} {r : ρ} (h : ∀ x ∈ t, key x ≠ key r) :
    (t.insert r).isSome := by
  have hfresh : key r ∉ t.rows.map key := by
    rintro hmem
    obtain ⟨x, hx, heq⟩ := List.mem_map.mp hmem
    exact h x hx heq
  simp [insert, hfresh]

/-- The rows after a successful insertion. -/
theorem mem_insert {t t' : Table key} {r x : ρ} (h : t.insert r = some t') :
    x ∈ t' ↔ x ∈ t ∨ x = r := by
  rw [← mem_rows, (insert_eq_some h).1]
  simp

/-- Rows of other keys are found as before an insertion. -/
theorem find?_insert_of_ne {t t' : Table key} {r : ρ} {k : κ} (h : t.insert r = some t')
    (hne : key r ≠ k) : t'.find? k = t.find? k := by
  simp [find?, (insert_eq_some h).1, List.find?_append, hne]

/-- The inserted row is found under its key. -/
theorem find?_insert_self {t t' : Table key} {r : ρ} (h : t.insert r = some t') :
    t'.find? (key r) = some r :=
  find?_eq_some.mpr ⟨(mem_insert h).mpr (.inr rfl), rfl⟩

/-- Rewrite the row that holds the key by a function that keeps keys. -/
def modify (t : Table key) (k : κ) (f : ρ → ρ) (hf : ∀ r, key (f r) = key r) : Table key :=
  ⟨t.rows.map fun r => if key r = k then f r else r, by
    have hkeys : (t.rows.map fun r => if key r = k then f r else r).map key = t.rows.map key := by
      simp only [List.map_map, List.map_inj_left, Function.comp_apply]
      intro r _
      split
      · exact hf r
      · rfl
    rw [hkeys]
    exact t.unique⟩

variable {f : ρ → ρ} {hf : ∀ r, key (f r) = key r}

/-- The rows after an update are the rewritten row and the rows of other keys. -/
theorem mem_modify {t : Table key} {k : κ} {x : ρ} :
    x ∈ t.modify k f hf ↔ ∃ r ∈ t, x = if key r = k then f r else r := by
  rw [← mem_rows]
  simp [modify, eq_comm]

/-- A row of another key is found as before an update. -/
theorem find?_modify_of_ne {t : Table key} {k k' : κ} (hne : k ≠ k') :
    (t.modify k f hf).find? k' = t.find? k' := by
  cases hfind : t.find? k' with
  | none =>
      rw [find?_eq_none] at hfind ⊢
      rintro x hx
      obtain ⟨r, hr, rfl⟩ := mem_modify.mp hx
      split
      · rw [hf r]
        exact hfind r hr
      · exact hfind r hr
  | some r =>
      obtain ⟨hr, hkey⟩ := find?_eq_some.mp hfind
      refine find?_eq_some.mpr ⟨mem_modify.mpr ⟨r, hr, ?_⟩, hkey⟩
      rw [if_neg]
      rintro rfl
      exact hne hkey

/-- The updated row is found under its key. -/
theorem find?_modify_self {t : Table key} {k : κ} :
    (t.modify k f hf).find? k = (t.find? k).map f := by
  cases hfind : t.find? k with
  | none =>
      rw [find?_eq_none] at hfind
      refine find?_eq_none.mpr ?_
      rintro x hx
      obtain ⟨r, hr, rfl⟩ := mem_modify.mp hx
      rw [if_neg (hfind r hr)]
      exact hfind r hr
  | some r =>
      obtain ⟨hr, hkey⟩ := find?_eq_some.mp hfind
      exact find?_eq_some.mpr ⟨mem_modify.mpr ⟨r, hr, by rw [if_pos hkey]⟩, by rw [hf r, hkey]⟩

/-- `UPDATE ... WHERE key = k AND guard`, or `none` when it affects no row. -/
def updateWhere (t : Table key) (k : κ) (guard : ρ → Bool) (f : ρ → ρ)
    (hf : ∀ r, key (f r) = key r) : Option (Table key) :=
  if (t.find? k).any guard then some (t.modify k f hf) else none

/-- An update that affects a row found it, saw the guard hold and rewrote it. -/
theorem updateWhere_eq_some {t t' : Table key} {k : κ} {guard : ρ → Bool}
    (h : t.updateWhere k guard f hf = some t') :
    ∃ r, t.find? k = some r ∧ guard r = true ∧ t' = t.modify k f hf := by
  unfold updateWhere at h
  split at h
  · next hany =>
      cases h
      obtain ⟨r, hr, hguard⟩ := Option.any_eq_true _ _ |>.mp hany
      exact ⟨r, hr, hguard, rfl⟩
  · cases h

/-- `INSERT ... ON CONFLICT DO UPDATE`: add the row, or rewrite the row that holds its key. -/
def upsert (t : Table key) (r : ρ) (f : ρ → ρ) (hf : ∀ r, key (f r) = key r) : Table key :=
  (t.insert r).getD (t.modify (key r) f hf)

/-- The row under the key after an upsert. -/
theorem find?_upsert_self {t : Table key} {r : ρ} :
    (t.upsert r f hf).find? (key r) = some (((t.find? (key r)).map f).getD r) := by
  unfold upsert
  cases hfind : t.find? (key r) with
  | none =>
      obtain ⟨t', hinsert⟩ := Option.isSome_iff_exists.mp (insert_isSome (find?_eq_none.mp hfind))
      rw [hinsert, Option.getD_some, find?_insert_self hinsert]
      rfl
  | some x =>
      have htaken : t.insert r = none := by
        obtain ⟨hx, hkey⟩ := find?_eq_some.mp hfind
        by_contra hsome
        obtain ⟨t', hinsert⟩ := Option.ne_none_iff_exists'.mp hsome
        exact (insert_eq_some hinsert).2 x hx hkey
      rw [htaken, Option.getD_none, find?_modify_self, hfind]
      rfl

/-- Rows of other keys are found as before an upsert. -/
theorem find?_upsert_of_ne {t : Table key} {r : ρ} {k : κ} (hne : key r ≠ k) :
    (t.upsert r f hf).find? k = t.find? k := by
  unfold upsert
  cases hinsert : t.insert r with
  | none => rw [Option.getD_none, find?_modify_of_ne hne]
  | some t' => exact find?_insert_of_ne hinsert hne

end Table

end Dopedb.Library
