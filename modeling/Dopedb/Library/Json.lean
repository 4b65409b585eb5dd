import Mathlib.Data.List.Sort
import Mathlib.Data.String.Basic

/-!
# JSON trees

`Json` is a parsed JSON document with the members of each object in a list. `canonicalValue`
sorts the members of every object by key, at every depth, so that documents which differ only
in member order share their canonical form. `canonical_value_idem` says that the canonical
form is its own canonical form.
-/

namespace Dopedb.Library

/-- A JSON document. A float is known by its shortest text. -/
inductive Json where
  | null
  | bool (value : Bool)
  | int (value : Int)
  | float (text : String)
  | str (text : String)
  | arr (items : List Json)
  | obj (fields : List (String × Json))

namespace Json

mutual
/-- Structural equality of two documents, member order included. -/
def beq : Json → Json → Bool
  | .null, .null => true
  | .bool b, .bool b' => b == b'
  | .int n, .int n' => n == n'
  | .float t, .float t' => t == t'
  | .str t, .str t' => t == t'
  | .arr items, .arr items' => beqItems items items'
  | .obj fields, .obj fields' => beqFields fields fields'
  | _, _ => false

/-- Structural equality of two lists of documents. -/
def beqItems : List Json → List Json → Bool
  | [], [] => true
  | v :: rest, v' :: rest' => beq v v' && beqItems rest rest'
  | _, _ => false

/-- Structural equality of two lists of object members. -/
def beqFields : List (String × Json) → List (String × Json) → Bool
  | [], [] => true
  | (k, v) :: rest, (k', v') :: rest' => k == k' && beq v v' && beqFields rest rest'
  | _, _ => false
end

mutual
/-- `beq` decides equality. -/
theorem beq_iff : ∀ v v' : Json, beq v v' = true ↔ v = v'
  | .arr items, v' => by
      cases v' <;> simp [beq, beq_items_iff items]
  | .obj fields, v' => by
      cases v' <;> simp [beq, beq_fields_iff fields]
  | .null, v' => by cases v' <;> simp [beq]
  | .bool b, v' => by cases v' <;> simp [beq]
  | .int n, v' => by cases v' <;> simp [beq]
  | .float t, v' => by cases v' <;> simp [beq]
  | .str t, v' => by cases v' <;> simp [beq]

/-- `beqItems` decides equality of lists. -/
theorem beq_items_iff : ∀ items items' : List Json, beqItems items items' = true ↔ items = items'
  | [], items' => by cases items' <;> simp [beqItems]
  | v :: rest, items' => by
      cases items' <;> simp [beqItems, beq_iff v, beq_items_iff rest]

/-- `beqFields` decides equality of members. -/
theorem beq_fields_iff :
    ∀ fields fields' : List (String × Json), beqFields fields fields' = true ↔ fields = fields'
  | [], fields' => by cases fields' <;> simp [beqFields]
  | (k, v) :: rest, fields' => by
      cases fields' <;>
        simp [beqFields, beq_iff v, beq_fields_iff rest, Prod.ext_iff, and_assoc]
end

/-- Equality of documents is decided by `beq`. -/
instance : DecidableEq Json := fun v v' => decidable_of_iff (beq v v' = true) (beq_iff v v')

/-- Object members in key order. -/
def sortFields (fields : List (String × Json)) : List (String × Json) :=
  fields.insertionSort fun a b => a.1 ≤ b.1

mutual
/-- Sort the members of every object by key, at every depth. -/
def canonicalValue : Json → Json
  | .arr items => .arr (canonicalItems items)
  | .obj fields => .obj (sortFields (canonicalFields fields))
  | .null => .null
  | .bool b => .bool b
  | .int n => .int n
  | .float t => .float t
  | .str t => .str t

/-- The canonical forms of a list of documents. -/
def canonicalItems : List Json → List Json
  | [] => []
  | v :: rest => canonicalValue v :: canonicalItems rest

/-- The members of one object with canonical values, in their own order. -/
def canonicalFields : List (String × Json) → List (String × Json)
  | [] => []
  | (k, v) :: rest => (k, canonicalValue v) :: canonicalFields rest
end

/-- `canonicalFields` rewrites each value and keeps each key. -/
theorem canonical_fields_eq_map (fields : List (String × Json)) :
    canonicalFields fields = fields.map fun m => (m.1, canonicalValue m.2) := by
  induction fields with
  | nil => rfl
  | cons m rest ih => rw [canonicalFields, ih, List.map_cons]

/-- Comparing members by key only. -/
def keyLe (a b : String × Json) : Prop := a.1 ≤ b.1

instance : IsTrans (String × Json) keyLe := ⟨fun _ _ _ => le_trans⟩
instance : Std.Total keyLe := ⟨fun a b => le_total a.1 b.1⟩
instance : DecidableRel keyLe := fun a b => inferInstanceAs (Decidable (a.1 ≤ b.1))

/-- `sortFields` lists the members in key order. -/
theorem pairwise_sort_fields (fields : List (String × Json)) :
    (sortFields fields).Pairwise keyLe :=
  List.pairwise_insertionSort keyLe fields

/-- Members in key order are left in place. -/
theorem sort_fields_eq_self {fields : List (String × Json)} (h : fields.Pairwise keyLe) :
    sortFields fields = fields :=
  List.Pairwise.insertionSort_eq h

/-- Members whose keys stand in order are left in place. -/
theorem sort_fields_of_keys {fields : List (String × Json)}
    (h : (fields.map Prod.fst).Pairwise (· ≤ ·)) : sortFields fields = fields := by
  have hsorted : fields.Pairwise fun a b => a.1 ≤ b.1 := List.pairwise_map.mp h
  exact sort_fields_eq_self hsorted

/-- Sorting the members commutes with rewriting their values. -/
theorem canonical_fields_sort (fields : List (String × Json)) :
    canonicalFields (sortFields fields) = sortFields (canonicalFields fields) := by
  rw [canonical_fields_eq_map, canonical_fields_eq_map]
  exact List.map_insertionSort keyLe keyLe _ _ fun _ _ _ _ => Iff.rfl

mutual
/-- The canonical form of a canonical form is itself. -/
theorem canonical_value_idem : ∀ v : Json, canonicalValue (canonicalValue v) = canonicalValue v
  | .arr items => by simp only [canonicalValue, canonical_items_idem items]
  | .obj fields => by
      have hsorted := pairwise_sort_fields (canonicalFields fields)
      simp only [canonicalValue]
      rw [canonical_fields_sort, canonical_fields_idem fields, sort_fields_eq_self hsorted]
  | .null => rfl
  | .bool _ => rfl
  | .int _ => rfl
  | .float _ => rfl
  | .str _ => rfl

/-- The canonical forms of canonical documents are themselves. -/
theorem canonical_items_idem :
    ∀ items : List Json, canonicalItems (canonicalItems items) = canonicalItems items
  | [] => rfl
  | v :: rest => by
      simp only [canonicalItems, canonical_value_idem v, canonical_items_idem rest]

/-- Members with canonical values keep them. -/
theorem canonical_fields_idem :
    ∀ fields : List (String × Json), canonicalFields (canonicalFields fields) = canonicalFields fields
  | [] => rfl
  | (k, v) :: rest => by
      simp only [canonicalFields, canonical_value_idem v, canonical_fields_idem rest]
end

/-- The value of an object member. -/
def get? : Json → String → Option Json
  | .obj fields, key => fields.lookup key
  | _, _ => none

end Json

end Dopedb.Library
