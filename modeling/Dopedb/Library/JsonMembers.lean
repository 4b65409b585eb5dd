import Dopedb.Library.JsonRecord

/-!
# Records in any order of members

A parser may keep the members of an object in another order than they were written in. Two values
with one `canonicalValue` differ in that order only, so a record is read from either of them with
the same fields.
-/

namespace Dopedb.Library.Json

variable {α : Type}

/-- Canonical members are found under their names. -/
theorem lookup_canonical_fields (fields : List (String × Json)) (name : String) :
    (canonicalFields fields).lookup name = (fields.lookup name).map canonicalValue := by
  induction fields with
  | nil => rfl
  | cons field rest ih =>
      obtain ⟨key, value⟩ := field
      rw [canonicalFields, List.lookup_cons, List.lookup_cons]
      cases name == key with
      | true => rfl
      | false => exact ih

/-- Members with distinct names are found in any order. -/
theorem lookup_perm {fields fields' : List (String × α)} (h : fields.Perm fields')
    (hnodup : (fields.map Prod.fst).Nodup) (name : String) :
    fields.lookup name = fields'.lookup name := by
  induction h with
  | nil => rfl
  | cons field hrest ih =>
      obtain ⟨key, value⟩ := field
      rw [List.lookup_cons, List.lookup_cons, ih (List.nodup_cons.mp hnodup).2]
  | swap field field' rest =>
      obtain ⟨key, value⟩ := field
      obtain ⟨key', value'⟩ := field'
      have hne : key' ≠ key := fun heq =>
        (List.nodup_cons.mp hnodup).1 (heq ▸ List.mem_cons_self)
      rw [List.lookup_cons, List.lookup_cons, List.lookup_cons, List.lookup_cons]
      cases hkey : name == key with
      | false => rfl
      | true =>
          have hother : (name == key') = false := by
            rw [eq_of_beq hkey]
            exact beq_eq_false_iff_ne.mpr hne.symm
          rw [hother]
  | trans hfirst hsecond ih ih' =>
      rw [ih hnodup, ih' ((hfirst.map Prod.fst).nodup_iff.mp hnodup)]

/-- A value that differs from an object in the order of members. -/
theorem obj_of_canonical {value : Json} {fields : List (String × Json)}
    (h : value.canonicalValue = (Json.obj fields).canonicalValue) : ∃ members,
      value = .obj members ∧ (canonicalFields members).Perm (canonicalFields fields) := by
  cases value with
  | obj members =>
      rw [canonicalValue, canonicalValue] at h
      have hsorted := List.perm_insertionSort keyLe (canonicalFields members)
      have hsorted' := List.perm_insertionSort keyLe (canonicalFields fields)
      have heq : (canonicalFields members).insertionSort keyLe =
          (canonicalFields fields).insertionSort keyLe := Json.obj.inj h
      rw [heq] at hsorted
      exact ⟨members, rfl, hsorted.symm.trans hsorted'⟩
  | arr items =>
      rw [canonicalValue, canonicalValue] at h
      cases h
  | null =>
      rw [canonicalValue, canonicalValue] at h
      cases h
  | bool b =>
      rw [canonicalValue, canonicalValue] at h
      cases h
  | int n =>
      rw [canonicalValue, canonicalValue] at h
      cases h
  | float text =>
      rw [canonicalValue, canonicalValue] at h
      cases h
  | str text =>
      rw [canonicalValue, canonicalValue] at h
      cases h

/-- The names of members, before and after their values are made canonical. -/
theorem keys_canonical_fields (fields : List (String × Json)) :
    (canonicalFields fields).map Prod.fst = fields.map Prod.fst := by
  rw [canonical_fields_eq_map, List.map_map]
  rfl

/-- A record is read from its members in any order. -/
theorem read_record_any_order {names : List String} {fields : List (String × Option Json)}
    {value : Json} (hfields : fields.map Prod.fst = names) (hnames : names.Nodup)
    (h : value.canonicalValue = (record fields).canonicalValue) : ∃ values,
      readRecord names value = some values ∧
        values.map (Option.map canonicalValue) =
          fields.map fun field => field.2.map canonicalValue := by
  obtain ⟨members, rfl, hperm⟩ := obj_of_canonical h
  subst hfields
  have hkeys := hperm.map Prod.fst
  rw [keys_canonical_fields, keys_canonical_fields] at hkeys
  have hsub := record_keys_sublist fields
  have hnodup : (members.map Prod.fst).Nodup := hkeys.nodup_iff.mpr (hsub.nodup hnames)
  refine ⟨(fields.map Prod.fst).map fun name => members.lookup name, ?_, ?_⟩
  · rw [readRecord, if_pos ⟨hnodup, fun key hkey => hsub.subset (hkeys.mem_iff.mp hkey)⟩]
  · have hlookup : ∀ name, (members.lookup name).map canonicalValue =
        ((fields.filterMap fun member => member.2.map fun v => (member.1, v)).lookup name).map
          canonicalValue := by
      intro name
      rw [← lookup_canonical_fields, ← lookup_canonical_fields]
      refine lookup_perm hperm ?_ name
      rw [keys_canonical_fields]
      exact hnodup
    rw [List.map_map]
    show ((fields.map Prod.fst).map fun name => (members.lookup name).map canonicalValue) = _
    rw [List.map_congr_left (fun name _ => hlookup name)]
    have hwritten := congrArg (List.map (Option.map canonicalValue)) (lookup_record hnames)
    rw [List.map_map] at hwritten
    refine hwritten.trans ?_
    rw [List.map_map]
    rfl

/-- A text has no members. -/
theorem eq_str_of_canonical {value : Json} {text : String}
    (h : value.canonicalValue = .str text) : value = .str text := by
  cases value <;> rw [canonicalValue] at h <;> first | exact h | cases h

/-- A number has no members. -/
theorem eq_int_of_canonical {value : Json} {n : Int}
    (h : value.canonicalValue = .int n) : value = .int n := by
  cases value <;> rw [canonicalValue] at h <;> first | exact h | cases h

/-- A truth value has no members. -/
theorem eq_bool_of_canonical {value : Json} {b : Bool}
    (h : value.canonicalValue = .bool b) : value = .bool b := by
  cases value <;> rw [canonicalValue] at h <;> first | exact h | cases h

/-- `null` has no members. -/
theorem eq_null_of_canonical {value : Json} (h : value.canonicalValue = .null) :
    value = .null := by
  cases value <;> rw [canonicalValue] at h <;> first | rfl | cases h

/-- The reader reads what the writer writes of this value, in any order of members. -/
def ReadsBack (read : Json → Option α) (written : Json) (a : α) : Prop :=
  ∀ value, value.canonicalValue = written.canonicalValue → read value = some a

/-- A text is read back. -/
theorem reads_back_str {read : Json → Option α} {text : String} {a : α}
    (h : read (.str text) = some a) : ReadsBack read (.str text) a := by
  intro value hvalue
  rw [eq_str_of_canonical hvalue, h]

/-- A number is read back. -/
theorem reads_back_int {read : Json → Option α} {n : Int} {a : α}
    (h : read (.int n) = some a) : ReadsBack read (.int n) a := by
  intro value hvalue
  rw [eq_int_of_canonical hvalue, h]

/-- A truth value is read back. -/
theorem reads_back_bool {read : Json → Option α} {b : Bool} {a : α}
    (h : read (.bool b) = some a) : ReadsBack read (.bool b) a := by
  intro value hvalue
  rw [eq_bool_of_canonical hvalue, h]

/-- A member that was written is there. -/
theorem member_present {value : Option Json} {written : Json}
    (h : value.map canonicalValue = some written.canonicalValue) :
    ∃ present, value = some present ∧ present.canonicalValue = written.canonicalValue :=
  Option.map_eq_some_iff.mp h

/-- A required member is read back. -/
theorem required_reads_back {read : Json → Option α} {written : Json} {a : α}
    (h : ReadsBack read written a) {value : Option Json}
    (hvalue : value.map canonicalValue = some written.canonicalValue) :
    requiredField read value = some a := by
  obtain ⟨present, rfl, hpresent⟩ := member_present hvalue
  exact h present hpresent

/-- An optional member is read back, if nothing is written as `null`. -/
theorem optional_reads_back {read : Json → Option α} {write : α → Json} {present : Option α}
    (h : ∀ a, present = some a → ReadsBack read (write a) a)
    (hnull : ∀ a, present = some a → write a ≠ .null) {value : Option Json}
    (hvalue : value.map canonicalValue = (present.map write).map canonicalValue) :
    optionalField read value = some present := by
  cases present with
  | none =>
      rw [Option.map_none, Option.map_none, Option.map_eq_none_iff] at hvalue
      rw [hvalue]
      rfl
  | some a =>
      rw [Option.map_some, Option.map_some] at hvalue
      obtain ⟨read', rfl, hsame⟩ := Option.map_eq_some_iff.mp hvalue
      have hnot : read' ≠ .null := by
        rintro rfl
        rw [canonicalValue] at hsame
        exact hnull a rfl (eq_null_of_canonical hsame.symm)
      have hread := h a rfl read' hsame
      unfold optionalField
      split
      · rename_i heq
        cases heq
      · rename_i heq
        exact absurd (Option.some.inj heq) hnot
      · rename_i heq
        obtain rfl := Option.some.inj heq
        rw [hread]
        rfl

end Dopedb.Library.Json
