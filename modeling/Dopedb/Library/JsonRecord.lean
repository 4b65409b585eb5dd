import Mathlib
import Dopedb.Library.Json

/-!
# JSON records

Derived serialization of a record type: a record is written as an object whose absent members are
left out, and read back from an object or, by position, from an array. `Serde` pairs the writer of
a type with its reader; an instance carries the proof that the reader undoes the writer.
-/

namespace Dopedb.Library

universe u

namespace Json

/-- The object with the members that are present. -/
def record (fields : List (String × Option Json)) : Json :=
  .obj (fields.filterMap fun member => member.2.map fun v => (member.1, v))

/-- The values of the named fields of a record. Unknown and repeated members are refused. -/
def readRecord (names : List String) : Json → Option (List (Option Json))
  | .obj fields =>
      if (fields.map Prod.fst).Nodup ∧ ∀ key ∈ fields.map Prod.fst, key ∈ names then
        some (names.map fun name => fields.lookup name)
      else none
  | .arr items =>
      if items.length ≤ names.length then
        some (items.map some ++ List.replicate (names.length - items.length) none)
      else none
  | _ => none

/-- The keys of a record's members are among its field names, in their order. -/
theorem record_keys_sublist (fields : List (String × Option Json)) :
    ((fields.filterMap fun member => member.2.map fun v => (member.1, v)).map Prod.fst).Sublist
      (fields.map Prod.fst) := by
  induction fields with
  | nil => exact .slnil
  | cons member rest ih =>
      obtain ⟨key, value⟩ := member
      cases value with
      | none => exact ih.cons _
      | some v => exact ih.cons_cons _

/-- The members of a record are found under their names. -/
theorem lookup_record {fields : List (String × Option Json)} (h : (fields.map Prod.fst).Nodup) :
    (fields.map Prod.fst).map (fun name =>
      (fields.filterMap fun member => member.2.map fun v => (member.1, v)).lookup name) =
      fields.map Prod.snd := by
  induction fields with
  | nil => rfl
  | cons member rest ih =>
      obtain ⟨key, value⟩ := member
      obtain ⟨hkey, hrest⟩ := List.nodup_cons.mp h
      have hne : ∀ name ∈ rest.map Prod.fst, (name == key) = false := by
        intro name hname
        exact beq_eq_false_iff_ne.mpr fun heq => hkey (heq ▸ hname)
      have hnone : (rest.filterMap fun member => member.2.map fun v => (member.1, v)).lookup key =
          none := by
        refine List.lookup_eq_none_iff.mpr fun member hmember => ?_
        have hmem := (record_keys_sublist rest).subset (List.mem_map_of_mem hmember)
        exact bne_iff_ne.mpr (fun heq => hkey (heq ▸ hmem))
      cases value with
      | none =>
          simp only [List.map_cons, List.filterMap_cons, Option.map_none]
          rw [hnone, ih hrest]
      | some v =>
          simp only [List.map_cons, List.filterMap_cons, Option.map_some, List.lookup_cons_self]
          rw [← ih hrest]
          refine congrArg _ (List.map_congr_left fun name hname => ?_)
          rw [List.lookup_cons, hne name hname]

/-- Reading the fields of a written record. -/
theorem read_record {names : List String} {fields : List (String × Option Json)}
    (hfields : fields.map Prod.fst = names) (hnames : names.Nodup) :
    readRecord names (record fields) = some (fields.map Prod.snd) := by
  subst hfields
  have hkeys := record_keys_sublist fields
  rw [record, readRecord, if_pos ⟨hkeys.nodup hnames, fun key hkey => hkeys.subset hkey⟩,
    lookup_record hnames]

/-- Reading a written record continues with the values of its fields. -/
theorem read_record_bind {α : Type u} {names : List String} {fields : List (String × Option Json)}
    {read : List (Option Json) → Option α} {a : α} (hfields : fields.map Prod.fst = names)
    (hnames : names.Nodup) (h : read (fields.map Prod.snd) = some a) :
    (readRecord names (record fields)).bind read = some a := by
  rw [read_record hfields hnames, Option.bind_some, h]

/-- Two records with the same field names are written alike only if their values agree. -/
theorem record_inj {names : List String} {fields fields' : List (String × Option Json)}
    (h : record fields = record fields') (hfields : fields.map Prod.fst = names)
    (hfields' : fields'.map Prod.fst = names) (hnames : names.Nodup) :
    fields.map Prod.snd = fields'.map Prod.snd := by
  have hread := read_record hfields hnames
  rw [h, read_record hfields' hnames] at hread
  exact (Option.some.inj hread).symm

/-- Read a field that must be present. -/
def requiredField {α : Type u} (read : Json → Option α) (value : Option Json) : Option α :=
  value.bind read

/-- Read a field that may be absent or `null`. -/
def optionalField {α : Type u} (read : Json → Option α) : Option Json → Option (Option α)
  | none | some .null => some none
  | some v => (read v).map some

/-- The name of a unit variant, written as a text or as the only key of an object. -/
def variantName : Json → Option String
  | .str name => some name
  | .obj [(name, .null)] => some name
  | _ => none

end Json

/-- A type that is written to JSON and read back. -/
class Serde (α : Type u) where
  /-- Write a value. -/
  serialize : α → Json
  /-- Read a value. -/
  deserialize : Json → Option α
  /-- Reading undoes writing. -/
  deserialize_serialize : ∀ a, deserialize (serialize a) = some a
  /-- `null` stands for an absent value only. -/
  serialize_ne_null : ∀ a, serialize a ≠ .null

namespace Serde

open Json

variable {α : Type u} [Serde α]

attribute [simp] deserialize_serialize

/-- Values are determined by what is written for them. -/
theorem serialize_injective : Function.Injective (serialize (α := α)) := by
  intro a b h
  have hread := deserialize_serialize a
  rw [h, deserialize_serialize] at hread
  exact (Option.some.inj hread).symm

/-- Read a field whose absence stands for a default. -/
def defaultedField (default : α) : Option Json → Option α
  | none => some default
  | some v => deserialize v

/-- Continue with a required field as it was written. -/
theorem required_field_bind {β : Type u} (a : α) (f : α → Option β) :
    (requiredField deserialize (some (serialize a)) >>= f) = f a := by
  simp [requiredField]

/-- Continue with an optional field as it was written. -/
theorem optional_field_bind {β : Type u} (value : Option α) (f : Option α → Option β) :
    (optionalField deserialize (value.map serialize) >>= f) = f value := by
  cases value with
  | none => rfl
  | some a =>
      have hnull := serialize_ne_null a
      rw [Option.map_some, optionalField.eq_def]
      cases hv : serialize a with
      | null => exact absurd hv hnull
      | _ => simp [← hv]

/-- Continue with a field that has a default as it was written. -/
theorem defaulted_field_bind {β : Type u} (default a : α) (f : α → Option β) :
    (defaultedField default (some (serialize a)) >>= f) = f a := by
  simp [defaultedField]

/-- Optional values are determined by what is written for them. -/
theorem map_serialize_inj {value value' : Option α}
    (h : value.map serialize = value'.map serialize) : value = value' :=
  Option.map_injective serialize_injective h

/-- Unit variants are written as their names. -/
@[reducible] def ofVariants (name : α → String) (variants : List α)
    (h : ∀ a, variants.find? (fun b => name b == name a) = some a) : Serde α where
  serialize a := .str (name a)
  deserialize v := v.variantName.bind fun text => variants.find? fun b => name b == text
  deserialize_serialize := h
  serialize_ne_null _ := nofun

end Serde

instance : Serde String where
  serialize := .str
  deserialize
    | .str text => some text
    | _ => none
  deserialize_serialize _ := rfl
  serialize_ne_null _ := nofun

instance : Serde Bool where
  serialize := .bool
  deserialize
    | .bool value => some value
    | _ => none
  deserialize_serialize _ := rfl
  serialize_ne_null _ := nofun

instance : Serde UInt32 where
  serialize n := .int n.toNat
  deserialize
    | .int n => if 0 ≤ n ∧ n < 2 ^ 32 then some (.ofNat n.toNat) else none
    | _ => none
  deserialize_serialize n := by
    have hlt := n.toNat_lt
    simp only
    rw [if_pos ⟨by omega, by omega⟩]
    simp
  serialize_ne_null _ := nofun

instance : Serde UInt64 where
  serialize n := .int n.toNat
  deserialize
    | .int n => if 0 ≤ n ∧ n < 2 ^ 64 then some (.ofNat n.toNat) else none
    | _ => none
  deserialize_serialize n := by
    have hlt := n.toNat_lt
    simp only
    rw [if_pos ⟨by omega, by omega⟩]
    simp
  serialize_ne_null _ := nofun

instance : Serde Int64 where
  serialize n := .int n.toInt
  deserialize
    | .int n => if -2 ^ 63 ≤ n ∧ n < 2 ^ 63 then some (.ofInt n) else none
    | _ => none
  deserialize_serialize n := by
    have hle := n.le_toInt
    have hlt := n.toInt_lt
    simp only
    rw [if_pos ⟨hle, hlt⟩]
    simp
  serialize_ne_null _ := nofun

instance {α : Type u} [Serde α] : Serde (List α) where
  serialize items := .arr (items.map Serde.serialize)
  deserialize
    | .arr items => items.mapM Serde.deserialize
    | _ => none
  deserialize_serialize items := by
    simp only
    induction items with
    | nil => rfl
    | cons a rest ih => simp [ih]
  serialize_ne_null _ := nofun

end Dopedb.Library
