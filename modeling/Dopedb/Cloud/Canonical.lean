import Dopedb.Library.JsonText
import Dopedb.Library.Sha256
import Dopedb.Results.RendererCsv

/-!
# Canonical JSON of the control plane

`workspace-versioning.ts`: object members are sorted with `localeCompare` at every depth, and the
hash is SHA-256 of the text. The collation of the runtime is a parameter. An object lists its array
indices first, whatever the order in which they were set.
-/

namespace Dopedb.Cloud

open Library
open Results (arrayIndex propertyOrder)

/-- `left.localeCompare(right) <= 0` of the runtime. -/
abbrev Collation := String → String → Bool

mutual
/-- `canonicalize`. -/
def canonicalize (collation : Collation) : Json → Json
  | .arr items => .arr (canonicalizeItems collation items)
  | .obj fields =>
    .obj (propertyOrder ((propertyOrder (canonicalizeMembers collation fields)).mergeSort
      fun a b => collation a.1 b.1))
  | .null => .null
  | .bool value => .bool value
  | .int n => .int n
  | .float text => .float text
  | .str text => .str text

/-- The items of an array. -/
def canonicalizeItems (collation : Collation) : List Json → List Json
  | [] => []
  | item :: rest => canonicalize collation item :: canonicalizeItems collation rest

/-- The members of an object. -/
def canonicalizeMembers (collation : Collation) : List (String × Json) → List (String × Json)
  | [] => []
  | (name, value) :: rest =>
    (name, canonicalize collation value) :: canonicalizeMembers collation rest
end

/-- A key that starts with no digit is no array index. -/
def plainKey (key : String) : Bool := key.toList.head?.any fun c => !c.isDigit

mutual
/-- The members of every object stand in the order of the collation, and none is an array index. -/
def isCanonical (collation : Collation) : Json → Bool
  | .arr items => itemsCanonical collation items
  | .obj fields =>
    decide (fields.Pairwise fun a b => collation a.1 b.1 = true) &&
      fields.all (fun field => plainKey field.1) && membersCanonical collation fields
  | .null => true
  | .bool _ => true
  | .int _ => true
  | .float _ => true
  | .str _ => true

/-- The same for the items of an array. -/
def itemsCanonical (collation : Collation) : List Json → Bool
  | [] => true
  | item :: rest => isCanonical collation item && itemsCanonical collation rest

/-- The same for the members of an object. -/
def membersCanonical (collation : Collation) : List (String × Json) → Bool
  | [] => true
  | (_, value) :: rest => isCanonical collation value && membersCanonical collation rest
end

/-- The text of a number starts with a digit. -/
theorem array_index_plain {key : String} (h : plainKey key = true) : arrayIndex key = none := by
  unfold arrayIndex
  cases key.toNat? with
  | none => rfl
  | some index =>
      refine if_neg ?_
      rintro ⟨hrepr, -⟩
      unfold plainKey at h
      rw [← hrepr] at h
      obtain ⟨c, hc, hdigit⟩ := (Option.any_eq_true _ _).mp h
      rw [digit_of_mem_repr (List.mem_of_mem_head? hc)] at hdigit
      cases hdigit

/-- Members that are no array indices are listed as they were set. -/
theorem property_order_plain {α : Type} {entries : List (String × α)}
    (h : ∀ entry ∈ entries, arrayIndex entry.1 = none) : propertyOrder entries = entries := by
  unfold propertyOrder
  have hindices : entries.filter (fun entry => (arrayIndex entry.1).isSome) = [] :=
    List.filter_eq_nil_iff.mpr fun entry hentry => by simp [h entry hentry]
  have hothers : entries.filter (fun entry => (arrayIndex entry.1).isNone) = entries :=
    List.filter_eq_self.mpr fun entry hentry => by simp [h entry hentry]
  rw [hindices, hothers]
  rfl

mutual
/-- A document whose members are in order is canonical already. -/
theorem canonicalize_of_canonical {collation : Collation} :
    ∀ {value : Json}, isCanonical collation value = true → canonicalize collation value = value
  | .arr items, h => by
    rw [isCanonical] at h
    rw [canonicalize, items_of_canonical h]
  | .obj fields, h => by
    rw [isCanonical, Bool.and_eq_true, Bool.and_eq_true, decide_eq_true_eq] at h
    have hplain : propertyOrder fields = fields := property_order_plain fun field hfield =>
      array_index_plain (List.all_eq_true.mp h.1.2 field hfield)
    rw [canonicalize, members_of_canonical h.2, hplain, List.mergeSort_of_pairwise h.1.1, hplain]
  | .null, _ => by rw [canonicalize]
  | .bool _, _ => by rw [canonicalize]
  | .int _, _ => by rw [canonicalize]
  | .float _, _ => by rw [canonicalize]
  | .str _, _ => by rw [canonicalize]

/-- The same for the items of an array. -/
theorem items_of_canonical {collation : Collation} :
    ∀ {items : List Json}, itemsCanonical collation items = true →
      canonicalizeItems collation items = items
  | [], _ => by rw [canonicalizeItems]
  | item :: rest, h => by
    rw [itemsCanonical, Bool.and_eq_true] at h
    rw [canonicalizeItems, canonicalize_of_canonical h.1, items_of_canonical h.2]

/-- The same for the members of an object. -/
theorem members_of_canonical {collation : Collation} :
    ∀ {members : List (String × Json)}, membersCanonical collation members = true →
      canonicalizeMembers collation members = members
  | [], _ => by rw [canonicalizeMembers]
  | (name, value) :: rest, h => by
    rw [membersCanonical, Bool.and_eq_true] at h
    rw [canonicalizeMembers, canonicalize_of_canonical h.1, members_of_canonical h.2]
end

/-- `canonicalJson`. -/
def canonicalJsonText (collation : Collation) (value : Json) : List Char :=
  (canonicalize collation value).render

/-- A byte in hexadecimal. -/
def hexByte (byte : UInt8) : List Char :=
  [lowerHexDigit (byte.toNat / 16), lowerHexDigit (byte.toNat % 16)]

/-- `canonicalHash`. -/
def canonicalHash (collation : Collation) (value : Json) : String :=
  let bytes := (textBytes (canonicalJsonText collation value)).map UInt8.toNat
  String.ofList ((Sha256.digest bytes).toList.flatMap hexByte)

end Dopedb.Cloud
