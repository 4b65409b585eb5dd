import Dopedb.Cloud.Canonical
import Dopedb.Cloud.JsonReading
import Dopedb.Library.Collected

/-!
# When the canonical text is canonical

`canonicalJson` is compared with equality up to the order of keys. Two documents with one canonical
text are always the same. The other way round it depends on the collation, which holds some distinct
keys for equal and then keeps the order in which they were set: a document has one text in all
orders of its keys exactly when no object in it has two such keys. `canonical_json_iff` is the main
result.
-/

namespace Dopedb.Cloud

open Library
open Results (arrayIndex propertyOrder)

/-- `localeCompare` of a runtime: any two keys compare, and comparisons chain. -/
structure LocaleCollation where
  /-- The first key comes before the second one or compares equal to it. -/
  le : Collation
  total : ∀ left right, le left right = true ∨ le right left = true
  trans : ∀ left middle right, le left middle = true → le middle right = true →
    le left right = true

/-- A hash of bytes without collisions. -/
structure ExactDigest where
  /-- The digest as a text. -/
  digest : List UInt8 → String
  injective : Function.Injective digest

/-- `canonicalHash` under a hash. -/
def canonicalHashWith (hash : ExactDigest) (collation : Collation) (value : Json) : String :=
  hash.digest (textBytes (canonicalJsonText collation value))

/-- The values of JavaScript. -/
abbrev JsDocument := { value : Json // isJsValue value = true }

/-! ## Equality up to the order of keys -/

mutual
/-- The two values are equal when the order of keys is ignored. -/
def same : Json → Json → Bool
  | .arr items, .arr items' => sameItems items items'
  | .obj fields, .obj fields' =>
    fields.length == fields'.length && sameMembers fields fields'
  | .null, .null => true
  | .bool value, .bool value' => value == value'
  | .int n, .int n' => n == n'
  | .float text, .float text' => text == text'
  | .str text, .str text' => text == text'
  | _, _ => false

/-- The same for the items of two arrays. -/
def sameItems : List Json → List Json → Bool
  | [], [] => true
  | item :: rest, item' :: rest' => same item item' && sameItems rest rest'
  | _, _ => false

/-- Each member has its like in the other object. -/
def sameMembers : List (String × Json) → List (String × Json) → Bool
  | [], _ => true
  | (key, value) :: rest, fields' =>
    (fields'.lookup key).any (fun value' => same value value') && sameMembers rest fields'
end

/-- Each member has its like in the other object, as a statement. -/
theorem same_members_iff {fields fields' : List (String × Json)} :
    sameMembers fields fields' = true ↔ ∀ field ∈ fields, ∃ value',
      fields'.lookup field.1 = some value' ∧ same field.2 value' = true := by
  induction fields with
  | nil => simp [sameMembers]
  | cons field rest ih =>
      obtain ⟨key, value⟩ := field
      rw [sameMembers, Bool.and_eq_true, ih, List.forall_mem_cons, Option.any_eq_true]

/-- In an object a key has its value. -/
theorem lookup_of_mem {fields : List (String × Json)} (hnodup : (fields.map Prod.fst).Nodup)
    {key : String} {value : Json} (h : (key, value) ∈ fields) : fields.lookup key = some value := by
  cases hlookup : fields.lookup key with
  | none => exact absurd (List.lookup_eq_none_iff.mp hlookup _ h) (by simp)
  | some value' =>
      have hpair := List.inj_on_of_nodup_map hnodup h (mem_of_lookup hlookup) rfl
      rw [(Prod.mk.inj hpair).2]

/-- The parts of an object that is a value of JavaScript. -/
theorem js_object_iff {fields : List (String × Json)} : isJsValue (.obj fields) = true ↔
    (fields.map Prod.fst).Nodup ∧ ∀ field ∈ fields, isJsValue field.2 = true := by
  rw [isJsValue, Bool.and_eq_true, decide_eq_true_eq, js_members_iff]

/-! ## The canonical value of an object -/

/-- Each item becomes canonical. -/
theorem canonicalize_items_eq (collation : Collation) (items : List Json) :
    canonicalizeItems collation items = items.map (canonicalize collation) := by
  induction items with
  | nil => rw [canonicalizeItems, List.map_nil]
  | cons item rest ih => rw [canonicalizeItems, ih, List.map_cons]

/-- A member with its value made canonical. -/
def canonicalMember (collation : Collation) (field : String × Json) : String × Json :=
  (field.1, canonicalize collation field.2)

/-- Each member becomes canonical. -/
theorem canonicalize_members_eq (collation : Collation) (fields : List (String × Json)) :
    canonicalizeMembers collation fields = fields.map (canonicalMember collation) := by
  induction fields with
  | nil => rw [canonicalizeMembers, List.map_nil]
  | cons field rest ih =>
      obtain ⟨key, value⟩ := field
      rw [canonicalizeMembers, ih, List.map_cons]
      rfl

/-- The keys stay. -/
theorem keys_canonical (collation : Collation) (fields : List (String × Json)) :
    (canonicalizeMembers collation fields).map Prod.fst = fields.map Prod.fst := by
  rw [canonicalize_members_eq, List.map_map]
  rfl

/-- Members sorted by their keys. -/
def sortMembers (collation : Collation) (entries : List (String × Json)) : List (String × Json) :=
  propertyOrder ((propertyOrder entries).mergeSort fun a b => collation a.1 b.1)

/-- An object is made canonical by sorting its canonical members. -/
theorem canonicalize_obj (collation : Collation) (fields : List (String × Json)) :
    canonicalize collation (.obj fields) =
      .obj (sortMembers collation (canonicalizeMembers collation fields)) := by
  rw [canonicalize, sortMembers]

/-- Listing properties reorders them. -/
theorem property_order_perm {α : Type} (entries : List (String × α)) :
    (propertyOrder entries).Perm entries := by
  unfold propertyOrder
  have hsplit := List.filter_append_perm (fun entry : String × α => (arrayIndex entry.1).isSome)
    entries
  have hrest : entries.filter (fun entry => !(arrayIndex entry.1).isSome) =
      entries.filter fun entry => (arrayIndex entry.1).isNone := by
    simp
  rw [hrest] at hsplit
  exact ((List.perm_insertionSort _ _).append_right _).trans hsplit

/-- Sorting members reorders them. -/
theorem sort_members_perm (collation : Collation) (entries : List (String × Json)) :
    (sortMembers collation entries).Perm entries :=
  (property_order_perm _).trans ((List.mergeSort_perm _ _).trans (property_order_perm _))

/-- A value of a member is smaller than the object. -/
theorem size_of_member {field : String × Json} {fields : List (String × Json)}
    (h : field ∈ fields) : sizeOf field.2 < sizeOf fields := by
  have hmem := List.sizeOf_lt_of_mem h
  have hpair : sizeOf field = 1 + sizeOf field.1 + sizeOf field.2 := rfl
  omega

/-- Canonical values of JavaScript are values of JavaScript. -/
theorem js_value_canonical (collation : Collation) {value : Json} (h : isJsValue value = true) :
    isJsValue (canonicalize collation value) = true := by
  match value with
  | .arr items =>
      rw [canonicalize, canonicalize_items_eq]
      refine (js_items_iff _).mpr ?_
      intro item hitem
      obtain ⟨item₀, hitem₀, rfl⟩ := List.mem_map.mp hitem
      exact js_value_canonical collation ((js_items_iff items).mp h item₀ hitem₀)
  | .obj fields =>
      obtain ⟨hnodup, hfields⟩ := js_object_iff.mp h
      have hperm := sort_members_perm collation (canonicalizeMembers collation fields)
      rw [canonicalize_obj]
      refine js_object_iff.mpr ⟨?_, ?_⟩
      · rw [(hperm.map Prod.fst).nodup_iff, keys_canonical]
        exact hnodup
      · intro field hfield
        rw [hperm.mem_iff, canonicalize_members_eq] at hfield
        obtain ⟨field₀, hfield₀, rfl⟩ := List.mem_map.mp hfield
        have hdec := size_of_member hfield₀
        exact js_value_canonical collation (hfields field₀ hfield₀)
  | .null =>
      rw [canonicalize]
      exact h
  | .bool _ =>
      rw [canonicalize]
      exact h
  | .int _ =>
      rw [canonicalize]
      exact h
  | .float _ =>
      rw [canonicalize]
      exact h
  | .str _ =>
      rw [canonicalize]
      exact h
termination_by sizeOf value

/-! ## One text, one value -/

/-- Two lists of items with equal canonical items are alike. -/
theorem same_items_of_map {collation : Collation} {items items' : List Json}
    (h : items.map (canonicalize collation) = items'.map (canonicalize collation))
    (hitems : ∀ item ∈ items, ∀ item' ∈ items',
      canonicalize collation item = canonicalize collation item' → same item item' = true) :
    sameItems items items' = true := by
  induction items generalizing items' with
  | nil =>
      cases items' with
      | nil => rfl
      | cons item' rest' => cases h
  | cons item rest ih =>
      cases items' with
      | nil => cases h
      | cons item' rest' =>
          obtain ⟨hitem, hrest⟩ := List.cons.inj h
          rw [sameItems, Bool.and_eq_true]
          exact ⟨hitems item (by simp) item' (by simp) hitem,
            ih hrest fun a ha b hb => hitems a (by simp [ha]) b (by simp [hb])⟩

/-- Two documents with equal canonical values are the same up to the order of keys. -/
theorem same_of_canonicalize {collation : Collation} {value other : Json}
    (hvalue : isJsValue value = true) (hother : isJsValue other = true)
    (h : canonicalize collation value = canonicalize collation other) :
    same value other = true := by
  match value with
  | .arr items =>
      cases other with
      | arr items' =>
          rw [canonicalize, canonicalize, canonicalize_items_eq, canonicalize_items_eq] at h
          have hitems := (js_items_iff items).mp hvalue
          have hitems' := (js_items_iff items').mp hother
          rw [same]
          exact same_items_of_map (Json.arr.inj h) fun item hitem item' hitem' =>
            same_of_canonicalize (hitems item hitem) (hitems' item' hitem')
      | null | bool | int | float | str | obj => simp [canonicalize] at h
  | .obj fields =>
      cases other with
      | obj fields' =>
          rw [canonicalize_obj, canonicalize_obj] at h
          obtain ⟨-, hfields⟩ := js_object_iff.mp hvalue
          obtain ⟨hnodup', hfields'⟩ := js_object_iff.mp hother
          -- sorting keeps the members, so each has its partner under the same key
          have hperm := (sort_members_perm collation (canonicalizeMembers collation fields)).symm
          rw [Json.obj.inj h] at hperm
          have hmembers := hperm.trans
            (sort_members_perm collation (canonicalizeMembers collation fields'))
          rw [canonicalize_members_eq, canonicalize_members_eq] at hmembers
          rw [same, Bool.and_eq_true, beq_iff_eq]
          refine ⟨by simpa using hmembers.length_eq, same_members_iff.mpr ?_⟩
          intro field hfield
          have hmem := hmembers.mem_iff.mp (List.mem_map_of_mem hfield)
          obtain ⟨field', hfield', heq⟩ := List.mem_map.mp hmem
          obtain ⟨hkey, hcanonical⟩ := Prod.mk.inj heq
          have hdec := size_of_member hfield
          refine ⟨field'.2, lookup_of_mem hnodup' (hkey ▸ hfield'), ?_⟩
          exact same_of_canonicalize (hfields field hfield) (hfields' field' hfield')
            hcanonical.symm
      | null | bool | int | float | str | arr => simp [canonicalize] at h
  | .null =>
      cases other with
      | null => rfl
      | bool | int | float | str | arr | obj => simp [canonicalize] at h
  | .bool flag =>
      cases other with
      | bool flag' => simpa [canonicalize, same] using h
      | null | int | float | str | arr | obj => simp [canonicalize] at h
  | .int n =>
      cases other with
      | int n' => simpa [canonicalize, same] using h
      | null | bool | float | str | arr | obj => simp [canonicalize] at h
  | .float text =>
      cases other with
      | float text' => simpa [canonicalize, same] using h
      | null | bool | int | str | arr | obj => simp [canonicalize] at h
  | .str text =>
      cases other with
      | str text' => simpa [canonicalize, same] using h
      | null | bool | int | float | arr | obj => simp [canonicalize] at h
termination_by sizeOf value

/-! ## Keys that compare equal -/

/-- Two distinct keys compare equal, and neither is an array index. -/
def tiedKeys (collation : Collation) (left right : String) : Bool :=
  left != right && (arrayIndex left).isNone && (arrayIndex right).isNone &&
    collation left right && collation right left

mutual
/-- An object in the value has two keys that compare equal. -/
def hasTie (collation : Collation) : Json → Bool
  | .arr items => itemsTie collation items
  | .obj fields =>
    (fields.any fun left => fields.any fun right => tiedKeys collation left.1 right.1) ||
      membersTie collation fields
  | .null => false
  | .bool _ => false
  | .int _ => false
  | .float _ => false
  | .str _ => false

/-- An item of an array has such an object. -/
def itemsTie (collation : Collation) : List Json → Bool
  | [] => false
  | item :: rest => hasTie collation item || itemsTie collation rest

/-- A member of an object has such an object. -/
def membersTie (collation : Collation) : List (String × Json) → Bool
  | [] => false
  | (_, value) :: rest => hasTie collation value || membersTie collation rest
end

/-- An array has a tie when an item has one. -/
theorem items_tie_iff {collation : Collation} {items : List Json} :
    itemsTie collation items = true ↔ ∃ item ∈ items, hasTie collation item = true := by
  induction items with
  | nil => simp [itemsTie]
  | cons item rest ih => simp [itemsTie, ih]

/-- The members of an object have a tie when a value has one. -/
theorem members_tie_iff {collation : Collation} {fields : List (String × Json)} :
    membersTie collation fields = true ↔ ∃ field ∈ fields, hasTie collation field.2 = true := by
  induction fields with
  | nil => simp [membersTie]
  | cons field rest ih =>
      obtain ⟨key, value⟩ := field
      rw [membersTie, Bool.or_eq_true, ih]
      simp

/-- The text of an array index determines it. -/
theorem array_index_inj {key key' : String} {index : Nat} (h : arrayIndex key = some index)
    (h' : arrayIndex key' = some index) : key = key' := by
  have htext : ∀ {key : String}, arrayIndex key = some index → index.repr = key := by
    intro key hkey
    unfold arrayIndex at hkey
    cases hnat : key.toNat? with
    | none =>
        rw [hnat] at hkey
        cases hkey
    | some n =>
        rw [hnat] at hkey
        simp only at hkey
        split at hkey
        · next hcond =>
          rw [← Option.some.inj hkey]
          exact hcond.1
        · cases hkey
  rw [← htext h, ← htext h']

/-- Members that are not tied are sorted alike in every order. -/
theorem sort_members_congr (collation : LocaleCollation) {entries entries' : List (String × Json)}
    (hperm : entries.Perm entries') (hnodup : (entries.map Prod.fst).Nodup)
    (hties : ∀ left ∈ entries, ∀ right ∈ entries, tiedKeys collation.le left.1 right.1 = false) :
    sortMembers collation.le entries = sortMembers collation.le entries' := by
  let sorted := fun entries : List (String × Json) =>
    (propertyOrder entries).mergeSort fun a b => collation.le a.1 b.1
  have hsorted : (sorted entries).Perm (sorted entries') :=
    ((List.mergeSort_perm _ _).trans (property_order_perm _)).trans
      (hperm.trans ((List.mergeSort_perm _ _).trans (property_order_perm _)).symm)
  have hmem : ∀ {entry : String × Json}, entry ∈ sorted entries → entry ∈ entries := by
    intro entry hentry
    exact ((List.mergeSort_perm _ _).trans (property_order_perm _)).mem_iff.mp hentry
  have hmem' : ∀ {entry : String × Json}, entry ∈ sorted entries' → entry ∈ entries := by
    intro entry hentry
    exact hmem (hsorted.mem_iff.mpr hentry)
  have hkeys : ∀ {left right : String × Json}, left ∈ entries → right ∈ entries →
      left.1 = right.1 → left = right :=
    fun hleft hright hkey => List.inj_on_of_nodup_map hnodup hleft hright hkey
  show propertyOrder (sorted entries) = propertyOrder (sorted entries')
  unfold propertyOrder
  congr 1
  · -- Array indices are ordered by their numbers, and a number has one text.
    let before : String × Json → String × Json → Prop := fun a b =>
      (arrayIndex a.1).getD 0 ≤ (arrayIndex b.1).getD 0
    have : IsTrans (String × Json) before := ⟨fun _ _ _ => Nat.le_trans⟩
    have : Std.Total before := ⟨fun a b => Nat.le_total _ _⟩
    refine @List.Perm.eq_of_pairwise _ before _ _ ?_
      (List.pairwise_insertionSort _ _) (List.pairwise_insertionSort _ _) ?_
    · intro left right hleft hright hle hge
      obtain ⟨hleft, hindex⟩ := List.mem_filter.mp ((List.mem_insertionSort _).mp hleft)
      obtain ⟨hright, hindex'⟩ := List.mem_filter.mp ((List.mem_insertionSort _).mp hright)
      obtain ⟨n, hn⟩ := Option.isSome_iff_exists.mp hindex
      obtain ⟨m, hm⟩ := Option.isSome_iff_exists.mp hindex'
      have heq : n = m := by
        have hboth := Nat.le_antisymm hle hge
        rwa [hn, hm] at hboth
      exact hkeys (hmem hleft) (hmem' hright) (array_index_inj hn (heq ▸ hm))
    · exact (List.perm_insertionSort _ _).trans
        ((hsorted.filter _).trans (List.perm_insertionSort _ _).symm)
  · -- The other keys are in the order of the collation, and no two of them compare equal.
    have hpairwise : ∀ entries : List (String × Json), ((sorted entries).filter fun entry =>
        (arrayIndex entry.1).isNone).Pairwise fun a b => collation.le a.1 b.1 = true := by
      intro entries
      refine List.Pairwise.filter _ (List.pairwise_mergeSort ?_ ?_ _)
      · exact fun a b c => collation.trans a.1 b.1 c.1
      · exact fun a b => by simpa using collation.total a.1 b.1
    refine @List.Perm.eq_of_pairwise _ (fun a b : String × Json => collation.le a.1 b.1 = true)
      _ _ ?_ (hpairwise entries) (hpairwise entries') (hsorted.filter _)
    intro left right hleft hright hle hge
    obtain ⟨hleft, hindex⟩ := List.mem_filter.mp hleft
    obtain ⟨hright, hindex'⟩ := List.mem_filter.mp hright
    have htie := hties left (hmem hleft) right (hmem' hright)
    by_contra hne
    have hkey : left.1 ≠ right.1 := fun hkey => hne (hkeys (hmem hleft) (hmem' hright) hkey)
    simp [tiedKeys, hkey, hindex, hindex', hle, hge] at htie

/-! ## One value, one text -/

/-- Items that are the same and have the same canonical values. -/
theorem map_of_same_items {collation : Collation} {items items' : List Json}
    (h : sameItems items items' = true) (hitems : ∀ item ∈ items, ∀ item' ∈ items',
      same item item' = true → canonicalize collation item = canonicalize collation item') :
    items.map (canonicalize collation) = items'.map (canonicalize collation) := by
  induction items generalizing items' with
  | nil =>
      cases items' with
      | nil => rfl
      | cons item' rest' => cases h
  | cons item rest ih =>
      cases items' with
      | nil => cases h
      | cons item' rest' =>
          rw [sameItems, Bool.and_eq_true] at h
          rw [List.map_cons, List.map_cons, hitems item (by simp) item' (by simp) h.1,
            ih h.2 fun a ha b hb => hitems a (by simp [ha]) b (by simp [hb])]

/-- Objects that are the same have the same members in some order. -/
theorem members_perm_of_same {collation : Collation} {fields fields' : List (String × Json)}
    (hnodup : (fields.map Prod.fst).Nodup) (hlength : fields.length = fields'.length)
    (hsame : ∀ field ∈ fields, ∃ value', (field.1, value') ∈ fields' ∧
      canonicalize collation field.2 = canonicalize collation value') :
    (canonicalizeMembers collation fields).Perm (canonicalizeMembers collation fields') := by
  have hsub : canonicalizeMembers collation fields ⊆ canonicalizeMembers collation fields' := by
    intro entry hentry
    rw [canonicalize_members_eq] at hentry ⊢
    obtain ⟨field, hfield, rfl⟩ := List.mem_map.mp hentry
    obtain ⟨value', hmem, hvalue⟩ := hsame field hfield
    exact List.mem_map.mpr ⟨(field.1, value'), hmem, by simp [canonicalMember, hvalue]⟩
  have hentries : (canonicalizeMembers collation fields).Nodup := by
    refine List.Nodup.of_map Prod.fst ?_
    rw [keys_canonical]
    exact hnodup
  refine (List.subperm_of_subset hentries hsub).perm_of_length_le ?_
  rw [canonicalize_members_eq, canonicalize_members_eq, List.length_map, List.length_map, hlength]

/-- A document without ties has the same canonical value in every order of its keys. -/
theorem canonicalize_of_same (collation : LocaleCollation) {value other : Json}
    (hvalue : isJsValue value = true) (hother : isJsValue other = true)
    (htie : hasTie collation.le value = false) (h : same value other = true) :
    canonicalize collation.le value = canonicalize collation.le other := by
  match value with
  | .arr items =>
      cases other with
      | arr items' =>
          have hitems := (js_items_iff items).mp hvalue
          have hitems' := (js_items_iff items').mp hother
          rw [canonicalize, canonicalize, canonicalize_items_eq, canonicalize_items_eq,
            map_of_same_items h fun item hitem item' hitem' hsame => ?_]
          have hnone : hasTie collation.le item = false := by
            by_contra hne
            have htrue := items_tie_iff.mpr ⟨item, hitem, Bool.of_not_eq_false hne⟩
            rw [hasTie, htrue] at htie
            cases htie
          exact canonicalize_of_same collation (hitems item hitem) (hitems' item' hitem') hnone
            hsame
      | null | bool | int | float | str | obj => simp [same] at h
  | .obj fields =>
      cases other with
      | obj fields' =>
          obtain ⟨hnodup, hfields⟩ := js_object_iff.mp hvalue
          obtain ⟨-, hfields'⟩ := js_object_iff.mp hother
          rw [same, Bool.and_eq_true, beq_iff_eq, same_members_iff] at h
          rw [hasTie, Bool.or_eq_false_iff] at htie
          have hperm : (canonicalizeMembers collation.le fields).Perm
              (canonicalizeMembers collation.le fields') := by
            refine members_perm_of_same hnodup h.1 ?_
            intro field hfield
            obtain ⟨value', hlookup, hsame⟩ := h.2 field hfield
            have hmem := mem_of_lookup hlookup
            have hnone : hasTie collation.le field.2 = false := by
              by_contra hne
              have htrue := members_tie_iff.mpr ⟨field, hfield, Bool.of_not_eq_false hne⟩
              rw [htrue] at htie
              cases htie.2
            have hdec := size_of_member hfield
            exact ⟨value', hmem, canonicalize_of_same collation (hfields field hfield)
              (hfields' _ hmem) hnone hsame⟩
          -- without ties the order of the sorted members does not depend on that of the given ones
          have hties : ∀ left ∈ canonicalizeMembers collation.le fields,
              ∀ right ∈ canonicalizeMembers collation.le fields,
                tiedKeys collation.le left.1 right.1 = false := by
            intro left hleft right hright
            rw [canonicalize_members_eq] at hleft hright
            obtain ⟨a, ha, rfl⟩ := List.mem_map.mp hleft
            obtain ⟨b, hb, rfl⟩ := List.mem_map.mp hright
            have hnone := List.any_eq_false.mp htie.1 a ha
            exact Bool.of_not_eq_true (List.any_eq_false.mp (Bool.of_not_eq_true hnone) b hb)
          rw [canonicalize_obj, canonicalize_obj, sort_members_congr collation hperm
            (by rw [keys_canonical]; exact hnodup) hties]
      | null | bool | int | float | str | arr => simp [same] at h
  | .null => cases other <;> simp_all [same]
  | .bool flag => cases other <;> simp_all [same]
  | .int n => cases other <;> simp_all [same]
  | .float text => cases other <;> simp_all [same]
  | .str text => cases other <;> simp_all [same]
termination_by sizeOf value

/-! ## A tie shows -/

/-- Every document is the same as itself. -/
theorem same_refl {value : Json} (hvalue : isJsValue value = true) : same value value = true := by
  match value with
  | .arr items =>
      have hitems : ∀ items' : List Json, (∀ item ∈ items', same item item = true) →
          sameItems items' items' = true := by
        intro items' h
        induction items' with
        | nil => rfl
        | cons item rest ih =>
            rw [sameItems, Bool.and_eq_true]
            exact ⟨h item (by simp), ih fun other hother => h other (by simp [hother])⟩
      rw [same]
      exact hitems items fun item hitem => same_refl ((js_items_iff items).mp hvalue item hitem)
  | .obj fields =>
      obtain ⟨hnodup, hfields⟩ := js_object_iff.mp hvalue
      rw [same, Bool.and_eq_true, beq_iff_eq, same_members_iff]
      refine ⟨rfl, ?_⟩
      intro field hfield
      have hdec := size_of_member hfield
      exact ⟨field.2, lookup_of_mem hnodup hfield, same_refl (hfields field hfield)⟩
  | .null => rfl
  | .bool flag => simp [same]
  | .int n => simp [same]
  | .float text => simp [same]
  | .str text => simp [same]
termination_by sizeOf value

/-- Objects with the same members in other orders are the same. -/
theorem same_of_perm {fields fields' : List (String × Json)}
    (hvalue : isJsValue (.obj fields) = true) (hperm : fields.Perm fields') :
    isJsValue (.obj fields') = true ∧ same (.obj fields) (.obj fields') = true := by
  obtain ⟨hnodup, hfields⟩ := js_object_iff.mp hvalue
  have hnodup' : (fields'.map Prod.fst).Nodup := (hperm.map Prod.fst).nodup_iff.mp hnodup
  refine ⟨js_object_iff.mpr ⟨hnodup', fun field hfield => hfields field
    (hperm.mem_iff.mpr hfield)⟩, ?_⟩
  rw [same, Bool.and_eq_true, beq_iff_eq, same_members_iff]
  refine ⟨hperm.length_eq, fun field hfield => ⟨field.2, ?_, same_refl (hfields field hfield)⟩⟩
  exact lookup_of_mem hnodup' (hperm.mem_iff.mp hfield)

/-- Two members with tied keys keep their order when members are sorted. -/
theorem tied_sublist (collation : LocaleCollation) {left right : String × Json}
    {entries : List (String × Json)} (htie : tiedKeys collation.le left.1 right.1 = true)
    (h : [left, right].Sublist entries) :
    [left, right].Sublist (sortMembers collation.le entries) := by
  simp only [tiedKeys, Bool.and_eq_true] at htie
  obtain ⟨⟨⟨⟨-, hleft⟩, hright⟩, hle⟩, -⟩ := htie
  have horder : ∀ {entries : List (String × Json)}, [left, right].Sublist entries →
      [left, right].Sublist (propertyOrder entries) := by
    intro entries hsub
    have hfilter := hsub.filter fun entry => (arrayIndex entry.1).isNone
    have hpair : [left, right].filter (fun entry => (arrayIndex entry.1).isNone) =
        [left, right] := by
      simp [hleft, hright]
    rw [hpair] at hfilter
    exact hfilter.trans (List.sublist_append_right _ _)
  refine horder (List.pair_sublist_mergeSort ?_ ?_ hle (horder h))
  · exact fun a b c => collation.trans a.1 b.1 c.1
  · exact fun a b => by simpa using collation.total a.1 b.1

/-- Two members stand in one order or the other. -/
theorem pair_sublist {α : Type} {a b : α} {l : List α} (ha : a ∈ l) (hb : b ∈ l) (hne : a ≠ b) :
    [a, b].Sublist l ∨ [b, a].Sublist l := by
  induction l with
  | nil => cases ha
  | cons c l ih =>
      rcases List.mem_cons.mp ha with rfl | harest
      · have hbrest := (List.mem_cons.mp hb).resolve_left hne.symm
        exact .inl ((List.singleton_sublist.mpr hbrest).cons_cons a)
      · rcases List.mem_cons.mp hb with rfl | hbrest
        · exact .inr ((List.singleton_sublist.mpr harest).cons_cons b)
        · exact (ih harest hbrest).imp (fun h => h.cons _) fun h => h.cons _

/-- In a list without repetition two members stand in one order only. -/
theorem pair_order_unique {α : Type} {a b : α} {l : List α} (hnodup : l.Nodup)
    (h : [a, b].Sublist l) : ¬[b, a].Sublist l := by
  induction l with
  | nil => cases h
  | cons c l ih =>
      intro h'
      obtain ⟨hc, hnodup⟩ := List.nodup_cons.mp hnodup
      cases h with
      | cons _ h =>
          cases h' with
          | cons _ h' => exact ih hnodup h h'
          | cons_cons _ h' => exact hc (h.subset (by simp))
      | cons_cons _ h =>
          cases h' with
          | cons _ h' => exact hc (h'.subset (by simp))
          | cons_cons _ h' => exact hc (h.subset (by simp))

/-- Turning the members of an object with two tied keys around changes its canonical value. -/
theorem reverse_of_tie (collation : LocaleCollation) {fields : List (String × Json)}
    (hvalue : isJsValue (.obj fields) = true) {left right : String × Json}
    (hleft : left ∈ fields) (hright : right ∈ fields)
    (htie : tiedKeys collation.le left.1 right.1 = true) :
    canonicalize collation.le (.obj fields) ≠ canonicalize collation.le (.obj fields.reverse) := by
  have hswap : ∀ {a b : String}, tiedKeys collation.le a b = true →
      tiedKeys collation.le b a = true := by
    intro a b h
    simp only [tiedKeys, Bool.and_eq_true, bne_iff_ne] at h ⊢
    exact ⟨⟨⟨⟨h.1.1.1.1.symm, h.1.1.2⟩, h.1.1.1.2⟩, h.2⟩, h.1.2⟩
  have hne : left ≠ right := by
    intro heq
    rw [heq] at htie
    simp [tiedKeys] at htie
  -- The member that stands first stays first on both sides.
  have key : ∀ {a b : String × Json}, tiedKeys collation.le a.1 b.1 = true →
      [a, b].Sublist fields → canonicalize collation.le (.obj fields) ≠
        canonicalize collation.le (.obj fields.reverse) := by
    intro a b htie hsub heq
    have hmap := hsub.map (canonicalMember collation.le)
    have hreverse := hmap.reverse
    rw [canonicalize_obj, canonicalize_obj, canonicalize_members_eq, canonicalize_members_eq,
      List.map_reverse] at heq
    have hfront := @tied_sublist collation
      (canonicalMember collation.le a) (canonicalMember collation.le b) _ htie hmap
    have hback := @tied_sublist collation
      (canonicalMember collation.le b) (canonicalMember collation.le a) _
      (hswap htie) hreverse
    rw [← Json.obj.inj heq] at hback
    refine pair_order_unique ?_ hfront hback
    rw [(sort_members_perm collation.le _).nodup_iff, ← canonicalize_members_eq]
    refine List.Nodup.of_map Prod.fst ?_
    rw [keys_canonical]
    exact (js_object_iff.mp hvalue).1
  rcases pair_sublist hleft hright hne with hsub | hsub
  · exact key htie hsub
  · exact key (hswap htie) hsub

/-- Replacing one item by one that is the same. -/
theorem same_items_replace {before after : List Json} {item item' : Json}
    (hbefore : ∀ other ∈ before, isJsValue other = true)
    (hafter : ∀ other ∈ after, isJsValue other = true) (h : same item item' = true) :
    sameItems (before ++ item :: after) (before ++ item' :: after) = true := by
  have hsame : ∀ {items : List Json}, (∀ other ∈ items, isJsValue other = true) →
      sameItems items items = true := by
    intro items hitems
    exact @same_refl (.arr items) ((js_items_iff items).mpr hitems)
  induction before with
  | nil => exact Bool.and_eq_true_iff.mpr ⟨h, hsame hafter⟩
  | cons other rest ih =>
      exact Bool.and_eq_true_iff.mpr ⟨same_refl (hbefore other (by simp)),
        ih fun next hnext => hbefore next (by simp [hnext])⟩

/-- Replacing one value of an object by one that is the same. -/
theorem same_members_replace {before after : List (String × Json)} {key : String}
    {value value' : Json} (hfields : isJsValue (.obj (before ++ (key, value) :: after)) = true)
    (hvalue' : isJsValue value' = true) (h : same value value' = true) :
    isJsValue (.obj (before ++ (key, value') :: after)) = true ∧
      same (.obj (before ++ (key, value) :: after)) (.obj (before ++ (key, value') :: after)) =
        true := by
  obtain ⟨hnodup, hmembers⟩ := js_object_iff.mp hfields
  have hnodup' : ((before ++ (key, value') :: after).map Prod.fst).Nodup := by
    simpa using hnodup
  refine ⟨js_object_iff.mpr ⟨hnodup', ?_⟩, ?_⟩
  · intro field hfield
    rcases List.mem_append.mp hfield with hmem | hmem
    · exact hmembers field (by simp [hmem])
    · rcases List.mem_cons.mp hmem with rfl | hmem
      · exact hvalue'
      · exact hmembers field (by simp [hmem])
  · rw [same, Bool.and_eq_true, beq_iff_eq, same_members_iff]
    refine ⟨by simp, ?_⟩
    intro field hfield
    rcases List.mem_append.mp hfield with hmem | hmem
    · exact ⟨field.2, lookup_of_mem hnodup' (by simp [hmem]), same_refl (hmembers field hfield)⟩
    · rcases List.mem_cons.mp hmem with rfl | hmem
      · exact ⟨value', lookup_of_mem hnodup' (by simp), h⟩
      · exact ⟨field.2, lookup_of_mem hnodup' (by simp [hmem]), same_refl (hmembers field hfield)⟩

/-- A change of one value of an object shows in its canonical value. -/
theorem canonical_replace {collation : Collation} {before after : List (String × Json)}
    {key : String} {value value' : Json}
    (hfields : isJsValue (.obj (before ++ (key, value') :: after)) = true)
    (h : canonicalize collation (.obj (before ++ (key, value) :: after)) =
      canonicalize collation (.obj (before ++ (key, value') :: after))) :
    canonicalize collation value = canonicalize collation value' := by
  rw [canonicalize_obj, canonicalize_obj] at h
  have hperm := (sort_members_perm collation
    (canonicalizeMembers collation (before ++ (key, value) :: after))).symm
  rw [Json.obj.inj h] at hperm
  have hmembers := hperm.trans (sort_members_perm collation _)
  have hmem : (key, canonicalize collation value) ∈
      canonicalizeMembers collation (before ++ (key, value') :: after) := by
    refine hmembers.mem_iff.mp ?_
    rw [canonicalize_members_eq]
    exact List.mem_map.mpr ⟨(key, value), by simp, rfl⟩
  have hmem' : (key, canonicalize collation value') ∈
      canonicalizeMembers collation (before ++ (key, value') :: after) := by
    rw [canonicalize_members_eq]
    exact List.mem_map.mpr ⟨(key, value'), by simp, rfl⟩
  have hnodup := (js_object_iff.mp hfields).1
  rw [← keys_canonical collation] at hnodup
  exact (Prod.mk.inj (List.inj_on_of_nodup_map hnodup hmem hmem' rfl)).2

/-- A document with a tie has another canonical value in another order of its keys. -/
theorem tie_shows (collation : LocaleCollation) {value : Json} (hvalue : isJsValue value = true)
    (htie : hasTie collation.le value = true) : ∃ other, isJsValue other = true ∧
      same value other = true ∧
        canonicalize collation.le value ≠ canonicalize collation.le other := by
  match value with
  | .arr items =>
      have hitems := (js_items_iff items).mp hvalue
      obtain ⟨item, hitem, hone⟩ := items_tie_iff.mp htie
      obtain ⟨item', hjs, hsame, hne⟩ := tie_shows collation (hitems item hitem) hone
      obtain ⟨before, after, rfl⟩ := List.append_of_mem hitem
      refine ⟨.arr (before ++ item' :: after), (js_items_iff _).mpr ?_, ?_, ?_⟩
      · intro other hother
        rcases List.mem_append.mp hother with hmem | hmem
        · exact hitems other (by simp [hmem])
        · rcases List.mem_cons.mp hmem with rfl | hmem
          · exact hjs
          · exact hitems other (by simp [hmem])
      · exact same_items_replace (fun other hother => hitems other (by simp [hother]))
          (fun other hother => hitems other (by simp [hother])) hsame
      · intro heq
        rw [canonicalize, canonicalize, canonicalize_items_eq, canonicalize_items_eq,
          List.map_append, List.map_append] at heq
        exact hne (List.cons.inj (List.append_cancel_left (Json.arr.inj heq))).1
  | .obj fields =>
      obtain ⟨-, hfields⟩ := js_object_iff.mp hvalue
      rw [hasTie, Bool.or_eq_true] at htie
      rcases htie with hkeys | hvalues
      · obtain ⟨left, hleft, hany⟩ := List.any_eq_true.mp hkeys
        obtain ⟨right, hright, htied⟩ := List.any_eq_true.mp hany
        obtain ⟨hjs, hsame⟩ := same_of_perm hvalue (List.reverse_perm fields).symm
        exact ⟨_, hjs, hsame, reverse_of_tie collation hvalue hleft hright htied⟩
      · obtain ⟨field, hfield, hone⟩ := members_tie_iff.mp hvalues
        have hdec := size_of_member hfield
        obtain ⟨value', hjs, hsame, hne⟩ := tie_shows collation (hfields field hfield) hone
        obtain ⟨before, after, rfl⟩ := List.append_of_mem hfield
        obtain ⟨hother, hboth⟩ := same_members_replace hvalue hjs hsame
        exact ⟨_, hother, hboth, fun heq => hne (canonical_replace hother heq)⟩
termination_by sizeOf value

/-! ## Texts and hashes -/

/-- The bytes of a text determine it. -/
theorem text_bytes_inj {text text' : List Char} (h : textBytes text = textBytes text') :
    text = text' := by
  have hbytes : (String.ofList text).toByteArray = (String.ofList text').toByteArray := by
    simp only [String.toByteArray_ofList, List.utf8Encode]
    exact congrArg List.toByteArray h
  exact String.ofList_injective (String.toByteArray_inj.mp hbytes)

/-- Two documents have one canonical text when they have one canonical value. -/
theorem canonical_text_iff {collation : Collation} {value other : Json}
    (hvalue : isJsValue value = true) (hother : isJsValue other = true) :
    canonicalJsonText collation value = canonicalJsonText collation other ↔
      canonicalize collation value = canonicalize collation other :=
  ⟨render_inj (js_value_canonical collation hvalue) (js_value_canonical collation hother),
    congrArg Json.render⟩

/-- Hashes without collisions are equal when the texts are. -/
theorem canonical_hash_iff (hash : ExactDigest) {collation : Collation} {value other : Json} :
    canonicalHashWith hash collation value = canonicalHashWith hash collation other ↔
      canonicalJsonText collation value = canonicalJsonText collation other := by
  refine ⟨fun h => text_bytes_inj (hash.injective h), fun h => ?_⟩
  rw [canonicalHashWith, h, canonicalHashWith]

/-- Equal texts and equal hashes mean the same value up to the order of keys, and the other way
round, exactly for the documents in which no object has two keys that compare equal; the first
direction holds of every document. -/
theorem canonical_json_iff (collation : LocaleCollation) (hash : ExactDigest)
    (value : JsDocument) :
    ((∀ other : JsDocument,
      (canonicalJsonText collation.le value.1 = canonicalJsonText collation.le other.1 ↔
        same value.1 other.1 = true) ∧
      (canonicalHashWith hash collation.le value.1 = canonicalHashWith hash collation.le other.1 ↔
        same value.1 other.1 = true)) ↔
      hasTie collation.le value.1 = false) ∧
    ∀ other : JsDocument,
      (canonicalJsonText collation.le value.1 = canonicalJsonText collation.le other.1 →
        same value.1 other.1 = true) ∧
      (canonicalHashWith hash collation.le value.1 = canonicalHashWith hash collation.le other.1 →
        same value.1 other.1 = true) := by
  have hmeans : ∀ other : JsDocument,
      canonicalJsonText collation.le value.1 = canonicalJsonText collation.le other.1 →
        same value.1 other.1 = true :=
    fun other htext =>
      same_of_canonicalize value.2 other.2 ((canonical_text_iff value.2 other.2).mp htext)
  refine ⟨⟨?_, ?_⟩, fun other => ⟨hmeans other, fun hhash =>
    hmeans other ((canonical_hash_iff hash).mp hhash)⟩⟩
  · intro h
    by_contra htie
    obtain ⟨other, hjs, hsame, hne⟩ := tie_shows collation value.2 (Bool.of_not_eq_false htie)
    exact hne ((canonical_text_iff value.2 hjs).mp ((h ⟨other, hjs⟩).1.mpr hsame))
  · intro htie other
    have htext : canonicalJsonText collation.le value.1 = canonicalJsonText collation.le other.1 ↔
        same value.1 other.1 = true :=
      ⟨hmeans other, fun hsame => (canonical_text_iff value.2 other.2).mpr
        (canonicalize_of_same collation value.2 other.2 htie hsame)⟩
    exact ⟨htext, (canonical_hash_iff hash).trans htext⟩

/-- The code points of a text with the composed letter written as two. -/
def decomposed (text : String) : List Nat :=
  text.toList.flatMap fun c => if c = 'é' then [0x65, 0x301] else [c.toNat]

/-- A collation that holds the composed and the decomposed spelling of a letter for equal, as
`localeCompare` does, and orders by code points otherwise. -/
def decomposing : LocaleCollation where
  le left right := decide (decomposed left ≤ decomposed right)
  total left right := by simpa using le_total (decomposed left) (decomposed right)
  trans left middle right hle hle' := by
    rw [decide_eq_true_eq] at hle hle' ⊢
    exact hle.trans hle'

/-- The keys `é` in the two spellings, in the two orders. -/
theorem two_spellings_differ :
    let value := Json.obj [("é", .int 1), ("é", .int 2)]
    let other := Json.obj [("é", .int 2), ("é", .int 1)]
    same value other = true ∧
      canonicalJsonText decomposing.le value ≠ canonicalJsonText decomposing.le other := by
  intro value other
  have hvalue : canonicalize decomposing.le value = value := canonicalize_of_canonical (by decide)
  have hother : canonicalize decomposing.le other = other := canonicalize_of_canonical (by decide)
  refine ⟨by decide, ?_⟩
  rw [canonicalJsonText, canonicalJsonText, hvalue, hother]
  decide

end Dopedb.Cloud
