import Mathlib.Data.List.Dedup
import Mathlib.Data.List.Count
import Dopedb.Library.Sorting

/-!
# Maps collected from lists

What a map, a sorted set and a multimap built from a list of entries hold, and the matching of two
lists as multisets. `collected_eq_some` and `grouped` describe the maps, `sorted_keys_congr` the
order in which a sorted map is walked, and `unmatched_nil_iff_perm` when two multisets match.
-/

namespace Dopedb.Library

open Std

universe u v

section

variable {K : Type u} {V : Type v} [DecidableEq K]

/-- The value a map collected from the pairs has at a key: the last pair wins. -/
def collected (pairs : List (K × V)) (key : K) : Option V := pairs.reverse.lookup key

/-- The values that a multimap collected from the pairs has at a key, in the order of the pairs. -/
def grouped (pairs : List (K × V)) (key : K) : List V :=
  pairs.filterMap fun pair => if pair.1 = key then some pair.2 else none

/-- The distinct keys in the order in which a sorted map is walked. -/
def sortedKeys (cmp : K → K → Ordering) (keys : List K) : List K := sortBy cmp keys.dedup

/-- A sorted map has the keys of its entries. -/
@[simp] theorem mem_sorted_keys {cmp : K → K → Ordering} {keys : List K} {key : K} :
    key ∈ sortedKeys cmp keys ↔ key ∈ keys := by
  simp [sortedKeys]

/-- The order of a sorted map depends on its keys alone. -/
theorem sorted_keys_congr {cmp : K → K → Ordering} [TransCmp cmp] [LawfulEqCmp cmp]
    {keys keys' : List K} (h : ∀ key, key ∈ keys ↔ key ∈ keys') :
    sortedKeys cmp keys = sortedKeys cmp keys' :=
  sort_by_congr ((List.perm_ext_iff_of_nodup (List.nodup_dedup keys) (List.nodup_dedup keys')).mpr
    fun key => by simp [h key]) fun _ _ _ _ => LawfulEqCmp.eq_of_compare

/-- A pair that is looked up is in the list. -/
theorem mem_of_lookup {pairs : List (K × V)} {key : K} {value : V}
    (h : pairs.lookup key = some value) : (key, value) ∈ pairs := by
  induction pairs with
  | nil => cases h
  | cons pair rest ih =>
      obtain ⟨k, v⟩ := pair
      rw [List.lookup_cons] at h
      cases hk : key == k with
      | true =>
          rw [hk] at h
          rw [eq_of_beq hk, Option.some.inj h]
          exact List.mem_cons_self
      | false =>
          rw [hk] at h
          exact List.mem_cons_of_mem _ (ih h)

/-- A collected map has a value at a key exactly when a pair has the key. -/
theorem collected_is_some {pairs : List (K × V)} {key : K} :
    (collected pairs key).isSome ↔ key ∈ pairs.map Prod.fst := by
  rw [collected, Option.isSome_iff_ne_none, ne_eq, List.lookup_eq_none_iff]
  simp only [List.mem_reverse, List.mem_map, bne_iff_ne, not_forall, not_not, exists_prop]
  exact exists_congr fun pair => and_congr_right fun _ => eq_comm

/-- A collected map has no value at a key exactly when no pair has the key. -/
theorem collected_eq_none {pairs : List (K × V)} {key : K} :
    collected pairs key = none ↔ key ∉ pairs.map Prod.fst := by
  rw [← collected_is_some, Bool.not_eq_true, Option.isSome_eq_false_iff, Option.isNone_iff_eq_none]

/-- Where keys are distinct, a collected map holds exactly the pairs. -/
theorem collected_eq_some {pairs : List (K × V)} (h : (pairs.map Prod.fst).Nodup) {key : K}
    {value : V} : collected pairs key = some value ↔ (key, value) ∈ pairs := by
  constructor
  · intro hlookup
    exact List.mem_reverse.mp (mem_of_lookup hlookup)
  · intro hmem
    obtain ⟨value', hvalue'⟩ :=
      Option.isSome_iff_exists.mp (collected_is_some.mpr (List.mem_map_of_mem hmem))
    have hmem' := List.mem_reverse.mp (mem_of_lookup hvalue')
    have hpair := List.inj_on_of_nodup_map h hmem hmem' rfl
    rw [hvalue', ← (Prod.mk.inj hpair).2]

/-- A multimap has no values at a key exactly when no pair has the key. -/
theorem grouped_eq_nil {pairs : List (K × V)} {key : K} :
    grouped pairs key = [] ↔ key ∉ pairs.map Prod.fst := by
  simp only [grouped, List.filterMap_eq_nil_iff, ite_eq_right_iff, reduceCtorEq, imp_false,
    List.mem_map, not_exists, not_and]

end

section

variable {α : Type u} [DecidableEq α]

/-- The elements of the source that are left over when each of them is matched with one equal
element of the comparison. -/
def unmatched : List α → List α → List α
  | _, [] => []
  | comparison, value :: rest =>
      if value ∈ comparison then unmatched (comparison.erase value) rest
      else value :: unmatched comparison rest

/-- How often an element is left over. -/
theorem count_unmatched (comparison source : List α) (a : α) :
    (unmatched comparison source).count a = source.count a - comparison.count a := by
  induction source generalizing comparison with
  | nil => simp [unmatched]
  | cons value rest ih =>
      rw [unmatched]
      split
      · rename_i hmem
        rw [ih, List.count_erase, List.count_cons]
        have hpos := List.count_pos_iff.mpr hmem
        by_cases ha : value = a
        · subst ha
          simp only [beq_self_eq_true, if_true]
          omega
        · simp [ha]
      · rename_i hmem
        rw [List.count_cons, ih, List.count_cons]
        by_cases ha : value = a
        · subst ha
          simp [List.count_eq_zero_of_not_mem hmem]
        · simp [ha]

/-- Nothing is left over on either side exactly when the lists hold the same elements. -/
theorem unmatched_nil_iff_perm {source comparison : List α} :
    (unmatched comparison source = [] ∧ comparison.diff source = []) ↔
      comparison.Perm source := by
  have hnil : ∀ l : List α, l = [] ↔ ∀ a, l.count a = 0 := fun l => by
    simp [List.count_eq_zero, List.eq_nil_iff_forall_not_mem]
  rw [hnil, hnil, List.perm_iff_count]
  simp only [count_unmatched, List.count_diff]
  constructor
  · rintro ⟨hsource, hcomparison⟩ a
    have hle := hsource a
    have hge := hcomparison a
    omega
  · intro h
    exact ⟨fun a => by rw [h a, Nat.sub_self], fun a => by rw [h a, Nat.sub_self]⟩

end

end Dopedb.Library
