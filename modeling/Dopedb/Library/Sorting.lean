import Mathlib.Data.List.Sort

/-!
# Stable sorting

Facts about `List.insertionSort`, the stable sort the models use. `insertion_sort_concat` is the
rule for appending a greatest element. `sortBy` sorts by a comparator with three answers; where
elements that compare equal are equal, the result depends on the elements alone
(`sort_by_congr`). `mem_take_merge_sort` counts what is before an element.
-/

namespace Dopedb.Library

universe u

section
variable {α : Type u} {r : α → α → Prop} [DecidableRel r]

/-- Inserting an element before a later greatest element. -/
theorem ordered_insert_concat {a b : α} (l : List α) (h : r a b) :
    (l ++ [b]).orderedInsert r a = l.orderedInsert r a ++ [b] := by
  induction l with
  | nil => simp [h]
  | cons c l ih =>
      simp only [List.cons_append, List.orderedInsert_cons]
      split
      · rfl
      · rw [ih, List.cons_append]

/-- A greatest element that comes last stays last. -/
theorem insertion_sort_concat {a : α} {l : List α} (h : ∀ x ∈ l, r x a) :
    (l ++ [a]).insertionSort r = l.insertionSort r ++ [a] := by
  induction l with
  | nil => rfl
  | cons b l ih =>
      rw [List.cons_append, List.insertionSort_cons, List.insertionSort_cons,
        ih fun x hx => h x (by simp [hx]), ordered_insert_concat _ (h b (by simp))]

end

section
variable {α : Type u} {cmp : α → α → Ordering}

open Std

/-- Comparing by the values of a function is transitive. -/
theorem trans_cmp_on {β : Type u} [TransCmp cmp] (f : β → α) :
    TransCmp fun b b' => cmp (f b) (f b') where
  eq_swap := OrientedCmp.eq_swap
  isLE_trans := TransCmp.isLE_trans

/-- Stable sorting by a comparator. -/
def sortBy (cmp : α → α → Ordering) (l : List α) : List α :=
  l.insertionSort fun a b => (cmp a b).isLE

/-- Sorting reorders. -/
theorem sort_by_perm (l : List α) : (sortBy cmp l).Perm l := List.perm_insertionSort _ l

/-- The elements of the sorted list. -/
@[simp] theorem mem_sort_by {a : α} {l : List α} : a ∈ sortBy cmp l ↔ a ∈ l :=
  (sort_by_perm l).mem_iff

/-- The sorted list is in order. -/
theorem pairwise_sort_by [TransCmp cmp] (l : List α) :
    (sortBy cmp l).Pairwise fun a b => (cmp a b).isLE := by
  have : IsTrans α fun a b => (cmp a b).isLE := ⟨fun _ _ _ => TransCmp.isLE_trans⟩
  have : Std.Total fun a b => (cmp a b).isLE := by
    refine ⟨fun a b => ?_⟩
    have hswap : cmp a b = (cmp b a).swap := OrientedCmp.eq_swap
    rw [hswap]
    cases cmp b a <;> simp
  exact List.pairwise_insertionSort _ l

/-- A list in order is left alone. -/
theorem sort_by_eq_self {l : List α} (h : l.Pairwise fun a b => (cmp a b).isLE) :
    sortBy cmp l = l :=
  List.Pairwise.insertionSort_eq h

/-- Sorting twice is sorting once. -/
theorem sort_by_idem [TransCmp cmp] (l : List α) : sortBy cmp (sortBy cmp l) = sortBy cmp l :=
  sort_by_eq_self (pairwise_sort_by l)

/-- Reordered lists are sorted alike when elements that compare equal are equal. -/
theorem sort_by_congr [TransCmp cmp] {l l' : List α} (h : l.Perm l')
    (hties : ∀ a ∈ l, ∀ b ∈ l, cmp a b = .eq → a = b) : sortBy cmp l = sortBy cmp l' := by
  refine List.Perm.eq_of_pairwise ?_ (pairwise_sort_by l) (pairwise_sort_by l')
    ((sort_by_perm l).trans (h.trans (sort_by_perm l').symm))
  intro a b ha hb hab hba
  have hb : b ∈ l := h.mem_iff.mpr (mem_sort_by.mp hb)
  exact hties a (mem_sort_by.mp ha) b hb (OrientedCmp.isLE_antisymm hab hba)

/-- Lists that are sorted alike are reordered. -/
theorem perm_of_sort_by_eq {l l' : List α} (h : sortBy cmp l = sortBy cmp l') : l.Perm l' :=
  (sort_by_perm l).symm.trans (h ▸ sort_by_perm l')

/-- Sorting commutes with a map that keeps the comparator's answers. -/
theorem map_sort_by {β : Type u} {cmp' : β → β → Ordering} (f : α → β)
    (h : ∀ a b, cmp a b = cmp' (f a) (f b)) (l : List α) :
    (sortBy cmp l).map f = sortBy cmp' (l.map f) :=
  List.map_insertionSort _ _ f l fun a _ b _ => by rw [h a b]

end

/-! ## The first elements -/

section
variable {α : Type u} {le : α → α → Bool}

/-- An element is among the first `n` of the sorted list when fewer than `n` are strictly before
it. -/
theorem mem_take_merge_sort {l : List α} (htrans : ∀ a b c, le a b → le b c → le a c)
    (htotal : ∀ a b, le a b || le b a) (hanti : ∀ a ∈ l, ∀ b ∈ l, le a b → le b a → a = b)
    (hnodup : l.Nodup) {a : α} (ha : a ∈ l) (n : ℕ) :
    a ∈ (l.mergeSort le).take n ↔ l.countP (fun b => !le a b) < n := by
  have hperm := List.mergeSort_perm l le
  have hpairwise := List.pairwise_mergeSort htrans htotal l
  have hsorted : (l.mergeSort le).Nodup := hperm.nodup_iff.mpr hnodup
  rw [← hperm.countP_eq]
  obtain ⟨earlier, later, hsplit⟩ := List.append_of_mem (hperm.mem_iff.mpr ha)
  rw [hsplit] at hpairwise hsorted ⊢
  obtain ⟨-, hlater, hbefore⟩ := List.pairwise_append.mp hpairwise
  obtain ⟨-, hnot, hdisjoint⟩ := List.nodup_append.mp hsorted
  have hmem : ∀ b ∈ earlier, b ∈ l := by
    intro b hb
    rw [← hperm.mem_iff, hsplit]
    exact List.mem_append_left _ hb
  have hearlier : ∀ b ∈ earlier, (!le a b) = true := by
    intro b hb
    rw [Bool.not_eq_true']
    cases hle : le a b with
    | false => rfl
    | true =>
        have heq := hanti b (hmem b hb) a ha (hbefore b hb a List.mem_cons_self) hle
        exact absurd heq (hdisjoint b hb a List.mem_cons_self)
  have hself : le a a = true := by
    have := htotal a a
    rwa [Bool.or_self] at this
  -- the elements strictly before it are those in front of it
  have hcount : (earlier ++ a :: later).countP (fun b => !le a b) = earlier.length := by
    rw [List.countP_append, List.countP_eq_length.mpr hearlier, List.countP_eq_zero.mpr]
    · rfl
    · intro b hb
      rcases List.mem_cons.mp hb with rfl | hb
      · simp [hself]
      · simp [(List.pairwise_cons.mp hlater).1 b hb]
  rw [hcount]
  constructor
  · intro htake
    by_contra hlength
    rw [List.take_append_of_le_length (by omega)] at htake
    exact hdisjoint a (List.mem_of_mem_take htake) a List.mem_cons_self rfl
  · intro hlength
    rw [List.take_append, List.mem_append]
    have hpos : n - earlier.length = (n - earlier.length - 1) + 1 := by omega
    rw [hpos, List.take_succ_cons]
    exact .inr List.mem_cons_self

end

end Dopedb.Library
