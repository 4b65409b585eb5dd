import Mathlib.Data.Multiset.AddSub
import Mathlib.Data.List.Sort
import Mathlib.Order.Defs.LinearOrder

/-!
# Pages of ordered answers

A query that orders a table by a key may answer with any list that holds the rows of the table in
key order: rows that tie may come in any order, and in another one next time. `Separated` says that
an offset does not cut a group of ties that differ in what is projected of them. At such an offset
every answer has the same rows before it, `take_perm`; at any other offset two answers have
different rows after it, `exists_answers_of_not_separated`.
-/

namespace Dopedb.Library

universe u v w

variable {ρ : Type u} {κ : Type v} {β : Type w} [LinearOrder κ]

/-- What a query that orders a table by a key may answer. -/
structure Answer (key : ρ → κ) (table answer : List ρ) : Prop where
  perm : answer.Perm table
  sorted : (answer.map key).Pairwise (· ≤ ·)

/-- No row before an offset ties with a row after it, unless they look the same. -/
def Separated (key : ρ → κ) (project : ρ → β) (table : List ρ) (offset : Nat) : Prop :=
  ∀ answer, Answer key table answer → ∀ x ∈ answer.take offset, ∀ y ∈ answer.drop offset,
    key x = key y → project x = project y

variable {key : ρ → κ} {project : ρ → β} {table answer answer' : List ρ} {offset : Nat}

/-- Two answers have the same keys at every position. -/
theorem Answer.keys_eq (h : Answer key table answer) (h' : Answer key table answer') :
    answer.map key = answer'.map key := by
  have hperm : (answer.map key).Perm (answer'.map key) := (h.perm.trans h'.perm.symm).map key
  exact hperm.eq_of_pairwise (fun a b _ _ hab hba => le_antisymm hab hba) h.sorted h'.sorted

/-- Lists look the same when the rows of each key do. -/
theorem perm_of_keys (key : ρ → κ) {rows rows' : List ρ}
    (h : ∀ k, ((rows.filter (key · = k)).map project).Perm
      ((rows'.filter (key · = k)).map project)) : (rows.map project).Perm (rows'.map project) := by
  classical
  have hpair : (rows.map fun x => (key x, project x)).Perm
      (rows'.map fun x => (key x, project x)) := by
    rw [List.perm_iff_count]
    rintro ⟨k, v⟩
    have hcount : ∀ l : List ρ, (l.map fun x => (key x, project x)).count (k, v) =
        ((l.filter (key · = k)).map project).count v := by
      intro l
      rw [List.count_eq_countP, List.count_eq_countP, List.countP_map, List.countP_map,
        List.countP_filter]
      refine List.countP_congr fun x _ => ?_
      simp [and_comm]
    rw [hcount, hcount, (h k).count_eq]
  have hmap := hpair.map Prod.snd
  simpa only [List.map_map, Function.comp_def] using hmap

/-- The rows of a key that an answer has before an offset, and those it has after it. -/
theorem Answer.filter_perm (h : Answer key table answer) (offset : Nat) (k : κ) :
    ((answer.take offset).filter (key · = k) ++ (answer.drop offset).filter (key · = k)).Perm
      (table.filter (key · = k)) := by
  rw [← List.filter_append, List.take_append_drop]
  exact h.perm.filter _

/-- Answers have equally many rows of a key before an offset. -/
theorem Answer.filter_length (h : Answer key table answer) (h' : Answer key table answer')
    (offset : Nat) (k : κ) :
    ((answer.take offset).filter (key · = k)).length =
      ((answer'.take offset).filter (key · = k)).length := by
  have hlength : ∀ l : List ρ, (l.filter (key · = k)).length = (l.map key).count k := by
    intro l
    rw [← List.countP_eq_length_filter, List.count_eq_countP, List.countP_map]
    refine List.countP_congr fun x _ => ?_
    simp
  rw [hlength, hlength, List.map_take, List.map_take, h.keys_eq h']

/-- At a separated offset every answer has the same rows before it. -/
theorem take_perm (h : Answer key table answer) (h' : Answer key table answer')
    (hseparated : Separated key project table offset) :
    ((answer.take offset).map project).Perm ((answer'.take offset).map project) := by
  refine perm_of_keys key fun k => ?_
  have hall := h.filter_perm offset k
  have hall' := h'.filter_perm offset k
  have hlength := h.filter_length h' offset k
  have htotal := (hall.trans hall'.symm).length_eq
  rw [List.length_append, List.length_append] at htotal
  cases hafter : (answer.drop offset).filter (key · = k) with
  | nil =>
      -- No row of this key comes later, so all of them come before the offset in both answers.
      have hafter' : (answer'.drop offset).filter (key · = k) = [] := by
        rw [hafter, List.length_nil] at htotal
        exact List.eq_nil_of_length_eq_zero (by omega)
      rw [hafter, List.append_nil] at hall
      rw [hafter', List.append_nil] at hall'
      exact (hall.trans hall'.symm).map project
  | cons y after =>
      cases hbefore : (answer.take offset).filter (key · = k) with
      | nil =>
          rw [hbefore, List.length_nil] at hlength
          rw [List.eq_nil_of_length_eq_zero hlength.symm]
      | cons x before =>
          -- The offset cuts the rows of this key, so all of them look the same.
          have hx : x ∈ answer.take offset ∧ key x = k := by
            have hmem : x ∈ (answer.take offset).filter (key · = k) := by
              rw [hbefore]
              exact List.mem_cons_self
            simpa using hmem
          have hy : y ∈ answer.drop offset ∧ key y = k := by
            have hmem : y ∈ (answer.drop offset).filter (key · = k) := by
              rw [hafter]
              exact List.mem_cons_self
            simpa using hmem
          have hsame : ∀ z ∈ table.filter (key · = k), project z = project x := by
            intro z hz
            have hxy := hseparated answer h x hx.1 y hy.1 (hx.2.trans hy.2.symm)
            have hkey : key z = k := by
              have := List.mem_filter.mp hz
              simpa using this.2
            rcases List.mem_append.mp (hall.mem_iff.mpr hz) with hmem | hmem
            · have hz' := hseparated answer h z (List.mem_filter.mp hmem).1 y hy.1
                (hkey.trans hy.2.symm)
              exact hz'.trans hxy.symm
            · exact (hseparated answer h x hx.1 z (List.mem_filter.mp hmem).1
                (hx.2.trans hkey.symm)).symm
          have hconst : ((answer.take offset).filter (key · = k)).map project =
              List.replicate ((answer.take offset).filter (key · = k)).length (project x) := by
            rw [List.eq_replicate_iff]
            refine ⟨List.length_map _, fun v hv => ?_⟩
            obtain ⟨z, hz, rfl⟩ := List.mem_map.mp hv
            exact hsame z (hall.subset (List.mem_append_left _ hz))
          have hconst' : ((answer'.take offset).filter (key · = k)).map project =
              List.replicate ((answer'.take offset).filter (key · = k)).length (project x) := by
            rw [List.eq_replicate_iff]
            refine ⟨List.length_map _, fun v hv => ?_⟩
            obtain ⟨z, hz, rfl⟩ := List.mem_map.mp hv
            exact hsame z (hall'.subset (List.mem_append_left _ hz))
          rw [← hbefore, hconst, hconst', hlength]

/-- Where an offset is not separated, two answers have different rows after it. -/
theorem exists_answers_of_not_separated (h : ¬ Separated key project table offset) :
    ∃ answer answer', Answer key table answer ∧ Answer key table answer' ∧
      ¬ ((answer.drop offset).map project).Perm ((answer'.drop offset).map project) := by
  unfold Separated at h
  push Not at h
  obtain ⟨answer, hanswer, x, hx, y, hy, hkey, hne⟩ := h
  obtain ⟨before, between, htake⟩ := List.append_of_mem hx
  obtain ⟨middle, after, hdrop⟩ := List.append_of_mem hy
  have hsplit : answer = (before ++ x :: between) ++ (middle ++ y :: after) := by
    rw [← htake, ← hdrop, List.take_append_drop]
  have hlength : (before ++ x :: between).length = (before ++ y :: between).length := by simp
  -- The other answer has the two tying rows exchanged.
  refine ⟨answer, (before ++ y :: between) ++ (middle ++ x :: after), hanswer, ⟨?_, ?_⟩, ?_⟩
  · classical
    refine List.Perm.trans ?_ hanswer.perm
    rw [hsplit, List.perm_iff_count]
    intro a
    simp only [List.count_append, List.count_cons]
    omega
  · have hsorted := hanswer.sorted
    rw [hsplit] at hsorted
    simpa only [List.map_append, List.map_cons, hkey] using hsorted
  · have hle : offset ≤ answer.length := by
      by_contra hlt
      rw [List.drop_of_length_le (by omega)] at hy
      cases hy
    have hoffset : offset = (before ++ y :: between).length := by
      rw [← hlength, ← htake, List.length_take, Nat.min_eq_left hle]
    rw [hdrop, hoffset, List.drop_left]
    intro hperm
    rw [List.map_append, List.map_append, List.map_cons, List.map_cons,
      List.perm_append_left_iff, ← Multiset.coe_eq_coe, ← Multiset.cons_coe,
      ← Multiset.cons_coe] at hperm
    exact hne ((Multiset.cons_inj_left _).mp hperm).symm

end Dopedb.Library
