import Mathlib.Data.List.Basic
import Mathlib.Data.List.Forall2
import Mathlib.Data.List.Induction
import Mathlib.Algebra.Order.BigOperators.Group.List
import Mathlib.Algebra.Order.Monoid.NatCast
import Mathlib.Algebra.Order.Ring.Nat

/-!
# Folding a stream into rows

A stream of items is kept as rows: an item that continues the last row is merged into it, and any
other item opens a row of its own. `Folds` says which items a row stands for, and `ReadsOnce` that rows
read in their order give items of a history at most once and in their order. `newestFitting` keeps
the longest suffix that fits a bound; `newest_fitting_append` says that what was dropped once stays
dropped.
-/

namespace Dopedb.Library

universe u

variable {α : Type u}

section Fold

variable (merge : α → α → Option α)

/-- One item more: merged into the last row, or a row of its own. -/
def pushFolded (rows : List α) (item : α) : List α :=
  match rows.getLast?.bind fun last => merge last item with
  | some folded => rows.dropLast ++ [folded]
  | none => rows ++ [item]

/-- The rows of a stream. -/
def foldStream (items : List α) : List α := items.foldl (pushFolded merge) []

/-- A row stands for the items that were merged into it. -/
inductive Folds : α → List α → Prop where
  | single (item : α) : Folds item [item]
  | merged {row row' item : α} {segment : List α} (h : Folds row segment)
      (hmerge : merge row item = some row') : Folds row' (segment ++ [item])

/-- The rows stand for segments of items, one after the other. -/
abbrev RowsOf (rows : List α) (segments : List (List α)) : Prop :=
  List.Forall₂ (Folds merge) rows segments

/-- Reading the rows in their order gives items of the history at most once and in their order. -/
def ReadsOnce (history rows : List α) : Prop :=
  ∃ segments, RowsOf merge rows segments ∧ segments.flatten.Sublist history

variable {merge}

@[simp] theorem fold_stream_nil : foldStream merge [] = [] := rfl

/-- The rows of a stream that has one item more. -/
theorem fold_stream_append_singleton (items : List α) (item : α) :
    foldStream merge (items ++ [item]) = pushFolded merge (foldStream merge items) item := by
  simp [foldStream]

/-- An item that continues the last row is merged into it. -/
theorem push_folded_merge {front : List α} {last item folded : α}
    (h : merge last item = some folded) :
    pushFolded merge (front ++ [last]) item = front ++ [folded] := by
  simp [pushFolded, h]

/-- An item that does not continue the last row opens one. -/
theorem push_folded_open {rows : List α} {item : α}
    (h : ∀ last ∈ rows.getLast?, merge last item = none) :
    pushFolded merge rows item = rows ++ [item] := by
  unfold pushFolded
  cases hlast : rows.getLast? with
  | none => rfl
  | some last =>
      rw [Option.bind_some, h last hlast]

/-- An item more is merged into the last row, or opens one. -/
theorem push_folded_cases (rows : List α) (item : α) :
    (∃ front last folded, rows = front ++ [last] ∧ merge last item = some folded ∧
      pushFolded merge rows item = front ++ [folded]) ∨
    ((∀ last ∈ rows.getLast?, merge last item = none) ∧
      pushFolded merge rows item = rows ++ [item]) := by
  cases hlast : rows.getLast? with
  | none =>
      right
      refine ⟨by simp, push_folded_open ?_⟩
      rw [hlast]
      simp
  | some last =>
      obtain ⟨front, hrows⟩ := List.getLast?_eq_some_iff.mp hlast
      cases hmerge : merge last item with
      | none =>
          right
          refine ⟨?_, push_folded_open ?_⟩
          · intro other hother
            cases hother
            exact hmerge
          · rw [hlast]
            intro other hother
            cases hother
            exact hmerge
      | some folded =>
          left
          refine ⟨front, last, folded, hrows, hmerge, ?_⟩
          rw [hrows]
          exact push_folded_merge hmerge

/-- The segments of two lists of rows are those of the first, then those of the second. -/
theorem rows_of_append {front back : List α} {segments : List (List α)}
    (h : RowsOf merge (front ++ back) segments) :
    ∃ before after, segments = before ++ after ∧ RowsOf merge front before ∧
      RowsOf merge back after := by
  induction front generalizing segments with
  | nil => exact ⟨[], segments, rfl, .nil, h⟩
  | cons row front ih =>
      cases h with
      | cons hrow hrest =>
          obtain ⟨before, after, rfl, hfront, hback⟩ := ih hrest
          exact ⟨_ :: before, after, rfl, .cons hrow hfront, hback⟩

/-- One row stands for one segment. -/
theorem rows_of_singleton {row : α} {segments : List (List α)} (h : RowsOf merge [row] segments) :
    ∃ segment, segments = [segment] ∧ Folds merge row segment := by
  cases h with
  | cons hrow hrest =>
      cases hrest
      exact ⟨_, rfl, hrow⟩

/-- The rows of a stream stand for all of it. -/
theorem fold_stream_rows (items : List α) :
    ∃ segments, RowsOf merge (foldStream merge items) segments ∧ segments.flatten = items := by
  induction items using List.reverseRecOn with
  | nil => exact ⟨[], .nil, rfl⟩
  | append_singleton items item ih =>
      obtain ⟨segments, hrows, hflatten⟩ := ih
      rw [fold_stream_append_singleton]
      obtain ⟨front, last, folded, hfold, hmerge, hpush⟩ | ⟨_, hpush⟩ :=
        push_folded_cases (foldStream merge items) item
      · rw [hfold] at hrows
        obtain ⟨before, after, rfl, hfront, hlast⟩ := rows_of_append hrows
        obtain ⟨segment, rfl, hsegment⟩ := rows_of_singleton hlast
        rw [hpush]
        refine ⟨before ++ [segment ++ [item]],
          List.rel_append hfront (.cons (.merged hsegment hmerge) .nil), ?_⟩
        rw [← hflatten]
        simp
      · rw [hpush]
        refine ⟨segments ++ [[item]], List.rel_append hrows (.cons (.single item) .nil), ?_⟩
        simp [hflatten]

/-- The rows of a stream read it. -/
theorem fold_stream_reads (items : List α) : ReadsOnce merge items (foldStream merge items) := by
  obtain ⟨segments, hrows, hflatten⟩ := @fold_stream_rows _ merge items
  exact ⟨segments, hrows, hflatten ▸ List.Sublist.refl _⟩

/-- Fewer rows stand for fewer segments. -/
theorem rows_of_sublist {rows rows' : List α} {segments : List (List α)}
    (h : RowsOf merge rows segments) (hsub : rows'.Sublist rows) :
    ∃ segments', RowsOf merge rows' segments' ∧ segments'.flatten.Sublist segments.flatten := by
  induction hsub generalizing segments with
  | slnil => exact ⟨segments, h, List.Sublist.refl _⟩
  | cons row _ ih =>
      cases h with
      | cons hrow hrest =>
          obtain ⟨segments', hrows', hflatten⟩ := ih hrest
          exact ⟨segments', hrows', hflatten.trans (List.sublist_append_right _ _)⟩
  | cons_cons row _ ih =>
      cases h with
      | cons hrow hrest =>
          obtain ⟨segments', hrows', hflatten⟩ := ih hrest
          exact ⟨_ :: segments', .cons hrow hrows', (List.Sublist.refl _).append hflatten⟩

/-- Fewer rows read the history too. -/
theorem ReadsOnce.sublist {history rows rows' : List α} (h : ReadsOnce merge history rows)
    (hsub : rows'.Sublist rows) : ReadsOnce merge history rows' := by
  obtain ⟨segments, hrows, hflatten⟩ := h
  obtain ⟨segments', hrows', hflatten'⟩ := rows_of_sublist hrows hsub
  exact ⟨segments', hrows', hflatten'.trans hflatten⟩

/-- The same rows read a longer history. -/
theorem ReadsOnce.more {history rows : List α} (h : ReadsOnce merge history rows)
    (later : List α) : ReadsOnce merge (history ++ later) rows := by
  obtain ⟨segments, hrows, hflatten⟩ := h
  exact ⟨segments, hrows, hflatten.trans (List.sublist_append_left _ _)⟩

/-- An item more may be merged into the last row. -/
theorem ReadsOnce.merged {history front : List α} {last item folded : α}
    (h : ReadsOnce merge history (front ++ [last])) (hmerge : merge last item = some folded) :
    ReadsOnce merge (history ++ [item]) (front ++ [folded]) := by
  obtain ⟨segments, hrows, hflatten⟩ := h
  obtain ⟨before, after, rfl, hfront, hlast⟩ := rows_of_append hrows
  obtain ⟨segment, rfl, hsegment⟩ := rows_of_singleton hlast
  refine ⟨before ++ [segment ++ [item]],
    List.rel_append hfront (.cons (.merged hsegment hmerge) .nil), ?_⟩
  have happended := hflatten.append (List.Sublist.refl [item])
  simpa using happended

/-- An item more may be a row of its own. -/
theorem ReadsOnce.opened {history rows : List α} (h : ReadsOnce merge history rows) (item : α) :
    ReadsOnce merge (history ++ [item]) (rows ++ [item]) := by
  obtain ⟨segments, hrows, hflatten⟩ := h
  refine ⟨segments ++ [[item]], List.rel_append hrows (.cons (.single item) .nil), ?_⟩
  have happended := hflatten.append (List.Sublist.refl [item])
  simpa using happended

/-- A measure that a merge adds up is, over rows that read a history, at most that of the history. -/
theorem ReadsOnce.measure_le {history rows : List α} (h : ReadsOnce merge history rows)
    (measure : α → Nat)
    (hmerge : ∀ row item row', merge row item = some row' →
      measure row' = measure row + measure item) :
    (rows.map measure).sum ≤ (history.map measure).sum := by
  obtain ⟨segments, hrows, hsub⟩ := h
  have hfolds : ∀ row segment, Folds merge row segment → measure row = (segment.map measure).sum := by
    intro row segment hrow
    induction hrow with
    | single item => simp
    | merged _ hstep ih => rw [hmerge _ _ _ hstep, ih, List.map_append, List.sum_append]; simp
  have hsum : (rows.map measure).sum = (segments.flatten.map measure).sum := by
    clear hsub
    induction hrows with
    | nil => rfl
    | cons hrow _ ih =>
        rw [List.map_cons, List.sum_cons, ih, hfolds _ _ hrow, List.flatten_cons, List.map_append,
          List.sum_append]
  rw [hsum]
  exact (hsub.map measure).sum_le_sum (by simp)

/-- The row of a segment with increasing keys has the greatest of them, where a merge takes the key
of the item. -/
theorem folds_key {key : α → Nat}
    (hmerge : ∀ row item row', merge row item = some row' → key row' = key item) {row : α}
    {segment : List α} (h : Folds merge row segment)
    (hsorted : segment.Pairwise fun first second => key first < key second) :
    ∀ item ∈ segment, key item ≤ key row := by
  induction h with
  | single item =>
      intro other hother
      rw [List.mem_singleton.mp hother]
  | @merged row row' item segment _ hstep ih =>
      intro other hother
      rw [hmerge _ _ _ hstep]
      obtain hold | hnew := List.mem_append.mp hother
      · exact Nat.le_of_lt ((List.pairwise_append.mp hsorted).2.2 other hold item
          (List.mem_singleton.mpr rfl))
      · rw [List.mem_singleton.mp hnew]

/-- The key of a row is the key of an item that it stands for. -/
theorem folds_key_mem {key : α → Nat}
    (hmerge : ∀ row item row', merge row item = some row' → key row' = key item) {row : α}
    {segment : List α} (h : Folds merge row segment) : ∃ item ∈ segment, key item = key row := by
  cases h with
  | single => exact ⟨_, List.mem_singleton.mpr rfl, rfl⟩
  | merged _ hstep =>
      exact ⟨_, List.mem_append_right _ (List.mem_singleton.mpr rfl), (hmerge _ _ _ hstep).symm⟩

/-- Rows that read a history with increasing keys have increasing keys. -/
theorem ReadsOnce.increasing {key : α → Nat}
    (hmerge : ∀ row item row', merge row item = some row' → key row' = key item)
    {history rows : List α} (h : ReadsOnce merge history rows)
    (hsorted : history.Pairwise fun first second => key first < key second) :
    rows.Pairwise fun first second => key first < key second := by
  obtain ⟨segments, hrows, hflatten⟩ := h
  have hsegments := hsorted.sublist hflatten
  clear hflatten
  induction hrows with
  | nil => exact .nil
  | @cons row segment rows segments hrow hrest ih =>
      rw [List.flatten_cons] at hsegments
      obtain ⟨_, hlater, hacross⟩ := List.pairwise_append.mp hsegments
      refine .cons ?_ (ih hlater)
      intro other hother
      obtain ⟨item, hitem, hkey⟩ := folds_key_mem hmerge hrow
      obtain ⟨later, hmember, hfolds⟩ : ∃ later ∈ segments, Folds merge other later := by
        clear ih hlater hacross hsegments
        induction hrest with
        | nil => cases hother
        | @cons head segment' tail segments' hhead _ ihrest =>
            obtain rfl | htail := List.mem_cons.mp hother
            · exact ⟨_, List.mem_cons_self, hhead⟩
            · obtain ⟨later, hmember, hfolds⟩ := ihrest htail
              exact ⟨later, List.mem_cons_of_mem _ hmember, hfolds⟩
      obtain ⟨last, hlast, hotherKey⟩ := folds_key_mem hmerge hfolds
      rw [← hkey, ← hotherKey]
      exact hacross item hitem last (List.mem_flatten.mpr ⟨later, hmember, hlast⟩)

/-- The rows behind a key stand for every item behind it. -/
theorem rows_behind {key : α → Nat}
    (hmerge : ∀ row item row', merge row item = some row' → key row' = key item) {rows : List α}
    {segments : List (List α)} (h : RowsOf merge rows segments)
    (hsorted : segments.flatten.Pairwise fun first second => key first < key second)
    (behind : Nat → Bool) (hbehind : ∀ first second, first ≤ second → behind first = true →
      behind second = true) :
    ∃ segments', RowsOf merge (rows.filter fun row => behind (key row)) segments' ∧
      segments'.flatten.Sublist segments.flatten ∧
      ∀ item ∈ segments.flatten, behind (key item) = true → item ∈ segments'.flatten := by
  induction h with
  | nil => exact ⟨[], .nil, .slnil, fun _ hitem => by cases hitem⟩
  | @cons row segment rows segments hrow hrest ih =>
      rw [List.flatten_cons] at hsorted
      obtain ⟨hsegment, hlater, _⟩ := List.pairwise_append.mp hsorted
      obtain ⟨segments', hrows', hsub, hcovers⟩ := ih hlater
      by_cases hkey : behind (key row) = true
      · refine ⟨segment :: segments', ?_, ?_, ?_⟩
        · simp only [List.filter_cons, hkey, if_true]
          exact .cons hrow hrows'
        · exact (List.Sublist.refl segment).append hsub
        · intro item hitem hafter
          obtain hhead | htail := List.mem_append.mp hitem
          · exact List.mem_append_left _ hhead
          · exact List.mem_append_right _ (hcovers item htail hafter)
      · refine ⟨segments', ?_, ?_, ?_⟩
        · simp only [List.filter_cons, hkey]
          exact hrows'
        · exact hsub.trans (List.sublist_append_right _ _)
        · intro item hitem hafter
          obtain hhead | htail := List.mem_append.mp hitem
          · exact absurd (hbehind _ _ (folds_key hmerge hrow hsegment item hhead) hafter) hkey
          · exact hcovers item htail hafter

end Fold

/-! ## The newest rows that fit a bound -/

section Newest

variable (fits : List α → Bool)

/-- The longest suffix that fits. -/
@[simp] def newestFitting : List α → List α
  | [] => []
  | row :: rest => if fits (row :: rest) then row :: rest else newestFitting rest

variable {fits}

/-- Only rows at the front are dropped. -/
theorem newest_fitting_suffix (rows : List α) :
    ∃ dropped, rows = dropped ++ newestFitting fits rows := by
  induction rows with
  | nil => exact ⟨[], rfl⟩
  | cons row rest ih =>
      unfold newestFitting
      split
      · exact ⟨[], rfl⟩
      · obtain ⟨dropped, hdropped⟩ := ih
        exact ⟨row :: dropped, congrArg (List.cons row) hdropped⟩

/-- What is kept was there. -/
theorem newest_fitting_sublist (rows : List α) : (newestFitting fits rows).Sublist rows := by
  obtain ⟨dropped, hdropped⟩ := @newest_fitting_suffix _ fits rows
  conv_rhs => rw [hdropped]
  exact List.sublist_append_right dropped _

/-- Rows that fit are all kept. -/
theorem newest_fitting_of_fits {rows : List α} (h : fits rows = true) :
    newestFitting fits rows = rows := by
  cases rows with
  | nil => rfl
  | cons row rest => simp [newestFitting, h]

/-- What is kept fits, where nothing at all does. -/
theorem newest_fitting_fits (hnil : fits [] = true) (rows : List α) :
    fits (newestFitting fits rows) = true := by
  induction rows with
  | nil => exact hnil
  | cons row rest ih =>
      unfold newestFitting
      split
      · next h => exact h
      · exact ih

/-- A last row that fits alone is kept. -/
theorem newest_fitting_last {last : α} (h : fits [last] = true) (rows : List α) :
    ∃ front, newestFitting fits (rows ++ [last]) = front ++ [last] := by
  induction rows with
  | nil => exact ⟨[], by simp [newestFitting, h]⟩
  | cons row rest ih =>
      rw [List.cons_append, newestFitting]
      split
      · exact ⟨row :: rest, rfl⟩
      · exact ih

/-- Rows at the front that fit with nothing behind them are dropped. -/
theorem newest_fitting_append {front back : List α}
    (h : ∀ before row after, front = before ++ row :: after → fits (row :: after ++ back) = false) :
    newestFitting fits (front ++ back) = newestFitting fits back := by
  induction front with
  | nil => rfl
  | cons row front ih =>
      have hfits : fits (row :: (front ++ back)) = false := h [] row front rfl
      rw [List.cons_append, newestFitting, if_neg (by simp [hfits])]
      refine ih ?_
      intro before other after hfront
      exact h (row :: before) other after (by rw [hfront]; rfl)

/-- A dropped row does not fit before what was kept. -/
theorem not_fits_of_dropped {front kept : List α} (h : newestFitting fits (front ++ kept) = kept)
    {before after : List α} {row : α} (hfront : front = before ++ row :: after) :
    fits (row :: after ++ kept) = false := by
  subst hfront
  induction before with
  | nil =>
      rw [List.nil_append, List.cons_append, newestFitting] at h
      split at h
      · have hlength := congrArg List.length h
        simp at hlength
        omega
      · next hfits => simpa using hfits
  | cons other before ih =>
      rw [List.cons_append, List.cons_append, newestFitting] at h
      split at h
      · have hlength := congrArg List.length h
        simp at hlength
        omega
      · exact ih h

/-- What was dropped once stays dropped while the rows behind it only grow. -/
theorem newest_fitting_again {rows front kept kept' : List α}
    (hrows : rows = front ++ kept) (hkept : newestFitting fits rows = kept)
    (hgrow : ∀ before, fits (before ++ kept) = false → fits (before ++ kept') = false) :
    newestFitting fits (front ++ kept') = newestFitting fits kept' := by
  refine newest_fitting_append ?_
  intro before row after hfront
  subst hrows
  exact hgrow _ (not_fits_of_dropped hkept hfront)

end Newest

end Dopedb.Library
