import Dopedb.Queries.ReadPages
import Mathlib.Logic.Relation

/-!
# How far a row can be shortened

The loop of `fit_row_to_page`, turn by turn. Every turn takes a cell that was not taken before, so
there are at most as many turns as cells. A turn makes the row smaller where the text of its cell
needs no escapes, and when the loop gives up on such a row, no choice of previews of the kind it
makes would have been within the budget. `fits_page` is the main result.
-/

namespace Dopedb.Queries

open Library
open Relation (ReflTransGen)

/-- Where the loop of `fit_row_to_page` stands. -/
structure FitState where
  cells : List FitCell
  failures : List CellDecodeFailure
  bytes : Nat
  deriving DecidableEq

/-- Before the first turn. -/
def fitStart (values : List Json) (failures : List CellDecodeFailure) : FitState where
  cells := values.map fun value => ⟨value, jsonSize value, false⟩
  failures := failures
  bytes := jsonSize (.arr values) + 1 + failuresSize failures

/-- How many bytes of its text a cell keeps. -/
def keptBytes (budget bytes : Nat) (cell : FitCell) (failure : CellDecodeFailure) : Nat :=
  max TRUNCATED_MIN_PREVIEW_BYTES (min TRUNCATED_PREVIEW_BYTES
    (cell.size - (bytes - budget + failureBytes failure + 2)))

/-- The row after the cell was shortened. -/
def shortenCell (rowIndex budget : Nat) (state : FitState) (cell : FitCell) (index : Nat) :
    FitState :=
  let failure := truncatedFailure rowIndex index cell.value
  let value := previewOf cell.value (keptBytes budget state.bytes cell failure)
  { cells := state.cells.set index ⟨value, jsonSize value, true⟩
    failures := state.failures ++ [failure]
    bytes := state.bytes - cell.size + jsonSize value + failureBytes failure }

/-- One turn of the loop. -/
def fitStep (rowIndex budget : Nat) (state : FitState) : Option FitState :=
  if state.bytes ≤ budget then none
  else (largestCell state.cells).map fun (cell, index) =>
    shortenCell rowIndex budget state cell index

/-- The loop goes from one state to another. -/
def Turns (rowIndex budget : Nat) : FitState → FitState → Prop :=
  ReflTransGen fun state next => fitStep rowIndex budget state = some next

/-- What a turn does. -/
theorem fit_step_cases {rowIndex budget : Nat} {state next : FitState}
    (h : fitStep rowIndex budget state = some next) : budget < state.bytes ∧ ∃ cell index,
      largestCell state.cells = some (cell, index) ∧
        next = shortenCell rowIndex budget state cell index := by
  unfold fitStep at h
  split at h
  case isTrue => cases h
  case isFalse hover =>
      obtain ⟨⟨cell, index⟩, hlargest, rfl⟩ := Option.map_eq_some_iff.mp h
      exact ⟨not_le.mp hover, cell, index, hlargest, rfl⟩

/-- The loop of `fit_row_to_page` takes its turns one by one. -/
theorem shorten_cells_eq (rowIndex budget turns : Nat) (state : FitState) :
    shortenCells rowIndex budget turns state.cells state.failures state.bytes =
      if state.bytes ≤ budget then .ok (state.cells, state.failures, state.bytes)
      else
        match turns, fitStep rowIndex budget state with
        | turns + 1, some next =>
          shortenCells rowIndex budget turns next.cells next.failures next.bytes
        | _, _ => .error .resultRowTooLarge := by
  unfold fitStep
  cases turns with
  | zero =>
      unfold shortenCells
      split <;> rfl
  | succ turns =>
      conv_lhs => unfold shortenCells
      split
      case isTrue => rfl
      case isFalse => cases largestCell state.cells <;> rfl

/-! ## The number of turns -/

/-- The cells that were not taken yet. -/
def openCells (cells : List FitCell) : Nat :=
  total (fun cell => if cell.shortened then 0 else 1) cells

/-- A turn takes one of the cells. -/
theorem open_cells_step {rowIndex budget : Nat} {state next : FitState}
    (h : fitStep rowIndex budget state = some next) :
    openCells next.cells + 1 = openCells state.cells := by
  obtain ⟨-, cell, index, hlargest, rfl⟩ := fit_step_cases h
  obtain ⟨hcell, hshortenable⟩ := largest_cell_some hlargest
  have hopen : cell.shortened = false := by
    unfold FitCell.shortenable at hshortenable
    simp only [Bool.and_eq_true, Bool.not_eq_true'] at hshortenable
    exact hshortenable.1.1
  have hset := total_set (fun cell : FitCell => if cell.shortened then 0 else 1) hcell
    ⟨previewOf cell.value (keptBytes budget state.bytes cell
      (truncatedFailure rowIndex index cell.value)), jsonSize (previewOf cell.value
        (keptBytes budget state.bytes cell (truncatedFailure rowIndex index cell.value))), true⟩
  simp only [hopen, if_true, if_neg Bool.false_ne_true] at hset
  unfold openCells
  exact hset

/-- At the start every cell is open. -/
theorem open_cells_start (values : List Json) (failures : List CellDecodeFailure) :
    openCells (fitStart values failures).cells = values.length := by
  unfold fitStart openCells
  induction values with
  | nil => rfl
  | cons value rest ih =>
      rw [List.map_cons, total_cons, List.length_cons, ih, if_neg Bool.false_ne_true, Nat.add_comm]

/-- The loop ends in a state without another turn, and any number of turns from the number of open
cells on is enough. -/
theorem shorten_cells_run (rowIndex budget : Nat) (state : FitState) :
    ∃ last, Turns rowIndex budget state last ∧ fitStep rowIndex budget last = none ∧
      ∀ turns ≥ openCells state.cells,
        shortenCells rowIndex budget turns state.cells state.failures state.bytes =
          if last.bytes ≤ budget then .ok (last.cells, last.failures, last.bytes)
          else .error .resultRowTooLarge := by
  induction hopen : openCells state.cells generalizing state with
  | zero =>
      have hnone : fitStep rowIndex budget state = none := by
        cases hstep : fitStep rowIndex budget state with
        | none => rfl
        | some next =>
            have hless := open_cells_step hstep
            omega
      refine ⟨state, .refl, hnone, ?_⟩
      intro turns _
      rw [shorten_cells_eq, hnone]
      cases turns <;> rfl
  | succ count ih =>
      cases hstep : fitStep rowIndex budget state with
      | none =>
          refine ⟨state, .refl, hstep, ?_⟩
          intro turns _
          rw [shorten_cells_eq, hstep]
          cases turns <;> rfl
      | some next =>
          have hless := open_cells_step hstep
          obtain ⟨last, hturns, hlast, hrun⟩ := ih next (by omega)
          refine ⟨last, .head hstep hturns, hlast, ?_⟩
          intro turns hturns
          obtain ⟨fewer, rfl⟩ : ∃ fewer, turns = fewer + 1 := ⟨turns - 1, by omega⟩
          rw [shorten_cells_eq, hstep, if_neg (not_le.mpr (fit_step_cases hstep).1)]
          exact hrun fewer (by omega)

/-- The state of the loop fits the row that it began with. -/
structure FitReached (rowIndex : Nat) (values : List Json) (failures : List CellDecodeFailure)
    (state : FitState) (cut : List CellDecodeFailure) : Prop where
  inv : FitInv rowIndex values failures cut state.cells state.bytes
  failures_eq : state.failures = failures ++ cut

/-- A turn keeps the invariant of the loop. -/
theorem FitReached.step {rowIndex budget : Nat} {values : List Json}
    {failures cut : List CellDecodeFailure} {state next : FitState}
    (h : FitReached rowIndex values failures state cut)
    (hstep : fitStep rowIndex budget state = some next) :
    ∃ cell index, largestCell state.cells = some (cell, index) ∧
      next = shortenCell rowIndex budget state cell index ∧
      FitReached rowIndex values failures next
        (cut ++ [truncatedFailure rowIndex index cell.value]) := by
  obtain ⟨-, cell, index, hlargest, rfl⟩ := fit_step_cases hstep
  obtain ⟨hcell, hshortenable⟩ := largest_cell_some hlargest
  have hopen : cell.shortened = false := by
    unfold FitCell.shortenable at hshortenable
    simp only [Bool.and_eq_true, Bool.not_eq_true'] at hshortenable
    exact hshortenable.1.1
  have hkept : keptBytes budget state.bytes cell (truncatedFailure rowIndex index cell.value) ≤
      TRUNCATED_PREVIEW_BYTES := by
    unfold keptBytes TRUNCATED_MIN_PREVIEW_BYTES TRUNCATED_PREVIEW_BYTES
    omega
  refine ⟨cell, index, hlargest, rfl, h.inv.cut hcell hopen hkept, ?_⟩
  show state.failures ++ _ = _
  rw [h.failures_eq, List.append_assoc]

/-- Every state of the loop fits the row. -/
theorem fit_reached {rowIndex budget : Nat} {values : List Json}
    {failures : List CellDecodeFailure} {state : FitState}
    (h : Turns rowIndex budget (fitStart values failures) state) :
    ∃ cut, FitReached rowIndex values failures state cut := by
  induction h with
  | refl => exact ⟨[], fit_inv_start rowIndex values failures, (List.append_nil _).symm⟩
  | tail _ hstep ih =>
      obtain ⟨cut, hreached⟩ := ih
      obtain ⟨cell, index, -, -, hnext⟩ := hreached.step hstep
      exact ⟨_, hnext⟩

/-! ## Texts without escapes -/

/-- The text of the cell is written without escapes. -/
def plainCell (value : Json) : Bool := (cellText value).all fun c => escapeChar c == [c]

/-- The text of a string without escapes takes its bytes and two quotes. -/
theorem json_size_plain {text : List Char} (h : ∀ c ∈ text, escapeChar c = [c]) :
    jsonSize (.str (.ofList text)) = byteLength text + 2 := by
  have hquote : byteLength ['"'] = 1 := by decide
  have htext : text.flatMap escapeChar = text := by
    rw [List.flatMap_congr h]
    exact List.flatMap_singleton' text
  unfold jsonSize
  rw [Json.render, renderString, String.toList_ofList, htext, byte_length_append,
    ← List.singleton_append, byte_length_append, hquote]
  omega

/-- A preview of a text without escapes takes its bytes and two quotes. -/
theorem json_size_preview {value : Json} (h : plainCell value = true) (keep : Nat) :
    jsonSize (previewOf value keep) = byteLength (utf8Prefix (cellText value) keep) + 2 := by
  refine json_size_plain ?_
  intro c hc
  have hmem := (utf8_prefix_of (cellText value) keep).subset hc
  simpa using List.all_eq_true.mp h c hmem

/-- A longer preview takes no fewer bytes. -/
theorem utf8_prefix_mono (text : List Char) {few many : Nat} (h : few ≤ many) :
    byteLength (utf8Prefix text few) ≤ byteLength (utf8Prefix text many) := by
  induction text generalizing few many with
  | nil => exact Nat.le_refl 0
  | cons c text ih =>
      have hcons : ∀ chars, byteLength (c :: chars) = c.utf8Size + byteLength chars := by
        intro chars
        simp [byteLength]
      unfold utf8Prefix
      split
      case isTrue hfew =>
          have hrest := @ih (few - c.utf8Size) (many - c.utf8Size) (by omega)
          rw [if_pos (by omega), hcons, hcons]
          omega
      case isFalse => exact Nat.zero_le _

/-- A row of a result: its place and its size are numbers of 64 bits. -/
structure PageRow where
  values : List Json
  rowIndex : Nat
  index_lt : rowIndex < 2 ^ 64
  size_lt : jsonSize (.arr values) < 2 ^ 64

/-- A failure entry takes at most 125 bytes. -/
theorem failure_bytes_le {rowIndex columnIndex : Nat} {value : Json} (hrow : rowIndex < 2 ^ 64)
    (hcolumn : columnIndex < 2 ^ 64) (htext : byteLength (cellText value) < 2 ^ 64) :
    failureBytes (truncatedFailure rowIndex columnIndex value) ≤ 125 := by
  have hdigits : byteLength (byteLength (cellText value)).repr.toList ≤ 20 :=
    byte_length_repr_le (by decide) (htext.trans (by decide))
  have hplain : ∀ c ∈ (TRUNCATED_CELL_TYPE_PREFIX ++ (byteLength (cellText value)).repr).toList,
      escapeChar c = [c] := by
    intro c hc
    rw [String.toList_append, List.mem_append] at hc
    rcases hc with hc | hc
    · have hprefix : TRUNCATED_CELL_TYPE_PREFIX.toList.all
          (fun c => escapeChar c == [c]) = true := by decide
      simpa using List.all_eq_true.mp hprefix c hc
    · exact (escape_of_hyphenated (.inl (by simp [Char.isAlphanum, digit_of_mem_repr hc]))).1
  have htype : jsonSize (.str (TRUNCATED_CELL_TYPE_PREFIX ++
      (byteLength (cellText value)).repr)) ≤ 39 := by
    have hprefix : byteLength TRUNCATED_CELL_TYPE_PREFIX.toList = 17 := by decide
    have hsize := json_size_plain hplain
    rw [String.ofList_toList, String.toList_append, byte_length_append, hprefix] at hsize
    omega
  have hnames : byteLength (renderString "rowIndex") = 10 ∧
      byteLength (renderString "columnIndex") = 13 ∧
      byteLength (renderString "databaseType") = 14 := by decide
  have hobject := json_size_obj_le [("rowIndex", .int rowIndex), ("columnIndex", .int columnIndex),
    ("databaseType", .str (TRUNCATED_CELL_TYPE_PREFIX ++ (byteLength (cellText value)).repr))]
  have hr := json_size_int_le hrow
  have hc := json_size_int_le hcolumn
  simp only [total_cons, total_nil, hnames.1, hnames.2.1, hnames.2.2] at hobject
  have hsize : failureBytes (truncatedFailure rowIndex columnIndex value) =
      jsonSize (.obj [("rowIndex", .int rowIndex), ("columnIndex", .int columnIndex),
        ("databaseType", .str (TRUNCATED_CELL_TYPE_PREFIX ++
          (byteLength (cellText value)).repr))]) + 1 := rfl
  omega

/-! ## A turn makes the row smaller -/

/-- An escape takes no fewer bytes than its character. -/
theorem utf8_size_le_escape (c : Char) : c.utf8Size ≤ byteLength (escapeChar c) := by
  have hslash : ∀ more : List Char, 1 ≤ byteLength ('\\' :: more) := by
    intro more
    have hone : byteLength ['\\'] = 1 := by decide
    rw [← List.singleton_append, byte_length_append, hone]
    omega
  by_cases hcontrol : c.toNat < 128
  · have hsize : c.utf8Size = 1 := by
      have hle : c.val ≤ 0x7f := by
        rw [UInt32.le_iff_toNat_le]
        exact Nat.le_of_lt_succ hcontrol
      exact if_pos hle
    rw [hsize]
    unfold escapeChar
    split
    · exact hslash _
    split
    · exact hslash _
    split
    · exact hslash _
    split
    · exact hslash _
    split
    · exact hslash _
    split
    · exact hslash _
    split
    · exact hslash _
    split
    · exact hslash _
    · simp [byteLength, hsize]
  · have hne : ∀ d : Char, d.toNat < 128 → c ≠ d := by
      rintro d hd rfl
      exact hcontrol hd
    unfold escapeChar
    rw [if_neg (hne _ (by decide)), if_neg (hne _ (by decide)), if_neg (hne _ (by decide)),
      if_neg (hne _ (by decide)), if_neg (hne _ (by decide)), if_neg (hne _ (by decide)),
      if_neg (hne _ (by decide)), if_neg (by omega)]
    simp [byteLength]

/-- The text of a value takes no more bytes than the value. -/
theorem byte_length_cell_text (value : Json) : byteLength (cellText value) ≤ jsonSize value := by
  cases value with
  | str text =>
      have hescape : ∀ chars : List Char,
          byteLength chars ≤ byteLength (chars.flatMap escapeChar) := by
        intro chars
        induction chars with
        | nil => exact Nat.le_refl 0
        | cons c rest ih =>
            have hc := utf8_size_le_escape c
            have hcons : byteLength (c :: rest) = c.utf8Size + byteLength rest := by
              simp [byteLength]
            rw [List.flatMap_cons, byte_length_append, hcons]
            omega
      have htext := hescape text.toList
      unfold jsonSize
      rw [Json.render, renderString, byte_length_append, ← List.singleton_append,
        byte_length_append]
      show byteLength text.toList ≤ _
      omega
  | null => exact Nat.le_refl _
  | bool _ => exact Nat.le_refl _
  | int _ => exact Nat.le_refl _
  | float _ => exact Nat.le_refl _
  | arr _ => exact Nat.le_refl _
  | obj _ => exact Nat.le_refl _

/-- What the loop keeps of a cell that may be shortened, with its failure entry, is smaller than
the cell, and when more than the shortest preview is kept, it takes the excess off the row. -/
theorem preview_smaller {budget bytes : Nat} {cell : FitCell} {failure : CellDecodeFailure}
    (hover : budget < bytes) (hshortenable : cell.shortenable = true)
    (hplain : plainCell cell.value = true) (hfailure : failureBytes failure ≤ 125) :
    jsonSize (previewOf cell.value (keptBytes budget bytes cell failure)) + failureBytes failure <
        cell.size ∧
      (keptBytes budget bytes cell failure ≠ TRUNCATED_MIN_PREVIEW_BYTES →
        jsonSize (previewOf cell.value (keptBytes budget bytes cell failure)) +
          failureBytes failure + (bytes - budget) ≤ cell.size) := by
  have hsize : 512 < cell.size := by
    unfold FitCell.shortenable at hshortenable
    simp only [Bool.and_eq_true, decide_eq_true_eq] at hshortenable
    exact hshortenable.2
  have hpreview := json_size_preview hplain (keptBytes budget bytes cell failure)
  have hle := utf8_prefix_le (cellText cell.value) (keptBytes budget bytes cell failure)
  have hkept : keptBytes budget bytes cell failure = 256 ∨
      keptBytes budget bytes cell failure ≤
        cell.size - (bytes - budget + failureBytes failure + 2) ∧
        256 < keptBytes budget bytes cell failure := by
    unfold keptBytes TRUNCATED_MIN_PREVIEW_BYTES TRUNCATED_PREVIEW_BYTES
    omega
  unfold TRUNCATED_MIN_PREVIEW_BYTES
  omega

/-- A row has no more cells than bytes. -/
theorem length_le_json_size (values : List Json) : values.length ≤ jsonSize (.arr values) := by
  have hsum : values.length ≤ total (fun value => jsonSize value + 1) values := by
    induction values with
    | nil => exact Nat.le_refl 0
    | cons value rest ih =>
        rw [total_cons, List.length_cons]
        omega
  rw [json_size_arr]
  split
  case isTrue hnil =>
      rw [hnil]
      exact Nat.zero_le _
  case isFalse => omega

/-- A failure entry of a cell of the row takes at most 125 bytes. -/
theorem PageRow.failure_bytes_le (row : PageRow) {index : Nat} {value : Json}
    (h : row.values[index]? = some value) :
    failureBytes (truncatedFailure row.rowIndex index value) ≤ 125 := by
  have hindex := (List.getElem?_eq_some_iff.mp h).1
  have hlength := length_le_json_size row.values
  have hvalue := json_size_le_arr h
  have htext := byte_length_cell_text value
  have hsize := row.size_lt
  exact Queries.failure_bytes_le row.index_lt (by omega) (by omega)

/-- The cell that a turn takes is a cell of the row, with its size. -/
theorem FitReached.cell {row : PageRow} {failures cut : List CellDecodeFailure} {state : FitState}
    (h : FitReached row.rowIndex row.values failures state cut) {cell : FitCell} {index : Nat}
    (hlargest : largestCell state.cells = some (cell, index)) :
    row.values[index]? = some cell.value ∧ cell.size = jsonSize cell.value ∧
      cell.size ≤ state.bytes ∧ cell.shortenable = true := by
  obtain ⟨hcell, hshortenable⟩ := largest_cell_some hlargest
  obtain ⟨hsize, hflag⟩ := h.inv.sizes index cell hcell
  have hnew : index ∉ cut.map (·.columnIndex) := by
    intro hmem
    unfold FitCell.shortenable at hshortenable
    simp [hflag.mpr hmem] at hshortenable
  have hvalue : (state.cells.map (·.value))[index]? = some cell.value := by
    rw [List.getElem?_map, hcell]
    rfl
  have hle := json_size_le_arr hvalue
  refine ⟨by rw [← h.inv.shortened.kept index hnew, hvalue], hsize, ?_, hshortenable⟩
  rw [h.inv.counted, hsize]
  omega

/-- A turn that takes a cell without escapes makes the row smaller, and leaves it over the budget
only when the cell keeps the shortest preview. -/
theorem turn_decreases {row : PageRow} {failures cut : List CellDecodeFailure} {budget : Nat}
    {state : FitState} (h : FitReached row.rowIndex row.values failures state cut)
    (hover : budget < state.bytes) {cell : FitCell} {index : Nat}
    (hlargest : largestCell state.cells = some (cell, index))
    (hplain : plainCell cell.value = true) :
    (shortenCell row.rowIndex budget state cell index).bytes < state.bytes ∧
      (budget < (shortenCell row.rowIndex budget state cell index).bytes →
        keptBytes budget state.bytes cell (truncatedFailure row.rowIndex index cell.value) =
          TRUNCATED_MIN_PREVIEW_BYTES) := by
  obtain ⟨hvalue, hsize, hle, hshortenable⟩ := h.cell hlargest
  obtain ⟨hsmaller, hexcess⟩ := preview_smaller hover hshortenable hplain
    (row.failure_bytes_le hvalue)
  unfold shortenCell
  simp only
  refine ⟨by omega, ?_⟩
  intro hstill
  by_contra hne
  have hless := hexcess hne
  omega

/-! ## Other choices of previews -/

/-- A choice of previews: how many bytes of its text a cell keeps when it is shortened. -/
abbrev PreviewPlan := Nat → Option Nat

/-- A cell that the loop may shorten: it is not null and takes more than 512 bytes. -/
def longCell (value : Json) : Bool :=
  value ≠ .null && decide (TRUNCATED_MIN_PREVIEW_BYTES * 2 < jsonSize value)

/-- A choice of the kind that the loop makes: long cells are shortened, and a preview keeps at least
256 bytes of its text. -/
def PreviewPlan.Allowed (plan : PreviewPlan) (values : List Json) : Prop :=
  ∀ index value, values[index]? = some value → ∀ keep, plan index = some keep →
    longCell value = true ∧ TRUNCATED_MIN_PREVIEW_BYTES ≤ keep

/-- A cell under a choice. -/
def plannedValue (plan : PreviewPlan) (entry : Json × Nat) : Json :=
  (plan entry.2).elim entry.1 fun keep => previewOf entry.1 keep

/-- The failure entry of a cell under a choice. -/
def plannedFailure (rowIndex : Nat) (plan : PreviewPlan) (entry : Json × Nat) :
    Option CellDecodeFailure :=
  (plan entry.2).map fun _ => truncatedFailure rowIndex entry.2 entry.1

/-- The bytes of the row and its failures under a choice, as a page counts them. -/
def plannedBytes (rowIndex : Nat) (values : List Json) (failures : List CellDecodeFailure)
    (plan : PreviewPlan) : Nat :=
  jsonSize (.arr (values.zipIdx.map (plannedValue plan))) + 1 +
    failuresSize (failures ++ values.zipIdx.filterMap (plannedFailure rowIndex plan))

/-- What a cell adds under a choice. -/
def plannedCost (rowIndex : Nat) (plan : PreviewPlan) (entry : Json × Nat) : Nat :=
  jsonSize (plannedValue plan entry) + 1 +
    ((plannedFailure rowIndex plan entry).map failureBytes).getD 0

/-- The bytes of a row are what its cells add. -/
theorem planned_bytes_eq (rowIndex : Nat) (values : List Json)
    (failures : List CellDecodeFailure) (plan : PreviewPlan) :
    plannedBytes rowIndex values failures plan = (if values = [] then 3 else 2) +
      failuresSize failures + total (plannedCost rowIndex plan) values.zipIdx := by
  have hcosts : ∀ entries : List (Json × Nat),
      total (fun value => jsonSize value + 1) (entries.map (plannedValue plan)) +
        failuresSize (entries.filterMap (plannedFailure rowIndex plan)) =
        total (plannedCost rowIndex plan) entries := by
    intro entries
    induction entries with
    | nil => rfl
    | cons entry rest ih =>
        unfold failuresSize at ih ⊢
        rw [List.map_cons, total_cons, total_cons, ← ih, List.filterMap_cons]
        unfold plannedCost
        cases plannedFailure rowIndex plan entry with
        | none =>
            simp only [Option.map_none, Option.getD_none]
            omega
        | some failure =>
            simp only [Option.map_some, Option.getD_some, total_cons]
            omega
  have hentries := hcosts values.zipIdx
  unfold plannedBytes failuresSize at *
  rw [json_size_arr, total_append]
  by_cases hnil : values = []
  · subst hnil
    simp
  · have hne : values.zipIdx.map (plannedValue plan) ≠ [] := by simpa using hnil
    rw [if_neg hne, if_neg hnil]
    omega

/-- The choice that keeps the least: every long cell gets the shortest preview. -/
def shortestPlan (values : List Json) : PreviewPlan := fun index =>
  if values[index]?.any longCell then some TRUNCATED_MIN_PREVIEW_BYTES else none

/-- No allowed choice takes fewer bytes where long cells need no escapes. -/
theorem shortest_plan_le (row : PageRow) (failures : List CellDecodeFailure) {plan : PreviewPlan}
    (hplan : plan.Allowed row.values)
    (hplain : ∀ value ∈ row.values, longCell value = true → plainCell value = true) :
    plannedBytes row.rowIndex row.values failures (shortestPlan row.values) ≤
      plannedBytes row.rowIndex row.values failures plan := by
  have hcost : ∀ entry ∈ row.values.zipIdx,
      plannedCost row.rowIndex (shortestPlan row.values) entry ≤
        plannedCost row.rowIndex plan entry := by
    rintro ⟨value, index⟩ hmem
    have hvalue : row.values[index]? = some value := List.mem_zipIdx_iff_getElem?.mp hmem
    have hfailure := row.failure_bytes_le hvalue
    unfold plannedCost plannedValue plannedFailure shortestPlan
    simp only [hvalue, Option.any_some]
    by_cases hlong : longCell value = true
    · have htext := hplain value (List.mem_of_getElem? hvalue) hlong
      have hshort := json_size_preview htext TRUNCATED_MIN_PREVIEW_BYTES
      rw [if_pos hlong]
      cases hkeep : plan index with
      | none =>
          have hle := utf8_prefix_le (cellText value) TRUNCATED_MIN_PREVIEW_BYTES
          have hsize : 512 < jsonSize value := by
            unfold longCell at hlong
            simp only [Bool.and_eq_true, decide_eq_true_eq] at hlong
            exact hlong.2
          simp only [Option.elim_some, Option.elim_none, Option.map_some, Option.map_none,
            Option.getD_some, Option.getD_none]
          unfold TRUNCATED_MIN_PREVIEW_BYTES at hle hshort ⊢
          omega
      | some keep =>
          have hmono := utf8_prefix_mono (cellText value) (hplan index value hvalue keep hkeep).2
          have hlonger := json_size_preview htext keep
          simp only [Option.elim_some, Option.map_some, Option.getD_some]
          omega
    · cases hkeep : plan index with
      | none => rw [if_neg hlong]
      | some keep => exact absurd (hplan index value hvalue keep hkeep).1 hlong
  have hsum : total (plannedCost row.rowIndex (shortestPlan row.values)) row.values.zipIdx ≤
      total (plannedCost row.rowIndex plan) row.values.zipIdx :=
    List.sum_le_sum hcost
  rw [planned_bytes_eq, planned_bytes_eq]
  omega

/-! ## Giving up -/

/-- Where no cell is taken, none may be shortened. -/
theorem largest_cell_none {cells : List FitCell} (h : largestCell cells = none) :
    ∀ cell ∈ cells, cell.shortenable = false := by
  have hfold : ∀ (choose : Option (FitCell × Nat) → FitCell × Nat → Option (FitCell × Nat)),
      (∀ best entry, choose best entry = none → best = none ∧ entry.1.shortenable = false) →
      ∀ (entries : List (FitCell × Nat)) (best : Option (FitCell × Nat)),
        entries.foldl choose best = none →
          best = none ∧ ∀ entry ∈ entries, entry.1.shortenable = false := by
    intro choose hchoose entries
    induction entries with
    | nil => exact fun best hbest => ⟨hbest, fun _ hmem => absurd hmem List.not_mem_nil⟩
    | cons first entries ih =>
        intro best hbest
        rw [List.foldl_cons] at hbest
        obtain ⟨hnone, hrest⟩ := ih _ hbest
        obtain ⟨hbest, hfirst⟩ := hchoose best first hnone
        exact ⟨hbest, List.forall_mem_cons.mpr ⟨hfirst, hrest⟩⟩
  intro cell hcell
  obtain ⟨index, hindex⟩ := List.getElem?_of_mem hcell
  refine (hfold _ ?_ cells.zipIdx none h).2 (cell, index)
    (List.mem_zipIdx_iff_getElem?.mpr hindex)
  intro best entry hnone
  split at hnone
  case isTrue hfirst => exact ⟨hnone, hfirst⟩
  case isFalse =>
      split at hnone
      · cases hnone
      · split at hnone
        · cases hnone
        · cases hnone

/-- What was cut so far are long cells, each to its shortest preview. -/
def ShortestCut (rowIndex : Nat) (values : List Json) (state : FitState)
    (cut : List CellDecodeFailure) : Prop :=
  ∀ failure ∈ cut, ∃ value, values[failure.columnIndex]? = some value ∧ longCell value = true ∧
    failure = truncatedFailure rowIndex failure.columnIndex value ∧
    (state.cells.map (·.value))[failure.columnIndex]? =
      some (previewOf value TRUNCATED_MIN_PREVIEW_BYTES)

/-- While a row without escapes is over the budget, its cells are cut to the shortest previews. -/
theorem shortest_cut {row : PageRow} {failures : List CellDecodeFailure} {budget : Nat}
    {state : FitState}
    (hplain : ∀ value ∈ row.values, longCell value = true → plainCell value = true)
    (hturns : Turns row.rowIndex budget (fitStart row.values failures) state)
    (hover : budget < state.bytes) : ∃ cut,
      FitReached row.rowIndex row.values failures state cut ∧
        ShortestCut row.rowIndex row.values state cut := by
  induction hturns with
  | refl =>
      exact ⟨[], ⟨fit_inv_start row.rowIndex row.values failures, (List.append_nil _).symm⟩, nofun⟩
  | tail _ hstep ih =>
      have hbefore := (fit_step_cases hstep).1
      obtain ⟨cut, hreached, hcut⟩ := ih hbefore
      obtain ⟨cell, index, hlargest, rfl, hnext⟩ := hreached.step hstep
      obtain ⟨hvalue, hsize, -, hshortenable⟩ := hreached.cell hlargest
      have hlong : longCell cell.value = true := by
        unfold FitCell.shortenable at hshortenable
        unfold longCell
        simp only [Bool.and_eq_true, decide_eq_true_eq] at hshortenable ⊢
        exact ⟨hshortenable.1.2, hsize ▸ hshortenable.2⟩
      have hkept := (turn_decreases hreached hbefore hlargest
        (hplain cell.value (List.mem_of_getElem? hvalue) hlong)).2 hover
      have hindex := (List.getElem?_eq_some_iff.mp (largest_cell_some hlargest).1).1
      have hnew : index ∉ cut.map (·.columnIndex) := by
        have honce := hnext.inv.shortened.once
        rw [List.map_append, List.nodup_append] at honce
        intro hmem
        exact honce.2.2 index hmem index (by simp [truncatedFailure]) rfl
      refine ⟨_, hnext, ?_⟩
      intro failure hmem
      unfold shortenCell
      simp only [List.map_set]
      rcases List.mem_append.mp hmem with hold | hlast
      · obtain ⟨value, hat, hlong', heq, hat'⟩ := hcut failure hold
        have hne : index ≠ failure.columnIndex := fun heq =>
          hnew (heq ▸ List.mem_map_of_mem hold)
        exact ⟨value, hat, hlong', heq, by rw [List.getElem?_set_ne hne]; exact hat'⟩
      · rw [List.mem_singleton.mp hlast]
        refine ⟨cell.value, hvalue, hlong, rfl, ?_⟩
        have hcolumn : (truncatedFailure row.rowIndex index cell.value).columnIndex = index := rfl
        rw [hcolumn, List.getElem?_set_self (by rw [List.length_map]; exact hindex), hkept]

/-- Where the loop ends above the budget, it has cut every long cell, and nothing else. -/
theorem cut_of_given_up {row : PageRow} {failures cut : List CellDecodeFailure} {budget : Nat}
    {last : FitState} (h : FitReached row.rowIndex row.values failures last cut)
    (hcut : ShortestCut row.rowIndex row.values last cut) (hover : budget < last.bytes)
    (hlast : fitStep row.rowIndex budget last = none) {index : Nat} {value : Json}
    (hvalue : row.values[index]? = some value) :
    index ∈ cut.map (·.columnIndex) ↔ longCell value = true := by
  constructor
  · intro hmem
    obtain ⟨failure, hfailure, rfl⟩ := List.mem_map.mp hmem
    obtain ⟨value', hvalue', hlong, -⟩ := hcut failure hfailure
    obtain rfl := Option.some.inj (hvalue.symm.trans hvalue')
    exact hlong
  · intro hlong
    by_contra hnew
    have hnone : largestCell last.cells = none := by
      unfold fitStep at hlast
      rw [if_neg (not_le.mpr hover), Option.map_eq_none_iff] at hlast
      exact hlast
    have hkept := h.inv.shortened.kept index hnew
    rw [List.getElem?_map, hvalue, Option.map_eq_some_iff] at hkept
    obtain ⟨cell, hcell, rfl⟩ := hkept
    obtain ⟨hsize, hflag⟩ := h.inv.sizes index cell hcell
    have hopen : cell.shortened = false := Bool.of_not_eq_true fun hcell => hnew (hflag.mp hcell)
    have hclosed := largest_cell_none hnone cell (List.mem_of_getElem? hcell)
    unfold longCell at hlong
    simp only [Bool.and_eq_true, decide_eq_true_eq] at hlong
    unfold FitCell.shortenable at hclosed
    simp [hopen, hlong.1, hsize, hlong.2] at hclosed

/-- The bytes at which the loop gives up are those of the choice that keeps the least. -/
theorem given_up_bytes {row : PageRow} {failures cut : List CellDecodeFailure} {budget : Nat}
    {last : FitState} (h : FitReached row.rowIndex row.values failures last cut)
    (hcut : ShortestCut row.rowIndex row.values last cut) (hover : budget < last.bytes)
    (hlast : fitStep row.rowIndex budget last = none) :
    last.bytes =
      plannedBytes row.rowIndex row.values failures (shortestPlan row.values) := by
  have hiff := fun index value hvalue => @cut_of_given_up _ _ _ _ _ h hcut hover hlast
    index value hvalue
  -- every long cell was cut, and to the least that the loop keeps of it
  have hvalues : last.cells.map (·.value) =
      row.values.zipIdx.map (plannedValue (shortestPlan row.values)) := by
    refine List.ext_getElem? fun index => ?_
    rw [List.getElem?_map (f := plannedValue _), List.getElem?_zipIdx, Nat.zero_add]
    cases hvalue : row.values[index]? with
    | none =>
        have hlength := h.inv.shortened.length
        rw [List.getElem?_eq_none_iff] at hvalue
        simp only [Option.map_none]
        rw [List.getElem?_eq_none_iff]
        omega
    | some value =>
        simp only [Option.map_some]
        unfold plannedValue shortestPlan
        simp only [hvalue, Option.any_some]
        by_cases hlong : longCell value = true
        · obtain ⟨failure, hfailure, rfl⟩ := List.mem_map.mp ((hiff index value hvalue).mpr hlong)
          obtain ⟨value', hvalue', -, -, hat⟩ := hcut failure hfailure
          obtain rfl := Option.some.inj (hvalue.symm.trans hvalue')
          rw [hat, if_pos hlong, Option.elim_some]
        · rw [h.inv.shortened.kept index fun hmem => hlong ((hiff index value hvalue).mp hmem),
            hvalue, if_neg hlong, Option.elim_none]
  -- no column fails twice, so the failures are those of the plan in another order
  have hcolumns : ∀ entries : List (Json × Nat),
      ((entries.filterMap (plannedFailure row.rowIndex (shortestPlan row.values))).map
        (·.columnIndex)).Sublist (entries.map Prod.snd) := by
    intro entries
    induction entries with
    | nil => exact .slnil
    | cons entry rest ih =>
        rw [List.filterMap_cons, List.map_cons]
        unfold plannedFailure
        cases shortestPlan row.values entry.2 with
        | none => exact ih.cons _
        | some keep => exact ih.cons_cons _
  have hperm : cut.Perm (row.values.zipIdx.filterMap
      (plannedFailure row.rowIndex (shortestPlan row.values))) := by
    refine (List.perm_ext_iff_of_nodup (List.Nodup.of_map _ h.inv.shortened.once)
      (List.Nodup.of_map (·.columnIndex) ((hcolumns row.values.zipIdx).nodup ?_))).mpr ?_
    · rw [List.zipIdx_map_snd]
      exact List.nodup_range'
    · intro failure
      rw [List.mem_filterMap]
      constructor
      · intro hmem
        obtain ⟨value, hvalue, hlong, heq, -⟩ := hcut failure hmem
        refine ⟨(value, failure.columnIndex), List.mem_zipIdx_iff_getElem?.mpr hvalue, ?_⟩
        unfold plannedFailure shortestPlan
        simp only [hvalue, Option.any_some, hlong, if_true, Option.map_some]
        rw [← heq]
      · rintro ⟨⟨value, index⟩, hentry, hfailure⟩
        have hvalue : row.values[index]? = some value := List.mem_zipIdx_iff_getElem?.mp hentry
        unfold plannedFailure shortestPlan at hfailure
        simp only [hvalue, Option.any_some] at hfailure
        by_cases hlong : longCell value = true
        · rw [if_pos hlong, Option.map_some] at hfailure
          obtain ⟨other, hother, rfl⟩ := List.mem_map.mp ((hiff index value hvalue).mpr hlong)
          obtain ⟨value', hvalue', -, heq, -⟩ := hcut other hother
          obtain rfl := Option.some.inj (hvalue.symm.trans hvalue')
          rw [← Option.some.inj hfailure, ← heq]
          exact hother
        · rw [if_neg hlong] at hfailure
          cases hfailure
  have hfailures := total_perm failureBytes hperm
  rw [h.inv.counted, hvalues]
  unfold plannedBytes failuresSize
  rw [total_append, total_append, hfailures]

/-- What `fit_row_to_page` does with a row. -/
structure FitsPage (row : PageRow) (failures : List CellDecodeFailure) (budget : Nat) : Prop where
  /-- The loop ends: from the number of cells on more turns change nothing. -/
  ends : ∀ turns ≥ row.values.length,
    shortenCells row.rowIndex budget turns (fitStart row.values failures).cells failures
      (fitStart row.values failures).bytes =
    shortenCells row.rowIndex budget row.values.length (fitStart row.values failures).cells failures
      (fitStart row.values failures).bytes
  /-- A row that is returned fits. -/
  fits : ∀ fitted, fitRowToPage row.values failures row.rowIndex budget = .ok fitted →
    Fits row.values failures row.rowIndex budget fitted
  /-- Where it gives up and long cells need no escapes, no allowed choice of previews fits. -/
  gives_up : ∀ error, fitRowToPage row.values failures row.rowIndex budget = .error error →
    (∀ value ∈ row.values, longCell value = true → plainCell value = true) →
      ∀ plan : PreviewPlan, plan.Allowed row.values →
        budget < plannedBytes row.rowIndex row.values failures plan
  /-- A turn that takes a cell without escapes makes the row smaller. -/
  decreases : ∀ state next cell index,
    Turns row.rowIndex budget (fitStart row.values failures) state →
      fitStep row.rowIndex budget state = some next →
        largestCell state.cells = some (cell, index) → plainCell cell.value = true →
          next.bytes < state.bytes

/-- `fit_row_to_page` on every row, with any failures and any budget. -/
theorem fits_page (row : PageRow) (failures : List CellDecodeFailure) (budget : Nat) :
    FitsPage row failures budget := by
  obtain ⟨last, hturns, hlast, hrun⟩ :=
    shorten_cells_run row.rowIndex budget (fitStart row.values failures)
  rw [open_cells_start] at hrun
  refine ⟨?_, fun fitted => fit_row_to_page_spec, ?_, ?_⟩
  · intro turns hmany
    exact (hrun turns hmany).trans (hrun _ (Nat.le_refl _)).symm
  · intro error herror hplain plan hplan
    have hover : budget < last.bytes := by
      by_contra hle
      have hloop := hrun _ (Nat.le_refl _)
      rw [if_pos (not_lt.mp hle)] at hloop
      unfold fitRowToPage at herror
      simp only at herror
      split at herror
      case isTrue => cases herror
      case isFalse =>
          unfold fitStart at hloop
          rw [hloop] at herror
          cases herror
    obtain ⟨cut, hreached, hcut⟩ := shortest_cut hplain hturns hover
    have hbytes := given_up_bytes hreached hcut hover hlast
    have hleast := shortest_plan_le row failures hplan hplain
    omega
  · intro state next cell index hstate hstep hlargest hplain
    obtain ⟨cut, hreached⟩ := fit_reached hstate
    obtain ⟨hover, cell', index', hlargest', rfl⟩ := fit_step_cases hstep
    obtain ⟨rfl, rfl⟩ := Prod.mk.inj (Option.some.inj (hlargest.symm.trans hlargest'))
    exact (turn_decreases hreached hover hlargest hplain).1

/-- A text of one character, so many times. -/
def repeated (n : Nat) (c : Char) : Json := .str (.ofList (List.replicate n c))

/-- Its size. -/
theorem json_size_repeated (n : Nat) (c : Char) :
    jsonSize (repeated n c) = n * byteLength (escapeChar c) + 2 := by
  have hquote : byteLength ['"'] = 1 := by decide
  have htext : byteLength ((List.replicate n c).flatMap escapeChar) =
      n * byteLength (escapeChar c) := by
    induction n with
    | zero => simp [byteLength]
    | succ n ih =>
        rw [List.replicate_succ, List.flatMap_cons, byte_length_append, ih, Nat.succ_mul,
          Nat.add_comm]
  unfold jsonSize repeated
  rw [Json.render, renderString, String.toList_ofList, byte_length_append,
    ← List.singleton_append, byte_length_append, hquote, htext]
  omega

/-- A text within the bytes that are kept is kept whole. -/
theorem utf8_prefix_self {text : List Char} {maxBytes : Nat} (h : byteLength text ≤ maxBytes) :
    utf8Prefix text maxBytes = text := by
  induction text generalizing maxBytes with
  | nil => rfl
  | cons c text ih =>
      have hcons : byteLength (c :: text) = c.utf8Size + byteLength text := by
        simp [byteLength]
      unfold utf8Prefix
      rw [if_pos (by omega), ih (by omega)]

/-- A row of one cell that may not be shortened. -/
theorem given_up_at_start {value : Json} {budget : Nat}
    (hshort : (⟨value, jsonSize value, false⟩ : FitCell).shortenable = false)
    (hover : budget < (fitStart [value] []).bytes) :
    fitRowToPage [value] [] 0 budget = .error .resultRowTooLarge := by
  have hnone : largestCell (fitStart [value] []).cells = none := by
    unfold largestCell fitStart
    simp [hshort]
  have hstep : fitStep 0 budget (fitStart [value] []) = none := by
    rw [fitStep, if_neg (not_le.mpr hover), hnone]
    rfl
  have hloop := shorten_cells_eq 0 budget 1 (fitStart [value] [])
  rw [hstep, if_neg (not_le.mpr hover)] at hloop
  unfold fitRowToPage
  simp only
  unfold fitStart at hloop hover
  rw [if_neg (not_le.mpr hover)]
  simp only [List.map_cons, List.map_nil, List.length_singleton] at hloop ⊢
  rw [hloop]

/-- A row of one cell with a preview. -/
theorem planned_preview {value : Json} {keep kept budget : Nat}
    (hkept : jsonSize (previewOf value keep) = kept)
    (hbudget : 2 + (kept + 1 + failureBytes (truncatedFailure 0 0 value)) ≤ budget) :
    plannedBytes 0 [value] [] (fun _ => some keep) ≤ budget := by
  rw [planned_bytes_eq]
  unfold failuresSize plannedCost plannedValue plannedFailure
  simp only [List.zipIdx_cons, List.zipIdx_nil, total_cons, total_nil, Option.elim_some,
    Option.map_some, Option.getD_some]
  rw [if_neg nofun, hkept]
  omega

/-- A turn that keeps the whole text of the only cell. -/
theorem turn_keeps_text {value : Json} {budget : Nat}
    (hlong : (⟨value, jsonSize value, false⟩ : FitCell).shortenable = true)
    (hover : budget < (fitStart [value] []).bytes)
    (hsize : jsonSize value ≤ (fitStart [value] []).bytes)
    (hkept : previewOf value (keptBytes budget (fitStart [value] []).bytes
      ⟨value, jsonSize value, false⟩ (truncatedFailure 0 0 value)) = value) :
    ∃ next, fitStep 0 budget (fitStart [value] []) = some next ∧
      (fitStart [value] []).bytes < next.bytes := by
  have hlarge : largestCell (fitStart [value] []).cells =
      some (⟨value, jsonSize value, false⟩, 0) := by
    unfold largestCell fitStart
    simp [hlong]
  have hpos : 0 < failureBytes (truncatedFailure 0 0 value) := by
    unfold failureBytes
    omega
  refine ⟨_, by rw [fitStep, if_neg (not_le.mpr hover), hlarge]; rfl, ?_⟩
  unfold shortenCell
  simp only
  rw [hkept]
  omega

/-- A row with one text of 500 letters is given up one byte over the budget, though a preview of 256
bytes would do, and a turn makes a row with a text of 300 control characters larger. -/
theorem short_cell_given_up :
    (fitRowToPage [repeated 500 'a'] [] 0 504 = .error .resultRowTooLarge ∧
      plannedBytes 0 [repeated 500 'a'] [] (fun _ => some 256) ≤ 504) ∧
    ∃ next, fitStep 0 1804 (fitStart [repeated 300 '\x01'] []) = some next ∧
      (fitStart [repeated 300 '\x01'] []).bytes < next.bytes := by
  have hletter : byteLength (escapeChar 'a') = 1 := by decide
  have hcontrol : byteLength (escapeChar '\x01') = 6 := by decide
  have hletters := json_size_repeated 500 'a'
  have hcontrols := json_size_repeated 300 '\x01'
  rw [hletter] at hletters
  rw [hcontrol] at hcontrols
  have hone : ∀ value : Json, jsonSize (.arr [value]) = jsonSize value + 2 := by
    intro value
    rw [json_size_arr, if_neg nofun, total_cons, total_nil]
    omega
  have htext : ∀ n c, cellText (repeated n c) = List.replicate n c :=
    fun n c => String.toList_ofList
  have hbytes : ∀ (n : Nat) (c : Char), c.utf8Size = 1 → byteLength (List.replicate n c) = n := by
    intro n c hc
    rw [byte_length_ascii fun d hd => by rw [List.eq_of_mem_replicate hd]; exact hc,
      List.length_replicate]
  have hfailure : ∀ (n : Nat) (c : Char), n < 2 ^ 64 → c.utf8Size = 1 →
      failureBytes (truncatedFailure 0 0 (repeated n c)) ≤ 125 := by
    intro n c hn hc
    refine failure_bytes_le (by decide) (by decide) ?_
    rw [htext, hbytes n c hc]
    exact hn
  have hstart : ∀ value : Json, (fitStart [value] []).bytes = jsonSize value + 3 := by
    intro value
    unfold fitStart failuresSize
    simp only [hone, total_nil]
  refine ⟨⟨?_, ?_⟩, ?_⟩
  · refine given_up_at_start ?_ (by rw [hstart, hletters]; decide)
    unfold FitCell.shortenable TRUNCATED_MIN_PREVIEW_BYTES
    rw [hletters]
    simp
  · have hplain : plainCell (repeated 500 'a') = true := by
      unfold plainCell
      rw [htext, List.all_replicate]
      decide
    have hle := utf8_prefix_le (cellText (repeated 500 'a')) 256
    have hbound := hfailure 500 'a' (by decide) rfl
    refine planned_preview (json_size_preview hplain 256) ?_
    omega
  · have hsize : TRUNCATED_MIN_PREVIEW_BYTES * 2 < jsonSize (repeated 300 '\x01') := by
      rw [hcontrols]
      decide
    have hne : repeated 300 '\x01' ≠ .null := nofun
    refine turn_keeps_text ?_ (by rw [hstart, hcontrols]; decide) (by rw [hstart]; omega) ?_
    · unfold FitCell.shortenable
      simp only [hne, hsize, Bool.not_false, ne_eq, not_false_eq_true, decide_true, Bool.and_self]
    · have hbound := hfailure 300 '\x01' (by decide) rfl
      unfold previewOf
      rw [htext, utf8_prefix_self (by
        rw [hbytes 300 _ rfl]
        unfold keptBytes TRUNCATED_MIN_PREVIEW_BYTES TRUNCATED_PREVIEW_BYTES
        simp only [hstart, hcontrols]
        omega)]
      rfl

end Dopedb.Queries
