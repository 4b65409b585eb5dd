import Dopedb.Library.Tasks
import Dopedb.Queries.StreamBatch

/-!
# The budget of a page

`read_page_budget.rs`: how much room a page has for rows, and how the largest cells of a row that
has no room on a page become previews, each reported with its original size. `jsonSize` counts the
bytes of the compact JSON text.
-/

namespace Dopedb.Queries

open Library

/-- The errors of a streamed read. -/
inductive ReadError where
  | db (message : String)
  | resultRowTooLarge
  | receiver (error : DesktopSqlStreamSinkError)
  deriving DecidableEq, Repr

/-- A cell shortened so that its row fits has this type in the failure metadata, with its size. -/
def TRUNCATED_CELL_TYPE_PREFIX : String := "dopedb.truncated:"
def TRUNCATED_PREVIEW_BYTES : Nat := 16 * 1024
def TRUNCATED_MIN_PREVIEW_BYTES : Nat := 256
/-- Serialized bytes of the fixed fields of a page. -/
def PAGE_ENVELOPE_BYTES : Nat := 1024
/-- The room for rows that a page must keep after its column names. -/
def PAGE_MIN_ROW_BYTES : Nat := 16 * 1024

/-- Serialized JSON size. -/
def jsonSize (value : Json) : Nat := byteLength value.render

/-- The longest start of a text within so many bytes that ends on a character. -/
def utf8Prefix : List Char → Nat → List Char
  | [], _ => []
  | c :: text, maxBytes =>
    if c.utf8Size ≤ maxBytes then c :: utf8Prefix text (maxBytes - c.utf8Size) else []

/-- Room left on one page for rows and their failure metadata. -/
def pageRowBudget (columns : List String) : Except ReadError Nat :=
  let used := PAGE_ENVELOPE_BYTES + jsonSize (.arr (columns.map .str))
  if used ≤ DESKTOP_STREAM_BATCH_MAX_BYTES ∧
      PAGE_MIN_ROW_BYTES ≤ DESKTOP_STREAM_BATCH_MAX_BYTES - used then
    .ok (DESKTOP_STREAM_BATCH_MAX_BYTES - used)
  else .error .resultRowTooLarge

/-- Serialized bytes of a failure entry with its list separator. -/
def failureBytes (failure : CellDecodeFailure) : Nat := jsonSize failure.toJson + 1

/-- Serialized bytes of failure entries, each with its list separator. -/
def failuresSize (failures : List CellDecodeFailure) : Nat := total failureBytes failures

/-- A cell of a row that is being shortened. -/
structure FitCell where
  value : Json
  size : Nat
  shortened : Bool
  deriving DecidableEq

/-- A cell that may still be shortened. -/
def FitCell.shortenable (cell : FitCell) : Bool :=
  !cell.shortened && cell.value ≠ .null && TRUNCATED_MIN_PREVIEW_BYTES * 2 < cell.size

/-- The largest cell that may still be shortened. Of several the last one is taken. -/
def largestCell (cells : List FitCell) : Option (FitCell × Nat) :=
  cells.zipIdx.foldl (fun best entry =>
    if entry.1.shortenable = false then best
    else
      match best with
      | none => some entry
      | some other => if other.1.size ≤ entry.1.size then some entry else some other) none

/-- The text that a preview is taken from. -/
def cellText : Json → List Char
  | .str text => text.toList
  | value => value.render

/-- The failure entry of a shortened cell. -/
def truncatedFailure (rowIndex columnIndex : Nat) (value : Json) : CellDecodeFailure where
  rowIndex := rowIndex
  columnIndex := columnIndex
  databaseType := TRUNCATED_CELL_TYPE_PREFIX ++ (byteLength (cellText value)).repr

/-- The preview of a cell. -/
def previewOf (value : Json) (keep : Nat) : Json := .str (.ofList (utf8Prefix (cellText value) keep))

/-- The loop of `fit_row_to_page`. Every turn shortens one more cell, so there are at most as many
turns as cells, and after the last one no cell is left to be shortened. -/
def shortenCells (rowIndex budget : Nat) :
    Nat → List FitCell → List CellDecodeFailure → Nat →
      Except ReadError (List FitCell × List CellDecodeFailure × Nat)
  | turns, cells, failures, total =>
    if total ≤ budget then .ok (cells, failures, total)
    else
      match turns, largestCell cells with
      | turns + 1, some (cell, index) =>
        let failure := truncatedFailure rowIndex index cell.value
        let keep := max TRUNCATED_MIN_PREVIEW_BYTES (min TRUNCATED_PREVIEW_BYTES
          (cell.size - (total - budget + failureBytes failure + 2)))
        let value := previewOf cell.value keep
        let size := jsonSize value
        shortenCells rowIndex budget turns (cells.set index ⟨value, size, true⟩)
          (failures ++ [failure]) (total - cell.size + size + failureBytes failure)
      | _, _ => .error .resultRowTooLarge

/-- A row as it goes to a page, with the bytes that it and its failures add. -/
structure FittedRow where
  values : List Json
  failures : List CellDecodeFailure
  bytes : Nat
  deriving DecidableEq

/-- `fit_row_to_page`. -/
def fitRowToPage (values : List Json) (failures : List CellDecodeFailure) (rowIndex budget : Nat) :
    Except ReadError FittedRow :=
  let total := jsonSize (.arr values) + 1 + failuresSize failures
  if total ≤ budget then .ok ⟨values, failures, total⟩
  else
    match shortenCells rowIndex budget values.length
      (values.map fun value => ⟨value, jsonSize value, false⟩) failures total with
    | .error error => .error error
    | .ok (cells, failures, total) => .ok ⟨cells.map (·.value), failures, total⟩

/-! ## Sizes -/

/-- The bytes of a list of texts with a comma between them. -/
theorem byte_length_intercalate {texts : List (List Char)} (h : texts ≠ []) :
    byteLength ([','].intercalate texts) + 1 = total (fun text => byteLength text + 1) texts := by
  induction texts with
  | nil => exact absurd rfl h
  | cons text rest ih =>
      cases rest with
      | nil => simp
      | cons text' rest =>
          have hrest := ih nofun
          have hcomma : byteLength [','] = 1 := by decide
          rw [List.intercalate_cons_cons, byte_length_append, byte_length_append, total_cons,
            hcomma]
          omega

/-- The size of an array: its items with a separator each, and one more bracket. -/
theorem json_size_arr (values : List Json) :
    jsonSize (.arr values) =
      if values = [] then 2 else 1 + total (fun value => jsonSize value + 1) values := by
  have hbracket : byteLength ['['] = 1 ∧ byteLength [']'] = 1 := by decide
  have hsize : jsonSize (.arr values) =
      1 + byteLength ([','].intercalate (values.map Json.render)) + 1 := by
    unfold jsonSize
    rw [Json.render, Json.render_items_eq_map, byte_length_append, ← List.singleton_append,
      byte_length_append, hbracket.1, hbracket.2]
  split
  case isTrue hempty =>
      subst hempty
      decide
  case isFalse hne =>
      have hitems := @byte_length_intercalate (values.map Json.render) (by simpa using hne)
      have hmap : total (fun text => byteLength text + 1) (values.map Json.render) =
          total (fun value => jsonSize value + 1) values := by
        unfold total
        rw [List.map_map]
        rfl
      omega

/-- Putting another value into an array exchanges their sizes. -/
theorem json_size_set {values : List Json} {index : Nat} {value : Json}
    (h : values[index]? = some value) (value' : Json) :
    jsonSize (.arr (values.set index value')) + jsonSize value =
      jsonSize (.arr values) + jsonSize value' := by
  have hne : values ≠ [] := by
    rintro rfl
    simp at h
  have hne' : values.set index value' ≠ [] := by
    intro hempty
    have hlength := congrArg List.length hempty
    rw [List.length_set] at hlength
    exact hne (List.eq_nil_of_length_eq_zero hlength)
  rw [json_size_arr, json_size_arr, if_neg hne, if_neg hne']
  have hset := total_set (fun value => jsonSize value + 1) h value'
  omega

/-- A value is no larger than the array it is in. -/
theorem json_size_le_arr {values : List Json} {index : Nat} {value : Json}
    (h : values[index]? = some value) : jsonSize value ≤ jsonSize (.arr values) := by
  have hne : values ≠ [] := by
    rintro rfl
    simp at h
  have hle := weight_le_total (fun value => jsonSize value + 1) h
  rw [json_size_arr, if_neg hne]
  omega

/-- A preview takes no more bytes of its text than it may. -/
theorem utf8_prefix_le (text : List Char) (maxBytes : Nat) :
    byteLength (utf8Prefix text maxBytes) ≤ maxBytes := by
  induction text generalizing maxBytes with
  | nil => exact Nat.zero_le _
  | cons c text ih =>
      unfold utf8Prefix
      split
      case isTrue h =>
          have hrest := ih (maxBytes - c.utf8Size)
          have hcons : ∀ chars, byteLength (c :: chars) = c.utf8Size + byteLength chars := by
            intro chars
            simp [byteLength]
          rw [hcons]
          omega
      case isFalse => exact Nat.zero_le _

/-- A preview is a start of its text. -/
theorem utf8_prefix_of (text : List Char) (maxBytes : Nat) : utf8Prefix text maxBytes <+: text := by
  induction text generalizing maxBytes with
  | nil => exact List.prefix_rfl
  | cons c text ih =>
      unfold utf8Prefix
      split
      · exact (List.prefix_cons_inj c).mpr (ih _)
      · exact List.nil_prefix

/-! ## What fitting does -/

/-- What is taken for the largest cell is a cell of the row that may be shortened. -/
theorem largest_cell_some {cells : List FitCell} {cell : FitCell} {index : Nat}
    (h : largestCell cells = some (cell, index)) :
    cells[index]? = some cell ∧ cell.shortenable = true := by
  have hfold : ∀ (entries : List (FitCell × Nat)) (best : Option (FitCell × Nat)),
      (∀ entry ∈ entries, cells[entry.2]? = some entry.1) →
      (∀ entry, best = some entry →
        cells[entry.2]? = some entry.1 ∧ entry.1.shortenable = true) →
      ∀ entry, entries.foldl (fun best entry =>
        if entry.1.shortenable = false then best
        else
          match best with
          | none => some entry
          | some other => if other.1.size ≤ entry.1.size then some entry else some other) best =
            some entry → cells[entry.2]? = some entry.1 ∧ entry.1.shortenable = true := by
    intro entries
    induction entries with
    | nil => exact fun best _ hbest => hbest
    | cons first entries ih =>
        intro best hentries hbest
        rw [List.foldl_cons]
        refine ih _ (fun entry hmem => hentries entry (List.mem_cons_of_mem _ hmem)) ?_
        intro entry hentry
        split at hentry
        case isTrue => exact hbest entry hentry
        case isFalse hshortenable =>
            have hfirst : cells[first.2]? = some first.1 ∧ first.1.shortenable = true :=
              ⟨hentries first List.mem_cons_self, by simpa using hshortenable⟩
            split at hentry
            · obtain rfl := Option.some.inj hentry
              exact hfirst
            · split at hentry
              · obtain rfl := Option.some.inj hentry
                exact hfirst
              · exact hbest entry hentry
  unfold largestCell at h
  exact hfold cells.zipIdx none (fun entry hmem => (List.mem_zipIdx_iff_getElem?.mp hmem)) nofun
    (cell, index) h

/-- The cells that were shortened, as their failure entries report them. -/
structure Shortened (rowIndex : Nat) (values : List Json) (cut : List CellDecodeFailure)
    (values' : List Json) : Prop where
  length : values'.length = values.length
  /-- Each entry is that of one cell, with its original size. -/
  reported : ∀ failure ∈ cut, ∃ value, values[failure.columnIndex]? = some value ∧
    failure = truncatedFailure rowIndex failure.columnIndex value ∧
    ∃ keep ≤ TRUNCATED_PREVIEW_BYTES,
      values'[failure.columnIndex]? = some (previewOf value keep)
  /-- No cell is shortened twice. -/
  once : (cut.map (·.columnIndex)).Nodup
  /-- The other cells stay as they are. -/
  kept : ∀ index, index ∉ cut.map (·.columnIndex) → values'[index]? = values[index]?

/-- Where the loop of `fit_row_to_page` is: what was cut so far, and the sizes it goes on with. -/
structure FitInv (rowIndex : Nat) (values : List Json) (failures : List CellDecodeFailure)
    (cut : List CellDecodeFailure) (cells : List FitCell) (bytes : Nat) : Prop where
  shortened : Shortened rowIndex values cut (cells.map (·.value))
  sizes : ∀ index cell, cells[index]? = some cell →
    cell.size = jsonSize cell.value ∧ (cell.shortened = true ↔ index ∈ cut.map (·.columnIndex))
  counted : bytes = jsonSize (.arr (cells.map (·.value))) + 1 + failuresSize (failures ++ cut)

/-- Before the loop nothing is cut. -/
theorem fit_inv_start (rowIndex : Nat) (values : List Json) (failures : List CellDecodeFailure) :
    FitInv rowIndex values failures [] (values.map fun value => ⟨value, jsonSize value, false⟩)
      (jsonSize (.arr values) + 1 + failuresSize failures) := by
  have hvalues : (values.map fun value => (⟨value, jsonSize value, false⟩ : FitCell)).map
      (·.value) = values := by
    rw [List.map_map]
    exact List.map_id values
  refine ⟨⟨?_, nofun, List.nodup_nil, ?_⟩, ?_, ?_⟩
  · rw [hvalues]
  · intro index _
    rw [hvalues]
  · intro index cell hcell
    rw [List.getElem?_map, Option.map_eq_some_iff] at hcell
    obtain ⟨value, -, rfl⟩ := hcell
    exact ⟨rfl, nofun, nofun⟩
  · rw [hvalues, List.append_nil]

/-- One more cell is cut. -/
theorem FitInv.cut {rowIndex : Nat} {values : List Json} {failures cut : List CellDecodeFailure}
    {cells : List FitCell} {bytes : Nat} (h : FitInv rowIndex values failures cut cells bytes)
    {cell : FitCell} {index : Nat} (hcell : cells[index]? = some cell)
    (hopen : cell.shortened = false) {keep : Nat} (hkeep : keep ≤ TRUNCATED_PREVIEW_BYTES) :
    FitInv rowIndex values failures (cut ++ [truncatedFailure rowIndex index cell.value])
      (cells.set index ⟨previewOf cell.value keep, jsonSize (previewOf cell.value keep), true⟩)
      (bytes - cell.size + jsonSize (previewOf cell.value keep) +
        failureBytes (truncatedFailure rowIndex index cell.value)) := by
  obtain ⟨hshortened, hcells, hbytes⟩ := h
  obtain ⟨hsize, hflag⟩ := hcells index cell hcell
  -- the cell is whole so far, so no failure names its column
  have hnew : index ∉ cut.map (·.columnIndex) := by
    intro hmem
    rw [hflag.mpr hmem] at hopen
    exact absurd hopen nofun
  have hlt : index < cells.length := (List.getElem?_eq_some_iff.mp hcell).1
  have hvalue : (cells.map (·.value))[index]? = some cell.value := by
    rw [List.getElem?_map, hcell]
    rfl
  have hdecoded : values[index]? = some cell.value := by
    rw [← hshortened.kept index hnew, hvalue]
  have hmap : (cells.set index
      ⟨previewOf cell.value keep, jsonSize (previewOf cell.value keep), true⟩).map (·.value) =
        (cells.map (·.value)).set index (previewOf cell.value keep) := List.map_set
  have hcolumns : (cut ++ [truncatedFailure rowIndex index cell.value]).map (·.columnIndex) =
      cut.map (·.columnIndex) ++ [index] := List.map_append
  have hpreview : ((cells.map (·.value)).set index (previewOf cell.value keep))[index]? =
      some (previewOf cell.value keep) := by
    rw [List.getElem?_set_self (by rw [List.length_map]; exact hlt)]
  refine ⟨⟨?_, ?_, ?_, ?_⟩, ?_, ?_⟩
  · rw [hmap, List.length_set]
    exact hshortened.length
  · intro failure hmem
    rw [hmap]
    rcases List.mem_append.mp hmem with hold | hlast
    · obtain ⟨value, hat, heq, keep', hle, hat'⟩ := hshortened.reported failure hold
      refine ⟨value, hat, heq, keep', hle, ?_⟩
      have hne : index ≠ failure.columnIndex := fun heq =>
        hnew (heq ▸ List.mem_map_of_mem hold)
      rw [List.getElem?_set_ne hne]
      exact hat'
    · rw [List.mem_singleton.mp hlast]
      exact ⟨cell.value, hdecoded, rfl, keep, hkeep, hpreview⟩
  · rw [hcolumns]
    exact List.Nodup.append hshortened.once (List.nodup_singleton _) (by simpa using hnew)
  · intro other hother
    rw [hcolumns, List.mem_append, List.mem_singleton, not_or] at hother
    rw [hmap, List.getElem?_set_ne (fun heq => hother.2 heq.symm)]
    exact hshortened.kept other hother.1
  · intro other cell' hcell'
    rw [hcolumns, List.mem_append, List.mem_singleton]
    by_cases heq : index = other
    · subst heq
      rw [List.getElem?_set_self hlt] at hcell'
      obtain rfl := Option.some.inj hcell'
      exact ⟨rfl, fun _ => .inr rfl, fun _ => rfl⟩
    · rw [List.getElem?_set_ne heq] at hcell'
      obtain ⟨hsize', hflag'⟩ := hcells other cell' hcell'
      refine ⟨hsize', hflag'.trans ⟨.inl, ?_⟩⟩
      intro hmem
      exact hmem.resolve_right fun h => heq h.symm
  -- the bytes change by what the cell loses and by the failure that reports it
  · have hset := json_size_set hvalue (previewOf cell.value keep)
    have hfailures : failuresSize (failures ++ (cut ++
        [truncatedFailure rowIndex index cell.value])) = failuresSize (failures ++ cut) +
          failureBytes (truncatedFailure rowIndex index cell.value) := by
      unfold failuresSize
      rw [← List.append_assoc, total_append, total_cons, total_nil]
      rfl
    have hle := json_size_le_arr hvalue
    rw [hmap, hfailures]
    omega

/-- The loop ends within the budget. -/
theorem shorten_cells_spec {rowIndex budget : Nat} {values : List Json}
    {failures : List CellDecodeFailure} {turns : Nat} {cells cells' : List FitCell}
    {cut failures' : List CellDecodeFailure} {bytes bytes' : Nat}
    (hinv : FitInv rowIndex values failures cut cells bytes)
    (h : shortenCells rowIndex budget turns cells (failures ++ cut) bytes =
      .ok (cells', failures', bytes')) :
    ∃ cut', failures' = failures ++ cut' ∧ FitInv rowIndex values failures cut' cells' bytes' ∧
      bytes' ≤ budget := by
  induction turns generalizing cells cut bytes with
  | zero =>
      unfold shortenCells at h
      split at h
      case isTrue hle =>
          obtain ⟨rfl, rfl, rfl⟩ : cells = cells' ∧ failures ++ cut = failures' ∧ bytes = bytes' := by
            simpa using h
          exact ⟨cut, rfl, hinv, hle⟩
      case isFalse => exact absurd h nofun
  | succ turns ih =>
      unfold shortenCells at h
      split at h
      case isTrue hle =>
          obtain ⟨rfl, rfl, rfl⟩ : cells = cells' ∧ failures ++ cut = failures' ∧ bytes = bytes' := by
            simpa using h
          exact ⟨cut, rfl, hinv, hle⟩
      case isFalse =>
          -- without a cell to shorten the row is given up
          cases hlargest : largestCell cells with
          | none =>
              rw [hlargest] at h
              exact absurd h nofun
          | some entry =>
              obtain ⟨cell, index⟩ := entry
              rw [hlargest] at h
              obtain ⟨hcell, hshortenable⟩ := largest_cell_some hlargest
              have hopen : cell.shortened = false := by
                unfold FitCell.shortenable at hshortenable
                simp only [Bool.and_eq_true, Bool.not_eq_true'] at hshortenable
                exact hshortenable.1.1
              have hkeep : ∀ n, max TRUNCATED_MIN_PREVIEW_BYTES (min TRUNCATED_PREVIEW_BYTES n) ≤
                  TRUNCATED_PREVIEW_BYTES := by
                intro n
                unfold TRUNCATED_MIN_PREVIEW_BYTES TRUNCATED_PREVIEW_BYTES
                omega
              have hnext := hinv.cut hcell hopen (hkeep (cell.size - (bytes - budget +
                failureBytes (truncatedFailure rowIndex index cell.value) + 2)))
              refine ih hnext ?_
              rw [← List.append_assoc]
              exact h

/-- What a row looks like on a page: the row itself when it has room there, and otherwise the row
with some cells cut to previews, each reported after the failures the row had. The bytes are those
that the row and its failures take, and they are within the budget. -/
structure Fits (values : List Json) (failures : List CellDecodeFailure) (rowIndex budget : Nat)
    (row : FittedRow) : Prop where
  cut : ∃ cut, row.failures = failures ++ cut ∧ Shortened rowIndex values cut row.values
  counted : row.bytes = jsonSize (.arr row.values) + 1 + failuresSize row.failures
  within : row.bytes ≤ budget
  same : jsonSize (.arr values) + 1 + failuresSize failures ≤ budget →
    row.values = values ∧ row.failures = failures

/-- `fit_row_to_page` makes a row fit. -/
theorem fit_row_to_page_spec {values : List Json} {failures : List CellDecodeFailure}
    {rowIndex budget : Nat} {row : FittedRow}
    (h : fitRowToPage values failures rowIndex budget = .ok row) :
    Fits values failures rowIndex budget row := by
  unfold fitRowToPage at h
  simp only at h
  split at h
  case isTrue hle =>
      obtain rfl := Except.ok.inj h
      refine ⟨⟨[], (List.append_nil _).symm, ⟨rfl, nofun, List.nodup_nil, fun _ _ => rfl⟩⟩, rfl, hle,
        fun _ => ⟨rfl, rfl⟩⟩
  case isFalse hover =>
      split at h
      case h_1 => exact absurd h nofun
      case h_2 cells failures' bytes hloop =>
          obtain rfl := Except.ok.inj h
          have hstart := fit_inv_start rowIndex values failures
          have hloop : shortenCells rowIndex budget values.length
              (values.map fun value => ⟨value, jsonSize value, false⟩) (failures ++ [])
              (jsonSize (.arr values) + 1 + failuresSize failures) = .ok (cells, failures', bytes) := by
            rw [List.append_nil]
            exact hloop
          obtain ⟨cut, rfl, hinv, hle⟩ := shorten_cells_spec hstart hloop
          exact ⟨⟨cut, rfl, hinv.shortened⟩, hinv.counted, hle, fun hfits => absurd hfits hover⟩

end Dopedb.Queries
