import Dopedb.Queries.StreamedRead

/-!
# What a streamed read delivers

The pages of a read are blocks of its rows, each row as it fits on a page. `PagesOf` says what that
means for whoever reads the pages: which rows and failures are there, and that every page is within
the limits of the transport. A read that fails has delivered some of these pages.
-/

namespace Dopedb.Queries

open Library

/-! ## The size of a page -/

/-- What a page is sent with: the operation, as the text of its UUID, and two machine integers. -/
structure PageIdentity where
  operationId : OperationId
  sequence : Nat
  rowStart : Nat
  hyphenated : operationId.text.toList.length = 36 ∧
    ∀ c ∈ operationId.text.toList, c.isAlphanum = true ∨ c = '-'
  sequence_lt : sequence < 2 ^ 64
  rowStart_lt : rowStart < 2 ^ 64

/-- The page that is sent. -/
def PageIdentity.batch (identity : PageIdentity) (page : ReadBatch) : DesktopSqlStreamBatch where
  operationId := identity.operationId
  sequence := identity.sequence
  rowStart := identity.rowStart
  columns := page.columns
  rows := page.rows
  decodeFailures := page.decodeFailures

/-- A letter, a digit or a hyphen is written as one byte. -/
theorem escape_of_hyphenated {c : Char} (h : c.isAlphanum = true ∨ c = '-') :
    escapeChar c = [c] ∧ c.utf8Size = 1 := by
  have hrange : 45 ≤ c.toNat ∧ c.toNat ≤ 122 ∧ c.toNat ≠ 92 := by
    rcases h with h | rfl
    · have hcases : (65 ≤ c.toNat ∧ c.toNat ≤ 90) ∨ (97 ≤ c.toNat ∧ c.toNat ≤ 122) ∨
          (48 ≤ c.toNat ∧ c.toNat ≤ 57) := by
        simpa [Char.isAlphanum, Char.isAlpha, Char.isUpper, Char.isLower, Char.isDigit,
          UInt32.le_iff_toNat_le, or_assoc] using h
      omega
    · decide
  have hne : ∀ other : Char, c.toNat ≠ other.toNat → c ≠ other := fun other hne heq =>
    hne (congrArg Char.toNat heq)
  constructor
  · have hquote : c ≠ '"' := hne _ (by show c.toNat ≠ 34; omega)
    have hback : c ≠ '\\' := hne _ (by show c.toNat ≠ 92; omega)
    have hline : c ≠ '\n' := hne _ (by show c.toNat ≠ 10; omega)
    have hreturn : c ≠ '\r' := hne _ (by show c.toNat ≠ 13; omega)
    have htab : c ≠ '\t' := hne _ (by show c.toNat ≠ 9; omega)
    have hbell : c ≠ '\x08' := hne _ (by show c.toNat ≠ 8; omega)
    have hfeed : c ≠ '\x0c' := hne _ (by show c.toNat ≠ 12; omega)
    have hcontrol : ¬ c.toNat < 32 := by omega
    simp only [escapeChar, hquote, hback, hline, hreturn, htab, hbell, hfeed, hcontrol, if_false]
  · have hle : c.val ≤ 0x7f := by
      rw [UInt32.le_iff_toNat_le]
      show c.toNat ≤ 127
      omega
    exact if_pos hle

/-- The text of a UUID takes its characters and two quotes. -/
theorem byte_length_identity (identity : PageIdentity) :
    byteLength (renderString identity.operationId.text) = 38 := by
  obtain ⟨hlength, hchars⟩ := identity.hyphenated
  have hescape : identity.operationId.text.toList.flatMap escapeChar =
      identity.operationId.text.toList := by
    rw [List.flatMap_congr fun c hc => (escape_of_hyphenated (hchars c hc)).1]
    exact List.flatMap_singleton' _
  have hquote : byteLength ['"'] = 1 := by decide
  unfold renderString
  rw [hescape, byte_length_append, ← List.singleton_append, byte_length_append, hquote,
    byte_length_ascii fun c hc => (escape_of_hyphenated (hchars c hc)).2, hlength]

/-- The bytes of an array are at most those of its items with a separator each, and the
brackets. -/
theorem json_size_arr_le (values : List Json) :
    jsonSize (.arr values) ≤ 2 + total (fun value => jsonSize value + 1) values := by
  rw [json_size_arr]
  split <;> omega

/-- A member of an object takes its name, its quotes and its colon. -/
theorem byte_length_member (name : String) (value : Json) :
    byteLength (renderString name ++ ':' :: value.render) =
      byteLength (renderString name) + 1 + jsonSize value := by
  have hcolon : byteLength [':'] = 1 := by decide
  unfold jsonSize
  rw [byte_length_append, ← List.singleton_append, byte_length_append, hcolon]
  omega

/-- The size of an object is that of its members with a separator each, and two braces. -/
theorem json_size_obj_le (fields : List (String × Json)) :
    jsonSize (.obj fields) ≤
      2 + total (fun m => byteLength (renderString m.1) + 2 + jsonSize m.2) fields := by
  have hbrace : byteLength ['\x7b'] = 1 ∧ byteLength ['\x7d'] = 1 := by decide
  have hmembers := byte_length_intercalate_le
    (fields.map fun m => renderString m.1 ++ ':' :: m.2.render)
  have hsum : ((fields.map fun m => renderString m.1 ++ ':' :: m.2.render).map
      fun text => byteLength text + 1).sum =
        total (fun m => byteLength (renderString m.1) + 2 + jsonSize m.2) fields := by
    unfold total
    rw [List.map_map]
    refine congrArg List.sum (List.map_congr_left fun m _ => ?_)
    show byteLength _ + 1 = _
    rw [byte_length_member]
    omega
  have hsize : jsonSize (.obj fields) = 1 + byteLength ([','].intercalate
      (fields.map fun m => renderString m.1 ++ ':' :: m.2.render)) + 1 := by
    unfold jsonSize
    rw [Json.render, Json.render_members_eq_map, byte_length_append, ← List.singleton_append,
      byte_length_append, hbrace.1, hbrace.2]
  omega

/-- The size of a machine integer. -/
theorem json_size_int_le {n : Nat} (h : n < 2 ^ 64) : jsonSize (.int n) ≤ 20 :=
  byte_length_repr_le (by omega) (by omega)

/-- The rows and failures of a page that are within the budget leave the page within the limit of
the transport. -/
theorem encoded_le (page : ReadBatch) {budget : Nat}
    (hbudget : pageRowBudget page.columns = .ok budget)
    (hbytes : total (fun row => jsonSize (.arr row) + 1) page.rows +
      failuresSize page.decodeFailures ≤ budget) (identity : PageIdentity) :
    (identity.batch page).encoded.length ≤ DESKTOP_STREAM_BATCH_MAX_BYTES := by
  have hcolumns : budget + (PAGE_ENVELOPE_BYTES + jsonSize (.arr (page.columns.map .str))) =
      DESKTOP_STREAM_BATCH_MAX_BYTES := by
    unfold pageRowBudget at hbudget
    simp only at hbudget
    split at hbudget
    case isTrue h =>
        have hvalue := Except.ok.inj hbudget
        omega
    case isFalse => exact absurd hbudget nofun
  have hrows := json_size_arr_le (page.rows.map .arr)
  have hrowsTotal : total (fun value => jsonSize value + 1) (page.rows.map .arr) =
      total (fun row => jsonSize (.arr row) + 1) page.rows := by
    unfold total
    rw [List.map_map]
    rfl
  have hfailures := json_size_arr_le (page.decodeFailures.map CellDecodeFailure.toJson)
  have hfailuresTotal : total (fun value => jsonSize value + 1)
      (page.decodeFailures.map CellDecodeFailure.toJson) = failuresSize page.decodeFailures := by
    unfold total failuresSize total
    rw [List.map_map]
    rfl
  have hsequence := json_size_int_le identity.sequence_lt
  have hrowStart := json_size_int_le identity.rowStart_lt
  have hidentity : jsonSize (.str identity.operationId.text) = 38 := byte_length_identity identity
  -- all the rest of the object is bounded by the envelope
  have hnames : byteLength (renderString "operationId") = 13 ∧
      byteLength (renderString "sequence") = 10 ∧ byteLength (renderString "rowStart") = 10 ∧
      byteLength (renderString "columns") = 9 ∧ byteLength (renderString "rows") = 6 ∧
      byteLength (renderString "decodeFailures") = 16 := by decide
  obtain ⟨h1, h2, h3, h4, h5, h6⟩ := hnames
  have hencoded : (identity.batch page).encoded.length =
      jsonSize (identity.batch page).toJson := length_text_bytes _
  have hobject := json_size_obj_le ([("operationId", .str identity.operationId.text),
    ("sequence", .int identity.sequence), ("rowStart", .int identity.rowStart),
    ("columns", .arr (page.columns.map .str)), ("rows", .arr (page.rows.map .arr))] ++
    if page.decodeFailures.isEmpty then []
    else [("decodeFailures", .arr (page.decodeFailures.map CellDecodeFailure.toJson))])
  have hlast : total (fun m : String × Json => byteLength (renderString m.1) + 2 + jsonSize m.2)
      (if page.decodeFailures.isEmpty then []
      else [("decodeFailures", .arr (page.decodeFailures.map CellDecodeFailure.toJson))]) ≤
        18 + jsonSize (.arr (page.decodeFailures.map CellDecodeFailure.toJson)) := by
    split
    · exact Nat.zero_le _
    · simp only [total_cons, total_nil, h6]
      omega
  have hfields : jsonSize (identity.batch page).toJson ≤ _ := hobject
  rw [total_append, total_cons, total_cons, total_cons, total_cons, total_cons, total_nil]
    at hfields
  simp only [h1, h2, h3, h4, h5, hidentity] at hfields
  rw [hencoded]
  unfold PAGE_ENVELOPE_BYTES at hcolumns
  omega

/-! ## The pages of the first rows -/

section Delivery

variable {ρ : Type} {receive : Receiver} {stream : RowStream ρ}

/-- What `fit_row_to_page` makes of the row with an index. -/
def RowStream.fit (stream : RowStream ρ) (budget : Nat) (row : ρ) (rowIndex : Nat) :
    Except ReadError FittedRow :=
  fitRowToPage (stream.decodeRow row rowIndex).1 (stream.decodeRow row rowIndex).2 rowIndex budget

/-- The rows as they fit on pages. -/
def RowStream.FittedTo (stream : RowStream ρ) (budget : Nat) (rows : List ρ)
    (fitted : List FittedRow) : Prop :=
  (rows.zipIdx.map fun (row, rowIndex) => stream.fit budget row rowIndex) = fitted.map .ok

/-- One more row fits. -/
theorem RowStream.FittedTo.concat {budget : Nat} {rows : List ρ} {fitted : List FittedRow}
    (h : stream.FittedTo budget rows fitted) {row : ρ} {row' : FittedRow}
    (hrow : stream.fit budget row rows.length = .ok row') :
    stream.FittedTo budget (rows ++ [row]) (fitted ++ [row']) := by
  unfold RowStream.FittedTo at h ⊢
  rw [List.zipIdx_append, List.map_append, List.map_append, h]
  simp [hrow]

/-- The row with an index fits. -/
theorem RowStream.FittedTo.get {budget : Nat} {rows : List ρ} {fitted : List FittedRow}
    (h : stream.FittedTo budget rows fitted) {index : Nat} {row : ρ}
    (hrow : rows[index]? = some row) :
    ∃ row', fitted[index]? = some row' ∧ stream.fit budget row index = .ok row' := by
  have hat := congrArg (·[index]?) h
  simp only [List.getElem?_map, List.getElem?_zipIdx, hrow, Option.map_some, Nat.zero_add] at hat
  obtain ⟨row', hrow', heq⟩ := Option.map_eq_some_iff.mp hat.symm
  exact ⟨row', hrow', heq.symm⟩

/-- All rows fit. -/
theorem RowStream.FittedTo.length {budget : Nat} {rows : List ρ} {fitted : List FittedRow}
    (h : stream.FittedTo budget rows fitted) : fitted.length = rows.length := by
  have hlength := congrArg List.length h
  simpa using hlength.symm

/-- The bytes of a row that fits are within the budget. -/
theorem RowStream.FittedTo.within {budget : Nat} {rows : List ρ} {fitted : List FittedRow}
    (h : stream.FittedTo budget rows fitted) : ∀ row ∈ fitted,
      row.bytes = jsonSize (.arr row.values) + 1 + failuresSize row.failures ∧
        row.bytes ≤ budget := by
  intro row hmem
  obtain ⟨index, hindex⟩ := List.mem_iff_getElem?.mp hmem
  have hlt := (List.getElem?_eq_some_iff.mp hindex).1
  rw [h.length] at hlt
  obtain ⟨row', hrow', hfit⟩ := h.get (List.getElem?_eq_getElem hlt)
  rw [hindex] at hrow'
  obtain rfl := Option.some.inj hrow'
  have hspec := fit_row_to_page_spec hfit
  exact ⟨hspec.counted, hspec.within⟩

/-- The pages that are expected for some rows: the blocks they are cut into. -/
def RowStream.Delivery (stream : RowStream ρ) (batchRows : Nat) (rows : List ρ)
    (pages : List ReadBatch) : Prop :=
  (rows = [] ∧ pages = []) ∨
    ∃ budget fitted, pageRowBudget stream.columnNames = .ok budget ∧
      stream.FittedTo budget rows fitted ∧
      pages = (Cutting.read batchRows budget (·.bytes) fitted).blocks.map
        (pageOf stream.columnNames)

/-- What the pages of some rows are to whoever reads them. -/
structure PagesOf (stream : RowStream ρ) (rows : List ρ) (pages : List ReadBatch) : Prop where
  /-- The pages are blocks of the rows in their order, each row as it fits on a page, with the
  failures of its cells. -/
  blocks : ∃ (budget : Nat) (blocks : List (List FittedRow)),
    (rows = [] ∨ pageRowBudget stream.columnNames = .ok budget) ∧
    pages = blocks.map (pageOf stream.columnNames) ∧ blocks.flatten.length = rows.length ∧
      ∀ (index : Nat) (row : ρ), rows[index]? = some row →
        ∃ row', blocks.flatten[index]? = some row' ∧
          Fits (stream.decodeRow row index).1 (stream.decodeRow row index).2 index budget row'
  /-- No page is empty or has more than 256 rows. -/
  rows : ∀ page ∈ pages, page.rows ≠ [] ∧ page.rows.length ≤ 256
  /-- Every page is within the limit of the transport. -/
  size : ∀ page ∈ pages, ∀ identity : PageIdentity,
    (identity.batch page).encoded.length ≤ DESKTOP_STREAM_BATCH_MAX_BYTES

/-- The failures of a decoded row are those of its cells, each once, with its column. -/
theorem decode_row_failures (stream : RowStream ρ) (row : ρ) (rowIndex : Nat) :
    (∀ failure, failure ∈ (stream.decodeRow row rowIndex).2 ↔ failure.rowIndex = rowIndex ∧
      ∃ cell, (stream.decodedCells row)[failure.columnIndex]? = some cell ∧
        cell.failureType = some failure.databaseType) ∧
      ((stream.decodeRow row rowIndex).2.map (·.columnIndex)).Pairwise (· < ·) := by
  constructor
  · intro failure
    show failure ∈ List.filterMap _ _ ↔ _
    rw [List.mem_filterMap]
    constructor
    · rintro ⟨⟨cell, columnIndex⟩, hmem, hfailure⟩
      obtain ⟨databaseType, htype, rfl⟩ := Option.map_eq_some_iff.mp hfailure
      exact ⟨rfl, cell, List.mem_zipIdx_iff_getElem?.mp hmem, htype⟩
    · rintro ⟨rfl, cell, hcell, htype⟩
      refine ⟨(cell, failure.columnIndex), List.mem_zipIdx_iff_getElem?.mpr hcell, ?_⟩
      show cell.failureType.map _ = some failure
      rw [htype]
      rfl
  · have hgeneral : ∀ (cells : List DecodedCell) (start : Nat),
        ((cells.zipIdx start).filterMap fun indexed =>
          indexed.1.failureType.map fun databaseType =>
            (⟨rowIndex, indexed.2, databaseType⟩ : CellDecodeFailure)).Pairwise
          (fun a b => a.columnIndex < b.columnIndex) ∧
        ∀ failure ∈ (cells.zipIdx start).filterMap fun indexed =>
          indexed.1.failureType.map fun databaseType =>
            (⟨rowIndex, indexed.2, databaseType⟩ : CellDecodeFailure),
          start ≤ failure.columnIndex := by
      intro cells
      induction cells with
      | nil => exact fun start => ⟨.nil, fun _ h => absurd h List.not_mem_nil⟩
      | cons cell cells ih =>
          intro start
          obtain ⟨hpairwise, hle⟩ := ih (start + 1)
          rw [List.zipIdx_cons]
          cases htype : cell.failureType with
          | none =>
              rw [List.filterMap_cons_none (by simp [htype])]
              exact ⟨hpairwise, fun failure hmem => Nat.le_of_succ_le (hle failure hmem)⟩
          | some databaseType =>
              rw [List.filterMap_cons_some (b := ⟨rowIndex, start, databaseType⟩)
                (by simp [htype])]
              refine ⟨List.pairwise_cons.mpr ⟨fun failure hmem => hle failure hmem, hpairwise⟩, ?_⟩
              intro failure hmem
              rcases List.mem_cons.mp hmem with rfl | hrest
              · exact Nat.le_refl start
              · exact Nat.le_of_succ_le (hle failure hrest)
    exact List.pairwise_map.mpr (hgeneral (stream.decodedCells row) 0).1

/-- The bytes of a block are those of its rows and failures. -/
theorem bytes_of_block {block : List FittedRow} (h : ∀ row ∈ block,
    row.bytes = jsonSize (.arr row.values) + 1 + failuresSize row.failures) :
    total (fun row => jsonSize (.arr row) + 1) (block.map (·.values)) +
      failuresSize (block.flatMap (·.failures)) = total (·.bytes) block := by
  induction block with
  | nil => rfl
  | cons row rows ih =>
      have hrest := ih fun row' hrow' => h row' (List.mem_cons_of_mem _ hrow')
      have hrow := h row List.mem_cons_self
      unfold failuresSize at hrest hrow ⊢
      rw [List.map_cons, total_cons, List.flatMap_cons, total_append, total_cons]
      omega

/-- The expected pages are pages of the rows. -/
theorem RowStream.Delivery.pages {batchRows : Nat} (hrows : 0 < batchRows)
    (hlimit : batchRows ≤ 256) {rows : List ρ} {pages : List ReadBatch}
    (h : stream.Delivery batchRows rows pages) : PagesOf stream rows pages := by
  rcases h with ⟨rfl, rfl⟩ | ⟨budget, fitted, hbudget, hfitted, rfl⟩
  · exact ⟨⟨0, [], .inl rfl, rfl, rfl, nofun⟩, nofun, nofun⟩
  have hwithin := (@Cutting.within_read _ batchRows budget FittedRow.bytes hrows fitted fun row hmem =>
    (hfitted.within row hmem).2).blocks
  have hflatten : (Cutting.read batchRows budget (·.bytes) fitted).blocks.flatten = fitted := by
    rw [Cutting.flatten_blocks, Cutting.items_read]
  generalize (Cutting.read batchRows budget (·.bytes) fitted).blocks = blocks at hwithin hflatten ⊢
  refine ⟨⟨budget, blocks, .inr hbudget, rfl, ?_, ?_⟩, ?_, ?_⟩
  · rw [hflatten, hfitted.length]
  · intro index row hrow
    rw [hflatten]
    obtain ⟨row', hrow', hfit⟩ := hfitted.get hrow
    exact ⟨row', hrow', fit_row_to_page_spec hfit⟩
  · intro page hpage
    obtain ⟨block, hmem, rfl⟩ := List.mem_map.mp hpage
    obtain ⟨hne, hlength, -⟩ := hwithin block hmem
    constructor
    · exact fun hempty => hne (List.map_eq_nil_iff.mp hempty)
    · show (block.map (·.values)).length ≤ 256
      rw [List.length_map]
      omega
  · intro page hpage identity
    obtain ⟨block, hmem, rfl⟩ := List.mem_map.mp hpage
    obtain ⟨-, -, hbytes⟩ := hwithin block hmem
    have hcounted := @bytes_of_block block fun row hrow =>
      (hfitted.within row (hflatten ▸ List.mem_flatten_of_mem hmem hrow)).1
    have hpage : total (fun row => jsonSize (.arr row) + 1) (pageOf stream.columnNames block).rows +
        failuresSize (pageOf stream.columnNames block).decodeFailures ≤ budget := by
      show total _ (block.map (·.values)) + failuresSize (block.flatMap (·.failures)) ≤ budget
      rw [hcounted]
      exact hbytes
    exact encoded_le (pageOf stream.columnNames block) hbudget hpage identity

/-! ## The loop -/

/-- Why a read fails: the driver, column names without room for rows, a row that cannot be made to
fit, or the receiver. -/
inductive ReadFailure (receive : Receiver) (stream : RowStream ρ) (maxRows : Nat) :
    ReadError → Prop where
  | driver {message : String} (h : .error message ∈ stream.rows) :
      ReadFailure receive stream maxRows (.db message)
  | columns {error : ReadError} (h : pageRowBudget stream.columnNames = .error error) :
      ReadFailure receive stream maxRows error
  | row {index budget : Nat} {row : ρ} {error : ReadError} (hlt : index < maxRows)
      (hrow : stream.rows[index]? = some (.ok row))
      (hbudget : pageRowBudget stream.columnNames = .ok budget)
      (h : stream.fit budget row index = .error error) : ReadFailure receive stream maxRows error
  | receiver {pages : List ReadBatch} {page : ReadBatch} {error : ReadError}
      (h : receive pages page = .error error) : ReadFailure receive stream maxRows error

/-- The variables of the loop after rows that fit. -/
def loopOf (stream : RowStream ρ) (batchRows budget : Nat) (fitted : List FittedRow) :
    ReadLoop where
  columns := stream.columnNames
  rowCount := fitted.length
  pageBudget := budget
  paging := pagingOf stream.columnNames (Cutting.read batchRows budget (·.bytes) fitted)

/-- Where the loop is after some rows. -/
def LoopInv (stream : RowStream ρ) (batchRows : Nat) (rows : List ρ) (loop : ReadLoop) : Prop :=
  (rows = [] ∧ loop = {}) ∨
    (rows ≠ [] ∧ ∃ budget fitted, pageRowBudget stream.columnNames = .ok budget ∧
      stream.FittedTo budget rows fitted ∧ loop = loopOf stream batchRows budget fitted)

/-- A failed read: some of the pages of the first rows went out. -/
def Failed (receive : Receiver) (stream : RowStream ρ) (maxRows batchRows : Nat)
    (stopped : Stopped) : Prop :=
  ReadFailure receive stream maxRows stopped.error ∧
    ∃ rows pages, rows.map .ok <+: stream.rows.take maxRows ∧
      stream.Delivery batchRows rows pages ∧ stopped.pages <+: pages

variable {maxRows batchRows : Nat} {rows : List ρ} {rest : List (Except String ρ)}

/-- Rows that are read and within the cap are among the first ones. -/
theorem rows_within_cap (hsplit : stream.rows = rows.map .ok ++ rest)
    (hcap : rows.length ≤ maxRows) : rows.map .ok <+: stream.rows.take maxRows := by
  rw [List.prefix_take_iff, List.length_map, hsplit]
  exact ⟨List.prefix_append _ _, hcap⟩

/-- The pages that went out before some point are pages of the rows before it. -/
theorem LoopInv.delivery {loop : ReadLoop} (h : LoopInv stream batchRows rows loop) :
    ∃ pages, stream.Delivery batchRows rows pages ∧ loop.paging.pages <+: pages := by
  rcases h with ⟨rfl, rfl⟩ | ⟨-, budget, fitted, hbudget, hfitted, rfl⟩
  · exact ⟨[], .inl ⟨rfl, rfl⟩, List.prefix_rfl⟩
  · exact ⟨_, .inr ⟨budget, fitted, hbudget, hfitted, rfl⟩,
      (Cutting.closed_blocks _).map _⟩

/-- At every row the columns and the budget are those of the statement. -/
theorem read_header_spec {loop : ReadLoop} (h : LoopInv stream batchRows rows loop) :
    (∃ error, pageRowBudget stream.columnNames = .error error ∧
      readHeader stream loop = .error ⟨error, loop.paging.pages⟩) ∨
    ∃ budget fitted, pageRowBudget stream.columnNames = .ok budget ∧
      stream.FittedTo budget rows fitted ∧
      readHeader stream loop = .ok (loopOf stream batchRows budget fitted) := by
  cases hheader : pageRowBudget stream.columnNames with
  | error error =>
      rcases h with ⟨-, rfl⟩ | ⟨-, budget, fitted, hbudget, -⟩
      · refine .inl ⟨error, rfl, ?_⟩
        simp only [readHeader, hheader]
        rfl
      · rw [hheader] at hbudget
        exact absurd hbudget nofun
  | ok budget =>
      refine .inr ?_
      rcases h with ⟨rfl, rfl⟩ | ⟨-, budget', fitted, hbudget, hfitted, rfl⟩
      · refine ⟨budget, [], rfl, rfl, ?_⟩
        simp only [readHeader, hheader]
        rfl
      · rw [hheader] at hbudget
        obtain rfl := Except.ok.inj hbudget
        refine ⟨budget, fitted, rfl, hfitted, ?_⟩
        unfold readHeader
        split
        · rw [hheader]
          rfl
        · rfl

/-- A row within the cap is the next one of the first rows. -/
theorem read_row_spec {budget : Nat} {fitted : List FittedRow} {row : ρ}
    (hsplit : stream.rows = rows.map .ok ++ .ok row :: rest) (hcap : rows.length < maxRows)
    (hbudget : pageRowBudget stream.columnNames = .ok budget)
    (hfitted : stream.FittedTo budget rows fitted) :
    (∃ stopped, Failed receive stream maxRows batchRows stopped ∧
      readRow receive stream batchRows (loopOf stream batchRows budget fitted) row =
        .error stopped) ∨
    ∃ loop, LoopInv stream batchRows (rows ++ [row]) loop ∧
      readRow receive stream batchRows (loopOf stream batchRows budget fitted) row = .ok loop := by
  have hcount : (loopOf stream batchRows budget fitted).rowCount = rows.length := hfitted.length
  have hat : stream.rows[rows.length]? = some (.ok row) := by
    rw [hsplit, List.getElem?_append_right (by rw [List.length_map]), List.length_map,
      Nat.sub_self]
    rfl
  have hfit : fitRowToPage (stream.decodeRow row (loopOf stream batchRows budget fitted).rowCount).1
      (stream.decodeRow row (loopOf stream batchRows budget fitted).rowCount).2
      (loopOf stream batchRows budget fitted).rowCount
      (loopOf stream batchRows budget fitted).pageBudget = stream.fit budget row rows.length := by
    rw [hcount]
    rfl
  -- the row may be too large for a page, and its page may be refused by the receiver
  cases hrow : stream.fit budget row rows.length with
  | error error =>
      refine .inl ⟨⟨error, (loopOf stream batchRows budget fitted).paging.pages⟩,
        ⟨.row hcap hat hbudget hrow, rows, _, rows_within_cap hsplit (Nat.le_of_lt hcap),
          .inr ⟨budget, fitted, hbudget, hfitted, rfl⟩, (Cutting.closed_blocks _).map _⟩, ?_⟩
      unfold readRow
      simp only [hfit, hrow]
  | ok row' =>
      have hnext := hfitted.concat hrow
      have hsplit' : stream.rows = (rows ++ [row]).map .ok ++ rest := by
        rw [hsplit, List.map_append, List.append_assoc]
        rfl
      have hread := Cutting.read_concat batchRows budget FittedRow.bytes fitted row'
      have hpush := @delivers_push_row receive stream.columnNames batchRows budget
        (Cutting.read batchRows budget FittedRow.bytes fitted) row'
      rw [← hread] at hpush
      rcases hpush with hok | ⟨pages, page, error, hreceive, herror, hprefix⟩
      · refine .inr ⟨loopOf stream batchRows budget (fitted ++ [row']),
          .inr ⟨by simp, budget, _, hbudget, hnext, rfl⟩, ?_⟩
        unfold readRow
        simp only [hfit, hrow]
        have hsame : pushRow receive (loopOf stream batchRows budget fitted).columns batchRows
            (loopOf stream batchRows budget fitted).pageBudget
            (loopOf stream batchRows budget fitted).paging row' = _ := hok
        rw [hsame]
        simp [loopOf, bind, Except.bind, pure, Except.pure]
      · refine .inl ⟨⟨error, pages ++ [page]⟩, ⟨.receiver hreceive, rows ++ [row], _,
          rows_within_cap hsplit' (by rw [List.length_append]; exact hcap),
          .inr ⟨budget, _, hbudget, hnext, rfl⟩,
          hprefix.trans ((Cutting.closed_blocks _).map _)⟩, ?_⟩
        unfold readRow
        simp only [hfit, hrow]
        have hsame : pushRow receive (loopOf stream batchRows budget fitted).columns batchRows
            (loopOf stream batchRows budget fitted).pageBudget
            (loopOf stream batchRows budget fitted).paging row' = _ := herror
        rw [hsame]
        rfl

/-- The loop reads the first rows. -/
theorem read_rows_spec {loop : ReadLoop} (hsplit : stream.rows = rows.map .ok ++ rest)
    (hcap : rows.length ≤ maxRows) (h : LoopInv stream batchRows rows loop) :
    (∃ stopped, Failed receive stream maxRows batchRows stopped ∧
      readRows receive stream maxRows batchRows rest loop = .error stopped) ∨
    ∃ loop' rows' truncated,
      readRows receive stream maxRows batchRows rest loop = .ok (loop', truncated) ∧
      stream.rows.take maxRows = rows'.map .ok ∧
      truncated = decide (maxRows < stream.rows.length) ∧
      (LoopInv stream batchRows rows' loop' ∧ stream.rows.length = rows'.length ∨
        maxRows < stream.rows.length ∧ ∃ budget fitted,
          pageRowBudget stream.columnNames = .ok budget ∧ stream.FittedTo budget rows' fitted ∧
            loop' = loopOf stream batchRows budget fitted) := by
  induction rest generalizing rows loop with
  | nil =>
      rw [List.append_nil] at hsplit
      have hlength : stream.rows.length = rows.length := by rw [hsplit, List.length_map]
      refine .inr ⟨loop, rows, false, rfl, ?_, ?_, .inl ⟨h, hlength⟩⟩
      · rw [List.take_of_length_le (by omega), hsplit]
      · symm
        rw [decide_eq_false_iff_not]
        omega
  | cons item rest ih =>
      cases item with
      | error message =>
          obtain ⟨pages, hdelivery, hprefix⟩ := h.delivery
          refine .inl ⟨⟨.db message, loop.paging.pages⟩, ⟨.driver ?_, rows, pages,
            rows_within_cap hsplit hcap, hdelivery, hprefix⟩, rfl⟩
          rw [hsplit]
          exact List.mem_append_right _ List.mem_cons_self
      | ok row =>
          unfold readRows
          rcases read_header_spec h with ⟨error, hcolumns, hheader⟩ |
            ⟨budget, fitted, hbudget, hfitted, hheader⟩
          · obtain ⟨pages, hdelivery, hprefix⟩ := h.delivery
            refine .inl ⟨⟨error, loop.paging.pages⟩, ⟨.columns hcolumns, rows, pages,
              rows_within_cap hsplit hcap, hdelivery, hprefix⟩, ?_⟩
            rw [hheader]
            rfl
          · have hcount : (loopOf stream batchRows budget fitted).rowCount = rows.length :=
              hfitted.length
            have hlength : stream.rows.length = rows.length + (rest.length + 1) := by
              rw [hsplit, List.length_append, List.length_map, List.length_cons]
            rw [hheader]
            simp only [bind, Except.bind, hcount]
            by_cases hfull : maxRows ≤ rows.length
            · rw [if_pos hfull]
              have heq : maxRows = rows.length := by omega
              refine .inr ⟨_, rows, true, rfl, ?_, ?_, .inr ⟨by omega, budget, fitted, hbudget,
                hfitted, rfl⟩⟩
              · rw [heq, hsplit, List.take_append_of_le_length (by rw [List.length_map]),
                  List.take_of_length_le (by rw [List.length_map])]
              · symm
                rw [decide_eq_true_eq]
                omega
            · rw [if_neg hfull]
              rcases @read_row_spec _ receive stream maxRows batchRows _ _ _ _ _ hsplit
                (Nat.lt_of_not_le hfull) hbudget hfitted with
                ⟨stopped, hfailed, hrow⟩ | ⟨loop', hinv, hrow⟩
              · rw [hrow]
                exact .inl ⟨stopped, hfailed, rfl⟩
              · rw [hrow]
                refine ih ?_ ?_ hinv
                · rw [hsplit, List.map_append, List.append_assoc]
                  rfl
                · rw [List.length_append, List.length_singleton]
                  omega

/-- What `stream_batched` delivers, when it returns and when it fails. -/
theorem stream_batched_spec (receive : Receiver) (stream : RowStream ρ) (maxRows batchRows : Nat) :
    (∃ stopped, Failed receive stream maxRows (max 1 (min 256 batchRows)) stopped ∧
      streamBatched receive stream maxRows batchRows = (stopped.pages, .error stopped.error)) ∨
    ∃ rows pages, stream.rows.take maxRows = rows.map .ok ∧
      stream.Delivery (max 1 (min 256 batchRows)) rows pages ∧
      streamBatched receive stream maxRows batchRows = (pages, .ok {
        columns := if stream.rows.isEmpty then [] else stream.columnNames
        rowCount := rows.length
        truncated := decide (maxRows < stream.rows.length) }) := by
  unfold streamBatched
  simp only
  rcases @read_rows_spec _ receive stream maxRows (max 1 (min 256 batchRows)) [] _ {} rfl
    (Nat.zero_le _) (.inl ⟨rfl, rfl⟩) with
    ⟨stopped, hfailed, hread⟩ | ⟨loop, rows, truncated, hread, htake, rfl, hloop⟩
  · rw [hread]
    exact .inl ⟨stopped, hfailed, rfl⟩
  rw [hread]
  simp only [bind, Except.bind]
  -- No rows, or the variables of rows that fit.
  have hcases : (stream.rows = [] ∧ rows = [] ∧ loop = {}) ∨
      (stream.rows ≠ [] ∧ ∃ budget fitted, pageRowBudget stream.columnNames = .ok budget ∧
        stream.FittedTo budget rows fitted ∧
          loop = loopOf stream (max 1 (min 256 batchRows)) budget fitted) := by
    rcases hloop with ⟨hinv, hlength⟩ | ⟨hmore, hspec⟩
    · rcases hinv with ⟨rfl, rfl⟩ | ⟨hne, hspec⟩
      · exact .inl ⟨List.eq_nil_of_length_eq_zero hlength, rfl, rfl⟩
      · refine .inr ⟨?_, hspec⟩
        intro hempty
        rw [hempty] at hlength
        exact hne (List.eq_nil_of_length_eq_zero hlength.symm)
    · refine .inr ⟨?_, hspec⟩
      intro hempty
      rw [hempty] at hmore
      exact Nat.not_lt_zero _ hmore
  rcases hcases with ⟨hempty, rfl, rfl⟩ | ⟨hne, budget, fitted, hbudget, hfitted, rfl⟩
  · refine .inr ⟨[], [], htake, .inl ⟨rfl, rfl⟩, ?_⟩
    simp [hempty, answer, pure, Except.pure]
  · have hcolumns : stream.rows.isEmpty = false := by simpa using hne
    have hdelivery : stream.Delivery (max 1 (min 256 batchRows)) rows
        ((Cutting.read (max 1 (min 256 batchRows)) budget (·.bytes) fitted).blocks.map
          (pageOf stream.columnNames)) := .inr ⟨budget, fitted, hbudget, hfitted, rfl⟩
    have hbatch : ((loopOf stream (max 1 (min 256 batchRows)) budget
        fitted).paging.batch.isEmpty = false) ↔
          (Cutting.read (max 1 (min 256 batchRows)) budget FittedRow.bytes fitted).current ≠ [] := by
      simp [loopOf, pagingOf]
    by_cases hcurrent :
        (Cutting.read (max 1 (min 256 batchRows)) budget FittedRow.bytes fitted).current = []
    · rw [if_neg (fun h => hbatch.mp h hcurrent)]
      refine .inr ⟨rows, _, htake, hdelivery, ?_⟩
      unfold Cutting.blocks
      rw [if_pos hcurrent, hcolumns, ← hfitted.length]
      rfl
    · rw [if_pos (hbatch.mpr hcurrent)]
      have hblocks : (Cutting.read (max 1 (min 256 batchRows)) budget (·.bytes) fitted).blocks =
          (Cutting.read (max 1 (min 256 batchRows)) budget FittedRow.bytes fitted).close.closed := by
        unfold Cutting.blocks
        rw [if_neg hcurrent]
        rfl
      rw [hblocks] at hdelivery
      have hflush := @delivers_flush receive stream.columnNames
        (Cutting.read (max 1 (min 256 batchRows)) budget FittedRow.bytes fitted)
      rcases hflush with hok | ⟨pages, page, error, hreceive, herror, hprefix⟩
      · have hsame : flush receive (loopOf stream (max 1 (min 256 batchRows)) budget fitted).columns
            (loopOf stream (max 1 (min 256 batchRows)) budget fitted).paging = _ := hok
        rw [hsame]
        refine .inr ⟨rows, _, htake, hdelivery, ?_⟩
        rw [hcolumns, ← hfitted.length]
        rfl
      · have hsame : flush receive (loopOf stream (max 1 (min 256 batchRows)) budget fitted).columns
            (loopOf stream (max 1 (min 256 batchRows)) budget fitted).paging = _ := herror
        rw [hsame]
        refine .inl ⟨⟨error, pages ++ [page]⟩, ⟨.receiver hreceive, rows, _, ?_, hdelivery,
          hprefix⟩, rfl⟩
        rw [htake]

end Delivery

/-! ## A result that was read as a whole -/

section Materialized

variable {ρ : Type}

/-- The first rows of a statement, read as a whole. -/
def RowStream.materialize (stream : RowStream ρ) (rows : List ρ) (maxRows : Nat) :
    QueryResult where
  columns := stream.columnNames
  rows := (rows.take maxRows).map fun row => (stream.decodedCells row).map (·.value)
  decodeFailures := (rows.take maxRows).zipIdx.flatMap fun (row, rowIndex) =>
    (stream.decodeRow row rowIndex).2
  truncated := decide (maxRows < rows.length)

/-- Each row gets back its failures. -/
theorem failures_of_row (stream : RowStream ρ) (rows : List ρ) (start : Nat) {index : Nat}
    {row : ρ} (hrow : rows[index]? = some row) :
    (((rows.zipIdx start).flatMap fun (row, rowIndex) => (stream.decodeRow row rowIndex).2).filter
      fun failure => failure.rowIndex = start + index) = (stream.decodeRow row (start + index)).2 := by
  have hown : ∀ row rowIndex, ∀ failure ∈ (stream.decodeRow row rowIndex).2,
      failure.rowIndex = rowIndex := fun row rowIndex failure hmem =>
    ((decode_row_failures stream row rowIndex).1 failure |>.mp hmem).1
  induction rows generalizing start index with
  | nil => exact absurd hrow nofun
  | cons first rows ih =>
      rw [List.zipIdx_cons, List.flatMap_cons, List.filter_append]
      cases index with
      | zero =>
          obtain rfl : first = row := by simpa using hrow
          have hself : (stream.decodeRow first start).2.filter
              (fun failure => failure.rowIndex = start + 0) = (stream.decodeRow first start).2 := by
            rw [List.filter_eq_self]
            intro failure hmem
            simpa using hown first start failure hmem
          have hothers : ((rows.zipIdx (start + 1)).flatMap fun (row, rowIndex) =>
              (stream.decodeRow row rowIndex).2).filter
                (fun failure => failure.rowIndex = start + 0) = [] := by
            rw [List.filter_eq_nil_iff]
            intro failure hmem
            obtain ⟨⟨other, rowIndex⟩, hentry, hfailure⟩ := List.mem_flatMap.mp hmem
            have hindex := hown other rowIndex failure hfailure
            have hle := (List.mem_zipIdx hentry).1
            simp only [decide_eq_true_eq]
            omega
          show List.filter _ (stream.decodeRow first start).2 ++ _ = (stream.decodeRow first start).2
          rw [hself, hothers, List.append_nil]
      | succ index =>
          have hrest := ih (start + 1) (by simpa using hrow)
          have hfirst : (stream.decodeRow first start).2.filter
              (fun failure => failure.rowIndex = start + (index + 1)) = [] := by
            rw [List.filter_eq_nil_iff]
            intro failure hmem
            have hindex := hown first start failure hmem
            simp only [decide_eq_true_eq]
            omega
          show List.filter _ (stream.decodeRow first start).2 ++ _ = _
          rw [hfirst, List.nil_append]
          have hshift : start + (index + 1) = start + 1 + index := by omega
          rw [hshift]
          exact hrest

/-- Both loops push the same rows. -/
theorem read_rows_eq_materialized (receive : Receiver) (stream : RowStream ρ)
    (maxRows batchRows : Nat) {budget : Nat}
    (hbudget : pageRowBudget stream.columnNames = .ok budget)
    (failures : List CellDecodeFailure) (rows : List ρ) (start : Nat) (paging : Paging)
    (hstart : start ≤ maxRows)
    (hfailures : ∀ index row, (rows.take (maxRows - start))[index]? = some row →
      failures.filter (fun failure => failure.rowIndex = start + index) =
        (stream.decodeRow row (start + index)).2) :
    readRows receive stream maxRows batchRows (rows.map .ok)
        ⟨stream.columnNames, start, budget, paging⟩ =
      (materializedRows receive stream.columnNames failures batchRows budget
        (((rows.take (maxRows - start)).map fun row =>
          (stream.decodedCells row).map (·.value)).zipIdx start) paging).map fun paging =>
        (⟨stream.columnNames, start + (rows.take (maxRows - start)).length, budget, paging⟩,
          decide (maxRows < start + rows.length)) := by
  induction rows generalizing start paging with
  | nil =>
      have hend : decide (maxRows < start + 0) = false := by
        rw [decide_eq_false_iff_not]
        omega
      simp only [List.map_nil, List.take_nil, readRows, List.zipIdx_nil, materializedRows,
        Except.map, List.length_nil, hend]
      rfl
  | cons row rows ih =>
      have hheader : readHeader stream ⟨stream.columnNames, start, budget, paging⟩ =
          .ok ⟨stream.columnNames, start, budget, paging⟩ := by
        unfold readHeader
        split
        · rw [hbudget]
        · rfl
      rw [List.map_cons]
      unfold readRows
      rw [hheader]
      simp only [bind, Except.bind]
      -- the row behind the last one only tells that there are more
      by_cases hfull : maxRows ≤ start
      · have hnone : maxRows - start = 0 := by omega
        have hmore : decide (maxRows < start + (row :: rows).length) = true := by
          rw [decide_eq_true_eq, List.length_cons]
          omega
        rw [if_pos hfull, hnone, hmore]
        rfl
      · rw [if_neg hfull]
        have htake : (row :: rows).take (maxRows - start) =
            row :: rows.take (maxRows - (start + 1)) := by
          have hsucc : maxRows - start = maxRows - (start + 1) + 1 := by omega
          rw [hsucc, List.take_succ_cons]
        rw [htake] at hfailures ⊢
        have hrow : failures.filter (fun failure => failure.rowIndex = start) =
            (stream.decodeRow row start).2 := hfailures 0 row rfl
        have hvalues : (stream.decodedCells row).map (·.value) = (stream.decodeRow row start).1 :=
          rfl
        rw [List.map_cons, List.zipIdx_cons]
        unfold readRow materializedRows
        simp only [hrow, hvalues]
        cases fitRowToPage (stream.decodeRow row start).1 (stream.decodeRow row start).2 start
            budget with
        | error error => rfl
        | ok fitted =>
            simp only [bind, Except.bind]
            cases pushRow receive stream.columnNames batchRows budget paging fitted with
            | error stopped => rfl
            | ok paging' =>
                have hrest := ih (start + 1) paging' (by omega) (by
                  intro index row' hrow'
                  have hshift : start + 1 + index = start + (index + 1) := by omega
                  rw [hshift]
                  exact hfailures (index + 1) row' (by simpa using hrow'))
                have hcount : ∀ n, start + 1 + n = start + (n + 1) := fun n => by omega
                rw [List.length_cons, List.length_cons]
                simp only [hcount] at hrest
                exact hrest

/-- The pages of a result that was read as a whole are those of the same rows of a cursor. -/
theorem stream_materialized_eq (receive : Receiver) (columns : List (String × String))
    (decode : ρ → Nat → Option DecodedCell) (row : ρ) (rest : List ρ) (maxRows batchRows : Nat) :
    streamMaterialized receive
        (RowStream.materialize ⟨columns, decode, (row :: rest).map .ok⟩ (row :: rest) (maxRows + 1))
        (max 1 (min 256 batchRows)) =
      streamBatched receive ⟨columns, decode, (row :: rest).map .ok⟩ (maxRows + 1) batchRows := by
  let stream : RowStream ρ := ⟨columns, decode, (row :: rest).map .ok⟩
  show streamMaterialized receive (stream.materialize (row :: rest) (maxRows + 1)) _ =
    streamBatched receive stream (maxRows + 1) batchRows
  unfold streamMaterialized streamBatched
  simp only
  have hcolumns : (stream.materialize (row :: rest) (maxRows + 1)).columns = stream.columnNames :=
    rfl
  rw [hcolumns]
  have hrows : stream.rows = (row :: rest).map .ok := rfl
  rw [hrows]
  cases hbudget : pageRowBudget stream.columnNames with
  | error error =>
      have hheader : readHeader stream {} = .error ⟨error, []⟩ := by
        unfold readHeader
        rw [if_pos List.isEmpty_nil, hbudget]
      rw [List.map_cons]
      unfold readRows
      rw [hheader]
      rfl
  | ok budget =>
      -- the first row reads the header, which the other loop knows before it starts
      have hstart : readRows receive stream (maxRows + 1) (max 1 (min 256 batchRows))
          ((row :: rest).map .ok) {} =
            readRows receive stream (maxRows + 1) (max 1 (min 256 batchRows))
              ((row :: rest).map .ok) ⟨stream.columnNames, 0, budget, {}⟩ := by
        have hsame : readHeader stream ⟨stream.columnNames, 0, budget, {}⟩ =
            .ok ⟨stream.columnNames, 0, budget, {}⟩ := by
          unfold readHeader
          split
          · rw [hbudget]
          · rfl
        have hheader : readHeader stream {} = .ok ⟨stream.columnNames, 0, budget, {}⟩ := by
          unfold readHeader
          rw [if_pos List.isEmpty_nil, hbudget]
        rw [List.map_cons]
        unfold readRows
        rw [hheader, hsame]
      rw [hstart, read_rows_eq_materialized receive stream (maxRows + 1) _ hbudget
        (stream.materialize (row :: rest) (maxRows + 1)).decodeFailures (row :: rest) 0 {}
        (Nat.zero_le _) fun index row' hrow' => failures_of_row stream _ 0 hrow']
      have hlength : (stream.materialize (row :: rest) (maxRows + 1)).rows.length =
          ((row :: rest).take (maxRows + 1)).length := List.length_map _
      have hsome : ((row :: rest).take (maxRows + 1)).length ≠ 0 := by
        rw [List.take_succ_cons]
        exact Nat.succ_ne_zero _
      have hrows' : (stream.materialize (row :: rest) (maxRows + 1)).rows =
          ((row :: rest).take (maxRows + 1 - 0)).map fun row =>
            (stream.decodedCells row).map (·.value) := rfl
      simp only [hlength, hsome, or_false]
      rw [hrows']
      cases materializedRows receive stream.columnNames
          (stream.materialize (row :: rest) (maxRows + 1)).decodeFailures
          (max 1 (min 256 batchRows)) budget
          ((((row :: rest).take (maxRows + 1 - 0)).map fun row =>
            (stream.decodedCells row).map (·.value)).zipIdx 0) {} with
      | error stopped => rfl
      | ok paging =>
          simp only [Except.map, bind, Except.bind, Nat.zero_add]
          rfl

/-- A result without rows goes out as one empty page. -/
theorem stream_materialized_empty (receive : Receiver) (columns : List String)
    (failures : List CellDecodeFailure) (truncated : Bool) (batchRows : Nat) :
    (streamMaterialized receive ⟨columns, [], failures, truncated⟩ batchRows).1 =
      match pageRowBudget columns with
      | .error _ => []
      | .ok _ => [⟨columns, [], []⟩] := by
  unfold streamMaterialized
  cases pageRowBudget columns with
  | error error => rfl
  | ok budget =>
      show (answer (do
        let paging ← flush receive columns {}
        return (paging.pages, ReadSummary.mk columns 0 truncated))).1 = [⟨columns, [], []⟩]
      unfold flush onBatch
      cases receive [] ⟨columns, [], []⟩ with
      | error error => rfl
      | ok _ => rfl

end Materialized

/-! ## What goes out -/

section StreamedPages

variable {ρ : Type}

/-- A read by pages: when it returns, its pages are those of the first rows up to the cap, and it
says whether there were more; when it fails, some of these went out. A result that was read as a
whole goes out as the same pages, and as an empty page when it has no rows. -/
theorem streamed_read_pages (receive : Receiver) (stream : RowStream ρ) (maxRows batchRows : Nat) :
    (match streamBatched receive stream maxRows batchRows with
    | (pages, .ok summary) => ∃ rows, stream.rows.take maxRows = rows.map .ok ∧
        PagesOf stream rows pages ∧ summary = {
          columns := if stream.rows.isEmpty then [] else stream.columnNames
          rowCount := min maxRows stream.rows.length
          truncated := decide (maxRows < stream.rows.length) }
    | (pages, .error error) => ReadFailure receive stream maxRows error ∧
        ∃ rows pages', rows.map .ok <+: stream.rows.take maxRows ∧ PagesOf stream rows pages' ∧
          pages <+: pages') ∧
    (∀ row rest, streamMaterialized receive
        (RowStream.materialize ⟨stream.columns, stream.decode, (row :: rest).map .ok⟩ (row :: rest)
          (maxRows + 1)) (max 1 (min 256 batchRows)) =
      streamBatched receive ⟨stream.columns, stream.decode, (row :: rest).map .ok⟩ (maxRows + 1)
        batchRows) ∧
    ∀ columns failures truncated,
      (streamMaterialized receive ⟨columns, [], failures, truncated⟩ batchRows).1 =
        match pageRowBudget columns with
        | .error _ => []
        | .ok _ => [⟨columns, [], []⟩] := by
  have hlimit : 0 < max 1 (min 256 batchRows) ∧ max 1 (min 256 batchRows) ≤ 256 := by omega
  refine ⟨?_, fun row rest => stream_materialized_eq receive _ _ row rest maxRows batchRows,
    fun columns failures truncated =>
      stream_materialized_empty receive columns failures truncated batchRows⟩
  rcases stream_batched_spec receive stream maxRows batchRows with
    ⟨stopped, ⟨hfailure, rows, pages, hrows, hdelivery, hprefix⟩, hout⟩ |
      ⟨rows, pages, htake, hdelivery, hout⟩
  · rw [hout]
    exact ⟨hfailure, rows, pages, hrows, hdelivery.pages hlimit.1 hlimit.2, hprefix⟩
  · rw [hout]
    refine ⟨rows, htake, hdelivery.pages hlimit.1 hlimit.2, ?_⟩
    have hlength := congrArg List.length htake
    rw [List.length_take, List.length_map] at hlength
    rw [hlength]

/-- No row that goes out is larger than a page. -/
theorem row_size_le (receive : Receiver) (stream : RowStream ρ) (maxRows batchRows : Nat) :
    ∀ page ∈ (streamBatched receive stream maxRows batchRows).1, ∀ row ∈ page.rows,
      jsonSize (.arr row) ≤ DESKTOP_STREAM_BATCH_MAX_BYTES := by
  have hdelivery : ∃ rows pages, stream.Delivery (max 1 (min 256 batchRows)) rows pages ∧
      (streamBatched receive stream maxRows batchRows).1 <+: pages := by
    rcases stream_batched_spec receive stream maxRows batchRows with
      ⟨stopped, ⟨-, rows, pages, -, hdelivery, hprefix⟩, hout⟩ | ⟨rows, pages, -, hdelivery, hout⟩
    · rw [hout]
      exact ⟨rows, pages, hdelivery, hprefix⟩
    · rw [hout]
      exact ⟨rows, pages, hdelivery, List.prefix_rfl⟩
  obtain ⟨rows, pages, hdelivery, hprefix⟩ := hdelivery
  intro page hpage row hrow
  have hpage := hprefix.subset hpage
  rcases hdelivery with ⟨-, rfl⟩ | ⟨budget, fitted, hbudget, hfitted, rfl⟩
  · exact absurd hpage nofun
  obtain ⟨block, hblock, rfl⟩ := List.mem_map.mp hpage
  obtain ⟨row', hrow', rfl⟩ := List.mem_map.mp hrow
  have hmem : row' ∈ fitted := by
    rw [← Cutting.items_read (max 1 (min 256 batchRows)) budget (·.bytes) fitted,
      ← Cutting.flatten_blocks]
    exact List.mem_flatten_of_mem hblock hrow'
  obtain ⟨hcounted, hwithin⟩ := hfitted.within row' hmem
  have hle : budget ≤ DESKTOP_STREAM_BATCH_MAX_BYTES := by
    unfold pageRowBudget at hbudget
    simp only at hbudget
    split at hbudget
    · have hvalue := Except.ok.inj hbudget
      omega
    · exact absurd hbudget nofun
  omega

/-- A receiver that takes every page. -/
def takeAll : Receiver := fun _ _ => .ok ()

/-- A statement with one text column. -/
def textRows (rows : List String) : RowStream String where
  columns := [("note", "text")]
  decode := fun row _ => some ⟨.str row, none⟩
  rows := rows.map .ok

/-- A long text is larger than a page. -/
theorem json_size_long_text (n : Nat) :
    n ≤ jsonSize (.arr [.str (.ofList (List.replicate n 'a'))]) := by
  have htext : (String.ofList (List.replicate n 'a')).toList.flatMap escapeChar =
      List.replicate n 'a' := by
    have hplain : ∀ c ∈ List.replicate n 'a', escapeChar c = [c] := by
      intro c hc
      rw [List.eq_of_mem_replicate hc]
      decide
    rw [String.toList_ofList, List.flatMap_congr hplain]
    exact List.flatMap_singleton' _
  have hbytes : byteLength (List.replicate n 'a') = n := by
    rw [byte_length_ascii fun c hc => by rw [List.eq_of_mem_replicate hc]; rfl,
      List.length_replicate]
  have hle := @json_size_le_arr [.str (.ofList (List.replicate n 'a'))] 0 _ rfl
  have hsize : n ≤ jsonSize (.str (.ofList (List.replicate n 'a'))) := by
    unfold jsonSize
    rw [Json.render, renderString, htext, byte_length_append, ← List.singleton_append,
      byte_length_append, hbytes]
    omega
  omega

/-- A result without rows goes out as a page that the cursor does not send, and a row that is larger
than a page does not go out as it was decoded. -/
theorem pages_not_decoded_rows :
    (streamMaterialized takeAll ((textRows []).materialize [] 10) 256).1 ≠
      (streamBatched takeAll (textRows []) 10 256).1 ∧
    ∃ row, (streamBatched takeAll (textRows [row]) 10 256).1.flatMap (·.rows) ≠
      [((textRows [row]).decodeRow row 0).1] := by
  constructor
  · decide
  · refine ⟨.ofList (List.replicate 600000 'a'), ?_⟩
    intro heq
    have hmem : [.str (.ofList (List.replicate 600000 'a'))] ∈ (streamBatched takeAll
        (textRows [.ofList (List.replicate 600000 'a')]) 10 256).1.flatMap (·.rows) := by
      rw [heq]
      exact List.mem_singleton_self _
    obtain ⟨page, hpage, hrow⟩ := List.mem_flatMap.mp hmem
    have hle := row_size_le takeAll _ 10 256 page hpage _ hrow
    have hlong := json_size_long_text 600000
    unfold DESKTOP_STREAM_BATCH_MAX_BYTES at hle
    omega

end StreamedPages

end Dopedb.Queries
