import Dopedb.Library.Csv
import Dopedb.Results.CsvAgreement
import Dopedb.Results.InertRenderings

/-!
# Reading exported CSV files

What a reader of RFC 4180 finds in the text of `toCsv` and of the durable export: one record of
names and one for each row, with one field for each column. A field is the text of its cell, behind
an apostrophe when it is a text that starts like a formula and is no inert rendering.
`csv_structure_kept` is the main result, with the distinct keys of `uniqueColumnKeys`.
-/

namespace Dopedb.Results

open Library Library.Csv

/-! ## Keys of columns -/

/-- The turns of the loop of `uniqueColumnKeys`: the first key from this one on that is not used. -/
def unusedKey (used : List String) (column : String) : Nat → Nat → String → Option String
  | 0, _, _ => none
  | turns + 1, suffix, key =>
    if key ∈ used then unusedKey used column turns (suffix + 1) (column ++ "_" ++ suffix.repr)
    else some key

/-- `uniqueColumnKeys` behind the columns whose keys are used. The loop takes at most one turn more
than there are used keys. -/
def uniqueColumnKeysFrom (used : List String) : List String → List String
  | [] => []
  | column :: rest =>
    let key := (unusedKey used column (used.length + 1) 2 column).getD column
    key :: uniqueColumnKeysFrom (key :: used) rest

/-- `uniqueColumnKeys`. -/
def uniqueColumnKeys (columns : List String) : List String := uniqueColumnKeysFrom [] columns

/-- The key that the loop tries at a turn. -/
def triedKey (column : String) (turn : Nat) : String :=
  if turn = 0 then column else column ++ "_" ++ (turn + 1).repr

/-- No key is tried twice. -/
theorem tried_key_inj {column : String} {turn turn' : Nat}
    (h : triedKey column turn = triedKey column turn') : turn = turn' := by
  have hsuffix : ∀ n : Nat, column ≠ column ++ "_" ++ n.repr := by
    intro n heq
    have hlength := congrArg (fun text => text.toList.length) heq
    simp at hlength
  unfold triedKey at h
  split at h
  case isTrue hzero =>
      split at h
      case isTrue hzero' => rw [hzero, hzero']
      case isFalse => exact absurd h (hsuffix _)
  case isFalse =>
      split at h
      case isTrue => exact absurd h.symm (hsuffix _)
      case isFalse =>
          have hlist := congrArg String.toList h
          simp only [String.toList_append] at hlist
          have := decimal_inj (List.append_cancel_left hlist)
          omega

/-- The loop ends with the first tried key that is not used. -/
theorem unused_key_spec {used : List String} {column : String} {turns turn : Nat} :
    (∃ later ≥ turn, unusedKey used column turns (turn + 2) (triedKey column turn) =
      some (triedKey column later) ∧ triedKey column later ∉ used) ∨
    ∀ tried ∈ (List.range' turn turns).map (triedKey column), tried ∈ used := by
  induction turns generalizing turn with
  | zero => exact .inr fun tried htried => absurd htried (by simp)
  | succ turns ih =>
      rw [unusedKey]
      by_cases hused : triedKey column turn ∈ used
      · rw [if_pos hused]
        have hnext : column ++ "_" ++ (turn + 2).repr = triedKey column (turn + 1) := by
          rw [triedKey, if_neg (Nat.succ_ne_zero turn)]
        rw [hnext]
        rcases @ih (turn + 1) with ⟨later, hlater, hkey, hfresh⟩ | hall
        · exact .inl ⟨later, Nat.le_of_succ_le hlater, hkey, hfresh⟩
        · right
          rw [List.range'_succ, List.map_cons]
          exact List.forall_mem_cons.mpr ⟨hused, hall⟩
      · rw [if_neg hused]
        exact .inl ⟨turn, Nat.le_refl turn, rfl, hused⟩

/-- The loop finds a key before its turns are over. -/
theorem unused_key_found (used : List String) (column : String) :
    ∃ turn, unusedKey used column (used.length + 1) 2 column = some (triedKey column turn) ∧
      triedKey column turn ∉ used := by
  have hfirst : triedKey column 0 = column := rfl
  rcases @unused_key_spec used column (used.length + 1) 0 with ⟨turn, -, hkey, hfresh⟩ | hall
  · exact ⟨turn, hkey, hfresh⟩
  · -- More keys were tried than are used, so one of them was free.
    have hnodup : ((List.range' 0 (used.length + 1)).map (triedKey column)).Nodup :=
      (List.nodup_range' ..).map fun _ _ => tried_key_inj
    have hlength := (hnodup.subperm hall).length_le
    rw [List.length_map, List.length_range'] at hlength
    omega

/-- The key of a column: its name, or its name behind a number from two on. -/
def KeyOf (column key : String) : Prop := ∃ turn, key = triedKey column turn

/-- The keys are distinct, none of them is used, and each belongs to its column. -/
theorem unique_keys_from_spec (columns used : List String) :
    (uniqueColumnKeysFrom used columns).Nodup ∧
      (∀ key ∈ uniqueColumnKeysFrom used columns, key ∉ used) ∧
      List.Forall₂ KeyOf columns (uniqueColumnKeysFrom used columns) := by
  induction columns generalizing used with
  | nil => exact ⟨List.nodup_nil, fun key hkey => absurd hkey List.not_mem_nil, .nil⟩
  | cons column rest ih =>
      obtain ⟨turn, hkey, hfresh⟩ := unused_key_found used column
      rw [uniqueColumnKeysFrom, hkey, Option.getD_some]
      obtain ⟨hnodup, hunused, hkeys⟩ := ih (triedKey column turn :: used)
      refine ⟨?_, ?_, .cons ⟨turn, rfl⟩ hkeys⟩
      · exact List.nodup_cons.mpr ⟨fun hmem => hunused _ hmem List.mem_cons_self, hnodup⟩
      · refine List.forall_mem_cons.mpr ⟨hfresh, ?_⟩
        intro key hmem hused
        exact hunused key hmem (List.mem_cons_of_mem _ hused)

/-! ## Fields -/

/-- A cell in a file: whether it is a text of the database, and its text. -/
structure CsvCell where
  isText : Bool
  text : List Char

/-- The text starts like a formula. -/
def startsFormula (text : List Char) : Bool :=
  text.head?.any (· ∈ ['=', '+', '-', '@', '\t', '\r'])

/-- What a reader finds of a cell. -/
def CsvCell.field (cell : CsvCell) : List Char :=
  if cell.isText && startsFormula cell.text && !inertValue cell.text then '\'' :: cell.text
  else cell.text

/-- A cell of the renderer. -/
def JsValue.cell : JsValue → CsvCell
  | .null => ⟨false, []⟩
  | .boolean flag => ⟨false, (if flag then "true" else "false").toList⟩
  | .number value => ⟨false, numberToString value⟩
  | .string text => ⟨true, text⟩
  | .array items => ⟨false, stringify (.array items)⟩
  | .object properties => ⟨false, stringify (.object properties)⟩

/-- A stored cell. -/
def storedCell (serdeNumber : String → Double) : Json → CsvCell
  | .null => ⟨false, []⟩
  | .bool flag => ⟨false, (if flag then "true" else "false").toList⟩
  | .int n => ⟨false, integerText n⟩
  | .float text => ⟨false, jsFloatText (serdeNumber text)⟩
  | .str text => ⟨true, text.toList⟩
  | .arr items => ⟨false, jsJsonText serdeNumber (.arr items)⟩
  | .obj entries => ⟨false, jsJsonText serdeNumber (.obj entries)⟩

/-- The name of a column as a cell. -/
def nameCell (column : String) : CsvCell := ⟨true, column.toList⟩

/-- The renderer quotes a field as RFC 4180 does. -/
theorem quote_field_eq (text : List Char) : quoteField text = renderField text := by
  have hspecial : ∀ c : Char, decide (c ∈ ['"', ',', '\n', '\r']) = isSpecial c := by
    intro c
    simp [isSpecial, Bool.or_assoc]
  unfold quoteField renderField
  simp only [hspecial]

/-- A text that is made safe is what a reader finds. -/
theorem spreadsheet_safe_eq (text : List Char) :
    spreadsheetSafeText text = (CsvCell.mk true text).field := by
  unfold spreadsheetSafeText CsvCell.field startsFormula
  rw [Bool.true_and, inert_value_eq]

/-- The renderer writes the field of its cell. -/
theorem escape_field_eq (value : JsValue) :
    escapeCsvField value = renderField value.cell.field := by
  cases value with
  | null => rfl
  | string text => exact (quote_field_eq _).trans (congrArg _ (spreadsheet_safe_eq text))
  | boolean flag => exact quote_field_eq _
  | number value => exact quote_field_eq _
  | array items => exact quote_field_eq _
  | object properties => exact quote_field_eq _

/-- A plain text is written as it is. -/
theorem render_plain {text : List Char} (h : Plain text) : text = renderField text := by
  rw [← quote_field_eq, quote_field_plain h]

/-- The durable export writes the field of its cell. -/
theorem csv_cell_field (serdeNumber : String → Double) (value : Json) :
    csvCell serdeNumber value = renderField (storedCell serdeNumber value).field := by
  cases value with
  | null => rfl
  | bool flag =>
      have hplain : ∀ flag : Bool, Plain (if flag then "true" else "false").toList :=
        fun flag => plain_of_all (by cases flag <;> decide)
      exact render_plain (hplain flag)
  | int n => exact render_plain (plain_integer_text n)
  | float text =>
      have hplain : Plain (jsFloatText (serdeNumber text)) := by
        rw [js_float_text_eq]
        exact plain_number_to_string _
      exact render_plain hplain
  | str text =>
      show csvText text.toList true = _
      rw [csv_text_safe, quote_field_eq, spreadsheet_safe_eq]
      rfl
  | arr items =>
      show csvText _ false = _
      rw [csv_text_plain, quote_field_eq]
      rfl
  | obj entries =>
      show csvText _ false = _
      rw [csv_text_plain, quote_field_eq]
      rfl

/-! ## Files -/

/-- The fields of a row. -/
def fieldsOf (cells : List CsvCell) : List (List Char) := cells.map CsvCell.field

/-- The last record is one empty field, which RFC 4180 does not tell from the end of the text. -/
def EndsBlank (records : List (List CsvCell)) : Prop :=
  ∃ cell, records.getLast? = some [cell] ∧ cell.text = []

/-- The cells of a file of the renderer. -/
def rendererCells (columns : List String) (rows : List (List JsValue)) : List (List CsvCell) :=
  columns.map nameCell :: rows.map fun row => row.map JsValue.cell

/-- The cells of a file of the durable export. -/
def storedCells (serdeNumber : String → Double) (columns : List String) (rows : List (List Json)) :
    List (List CsvCell) :=
  columns.map nameCell :: rows.map fun row => row.map (storedCell serdeNumber)

/-- A field is empty when its text is. -/
theorem field_eq_nil {cell : CsvCell} : cell.field = [] ↔ cell.text = [] := by
  unfold CsvCell.field
  split
  case isTrue hmarked =>
      refine iff_of_false (List.cons_ne_nil _ _) ?_
      intro hnil
      rw [hnil] at hmarked
      simp [startsFormula] at hmarked
  case isFalse => rfl

/-- The text of a field is empty when the field is. -/
theorem render_field_eq_nil {text : List Char} : renderField text = [] ↔ text = [] := by
  unfold renderField
  split
  case isTrue hany =>
      refine iff_of_false (List.cons_ne_nil _ _) ?_
      rintro rfl
      exact absurd hany (by decide)
  case isFalse => rfl

/-- A record with a field has no text only when it is one empty field. -/
theorem render_record_eq_nil {cells : List CsvCell} (hne : cells ≠ [])
    (h : renderRecord (fieldsOf cells) = []) : ∃ cell, cells = [cell] ∧ cell.text = [] := by
  unfold renderRecord fieldsOf at h
  rcases intercalate_commas_eq_nil.mp h with hnil | hone
  · simp [hne] at hnil
  · obtain ⟨field, hfields, hfield⟩ := List.map_eq_singleton_iff.mp hone
    obtain ⟨cell, rfl, rfl⟩ := List.map_eq_singleton_iff.mp hfields
    exact ⟨cell, rfl, field_eq_nil.mp (render_field_eq_nil.mp hfield)⟩

/-- The text of a record of the renderer. -/
theorem renderer_record_eq (row : List JsValue) :
    [','].intercalate (row.map escapeCsvField) =
      renderRecord (fieldsOf (row.map JsValue.cell)) := by
  unfold renderRecord fieldsOf
  rw [List.map_map, List.map_map]
  exact congrArg _ (List.map_congr_left fun value _ => escape_field_eq value)

/-- The head of a file of the renderer. -/
theorem renderer_head_eq (columns : List String) :
    [','].intercalate (columns.map fun column => escapeCsvField (.string column.toList)) =
      renderRecord (fieldsOf (columns.map nameCell)) := by
  unfold renderRecord fieldsOf
  rw [List.map_map, List.map_map]
  exact congrArg _ (List.map_congr_left fun column _ => escape_field_eq (.string column.toList))

/-- The text of `toCsv` is that of its records, unless a last empty field is lost. -/
theorem to_csv_eq (columns : List String) {rows : List (List JsValue)}
    (hrows : ∀ row ∈ rows, row ≠ []) (hblank : ¬EndsBlank (rendererCells columns rows)) :
    toCsv columns rows = renderRecords ((rendererCells columns rows).map fieldsOf) := by
  have hbody : (rows.map fun row => [','].intercalate (row.map escapeCsvField)) =
      (rows.map fun row => row.map JsValue.cell).map fun cells => renderRecord (fieldsOf cells) := by
    rw [List.map_map]
    exact List.map_congr_left fun row _ => renderer_record_eq row
  unfold toCsv
  simp only
  rw [renderer_head_eq, hbody]
  -- the line break behind the head is left out when the body has no text
  cases rows with
  | nil =>
      rw [List.map_nil, List.map_nil, List.intercalate_nil, if_pos rfl]
      simp [renderRecords, rendererCells]
  | cons row rest =>
      rw [if_neg]
      · unfold renderRecords rendererCells
        rw [List.map_cons, List.map_cons, List.map_cons, List.map_cons, List.map_cons,
          List.map_cons, List.intercalate_cons_cons, List.map_map, List.map_map, List.map_map]
        rw [List.append_assoc]
        rfl
      · intro hempty
        rcases intercalate_line_breaks_eq_nil.mp hempty with hnil | hone
        · simp at hnil
        · obtain ⟨cells, hcells, hrecord⟩ := List.map_eq_singleton_iff.mp hone
          obtain ⟨only, hrest, rfl⟩ := List.map_eq_singleton_iff.mp hcells
          obtain ⟨cell, hcell, htext⟩ := render_record_eq_nil (by
            simpa using hrows only (by rw [hrest]; exact List.mem_singleton_self only)) hrecord
          refine hblank ⟨cell, ?_, htext⟩
          rw [rendererCells, hrest, ← hcell]
          rfl

/-- The text of a file of the durable export, behind the mark of UTF-8. -/
theorem write_csv_records (serdeNumber : String → Double) (columns : List String)
    (pages : List (List (List Json))) :
    writeCsv serdeNumber columns pages = Char.ofNat 0xfeff ::
      renderRecords ((storedCells serdeNumber columns pages.flatten).map fieldsOf) := by
  have hrow : ∀ row : List Json, [','].intercalate (row.map (csvCell serdeNumber)) =
      renderRecord (fieldsOf (row.map (storedCell serdeNumber))) := by
    intro row
    unfold renderRecord fieldsOf
    rw [List.map_map, List.map_map]
    exact congrArg _ (List.map_congr_left fun value _ => csv_cell_field serdeNumber value)
  rw [write_csv_eq, csv_head_eq, renderer_head_eq]
  unfold renderRecords storedCells
  generalize pages.flatten = rows
  simp only [hrow]
  cases rows with
  | nil => simp
  | cons row rest =>
      have hbreaks := @flat_map_line_breaks ((row :: rest).map fun row =>
        renderRecord (fieldsOf (row.map (storedCell serdeNumber)))) (by simp)
      rw [List.flatMap_map] at hbreaks
      rw [hbreaks, List.map_cons, List.map_cons, List.map_cons, List.map_cons, List.map_cons,
        List.map_cons, List.intercalate_cons_cons, List.map_map, List.map_map, List.cons_append,
        List.append_assoc]
      rfl

/-- A field that was written for a cell: its text, behind an apostrophe exactly when it is a text
that starts like a formula and is no inert rendering. -/
structure WrittenField (cell : CsvCell) (field : List Char) : Prop where
  text_or_marked : field = cell.text ∨ field = '\'' :: cell.text
  marked_iff : field = '\'' :: cell.text ↔
    cell.isText = true ∧ startsFormula cell.text = true ∧ ¬InertRendering cell.text

theorem written_field (cell : CsvCell) : WrittenField cell cell.field := by
  have hne : cell.text ≠ '\'' :: cell.text := by
    intro heq
    have hlength := congrArg List.length heq
    simp at hlength
  unfold CsvCell.field
  by_cases hmarked : (cell.isText && startsFormula cell.text && !inertValue cell.text) = true
  · rw [if_pos hmarked]
    simp only [Bool.and_eq_true, Bool.not_eq_true'] at hmarked
    refine ⟨.inr rfl, iff_of_true rfl ⟨hmarked.1.1, hmarked.1.2, fun hinert => ?_⟩⟩
    rw [inert_value_iff.mpr hinert] at hmarked
    exact absurd hmarked.2 (by decide)
  · rw [if_neg hmarked]
    refine ⟨.inl rfl, iff_of_false hne ?_⟩
    rintro ⟨htext, hstarts, hinert⟩
    rw [← inert_value_iff, Bool.not_eq_true] at hinert
    exact hmarked (by rw [htext, hstarts, hinert]; rfl)

/-- The records of a file are those of its cells, with one field for each. -/
theorem read_cells {cells : List (List CsvCell)} (hne : ∀ row ∈ cells, row ≠ [])
    (hblank : ¬EndsBlank cells) :
    readRecords (renderRecords (cells.map fieldsOf)) = some (cells.map fieldsOf) ∧
      List.Forall₂ (List.Forall₂ WrittenField) cells (cells.map fieldsOf) := by
  constructor
  · rw [read_rendered, if_neg]
    -- a reader does not see a last record that is one empty field
    · intro hlast
      rw [List.getLast?_map, Option.map_eq_some_iff] at hlast
      obtain ⟨last, hlast, hfields⟩ := hlast
      obtain ⟨cell, rfl, hfield⟩ := List.map_eq_singleton_iff.mp hfields
      exact hblank ⟨cell, hlast, field_eq_nil.mp hfield⟩
    · intro record hrecord
      obtain ⟨row, hrow, rfl⟩ := List.mem_map.mp hrecord
      simpa [fieldsOf] using hne row hrow
  · refine List.forall₂_map_right_iff.mpr (List.forall₂_same.mpr fun row _ => ?_)
    exact List.forall₂_map_right_iff.mpr (List.forall₂_same.mpr fun cell _ => written_field cell)

/-- A natural number is written in digits. -/
theorem repr_digits (n : Nat) : Digits n.repr.toList :=
  ⟨fun hnil => Nat.repr_ne_empty (String.toList_inj.mp hnil), fun _ hc => digit_of_mem_repr hc⟩

/-- The text of a finite number is a sign, a mantissa and an exponent. -/
theorem finite_inert (value : Decimal) : InertRendering (numberToString (.finite value)) := by
  have hdigits : Digits value.digits := ⟨value.nonempty, value.isDigits⟩
  have hzeros : ∀ count : Nat, ∀ c ∈ List.replicate count '0', c.isDigit = true := by
    intro count c hc
    rw [List.eq_of_mem_replicate hc]
    decide
  have htake : ∀ count, 0 < count → Digits (value.digits.take count) := by
    intro count hcount
    refine ⟨fun hnil => ?_, fun c hc => value.isDigits c (List.mem_of_mem_take hc)⟩
    exact (List.take_eq_nil_iff.mp hnil).elim (by omega) value.nonempty
  have hdrop : ∀ count, ∀ c ∈ value.digits.drop count, c.isDigit = true := fun count c hc =>
    value.isDigits c (List.mem_of_mem_drop hc)
  have hpower : Exponent ('e' :: (if value.point - 1 < 0 then '-' else '+') ::
      (value.point - 1).natAbs.repr.toList) := by
    have hexponent := repr_digits (value.point - 1).natAbs
    split
    · exact .power (.inl rfl) .minus hexponent
    · exact .power (.inl rfl) .plus hexponent
  have hbody : ∃ mantissa exponent, Mantissa mantissa ∧ Exponent exponent ∧
      (if -5 ≤ value.point ∧ value.point ≤ 21 then
          if (value.digits.length : Int) ≤ value.point then
            value.digits ++ List.replicate (value.point - value.digits.length).toNat '0'
          else if 0 < value.point then
            value.digits.take value.point.toNat ++ '.' :: value.digits.drop value.point.toNat
          else "0.".toList ++ List.replicate (-value.point).toNat '0' ++ value.digits
        else if (value.digits.length : Int) = 1 then
          value.digits ++ 'e' :: (if value.point - 1 < 0 then '-' else '+') ::
            (value.point - 1).natAbs.repr.toList
        else value.digits.take 1 ++ '.' :: value.digits.drop 1 ++
          'e' :: (if value.point - 1 < 0 then '-' else '+') ::
            (value.point - 1).natAbs.repr.toList) = mantissa ++ exponent := by
    -- digits, digits with a point in them, leading zeros, and the two forms with an exponent
    split
    · split
      · refine ⟨_, [], .whole ⟨?_, ?_⟩, .missing, (List.append_nil _).symm⟩
        · exact List.append_ne_nil_of_left_ne_nil hdigits.1 _
        · exact List.forall_mem_append.mpr ⟨hdigits.2, hzeros _⟩
      split
      · exact ⟨_, [], .point (htake _ (by omega)) (hdrop _), .missing, (List.append_nil _).symm⟩
      · refine ⟨['0'] ++ '.' :: (List.replicate (-value.point).toNat '0' ++ value.digits), [],
          .point ⟨by simp, by simp⟩ ?_, .missing, by simp⟩
        exact List.forall_mem_append.mpr ⟨hzeros _, hdigits.2⟩
    · split
      · exact ⟨_, _, .whole hdigits, hpower, rfl⟩
      · exact ⟨_, _, .point (htake 1 (by omega)) (hdrop 1), hpower, rfl⟩
  obtain ⟨mantissa, exponent, hmantissa, hexponent, hbody⟩ := hbody
  unfold numberToString
  simp only
  rw [hbody]
  split
  · exact .number .minus hmantissa hexponent
  · exact .number .missing hmantissa hexponent

/-- The text of a number that starts like a formula is inert. -/
theorem number_inert {value : Double} (h : startsFormula (numberToString value) = true) :
    InertRendering (numberToString value) := by
  cases value with
  | nan => cases h
  | zero negative => cases h
  | infinite negative =>
      cases negative
      · cases h
      · exact .infinity .minus (.inl rfl)
  | finite value => exact finite_inert value

/-- The text of an integer is inert. -/
theorem integer_inert (n : Int) : InertRendering (integerText n) := by
  have hnumber := fun {sign : List Char} (hsign : Sign sign) (m : Nat) =>
    InertRendering.number hsign (.whole (repr_digits m)) .missing
  unfold integerText
  rw [int_repr_to_list]
  split
  · simpa using hnumber .missing n.toNat
  · simpa using hnumber .minus (-n).toNat

/-- Only the text of a number starts like a formula without being a text of the database, and it is
inert. -/
theorem number_of_starts {value : JsValue} (htext : value.cell.isText = false)
    (h : startsFormula value.cell.text = true) :
    (∃ number, value = .number number) ∧ InertRendering value.cell.text := by
  cases value with
  | number number => exact ⟨⟨number, rfl⟩, number_inert h⟩
  | null => cases h
  | boolean flag => cases flag <;> cases h
  | string text => cases htext
  | array items => cases h
  | object properties => cases h

/-- The same for stored cells. -/
theorem stored_number_of_starts {serdeNumber : String → Double} {value : Json}
    (htext : (storedCell serdeNumber value).isText = false)
    (h : startsFormula (storedCell serdeNumber value).text = true) :
    ((∃ n, value = .int n) ∨ ∃ text, value = .float text) ∧
      InertRendering (storedCell serdeNumber value).text := by
  cases value with
  | int n => exact ⟨.inl ⟨n, rfl⟩, integer_inert n⟩
  | float text =>
      have heq : (storedCell serdeNumber (.float text)).text = numberToString (serdeNumber text) :=
        js_float_text_eq _
      rw [heq] at h ⊢
      exact ⟨.inr ⟨text, rfl⟩, number_inert h⟩
  | null => cases h
  | bool flag => cases flag <;> cases h
  | str text => cases htext
  | arr items => cases h
  | obj entries => cases h

/-- A reader of the text finds the header and the rows of cells, with one field for each column. -/
def ReadsBack (text : List Char) (columns : List String) (rows : List (List CsvCell)) : Prop :=
  ∃ header records, readRecords text = some (header :: records) ∧
    header.length = columns.length ∧ records.length = rows.length ∧
    (∀ record ∈ records, record.length = columns.length) ∧
    List.Forall₂ WrittenField (columns.map nameCell) header ∧
    List.Forall₂ (List.Forall₂ WrittenField) rows records

/-- Files of rows with one cell for each column. -/
theorem reads_back {columns : List String} {rows : List (List CsvCell)} (hcolumns : columns ≠ [])
    (hrows : ∀ row ∈ rows, row.length = columns.length)
    (hblank : ¬EndsBlank (columns.map nameCell :: rows)) :
    ReadsBack (renderRecords ((columns.map nameCell :: rows).map fieldsOf)) columns rows := by
  have hne : ∀ row ∈ columns.map nameCell :: rows, row ≠ [] := by
    refine List.forall_mem_cons.mpr ⟨by simpa using hcolumns, ?_⟩
    rintro row hrow rfl
    exact hcolumns (List.length_eq_zero_iff.mp (hrows [] hrow).symm)
  obtain ⟨hread, hwritten⟩ := read_cells hne hblank
  obtain ⟨hheader, hrecords⟩ := List.forall₂_cons.mp hwritten
  refine ⟨fieldsOf (columns.map nameCell), rows.map fieldsOf, hread, ?_, ?_, ?_, hheader, hrecords⟩
  · rw [fieldsOf, List.length_map, List.length_map]
  · rw [List.length_map]
  · intro record hrecord
    obtain ⟨row, hrow, rfl⟩ := List.mem_map.mp hrecord
    rw [fieldsOf, List.length_map, hrows row hrow]

/-- Minus one quarter. -/
def minusQuarter : Double := .finite ⟨true, ['2', '5'], 0, by simp, by simp⟩

/-- The texts of `toCsv` and of the durable export keep the records and the fields of a result, what
is left without an apostrophe holds no formula, and the keys of columns are distinct. -/
theorem csv_structure_kept :
    (∀ (columns : List String) (rows : List (List JsValue)), columns ≠ [] →
      (∀ row ∈ rows, row.length = columns.length) → ¬EndsBlank (rendererCells columns rows) →
        ReadsBack (toCsv columns rows) columns (rows.map fun row => row.map JsValue.cell)) ∧
    (∀ (serdeNumber : String → Double) (columns : List String) (pages : List (List (List Json))),
      columns ≠ [] → (∀ row ∈ pages.flatten, row.length = columns.length) →
        ¬EndsBlank (storedCells serdeNumber columns pages.flatten) →
          ∃ text, writeCsv serdeNumber columns pages = Char.ofNat 0xfeff :: text ∧
            ReadsBack text columns (pages.flatten.map fun row => row.map (storedCell serdeNumber))) ∧
    (∀ value : JsValue, value.cell.isText = false → startsFormula value.cell.text = true →
      (∃ number, value = .number number) ∧ InertRendering value.cell.text) ∧
    (∀ (serdeNumber : String → Double) (value : Json),
      (storedCell serdeNumber value).isText = false →
        startsFormula (storedCell serdeNumber value).text = true →
          ((∃ n, value = .int n) ∨ ∃ text, value = .float text) ∧
            InertRendering (storedCell serdeNumber value).text) ∧
    (∀ text, InertRendering text → Inert text ∧ ∀ c ∈ text, c ∉ ['=', '@', '\t', '\r']) ∧
    ∀ columns : List String, (uniqueColumnKeys columns).Nodup ∧
      List.Forall₂ KeyOf columns (uniqueColumnKeys columns) := by
  refine ⟨?_, ?_, fun value => number_of_starts, fun _ value => stored_number_of_starts,
    fun text h => ⟨h.inert, h.head⟩, ?_⟩
  · intro columns rows hcolumns hrows hblank
    rw [to_csv_eq columns _ hblank]
    · refine reads_back hcolumns ?_ hblank
      intro cells hcells
      obtain ⟨row, hrow, rfl⟩ := List.mem_map.mp hcells
      rw [List.length_map, hrows row hrow]
    · rintro row hrow rfl
      exact hcolumns (List.length_eq_zero_iff.mp (hrows [] hrow).symm)
  · intro serdeNumber columns pages hcolumns hrows hblank
    refine ⟨_, write_csv_records serdeNumber columns pages, reads_back hcolumns ?_ hblank⟩
    intro cells hcells
    obtain ⟨row, hrow, rfl⟩ := List.mem_map.mp hcells
    rw [List.length_map, hrows row hrow]
  · intro columns
    obtain ⟨hnodup, -, hkeys⟩ := unique_keys_from_spec columns []
    exact ⟨hnodup, hkeys⟩

/-- A formula and a text with a comma and quotes, in both files, a negative number, and a generated
key that is given to a later column. -/
theorem quoted_rows_read :
    (ReadsBack (toCsv ["a", "b"] [[.string "=1+2".toList, .string "x,\"y\"".toList]]) ["a", "b"]
        ([[.string "=1+2".toList, .string "x,\"y\"".toList]].map fun row =>
          row.map JsValue.cell) ∧
      readRecords (toCsv ["a", "b"] [[.string "=1+2".toList, .string "x,\"y\"".toList]]) =
        some [["a".toList, "b".toList], ["'=1+2".toList, "x,\"y\"".toList]]) ∧
    (∃ text, writeCsv serdeSample ["a"] [[[.str "=1+2"], [.int (-1)]], [[.str "\r\n"]]] =
        Char.ofNat 0xfeff :: text ∧
      ReadsBack text ["a"] ([[[Json.str "=1+2"], [.int (-1)]], [[.str "\r\n"]]].flatten.map
        fun row => row.map (storedCell serdeSample)) ∧
      readRecords text =
        some [["a".toList], ["'=1+2".toList], ["-1".toList], ["'\r\n".toList]]) ∧
    InertRendering "-0.25".toList ∧ InertRendering "-1".toList ∧
    (∀ c ∈ "-1".toList, c ∉ ['=', '@', '\t', '\r']) ∧
    (uniqueColumnKeys ["a", "a", "a_2"]).Nodup := by
  obtain ⟨hrenderer, hstored, hnumber, hinteger, hinert, hkeys⟩ := csv_structure_kept
  have hminus : InertRendering "-1".toList := by
    have htext : integerText (-1) = "-1".toList := by decide
    rw [← htext]
    exact (hinteger serdeSample (.int (-1)) rfl (by decide)).2
  have hquarter : InertRendering "-0.25".toList := by
    have htext : numberToString minusQuarter = "-0.25".toList := by decide
    rw [← htext]
    exact (hnumber (.number minusQuarter) rfl (by decide)).2
  refine ⟨⟨hrenderer _ _ (by decide) (by simp) ?_, by decide⟩, ?_, hquarter, hminus,
    (hinert _ hminus).2, (hkeys _).1⟩
  · rintro ⟨cell, hlast, -⟩
    have hlength : some 2 = some 1 := congrArg (Option.map List.length) hlast
    exact absurd hlength (by decide)
  · obtain ⟨text, htext, hread⟩ := hstored serdeSample ["a"]
      [[[.str "=1+2"], [.int (-1)]], [[.str "\r\n"]]] (by decide) (by simp) (by
        rintro ⟨cell, hlast, htext⟩
        obtain rfl := (List.singleton_inj.mp (Option.some.inj hlast)).symm
        exact absurd htext (by decide))
    refine ⟨text, htext, hread, ?_⟩
    rw [← (List.cons.inj htext).2]
    decide

/-- A blank before a formula, a duration, and a last record that is one empty field. -/
theorem blank_formula_unmarked :
    readRecords (toCsv ["a"] [[.string " =1+1".toList]]) =
        some [["a".toList], [" =1+1".toList]] ∧
      readRecords (toCsv ["a"] [[.string "-1 day".toList]]) =
        some [["a".toList], ["-1 day".toList]] ∧
      readRecords (toCsv ["a"] [[.string "x".toList], [.null]]) =
        some [["a".toList], ["x".toList]] ∧
      readRecords (toCsv [] []) = some [] := by
  refine ⟨?_, ?_, ?_, ?_⟩ <;> decide

end Dopedb.Results
