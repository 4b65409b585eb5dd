import Dopedb.Desktop.GridTokens
import Dopedb.Library.Collected
import Dopedb.Library.Transaction

/-!
# What the engines read in whole statements

The tokens of the INSERT, UPDATE and DELETE statements of the grid: names and values stand in their
places, whatever characters they hold. A builder throws for a column that `in` finds without a cell.
-/

namespace Dopedb.Desktop

open Library Library.SqlTokens

/-- A name. -/
def nameToken (name : String) : Token := .name name.toList

/-- A keyword. -/
def keyword (text : String) : Token := .word text.toList

/-- The tokens of `tableRef`. -/
def refTokens (engine : Engine) (table : CatalogTable) : List Token :=
  match engine with
  | .bigquery =>
    match table.schema.or table.database with
    | some space => [nameToken (if space = "" then table.name else space ++ "." ++ table.name)]
    | none => [nameToken table.name]
  | .postgres =>
    match table.schema with
    | some schema =>
      if schema = "" then [nameToken table.name]
      else [nameToken schema, .symbol '.', nameToken table.name]
    | none => [nameToken table.name]
  | .mysql =>
    match table.database with
    | some database =>
      if database = "" then [nameToken table.name]
      else [nameToken database, .symbol '.', nameToken table.name]
    | none => [nameToken table.name]
  | _ => [nameToken table.name]

/-- A column with its value behind an equals sign. -/
def equalTokens (column dataType : String) (value : Option String) : List Token :=
  [nameToken column, .symbol '='] ++ valueTokens (editedValue dataType value)

/-- The tokens of `comparison`. -/
def comparisonTokens (table : CatalogTable) (column : String) (value : Option String) :
    List Token :=
  if value.isNone then [nameToken column, keyword "IS", keyword "NULL"]
  else equalTokens column (typeOf table column) value

/-- The cell of a column in a record. -/
def cellOf (record : CellRecord) (name : String) : Option String := (record.lookup name).getD none

/-- The columns with a cell in a record. -/
def recordColumns (table : CatalogTable) (values : CellRecord) : List CatalogColumn :=
  table.columns.filter fun c => (values.lookup c.name).isSome

/-- The tokens of an INSERT. -/
def insertTokens (engine : Engine) (table : CatalogTable) (values : CellRecord) : List Token :=
  let columns := recordColumns table values
  [keyword "INSERT", keyword "INTO"] ++ refTokens engine table ++ [.symbol '('] ++
    [Token.symbol ','].intercalate (columns.map fun c => [nameToken c.name]) ++
    [.symbol ')', keyword "VALUES", .symbol '('] ++
    [Token.symbol ','].intercalate (columns.map fun c =>
      valueTokens (editedValue c.dataType (cellOf values c.name))) ++ [.symbol ')']

/-- The columns whose original values are compared. -/
def comparedColumns (table : CatalogTable) (keys : CellRecord) (original : Option CellRecord)
    (changed : Option (List String)) : List (String × Option String) :=
  match original with
  | none => []
  | some original =>
    ((optimisticColumns table original changed).filter fun column => !inRecord keys column).map
      fun column => (column, cellOf original column)

/-- The tokens of a WHERE clause. -/
def whereTokens (table : CatalogTable) (conditions : List (String × Option String)) : List Token :=
  [keyword "AND"].intercalate (conditions.map fun condition =>
    comparisonTokens table condition.1 condition.2)

/-- The tokens of an UPDATE. -/
def updateTokens (engine : Engine) (table : CatalogTable) (keys values : CellRecord)
    (original : Option CellRecord) : List Token :=
  [keyword "UPDATE"] ++ refTokens engine table ++ [keyword "SET"] ++
    [Token.symbol ','].intercalate ((recordColumns table values).map fun c =>
      equalTokens c.name c.dataType (cellOf values c.name)) ++ [keyword "WHERE"] ++
    whereTokens table (keys ++ comparedColumns table keys original (some (values.map Prod.fst)))

/-- The tokens of a DELETE. -/
def deleteTokens (engine : Engine) (table : CatalogTable) (keys : CellRecord)
    (original : Option CellRecord) : List Token :=
  [keyword "DELETE", keyword "FROM"] ++ refTokens engine table ++ [keyword "WHERE"] ++
    whereTokens table (keys ++ comparedColumns table keys original none)

/-- The grid writes the names of the table so that the engine reads them back. -/
def writableTable (engine : Engine) (table : CatalogTable) : Bool :=
  table.schema.all (writableName engine) && table.database.all (writableName engine) &&
    writableName engine table.name && table.columns.all fun c => writableName engine c.name

/-- The grid writes the keys and values of the record so that the engine reads them back. -/
def writableRecord (engine : Engine) (record : CellRecord) : Bool :=
  record.all fun cell => writableName engine cell.1 && cell.2.all (writableText engine)

section Statements

variable {engine : Engine}

/-- Texts that all engines read with nothing left over. -/
theorem fixed_texts (engine : Engine) :
    Fixed (dialectOf engine) "INSERT INTO ".toList [keyword "INSERT", keyword "INTO"] ∧
    Fixed (dialectOf engine) " (".toList [.symbol '('] ∧
    Fixed (dialectOf engine) ") VALUES (".toList [.symbol ')', keyword "VALUES", .symbol '('] ∧
    Fixed (dialectOf engine) ")".toList [.symbol ')'] ∧
    Fixed (dialectOf engine) "UPDATE ".toList [keyword "UPDATE"] ∧
    Fixed (dialectOf engine) " SET ".toList [keyword "SET"] ∧
    Fixed (dialectOf engine) " WHERE ".toList [keyword "WHERE"] ∧
    Fixed (dialectOf engine) "DELETE FROM ".toList [keyword "DELETE", keyword "FROM"] ∧
    Fixed (dialectOf engine) ", ".toList [.symbol ','] ∧
    Fixed (dialectOf engine) " AND ".toList [keyword "AND"] ∧
    Fixed (dialectOf engine) " = ".toList [.symbol '='] ∧
    Fixed (dialectOf engine) " IS ".toList [keyword "IS"] := by
  unfold Fixed
  refine ⟨?_, ?_, ?_, ?_, ?_, ?_, ?_, ?_, ?_, ?_, ?_, ?_⟩ <;> cases engine <;> decide

/-- Texts that end the token before them. -/
theorem leads_texts :
    Leads " = ".toList ∧ Leads " IS ".toList ∧ Leads ", ".toList ∧ Leads " AND ".toList ∧
    Leads " SET ".toList ∧ Leads " WHERE ".toList ∧ Leads " (".toList ∧
    Leads ") VALUES (".toList ∧ Leads ")".toList := by
  unfold Leads
  decide

/-- The table is read as its name. -/
theorem reads_ref (hengine : engine ≠ .mongodb) {table : CatalogTable}
    (htable : writableTable engine table = true) :
    Reads (dialectOf engine) (tableRef engine table) (refTokens engine table) := by
  unfold writableTable at htable
  simp only [Bool.and_eq_true] at htable
  obtain ⟨⟨⟨hschema, hdatabase⟩, hname⟩, -⟩ := htable
  have hpoint : ∀ {outer : String}, writableName engine outer = true →
      Reads (dialectOf engine) (quoteIdent engine outer ++ '.' :: quoteIdent engine table.name)
        [nameToken outer, .symbol '.', nameToken table.name] := by
    intro outer houter
    have hdot : (dialectOf engine).quotes '.' = none := by
      cases engine <;> rfl
    have hboth := ((quoted_ident hengine houter).point hdot).then_reads
      (quoted_ident hengine hname).reads
    simpa [nameToken] using hboth
  have hplain := (quoted_ident hengine hname).reads
  cases engine with
  | postgres =>
      unfold tableRef refTokens
      cases hspace : table.schema with
      | none => exact hplain
      | some schema =>
          simp only
          by_cases hempty : schema = ""
          · rw [if_pos hempty, if_pos hempty]
            exact hplain
          · rw [if_neg hempty, if_neg hempty]
            rw [hspace] at hschema
            exact hpoint hschema
  | mysql =>
      unfold tableRef refTokens
      cases hspace : table.database with
      | none => exact hplain
      | some database =>
          simp only
          by_cases hempty : database = ""
          · rw [if_pos hempty, if_pos hempty]
            exact hplain
          · rw [if_neg hempty, if_neg hempty]
            rw [hspace] at hdatabase
            exact hpoint hdatabase
  | sqlite => exact hplain
  | bigquery =>
      unfold tableRef refTokens
      cases hspace : table.schema.or table.database with
      | none => exact hplain
      | some space =>
          simp only
          by_cases hempty : space = ""
          · rw [if_pos hempty]
            exact hplain
          · rw [if_neg hempty]
            have hspaced : writableName .bigquery space = true := by
              cases hs : table.schema with
              | none =>
                  rw [hs] at hspace
                  rw [show table.database = some space from hspace] at hdatabase
                  exact hdatabase
              | some schema =>
                  rw [hs] at hspace hschema
                  obtain rfl := Option.some.inj hspace
                  exact hschema
            refine (quoted_ident hengine ?_).reads
            have hbare := List.all_eq_true.mp hspaced
            have hbare' := List.all_eq_true.mp hname
            refine List.all_eq_true.mpr ?_
            intro c hc
            rw [String.toList_append, String.toList_append, List.mem_append, List.mem_append] at hc
            rcases hc with (hc | hc) | hc
            · exact hbare c hc
            · have hdot : c = '.' := by simpa using hc
              rw [hdot]
              decide
            · exact hbare' c hc
  | mongodb => exact absurd rfl hengine

/-- A column with its value. -/
theorem reads_equal (hengine : engine ≠ .mongodb) {column dataType : String}
    {value : Option String} (hcolumn : writableName engine column = true)
    (hvalue : value.all (writableText engine) = true) :
    Reads (dialectOf engine)
      (quoteIdent engine column ++ " = ".toList ++ sqlValue engine dataType value)
      (equalTokens column dataType value) := by
  obtain ⟨-, -, -, -, -, -, -, -, -, -, hequal, -⟩ := fixed_texts engine
  obtain ⟨hleads, -⟩ := leads_texts
  exact ((quoted_ident hengine hcolumn).reads.then_fixed hleads hequal).then_reads
    (reads_value hengine dataType hvalue)

/-- A comparison. -/
theorem reads_comparison (hengine : engine ≠ .mongodb) (table : CatalogTable) {column : String}
    {value : Option String} (hcolumn : writableName engine column = true)
    (hvalue : value.all (writableText engine) = true) :
    Reads (dialectOf engine) (comparison engine table column value)
      (comparisonTokens table column value) := by
  cases value with
  | none =>
      obtain ⟨-, -, -, -, -, -, -, -, -, -, -, his⟩ := fixed_texts engine
      obtain ⟨-, hleads, -⟩ := leads_texts
      have hboth := ((quoted_ident hengine hcolumn).reads.then_fixed hleads his).then_reads
        (reads_null engine)
      have htext : quoteIdent engine column ++ " IS ".toList ++ "NULL".toList =
          quoteIdent engine column ++ " IS NULL".toList := by
        rw [List.append_assoc]
        rfl
      rw [htext] at hboth
      exact hboth
  | some text => exact reads_equal hengine hcolumn hvalue

/-- A cell of a record that the grid may write. -/
theorem writable_cell {record : CellRecord} (hrecord : writableRecord engine record = true)
    (column : String) : (cellOf record column).all (writableText engine) = true := by
  unfold cellOf
  cases hcell : record.lookup column with
  | none => rfl
  | some value =>
      have hmem := List.all_eq_true.mp hrecord _ (mem_of_lookup hcell)
      exact (Bool.and_eq_true_iff.mp hmem).2

/-- A column of a table that the grid may write. -/
theorem writable_column {table : CatalogTable} (htable : writableTable engine table = true)
    {c : CatalogColumn} (hc : c ∈ table.columns) : writableName engine c.name = true :=
  List.all_eq_true.mp (Bool.and_eq_true_iff.mp htable).2 c hc

/-- The compared columns are columns of the table. -/
theorem optimistic_columns_mem {table : CatalogTable} {original : CellRecord}
    {changed : Option (List String)} {column : String}
    (h : column ∈ optimisticColumns table original changed) :
    ∃ c ∈ table.columns, c.name = column := by
  unfold optimisticColumns at h
  split at h
  case h_1 version hfind =>
      obtain rfl := List.mem_singleton.mp h
      exact ⟨version, List.mem_of_find?_eq_some hfind, rfl⟩
  case h_2 =>
      obtain ⟨c, hc, rfl⟩ := List.mem_map.mp h
      exact ⟨c, (List.mem_filter.mp hc).1, rfl⟩

/-- The compared columns are in the record. -/
theorem optimistic_in_record {table : CatalogTable} {original : CellRecord}
    {changed : Option (List String)} {column : String}
    (h : column ∈ optimisticColumns table original changed) : inRecord original column = true := by
  unfold optimisticColumns at h
  split at h
  case h_1 version hfind =>
      obtain rfl := List.mem_singleton.mp h
      have hfound := List.find?_some hfind
      exact (Bool.and_eq_true_iff.mp hfound).2
  case h_2 =>
      obtain ⟨c, hc, rfl⟩ := List.mem_map.mp h
      have hboth := (Bool.and_eq_true_iff.mp (List.mem_filter.mp hc).2).1
      exact (Bool.and_eq_true_iff.mp hboth).2

/-- The compared columns may be written. -/
theorem compared_writable {table : CatalogTable} (htable : writableTable engine table = true)
    {original : Option CellRecord} (horiginal : original.all (writableRecord engine) = true)
    (keys : CellRecord) (changed : Option (List String)) :
    writableRecord engine (comparedColumns table keys original changed) = true := by
  unfold comparedColumns
  cases original with
  | none => rfl
  | some original =>
      refine List.all_eq_true.mpr ?_
      intro cell hcell
      obtain ⟨column, hcolumn, rfl⟩ := List.mem_map.mp hcell
      obtain ⟨c, hc, rfl⟩ := optimistic_columns_mem (List.mem_filter.mp hcolumn).1
      exact Bool.and_eq_true_iff.mpr ⟨writable_column htable hc, writable_cell horiginal c.name⟩

/-- A WHERE clause. -/
theorem reads_where (hengine : engine ≠ .mongodb) (table : CatalogTable)
    {conditions : CellRecord} (hconditions : writableRecord engine conditions = true) :
    Reads (dialectOf engine)
      (joined " AND " (conditions.map fun cell => comparison engine table cell.1 cell.2))
      (whereTokens table conditions) := by
  obtain ⟨-, -, -, -, -, -, -, -, -, hand, -⟩ := fixed_texts engine
  obtain ⟨-, -, -, hleads, -⟩ := leads_texts
  have hpieces : ∀ piece ∈ conditions.map fun cell =>
      (comparison engine table cell.1 cell.2, comparisonTokens table cell.1 cell.2),
      Reads (dialectOf engine) piece.1 piece.2 := by
    intro piece hpiece
    obtain ⟨cell, hcell, rfl⟩ := List.mem_map.mp hpiece
    have hboth := Bool.and_eq_true_iff.mp (List.all_eq_true.mp hconditions cell hcell)
    exact reads_comparison hengine table hboth.1 hboth.2
  have hall := reads_intercalate hleads hand hpieces
  rw [List.map_map, List.map_map] at hall
  exact hall

/-- Pieces with commas between them. -/
theorem reads_listed (engine : Engine) {α : Type} (items : List α) (text : α → List Char)
    (tokens : α → List Token)
    (h : ∀ item ∈ items, Reads (dialectOf engine) (text item) (tokens item)) :
    Reads (dialectOf engine) (joined ", " (items.map text))
      ([Token.symbol ','].intercalate (items.map tokens)) := by
  obtain ⟨-, -, -, -, -, -, -, -, hcomma, -⟩ := fixed_texts engine
  obtain ⟨-, -, hleads, -⟩ := leads_texts
  have hpieces : ∀ piece ∈ items.map fun item => (text item, tokens item),
      Reads (dialectOf engine) piece.1 piece.2 := by
    intro piece hpiece
    obtain ⟨item, hitem, rfl⟩ := List.mem_map.mp hpiece
    exact h item hitem
  have hall := reads_intercalate hleads hcomma hpieces
  rw [List.map_map, List.map_map] at hall
  exact hall

/-! ## What the builders return -/

/-- The record holds a cell for each column of the table whose name every record inherits. -/
def Complete (table : CatalogTable) (record : CellRecord) : Prop :=
  ∀ c ∈ table.columns, c.name ∈ INHERITED_NAMES → (record.lookup c.name).isSome = true

theorem in_record_iff {record : CellRecord} {name : String} : inRecord record name = true ↔
    (record.lookup name).isSome = true ∨ name ∈ INHERITED_NAMES := by
  rw [inRecord, Bool.or_eq_true, List.contains_iff_mem]

/-- The columns that `in` finds all have a cell when the record is complete. -/
theorem complete_iff {table : CatalogTable} {values : CellRecord} :
    (∀ c ∈ table.columns.filter fun c => inRecord values c.name,
      (values.lookup c.name).isSome = true) ↔ Complete table values := by
  constructor
  · intro h c hc hname
    exact h c (List.mem_filter.mpr ⟨hc, in_record_iff.mpr (.inr hname)⟩)
  · intro h c hc
    obtain ⟨hmem, hin⟩ := List.mem_filter.mp hc
    exact (in_record_iff.mp hin).elim id (h c hmem)

/-- The columns that `in` finds in a complete record are those with a cell. -/
theorem Complete.columns {table : CatalogTable} {values : CellRecord}
    (h : Complete table values) :
    (table.columns.filter fun c => inRecord values c.name) = recordColumns table values := by
  refine List.filter_congr fun c hc => ?_
  rw [Bool.eq_iff_iff, in_record_iff]
  exact or_iff_left_of_imp (h c hc)

/-- The expression of a cell is written when the record holds the cell. -/
theorem sql_value_of_iff {dataType : String} {record : CellRecord} {name : String}
    {text : List Char} : sqlValueOf engine dataType record name = .ok text ↔
      (record.lookup name).isSome = true ∧ text = sqlValue engine dataType (cellOf record name) := by
  unfold sqlValueOf cellOf
  cases record.lookup name with
  | none => simp
  | some value => simp [eq_comm]

theorem comparison_of_iff {table : CatalogTable} {record : CellRecord} {column : String}
    {text : List Char} : comparisonOf engine table record column = .ok text ↔
      (record.lookup column).isSome = true ∧
        text = comparison engine table column (cellOf record column) := by
  unfold comparisonOf cellOf
  cases record.lookup column with
  | none => simp
  | some value => simp [eq_comm]

/-- The assignments of a record: one for each column with a cell. -/
theorem assignments_iff {table : CatalogTable} {values : CellRecord} {set : List (List Char)} :
    assignments engine table values = .ok set ↔ Complete table values ∧
      set = (recordColumns table values).map fun c => quoteIdent engine c.name ++
        " = ".toList ++ sqlValue engine c.dataType (cellOf values c.name) := by
  have hassigned : ∀ (c : CatalogColumn) (text : List Char),
      (do let value ← sqlValueOf engine c.dataType values c.name
          return quoteIdent engine c.name ++ " = ".toList ++ value) = Except.ok text ↔
        (values.lookup c.name).isSome = true ∧ text = quoteIdent engine c.name ++
          " = ".toList ++ sqlValue engine c.dataType (cellOf values c.name) := by
    intro c text
    rw [except_bind_ok]
    constructor
    · rintro ⟨value, hvalue, htext⟩
      obtain ⟨hcell, rfl⟩ := sql_value_of_iff.mp hvalue
      exact ⟨hcell, (Except.ok.inj htext).symm⟩
    · rintro ⟨hcell, rfl⟩
      exact ⟨_, sql_value_of_iff.mpr ⟨hcell, rfl⟩, rfl⟩
  unfold assignments
  rw [except_map_m_iff hassigned, complete_iff]
  refine and_congr_right fun hcomplete => ?_
  rw [hcomplete.columns]

/-- The comparisons with original values are always written: what is compared is no key, so its name
is not inherited, and the record holds a cell for it. -/
theorem original_comparisons (engine : Engine) (table : CatalogTable) (keys : CellRecord)
    (changed : Option (List String)) (original : Option CellRecord) :
    originalComparisons engine table keys changed original =
      .ok ((comparedColumns table keys original changed).map fun cell =>
        comparison engine table cell.1 cell.2) := by
  cases original with
  | none => rfl
  | some original =>
      unfold originalComparisons comparedColumns
      simp only
      rw [except_map_m_iff fun _ _ => comparison_of_iff, List.map_map]
      refine ⟨fun column hcolumn => ?_, rfl⟩
      -- `in` finds an inherited name among the keys too, so such a column is not compared
      obtain ⟨hmem, hkey⟩ := List.mem_filter.mp hcolumn
      rw [Bool.not_eq_true', inRecord, Bool.or_eq_false_iff] at hkey
      have hin := optimistic_in_record hmem
      rw [inRecord, hkey.2, Bool.or_false] at hin
      exact hin

/-- An INSERT is returned for a complete record with a cell for some column. -/
theorem build_insert_iff {table : CatalogTable} {values : CellRecord} {sql : List Char} :
    buildInsert engine table values = .ok sql ↔
      (Complete table values ∧ recordColumns table values ≠ []) ∧
        sql = "INSERT INTO ".toList ++ tableRef engine table ++ " (".toList ++
          joined ", " ((recordColumns table values).map fun c => quoteIdent engine c.name) ++
          ") VALUES (".toList ++ joined ", " ((recordColumns table values).map fun c =>
            sqlValue engine c.dataType (cellOf values c.name)) ++ ")".toList := by
  unfold buildInsert
  simp only
  split
  case isTrue hempty =>
      refine iff_of_false nofun ?_
      rintro ⟨⟨hcomplete, hne⟩, -⟩
      rw [hcomplete.columns, List.isEmpty_iff] at hempty
      exact hne hempty
  case isFalse hne =>
      rw [except_bind_ok]
      simp only [except_map_m_iff fun _ _ => sql_value_of_iff, complete_iff]
      constructor
      · rintro ⟨vals, ⟨hcomplete, rfl⟩, hsql⟩
        rw [hcomplete.columns] at hne hsql
        exact ⟨⟨hcomplete, fun hnil => hne (by rw [hnil]; rfl)⟩, (Except.ok.inj hsql).symm⟩
      · rintro ⟨⟨hcomplete, -⟩, rfl⟩
        refine ⟨_, ⟨hcomplete, rfl⟩, ?_⟩
        rw [hcomplete.columns]
        rfl

/-- An UPDATE is returned for a key and a complete record with a cell for some column. -/
theorem build_update_iff {table : CatalogTable} {keys values : CellRecord}
    {original : Option CellRecord} {sql : List Char} :
    buildUpdate engine table keys values original = .ok sql ↔
      (keys ≠ [] ∧ Complete table values ∧ recordColumns table values ≠ []) ∧
        sql = "UPDATE ".toList ++ tableRef engine table ++ " SET ".toList ++
          joined ", " ((recordColumns table values).map fun c => quoteIdent engine c.name ++
            " = ".toList ++ sqlValue engine c.dataType (cellOf values c.name)) ++
          " WHERE ".toList ++ joined " AND "
            ((keys ++ comparedColumns table keys original (some (values.map Prod.fst))).map
              fun cell => comparison engine table cell.1 cell.2) := by
  unfold buildUpdate
  simp only [original_comparisons]
  -- a statement without a key is refused before its assignments are written
  split
  case isTrue hempty =>
      refine iff_of_false nofun ?_
      rintro ⟨⟨hkeys, -⟩, -⟩
      exact hkeys (List.map_eq_nil_iff.mp (List.isEmpty_iff.mp hempty))
  case isFalse hkeys =>
      have hkeys : keys ≠ [] := by
        rintro rfl
        exact hkeys rfl
      rw [except_bind_ok]
      simp only [assignments_iff]
      constructor
      · rintro ⟨set, ⟨hcomplete, rfl⟩, hsql⟩
        split at hsql
        case isTrue => cases hsql
        case isFalse hset =>
            refine ⟨⟨hkeys, hcomplete, fun hnil => hset (by rw [hnil]; rfl)⟩, ?_⟩
            rw [List.map_append]
            exact (Except.ok.inj hsql).symm
      · rintro ⟨⟨-, hcomplete, hne⟩, rfl⟩
        refine ⟨_, ⟨hcomplete, rfl⟩, ?_⟩
        rw [if_neg (by simpa using hne), List.map_append]
        rfl

/-- A DELETE is returned for a key. -/
theorem build_delete_iff {table : CatalogTable} {keys : CellRecord} {original : Option CellRecord}
    {sql : List Char} : buildDelete engine table keys original = .ok sql ↔
      keys ≠ [] ∧ sql = "DELETE FROM ".toList ++ tableRef engine table ++ " WHERE ".toList ++
        joined " AND " ((keys ++ comparedColumns table keys original none).map
          fun cell => comparison engine table cell.1 cell.2) := by
  unfold buildDelete
  simp only [original_comparisons]
  split
  case isTrue hempty =>
      refine iff_of_false nofun ?_
      rintro ⟨hkeys, -⟩
      exact hkeys (List.map_eq_nil_iff.mp (List.isEmpty_iff.mp hempty))
  case isFalse hkeys =>
      have hkeys : keys ≠ [] := by
        rintro rfl
        exact hkeys rfl
      rw [and_iff_right hkeys, List.map_append]
      exact ⟨fun h => (Except.ok.inj h).symm, fun h => congrArg Except.ok h.symm⟩

/-! ## What the engines read -/

/-- An INSERT is read as its names and values. -/
theorem reads_insert (hengine : engine ≠ .mongodb) {table : CatalogTable} {values : CellRecord}
    (htable : writableTable engine table = true)
    (hvalues : writableRecord engine values = true) {sql : List Char}
    (h : buildInsert engine table values = .ok sql) :
    lex (dialectOf engine) sql = some (insertTokens engine table values) := by
  obtain ⟨-, rfl⟩ := build_insert_iff.mp h
  obtain ⟨hinsert, hopen, hmiddle, hclose, -⟩ := fixed_texts engine
  obtain ⟨-, -, -, -, -, -, hlopen, hlmiddle, hlclose⟩ := leads_texts
  have hidents := reads_listed engine (recordColumns table values)
    (fun c => quoteIdent engine c.name) (fun c => [nameToken c.name]) (by
      intro c hc
      exact (quoted_ident hengine (writable_column htable (List.mem_filter.mp hc).1)).reads)
  have hvals := reads_listed engine (recordColumns table values)
    (fun c => sqlValue engine c.dataType (cellOf values c.name))
    (fun c => valueTokens (editedValue c.dataType (cellOf values c.name))) (by
      intro c _
      exact reads_value hengine c.dataType (writable_cell hvalues c.name))
  have hhead := (hinsert.then_reads (reads_ref hengine htable)).then_fixed hlopen hopen
  have hnames := (hhead.then_reads hidents).then_fixed hlmiddle hmiddle
  have hall := (hnames.then_reads hvals).then_fixed hlclose hclose
  exact hall.reads.lex

/-- An UPDATE is read as its names and values. -/
theorem reads_update (hengine : engine ≠ .mongodb) {table : CatalogTable}
    {keys values : CellRecord} {original : Option CellRecord}
    (htable : writableTable engine table = true) (hkeys : writableRecord engine keys = true)
    (hvalues : writableRecord engine values = true)
    (horiginal : original.all (writableRecord engine) = true) {sql : List Char}
    (h : buildUpdate engine table keys values original = .ok sql) :
    lex (dialectOf engine) sql = some (updateTokens engine table keys values original) := by
  obtain ⟨-, rfl⟩ := build_update_iff.mp h
  obtain ⟨-, -, -, -, hupdate, hset, hwhere, -⟩ := fixed_texts engine
  obtain ⟨-, -, -, -, hlset, hlwhere, -⟩ := leads_texts
  have hassigned := reads_listed engine (recordColumns table values)
    (fun c => quoteIdent engine c.name ++ " = ".toList ++
      sqlValue engine c.dataType (cellOf values c.name))
    (fun c => equalTokens c.name c.dataType (cellOf values c.name)) (by
      intro c hc
      exact reads_equal hengine (writable_column htable (List.mem_filter.mp hc).1)
        (writable_cell hvalues c.name))
  have hconditions : writableRecord engine
      (keys ++ comparedColumns table keys original (some (values.map Prod.fst))) = true :=
    List.all_append.trans
      (Bool.and_eq_true_iff.mpr ⟨hkeys, compared_writable htable horiginal keys _⟩)
  have hhead := (hupdate.then_reads (reads_ref hengine htable)).then_fixed hlset hset
  have hbody := (hhead.then_reads hassigned).then_fixed hlwhere hwhere
  exact (hbody.then_reads (reads_where hengine table hconditions)).lex

/-- A DELETE is read as its names and values. -/
theorem reads_delete (hengine : engine ≠ .mongodb) {table : CatalogTable} {keys : CellRecord}
    {original : Option CellRecord} (htable : writableTable engine table = true)
    (hkeys : writableRecord engine keys = true)
    (horiginal : original.all (writableRecord engine) = true) {sql : List Char}
    (h : buildDelete engine table keys original = .ok sql) :
    lex (dialectOf engine) sql = some (deleteTokens engine table keys original) := by
  obtain ⟨-, rfl⟩ := build_delete_iff.mp h
  obtain ⟨-, -, -, -, -, -, hwhere, hdelete, -⟩ := fixed_texts engine
  obtain ⟨-, -, -, -, -, hlwhere, -⟩ := leads_texts
  have hconditions : writableRecord engine (keys ++ comparedColumns table keys original none) =
      true :=
    List.all_append.trans
      (Bool.and_eq_true_iff.mpr ⟨hkeys, compared_writable htable horiginal keys none⟩)
  have hhead := (hdelete.then_reads (reads_ref hengine htable)).then_fixed hlwhere hwhere
  exact (hhead.then_reads (reads_where hengine table hconditions)).lex

end Statements

end Dopedb.Desktop
