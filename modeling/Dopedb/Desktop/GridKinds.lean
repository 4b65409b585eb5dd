import Dopedb.Desktop.GridReading

/-!
# Statements with values of the same kinds

What decides the tokens of a statement of the grid are its names and the kinds of its values: null,
a cleared number, a number with or without a sign, or a text. Statements that agree on them have the
same tokens up to the texts of literals and the digits of numbers. `grid_statements_read` is the
main result about the literals and statements of the grid.
-/

namespace Dopedb.Desktop

open Library Library.SqlTokens

/-- What decides the tokens of a cell. -/
inductive CellKind where
  | null
  /-- A numeric cell without a text. -/
  | cleared
  | number (negative : Bool)
  | text
  deriving DecidableEq, Repr

/-- The kind of a cell of a column. -/
def cellKind (dataType : String) (value : Option String) : CellKind :=
  if value.isNone then .null
  else
    match editedValue dataType value with
    | .null => .cleared
    | .number numeral => .number (numeral.head? = some '-')
    | _ => .text

/-- A token up to the text of a literal and the digits of a number. -/
def tokenShape : Token → Token
  | .literal _ => .literal []
  | .word text => .word (if text.head?.any Char.isDigit then ['0'] else text)
  | token => token

/-- The tokens of a value of a kind, up to its text and digits. -/
def kindTokens : CellKind → List Token
  | .null => [keyword "NULL"]
  | .cleared => [keyword "NULL"]
  | .number negative => if negative then [.symbol '-', .word ['0']] else [.word ['0']]
  | .text => [.literal []]

/-- The two records have the same keys and values of the same kinds in all columns. -/
def SameKinds (table : CatalogTable) (record record' : CellRecord) : Prop :=
  List.Forall₂ (fun cell cell' => cell.1 = cell'.1 ∧
    ∀ dataType, (dataType = typeOf table cell.1 ∨
        ∃ c ∈ table.columns, c.name = cell.1 ∧ c.dataType = dataType) →
      cellKind dataType cell.2 = cellKind dataType cell'.2) record record'

/-- The tokens of the two statements have the same shapes. -/
def SameShape (tokens tokens' : List Token) : Prop := tokens.map tokenShape = tokens'.map tokenShape

theorem SameShape.append {front front' back back' : List Token} (h : SameShape front front')
    (h' : SameShape back back') : SameShape (front ++ back) (front' ++ back') := by
  unfold SameShape at h h' ⊢
  rw [List.map_append, List.map_append, h, h']

/-- Lists of pieces of the same shapes. -/
theorem SameShape.intercalate {marks : List Token} {pieces pieces' : List (List Token)}
    (h : List.Forall₂ SameShape pieces pieces') :
    SameShape (marks.intercalate pieces) (marks.intercalate pieces') := by
  induction h with
  | nil => rfl
  | cons hfirst hrest ih =>
      cases hrest with
      | nil =>
          rw [List.intercalate_singleton, List.intercalate_singleton]
          exact hfirst
      | cons hnext hrest =>
          rw [List.intercalate_cons_cons, List.intercalate_cons_cons]
          exact (hfirst.append rfl).append ih

/-- The kind of a cell decides the tokens of its value. -/
theorem shape_value (dataType : String) (value : Option String) :
    (valueTokens (editedValue dataType value)).map tokenShape =
      kindTokens (cellKind dataType value) := by
  cases value with
  | none => rfl
  | some value =>
      unfold cellKind
      rw [if_neg (by simp)]
      unfold editedValue
      simp only
      split
      case isTrue => decide
      split
      case isFalse => rfl
      case isTrue hnumber =>
          have hnumeral := (Bool.and_eq_true_iff.mp hnumber).2
          generalize jsTrim value.toList = text at *
          have hdigits : ∀ {word : List Char}, isUnsigned word = true →
              tokenShape (.word word) = .word ['0'] := by
            intro word hword
            obtain ⟨c, digits, fraction, exponent, rfl, hc, -⟩ := unsigned_parts hword
            have hfirst : (c :: digits ++ fraction ++ exponent).head?.any Char.isDigit = true := hc
            exact congrArg Token.word (if_pos hfirst)
          unfold isNumeral at hnumeral
          split at hnumeral
          case h_1 rest _ =>
              show [tokenShape (.symbol '-'), tokenShape (.word rest)] = _
              rw [hdigits hnumeral]
              rfl
          case h_2 hsign =>
              rw [value_tokens_plain hsign]
              show [tokenShape (.word text)] = _
              rw [hdigits hnumeral]
              have hhead : text.head? ≠ some '-' := by
                intro hhead
                obtain ⟨rest, rfl⟩ := List.head?_eq_some_iff.mp hhead
                exact hsign rest rfl
              simp [kindTokens, hhead]

/-- Cells of the same kind. -/
theorem shape_kind {dataType : String} {value value' : Option String}
    (h : cellKind dataType value = cellKind dataType value') :
    SameShape (valueTokens (editedValue dataType value))
      (valueTokens (editedValue dataType value')) := by
  unfold SameShape
  rw [shape_value, shape_value, h]

/-- Only null is of the kind of null. -/
theorem kind_null {dataType : String} {value : Option String} :
    cellKind dataType value = .null ↔ value.isNone = true := by
  unfold cellKind
  split
  case isTrue h => exact ⟨fun _ => h, fun _ => rfl⟩
  case isFalse h =>
      refine ⟨fun hkind => ?_, fun hnone => absurd hnone h⟩
      split at hkind <;> cases hkind

/-- Comparisons with cells of the same kind. -/
theorem shape_comparison {table : CatalogTable} {column : String} {value value' : Option String}
    (h : cellKind (typeOf table column) value = cellKind (typeOf table column) value') :
    SameShape (comparisonTokens table column value) (comparisonTokens table column value') := by
  have hnone : value.isNone = value'.isNone := by
    rw [Bool.eq_iff_iff, ← @kind_null (typeOf table column), h, kind_null]
  unfold comparisonTokens
  rw [← hnone]
  split
  · rfl
  · unfold equalTokens
    exact SameShape.append rfl (shape_kind h)

section Records

variable {table : CatalogTable} {record record' : CellRecord}

/-- Records of the same kinds hold the same keys, and cells of the same kinds. -/
theorem SameKinds.lookup (h : SameKinds table record record') (name : String) :
    (record.lookup name).isSome = (record'.lookup name).isSome ∧
      ∀ dataType, (dataType = typeOf table name ∨
          ∃ c ∈ table.columns, c.name = name ∧ c.dataType = dataType) →
        cellKind dataType (cellOf record name) = cellKind dataType (cellOf record' name) := by
  unfold cellOf
  induction h with
  | nil => exact ⟨rfl, fun _ _ => rfl⟩
  | @cons cell cell' record record' hcell hrest ih =>
      obtain ⟨key, value⟩ := cell
      obtain ⟨key', value'⟩ := cell'
      obtain ⟨hkey, hkinds⟩ := hcell
      have hkey : key = key' := hkey
      subst hkey
      rw [List.lookup_cons, List.lookup_cons]
      by_cases hname : name = key
      · subst hname
        rw [beq_self_eq_true]
        exact ⟨rfl, hkinds⟩
      · rw [beq_false_of_ne hname]
        exact ih

/-- Records of the same kinds have the same keys. -/
theorem SameKinds.keys (h : SameKinds table record record') :
    record.map Prod.fst = record'.map Prod.fst := by
  induction h with
  | nil => rfl
  | cons hcell hrest ih => rw [List.map_cons, List.map_cons, hcell.1, ih]

theorem SameKinds.in_record (h : SameKinds table record record') :
    inRecord record = inRecord record' := by
  funext name
  rw [inRecord, inRecord, (h.lookup name).1]

theorem SameKinds.columns (h : SameKinds table record record') :
    recordColumns table record = recordColumns table record' :=
  List.filter_congr fun c _ => (h.lookup c.name).1

/-- The cell of a column. -/
theorem SameKinds.cell (h : SameKinds table record record') {c : CatalogColumn}
    (hc : c ∈ table.columns) : cellKind c.dataType (cellOf record c.name) =
      cellKind c.dataType (cellOf record' c.name) :=
  (h.lookup c.name).2 c.dataType (.inr ⟨c, hc, rfl, rfl⟩)

/-- Items that are listed alike. -/
theorem shape_listed {α : Type} {marks : List Token} {items : List α}
    {tokens tokens' : α → List Token}
    (h : ∀ item ∈ items, SameShape (tokens item) (tokens' item)) :
    SameShape (marks.intercalate (items.map tokens)) (marks.intercalate (items.map tokens')) := by
  refine SameShape.intercalate ?_
  induction items with
  | nil => exact .nil
  | cons item items ih =>
      exact .cons (h item List.mem_cons_self) (ih fun other hother =>
        h other (List.mem_cons_of_mem item hother))

/-- INSERT statements with values of the same kinds. -/
theorem shape_insert (engine : Engine) (h : SameKinds table record record') :
    SameShape (insertTokens engine table record) (insertTokens engine table record') := by
  unfold insertTokens
  rw [← h.columns]
  refine SameShape.append (SameShape.append rfl (shape_listed ?_)) rfl
  intro c hc
  exact shape_kind (h.cell (List.mem_filter.mp hc).1)

/-- Original values of the same kinds are compared in the same columns. -/
theorem SameKinds.compared {keys keys' : CellRecord} (hkeys : SameKinds table keys keys')
    {original original' : Option CellRecord}
    (h : Option.Rel (SameKinds table) original original') (changed : Option (List String)) :
    List.Forall₂ SameShape
      ((comparedColumns table keys original changed).map fun cell =>
        comparisonTokens table cell.1 cell.2)
      ((comparedColumns table keys' original' changed).map fun cell =>
        comparisonTokens table cell.1 cell.2) := by
  cases h with
  | none => exact .nil
  | @some original original' h =>
      have hcolumns : optimisticColumns table original changed =
          optimisticColumns table original' changed := by
        unfold optimisticColumns
        rw [h.in_record]
      unfold comparedColumns
      simp only
      rw [hcolumns, hkeys.in_record, List.map_map, List.map_map]
      rw [List.forall₂_map_left_iff, List.forall₂_map_right_iff]
      refine List.forall₂_same.mpr ?_
      intro column _
      exact shape_comparison ((h.lookup column).2 _ (.inl rfl))

/-- WHERE clauses with keys and original values of the same kinds. -/
theorem shape_where {keys keys' : CellRecord} (hkeys : SameKinds table keys keys')
    {original original' : Option CellRecord}
    (h : Option.Rel (SameKinds table) original original') (changed : Option (List String)) :
    SameShape (whereTokens table (keys ++ comparedColumns table keys original changed))
      (whereTokens table (keys' ++ comparedColumns table keys' original' changed)) := by
  refine SameShape.intercalate ?_
  rw [List.map_append, List.map_append]
  refine List.rel_append ?_ (hkeys.compared h changed)
  rw [List.forall₂_map_left_iff, List.forall₂_map_right_iff]
  refine List.Forall₂.imp ?_ hkeys
  intro cell cell' hcell
  rw [← hcell.1]
  exact shape_comparison (hcell.2 _ (.inl rfl))

/-- UPDATE statements with keys and values of the same kinds. -/
theorem shape_update (engine : Engine) {keys keys' : CellRecord}
    (hkeys : SameKinds table keys keys') (h : SameKinds table record record')
    {original original' : Option CellRecord}
    (horiginal : Option.Rel (SameKinds table) original original') :
    SameShape (updateTokens engine table keys record original)
      (updateTokens engine table keys' record' original') := by
  unfold updateTokens
  rw [← h.columns, ← h.keys]
  refine SameShape.append (SameShape.append (SameShape.append rfl (shape_listed ?_)) rfl)
    (shape_where hkeys horiginal _)
  intro c hc
  exact SameShape.append rfl (shape_kind (h.cell (List.mem_filter.mp hc).1))

/-- DELETE statements with keys of the same kinds. -/
theorem shape_delete (engine : Engine) {keys keys' : CellRecord}
    (hkeys : SameKinds table keys keys') {original original' : Option CellRecord}
    (horiginal : Option.Rel (SameKinds table) original original') :
    SameShape (deleteTokens engine table keys original)
      (deleteTokens engine table keys' original') := by
  unfold deleteTokens
  exact SameShape.append rfl (shape_where hkeys horiginal none)

end Records

/-! ## The grid -/

/-- The literals and the statements of the grid, for every engine whose tables it shows. A cell is
one expression that denotes its value. A statement is returned when it has a key and something to
set, and a value for each column whose name every record inherits. It is read as its names and
values in their places, and its tokens depend on the kinds of its values only. -/
theorem grid_statements_read (engine : GridEngine) :
    (∀ value : Option String, value.all (writableText engine) = true →
      (lex (dialectOf engine) (sqlLiteral engine value)).bind denoted =
        some (editedValue "text" value)) ∧
    (∀ (dataType : String) (value : Option String), value.all (writableText engine) = true →
      (lex (dialectOf engine) (sqlValue engine dataType value)).bind denoted =
        some (editedValue dataType value)) ∧
    (∀ (table : CatalogTable) (keys values : CellRecord) (original : Option CellRecord),
      ((∃ sql, buildInsert engine table values = .ok sql) ↔
        Complete table values ∧ recordColumns table values ≠ []) ∧
      ((∃ sql, buildUpdate engine table keys values original = .ok sql) ↔
        keys ≠ [] ∧ Complete table values ∧ recordColumns table values ≠ []) ∧
      ((∃ sql, buildDelete engine table keys original = .ok sql) ↔ keys ≠ [])) ∧
    ∀ table, writableTable engine table = true →
      (∀ values sql, writableRecord engine values = true →
        buildInsert engine table values = .ok sql →
        lex (dialectOf engine) sql = some (insertTokens engine table values)) ∧
      (∀ keys values original sql, writableRecord engine keys = true →
        writableRecord engine values = true → original.all (writableRecord engine) = true →
        buildUpdate engine table keys values original = .ok sql →
        lex (dialectOf engine) sql = some (updateTokens engine table keys values original)) ∧
      (∀ keys original sql, writableRecord engine keys = true →
        original.all (writableRecord engine) = true →
        buildDelete engine table keys original = .ok sql →
        lex (dialectOf engine) sql = some (deleteTokens engine table keys original)) ∧
      (∀ values values', SameKinds table values values' →
        SameShape (insertTokens engine table values) (insertTokens engine table values')) ∧
      (∀ keys keys' values values' original original', SameKinds table keys keys' →
        SameKinds table values values' → Option.Rel (SameKinds table) original original' →
        SameShape (updateTokens engine table keys values original)
          (updateTokens engine table keys' values' original')) ∧
      ∀ keys keys' original original', SameKinds table keys keys' →
        Option.Rel (SameKinds table) original original' →
        SameShape (deleteTokens engine table keys original)
          (deleteTokens engine table keys' original') := by
  obtain ⟨engine, hengine⟩ := engine
  have hvalues : ∀ (dataType : String) (value : Option String),
      value.all (writableText engine) = true →
      (lex (dialectOf engine) (sqlValue engine dataType value)).bind denoted =
        some (editedValue dataType value) := by
    intro dataType value hvalue
    rw [(reads_value hengine dataType hvalue).lex, Option.bind_some, denoted_edited]
  refine ⟨?_, hvalues, ?_, ?_⟩
  · intro value hvalue
    have htext : sqlValue engine "text" value = sqlLiteral engine value := by
      cases value <;> rfl
    rw [← htext]
    exact hvalues "text" value hvalue
  · intro table keys values original
    refine ⟨?_, ?_, ?_⟩
    · exact ⟨fun ⟨_, h⟩ => (build_insert_iff.mp h).1, fun h => ⟨_, build_insert_iff.mpr ⟨h, rfl⟩⟩⟩
    · exact ⟨fun ⟨_, h⟩ => (build_update_iff.mp h).1, fun h => ⟨_, build_update_iff.mpr ⟨h, rfl⟩⟩⟩
    · exact ⟨fun ⟨_, h⟩ => (build_delete_iff.mp h).1, fun h => ⟨_, build_delete_iff.mpr ⟨h, rfl⟩⟩⟩
  · intro table htable
    refine ⟨?_, ?_, ?_, ?_, ?_, ?_⟩
    · intro values sql hrecord h
      exact reads_insert hengine htable hrecord h
    · intro keys values original sql hkeys hrecord horiginal h
      exact reads_update hengine htable hkeys hrecord horiginal h
    · intro keys original sql hkeys horiginal h
      exact reads_delete hengine htable hkeys horiginal h
    · intro values values' h
      exact shape_insert engine h
    · intro keys keys' values values' original original' hkeys h horiginal
      exact shape_update engine hkeys h horiginal
    · intro keys keys' original original' hkeys horiginal
      exact shape_delete engine hkeys horiginal

/-- A table of notes by number. -/
def notesTable : CatalogTable where
  database := some "desk"
  schema := none
  name := "notes"
  columns := [⟨"id", "int", true⟩, ⟨"note", "text", false⟩]

/-- Backslashes and quotes at the end of notes in MySQL. -/
theorem mysql_notes_read :
    (lex (dialectOf .mysql) (sqlLiteral .mysql (some "\\'"))).bind denoted =
        some (editedValue "text" (some "\\'")) ∧
      (lex (dialectOf .mysql) (sqlValue .mysql "int" (some "-7 "))).bind denoted =
        some (editedValue "int" (some "-7 ")) ∧
      (∀ sql, buildInsert .mysql notesTable [("note", some "\\")] = .ok sql →
        lex (dialectOf .mysql) sql =
          some (insertTokens .mysql notesTable [("note", some "\\")])) ∧
      (∀ sql, buildUpdate .mysql notesTable [("id", some "7")] [("note", none)]
          (some [("note", some "\\' OR 1=1 -- ")]) = .ok sql →
        lex (dialectOf .mysql) sql = some (updateTokens .mysql notesTable [("id", some "7")]
          [("note", none)] (some [("note", some "\\' OR 1=1 -- ")]))) ∧
      (∃ sql, buildDelete .mysql notesTable [("id", some "7")] none = .ok sql) ∧
      (∀ sql, buildDelete .mysql notesTable [("id", some "7")] none = .ok sql →
        lex (dialectOf .mysql) sql =
          some (deleteTokens .mysql notesTable [("id", some "7")] none)) ∧
      SameShape (insertTokens .mysql notesTable [("note", some "\\")])
        (insertTokens .mysql notesTable [("note", some "'")]) := by
  obtain ⟨hliteral, hvalue, hreturns, htables⟩ := grid_statements_read ⟨.mysql, by decide⟩
  obtain ⟨hinsert, hupdate, hdelete, hshape, -⟩ := htables notesTable (by decide)
  refine ⟨hliteral _ (by decide), hvalue _ _ (by decide), ?_, ?_, ?_, ?_, ?_⟩
  · exact fun sql => hinsert _ sql (by decide)
  · exact fun sql => hupdate _ _ _ sql (by decide) (by decide) (by decide)
  · exact (hreturns notesTable [("id", some "7")] [] none).2.2.mpr (by decide)
  · exact fun sql => hdelete _ _ sql (by decide) (by decide)
  · refine hshape _ _ (.cons ⟨rfl, ?_⟩ .nil)
    rintro dataType (rfl | ⟨c, hc, hname, rfl⟩)
    · decide
    · have hall : ∀ c ∈ notesTable.columns, c.name = "note" →
          cellKind c.dataType (some "\\") = cellKind c.dataType (some "'") := by decide
      exact hall c hc hname

/-- A boolean cell is written as a quoted text, and BigQuery reads on behind the quote that is meant
to close a backslash. -/
theorem boolean_cell_quoted :
    (lex (dialectOf .postgres) (sqlValue .postgres "boolean" (some "true"))).bind denoted =
        some (.text "true".toList) ∧
      (lex (dialectOf .postgres) (sqlValue .postgres "boolean" (some "true"))).bind denoted ≠
        some (.boolean true) ∧
      lex (dialectOf .bigquery) (sqlValue .bigquery "string" (some "\\")) = none := by
  decide

end Dopedb.Desktop
