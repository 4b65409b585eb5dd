import Dopedb.Library.Regex
import Dopedb.Model
import Dopedb.Text

/-!
# Statements of the data grid

`sqlBuild.ts` and `tableRef.ts`: the literals and names of the grid, and the INSERT, UPDATE and
DELETE statements that it writes. A record lists its own keys in the order in which JavaScript lists
them, and a cell holds a text or is null. Records are plain objects, so `in` also finds the names
that they inherit.
-/

namespace Dopedb.Desktop

open Library

/-- What the statements read of a `CatalogColumn`. -/
structure CatalogColumn where
  name : String
  dataType : String
  pk : Bool
  deriving DecidableEq, Repr

/-- What the statements read of a `CatalogTable`. -/
structure CatalogTable where
  database : Option String
  schema : Option String
  name : String
  columns : List CatalogColumn
  deriving DecidableEq, Repr

/-- The own cells of a `Record<string, string | null>`. -/
abbrev CellRecord := List (String × Option String)

/-- What the builders throw: an error with their own message, or a `TypeError`. -/
inductive Thrown where
  | error (message : String)
  | typeError
  deriving DecidableEq, Repr

/-- Every such character twice. -/
def twice (quote : Char) (text : List Char) : List Char :=
  text.flatMap fun c => if c = quote then [c, c] else [c]

/-- `sqlLiteral`. -/
def sqlLiteral (engine : Engine) : Option String → List Char
  | none => "NULL".toList
  | some value =>
    let text := if engine = .mysql then twice '\\' value.toList else value.toList
    '\'' :: twice '\'' text ++ ['\'']

/-- `\w`. -/
def isNameChar (c : Char) : Bool := c.isAlphanum || c = '_'

/-- `\d`. -/
def digit : Regex := .range '0' '9'

/-- The alternatives of `NUMERIC_RE`, in lower case. -/
def NUMERIC_RE : Regex :=
  .any [
    .all [.optional (.any [.text "big", .text "small", .text "tiny", .text "medium"]), .text "int",
      .optional (.text "eger"), .star digit],
    .all [.optional (.any [.text "big", .text "small"]), .text "serial", .star digit],
    .text "numeric", .text "decimal", .text "dec", .text "real", .text "double",
    .all [.text "float", .star digit], .text "money", .text "fixed"]

/-- `isNumericType`: what matches between two word boundaries is a whole word. -/
def isNumericType (dataType : String) : Bool :=
  ((dataType.toList.map Char.toLower).splitOnP fun c => !isNameChar c).any NUMERIC_RE.accepts

/-- `\d+` at the start of a text, with what follows it. -/
def dropDigits (text : List Char) : Option (List Char) :=
  if text.head?.any Char.isDigit then some (text.dropWhile Char.isDigit) else none

/-- `(\.\d+)?`. -/
def dropFraction : List Char → Option (List Char)
  | '.' :: rest => dropDigits rest
  | text => some text

/-- `([eE][+-]?\d+)?`. -/
def dropExponent : List Char → Option (List Char)
  | c :: rest =>
    if c = 'e' ∨ c = 'E' then
      match rest with
      | d :: digits => if d = '+' ∨ d = '-' then dropDigits digits else dropDigits rest
      | [] => none
    else some (c :: rest)
  | [] => some []

/-- `\d+(\.\d+)?([eE][+-]?\d+)?` matches a whole text. -/
def isUnsigned (text : List Char) : Bool :=
  (((dropDigits text).bind dropFraction).bind dropExponent).any List.isEmpty

/-- `/^-?\d+(\.\d+)?([eE][+-]?\d+)?$/`. -/
def isNumeral : List Char → Bool
  | '-' :: rest => isUnsigned rest
  | text => isUnsigned text

/-- `sqlValue`. -/
def sqlValue (engine : Engine) (dataType : String) : Option String → List Char
  | none => "NULL".toList
  | some value =>
    if isNumericType dataType then
      let text := jsTrim value.toList
      -- A cleared numeric field is NULL.
      if text = [] then "NULL".toList
      else if isNumeral text then text
      else sqlLiteral engine (some value)
    else sqlLiteral engine (some value)

/-- `quoteIdent`. -/
def quoteIdent (engine : Engine) (name : String) : List Char :=
  if engine = .mysql ∨ engine = .bigquery then '`' :: twice '`' name.toList ++ ['`']
  else '"' :: twice '"' name.toList ++ ['"']

/-- `tableRef`. A schema or database that is empty counts as none where the source tests it. -/
def tableRef (engine : Engine) (table : CatalogTable) : List Char :=
  match engine with
  | .bigquery =>
    match table.schema.or table.database with
    | some space =>
      quoteIdent .bigquery (if space = "" then table.name else space ++ "." ++ table.name)
    | none => quoteIdent .bigquery table.name
  | .postgres =>
    match table.schema with
    | some schema =>
      if schema = "" then quoteIdent .postgres table.name
      else quoteIdent .postgres schema ++ '.' :: quoteIdent .postgres table.name
    | none => quoteIdent .postgres table.name
  | .mysql =>
    match table.database with
    | some database =>
      if database = "" then quoteIdent .mysql table.name
      else quoteIdent .mysql database ++ '.' :: quoteIdent .mysql table.name
    | none => quoteIdent .mysql table.name
  | engine => quoteIdent engine table.name

/-- `typeOf`. -/
def typeOf (table : CatalogTable) (column : String) : String :=
  ((table.columns.find? fun c => c.name = column).map (·.dataType)).getD "text"

/-- The names that a plain object inherits from `Object.prototype`. -/
def INHERITED_NAMES : List String :=
  ["constructor", "__defineGetter__", "__defineSetter__", "hasOwnProperty", "__lookupGetter__",
    "__lookupSetter__", "isPrototypeOf", "propertyIsEnumerable", "toString", "valueOf", "__proto__",
    "toLocaleString"]

/-- `name in values`, for own and for inherited names. -/
def inRecord (record : CellRecord) (name : String) : Bool :=
  (record.lookup name).isSome || INHERITED_NAMES.contains name

/-- `sqlValue` of `values[name]`. Without an own cell this is no text and not null, so `trim` or
`replace` throws. -/
def sqlValueOf (engine : Engine) (dataType : String) (record : CellRecord) (name : String) :
    Except Thrown (List Char) :=
  match record.lookup name with
  | some value => .ok (sqlValue engine dataType value)
  | none => .error .typeError

/-- `VERSION_COLUMN_RE`. -/
def isVersionColumn (name : String) : Bool :=
  ["version", "row_version", "lock_version", "revision", "updated_at", "updatedat",
    "modified_at"].contains (String.ofList (name.toList.map Char.toLower))

/-- `comparison`. -/
def comparison (engine : Engine) (table : CatalogTable) (column : String) (value : Option String) :
    List Char :=
  match value with
  | none => quoteIdent engine column ++ " IS NULL".toList
  | some text =>
    quoteIdent engine column ++ " = ".toList ++ sqlValue engine (typeOf table column) (some text)

/-- `comparison` with `values[column]`, which throws without an own cell. -/
def comparisonOf (engine : Engine) (table : CatalogTable) (record : CellRecord) (column : String) :
    Except Thrown (List Char) :=
  match record.lookup column with
  | some value => .ok (comparison engine table column value)
  | none => .error .typeError

/-- `optimisticColumns`. -/
def optimisticColumns (table : CatalogTable) (original : CellRecord)
    (changed : Option (List String)) : List String :=
  match table.columns.find? fun c => isVersionColumn c.name && inRecord original c.name with
  | some version => [version.name]
  | none =>
    (table.columns.filter fun c =>
      !c.pk && inRecord original c.name && changed.all fun names => names.contains c.name).map
        (·.name)

/-- `assignments`. -/
def assignments (engine : Engine) (table : CatalogTable) (values : CellRecord) :
    Except Thrown (List (List Char)) :=
  (table.columns.filter fun c => inRecord values c.name).mapM fun c => do
    let value ← sqlValueOf engine c.dataType values c.name
    return quoteIdent engine c.name ++ " = ".toList ++ value

/-- `join`. -/
def joined (separator : String) (parts : List (List Char)) : List Char :=
  separator.toList.intercalate parts

/-- `buildInsert`. -/
def buildInsert (engine : Engine) (table : CatalogTable) (values : CellRecord) :
    Except Thrown (List Char) := do
  let columns := table.columns.filter fun c => inRecord values c.name
  if columns.isEmpty then throw (.error "INSERT with no columns")
  let idents := joined ", " (columns.map fun c => quoteIdent engine c.name)
  let vals ← columns.mapM fun c => sqlValueOf engine c.dataType values c.name
  return "INSERT INTO ".toList ++ tableRef engine table ++ " (".toList ++ idents ++
    ") VALUES (".toList ++ joined ", " vals ++ ")".toList

/-- The comparisons with the original values of the columns that are no keys. -/
def originalComparisons (engine : Engine) (table : CatalogTable) (keys : CellRecord)
    (changed : Option (List String)) : Option CellRecord → Except Thrown (List (List Char))
  | none => return []
  | some original =>
    ((optimisticColumns table original changed).filter fun column => !inRecord keys column).mapM
      (comparisonOf engine table original)

/-- `buildUpdate`. -/
def buildUpdate (engine : Engine) (table : CatalogTable) (keys values : CellRecord)
    (original : Option CellRecord) : Except Thrown (List Char) := do
  let wheres := keys.map fun key => comparison engine table key.1 key.2
  if wheres.isEmpty then throw (.error "refusing UPDATE without a primary key")
  let set ← assignments engine table values
  if set.isEmpty then throw (.error "UPDATE with no changed columns")
  let more ← originalComparisons engine table keys (some (values.map Prod.fst)) original
  return "UPDATE ".toList ++ tableRef engine table ++ " SET ".toList ++ joined ", " set ++
    " WHERE ".toList ++ joined " AND " (wheres ++ more)

/-- `buildDelete`. -/
def buildDelete (engine : Engine) (table : CatalogTable) (keys : CellRecord)
    (original : Option CellRecord) : Except Thrown (List Char) := do
  let wheres := keys.map fun key => comparison engine table key.1 key.2
  if wheres.isEmpty then throw (.error "refusing DELETE without a primary key")
  let more ← originalComparisons engine table keys none original
  return "DELETE FROM ".toList ++ tableRef engine table ++ " WHERE ".toList ++
    joined " AND " (wheres ++ more)

/-- A column with the name of a method of every object, with a cell and without one. -/
example :
    let table : CatalogTable :=
      ⟨none, none, "t", [⟨"id", "int", true⟩, ⟨"valueOf", "text", false⟩]⟩
    buildInsert .sqlite table [("id", some "1")] = .error .typeError ∧
      buildUpdate .sqlite table [("id", some "1")] [("valueOf", none)] none =
        .ok "UPDATE \"t\" SET \"valueOf\" = NULL WHERE \"id\" = 1".toList ∧
      buildDelete .sqlite table [("id", some "1")] (some [("valueOf", some "x")]) =
        .ok "DELETE FROM \"t\" WHERE \"id\" = 1".toList := by
  decide

end Dopedb.Desktop
