import Dopedb.Model
import Dopedb.Operations.Model
import Dopedb.Protocol.CatalogModel
import Dopedb.Text

/-!
# Values in exported files

`format/values.rs` and the quoting of `worker/files.rs`: how a row of JSON values is written as a
delimited record, as a JSON object or as an INSERT statement. A text is known by its characters.
-/

namespace Dopedb.Jobs

open Dopedb.Library
open Dopedb.Operations (AppError)
open Dopedb.Protocol (NormalizedTypeFamily ObjectRef)

/-- The formats of a job's file. -/
inductive JobFormat where
  | csv | tsv | json | ndjson | sql | xlsx | csvGzip | jsonGzip | ndjsonGzip | sqlGzip
  deriving DecidableEq, Repr

namespace JobFormat

/-- The file is compressed. -/
def compressed : JobFormat → Bool
  | .csvGzip | .jsonGzip | .ndjsonGzip | .sqlGzip => true
  | _ => false

/-- An export in the format can be paused and resumed. -/
def resumable : JobFormat → Bool
  | .csv | .tsv | .json | .ndjson | .sql => true
  | _ => false

/-- The format without its compression. -/
def base : JobFormat → JobFormat
  | .csvGzip => .csv
  | .jsonGzip => .json
  | .ndjsonGzip => .ndjson
  | .sqlGzip => .sql
  | format => format

end JobFormat

/-- A row of cells. -/
abbrev Row := List Json

/-! ## Delimited records and objects -/

/-- Insert a member into a map that keeps the order of insertion. -/
def insertMember (members : List (String × Json)) (name : String) (value : Json) :
    List (String × Json) :=
  if name ∈ members.map Prod.fst then
    members.map fun member => if member.1 = name then (name, value) else member
  else members ++ [(name, value)]

/-- A row as an object: a column without a value is null. -/
def rowObject (columns : List String) (values : Row) : Json :=
  .obj ((columns.zipIdx.map fun (column, index) => (column, values.getD index .null)).foldl
    (fun members (column, value) => insertMember members column value) [])

/-- A text with every `quote` doubled. -/
def doubled (quote : Char) (text : List Char) : List Char :=
  text.flatMap fun c => if c = quote then [quote, quote] else [c]

/-- The text of a number. -/
def numberText : Json → List Char
  | .int n => n.repr.toList
  | .float text => text.toList
  | _ => []

/-- The text of a cell in a delimited file. -/
def scalarText (platform : Platform) : Json → List Char
  | .null => []
  | .str text => text.toList
  | value => (platform.jsonText value).toList

/-- A field has to be quoted. -/
def needsQuote (delimiter : Char) (text : List Char) : Bool :=
  text.any fun c => c = delimiter || c = '"' || c = '\r' || c = '\n'

/-- A field of a delimited record. -/
def delimitedField (delimiter : Char) (text : List Char) : List Char :=
  if needsQuote delimiter text then '"' :: doubled '"' text ++ ['"'] else text

/-- A delimited record of texts. -/
def delimitedRecord (delimiter : Char) (texts : List (List Char)) : List Char :=
  [delimiter].intercalate (texts.map (delimitedField delimiter)) ++ ['\n']

/-- The record of a row of values. -/
def writeDelimitedValues (platform : Platform) (values : Row) (delimiter : Char) : List Char :=
  delimitedRecord delimiter (values.map (scalarText platform))

/-- The record of a row of texts. -/
def writeDelimitedRow (platform : Platform) (values : List String) (delimiter : Char) :
    List Char :=
  writeDelimitedValues platform (values.map .str) delimiter

/-! ## SQL -/

/-- The quote of MySQL identifiers. -/
def backtick : Char := '\x60'

/-- An identifier in quotes. -/
def quoteIdentifier (engine : Engine) (value : String) : List Char :=
  if engine = .mysql then backtick :: doubled backtick value.toList ++ [backtick]
  else '"' :: doubled '"' value.toList ++ ['"']

/-- A string literal. -/
def quotedText (engine : Engine) (value : List Char) : List Char :=
  let escaped := if engine = .mysql then doubled '\'' (doubled '\\' value) else doubled '\'' value
  '\'' :: escaped ++ ['\'']

/-- A string literal of a value. -/
def quotedValue (platform : Platform) (engine : Engine) : Json → List Char
  | .str text => quotedText engine text.toList
  | value => quotedText engine (platform.jsonText value).toList

/-- The value of a hexadecimal digit. -/
def hexDigitValue (c : Char) : Option Nat :=
  if '0' ≤ c ∧ c ≤ '9' then some (c.toNat - '0'.toNat)
  else if 'a' ≤ c ∧ c ≤ 'f' then some (c.toNat - 'a'.toNat + 10)
  else if 'A' ≤ c ∧ c ≤ 'F' then some (c.toNat - 'A'.toNat + 10)
  else none

/-- `hex::decode`. -/
def hexDecode : List Char → Option (List UInt8)
  | [] => some []
  | [_] => none
  | high :: low :: rest => do
    let high ← hexDigitValue high
    let low ← hexDigitValue low
    let bytes ← hexDecode rest
    some (UInt8.ofNat (16 * high + low) :: bytes)

/-- The digits of a binary value after its prefix. -/
def binaryDigits : List Char → Option (List Char)
  | '\\' :: 'x' :: hex => some hex
  | '0' :: 'x' :: hex => some hex
  | _ => none

/-- The literal of a boolean. -/
def booleanLiteral : Json → Except String (List Char)
  | .bool value => .ok (if value then "TRUE" else "FALSE").toList
  | .int 1 => .ok "TRUE".toList
  | .int 0 => .ok "FALSE".toList
  | .str text =>
    let word := String.ofList ((trim text.toList).map Char.toLower)
    if word ∈ ["true", "t", "1", "yes", "y"] then .ok "TRUE".toList
    else if word ∈ ["false", "f", "0", "no", "n"] then .ok "FALSE".toList
    else .error "boolean value must be true/false or 1/0"
  -- A number that is neither 0 nor 1 falls through its guards to the last arm.
  | _ => .error "boolean value has an unsupported shape"

/-- The literal of a number, which may come as a text. -/
def numericLiteral (engine : Engine) : Json → Except String (List Char)
  | .int n => .ok (numberText (.int n))
  | .float text => .ok (numberText (.float text))
  | .str text => .ok (quotedText engine text.toList)
  | _ => .error "numeric value must be a number or numeric string"

/-- The literal of bytes, which come as a hexadecimal text. -/
def binaryLiteral (engine : Engine) : Json → Except String (List Char)
  | .str text =>
    match binaryDigits text.toList with
    | none => .error "binary value must use a \\\\x hexadecimal prefix"
    | some hex =>
      if (hexDecode hex).isNone then .error "binary value contains invalid hexadecimal data"
      else if engine = .postgres then .ok ("decode('".toList ++ hex ++ "', 'hex')".toList)
      else .ok ("X'".toList ++ hex ++ "'".toList)
  | _ => .error "binary value must be a hexadecimal string"

/-- The literal of a value of no known family. -/
def otherLiteral (platform : Platform) (engine : Engine) : Json → List Char
  | .null => "NULL".toList
  | .bool value => (if value then "TRUE" else "FALSE").toList
  | .int n => numberText (.int n)
  | .float text => numberText (.float text)
  | .str text => quotedText engine text.toList
  | value => quotedText engine (platform.jsonText value).toList

mutual
/-- The literal of an array, with the arrays in it. -/
def arrayLiteral (platform : Platform) (engine : Engine) : Json → List Char
  | .arr values =>
    "ARRAY[".toList ++ ", ".toList.intercalate (elementLiterals platform engine values) ++
      "]".toList
  | value => quotedValue platform engine value

/-- The literals of the elements of an array. -/
def elementLiterals (platform : Platform) (engine : Engine) : List Json → List (List Char)
  | [] => []
  | .arr values :: rest =>
    arrayLiteral platform engine (.arr values) :: elementLiterals platform engine rest
  | value :: rest => otherLiteral platform engine value :: elementLiterals platform engine rest
end

/-- The SQL literal of a value in a column of a type family. -/
def typedSqlLiteral (platform : Platform) (engine : Engine) (family : NormalizedTypeFamily)
    (value : Json) : Except String (List Char) :=
  if value = .null then .ok "NULL".toList
  else match family with
  | .boolean => booleanLiteral value
  | .integer | .decimal | .float => numericLiteral engine value
  | .binary => binaryLiteral engine value
  | .array =>
    .ok (if engine = .postgres then arrayLiteral platform engine value
      else quotedValue platform engine value)
  | .json | .document | .text | .date | .time | .timestamp | .uuid =>
    .ok (quotedValue platform engine value)
  | .other => .ok (otherLiteral platform engine value)

/-- The INSERT statement of a row, without its end. -/
def insertStatement (tableSql : List Char) (columns literals : List (List Char)) : List Char :=
  "INSERT INTO ".toList ++ tableSql ++ " (".toList ++ ", ".toList.intercalate columns ++
    ") VALUES (".toList ++ ", ".toList.intercalate literals ++ ")".toList

/-- The literals of a row. A column without a known family is of family `other`. -/
def rowLiterals (platform : Platform) (engine : Engine) (families : List NormalizedTypeFamily)
    (values : Row) : Except String (List (List Char)) :=
  values.zipIdx.mapM fun (value, index) =>
    typedSqlLiteral platform engine (families.getD index .other) value

/-- The INSERT statement of an exported row. -/
def writeInsert (platform : Platform) (engine : Engine) (tableSql : List Char)
    (columns : List String) (families : List NormalizedTypeFamily) (values : Row) :
    Except AppError (List Char) :=
  match rowLiterals platform engine families values with
  | .error message => .error (.config message)
  | .ok literals =>
    .ok (insertStatement tableSql (columns.map (quoteIdentifier engine)) literals ++ ";\n".toList)

end Dopedb.Jobs
