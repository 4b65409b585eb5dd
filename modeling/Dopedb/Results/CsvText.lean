import Dopedb.Library.JsonText
import Dopedb.Library.Regex

/-!
# The text of an exported result file

`desktop_result_files.rs`: the fields of a CSV record, JavaScript's text of a number, and compact
JSON. The decimal digits of a double are those that both the standard library of Rust and
JavaScript render, so a double is known by them.
-/

namespace Dopedb.Results

open Library

/-- The shortest decimal that reads back as a double: `0.digits · 10 ^ point`. -/
structure Decimal where
  negative : Bool
  digits : List Char
  point : Int
  isDigits : ∀ c ∈ digits, c.isDigit = true
  nonempty : digits ≠ []

/-- A double. -/
inductive Double where
  | nan
  | infinite (negative : Bool)
  | zero (negative : Bool)
  | finite (value : Decimal)

/-- The text of an integer. -/
def integerText (n : Int) : List Char := n.repr.toList

/-! ## Numbers -/

/-- The text `{:e}` of the absolute value: one digit, the others behind a point, the exponent. -/
def lowerExp (value : Decimal) : List Char :=
  value.digits.take 1 ++ (if value.digits.drop 1 = [] then [] else '.' :: value.digits.drop 1) ++
    'e' :: integerText (value.point - 1)

/-- `split_once`. -/
def splitOnce (separator : Char) (text : List Char) : Option (List Char × List Char) :=
  if separator ∈ text then
    some (text.takeWhile (· ≠ separator), (text.dropWhile (· ≠ separator)).drop 1)
  else none

/-- `js_float_text`. -/
def jsFloatText : Double → List Char
  | .nan => "NaN".toList
  | .zero _ => "0".toList
  | .infinite false => "Infinity".toList
  | .infinite true => "-Infinity".toList
  | .finite value =>
    let scientific := lowerExp value
    let (mantissa, exponent) := (splitOnce 'e' scientific).getD (scientific, ['0'])
    let digits := mantissa.filter (· ≠ '.')
    let point := (String.ofList exponent).toInt?.getD 0 + 1
    let length : Int := digits.length
    let sign := if value.negative then ['-'] else []
    let body :=
      if length ≤ point ∧ point ≤ 21 then digits ++ List.replicate (point - length).toNat '0'
      else if 0 < point ∧ point ≤ 21 then
        digits.take point.toNat ++ '.' :: digits.drop point.toNat
      else if -6 < point ∧ point ≤ 0 then
        '0' :: '.' :: List.replicate (-point).toNat '0' ++ digits
      else
        let exponent := point - 1
        let exponentSign := if exponent < 0 then '-' else '+'
        if digits.drop 1 = [] then
          digits.take 1 ++ 'e' :: exponentSign :: exponent.natAbs.repr.toList
        else
          digits.take 1 ++ '.' :: digits.drop 1 ++
            'e' :: exponentSign :: exponent.natAbs.repr.toList
    sign ++ body

section Values

-- The double that serde_json reads a float text as: rows are read back from the stored pages.
variable (serdeNumber : String → Double)

/-! ## JSON -/

mutual
/-- `js_json_text`. -/
def jsJsonText : Json → List Char
  | .null => "null".toList
  | .bool flag => (if flag then "true" else "false").toList
  | .int n => integerText n
  | .float text => jsFloatText (serdeNumber text)
  | .str text => renderString text
  | .arr items => '[' :: [','].intercalate (jsItemTexts items) ++ [']']
  | .obj entries => '\x7b' :: [','].intercalate (jsEntryTexts entries) ++ ['\x7d']

/-- The texts of the items of an array. -/
def jsItemTexts : List Json → List (List Char)
  | [] => []
  | item :: rest => jsJsonText item :: jsItemTexts rest

/-- The texts of the entries of an object. -/
def jsEntryTexts : List (String × Json) → List (List Char)
  | [] => []
  | (key, item) :: rest => (renderString key ++ ':' :: jsJsonText item) :: jsEntryTexts rest
end

/-! ## Fields -/

/-- A digit. -/
def digit : Regex := .range '0' '9'

/-- A sign that may be there. -/
def optionalSign : Regex := .optional (.any [.char '+', .char '-'])

/-- A unit of an interval. -/
def intervalUnit : Regex :=
  .any [.all [.text "year", .optional (.char 's')], .all [.text "mon", .optional (.char 's')],
    .all [.text "day", .optional (.char 's')]]

/-- A time with seconds. -/
def clock : Regex :=
  .all [.plus digit, .char ':', digit, digit, .char ':', digit, digit,
    .optional (.all [.char '.', .plus digit])]

/-- The pattern of `inert_value`. -/
def INERT_VALUE : Regex :=
  .any [
    .all [optionalSign,
      .any [.all [.plus digit, .optional (.all [.char '.', .star digit])],
        .all [.char '.', .plus digit]],
      .optional (.all [.any [.char 'e', .char 'E'], optionalSign, .plus digit])],
    .all [optionalSign, .any [.char 'I', .char 'i'], .text "nfinity"],
    .all [.optional (.char '-'), .plus digit, .char ' ', intervalUnit,
      .star (.all [.char ' ', optionalSign, .plus digit, .char ' ', intervalUnit]),
      .optional (.all [.char ' ', optionalSign, clock])],
    .all [.optional (.char '-'), clock]]

/-- `inert_value`. -/
def inertValue (text : List Char) : Bool := INERT_VALUE.accepts text

/-- `csv_text`. -/
def csvText (text : List Char) (neutralize : Bool) : List Char :=
  let formula := neutralize && text.head?.any (· ∈ ['=', '+', '-', '@', '\t', '\r']) &&
    !inertValue text
  let quote := text.any (· ∈ ['"', ',', '\n', '\r'])
  (if quote then ['"'] else []) ++ (if formula then ['\''] else []) ++
    if quote then text.flatMap (fun c => if c = '"' then ['"', '"'] else [c]) ++ ['"'] else text

/-- `csv_cell`. -/
def csvCell : Json → List Char
  | .null => []
  | .str text => csvText text.toList true
  | .int n => integerText n
  | .float text => jsFloatText (serdeNumber text)
  | .bool flag => (if flag then "true" else "false").toList
  | .arr items => csvText (jsJsonText serdeNumber (.arr items)) false
  | .obj entries => csvText (jsJsonText serdeNumber (.obj entries)) false

/-- `write_csv_record`. -/
def writeCsvRecord (writer : List Char) (fields : List (List Char)) : List Char :=
  writer ++ [','].intercalate fields

/-- What a CSV file begins with: the mark of UTF-8 and the names of the columns. -/
def csvHead (columns : List String) : List Char :=
  writeCsvRecord [Char.ofNat 0xfeff] (columns.map fun column => csvText column.toList true)

/-- A row of a CSV file. -/
def writeCsvRow (writer : List Char) (row : List Json) : List Char :=
  writeCsvRecord (writer ++ ['\r', '\n']) (row.map (csvCell serdeNumber))

/-- The text of a CSV file with the rows of its pages. -/
def writeCsv (columns : List String) (pages : List (List (List Json))) : List Char :=
  pages.foldl (fun writer rows => rows.foldl (writeCsvRow serdeNumber) writer) (csvHead columns)

end Values

end Dopedb.Results
