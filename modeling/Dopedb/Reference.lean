import Dopedb.Library.JsonText
import Dopedb.Library.Sha256
import Dopedb.Platform

/-!
# A reference platform

Executable stand-ins for the library functions of `Platform`: SHA-256, the compact JSON texts of
`serde_json` with their reader, and RFC 3339 time stamps. The theorems about runs are
instantiated with them.
-/

namespace Dopedb.Reference

open Library

/-- The UTF-8 bytes of a text. -/
def utf8 (text : String) : List Nat :=
  text.toUTF8.data.toList.foldr (fun byte rest => Sha256.force byte.toNat fun n => n :: rest) []

/-- Decode UTF-8. -/
def decodeUtf8 : List Nat → List Char
  | [] => []
  | a :: rest =>
    if a < 192 then Sha256.force a fun a => Char.ofNat a :: decodeUtf8 rest
    else match rest with
    | [] => []
    | b :: rest =>
      if a < 224 then Char.ofNat ((a - 192) * 64 + (b - 128)) :: decodeUtf8 rest
      else match rest with
      | [] => []
      | c :: rest =>
        if a < 240 then
          Char.ofNat (((a - 224) * 64 + (b - 128)) * 64 + (c - 128)) :: decodeUtf8 rest
        else match rest with
        | [] => []
        | d :: rest =>
          Char.ofNat ((((a - 240) * 64 + (b - 128)) * 64 + (c - 128)) * 64 + (d - 128)) ::
            decodeUtf8 rest

/-- The characters of a text, decoded from its bytes. -/
def characters (text : String) : List Char := decodeUtf8 (utf8 text)

example : characters "aä€🜁z" = ['a', 'ä', '€', '🜁', 'z'] := by decide

/-- SHA-256 of a text. -/
def sha256 (text : String) : Digest := Sha256.digest (utf8 text)

example : lowerHex (sha256 "abc") =
    "ba7816bf8f01cfea414140de5dae2223b00361a396177a9cb410ff61f20015ad" := by decide

/-! ## JSON texts -/

/-- The text of a JSON string. -/
def stringText (text : String) : List Char :=
  ['"'] ++ (characters text).flatMap (fun c => Sha256.force c.toNat fun code =>
    escapeChar (Char.ofNat code)) ++ ['"']

mutual
/-- The compact text of a document. -/
def jsonChars : Json → List Char
  | .null => ['n', 'u', 'l', 'l']
  | .bool true => ['t', 'r', 'u', 'e']
  | .bool false => ['f', 'a', 'l', 's', 'e']
  | .int n => (toString n).toList
  | .float text => characters text
  | .str text => stringText text
  | .arr items => ['['] ++ itemChars items ++ [']']
  | .obj fields => ['\x7b'] ++ fieldChars fields ++ ['\x7d']

/-- The texts of the items of an array, with commas between them. -/
def itemChars : List Json → List Char
  | [] => []
  | [v] => jsonChars v
  | v :: rest => jsonChars v ++ [','] ++ itemChars rest

/-- The texts of the members of an object, with commas between them. -/
def fieldChars : List (String × Json) → List Char
  | [] => []
  | [(k, v)] => stringText k ++ [':'] ++ jsonChars v
  | (k, v) :: rest => stringText k ++ [':'] ++ jsonChars v ++ [','] ++ fieldChars rest
end

/-- The bytes of a list of characters, as an array without growth. -/
theorem utf8_bytes_eq (chars : List Char) :
    (⟨⟨chars.flatMap String.utf8EncodeChar⟩⟩ : ByteArray) = chars.utf8Encode := by
  refine ByteArray.ext (Array.toList_inj.mp ?_)
  rw [List.utf8Encode, List.data_toByteArray]

/-- `String.ofList`, in a form whose bytes the kernel reads in linear time. -/
def textOf (chars : List Char) : String :=
  ⟨⟨⟨chars.flatMap String.utf8EncodeChar⟩⟩, ⟨chars, utf8_bytes_eq chars⟩⟩

/-- The compact text of a document. -/
def jsonText (v : Json) : String := textOf (jsonChars v)

/-- Drop the blanks between tokens. -/
def skipBlanks (text : List Char) : List Char :=
  text.dropWhile fun c => c = ' ' || c = '\n' || c = '\r' || c = '\t'

/-- The value of a hexadecimal digit. -/
def hexValue (c : Char) : Option Nat :=
  (HEX.findIdx? fun digit => digit = c.toLower)

/-- The value of four hexadecimal digits. -/
def hexValue4 (a b c d : Char) : Option Nat := do
  pure ((((← hexValue a) * 16 + (← hexValue b)) * 16 + (← hexValue c)) * 16 + (← hexValue d))

/-- The character that a simple escape stands for. -/
def unescapeChar : Char → Option Char
  | '"' => some '"'
  | '\\' => some '\\'
  | '/' => some '/'
  | 'b' => some (Char.ofNat 8)
  | 'f' => some (Char.ofNat 12)
  | 'n' => some '\n'
  | 'r' => some '\r'
  | 't' => some '\t'
  | _ => none

/-- Read the rest of a string after its opening quote. -/
def readString : List Char → Option (List Char × List Char)
  | [] => none
  | '"' :: rest => some ([], rest)
  | '\\' :: 'u' :: a :: b :: c :: d :: rest => do
    let code ← hexValue4 a b c d
    let (text, rest) ← readString rest
    if 0xd800 ≤ code ∧ code ≤ 0xdfff then none else pure (Char.ofNat code :: text, rest)
  | '\\' :: c :: rest => do
    let c ← unescapeChar c
    let (text, rest) ← readString rest
    pure (c :: text, rest)
  | c :: rest => do
    let (text, rest) ← readString rest
    if c.toNat < 32 then none else pure (c :: text, rest)

/-- The characters of a number. -/
def isNumberChar (c : Char) : Bool :=
  c.isDigit || c = '-' || c = '+' || c = '.' || c = 'e' || c = 'E'

/-- Read a number: digits with an optional sign are an integer, other texts keep their form. -/
def readNumber (text : List Char) : Option Json :=
  let digits := text.dropWhile fun c => c = '-'
  if digits = [] then none
  else if digits.all Char.isDigit then
    let value : Nat := digits.foldl (fun n c => n * 10 + (c.toNat - 48)) 0
    some (.int (if digits.length < text.length then -(value : Int) else value))
  else some (.float (String.ofList text))

mutual
/-- Read one document and return the rest of the text. The fuel bounds the nesting and the number
of items. -/
def readValue : Nat → List Char → Option (Json × List Char)
  | 0, _ => none
  | fuel + 1, text =>
    match skipBlanks text with
    | 'n' :: 'u' :: 'l' :: 'l' :: rest => some (.null, rest)
    | 't' :: 'r' :: 'u' :: 'e' :: rest => some (.bool true, rest)
    | 'f' :: 'a' :: 'l' :: 's' :: 'e' :: rest => some (.bool false, rest)
    | '"' :: rest => (readString rest).map fun (text, rest) => (.str (String.ofList text), rest)
    | '[' :: rest =>
      match skipBlanks rest with
      | ']' :: rest => some (.arr [], rest)
      | rest => (readItems fuel rest).map fun (items, rest) => (.arr items, rest)
    | '\x7b' :: rest =>
      match skipBlanks rest with
      | '\x7d' :: rest => some (.obj [], rest)
      | rest => (readFields fuel rest).map fun (fields, rest) => (.obj fields, rest)
    | text => (readNumber (text.takeWhile isNumberChar)).map fun v =>
        (v, text.dropWhile isNumberChar)

/-- Read the items of an array up to its closing bracket. -/
def readItems : Nat → List Char → Option (List Json × List Char)
  | 0, _ => none
  | fuel + 1, text => do
    let (v, rest) ← readValue fuel text
    match skipBlanks rest with
    | ',' :: rest => (readItems fuel rest).map fun (items, rest) => (v :: items, rest)
    | ']' :: rest => pure ([v], rest)
    | _ => none

/-- Read the members of an object up to its closing brace. -/
def readFields : Nat → List Char → Option (List (String × Json) × List Char)
  | 0, _ => none
  | fuel + 1, text => do
    let '"' :: rest := skipBlanks text | none
    let (key, rest) ← readString rest
    let ':' :: rest := skipBlanks rest | none
    let (v, rest) ← readValue fuel rest
    match skipBlanks rest with
    | ',' :: rest => (readFields fuel rest).map fun (fields, rest) =>
        ((String.ofList key, v) :: fields, rest)
    | '\x7d' :: rest => pure ([(String.ofList key, v)], rest)
    | _ => none
end

/-- Read a whole text as one document. -/
def jsonRead (text : String) : Option Json := do
  let chars := characters text
  let (v, rest) ← readValue (chars.length + 1) chars
  if skipBlanks rest = [] then pure v else none

/-! ## Time stamps -/

/-- The decimal digits of a number, padded with zeros. -/
def zeroPadded (width n : Nat) : List Char :=
  let digits := (toString n).toList
  List.replicate (width - digits.length) '0' ++ digits

/-- Year, month and day of a number of days after 1970-01-01. -/
def civil (days : Int) : Int × Nat × Nat :=
  let shifted := days + 719468
  let era := shifted.fdiv 146097
  let dayOfEra := (shifted - era * 146097).toNat
  let yearOfEra := (dayOfEra - dayOfEra / 1460 + dayOfEra / 36524 - dayOfEra / 146096) / 365
  let dayOfYear := dayOfEra - (365 * yearOfEra + yearOfEra / 4 - yearOfEra / 100)
  let shiftedMonth := (5 * dayOfYear + 2) / 153
  let day := dayOfYear - (153 * shiftedMonth + 2) / 5 + 1
  let month := if shiftedMonth < 10 then shiftedMonth + 3 else shiftedMonth - 9
  let year := (yearOfEra : Int) + era * 400
  (if month ≤ 2 then year + 1 else year, month, day)

/-- The characters of a year: four digits, or a sign and at least five characters. -/
def yearChars (year : Int) : List Char :=
  if 0 ≤ year ∧ year ≤ 9999 then zeroPadded 4 year.toNat
  else (if year < 0 then '-' else '+') :: zeroPadded 4 year.natAbs

/-- Date and time of day of an instant, and the nanoseconds after it. -/
def dateTimeChars (instant : DateTime) : List Char × Nat :=
  let seconds := instant.fdiv 1000000000
  let days := seconds.fdiv 86400
  let secondOfDay := (seconds - days * 86400).toNat
  let (year, month, day) := civil days
  (yearChars year ++ ['-'] ++ zeroPadded 2 month ++ ['-'] ++ zeroPadded 2 day ++ ['T'] ++
    zeroPadded 2 (secondOfDay / 3600) ++ [':'] ++ zeroPadded 2 (secondOfDay / 60 % 60) ++ [':'] ++
    zeroPadded 2 (secondOfDay % 60), (instant - seconds * 1000000000).toNat)

/-- RFC 3339 in UTC with nanoseconds and a `Z`. -/
def rfc3339 (instant : DateTime) : String :=
  let (chars, nanos) := dateTimeChars instant
  textOf (chars ++ ['.'] ++ zeroPadded 9 nanos ++ ['Z'])

/-- RFC 3339 with as many digits after the second as are needed, in groups of three, and the
offset of UTC. -/
def toRfc3339 (instant : DateTime) : String :=
  let (chars, nanos) := dateTimeChars instant
  let fraction :=
    if nanos = 0 then []
    else if nanos % 1000000 = 0 then '.' :: zeroPadded 3 (nanos / 1000000)
    else if nanos % 1000 = 0 then '.' :: zeroPadded 6 (nanos / 1000)
    else '.' :: zeroPadded 9 nanos
  textOf (chars ++ fraction ++ ['+', '0', '0', ':', '0', '0'])

example : rfc3339 1709210096000000007 = "2024-02-29T12:34:56.000000007Z" := by decide

example : toRfc3339 1709210096120000000 = "2024-02-29T12:34:56.120+00:00" := by decide

/-- The text of a time stamp in JSON: as many digits after the second as are needed, and a `Z`. -/
def instantText (instant : DateTime) : String :=
  let (chars, nanos) := dateTimeChars instant
  let fraction :=
    if nanos = 0 then []
    else if nanos % 1000000 = 0 then '.' :: zeroPadded 3 (nanos / 1000000)
    else if nanos % 1000 = 0 then '.' :: zeroPadded 6 (nanos / 1000)
    else '.' :: zeroPadded 9 nanos
  textOf (chars ++ fraction ++ ['Z'])

/-- The number of days from 1970-01-01 to a date. -/
def daysFromCivil (year : Int) (month day : Nat) : Int :=
  let year := if month ≤ 2 then year - 1 else year
  let era := year.fdiv 400
  let yearOfEra := (year - era * 400).toNat
  let shiftedMonth := if month ≤ 2 then month + 9 else month - 3
  let dayOfYear := (153 * shiftedMonth + 2) / 5 + day - 1
  let dayOfEra := yearOfEra * 365 + yearOfEra / 4 - yearOfEra / 100 + dayOfYear
  era * 146097 + dayOfEra - 719468

/-- The value of a nonempty list of digits. -/
def readDigits (digits : List Char) : Option Nat :=
  if digits ≠ [] ∧ digits.all Char.isDigit then
    some (digits.foldl (fun n c => n * 10 + (c.toNat - 48)) 0)
  else none

/-- Read the nanoseconds and the `Z` after the second. -/
def readFraction : List Char → Option Nat
  | ['Z'] => some 0
  | '.' :: rest =>
      let digits := rest.dropLast
      if rest.getLast? = some 'Z' ∧ digits.length ≤ 9 then
        (readDigits digits).map (· * 10 ^ (9 - digits.length))
      else none
  | _ => none

/-- Read an RFC 3339 time stamp in UTC with a four-digit year. -/
def instantRead (text : String) : Option DateTime := do
  let chars := characters text
  let field (start length : Nat) : Option Nat := readDigits ((chars.drop start).take length)
  let separators := [4, 7, 10, 13, 16].map fun i => chars[i]?
  if separators ≠ [some '-', some '-', some 'T', some ':', some ':'] then none
  let days := daysFromCivil (← field 0 4) (← field 5 2) (← field 8 2)
  let seconds := days * 86400 + (← field 11 2) * 3600 + (← field 14 2) * 60 + (← field 17 2)
  let nanos ← readFraction (chars.drop 19)
  pure (seconds * 1000000000 + nanos)

example : instantRead "2024-02-29T12:34:56.120Z" = some 1709210096120000000 := by decide

/-- Read a hyphenated UUID. -/
def uuidRead (text : String) : Option Uuid :=
  let chars := characters text
  let wellFormed := chars.zipIdx.all fun (c, i) =>
    if [8, 13, 18, 23].contains i then c = '-' else (hexValue c).isSome
  if chars.length = 36 ∧ wellFormed then some ⟨textOf (chars.map Char.toLower)⟩ else none

/-- The reference platform. -/
def platform : Platform := ⟨sha256, jsonText, jsonRead, rfc3339, toRfc3339⟩

end Dopedb.Reference
