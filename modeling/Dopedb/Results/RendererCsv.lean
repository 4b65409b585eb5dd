import Dopedb.Results.CsvText

/-!
# The renderer's CSV text

`sqlBuild.ts`: `toCsv` over the values that the renderer reads from the JSON of a page, with
JavaScript's own text of numbers and of JSON.
-/

namespace Dopedb.Results

open Library

/-- A value of the renderer. The properties of an object are in the order in which they are
listed. -/
inductive JsValue where
  | null
  | boolean (flag : Bool)
  | number (value : Double)
  | string (text : List Char)
  | array (items : List JsValue)
  | object (properties : List (List Char × JsValue))

/-! ## Numbers -/

/-- The largest absolute value up to which every integer is a double. -/
def JS_MAX_SAFE_INT : Nat := 2 ^ 53

/-- The digits of a number without the zeros at their end. -/
def significantDigits (n : Nat) : List Char := (n.repr.toList.reverse.dropWhile (· = '0')).reverse

/-- A positive number has a digit other than zero. -/
theorem exists_significant_digit {n : Nat} (h : 0 < n) : ∃ c ∈ n.repr.toList, c ≠ '0' := by
  induction n using Nat.strongRecOn with
  | ind n ih =>
      by_cases hsmall : n < 10
      · rw [Nat.repr_of_lt hsmall]
        interval_cases n
        all_goals simp
      · obtain ⟨c, hc, hne⟩ := ih (n / 10) (by omega) (by omega)
        rw [Nat.repr_eq_repr_append_repr (by omega)]
        exact ⟨c, by rw [String.toList_append]; exact List.mem_append_left _ hc, hne⟩

/-- The zeros at the end of the digits. -/
theorem significant_digits_append (n : Nat) :
    ∃ zeros, n.repr.toList = significantDigits n ++ List.replicate zeros '0' := by
  refine ⟨(n.repr.toList.reverse.takeWhile (· = '0')).length, ?_⟩
  have hzeros : (n.repr.toList.reverse.takeWhile (· = '0')) =
      List.replicate (n.repr.toList.reverse.takeWhile (· = '0')).length '0' := by
    rw [List.eq_replicate_iff]
    exact ⟨rfl, fun c hc => by simpa using List.mem_takeWhile_imp hc⟩
  unfold significantDigits
  rw [← List.reverse_replicate, ← hzeros, ← List.reverse_append, List.takeWhile_append_dropWhile,
    List.reverse_reverse]

/-- A positive number has significant digits. -/
theorem significant_digits_ne_nil {n : Nat} (h : 0 < n) : significantDigits n ≠ [] := by
  intro hnil
  obtain ⟨zeros, hdigits⟩ := significant_digits_append n
  obtain ⟨c, hc, hne⟩ := exists_significant_digit h
  rw [hnil, List.nil_append] at hdigits
  rw [hdigits] at hc
  exact hne (List.eq_of_mem_replicate hc)

/-- The double of an integer that is a double. -/
def Double.ofInt (n : Int) : Double :=
  if h : n = 0 then .zero false
  else .finite {
    negative := n < 0
    digits := significantDigits n.natAbs
    point := n.natAbs.repr.toList.length
    isDigits := by
      intro c hc
      obtain ⟨zeros, hdigits⟩ := significant_digits_append n.natAbs
      exact digit_of_mem_repr (hdigits ▸ List.mem_append_left _ hc)
    nonempty := significant_digits_ne_nil (Int.natAbs_pos.mpr h) }

/-- `Number::toString` with radix ten. -/
def numberToString : Double → List Char
  | .nan => "NaN".toList
  | .zero _ => "0".toList
  | .infinite negative => (if negative then "-Infinity" else "Infinity").toList
  | .finite value =>
    let n := value.point
    let k : Int := value.digits.length
    let absolute :=
      if -5 ≤ n ∧ n ≤ 21 then
        if k ≤ n then value.digits ++ List.replicate (n - k).toNat '0'
        else if 0 < n then value.digits.take n.toNat ++ '.' :: value.digits.drop n.toNat
        else "0.".toList ++ List.replicate (-n).toNat '0' ++ value.digits
      else
        let e := n - 1
        let exponent := (if e < 0 then '-' else '+') :: e.natAbs.repr.toList
        if k = 1 then value.digits ++ 'e' :: exponent
        else value.digits.take 1 ++ '.' :: value.digits.drop 1 ++ 'e' :: exponent
    if value.negative then '-' :: absolute else absolute

/-! ## JSON -/

/-- The array index that a key is. -/
def arrayIndex (key : String) : Option Nat :=
  match key.toNat? with
  | none => none
  | some index => if index.repr = key ∧ index < 2 ^ 32 - 1 then some index else none

/-- The order in which an object lists its properties: array indices first, in their order. -/
def propertyOrder {α : Type} (entries : List (String × α)) : List (String × α) :=
  (entries.filter fun entry => (arrayIndex entry.1).isSome).insertionSort
      (fun a b => (arrayIndex a.1).getD 0 ≤ (arrayIndex b.1).getD 0) ++
    entries.filter fun entry => (arrayIndex entry.1).isNone

section Parse

variable (jsNumber : String → Double) (nearest : Int → Double)

mutual
/-- `JSON.parse`, with the double that it reads a float text as and the nearest double of an integer
that is none. -/
def JsValue.ofJson : Json → JsValue
  | .null => .null
  | .bool flag => .boolean flag
  | .int n => .number (if n.natAbs ≤ JS_MAX_SAFE_INT then Double.ofInt n else nearest n)
  | .float text => .number (jsNumber text)
  | .str text => .string text.toList
  | .arr items => .array (JsValue.ofItems items)
  | .obj entries =>
    .object ((propertyOrder (JsValue.ofEntries entries)).map fun entry => (entry.1.toList, entry.2))

/-- The items of an array. -/
def JsValue.ofItems : List Json → List JsValue
  | [] => []
  | item :: rest => JsValue.ofJson item :: JsValue.ofItems rest

/-- The properties of an object, in the order in which they are written. -/
def JsValue.ofEntries : List (String × Json) → List (String × JsValue)
  | [] => []
  | (key, item) :: rest => (key, JsValue.ofJson item) :: JsValue.ofEntries rest
end

end Parse

mutual
/-- `JSON.stringify`. -/
def stringify : JsValue → List Char
  | .null => "null".toList
  | .boolean flag => (if flag then "true" else "false").toList
  | .number value => numberToString value
  | .string text => renderString (String.ofList text)
  | .array items => '[' :: [','].intercalate (stringifyItems items) ++ [']']
  | .object properties => '\x7b' :: [','].intercalate (stringifyProperties properties) ++ ['\x7d']

/-- The texts of the items of an array. -/
def stringifyItems : List JsValue → List (List Char)
  | [] => []
  | item :: rest => stringify item :: stringifyItems rest

/-- The texts of the properties of an object. -/
def stringifyProperties : List (List Char × JsValue) → List (List Char)
  | [] => []
  | (key, value) :: rest =>
    (renderString (String.ofList key) ++ ':' :: stringify value) :: stringifyProperties rest
end

/-! ## Fields -/

/-- `INERT_VALUE` of the renderer. -/
def RENDERER_INERT_VALUE : Regex :=
  .any [
    .all [.optional (.any [.char '+', .char '-']),
      .any [.all [.plus digit, .optional (.all [.char '.', .star digit])],
        .all [.char '.', .plus digit]],
      .optional (.all [.any [.char 'e', .char 'E'], .optional (.any [.char '+', .char '-']),
        .plus digit])],
    .all [.optional (.any [.char '+', .char '-']), .any [.char 'I', .char 'i'], .text "nfinity"],
    .all [.optional (.char '-'), .plus digit, .char ' ', intervalUnit,
      .star (.all [.char ' ', .optional (.any [.char '+', .char '-']), .plus digit, .char ' ',
        intervalUnit]),
      .optional (.all [.char ' ', .optional (.any [.char '+', .char '-']), clock])],
    .all [.optional (.char '-'), clock]]

/-- `spreadsheetSafeText`. -/
def spreadsheetSafeText (text : List Char) : List Char :=
  if text.head?.any (· ∈ ['=', '+', '-', '@', '\t', '\r']) && !RENDERER_INERT_VALUE.accepts text
  then '\'' :: text
  else text

/-- A text in quotes when it needs them. -/
def quoteField (text : List Char) : List Char :=
  if text.any (· ∈ ['"', ',', '\n', '\r']) then
    '"' :: text.flatMap (fun c => if c = '"' then ['"', '"'] else [c]) ++ ['"']
  else text

/-- `escapeCsvField`. -/
def escapeCsvField : JsValue → List Char
  | .null => []
  | .string text => quoteField (spreadsheetSafeText text)
  | .boolean flag => quoteField (if flag then "true" else "false").toList
  | .number value => quoteField (numberToString value)
  | .array items => quoteField (stringify (.array items))
  | .object properties => quoteField (stringify (.object properties))

/-- `toCsv`. -/
def toCsv (columns : List String) (rows : List (List JsValue)) : List Char :=
  let head := [','].intercalate (columns.map fun column => escapeCsvField (.string column.toList))
  let body := ['\r', '\n'].intercalate (rows.map fun row => [','].intercalate (row.map escapeCsvField))
  if body = [] then head else head ++ '\r' :: '\n' :: body

/-- `csvExportText`. -/
def csvExportText (columns : List String) (rows : List (List JsValue)) : List Char :=
  Char.ofNat 0xfeff :: toCsv columns rows

end Dopedb.Results
