import Dopedb.Results.RendererCsv

/-!
# Two writers of one CSV text

The durable export writes what the renderer's download holds, the mark of UTF-8 included, for values
that JavaScript reads as they are written: integers that are doubles, objects whose properties it
lists in their order, and floats that it reads as serde_json does, which need not find the nearest
double. The renderer leaves out a single record without any character.
-/

namespace Dopedb.Results

open Library

/-! ## Numbers -/

/-- The mantissa of `{:e}`. -/
def mantissaText (value : Decimal) : List Char :=
  value.digits.take 1 ++ (if value.digits.drop 1 = [] then [] else '.' :: value.digits.drop 1)

/-- A digit is neither a point nor the sign of an exponent. -/
theorem digit_ne {c : Char} (h : c.isDigit = true) : c ≠ '.' ∧ c ≠ 'e' := by
  constructor
  · rintro rfl
    exact absurd h (by decide)
  · rintro rfl
    exact absurd h (by decide)

/-- The mantissa has no exponent in it. -/
theorem mem_mantissa {value : Decimal} {c : Char} (h : c ∈ mantissaText value) :
    c.isDigit = true ∨ c = '.' := by
  unfold mantissaText at h
  rcases List.mem_append.mp h with htake | hrest
  · exact .inl (value.isDigits c (List.mem_of_mem_take htake))
  · split at hrest
    · exact absurd hrest List.not_mem_nil
    · rcases List.mem_cons.mp hrest with rfl | hdrop
      · exact .inr rfl
      · exact .inl (value.isDigits c (List.mem_of_mem_drop hdrop))

/-- The digits of the mantissa. -/
theorem filter_mantissa (value : Decimal) :
    (mantissaText value).filter (· ≠ '.') = value.digits := by
  have hdigits : ∀ digits : List Char, (∀ c ∈ digits, c ∈ value.digits) →
      digits.filter (· ≠ '.') = digits := by
    intro digits h
    refine List.filter_eq_self.mpr fun c hc => ?_
    exact decide_eq_true (digit_ne (value.isDigits c (h c hc))).1
  unfold mantissaText
  rw [List.filter_append, hdigits _ fun c hc => List.mem_of_mem_take hc]
  split
  case isTrue hnil =>
      have hsplit := List.take_append_drop 1 value.digits
      rw [hnil] at hsplit
      exact hsplit
  case isFalse =>
      rw [List.filter_cons_of_neg (by simp), hdigits _ fun c hc => List.mem_of_mem_drop hc,
        List.take_append_drop]

/-- The parts of `{:e}`. -/
theorem split_lower_exp (value : Decimal) :
    splitOnce 'e' (lowerExp value) = some (mantissaText value, integerText (value.point - 1)) := by
  have hplain : ∀ c ∈ mantissaText value, decide (c ≠ 'e') = true := by
    intro c hc
    rw [decide_eq_true_iff]
    rcases mem_mantissa hc with hdigit | rfl
    · exact (digit_ne hdigit).2
    · decide
  have htext : lowerExp value = mantissaText value ++ 'e' :: integerText (value.point - 1) := rfl
  unfold splitOnce
  rw [htext, if_pos (List.mem_append_right _ List.mem_cons_self),
    List.takeWhile_append_of_pos hplain, List.dropWhile_append_of_pos hplain,
    List.takeWhile_cons_of_neg (by simp), List.dropWhile_cons_of_neg (by simp), List.append_nil]
  rfl

/-- Rust writes a double as JavaScript does. -/
theorem js_float_text_eq (value : Double) : jsFloatText value = numberToString value := by
  cases value with
  | nan => rfl
  | zero negative => rfl
  | infinite negative => cases negative <;> rfl
  | finite value =>
      have hpoint : (String.ofList (integerText (value.point - 1))).toInt?.getD 0 + 1 =
          value.point := by
        unfold integerText
        rw [String.ofList_toList, Int.toInt?_repr, Option.getD_some]
        omega
      have hone : value.digits.drop 1 = [] ↔ (value.digits.length : Int) = 1 := by
        have hpos := List.length_pos_iff.mpr value.nonempty
        rw [List.drop_eq_nil_iff]
        omega
      have htake : value.digits.drop 1 = [] → value.digits.take 1 = value.digits := by
        intro hnil
        rw [List.take_of_length_le (List.drop_eq_nil_iff.mp hnil)]
      unfold jsFloatText numberToString
      simp only [split_lower_exp, Option.getD_some, filter_mantissa, hpoint]
      have hsign : ∀ text : List Char, (if value.negative = true then ['-'] else []) ++ text =
          if value.negative = true then '-' :: text else text := by
        intro text
        split
        · rfl
        · rfl
      rw [hsign]
      refine congrArg (fun text => if value.negative = true then '-' :: text else text) ?_
      have hexponent : ∀ exponent : List Char,
          (if value.digits.drop 1 = [] then value.digits.take 1 ++ 'e' :: exponent
            else value.digits.take 1 ++ '.' :: value.digits.drop 1 ++ 'e' :: exponent) =
          if (value.digits.length : Int) = 1 then value.digits ++ 'e' :: exponent
            else value.digits.take 1 ++ '.' :: value.digits.drop 1 ++ 'e' :: exponent := by
        intro exponent
        by_cases hsingle : (value.digits.length : Int) = 1
        · rw [if_pos (hone.mpr hsingle), if_pos hsingle, htake (hone.mpr hsingle)]
        · rw [if_neg fun h => hsingle (hone.mp h), if_neg hsingle]
      -- both programs change the notation at the same places of the decimal point
      by_cases hhigh : value.point ≤ 21
      · by_cases hwhole : (value.digits.length : Int) ≤ value.point
        · rw [if_pos ⟨hwhole, hhigh⟩, if_pos ⟨by omega, hhigh⟩, if_pos hwhole]
        · rw [if_neg fun h => hwhole h.1]
          by_cases hpositive : 0 < value.point
          · rw [if_pos ⟨hpositive, hhigh⟩, if_pos ⟨by omega, hhigh⟩, if_neg hwhole,
              if_pos hpositive]
          · rw [if_neg fun h => hpositive h.1]
            by_cases hlow : -6 < value.point
            · rw [if_pos ⟨hlow, by omega⟩, if_pos ⟨by omega, hhigh⟩, if_neg hwhole,
                if_neg hpositive]
              rfl
            · rw [if_neg fun h => hlow h.1, if_neg (by omega : ¬(-5 ≤ value.point ∧ _)), hexponent]
      · rw [if_neg (by omega : ¬((value.digits.length : Int) ≤ value.point ∧ value.point ≤ 21)),
          if_neg (by omega : ¬(0 < value.point ∧ value.point ≤ 21)),
          if_neg (by omega : ¬(-6 < value.point ∧ value.point ≤ 0)),
          if_neg (by omega : ¬(-5 ≤ value.point ∧ value.point ≤ 21)), hexponent]

/-- The double of an integer has the text of the integer. -/
theorem number_to_string_of_int {n : Int} (h : n.natAbs ≤ JS_MAX_SAFE_INT) :
    numberToString (Double.ofInt n) = integerText n := by
  by_cases hzero : n = 0
  · subst hzero
    decide
  · obtain ⟨zeros, hdigits⟩ := significant_digits_append n.natAbs
    have hlength : n.natAbs.repr.toList.length ≤ 16 := by
      rw [Nat.toList_repr]
      refine (Nat.length_toDigits_le_iff (by omega) (by omega)).mpr ?_
      unfold JS_MAX_SAFE_INT at h
      omega
    have hsplit := congrArg List.length hdigits
    rw [List.length_append, List.length_replicate] at hsplit
    unfold Double.ofInt
    rw [dif_neg hzero]
    unfold numberToString
    simp only
    rw [if_pos (by omega : -5 ≤ (n.natAbs.repr.toList.length : Int) ∧
        (n.natAbs.repr.toList.length : Int) ≤ 21),
      if_pos (by omega : ((significantDigits n.natAbs).length : Int) ≤
        n.natAbs.repr.toList.length)]
    have hzeros : ((n.natAbs.repr.toList.length : Int) - (significantDigits n.natAbs).length).toNat =
        zeros := by omega
    rw [hzeros, ← hdigits]
    unfold integerText
    rw [int_repr_to_list]
    by_cases hnegative : n < 0
    · rw [if_pos (decide_eq_true hnegative), if_neg (by omega)]
      congr 3
      omega
    · rw [if_neg (by simpa using hnegative), if_pos (by omega)]
      congr 2
      omega

/-! ## JSON -/

mutual
/-- JavaScript reads the value as it is written: integers are doubles, and objects list their
properties in their order. -/
def readAsWritten : Json → Bool
  | .null => true
  | .bool _ => true
  | .int n => n.natAbs ≤ JS_MAX_SAFE_INT
  | .float _ => true
  | .str _ => true
  | .arr items => itemsAsWritten items
  | .obj entries => decide (propertyOrder entries = entries) && entriesAsWritten entries

/-- The items of an array. -/
def itemsAsWritten : List Json → Bool
  | [] => true
  | item :: rest => readAsWritten item && itemsAsWritten rest

/-- The values of an object. -/
def entriesAsWritten : List (String × Json) → Bool
  | [] => true
  | (_, item) :: rest => readAsWritten item && entriesAsWritten rest
end

mutual
/-- The texts of the floats of a value. -/
def floatTexts : Json → List String
  | .null => []
  | .bool _ => []
  | .int _ => []
  | .float text => [text]
  | .str _ => []
  | .arr items => itemFloatTexts items
  | .obj entries => entryFloatTexts entries

/-- The texts of the floats of the items of an array. -/
def itemFloatTexts : List Json → List String
  | [] => []
  | item :: rest => floatTexts item ++ itemFloatTexts rest

/-- The texts of the floats of the values of an object. -/
def entryFloatTexts : List (String × Json) → List String
  | [] => []
  | (_, item) :: rest => floatTexts item ++ entryFloatTexts rest
end

/-- Two readers of float texts agree on these. -/
def ReadersAgree (serdeNumber jsNumber : String → Double) (texts : List String) : Prop :=
  ∀ text ∈ texts, serdeNumber text = jsNumber text

theorem ReadersAgree.append {serdeNumber jsNumber : String → Double} {texts texts' : List String}
    (h : ReadersAgree serdeNumber jsNumber (texts ++ texts')) :
    ReadersAgree serdeNumber jsNumber texts ∧ ReadersAgree serdeNumber jsNumber texts' :=
  List.forall_mem_append.mp h

/-- The order of the properties depends on the keys. -/
theorem property_order_map {α β : Type} (f : α → β) (entries : List (String × α)) :
    propertyOrder (entries.map fun entry => (entry.1, f entry.2)) =
      (propertyOrder entries).map fun entry => (entry.1, f entry.2) := by
  unfold propertyOrder
  rw [List.map_append, List.filter_map, List.filter_map]
  congr 1
  exact (List.map_insertionSort _ _ (fun entry : String × α => (entry.1, f entry.2)) _
    fun _ _ _ _ => Iff.rfl).symm

section Values

variable {serdeNumber jsNumber : String → Double} {nearest : Int → Double}

/-- The properties of an object are its entries. -/
theorem of_entries_eq_map (entries : List (String × Json)) :
    JsValue.ofEntries jsNumber nearest entries =
      entries.map fun entry => (entry.1, JsValue.ofJson jsNumber nearest entry.2) := by
  induction entries with
  | nil => rfl
  | cons entry rest ih => rw [JsValue.ofEntries, ih, List.map_cons]

/-- An object keeps the order of its properties. -/
theorem of_json_obj {entries : List (String × Json)} (h : propertyOrder entries = entries) :
    JsValue.ofJson jsNumber nearest (.obj entries) = .object
      ((JsValue.ofEntries jsNumber nearest entries).map fun entry =>
        (entry.1.toList, entry.2)) := by
  rw [JsValue.ofJson, of_entries_eq_map, property_order_map, h]

mutual
/-- Both write a value as the same JSON. -/
theorem js_json_text_eq : ∀ value : Json, readAsWritten value = true →
    ReadersAgree serdeNumber jsNumber (floatTexts value) →
    jsJsonText serdeNumber value = stringify (JsValue.ofJson jsNumber nearest value)
  | .null, _, _ => rfl
  | .bool _, _, _ => rfl
  | .int n, h, _ => by
      have hsafe : n.natAbs ≤ JS_MAX_SAFE_INT := of_decide_eq_true h
      rw [jsJsonText, JsValue.ofJson, stringify, if_pos hsafe, number_to_string_of_int hsafe]
  | .float text, _, hfloats => by
      have hsame : serdeNumber text = jsNumber text := hfloats text List.mem_cons_self
      rw [jsJsonText, JsValue.ofJson, stringify, js_float_text_eq, hsame]
  | .str text, _, _ => by
      rw [jsJsonText, JsValue.ofJson, stringify, String.ofList_toList]
  | .arr items, h, hfloats => by
      rw [jsJsonText, JsValue.ofJson, stringify, js_item_texts_eq items h hfloats]
  | .obj entries, h, hfloats => by
      rw [readAsWritten, Bool.and_eq_true, decide_eq_true_iff] at h
      rw [jsJsonText, of_json_obj h.1, stringify, js_entry_texts_eq entries h.2 hfloats]

/-- Both write the items of an array as the same texts. -/
theorem js_item_texts_eq : ∀ items : List Json, itemsAsWritten items = true →
    ReadersAgree serdeNumber jsNumber (itemFloatTexts items) →
    jsItemTexts serdeNumber items = stringifyItems (JsValue.ofItems jsNumber nearest items)
  | [], _, _ => rfl
  | item :: rest, h, hfloats => by
      rw [itemsAsWritten, Bool.and_eq_true] at h
      obtain ⟨hitem, hrest⟩ := ReadersAgree.append hfloats
      rw [jsItemTexts, JsValue.ofItems, stringifyItems, js_json_text_eq item h.1 hitem,
        js_item_texts_eq rest h.2 hrest]

/-- Both write the entries of an object as the same texts. -/
theorem js_entry_texts_eq : ∀ entries : List (String × Json), entriesAsWritten entries = true →
    ReadersAgree serdeNumber jsNumber (entryFloatTexts entries) →
    jsEntryTexts serdeNumber entries = stringifyProperties
      ((JsValue.ofEntries jsNumber nearest entries).map fun entry => (entry.1.toList, entry.2))
  | [], _, _ => rfl
  | (key, item) :: rest, h, hfloats => by
      rw [entriesAsWritten, Bool.and_eq_true] at h
      obtain ⟨hitem, hrest⟩ := ReadersAgree.append hfloats
      rw [jsEntryTexts, JsValue.ofEntries, List.map_cons, stringifyProperties,
        js_json_text_eq item h.1 hitem, js_entry_texts_eq rest h.2 hrest, String.ofList_toList]
end

end Values

/-! ## Fields -/

/-- Both have one pattern of inert values. -/
theorem inert_value_eq (text : List Char) : inertValue text = RENDERER_INERT_VALUE.accepts text :=
  rfl

/-- A text that is not neutralized is quoted. -/
theorem csv_text_plain (text : List Char) : csvText text false = quoteField text := by
  unfold csvText quoteField
  simp only [Bool.false_and]
  split
  · rfl
  · rfl

/-- A text that is neutralized is made safe and quoted. -/
theorem csv_text_safe (text : List Char) :
    csvText text true = quoteField (spreadsheetSafeText text) := by
  have hquote : ∀ text : List Char,
      ('\'' :: text).any (· ∈ ['"', ',', '\n', '\r']) = text.any (· ∈ ['"', ',', '\n', '\r']) :=
    fun _ => rfl
  unfold csvText quoteField spreadsheetSafeText
  simp only [Bool.true_and]
  rw [inert_value_eq]
  by_cases hformula : (text.head?.any (· ∈ ['=', '+', '-', '@', '\t', '\r']) &&
      !RENDERER_INERT_VALUE.accepts text) = true
  · rw [if_pos hformula, if_pos hformula, hquote]
    split
    · rfl
    · rfl
  · rw [if_neg hformula, if_neg hformula]
    split
    · rfl
    · rfl

/-- A text without a character that makes a field be quoted. -/
def Plain (text : List Char) : Prop := ∀ c ∈ text, c ∉ ['"', ',', '\n', '\r']

/-- A text is plain when it is checked to be. -/
theorem plain_of_all {text : List Char}
    (h : text.all (fun c => c ∉ ['"', ',', '\n', '\r']) = true) : Plain text :=
  fun c hc => of_decide_eq_true (List.all_eq_true.mp h c hc)

/-- A plain text is not quoted. -/
theorem quote_field_plain {text : List Char} (h : Plain text) : quoteField text = text := by
  unfold quoteField
  rw [if_neg]
  intro hany
  obtain ⟨c, hc, hspecial⟩ := List.any_eq_true.mp hany
  exact h c hc (of_decide_eq_true hspecial)

/-- Plain texts one after the other. -/
theorem Plain.append {text text' : List Char} (h : Plain text) (h' : Plain text') :
    Plain (text ++ text') := by
  intro c hc
  rcases List.mem_append.mp hc with hc | hc
  · exact h c hc
  · exact h' c hc

/-- A plain character before a plain text. -/
theorem Plain.cons {c : Char} {text : List Char} (hc : c ∉ ['"', ',', '\n', '\r'])
    (h : Plain text) : Plain (c :: text) := by
  intro d hd
  rcases List.mem_cons.mp hd with rfl | hd
  · exact hc
  · exact h d hd

/-- Digits are plain. -/
theorem plain_digits {text : List Char} (h : ∀ c ∈ text, c.isDigit = true) : Plain text := by
  intro c hc hspecial
  have hdigit := h c hc
  simp only [List.mem_cons, List.not_mem_nil, or_false] at hspecial
  rcases hspecial with rfl | rfl | rfl | rfl
  all_goals exact absurd hdigit (by decide)

/-- Zeros are plain. -/
theorem plain_zeros (count : Nat) : Plain (List.replicate count '0') :=
  plain_digits fun c hc => by rw [List.eq_of_mem_replicate hc]; decide

/-- The text of an integer is plain. -/
theorem plain_integer_text (n : Int) : Plain (integerText n) := by
  unfold integerText
  rw [int_repr_to_list]
  split
  · exact plain_digits fun c hc => digit_of_mem_repr hc
  · exact .cons (by decide) (plain_digits fun c hc => digit_of_mem_repr hc)

/-- The text of a number is plain. -/
theorem plain_number_to_string (value : Double) : Plain (numberToString value) := by
  cases value with
  | nan => exact plain_of_all (by decide)
  | zero negative => exact plain_of_all (by decide : "0".toList.all _ = true)
  | infinite negative =>
      cases negative
      · exact plain_of_all (by decide)
      · exact plain_of_all (by decide)
  | finite value =>
      have hdigits : Plain value.digits := plain_digits value.isDigits
      have htake : ∀ count, Plain (value.digits.take count) := fun count c hc =>
        hdigits c (List.mem_of_mem_take hc)
      have hdrop : ∀ count, Plain (value.digits.drop count) := fun count c hc =>
        hdigits c (List.mem_of_mem_drop hc)
      have hexponent : Plain ((if value.point - 1 < 0 then '-' else '+') ::
          (value.point - 1).natAbs.repr.toList) := by
        refine .cons ?_ (plain_digits fun c hc => digit_of_mem_repr hc)
        split
        · decide
        · decide
      have hbody : Plain (
          if -5 ≤ value.point ∧ value.point ≤ 21 then
            if (value.digits.length : Int) ≤ value.point then
              value.digits ++ List.replicate (value.point - value.digits.length).toNat '0'
            else if 0 < value.point then
              value.digits.take value.point.toNat ++ '.' :: value.digits.drop value.point.toNat
            else "0.".toList ++ List.replicate (-value.point).toNat '0' ++ value.digits
          else if (value.digits.length : Int) = 1 then
            value.digits ++ 'e' :: (if value.point - 1 < 0 then '-' else '+') ::
              (value.point - 1).natAbs.repr.toList
          else value.digits.take 1 ++ '.' :: value.digits.drop 1 ++
            'e' :: (if value.point - 1 < 0 then '-' else '+') ::
              (value.point - 1).natAbs.repr.toList) := by
        split
        · split
          · exact hdigits.append (plain_zeros _)
          split
          · exact (htake _).append (.cons (by decide) (hdrop _))
          · exact .append (.append (plain_of_all (by decide)) (plain_zeros _)) hdigits
        · split
          · exact hdigits.append (.cons (by decide) hexponent)
          · exact ((htake 1).append (.cons (by decide) (hdrop 1))).append
              (.cons (by decide) hexponent)
      unfold numberToString
      simp only
      split
      · exact .cons (by decide) hbody
      · exact hbody

section Cells

variable {serdeNumber jsNumber : String → Double} {nearest : Int → Double}

/-- Both write a value as the same field. -/
theorem csv_cell_eq {value : Json} (h : readAsWritten value = true)
    (hfloats : ReadersAgree serdeNumber jsNumber (floatTexts value)) :
    csvCell serdeNumber value = escapeCsvField (JsValue.ofJson jsNumber nearest value) := by
  cases value with
  | null => rfl
  | bool flag => cases flag <;> rfl
  | int n =>
      have hsafe : n.natAbs ≤ JS_MAX_SAFE_INT := of_decide_eq_true h
      show integerText n = quoteField (numberToString (if n.natAbs ≤ JS_MAX_SAFE_INT then
        Double.ofInt n else nearest n))
      rw [if_pos hsafe, number_to_string_of_int hsafe, quote_field_plain (plain_integer_text n)]
  | float text =>
      have hsame : serdeNumber text = jsNumber text := hfloats text List.mem_cons_self
      show jsFloatText (serdeNumber text) = quoteField (numberToString (jsNumber text))
      rw [js_float_text_eq, hsame, quote_field_plain (plain_number_to_string _)]
  | str text => exact csv_text_safe text.toList
  | arr items =>
      show csvText (jsJsonText serdeNumber (.arr items)) false = _
      rw [csv_text_plain, js_json_text_eq (.arr items) h hfloats]
      rfl
  | obj entries =>
      show csvText (jsJsonText serdeNumber (.obj entries)) false = _
      rw [csv_text_plain, js_json_text_eq (.obj entries) h hfloats]
      rfl

/-- The field of a text that is not empty is not empty. -/
theorem csv_text_ne_nil {text : List Char} (h : text ≠ []) (neutralize : Bool) :
    csvText text neutralize ≠ [] := by
  unfold csvText
  simp only
  refine List.append_ne_nil_of_right_ne_nil _ ?_
  split
  · exact List.append_ne_nil_of_right_ne_nil _ (List.cons_ne_nil _ _)
  · exact h

/-- The text of a number is not empty. -/
theorem number_to_string_ne_nil (value : Double) : numberToString value ≠ [] := by
  cases value with
  | nan => exact List.cons_ne_nil _ _
  | zero negative => exact List.cons_ne_nil _ _
  | infinite negative =>
      cases negative
      · exact List.cons_ne_nil _ _
      · exact List.cons_ne_nil _ _
  | finite value =>
      have hdigits := value.nonempty
      unfold numberToString
      simp only
      split
      · exact List.cons_ne_nil _ _
      split
      · split
        · exact List.append_ne_nil_of_left_ne_nil hdigits _
        split
        · exact List.append_ne_nil_of_right_ne_nil _ (List.cons_ne_nil _ _)
        · exact List.append_ne_nil_of_right_ne_nil _ hdigits
      · split
        · exact List.append_ne_nil_of_left_ne_nil hdigits _
        · exact List.append_ne_nil_of_right_ne_nil _ (List.cons_ne_nil _ _)

/-- A field is empty only for no value and for the empty text. -/
theorem csv_cell_ne_nil {value : Json} (hnull : value ≠ .null) (hempty : value ≠ .str "") :
    csvCell serdeNumber value ≠ [] := by
  cases value with
  | null => exact absurd rfl hnull
  | bool flag =>
      cases flag
      · exact List.cons_ne_nil _ _
      · exact List.cons_ne_nil _ _
  | int n =>
      intro h
      exact int_repr_ne_empty n (String.toList_inj.mp h)
  | float text =>
      show jsFloatText (serdeNumber text) ≠ []
      rw [js_float_text_eq]
      exact number_to_string_ne_nil _
  | str text =>
      refine csv_text_ne_nil (fun h => hempty ?_) true
      rw [String.toList_inj.mp (show text.toList = "".toList from h)]
  | arr items => exact csv_text_ne_nil (List.cons_ne_nil _ _) false
  | obj entries => exact csv_text_ne_nil (List.cons_ne_nil _ _) false

/-! ## Files -/

/-- The text of a file: the head, and each row behind a line break. -/
theorem write_csv_eq (columns : List String) (pages : List (List (List Json))) :
    writeCsv serdeNumber columns pages = csvHead columns ++ pages.flatten.flatMap fun row =>
      '\r' :: '\n' :: [','].intercalate (row.map (csvCell serdeNumber)) := by
  have hrows : ∀ (rows : List (List Json)) (writer : List Char),
      rows.foldl (writeCsvRow serdeNumber) writer = writer ++ rows.flatMap fun row =>
        '\r' :: '\n' :: [','].intercalate (row.map (csvCell serdeNumber)) := by
    intro rows
    induction rows with
    | nil => exact fun writer => (List.append_nil writer).symm
    | cons row rest ih =>
        intro writer
        rw [List.foldl_cons, ih, List.flatMap_cons, ← List.append_assoc]
        unfold writeCsvRow writeCsvRecord
        rw [List.append_assoc writer]
        rfl
  have hpages : ∀ (pages : List (List (List Json))) (writer : List Char),
      pages.foldl (fun writer rows => rows.foldl (writeCsvRow serdeNumber) writer) writer =
        writer ++ pages.flatten.flatMap fun row =>
          '\r' :: '\n' :: [','].intercalate (row.map (csvCell serdeNumber)) := by
    intro pages
    induction pages with
    | nil => exact fun writer => (List.append_nil writer).symm
    | cons rows rest ih =>
        intro writer
        rw [List.foldl_cons, ih, hrows, List.flatten_cons, List.flatMap_append, List.append_assoc]
  exact hpages pages (csvHead columns)

/-- Records behind line breaks are joined by line breaks, after the first one. -/
theorem flat_map_line_breaks {records : List (List Char)} (h : records ≠ []) :
    records.flatMap (fun record => '\r' :: '\n' :: record) =
      '\r' :: '\n' :: ['\r', '\n'].intercalate records := by
  induction records with
  | nil => exact absurd rfl h
  | cons record rest ih =>
      cases rest with
      | nil => simp
      | cons record' rest =>
          rw [List.flatMap_cons, ih (List.cons_ne_nil _ _), List.intercalate_cons_cons]
          simp

/-- Joined records are empty when there is none, or one without any character. -/
theorem intercalate_line_breaks_eq_nil {records : List (List Char)} :
    ['\r', '\n'].intercalate records = [] ↔ records = [] ∨ records = [[]] := by
  cases records with
  | nil => simp
  | cons record rest =>
      cases rest with
      | nil => simp
      | cons record' rest =>
          rw [List.intercalate_cons_cons]
          simp

/-- A record is empty when it has no field, or one without any character. -/
theorem intercalate_commas_eq_nil {fields : List (List Char)} :
    [','].intercalate fields = [] ↔ fields = [] ∨ fields = [[]] := by
  cases fields with
  | nil => simp
  | cons field rest =>
      cases rest with
      | nil => simp
      | cons field' rest =>
          rw [List.intercalate_cons_cons]
          simp

/-- The head of a file is the mark of UTF-8 and the head of the renderer's text. -/
theorem csv_head_eq (columns : List String) : csvHead columns = Char.ofNat 0xfeff ::
    [','].intercalate (columns.map fun column => escapeCsvField (.string column.toList)) := by
  unfold csvHead writeCsvRecord
  rw [List.map_congr_left fun column _ => csv_text_safe column.toList]
  rfl

/-- The durable export writes the text of the renderer's download, when JavaScript reads every value
as it is written and every float as serde_json does, and the result is not one record without any
character. -/
theorem csv_export_agrees (columns : List String) (pages : List (List (List Json)))
    (hread : ∀ rows ∈ pages, ∀ row ∈ rows, ∀ value ∈ row, readAsWritten value = true)
    (hfloats : ∀ rows ∈ pages, ∀ row ∈ rows, ∀ value ∈ row,
      ReadersAgree serdeNumber jsNumber (floatTexts value))
    (hrecord : pages.flatten ∉ [[[]], [[.null]], [[.str ""]]]) :
    textBytes (writeCsv serdeNumber columns pages) = textBytes (csvExportText columns
      (pages.flatten.map fun row => row.map (JsValue.ofJson jsNumber nearest))) := by
  have hrow : ∀ row ∈ pages.flatten, row.map (csvCell serdeNumber) =
      (row.map (JsValue.ofJson jsNumber nearest)).map escapeCsvField := by
    intro row hrow
    obtain ⟨rows, hrows, hmem⟩ := List.mem_flatten.mp hrow
    rw [List.map_map]
    exact List.map_congr_left fun value hvalue =>
      csv_cell_eq (hread rows hrows row hmem value hvalue) (hfloats rows hrows row hmem value hvalue)
  have hrecords : (pages.flatten.map fun row => [','].intercalate (row.map (csvCell serdeNumber))) =
      (pages.flatten.map fun row => row.map (JsValue.ofJson jsNumber nearest)).map fun row =>
        [','].intercalate (row.map escapeCsvField) := by
    rw [List.map_map]
    exact List.map_congr_left fun row hmem => by rw [hrow row hmem]; rfl
  have hbody : (pages.flatten.flatMap fun row =>
      '\r' :: '\n' :: [','].intercalate (row.map (csvCell serdeNumber))) =
        (pages.flatten.map fun row => [','].intercalate (row.map (csvCell serdeNumber))).flatMap
          fun record => '\r' :: '\n' :: record := by
    rw [List.flatMap_map]
  rw [write_csv_eq, csv_head_eq, hbody, hrecords]
  unfold csvExportText toCsv
  simp only
  split
  case isTrue hempty =>
      -- Nothing behind the head: there is no record.
      rcases intercalate_line_breaks_eq_nil.mp hempty with hnone | hone
      · rw [hnone, List.flatMap_nil, List.append_nil]
      · rw [← hrecords] at hone
        obtain ⟨row, hflatten, hfields⟩ := List.map_eq_singleton_iff.mp hone
        rcases intercalate_commas_eq_nil.mp hfields with hnil | hsingle
        · rw [List.map_eq_nil_iff] at hnil
          rw [hflatten, hnil] at hrecord
          exact absurd List.mem_cons_self hrecord
        · obtain ⟨value, rfl, hcell⟩ := List.map_eq_singleton_iff.mp hsingle
          rw [hflatten] at hrecord
          by_cases hnull : value = .null
          · rw [hnull] at hrecord
            simp at hrecord
          · by_cases hstr : value = .str ""
            · rw [hstr] at hrecord
              simp at hrecord
            · exact absurd hcell (csv_cell_ne_nil hnull hstr)
  case isFalse hne =>
      rw [flat_map_line_breaks fun hnil => hne (by rw [hnil]; rfl)]
      rfl

end Cells

/-- One half. -/
def half : Double := .finite ⟨false, ['5'], 0, by simp, by simp⟩

/-- `100.00000000000001`. -/
def aboveHundred : Double :=
  .finite ⟨false, '1' :: List.replicate 15 '0' ++ ['1'], 3, by simp, by simp⟩

/-- serde_json reads `0.5` as it is, and `100.00000000000001` as a hundred. -/
def serdeSample (text : String) : Double := if text = "0.5" then half else .ofInt 100

/-- `JSON.parse` finds the nearest double of both. -/
def jsSample (text : String) : Double := if text = "0.5" then half else aboveHundred

/-- Two records with texts that need care and a float. -/
theorem csv_export_agrees_quoted :
    textBytes (writeCsv serdeSample ["a", "b"]
      [[[.str "=1+2", .null]], [[.float "0.5", .arr [.str "x,y", .float "0.5"]]]]) =
    textBytes (csvExportText ["a", "b"]
      ([[[.str "=1+2", .null]], [[.float "0.5", .arr [.str "x,y", .float "0.5"]]]].flatten.map
        fun row => row.map (JsValue.ofJson jsSample fun _ => half))) :=
  csv_export_agrees _ _ (by decide)
    (by simp [ReadersAgree, floatTexts, itemFloatTexts, serdeSample, jsSample]) (by decide)

/-- The durable export begins with the mark of UTF-8, which `toCsv` does not write. -/
theorem csv_export_marked :
    ¬∀ (double : String → Double) (nearest : Int → Double) (columns : List String)
      (pages : List (List (List Json))),
      textBytes (writeCsv double columns pages) = textBytes (toCsv columns
        (pages.flatten.map fun row => row.map (JsValue.ofJson double nearest))) := by
  intro h
  exact absurd (h (fun _ => half) (fun _ => half) ["a"] []) (by decide)

end Dopedb.Results
