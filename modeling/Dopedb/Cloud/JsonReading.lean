import Dopedb.Library.JsonText

/-!
# A document is known by its text

The compact text of a value of JavaScript determines the value, also with more text behind it. A
number is an integer or a text with a point or an exponent, and an object has no key twice.
`render_inj` is the main result.
-/

namespace Dopedb.Cloud

open Library

/-- A character of the text of a number. -/
def numericChar (c : Char) : Bool := c.isDigit || c = '-' || c = '+' || c = '.' || c = 'e'

/-- The text of a number that is no integer. -/
def isFloatText (text : String) : Bool :=
  text.toList.all numericChar && text.toList.any fun c => c = '.' || c = 'e'

mutual
/-- The document is a value of JavaScript. -/
def isJsValue : Json → Bool
  | .null => true
  | .bool _ => true
  | .int _ => true
  | .float text => isFloatText text
  | .str _ => true
  | .arr items => areJsItems items
  | .obj fields => decide (fields.map Prod.fst).Nodup && areJsMembers fields

/-- The same for the items of an array. -/
def areJsItems : List Json → Bool
  | [] => true
  | item :: rest => isJsValue item && areJsItems rest

/-- The same for the members of an object. -/
def areJsMembers : List (String × Json) → Bool
  | [] => true
  | (_, value) :: rest => isJsValue value && areJsMembers rest
end

theorem js_items_iff (items : List Json) :
    areJsItems items = true ↔ ∀ item ∈ items, isJsValue item = true := by
  induction items with
  | nil => simp [areJsItems]
  | cons item rest ih => simp [areJsItems, ih]

theorem js_members_iff (fields : List (String × Json)) :
    areJsMembers fields = true ↔ ∀ field ∈ fields, isJsValue field.2 = true := by
  induction fields with
  | nil => simp [areJsMembers]
  | cons field rest ih =>
      obtain ⟨key, value⟩ := field
      simp [areJsMembers, ih]

/-! ## The first character -/

/-- What a first character says about a value. -/
def headTag (c : Char) : Nat :=
  if c = 'n' then 0 else if c = 't' then 1 else if c = 'f' then 2 else if c = '"' then 3
  else if c = '[' then 4 else if c = '\x7b' then 5 else 6

/-- The kinds of values that the first character tells apart. -/
def valueTag : Json → Nat
  | .null => 0
  | .bool true => 1
  | .bool false => 2
  | .str _ => 3
  | .arr _ => 4
  | .obj _ => 5
  | .int _ => 6
  | .float _ => 6

/-- A character that separates or closes. -/
def isCloser (c : Char) : Bool := c = ',' || c = ']' || c = '\x7d'

/-- A number starts with none of the other first characters. -/
theorem head_tag_numeric {c : Char} (h : numericChar c = true) :
    headTag c = 6 ∧ isCloser c = false := by
  unfold headTag isCloser
  refine ⟨?_, ?_⟩
  · split
    · next hc => exact absurd (hc ▸ h) (by decide)
    split
    · next hc => exact absurd (hc ▸ h) (by decide)
    split
    · next hc => exact absurd (hc ▸ h) (by decide)
    split
    · next hc => exact absurd (hc ▸ h) (by decide)
    split
    · next hc => exact absurd (hc ▸ h) (by decide)
    split
    · next hc => exact absurd (hc ▸ h) (by decide)
    rfl
  · by_contra hne
    simp only [Bool.or_eq_false_iff, decide_eq_false_iff_not, not_and, not_not] at hne
    by_cases hcomma : c = ','
    · exact absurd (hcomma ▸ h) (by decide)
    · by_cases hbracket : c = ']'
      · exact absurd (hbracket ▸ h) (by decide)
      · have hbrace := hne ⟨hcomma, hbracket⟩
        exact absurd (hbrace ▸ h) (by decide)

/-- The text of an integer is numeric. -/
theorem numeric_of_mem_int {n : Int} {c : Char} (h : c ∈ n.repr.toList) :
    numericChar c = true ∧ c ≠ '.' ∧ c ≠ 'e' := by
  have hdigit : ∀ m : Nat, c ∈ m.repr.toList → numericChar c = true ∧ c ≠ '.' ∧ c ≠ 'e' := by
    intro m hm
    have hc := digit_of_mem_repr hm
    refine ⟨by simp [numericChar, hc], ?_, ?_⟩
    · rintro rfl
      exact absurd hc (by decide)
    · rintro rfl
      exact absurd hc (by decide)
  cases n with
  | ofNat m => exact hdigit m h
  | negSucc m =>
      rw [Int.repr, String.toList_append, List.mem_append] at h
      rcases h with hminus | hm
      · have hc : c = '-' := by simpa using hminus
        subst hc
        decide
      · exact hdigit _ hm

/-- The text of a number without what follows it. -/
def numberText : Json → Option (List Char)
  | .int n => some n.repr.toList
  | .float text => some text.toList
  | _ => none

/-- The text of a number is numeric and not empty. -/
theorem number_text_numeric {value : Json} {text : List Char} (h : numberText value = some text)
    (hjs : isJsValue value = true) : (∀ c ∈ text, numericChar c = true) ∧ text ≠ [] := by
  cases value with
  | int n =>
      obtain rfl := Option.some.inj h
      refine ⟨fun c hc => (numeric_of_mem_int hc).1, ?_⟩
      intro hnil
      exact absurd hnil (by
        cases n with
        | ofNat m => exact fun h => Nat.repr_ne_empty (String.toList_eq_nil_iff.mp h)
        | negSucc m => simp [Int.repr])
  | float t =>
      obtain rfl := Option.some.inj h
      unfold isJsValue isFloatText at hjs
      obtain ⟨hall, hany⟩ := Bool.and_eq_true_iff.mp hjs
      refine ⟨List.all_eq_true.mp hall, ?_⟩
      intro hnil
      rw [hnil] at hany
      cases hany
  | null => cases h
  | bool b => cases h
  | str s => cases h
  | arr items => cases h
  | obj fields => cases h

/-- The text of a value starts with a character that tells its kind. -/
theorem render_head {value : Json} (hjs : isJsValue value = true) :
    ∃ c rest, value.render = c :: rest ∧ headTag c = valueTag value ∧ isCloser c = false := by
  cases value with
  | null => exact ⟨'n', _, rfl, rfl, rfl⟩
  | bool b =>
      cases b with
      | true => exact ⟨'t', _, rfl, rfl, rfl⟩
      | false => exact ⟨'f', _, rfl, rfl, rfl⟩
  | str s => exact ⟨'"', _, rfl, rfl, rfl⟩
  | arr items => exact ⟨'[', _, rfl, rfl, rfl⟩
  | obj fields => exact ⟨'\x7b', _, rfl, rfl, rfl⟩
  | int n =>
      obtain ⟨hall, hne⟩ := @number_text_numeric (.int n) _ rfl hjs
      obtain ⟨c, rest, hcons⟩ := List.exists_cons_of_ne_nil hne
      obtain ⟨htag, hcloser⟩ := head_tag_numeric (hall c (by rw [hcons]; simp))
      exact ⟨c, rest, hcons, htag, hcloser⟩
  | float t =>
      obtain ⟨hall, hne⟩ := @number_text_numeric (.float t) _ rfl hjs
      obtain ⟨c, rest, hcons⟩ := List.exists_cons_of_ne_nil hne
      obtain ⟨htag, hcloser⟩ := head_tag_numeric (hall c (by rw [hcons]; simp))
      exact ⟨c, rest, hcons, htag, hcloser⟩

/-! ## Reading -/

/-- No number goes on here. -/
def Closed (rest : List Char) : Prop := ∀ c ∈ rest.head?, numericChar c = false

theorem closed_closer {c : Char} (h : isCloser c = true) (rest : List Char) :
    Closed (c :: rest) := by
  intro d hd
  obtain rfl := Option.some.inj (Option.mem_def.mp hd)
  by_contra hnumeric
  rw [(head_tag_numeric (Bool.of_not_eq_false hnumeric)).2] at h
  cases h

/-- A numeric text ends where no number goes on. -/
theorem numeric_inj {text text' rest rest' : List Char}
    (htext : ∀ c ∈ text, numericChar c = true) (htext' : ∀ c ∈ text', numericChar c = true)
    (hrest : Closed rest) (hrest' : Closed rest') (h : text ++ rest = text' ++ rest') :
    text = text' ∧ rest = rest' := by
  have htake : ∀ {front back : List Char}, (∀ c ∈ front, numericChar c = true) → Closed back →
      (front ++ back).takeWhile numericChar = front := by
    intro front back hfront hback
    rw [List.takeWhile_append_of_pos hfront]
    cases back with
    | nil => simp
    | cons c back =>
        rw [List.takeWhile_cons_of_neg (by rw [hback c rfl]; decide), List.append_nil]
  have hfront : text = text' := by
    rw [← htake htext hrest, h, htake htext' hrest']
  subst hfront
  exact ⟨rfl, List.append_cancel_left h⟩

section Lists

variable {α : Type} {text : α → List Char}

/-- The texts behind the first one, each with its comma. -/
def moreTexts (text : α → List Char) (items : List α) : List Char :=
  items.flatMap fun item => ',' :: text item

/-- The texts of a list between commas. -/
theorem intercalate_texts (item : α) (items : List α) :
    [','].intercalate ((item :: items).map text) = text item ++ moreTexts text items := by
  induction items generalizing item with
  | nil => simp [moreTexts, List.intercalate]
  | cons next rest ih =>
      rw [List.map_cons, List.map_cons, List.intercalate_cons_cons, ← List.map_cons, ih next]
      simp [moreTexts]

/-- Two texts are only equal, with what follows, when what they stand for is. -/
def Determines (text : α → List Char) (item item' : α) : Prop :=
  ∀ rest rest' : List Char, Closed rest → Closed rest' →
    text item ++ rest = text item' ++ rest' → item = item' ∧ rest = rest'

/-- What follows a text in a list is closed. -/
theorem closed_more (items : List α) {close : Char} (hclose : isCloser close = true)
    (rest : List Char) : Closed (moreTexts text items ++ close :: rest) := by
  cases items with
  | nil => exact closed_closer hclose rest
  | cons item items => exact closed_closer rfl _

/-- The texts behind the first one determine the items. -/
theorem more_texts_inj {close : Char} (hclose : isCloser close = true) (hcomma : close ≠ ',')
    {items items' : List α} (h : ∀ item ∈ items, ∀ item' ∈ items', Determines text item item')
    {rest rest' : List Char}
    (heq : moreTexts text items ++ close :: rest = moreTexts text items' ++ close :: rest') :
    items = items' ∧ rest = rest' := by
  induction items generalizing items' with
  | nil =>
      cases items' with
      | nil => exact ⟨rfl, (List.cons.inj heq).2⟩
      | cons item' items' => exact absurd (List.cons.inj heq).1 hcomma
  | cons item items ih =>
      cases items' with
      | nil => exact absurd (List.cons.inj heq).1.symm hcomma
      | cons item' items' =>
          have hitems : text item ++ (moreTexts text items ++ close :: rest) =
              text item' ++ (moreTexts text items' ++ close :: rest') := by
            simpa [moreTexts] using heq
          obtain ⟨rfl, hmore⟩ := h item (by simp) item' (by simp) _ _
            (closed_more items hclose rest) (closed_more items' hclose rest') hitems
          obtain ⟨rfl, hrest⟩ := ih (fun a ha b hb => h a (by simp [ha]) b (by simp [hb])) hmore
          exact ⟨rfl, hrest⟩

/-- A list between commas determines its items. -/
theorem list_texts_inj {close : Char} (hclose : isCloser close = true) (hcomma : close ≠ ',')
    {items items' : List α} (h : ∀ item ∈ items, ∀ item' ∈ items', Determines text item item')
    (hhead : ∀ item, (item ∈ items ∨ item ∈ items') →
      ∃ c more, text item = c :: more ∧ isCloser c = false) {rest rest' : List Char}
    (heq : [','].intercalate (items.map text) ++ close :: rest =
      [','].intercalate (items'.map text) ++ close :: rest') :
    items = items' ∧ rest = rest' := by
  cases items with
  | nil =>
      cases items' with
      | nil => exact ⟨rfl, (List.cons.inj heq).2⟩
      | cons item' items' =>
          obtain ⟨c, more, hc, hcloser⟩ := hhead item' (.inr (by simp))
          rw [intercalate_texts, hc] at heq
          rw [← (List.cons.inj heq).1, hclose] at hcloser
          cases hcloser
  | cons item items =>
      cases items' with
      | nil =>
          obtain ⟨c, more, hc, hcloser⟩ := hhead item (.inl (by simp))
          rw [intercalate_texts, hc] at heq
          rw [(List.cons.inj heq).1, hclose] at hcloser
          cases hcloser
      | cons item' items' =>
          rw [intercalate_texts, intercalate_texts, List.append_assoc, List.append_assoc] at heq
          obtain ⟨rfl, hmore⟩ := h item (by simp) item' (by simp) _ _
            (closed_more items hclose rest) (closed_more items' hclose rest') heq
          obtain ⟨rfl, hrest⟩ := more_texts_inj hclose hcomma
            (fun a ha b hb => h a (by simp [ha]) b (by simp [hb])) hmore
          exact ⟨rfl, hrest⟩

end Lists

/-- The text of a member. -/
def memberText (field : String × Json) : List Char :=
  renderString field.1 ++ ':' :: field.2.render

/-- A member is determined by its text when its value is. -/
theorem member_determined {field field' : String × Json}
    (h : Determines Json.render field.2 field'.2) : Determines memberText field field' := by
  intro rest rest' hrest hrest' heq
  unfold memberText at heq
  rw [List.append_assoc, List.append_assoc] at heq
  obtain ⟨hkey, hvalue⟩ := render_string_inj heq
  obtain ⟨hfield, hmore⟩ := h rest rest' hrest hrest' (List.cons.inj hvalue).2
  exact ⟨Prod.ext hkey hfield, hmore⟩

/-- Two numbers with the same text are one. -/
theorem number_inj {value value' : Json} {text : List Char} (h : numberText value = some text)
    (h' : numberText value' = some text) (hjs : isJsValue value = true)
    (hjs' : isJsValue value' = true) : value = value' := by
  have hmark : ∀ {t : String}, isFloatText t = true → ∃ c ∈ t.toList, c = '.' ∨ c = 'e' := by
    intro t ht
    obtain ⟨c, hc, hpoint⟩ := List.any_eq_true.mp (Bool.and_eq_true_iff.mp ht).2
    exact ⟨c, hc, by simpa using hpoint⟩
  have happart : ∀ {n : Int} {t : String}, isFloatText t = true → n.repr.toList ≠ t.toList := by
    intro n t ht heq
    obtain ⟨c, hc, hpoint⟩ := hmark ht
    rw [← heq] at hc
    obtain ⟨-, hdot, he⟩ := numeric_of_mem_int hc
    exact hpoint.elim hdot he
  cases value with
  | int n =>
      cases value' with
      | int n' =>
          have htext := (Option.some.inj h).trans (Option.some.inj h').symm
          rw [int_repr_inj (String.toList_injective htext)]
      | float t' =>
          exact absurd ((Option.some.inj h).trans (Option.some.inj h').symm) (happart hjs')
      | null => cases h'
      | bool b => cases h'
      | str s => cases h'
      | arr items => cases h'
      | obj fields => cases h'
  | float t =>
      cases value' with
      | int n' =>
          exact absurd ((Option.some.inj h').trans (Option.some.inj h).symm) (happart hjs)
      | float t' =>
          have htext := (Option.some.inj h).trans (Option.some.inj h').symm
          rw [String.toList_injective htext]
      | null => cases h'
      | bool b => cases h'
      | str s => cases h'
      | arr items => cases h'
      | obj fields => cases h'
  | null => cases h
  | bool b => cases h
  | str s => cases h
  | arr items => cases h
  | obj fields => cases h

/-- Two texts that start alike are of values of one kind. -/
theorem tag_eq_of_render {value value' : Json} (hjs : isJsValue value = true)
    (hjs' : isJsValue value' = true) {rest rest' : List Char}
    (heq : value.render ++ rest = value'.render ++ rest') : valueTag value = valueTag value' := by
  obtain ⟨c, more, htext, htag, -⟩ := render_head hjs
  obtain ⟨c', more', htext', htag', -⟩ := render_head hjs'
  rw [htext, htext', List.cons_append, List.cons_append] at heq
  rw [← htag, ← htag', (List.cons.inj heq).1]

/-- Numbers are determined by their texts. -/
theorem number_determined {value value' : Json} {text text' : List Char}
    (h : numberText value = some text) (h' : numberText value' = some text')
    (hrender : value.render = text) (hrender' : value'.render = text')
    (hjs : isJsValue value = true) (hjs' : isJsValue value' = true) :
    Determines Json.render value value' := by
  intro rest rest' hrest hrest' heq
  rw [hrender, hrender'] at heq
  obtain ⟨htext, hmore⟩ := numeric_inj (number_text_numeric h hjs).1
    (number_text_numeric h' hjs').1 hrest hrest' heq
  subst htext
  exact ⟨number_inj h h' hjs hjs', hmore⟩

mutual
/-- A value is determined by its text. -/
theorem render_determined : ∀ (value value' : Json), isJsValue value = true →
    isJsValue value' = true → Determines Json.render value value'
  | .arr items, value', hjs, hjs' => by
    intro rest rest' hrest hrest' heq
    have htag := tag_eq_of_render hjs hjs' heq
    -- the first character tells the kind of a value, so the other value is a list too
    cases value' with
    | arr items' =>
        have hitems' := (js_items_iff items').mp hjs'
        have hdetermined := items_determined items ((js_items_iff items).mp hjs)
        have htexts : [','].intercalate (items.map Json.render) ++ ']' :: rest =
            [','].intercalate (items'.map Json.render) ++ ']' :: rest' := by
          simpa [Json.render, Json.render_items_eq_map] using heq
        obtain ⟨rfl, hmore⟩ := list_texts_inj rfl (by decide)
          (fun item hitem item' hitem' => hdetermined item hitem item' (hitems' item' hitem'))
          (fun item hitem => by
            obtain ⟨c, more, htext, -, hcloser⟩ := @render_head item
              (hitem.elim ((js_items_iff items).mp hjs item) (hitems' item))
            exact ⟨c, more, htext, hcloser⟩) htexts
        exact ⟨rfl, hmore⟩
    | bool flag => cases flag <;> simp [valueTag] at htag
    | null | str | obj | int | float => simp [valueTag] at htag
  | .obj fields, value', hjs, hjs' => by
    intro rest rest' hrest hrest' heq
    have htag := tag_eq_of_render hjs hjs' heq
    cases value' with
    | obj fields' =>
        have hfields := (js_members_iff fields).mp (Bool.and_eq_true_iff.mp hjs).2
        have hfields' := (js_members_iff fields').mp (Bool.and_eq_true_iff.mp hjs').2
        have hdetermined := members_determined fields hfields
        have htexts : [','].intercalate (fields.map memberText) ++ '\x7d' :: rest =
            [','].intercalate (fields'.map memberText) ++ '\x7d' :: rest' := by
          rw [Json.render, Json.render, Json.render_members_eq_map,
            Json.render_members_eq_map] at heq
          show [','].intercalate (fields.map fun m => renderString m.1 ++ ':' :: m.2.render) ++
              '\x7d' :: rest =
            [','].intercalate (fields'.map fun m => renderString m.1 ++ ':' :: m.2.render) ++
              '\x7d' :: rest'
          simpa using (List.cons.inj heq).2
        obtain ⟨rfl, hmore⟩ := list_texts_inj rfl (by decide)
          (fun field hfield field' hfield' =>
            member_determined (hdetermined field hfield field'.2 (hfields' field' hfield')))
          (fun field _ => ⟨'"', _, rfl, rfl⟩) htexts
        exact ⟨rfl, hmore⟩
    | bool flag => cases flag <;> simp [valueTag] at htag
    | null | str | arr | int | float => simp [valueTag] at htag
  | .null, value', hjs, hjs' => by
    intro rest rest' _ _ heq
    have htag := tag_eq_of_render hjs hjs' heq
    cases value' with
    | null => exact ⟨rfl, List.append_cancel_left heq⟩
    | bool flag => cases flag <;> simp [valueTag] at htag
    | arr | str | obj | int | float => simp [valueTag] at htag
  | .bool flag, value', hjs, hjs' => by
    intro rest rest' _ _ heq
    have htag := tag_eq_of_render hjs hjs' heq
    cases value' with
    | bool flag' =>
        cases flag <;> cases flag' <;> first
          | exact ⟨rfl, List.append_cancel_left heq⟩
          | simp [valueTag] at htag
    | null | arr | str | obj | int | float => cases flag <;> simp [valueTag] at htag
  | .str text, value', hjs, hjs' => by
    intro rest rest' _ _ heq
    have htag := tag_eq_of_render hjs hjs' heq
    cases value' with
    | str text' =>
        obtain ⟨rfl, hmore⟩ := render_string_inj heq
        exact ⟨rfl, hmore⟩
    | bool flag => cases flag <;> simp [valueTag] at htag
    | null | arr | obj | int | float => simp [valueTag] at htag
  | .int n, value', hjs, hjs' => by
    intro rest rest' hrest hrest' heq
    have htag := tag_eq_of_render hjs hjs' heq
    cases value' with
    | int n' => exact number_determined rfl rfl rfl rfl hjs hjs' rest rest' hrest hrest' heq
    | float text' => exact number_determined rfl rfl rfl rfl hjs hjs' rest rest' hrest hrest' heq
    | bool flag => cases flag <;> simp [valueTag] at htag
    | null | arr | obj | str => simp [valueTag] at htag
  | .float text, value', hjs, hjs' => by
    intro rest rest' hrest hrest' heq
    have htag := tag_eq_of_render hjs hjs' heq
    cases value' with
    | int n' => exact number_determined rfl rfl rfl rfl hjs hjs' rest rest' hrest hrest' heq
    | float text' => exact number_determined rfl rfl rfl rfl hjs hjs' rest rest' hrest hrest' heq
    | bool flag => cases flag <;> simp [valueTag] at htag
    | null | arr | obj | str => simp [valueTag] at htag

/-- The same for the items of an array. -/
theorem items_determined : ∀ (items : List Json), (∀ item ∈ items, isJsValue item = true) →
    ∀ item ∈ items, ∀ value', isJsValue value' = true → Determines Json.render item value'
  | [], _ => by
    intro item hitem
    cases hitem
  | first :: items, hjs => by
    intro item hitem value' hjs'
    rcases List.mem_cons.mp hitem with hfirst | hrest
    · rw [hfirst]
      exact render_determined first value' (hjs first (by simp)) hjs'
    · exact items_determined items (fun other hother => hjs other (by simp [hother])) item hrest
        value' hjs'

/-- The same for the members of an object. -/
theorem members_determined : ∀ (fields : List (String × Json)),
    (∀ field ∈ fields, isJsValue field.2 = true) → ∀ field ∈ fields, ∀ value',
      isJsValue value' = true → Determines Json.render field.2 value'
  | [], _ => by
    intro field hfield
    cases hfield
  | (key, value) :: fields, hjs => by
    intro field hfield value' hjs'
    rcases List.mem_cons.mp hfield with hfirst | hrest
    · rw [hfirst]
      exact render_determined value value' (hjs (key, value) (by simp)) hjs'
    · exact members_determined fields (fun other hother => hjs other (by simp [hother])) field hrest
        value' hjs'
end

/-- Two values with one text are one. -/
theorem render_inj {value value' : Json} (hjs : isJsValue value = true)
    (hjs' : isJsValue value' = true) (h : value.render = value'.render) : value = value' :=
  (render_determined value value' hjs hjs' [] [] (by simp [Closed]) (by simp [Closed])
    (by rw [h])).1

end Dopedb.Cloud
