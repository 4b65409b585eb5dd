import Dopedb.Executor.WireBytes
import Dopedb.Library.Json
import Mathlib.Algebra.BigOperators.Ring.List

/-!
# Arrays of the binary protocol

`pg_array_value` and `nest_array` of `read_pg_wire.rs`. An array is a header with its dimensions and
a flat list of elements, each with its length. The decoder of one element is a parameter. The lists
that the decoder builds are kept apart from lists inside of elements.
-/

namespace Dopedb.Executor

open Library

/-- A nested list of values. -/
inductive Nested (α : Type) where
  | element (value : α)
  | list (items : List (Nested α))

/-- `WireCursor::i32`. -/
def takeI32 (bytes : List UInt8) : Option (Int × List UInt8) :=
  (splitAtChecked bytes 4).bind fun (head, tail) =>
    (signedFromBeBytes 4 head).map fun n => (n, tail)

/-- `WireCursor::element`: a length of -1 marks SQL NULL. -/
def takeElement (bytes : List UInt8) : Option (Option (List UInt8) × List UInt8) :=
  (takeI32 bytes).bind fun (length, rest) =>
    if length = -1 then some (none, rest)
    else (usizeTryFrom length).bind fun n =>
      (splitAtChecked rest n).map fun (head, tail) => (some head, tail)

/-- `checked_mul` of `usize`. -/
def checkedMul (a b : Nat) : Option Nat := if a * b < 2 ^ 64 then some (a * b) else none

/-- The loop over the dimensions, with the number of elements so far. -/
def takeDimensions : Nat → Nat → List UInt8 → Option (List Nat × Nat × List UInt8)
  | 0, total, bytes => some ([], total, bytes)
  | dimensions + 1, total, bytes =>
    (takeI32 bytes).bind fun (declared, rest) =>
      (usizeTryFrom declared).bind fun length =>
        (takeI32 rest).bind fun (_, rest) =>
          (checkedMul total length).bind fun total =>
            (takeDimensions dimensions total rest).map fun (lengths, total, rest) =>
              (length :: lengths, total, rest)

section Decode

variable (decode : List UInt8 → Option Json)

/-- The value of an element. -/
def elementValue : Option (List UInt8) → Option Json
  | none => some .null
  | some bytes => decode bytes

/-- The loop over the elements. -/
def takeElements : Nat → List UInt8 → Option (List Json × List UInt8)
  | 0, bytes => some ([], bytes)
  | n + 1, bytes =>
    (takeElement bytes).bind fun (element, rest) =>
      (elementValue decode element).bind fun value =>
        (takeElements n rest).map fun (values, rest) => (value :: values, rest)

/-- A loop that takes so many nested lists from the values. -/
def nestItems {α : Type} (nest : List α → Nested α × List α) :
    Nat → List α → List (Nested α) × List α
  | 0, values => ([], values)
  | n + 1, values =>
    let (item, rest) := nest values
    let (items, rest) := nestItems nest n rest
    (item :: items, rest)

/-- `nest_array`, with the values that the iterator still holds. -/
def nestArray {α : Type} : List Nat → List α → Nested α × List α
  | [], values => (.list [], values)
  | [length], values => (.list ((values.take length).map .element), values.drop length)
  | length :: next :: inner, values =>
    let (items, rest) := nestItems (nestArray (next :: inner)) length values
    (.list items, rest)

/-- `pg_array_value`. -/
def pgArrayValue (bytes : List UInt8) : Option (Nested Json) :=
  (takeI32 bytes).bind fun (declared, rest) =>
    (usizeTryFrom declared).bind fun dimensions =>
      (takeI32 rest).bind fun (_, rest) =>
        (takeI32 rest).bind fun (_, rest) =>
          if dimensions = 0 then some (.list [])
          else if 6 < dimensions then none
          else (takeDimensions dimensions 1 rest).bind fun (lengths, total, rest) =>
            -- Every element needs at least its 4-byte length.
            if bytes.length / 4 < total then none
            else (takeElements decode total rest).bind fun (values, rest) =>
              if rest ≠ [] then none else some (nestArray lengths values).1

end Decode

/-! ## Lists and their shape -/

namespace Nested

variable {α : Type}

mutual
/-- The lists that were allocated. -/
def lists : Nested α → Nat
  | .element _ => 0
  | .list items => 1 + listsOf items

/-- The lists of all items. -/
def listsOf : List (Nested α) → Nat
  | [] => 0
  | item :: rest => lists item + listsOf rest
end

mutual
/-- The elements in row order. -/
def elements : Nested α → List α
  | .element value => [value]
  | .list items => elementsOf items

/-- The elements of all items. -/
def elementsOf : List (Nested α) → List α
  | [] => []
  | item :: rest => elements item ++ elementsOf rest
end

/-- Each list has the length of its dimension, and elements stand below the last one. -/
def filled : List Nat → Nested α → Bool
  | [], .element _ => true
  | length :: inner, .list items => items.length == length && items.all (filled inner)
  | _, _ => false

/-- The nested list has the shape of the dimensions. An array without dimensions is an empty
list. -/
def shaped (lengths : List Nat) (value : Nested α) : Bool :=
  if lengths.isEmpty then filled [0] value else filled lengths value

/-- The elements of a list of elements. -/
theorem elements_of_elements (values : List α) : elementsOf (values.map .element) = values := by
  induction values with
  | nil => rfl
  | cons value rest ih => rw [List.map_cons, elementsOf, elements, ih, List.singleton_append]

end Nested

/-- The lists that the dimensions ask for. -/
def listCount : List Nat → Nat
  | [] => 1
  | [_] => 1
  | length :: next :: inner => 1 + length * listCount (next :: inner)

/-- The elements that the dimensions ask for. -/
def elementCount (lengths : List Nat) : Nat := if lengths.isEmpty then 0 else lengths.prod

variable {α : Type}

/-- Items with so many lists each. -/
theorem lists_of_items {items : List (Nested α)} {each : Nat}
    (h : ∀ item ∈ items, item.lists = each) :
    Nested.listsOf items = items.length * each := by
  induction items with
  | nil => simp [Nested.listsOf]
  | cons item rest ih =>
      have hrest := ih fun other hother => h other (List.mem_cons_of_mem _ hother)
      rw [Nested.listsOf, h item List.mem_cons_self, hrest, List.length_cons, Nat.succ_mul,
        Nat.add_comm]

/-- The dimensions alone fix how many lists there are. -/
theorem lists_of_filled {lengths : List Nat} {value : Nested α}
    (h : value.filled lengths = true) :
    value.lists = if lengths.isEmpty then 0 else listCount lengths := by
  match lengths, value with
  | [], .element _ => rfl
  | length :: inner, .list items =>
      rw [Nested.filled, Bool.and_eq_true, beq_iff_eq] at h
      have hitems : ∀ item ∈ items, item.lists = if inner.isEmpty then 0 else listCount inner :=
        fun item hitem => lists_of_filled (List.all_eq_true.mp h.2 item hitem)
      rw [Nested.lists, lists_of_items hitems, h.1]
      cases inner with
      | nil => rfl
      | cons next inner => rfl

/-- The dimensions of an array fix how many lists there are. -/
theorem lists_of_shaped {lengths : List Nat} {value : Nested α}
    (h : value.shaped lengths = true) : value.lists = listCount lengths := by
  unfold Nested.shaped at h
  cases lengths with
  | nil => exact lists_of_filled h
  | cons length inner => exact lists_of_filled h

/-- A loop of nested lists of so many elements each. -/
theorem nest_items_spec {nest : List α → Nested α × List α} {each : Nat} {inner : List Nat}
    (h : ∀ values rest : List α, values.length = each → (nest (values ++ rest)).2 = rest ∧
      (nest (values ++ rest)).1.filled inner = true ∧
      (nest (values ++ rest)).1.elements = values) (n : Nat) {values : List α}
    (rest : List α) (hlength : values.length = n * each) :
    (nestItems nest n (values ++ rest)).2 = rest ∧
      (nestItems nest n (values ++ rest)).1.length = n ∧
      (nestItems nest n (values ++ rest)).1.all (Nested.filled inner) = true ∧
      Nested.elementsOf (nestItems nest n (values ++ rest)).1 = values := by
  induction n generalizing values with
  | zero =>
      have hnil : values = [] := List.length_eq_zero_iff.mp (by simpa using hlength)
      subst hnil
      exact ⟨rfl, rfl, rfl, rfl⟩
  | succ n ih =>
      -- The first list takes its elements from the front.
      have hsplit : values = values.take each ++ values.drop each :=
        (List.take_append_drop each values).symm
      have hmul : (n + 1) * each = n * each + each := Nat.succ_mul n each
      have htake : (values.take each).length = each := by
        rw [List.length_take]
        omega
      have hdrop : (values.drop each).length = n * each := by
        rw [List.length_drop]
        omega
      obtain ⟨hrest, hfilled, helements⟩ := h (values.take each) (values.drop each ++ rest) htake
      rw [← List.append_assoc, ← hsplit] at hrest hfilled helements
      obtain ⟨hlast, hcount, hall, hmore⟩ := ih hdrop
      have hstep : nestItems nest (n + 1) (values ++ rest) =
          ((nest (values ++ rest)).1 :: (nestItems nest n (values.drop each ++ rest)).1,
            (nestItems nest n (values.drop each ++ rest)).2) := by
        rw [← hrest]
        rfl
      rw [hstep]
      refine ⟨hlast, by rw [List.length_cons, hcount], ?_, ?_⟩
      · rw [List.all_cons, hfilled, hall, Bool.and_self]
      · rw [Nested.elementsOf, helements, hmore]
        exact hsplit.symm

/-- Nesting gives the values the shape of the dimensions and takes no more of them. -/
theorem nest_array_spec {lengths : List Nat} (hne : lengths ≠ []) {values : List α}
    (rest : List α) (hlength : values.length = lengths.prod) :
    (nestArray lengths (values ++ rest)).2 = rest ∧
      (nestArray lengths (values ++ rest)).1.filled lengths = true ∧
      (nestArray lengths (values ++ rest)).1.elements = values := by
  match lengths with
  | [length] =>
      have hlength : values.length = length := by simpa using hlength
      rw [nestArray, ← hlength, List.take_left, List.drop_left]
      refine ⟨rfl, ?_, ?_⟩
      · simp [Nested.filled]
      · rw [Nested.elements, Nested.elements_of_elements]
  | length :: next :: inner =>
      rw [List.prod_cons] at hlength
      obtain ⟨hrest, hcount, hall, helements⟩ :=
        @nest_items_spec _ (nestArray (next :: inner)) _ (next :: inner)
          (fun values rest hvalues => nest_array_spec (by simp) rest hvalues) length _ rest hlength
      rw [nestArray]
      refine ⟨hrest, ?_, ?_⟩
      · rw [Nested.filled, hcount, hall, beq_self_eq_true, Bool.and_self]
      · rw [Nested.elements]
        exact helements

/-! ## Reading the parts -/

/-- A signed number of four bytes. -/
abbrev WireInt := { n : Int // -2 ^ 31 ≤ n ∧ n < 2 ^ 31 }

/-- The bytes of a number. -/
def i32Bytes (n : Int) : List UInt8 := signedToBeBytes 4 n

theorem length_i32_bytes (n : Int) : (i32Bytes n).length = 4 := length_be_bytes _ _

/-- A number is read exactly from its bytes. -/
theorem take_i32_iff {bytes rest : List UInt8} {n : Int} : takeI32 bytes = some (n, rest) ↔
    bytes = i32Bytes n ++ rest ∧ -2 ^ 31 ≤ n ∧ n < 2 ^ 31 := by
  unfold takeI32
  constructor
  · intro h
    obtain ⟨⟨head, tail⟩, hsplit, hread⟩ := Option.bind_eq_some_iff.mp h
    obtain ⟨m, hm, heq⟩ := Option.map_eq_some_iff.mp hread
    obtain ⟨rfl, rfl⟩ := Prod.mk.inj heq
    obtain ⟨rfl, -⟩ := split_at_checked_iff.mp hsplit
    obtain ⟨hbytes, hrange⟩ := signed_read (by decide) hm
    exact ⟨by rw [i32Bytes, ← hbytes], hrange⟩
  · rintro ⟨rfl, hlow, hhigh⟩
    have hsplit : splitAtChecked (i32Bytes n ++ rest) 4 = some (i32Bytes n, rest) :=
      split_at_checked_iff.mpr ⟨rfl, length_i32_bytes n⟩
    have hread : signedFromBeBytes 4 (i32Bytes n) = some n :=
      signed_from_be_bytes (by decide) hlow hhigh
    rw [hsplit, Option.bind_some]
    simp only
    rw [hread]
    rfl

/-- The bytes of an element. -/
def elementBytes : Option (List UInt8) → List UInt8
  | none => i32Bytes (-1)
  | some bytes => i32Bytes bytes.length ++ bytes

/-- The length of an element fits its prefix. -/
def elementFits : Option (List UInt8) → Bool
  | none => true
  | some bytes => decide (bytes.length < 2 ^ 31)

/-- An element is read exactly from its bytes. -/
theorem take_element_iff {bytes rest : List UInt8} {element : Option (List UInt8)} :
    takeElement bytes = some (element, rest) ↔
      bytes = elementBytes element ++ rest ∧ elementFits element = true := by
  unfold takeElement
  constructor
  · intro h
    obtain ⟨⟨length, tail⟩, hlength, hrest⟩ := Option.bind_eq_some_iff.mp h
    obtain ⟨rfl, hlow, hhigh⟩ := take_i32_iff.mp hlength
    simp only at hrest
    split at hrest
    case isTrue hnull =>
        obtain ⟨rfl, rfl⟩ := Prod.mk.inj (Option.some.inj hrest)
        exact ⟨by rw [hnull, elementBytes], rfl⟩
    case isFalse =>
        obtain ⟨n, hn, hsplit⟩ := Option.bind_eq_some_iff.mp hrest
        obtain rfl := usize_try_from_iff.mp hn
        obtain ⟨⟨head, tail'⟩, hhead, heq⟩ := Option.map_eq_some_iff.mp hsplit
        obtain ⟨rfl, rfl⟩ := Prod.mk.inj heq
        obtain ⟨rfl, hcount⟩ := split_at_checked_iff.mp hhead
        have hlength : head.length = n := hcount
        refine ⟨by rw [elementBytes, List.append_assoc, hlength], ?_⟩
        show decide (head.length < 2 ^ 31) = true
        rw [decide_eq_true_eq]
        omega
  · rintro ⟨rfl, hfits⟩
    cases element with
    | none =>
        rw [elementBytes, take_i32_iff.mpr ⟨rfl, by decide, by decide⟩]
        rfl
    | some payload =>
        rw [elementFits, decide_eq_true_eq] at hfits
        have hlength : takeI32 (i32Bytes payload.length ++ (payload ++ rest)) =
            some ((payload.length : Int), payload ++ rest) :=
          take_i32_iff.mpr ⟨rfl, by omega, by omega⟩
        have hsplit : splitAtChecked (payload ++ rest) payload.length = some (payload, rest) :=
          split_at_checked_iff.mpr ⟨rfl, rfl⟩
        have hnat : usizeTryFrom payload.length = some payload.length :=
          usize_try_from_iff.mpr rfl
        rw [elementBytes, List.append_assoc, hlength, Option.bind_some]
        simp only
        rw [if_neg (by omega), hnat, Option.bind_some, hsplit]
        rfl

/-- The values of elements. -/
def elementValues (decode : List UInt8 → Option Json) (elements : List (Option (List UInt8))) :
    Option (List Json) :=
  elements.mapM (elementValue decode)

/-- So many elements are read from their bytes when they all have values. -/
theorem take_elements_iff {decode : List UInt8 → Option Json} {n : Nat} {bytes rest : List UInt8}
    {values : List Json} : takeElements decode n bytes = some (values, rest) ↔
      ∃ elements : List (Option (List UInt8)), elements.length = n ∧
        bytes = elements.flatMap elementBytes ++ rest ∧ elements.all elementFits = true ∧
        elementValues decode elements = some values := by
  induction n generalizing bytes values with
  | zero =>
      constructor
      · intro h
        obtain ⟨rfl, rfl⟩ := Prod.mk.inj (Option.some.inj h)
        exact ⟨[], rfl, rfl, rfl, rfl⟩
      · rintro ⟨elements, hlength, rfl, -, hvalues⟩
        obtain rfl := List.length_eq_zero_iff.mp hlength
        obtain rfl := Option.some.inj hvalues
        rfl
  | succ n ih =>
      constructor
      · intro h
        obtain ⟨⟨element, tail⟩, helement, hrest⟩ := Option.bind_eq_some_iff.mp h
        obtain ⟨value, hvalue, hmore⟩ := Option.bind_eq_some_iff.mp hrest
        obtain ⟨⟨values', tail'⟩, htake, heq⟩ := Option.map_eq_some_iff.mp hmore
        obtain ⟨rfl, rfl⟩ := Prod.mk.inj heq
        obtain ⟨rfl, hfits⟩ := take_element_iff.mp helement
        obtain ⟨elements, rfl, rfl, hall, hvalues⟩ := ih.mp htake
        refine ⟨element :: elements, rfl, by simp, by rw [List.all_cons, hfits, hall]; rfl, ?_⟩
        unfold elementValues at hvalues ⊢
        simp [List.mapM_cons, hvalue, hvalues]
      · rintro ⟨elements, hlength, rfl, hall, hvalues⟩
        cases elements with
        | nil => cases hlength
        | cons element elements =>
            rw [List.all_cons, Bool.and_eq_true] at hall
            unfold elementValues at hvalues
            rw [List.mapM_cons] at hvalues
            obtain ⟨value, hvalue, hmore⟩ := Option.bind_eq_some_iff.mp hvalues
            obtain ⟨values', hvalues', hpure⟩ := Option.bind_eq_some_iff.mp hmore
            obtain rfl := Option.some.inj hpure
            have helement : takeElement ((element :: elements).flatMap elementBytes ++ rest) =
                some (element, elements.flatMap elementBytes ++ rest) :=
              take_element_iff.mpr ⟨by simp, hall.1⟩
            have htake := ih.mpr ⟨elements, Nat.succ.inj hlength, rfl, hall.2, hvalues'⟩
            rw [takeElements, helement, Option.bind_some]
            simp only
            rw [hvalue, Option.bind_some, htake]
            rfl

/-- The length of a dimension and its lower bound. -/
structure ArrayBound where
  length : Nat
  lower : WireInt
  length_lt : length < 2 ^ 31

/-- The bytes of a dimension. -/
def ArrayBound.bytes (bound : ArrayBound) : List UInt8 :=
  i32Bytes bound.length ++ i32Bytes bound.lower.1

/-- The product of the dimensions so far, unless it overflows. -/
def checkedProduct : Nat → List Nat → Option Nat
  | total, [] => some total
  | total, length :: inner => (checkedMul total length).bind fun total => checkedProduct total inner

/-- So many dimensions are read from their bytes when their product does not overflow. -/
theorem take_dimensions_iff {n total total' : Nat} {bytes rest : List UInt8} {lengths : List Nat} :
    takeDimensions n total bytes = some (lengths, total', rest) ↔
      ∃ bounds : List ArrayBound, bounds.length = n ∧ lengths = bounds.map ArrayBound.length ∧
        bytes = bounds.flatMap ArrayBound.bytes ++ rest ∧
        checkedProduct total lengths = some total' := by
  induction n generalizing total bytes lengths with
  | zero =>
      constructor
      · intro h
        obtain ⟨rfl, heq⟩ := Prod.mk.inj (Option.some.inj h)
        obtain ⟨rfl, rfl⟩ := Prod.mk.inj heq
        exact ⟨[], rfl, rfl, rfl, rfl⟩
      · rintro ⟨bounds, hlength, rfl, rfl, hproduct⟩
        obtain rfl := List.length_eq_zero_iff.mp hlength
        obtain rfl := Option.some.inj hproduct
        rfl
  | succ n ih =>
      constructor
      · intro h
        obtain ⟨⟨declared, tail⟩, hdeclared, hrest⟩ := Option.bind_eq_some_iff.mp h
        obtain ⟨length, hlength, hrest⟩ := Option.bind_eq_some_iff.mp hrest
        obtain ⟨⟨lower, tail'⟩, hlower, hrest⟩ := Option.bind_eq_some_iff.mp hrest
        obtain ⟨product, hproduct, hrest⟩ := Option.bind_eq_some_iff.mp hrest
        obtain ⟨⟨lengths', total'', tail''⟩, htake, heq⟩ := Option.map_eq_some_iff.mp hrest
        obtain ⟨hlengths, heq⟩ := Prod.mk.inj heq
        obtain ⟨rfl, rfl⟩ := Prod.mk.inj heq
        subst hlengths
        obtain rfl := usize_try_from_iff.mp hlength
        obtain ⟨rfl, -, hhigh⟩ := take_i32_iff.mp hdeclared
        -- the lower bound is read and left aside
        obtain ⟨rfl, hrange⟩ := take_i32_iff.mp hlower
        obtain ⟨bounds, rfl, rfl, rfl, hmore⟩ := ih.mp htake
        refine ⟨⟨length, ⟨lower, hrange⟩, by omega⟩ :: bounds, rfl, rfl, ?_, ?_⟩
        · simp [ArrayBound.bytes]
        · rw [checkedProduct, hproduct, Option.bind_some]
          exact hmore
      · rintro ⟨bounds, hlength, rfl, rfl, hproduct⟩
        cases bounds with
        | nil => cases hlength
        | cons bound bounds =>
            rw [List.map_cons, checkedProduct] at hproduct
            obtain ⟨product, hmul, hmore⟩ := Option.bind_eq_some_iff.mp hproduct
            have hfits := bound.length_lt
            have hdeclared : takeI32 ((bound :: bounds).flatMap ArrayBound.bytes ++ rest) =
                some ((bound.length : Int),
                  i32Bytes bound.lower.1 ++ (bounds.flatMap ArrayBound.bytes ++ rest)) :=
              take_i32_iff.mpr ⟨by simp [ArrayBound.bytes], by omega, by omega⟩
            have hlower : takeI32 (i32Bytes bound.lower.1 ++
                (bounds.flatMap ArrayBound.bytes ++ rest)) =
                some (bound.lower.1, bounds.flatMap ArrayBound.bytes ++ rest) :=
              take_i32_iff.mpr ⟨rfl, bound.lower.2⟩
            have hnat : usizeTryFrom bound.length = some bound.length :=
              usize_try_from_iff.mpr rfl
            have htake := ih.mpr ⟨bounds, Nat.succ.inj hlength, rfl, rfl, hmore⟩
            rw [takeDimensions, hdeclared, Option.bind_some]
            simp only
            rw [hnat, Option.bind_some, hlower, Option.bind_some]
            simp only
            rw [hmul, Option.bind_some, htake]
            rfl

/-! ## Arrays on the wire -/

/-- An array of PostgreSQL: at most six dimensions, and an element for each place. -/
structure PgArray where
  bounds : List ArrayBound
  elements : List (Option (List UInt8))
  dims_le : bounds.length ≤ 6
  count : elements.length = elementCount (bounds.map ArrayBound.length)
  fits : elements.all elementFits = true

namespace PgArray

/-- The lengths of the dimensions. -/
def lengths (array : PgArray) : List Nat := array.bounds.map ArrayBound.length

/-- The first fields of the wire form. -/
def header (dimensions : Nat) (hasNulls elementOid : WireInt) : List UInt8 :=
  i32Bytes dimensions ++ i32Bytes hasNulls.1 ++ i32Bytes elementOid.1

/-- The wire form. -/
def wire (array : PgArray) (hasNulls elementOid : WireInt) : List UInt8 :=
  header array.bounds.length hasNulls elementOid ++
    (array.bounds.flatMap ArrayBound.bytes ++ array.elements.flatMap elementBytes)

end PgArray

/-- The bytes of elements are at least four times their number. -/
theorem four_mul_elements_le (elements : List (Option (List UInt8))) :
    4 * elements.length ≤ (elements.flatMap elementBytes).length := by
  induction elements with
  | nil => exact Nat.le_refl 0
  | cons element rest ih =>
      have hfour : 4 ≤ (elementBytes element).length := by
        cases element with
        | none => rw [elementBytes, length_i32_bytes]
        | some payload =>
            rw [elementBytes, List.length_append, length_i32_bytes]
            omega
      rw [List.flatMap_cons, List.length_append, List.length_cons]
      omega

/-- The wire form is long enough for its elements. -/
theorem elements_le_wire (array : PgArray) (hasNulls elementOid : WireInt) :
    4 * array.elements.length + 12 ≤ (array.wire hasNulls elementOid).length := by
  have hfour := four_mul_elements_le array.elements
  simp only [PgArray.wire, PgArray.header, List.length_append, length_i32_bytes]
  omega

/-- Reading the header leaves what stands behind it. -/
theorem pg_array_header (decode : List UInt8 → Option Json) {dimensions : Nat}
    (hdimensions : dimensions < 2 ^ 31) (hasNulls elementOid : WireInt) (rest : List UInt8) :
    pgArrayValue decode (PgArray.header dimensions hasNulls elementOid ++ rest) =
      if dimensions = 0 then some (.list [])
      else if 6 < dimensions then none
      else (takeDimensions dimensions 1 rest).bind fun (lengths, total, behind) =>
        if (PgArray.header dimensions hasNulls elementOid ++ rest).length / 4 < total then none
        else (takeElements decode total behind).bind fun (values, behind) =>
          if behind ≠ [] then none else some (nestArray lengths values).1 := by
  have hfirst : takeI32 (PgArray.header dimensions hasNulls elementOid ++ rest) =
      some ((dimensions : Int), i32Bytes hasNulls.1 ++ (i32Bytes elementOid.1 ++ rest)) :=
    take_i32_iff.mpr ⟨by simp [PgArray.header], by omega, by omega⟩
  have hsecond : takeI32 (i32Bytes hasNulls.1 ++ (i32Bytes elementOid.1 ++ rest)) =
      some (hasNulls.1, i32Bytes elementOid.1 ++ rest) := take_i32_iff.mpr ⟨rfl, hasNulls.2⟩
  have hthird : takeI32 (i32Bytes elementOid.1 ++ rest) = some (elementOid.1, rest) :=
    take_i32_iff.mpr ⟨rfl, elementOid.2⟩
  have hnat : usizeTryFrom dimensions = some dimensions := usize_try_from_iff.mpr rfl
  rw [pgArrayValue, hfirst, Option.bind_some]
  simp only
  rw [hnat, Option.bind_some, hsecond, Option.bind_some]
  simp only
  rw [hthird, Option.bind_some]

/-- What has a value starts with a header. -/
theorem header_of_value {decode : List UInt8 → Option Json} {bytes : List UInt8}
    {value : Nested Json} (h : pgArrayValue decode bytes = some value) :
    ∃ (dimensions : Nat) (hasNulls elementOid : WireInt) (rest : List UInt8),
      bytes = PgArray.header dimensions hasNulls elementOid ++ rest ∧ dimensions ≤ 6 := by
  unfold pgArrayValue at h
  obtain ⟨⟨declared, tail⟩, hdeclared, h⟩ := Option.bind_eq_some_iff.mp h
  obtain ⟨dimensions, hdimensions, h⟩ := Option.bind_eq_some_iff.mp h
  obtain ⟨⟨hasNulls, tail'⟩, hnulls, h⟩ := Option.bind_eq_some_iff.mp h
  obtain ⟨⟨elementOid, rest⟩, hoid, h⟩ := Option.bind_eq_some_iff.mp h
  have hle : dimensions ≤ 6 := by
    by_contra hgt
    simp only at h
    rw [if_neg (by omega), if_pos (by omega)] at h
    cases h
  obtain rfl := usize_try_from_iff.mp hdimensions
  obtain ⟨rfl, -⟩ := take_i32_iff.mp hdeclared
  obtain ⟨rfl, hnullsrange⟩ := take_i32_iff.mp hnulls
  obtain ⟨rfl, hoidrange⟩ := take_i32_iff.mp hoid
  exact ⟨dimensions, ⟨hasNulls, hnullsrange⟩, ⟨elementOid, hoidrange⟩, rest,
    by simp [PgArray.header], hle⟩

/-- Without an overflow the product is the number of elements. -/
theorem checked_product_eq {lengths : List Nat} {total total' : Nat}
    (h : checkedProduct total lengths = some total') : total' = total * lengths.prod := by
  induction lengths generalizing total with
  | nil => rw [List.prod_nil, Nat.mul_one, Option.some.inj h]
  | cons length inner ih =>
      obtain ⟨product, hmul, hmore⟩ := Option.bind_eq_some_iff.mp h
      unfold checkedMul at hmul
      split at hmul
      · rw [ih hmore, ← Option.some.inj hmul, List.prod_cons, Nat.mul_assoc]
      · cases hmul

/-- A list count is positive. -/
theorem list_count_pos (lengths : List Nat) : 0 < listCount lengths := by
  match lengths with
  | [] => exact Nat.one_pos
  | [_] => exact Nat.one_pos
  | _ :: _ :: _ =>
      rw [listCount]
      omega

/-- The product does not overflow where the lists and the elements are few. -/
theorem checked_product_some {lengths : List Nat} {total : Nat}
    (hlists : total * listCount lengths < 2 ^ 64) (hproduct : total * lengths.prod < 2 ^ 64) :
    checkedProduct total lengths = some (total * lengths.prod) := by
  match lengths with
  | [] => rw [checkedProduct, List.prod_nil, Nat.mul_one]
  | [length] =>
      rw [List.prod_singleton] at hproduct ⊢
      rw [checkedProduct, checkedMul, if_pos hproduct, Option.bind_some, checkedProduct]
  | length :: next :: inner =>
      have hcount : total * length * listCount (next :: inner) < 2 ^ 64 := by
        rw [listCount, Nat.mul_add, Nat.mul_one, ← Nat.mul_assoc] at hlists
        omega
      have hfits : total * length < 2 ^ 64 :=
        Nat.lt_of_le_of_lt (Nat.le_mul_of_pos_right _ (list_count_pos (next :: inner))) hcount
      rw [List.prod_cons, ← Nat.mul_assoc] at hproduct ⊢
      rw [checkedProduct, checkedMul, if_pos hfits, Option.bind_some]
      exact checked_product_some hcount hproduct

/-- Where no dimension is empty, each element stands in as many lists as there are dimensions. -/
theorem list_count_le {lengths : List Nat} (hne : lengths ≠ []) (hpos : 0 ∉ lengths) :
    listCount lengths ≤ lengths.length * lengths.prod := by
  match lengths with
  | [length] =>
      rw [listCount, List.length_singleton, List.prod_singleton, Nat.one_mul]
      exact Nat.pos_of_ne_zero fun hzero => hpos (by simp [hzero])
  | length :: next :: inner =>
      have hinner := @list_count_le (next :: inner) (by simp)
        fun hzero => hpos (List.mem_cons_of_mem _ hzero)
      have hprod : 0 < (length :: next :: inner).prod :=
        Nat.pos_of_ne_zero fun hzero => hpos (List.prod_eq_zero_iff.mp hzero)
      have hmul := Nat.mul_le_mul_left length hinner
      rw [List.prod_cons] at hprod ⊢
      rw [listCount, List.length_cons (a := length), Nat.succ_mul]
      rw [Nat.mul_left_comm] at hmul
      omega

/-! ## When arrays are decoded as they should -/

/-- The decoder is right about the bytes: an array gives the nested list of its shape and its
elements, and a value is only given for the wire form of an array and with no more lists than twice
the length of the bytes. -/
structure DecodesArray (decode : List UInt8 → Option Json) (bytes : List UInt8) : Prop where
  /-- An array gives the nested list of its elements when they all have values. -/
  complete : ∀ (array : PgArray) (hasNulls elementOid : WireInt),
    bytes = array.wire hasNulls elementOid → ∀ values,
      elementValues decode array.elements = some values →
        ∃ value, pgArrayValue decode bytes = some value ∧
          value.shaped array.lengths = true ∧ value.elements = values
  /-- A value has the shape and the elements of the array that the bytes are. -/
  sound : ∀ value, pgArrayValue decode bytes = some value →
    ∃ (array : PgArray) (hasNulls elementOid : WireInt),
      bytes = array.wire hasNulls elementOid ∧ value.shaped array.lengths = true ∧
        elementValues decode array.elements = some value.elements
  /-- The lists are bounded by the bytes. -/
  bounded : ∀ value, pgArrayValue decode bytes = some value → value.lists ≤ 2 * bytes.length

/-- Nothing follows a header that declares no dimension, and above a dimension of length zero the
declared lists are no more than twice the length of the bytes. -/
structure SoundHeader (bytes : List UInt8) : Prop where
  no_trailing : ∀ (hasNulls elementOid : WireInt) (rest : List UInt8),
    bytes = PgArray.header 0 hasNulls elementOid ++ rest → rest = []
  few_lists : ∀ (array : PgArray) (hasNulls elementOid : WireInt),
    bytes = array.wire hasNulls elementOid → 0 ∈ array.lengths →
      listCount array.lengths ≤ 2 * bytes.length

/-- The bytes of a slice are fewer than half the address space. -/
abbrev Slice := { bytes : List UInt8 // bytes.length < 2 ^ 63 }

/-- Under a sound header the lists of an array are few. -/
theorem list_count_bound {bytes : List UInt8} (hheader : SoundHeader bytes) {array : PgArray}
    {hasNulls elementOid : WireInt} (hbytes : bytes = array.wire hasNulls elementOid) :
    listCount array.lengths ≤ 2 * bytes.length := by
  have hwire := elements_le_wire array hasNulls elementOid
  rw [← hbytes] at hwire
  by_cases hzero : 0 ∈ array.lengths
  · exact hheader.few_lists array hasNulls elementOid hbytes hzero
  · by_cases hne : array.lengths = []
    · rw [hne, listCount]
      omega
    · have hcount := list_count_le hne hzero
      have hdims : array.lengths.length ≤ 6 := by
        rw [PgArray.lengths, List.length_map]
        exact array.dims_le
      have helements : array.elements.length = array.lengths.prod := by
        rw [array.count, elementCount, if_neg (by simpa [PgArray.lengths] using hne)]
        rfl
      have hmul := Nat.mul_le_mul_right array.lengths.prod hdims
      rw [← helements] at hcount hmul
      omega

/-- The decoder on the wire form of an array whose product does not overflow. -/
theorem pg_array_wire {decode : List UInt8 → Option Json} {array : PgArray}
    {hasNulls elementOid : WireInt} (hne : array.bounds ≠ [])
    (hproduct : checkedProduct 1 array.lengths = some array.elements.length) {values : List Json}
    (hvalues : elementValues decode array.elements = some values) :
    pgArrayValue decode (array.wire hasNulls elementOid) =
      some (nestArray array.lengths values).1 := by
  have hdims := array.dims_le
  have hpos := List.length_pos_iff.mpr hne
  have hwire := elements_le_wire array hasNulls elementOid
  have htake : takeDimensions array.bounds.length 1
      (array.bounds.flatMap ArrayBound.bytes ++ array.elements.flatMap elementBytes) =
      some (array.lengths, array.elements.length, array.elements.flatMap elementBytes) :=
    take_dimensions_iff.mpr ⟨array.bounds, rfl, rfl, rfl, hproduct⟩
  have helements : takeElements decode array.elements.length
      (array.elements.flatMap elementBytes) = some (values, []) :=
    take_elements_iff.mpr ⟨array.elements, rfl, by simp, array.fits, hvalues⟩
  unfold PgArray.wire at hwire ⊢
  rw [pg_array_header decode (by omega), if_neg (by omega), if_neg (by omega), htake,
    Option.bind_some]
  simp only
  rw [if_neg (by omega), helements, Option.bind_some]
  simp

/-- A value comes from a header without dimensions or from the wire form of an array. -/
theorem pg_array_cases {decode : List UInt8 → Option Json} {bytes : List UInt8}
    {value : Nested Json} (h : pgArrayValue decode bytes = some value) :
    (∃ (hasNulls elementOid : WireInt) (rest : List UInt8),
      bytes = PgArray.header 0 hasNulls elementOid ++ rest ∧ value = .list []) ∨
    ∃ (array : PgArray) (hasNulls elementOid : WireInt) (values : List Json),
      bytes = array.wire hasNulls elementOid ∧ array.bounds ≠ [] ∧
        elementValues decode array.elements = some values ∧
        value = (nestArray array.lengths values).1 := by
  obtain ⟨dimensions, hasNulls, elementOid, rest, rfl, hdims⟩ := header_of_value h
  rw [pg_array_header decode (by omega)] at h
  split at h
  case isTrue hzero =>
      subst hzero
      exact .inl ⟨hasNulls, elementOid, rest, rfl, (Option.some.inj h).symm⟩
  case isFalse hne =>
      rw [if_neg (by omega)] at h
      obtain ⟨⟨lengths, total, behind⟩, htake, hrest⟩ := Option.bind_eq_some_iff.mp h
      simp only at hrest
      split at hrest
      case isTrue => cases hrest
      case isFalse =>
          obtain ⟨⟨values, behind'⟩, helements, hlast⟩ := Option.bind_eq_some_iff.mp hrest
          simp only at hlast
          split at hlast
          case isTrue => cases hlast
          case isFalse hempty =>
              have hvalue := (Option.some.inj hlast).symm
              obtain ⟨bounds, rfl, rfl, rfl, hproduct⟩ := take_dimensions_iff.mp htake
              obtain ⟨elements, hcount, rfl, hfits, hvalues⟩ := take_elements_iff.mp helements
              have hnil : behind' = [] := not_not.mp hempty
              have htotal := checked_product_eq hproduct
              have hbounds : bounds ≠ [] := fun hnil => hne (by rw [hnil, List.length_nil])
              refine .inr ⟨⟨bounds, elements, hdims, ?_, hfits⟩, hasNulls, elementOid, values, ?_,
                hbounds, hvalues, hvalue⟩
              · rw [hcount, htotal, Nat.one_mul, elementCount, if_neg (by simpa using hbounds)]
              · rw [PgArray.wire, hnil, List.append_nil]

/-- An array without dimensions has no elements. -/
theorem elements_of_no_bounds {array : PgArray} (h : array.bounds = []) : array.elements = [] := by
  have hcount := array.count
  rw [h] at hcount
  exact List.length_eq_zero_iff.mp hcount

/-- There is a value for each element. -/
theorem length_element_values {decode : List UInt8 → Option Json}
    {elements : List (Option (List UInt8))} {values : List Json}
    (h : elementValues decode elements = some values) : values.length = elements.length := by
  unfold elementValues at h
  induction elements generalizing values with
  | nil =>
      obtain rfl := Option.some.inj h
      rfl
  | cons element rest ih =>
      rw [List.mapM_cons] at h
      obtain ⟨value, -, hmore⟩ := Option.bind_eq_some_iff.mp h
      obtain ⟨values', hvalues', hpure⟩ := Option.bind_eq_some_iff.mp hmore
      obtain rfl := Option.some.inj hpure
      rw [List.length_cons, List.length_cons, ih hvalues']

/-- A nested array has the shape and the elements of the array. -/
theorem nest_shaped {array : PgArray} (hne : array.bounds ≠ []) {decode : List UInt8 → Option Json}
    {values : List Json} (hvalues : elementValues decode array.elements = some values) :
    (nestArray array.lengths values).1.shaped array.lengths = true ∧
      (nestArray array.lengths values).1.elements = values := by
  have hlengths : array.lengths ≠ [] := by simpa [PgArray.lengths] using hne
  have hcount : values.length = array.lengths.prod := by
    rw [length_element_values hvalues, array.count, elementCount, if_neg (by simpa using hne)]
    rfl
  obtain ⟨-, hfilled, helements⟩ := nest_array_spec hlengths [] hcount
  rw [List.append_nil] at hfilled helements
  refine ⟨?_, helements⟩
  rw [Nested.shaped, if_neg (by simpa using hlengths)]
  exact hfilled

/-- The decoder is right about exactly the bytes with a sound header. -/
theorem decodes_array_iff (decode : List UInt8 → Option Json) (bytes : Slice) :
    DecodesArray decode bytes.1 ↔ SoundHeader bytes.1 := by
  obtain ⟨bytes, hslice⟩ := bytes
  constructor
  · intro h
    refine ⟨?_, ?_⟩
    · rintro hasNulls elementOid rest rfl
      obtain ⟨array, hasNulls', elementOid', hbytes, -⟩ := h.sound (.list [])
        (by rw [pg_array_header decode (by decide), if_pos rfl])
      -- The array that the bytes are has no dimension either.
      have hdims := array.dims_le
      have hfirst := congrArg (List.take 4) hbytes
      have htake : ∀ (n : Nat) (more : List UInt8), (i32Bytes n ++ more).take 4 = i32Bytes n :=
        fun n more => List.take_left' (length_i32_bytes n)
      simp only [PgArray.wire, PgArray.header, List.append_assoc, htake] at hfirst
      have hzero : array.bounds.length = 0 := by
        have hread : ∀ n : Nat, n ≤ 6 → signedFromBeBytes 4 (i32Bytes n) = some (n : Int) :=
          fun n hn => signed_from_be_bytes (by decide) (by omega) (by omega)
        have heq := congrArg (signedFromBeBytes 4) hfirst
        rw [hread 0 (by omega), hread _ hdims] at heq
        have hint := Option.some.inj heq
        omega
      have hnil := List.length_eq_zero_iff.mp hzero
      have hlength := congrArg List.length hbytes
      simp only [PgArray.wire, PgArray.header, hnil, elements_of_no_bounds hnil,
        List.length_append, length_i32_bytes, List.flatMap_nil, List.length_nil] at hlength
      exact List.length_eq_zero_iff.mp (by omega)
    · rintro array hasNulls elementOid rfl hzero
      have hne : array.bounds ≠ [] := by
        intro hnil
        rw [PgArray.lengths, hnil] at hzero
        cases hzero
      have hempty : array.elements = [] := by
        have hcount := array.count
        have hprod : array.lengths.prod = 0 := List.prod_eq_zero_iff.mpr hzero
        rw [elementCount, if_neg (by simpa using hne)] at hcount
        exact List.length_eq_zero_iff.mp (hcount.trans hprod)
      have hvalues : elementValues decode array.elements = some [] := by
        rw [hempty]
        rfl
      obtain ⟨value, hvalue, hshaped, -⟩ := h.complete array hasNulls elementOid rfl [] hvalues
      rw [← lists_of_shaped hshaped]
      exact h.bounded value hvalue
  · intro h
    refine ⟨?_, ?_, ?_⟩
    · rintro array hasNulls elementOid rfl values hvalues
      by_cases hnil : array.bounds = []
      · rw [elements_of_no_bounds hnil] at hvalues
        obtain rfl := Option.some.inj hvalues
        have hzero : array.bounds.length = 0 := List.length_eq_zero_iff.mpr hnil
        refine ⟨.list [], ?_, ?_, rfl⟩
        · show pgArrayValue decode (PgArray.header array.bounds.length hasNulls elementOid ++ _) = _
          rw [hzero, pg_array_header decode (by decide), if_pos rfl]
        · rw [PgArray.lengths, hnil]
          rfl
      · have hcount := @list_count_bound _ h array _ _ rfl
        simp only at hcount
        have hwire := elements_le_wire array hasNulls elementOid
        have hprod : array.elements.length = array.lengths.prod := by
          rw [array.count, elementCount, if_neg (by simpa using hnil)]
          rfl
        have hproduct : checkedProduct 1 array.lengths = some array.elements.length := by
          rw [hprod, checked_product_some, Nat.one_mul] <;> omega
        obtain ⟨hshaped, helements⟩ := nest_shaped hnil hvalues
        exact ⟨_, pg_array_wire hnil hproduct hvalues, hshaped, helements⟩
    · intro value hvalue
      rcases pg_array_cases hvalue with ⟨hasNulls, elementOid, rest, hbytes, rfl⟩ |
        ⟨array, hasNulls, elementOid, values, hbytes, hne, hvalues, rfl⟩
      · have hrest := h.no_trailing hasNulls elementOid rest hbytes
        refine ⟨⟨[], [], by decide, rfl, rfl⟩, hasNulls, elementOid, ?_, rfl, rfl⟩
        rw [hbytes, hrest]
        rfl
      · obtain ⟨hshaped, helements⟩ := nest_shaped hne hvalues
        exact ⟨array, hasNulls, elementOid, hbytes, hshaped, by rw [helements, hvalues]⟩
    · intro value hvalue
      rcases pg_array_cases hvalue with ⟨hasNulls, elementOid, rest, rfl, rfl⟩ |
        ⟨array, hasNulls, elementOid, values, hbytes, hne, hvalues, rfl⟩
      · show 1 ≤ _
        simp only [PgArray.header, List.length_append, length_i32_bytes]
        omega
      · rw [lists_of_shaped (nest_shaped hne hvalues).1]
        exact list_count_bound h hbytes

/-- An array of a thousand rows of length zero. -/
def emptyRows : PgArray where
  bounds := [⟨1000, ⟨1, by decide⟩, by decide⟩, ⟨0, ⟨1, by decide⟩, by decide⟩]
  elements := []
  dims_le := by decide
  count := rfl
  fits := rfl

/-- Its 28 bytes make the decoder build 1001 lists. -/
theorem empty_rows_unbounded :
    ¬DecodesArray (fun _ => none) (emptyRows.wire ⟨0, by decide⟩ ⟨25, by decide⟩) := by
  intro h
  obtain ⟨value, hvalue, hshaped, -⟩ := h.complete emptyRows _ _ rfl [] rfl
  have hbound := h.bounded value hvalue
  have hlength : (emptyRows.wire ⟨0, by decide⟩ ⟨25, by decide⟩).length = 28 := by
    simp [PgArray.wire, PgArray.header, emptyRows, ArrayBound.bytes, length_i32_bytes]
  have hcount : listCount emptyRows.lengths = 1001 := by decide
  rw [lists_of_shaped hshaped, hlength, hcount] at hbound
  omega

end Dopedb.Executor
