import Dopedb.Desktop.DirectDomain

/-!
# Inputs of direct access

What the control plane checks of a principal and of a scope before it stores them
(`workspace-direct-access-core.ts`), and when the device accepts the same inputs. Texts are lists
of Unicode scalars: no other text reaches a device.
-/

namespace Dopedb.Cloud

open Library Desktop
open Results (splitOnce)
open Safety (toAsciiLowercase)

/-! ## Names and markers -/

/-- `PRINCIPAL_NAME`. -/
def principalNameClasses : List (Char → Bool) :=
  literally "dopedb_" ++ List.replicate 20 isLowerHexDigit

/-- `isValidPrincipalName`. -/
def isValidPrincipalName (value : String) : Bool := matchesClasses principalNameClasses value.toList

/-- `generatePrincipalMarker`, for the random bytes. -/
def generatePrincipalMarker (bytes : List UInt8) : String :=
  String.ofList (((Base64.encode bytes).map fun c =>
    if c = '+' then '-' else if c = '/' then '_' else c).filter (· ≠ '='))

/-! ## The scope -/

/-- A character outside ASCII is left alone by the lowercase of ASCII. -/
theorem to_lower_other {c : Char} (hc : 128 ≤ c.toNat) : c.toLower = c := by
  unfold Char.toLower
  rw [dif_neg]
  intro hupper
  have : c.toNat ≤ 90 := hupper.2
  omega

/-- The lowercase of an ASCII character is one. -/
theorem to_lower_ascii {c : Char} (hc : c.toNat < 128) : c.toLower.toNat < 128 := by
  unfold Char.toLower
  split
  case isTrue hupper =>
      have hle : c.toNat ≤ 90 := hupper.2
      show (c.val + ('a'.val - 'A'.val)).toNat < 128
      rw [UInt32.toNat_add]
      show (c.toNat + 32) % 2 ^ 32 < 128
      omega
  case isFalse => exact hc

/-- `String.prototype.toLowerCase`, by the mapping of one character between the ones before and
after it. Only the Kelvin sign becomes an ASCII text without being one. -/
structure LowerCasing where
  mapping : List Char → Char → List Char → List Char
  ascii : ∀ before c after, c.toNat < 128 → mapping before c after = [c.toLower]
  kelvin : ∀ before after, mapping before '\u212a' after = ['k']
  other : ∀ before c after, 128 ≤ c.toNat → c ≠ '\u212a' →
    ∃ d ∈ mapping before c after, 128 ≤ d.toNat

namespace LowerCasing

/-- The mapping of a text, after the characters before it. -/
def lower (casing : LowerCasing) : List Char → List Char → List Char
  | _, [] => []
  | before, c :: after => casing.mapping before c after ++ lower casing (before ++ [c]) after

/-- `toLowerCase`. -/
def toLowerCase (casing : LowerCasing) (text : String) : String :=
  String.ofList (casing.lower [] text.toList)

/-- The mapping that leaves every other character alone. -/
def plain : LowerCasing where
  mapping _ c _ := if c = '\u212a' then ['k'] else [c.toLower]
  ascii := by
    intro _ c _ hc
    refine if_neg ?_
    rintro rfl
    exact absurd hc (by decide)
  kelvin _ _ := if_pos rfl
  other := by
    intro _ c _ hc hkelvin
    refine ⟨c, ?_, hc⟩
    rw [if_neg hkelvin, List.mem_singleton, to_lower_other hc]

end LowerCasing

/-- The simple case folding of a character, as far as it reaches the ASCII letters. -/
def foldCase (c : Char) : Char :=
  if c = '\u017f' then 's' else if c = '\u212a' then 'k' else c.toLower

/-- `PG_RESERVED_SCHEMA`, which ignores case by the folding of Unicode. -/
def pgReservedSchema (name : String) : Bool :=
  let folded := name.toList.map foldCase
  "pg_".toList.isPrefixOf folded || folded = "information_schema".toList

/-- A control of ASCII. -/
def isAsciiControl (c : Char) : Bool := decide (c.toNat ≤ 0x1f) || c.toNat = 0x7f

/-- The engine can hold the name. -/
def scopeLengthOk (engine : DirectEngine) (entry : String) : Bool :=
  match engine with
  | .postgres => decide (byteLength entry.toList ≤ 63)
  | .mysql => decide (entry.toList.length ≤ 64)

/-- A name that `parseDirectScope` reserves. -/
def reservedEntry (casing : LowerCasing) (engine : DirectEngine) (entry : String) : Bool :=
  match engine with
  | .postgres => pgReservedSchema entry
  | .mysql => decide (casing.toLowerCase entry ∈
      ["mysql", "information_schema", "performance_schema", "sys"])

/-- What `parseDirectScope` refuses of an entry on its own. -/
def refusedEntry (casing : LowerCasing) (engine : DirectEngine) (entry : String) : Bool :=
  entry.toList.isEmpty || !scopeLengthOk engine entry ||
    (entry.toList.any fun c => isAsciiControl c || isQuoting c) ||
    entry.toList ≠ jsTrim entry.toList || reservedEntry casing engine entry

/-- The loop of `parseDirectScope`, with the entries seen in their order. -/
def parseEntries (casing : LowerCasing) (engine : DirectEngine) :
    List String → List String → Except String (List String)
  | seen, [] => .ok seen
  | seen, entry :: rest =>
    if refusedEntry casing engine entry ∨ entry ∈ seen then .error "Invalid direct scope"
    else parseEntries casing engine (seen ++ [entry]) rest

/-- `parseDirectScope`, on an array of texts. -/
def parseDirectScope (casing : LowerCasing) (engine : DirectEngine) (value : List String) :
    Except String (List String) :=
  if value.length < 1 ∨ 32 < value.length then .error "Invalid direct scope"
  else parseEntries casing engine [] value

variable {casing : LowerCasing} {engine : DirectEngine}

/-- What the loop accepts, and what it returns. -/
theorem parse_entries_ok {seen names result : List String} :
    parseEntries casing engine seen names = .ok result ↔
      result = seen ++ names ∧ (∀ name ∈ names, refusedEntry casing engine name = false) ∧
        names.Nodup ∧ ∀ name ∈ names, name ∉ seen := by
  induction names generalizing seen with
  | nil =>
      simp only [parseEntries, Except.ok.injEq, List.append_nil, List.not_mem_nil,
        false_implies, implies_true, List.nodup_nil, and_true]
      exact eq_comm
  | cons name names ih =>
      rw [List.forall_mem_cons, List.forall_mem_cons, List.nodup_cons]
      unfold parseEntries
      by_cases hname : refusedEntry casing engine name ∨ name ∈ seen
      · rw [if_pos hname]
        simp only [reduceCtorEq, false_iff]
        rintro ⟨-, ⟨hvalid, -⟩, -, hnew, -⟩
        rcases hname with hrefused | hseen
        · rw [hvalid] at hrefused
          cases hrefused
        · exact hnew hseen
      · rw [if_neg hname, ih]
        obtain ⟨hvalid, hnew⟩ := not_or.mp hname
        simp only [List.mem_append, List.mem_singleton, not_or, List.append_assoc,
          List.singleton_append]
        constructor
        · rintro ⟨hresult, hnames, hnodup, hfresh⟩
          exact ⟨hresult, ⟨Bool.of_not_eq_true hvalid, hnames⟩,
            ⟨fun h => (hfresh name h).2 rfl, hnodup⟩, hnew, fun other h => (hfresh other h).1⟩
        · rintro ⟨hresult, ⟨-, hnames⟩, ⟨hown, hnodup⟩, -, hfresh⟩
          exact ⟨hresult, hnames, hnodup,
            fun other h => ⟨hfresh other h, fun heq => hown (heq ▸ h)⟩⟩

/-- The lists that the control plane accepts. -/
theorem parse_direct_scope_iff {names : List String} :
    (∃ accepted, parseDirectScope casing engine names = .ok accepted) ↔
      names ≠ [] ∧ names.length ≤ MAX_SCOPE_ENTRIES ∧
        (∀ name ∈ names, refusedEntry casing engine name = false) ∧ names.Nodup := by
  unfold parseDirectScope MAX_SCOPE_ENTRIES
  split
  case isTrue hlength =>
      simp only [reduceCtorEq, exists_false, false_iff]
      rintro ⟨hne, hle, -⟩
      have := List.length_pos_iff.mpr hne
      omega
  case isFalse hlength =>
      have hne : names ≠ [] := fun h => hlength (.inl (by rw [h]; decide))
      have hle : names.length ≤ 32 := by omega
      simp [parse_entries_ok, hne, hle]

/-! ## What the two sides refuse -/

/-- A name starts or ends with a blank character. -/
def endsBlank (blank : Char → Bool) (name : String) : Bool :=
  name.toList.head?.any blank || name.toList.getLast?.any blank

/-- The checks that both sides make of a name. -/
def passesBoth (engine : DirectEngine) (name : String) : Bool :=
  namespaceLengthOk engine name && !endsBlank (fun c => isWhitespace c && isJsBlank c) name &&
    !(name.toList.any fun c => isAsciiControl c || isQuoting c) &&
    !systemNamespace engine (toAsciiLowercase name)

/-- What only the control plane refuses: a byte order mark at an end, and the system schema with a
long s. -/
def refusedByPlane (engine : DirectEngine) (name : String) : Bool :=
  endsBlank (fun c => c.toNat = 0xfeff) name ||
    (engine = .postgres && toAsciiLowercase name = "information_\u017fchema")

/-- A control of Latin-1, which only the device refuses. -/
def isHighControl (c : Char) : Bool := decide (0x80 ≤ c.toNat) && decide (c.toNat ≤ 0x9f)

/-- What only the device refuses. -/
def refusedByDevice (name : String) : Bool := name.toList.any isHighControl

theorem length_drop_while_lt {blank : Char → Bool} {c : Char} {rest : List Char}
    (hc : blank c = true) : ((c :: rest).dropWhile blank).length < (c :: rest).length := by
  rw [List.dropWhile_cons_of_pos hc]
  exact Nat.lt_succ_of_le (List.IsSuffix.length_le (List.dropWhile_suffix blank))

/-- A text is trimmed exactly when it neither starts nor ends with a blank character. -/
theorem trim_by_self_iff (blank : Char → Bool) (name : String) :
    name.toList = trimBy blank name.toList ↔ endsBlank blank name = false := by
  generalize hends : endsBlank blank name = ends
  unfold endsBlank at hends
  generalize name.toList = text at *
  cases ends with
  | false =>
      obtain ⟨hfirst, hlast⟩ := Bool.or_eq_false_iff.mp hends
      have htrim := @trim_by_eq blank [] text [] (by simp) (by simp)
        (fun c hc => by
          rw [Option.mem_def.mp hc] at hfirst
          simpa using hfirst)
        (fun c hc => by
          rw [Option.mem_def.mp hc] at hlast
          simpa using hlast)
      simpa using htrim.symm
  | true =>
      simp only [Bool.true_eq_false, iff_false]
      intro hself
      have hlength := congrArg List.length hself
      unfold trimBy at hlength
      rw [List.length_reverse] at hlength
      have hsecond := List.IsSuffix.length_le
        (List.dropWhile_suffix blank (l := (text.dropWhile blank).reverse))
      rw [List.length_reverse] at hsecond
      have hsuffix := List.dropWhile_suffix blank (l := text)
      rcases Bool.or_eq_true_iff.mp hends with hfirst | hlast
      · -- the first character is dropped
        cases text with
        | nil => cases hfirst
        | cons c rest =>
            have := @length_drop_while_lt blank c rest
              (by simpa using hfirst)
            omega
      · -- the last character is dropped, if any is left
        have hle := hsuffix.length_le
        cases hrest : (text.dropWhile blank).reverse with
        | nil =>
            rw [hrest] at hlength
            have hnil : text = [] := List.length_eq_zero_iff.mp hlength
            rw [hnil] at hlast
            cases hlast
        | cons c rest =>
            have hblank : blank c = true := by
              obtain ⟨front, hfront⟩ := hsuffix
              have hdrop : text.dropWhile blank = rest.reverse ++ [c] := by
                rw [← List.reverse_reverse (text.dropWhile blank), hrest, List.reverse_cons]
              rw [← hfront, hdrop, ← List.append_assoc, List.getLast?_concat] at hlast
              simpa using hlast
            rw [hrest] at hlength
            have := @length_drop_while_lt _ _ rest hblank
            rw [← hrest, List.length_reverse, hrest] at this
            omega

/-- Some character at an end is of one of two kinds. -/
theorem ends_blank_or {blank first second : Char → Bool}
    (h : ∀ c, blank c = (first c || second c)) (name : String) :
    endsBlank blank name = (endsBlank first name || endsBlank second name) := by
  unfold endsBlank
  cases name.toList.head? <;> cases name.toList.getLast? <;> simp [h, Bool.or_assoc]
  simp only [Bool.or_left_comm]

/-- The blanks of Rust: those of both, and U+0085. -/
theorem whitespace_eq (c : Char) :
    isWhitespace c = ((isWhitespace c && isJsBlank c) || c.toNat = 0x85) := by
  rw [Bool.eq_iff_iff]
  simp [isWhitespace, isJsBlank]
  omega

/-- The blanks of JavaScript: those of both, and the byte order mark. -/
theorem js_blank_eq (c : Char) :
    isJsBlank c = ((isWhitespace c && isJsBlank c) || c.toNat = 0xfeff) := by
  rw [Bool.eq_iff_iff]
  simp [isWhitespace, isJsBlank]
  omega

/-- The controls of the device: those of ASCII and those of Latin-1. -/
theorem control_char_eq (c : Char) : isControlChar c = (isAsciiControl c || isHighControl c) := by
  rw [Bool.eq_iff_iff]
  simp [isControlChar, isAsciiControl, isHighControl]
  omega

/-- A character at an end is one of the text. -/
theorem ends_blank_any {blank blank' : Char → Bool} (h : ∀ c, blank c → blank' c) {name : String}
    (hends : endsBlank blank name = true) : name.toList.any blank' = true := by
  unfold endsBlank at hends
  rw [List.any_eq_true]
  rcases Bool.or_eq_true_iff.mp hends with hfirst | hlast
  · obtain ⟨c, hc, hblank⟩ := (Option.any_eq_true _ _).mp hfirst
    exact ⟨c, List.mem_of_mem_head? hc, h c hblank⟩
  · obtain ⟨c, hc, hblank⟩ := (Option.any_eq_true _ _).mp hlast
    exact ⟨c, List.mem_of_getLast? hc, h c hblank⟩

/-- What the device checks. -/
theorem valid_namespace_name_iff (engine : DirectEngine) (name : String) :
    validNamespaceName engine name = (passesBoth engine name && !refusedByDevice name) := by
  have htrim := trim_by_self_iff isWhitespace name
  rw [ends_blank_or whitespace_eq] at htrim
  have hcontrols : (name.toList.any fun c => isControlChar c || isQuoting c) =
      ((name.toList.any fun c => isAsciiControl c || isQuoting c) || refusedByDevice name) := by
    unfold refusedByDevice
    induction name.toList with
    | nil => rfl
    | cons c rest ih =>
        rw [List.any_cons, List.any_cons, List.any_cons, ih, control_char_eq]
        cases isAsciiControl c <;> cases isHighControl c <;> cases isQuoting c <;> simp
  have hnext : endsBlank (fun c => c.toNat = 0x85) name = true → refusedByDevice name = true :=
    ends_blank_any fun c hc => by
      rw [decide_eq_true_eq] at hc
      simp [isHighControl, hc]
  unfold validNamespaceName passesBoth
  rw [hcontrols, show trim name.toList = trimBy isWhitespace name.toList from rfl]
  generalize namespaceLengthOk engine name = lengthOk at *
  generalize systemNamespace engine (toAsciiLowercase name) = system at *
  generalize refusedByDevice name = refused at *
  generalize (name.toList.any fun c => isAsciiControl c || isQuoting c) = controls at *
  generalize endsBlank (fun c => isWhitespace c && isJsBlank c) name = ends at *
  generalize endsBlank (fun c => decide (c.toNat = 0x85)) name = next at *
  by_cases hself : name.toList = trimBy isWhitespace name.toList
  · obtain ⟨rfl, rfl⟩ := Bool.or_eq_false_iff.mp (htrim.mp hself)
    rw [show decide (name.toList ≠ trimBy isWhitespace name.toList) = false by simp [← hself]]
    cases lengthOk <;> cases controls <;> cases refused <;> cases system <;> rfl
  · have hends := mt htrim.mpr hself
    rw [if_pos (by simp [hself])]
    cases ends <;> cases next <;> cases refused <;> cases lengthOk <;> simp_all

/-! ### Reserved names -/

theorem fold_case_iff {c d : Char} (hd : d.toNat < 128) (hs : d ≠ 's') (hk : d ≠ 'k') :
    foldCase c = d ↔ c.toLower = d := by
  unfold foldCase
  split
  case isTrue hlong =>
      subst hlong
      constructor
      · intro h
        exact absurd h.symm hs
      · rintro rfl
        exact absurd hd (by decide)
  case isFalse =>
      split
      case isTrue hkelvin =>
          subst hkelvin
          constructor
          · intro h
            exact absurd h.symm hk
          · rintro rfl
            exact absurd hd (by decide)
      case isFalse => exact Iff.rfl

/-- A text folds to a word without s and k exactly when its lowercase is the word. -/
theorem map_fold_iff {text word : List Char}
    (hword : ∀ d ∈ word, d.toNat < 128 ∧ d ≠ 's' ∧ d ≠ 'k') :
    text.map foldCase = word ↔ text.map Char.toLower = word := by
  induction word generalizing text with
  | nil => simp
  | cons d word ih =>
      obtain ⟨hd, hrest⟩ := List.forall_mem_cons.mp hword
      cases text with
      | nil => simp
      | cons c text =>
          rw [List.map_cons, List.map_cons, List.cons.injEq, List.cons.injEq,
            fold_case_iff hd.1 hd.2.1 hd.2.2, ih hrest]

/-- The characters that fold to s. -/
theorem fold_case_s_iff (c : Char) : foldCase c = 's' ↔ c.toLower = 's' ∨ c.toLower = '\u017f' := by
  unfold foldCase
  split
  case isTrue hlong =>
      subst hlong
      decide
  case isFalse hlong =>
      split
      case isTrue hkelvin =>
          subst hkelvin
          decide
      case isFalse =>
          constructor
          · exact .inl
          · rintro (h | h)
            · exact h
            · exfalso
              by_cases hc : 128 ≤ c.toNat
              · rw [to_lower_other hc] at h
                exact hlong h
              · have hlt := to_lower_ascii (not_le.mp hc)
                rw [h] at hlt
                exact absurd hlt (by decide)

/-- The two ways to write the system schema: with an s and with a long s. -/
theorem map_fold_system (text : List Char) :
    text.map foldCase = "information_schema".toList ↔
      text.map Char.toLower = "information_schema".toList ∨
        text.map Char.toLower = "information_\u017fchema".toList := by
  have hlead : ∀ d ∈ "information_".toList, d.toNat < 128 ∧ d ≠ 's' ∧ d ≠ 'k' := by simp
  have htail : ∀ d ∈ "chema".toList, d.toNat < 128 ∧ d ≠ 's' ∧ d ≠ 'k' := by simp
  rw [show "information_schema".toList = "information_".toList ++ 's' :: "chema".toList from rfl,
    show "information_\u017fchema".toList =
      "information_".toList ++ '\u017f' :: "chema".toList from rfl]
  simp only [List.map_eq_append_iff, List.map_eq_cons_iff]
  constructor
  · rintro ⟨lead, rest, rfl, hl, c, tail, rfl, hc, ht⟩
    rw [map_fold_iff hlead] at hl
    rw [map_fold_iff htail] at ht
    rcases (fold_case_s_iff c).mp hc with hs | hlong
    · exact .inl ⟨lead, _, rfl, hl, c, tail, rfl, hs, ht⟩
    · exact .inr ⟨lead, _, rfl, hl, c, tail, rfl, hlong, ht⟩
  · rintro (⟨lead, _, rfl, hl, c, tail, rfl, hc, ht⟩ | ⟨lead, _, rfl, hl, c, tail, rfl, hc, ht⟩)
    · exact ⟨lead, _, rfl, (map_fold_iff hlead).mpr hl, c, tail, rfl,
        (fold_case_s_iff c).mpr (.inl hc), (map_fold_iff htail).mpr ht⟩
    · exact ⟨lead, _, rfl, (map_fold_iff hlead).mpr hl, c, tail, rfl,
        (fold_case_s_iff c).mpr (.inr hc), (map_fold_iff htail).mpr ht⟩

/-- A prefix without s and k is matched alike by both comparisons. -/
theorem prefix_fold (text : List Char) :
    "pg_".toList.isPrefixOf (text.map foldCase) =
      "pg_".toList.isPrefixOf (text.map Char.toLower) := by
  rw [Bool.eq_iff_iff, List.isPrefixOf_iff_prefix, List.isPrefixOf_iff_prefix]
  have hword : ∀ d ∈ "pg_".toList, d.toNat < 128 ∧ d ≠ 's' ∧ d ≠ 'k' := by simp
  constructor
  · rintro ⟨rest, hrest⟩
    obtain ⟨lead, tail, rfl, hlead, rfl⟩ := List.map_eq_append_iff.mp hrest.symm
    rw [map_fold_iff hword] at hlead
    exact ⟨tail.map Char.toLower, by rw [List.map_append, hlead]⟩
  · rintro ⟨rest, hrest⟩
    obtain ⟨lead, tail, rfl, hlead, rfl⟩ := List.map_eq_append_iff.mp hrest.symm
    rw [← map_fold_iff hword] at hlead
    exact ⟨tail.map foldCase, by rw [List.map_append, hlead]⟩

/-- The lowercase of JavaScript is an ASCII word without k exactly when that of ASCII is. -/
theorem lower_eq_iff (casing : LowerCasing) {before text word : List Char}
    (hword : ∀ d ∈ word, d.toNat < 128 ∧ d ≠ 'k') :
    casing.lower before text = word ↔ text.map Char.toLower = word := by
  induction text generalizing before word with
  | nil => simp [LowerCasing.lower]
  | cons c after ih =>
      rw [LowerCasing.lower, List.map_cons]
      by_cases hc : c.toNat < 128
      · rw [casing.ascii before c after hc, List.singleton_append]
        cases word with
        | nil => simp
        | cons d word =>
            rw [List.cons.injEq, List.cons.injEq, ih (List.forall_mem_cons.mp hword).2]
      · -- no character outside ASCII is lowered to a part of the word by either
        have hother := to_lower_other (not_lt.mp hc)
        constructor
        · intro h
          exfalso
          by_cases hkelvin : c = '\u212a'
          · subst hkelvin
            rw [casing.kelvin] at h
            exact (hword 'k' (by rw [← h]; simp)).2 rfl
          · obtain ⟨d, hd, hhigh⟩ := casing.other before c after (not_lt.mp hc) hkelvin
            have := (hword d (by rw [← h]; exact List.mem_append_left _ hd)).1
            omega
        · intro h
          exfalso
          have := (hword c.toLower (by rw [← h]; simp)).1
          rw [hother] at this
          exact hc this

/-- The names that `parseDirectScope` reserves: those that the device reserves, and the system
schema with a long s. -/
theorem reserved_entry_eq (casing : LowerCasing) (engine : DirectEngine) (name : String) :
    reservedEntry casing engine name =
      (systemNamespace engine (toAsciiLowercase name) ||
        (engine = .postgres && toAsciiLowercase name = "information_\u017fchema")) := by
  have hword : ∀ word : String, toAsciiLowercase name = word ↔
      name.toList.map Char.toLower = word.toList := by
    intro word
    unfold toAsciiLowercase
    rw [← String.toList_inj, String.toList_ofList]
  cases engine with
  | postgres =>
      have hsystem := map_fold_system name.toList
      rw [← hword, ← hword] at hsystem
      unfold reservedEntry pgReservedSchema systemNamespace
      simp only [prefix_fold, hsystem, Bool.decide_or, Bool.or_assoc, decide_true, Bool.true_and]
      simp only [toAsciiLowercase, String.toList_ofList]
  | mysql =>
      have hlower : ∀ word : String, (∀ d ∈ word.toList, d.toNat < 128 ∧ d ≠ 'k') →
          (casing.toLowerCase name = word ↔ toAsciiLowercase name = word) := by
        intro word hplain
        rw [hword, ← @lower_eq_iff casing [] _ _ hplain, ← String.toList_inj]
        unfold LowerCasing.toLowerCase
        rw [String.toList_ofList]
      have hsystem : casing.toLowerCase name ∈
            ["mysql", "information_schema", "performance_schema", "sys"] ↔
          toAsciiLowercase name ∈
            ["mysql", "information_schema", "performance_schema", "sys"] := by
        simp only [List.mem_cons, List.not_mem_nil, or_false]
        rw [hlower _ (by simp), hlower _ (by simp), hlower _ (by simp), hlower _ (by simp)]
      unfold reservedEntry systemNamespace
      simp only [hsystem]
      simp

/-- What `parseDirectScope` checks of an entry. -/
theorem refused_entry_iff (casing : LowerCasing) (engine : DirectEngine) (name : String) :
    (!refusedEntry casing engine name) =
      (passesBoth engine name && !refusedByPlane engine name) := by
  have htrim := trim_by_self_iff isJsBlank name
  rw [ends_blank_or js_blank_eq] at htrim
  have hlength : (!name.toList.isEmpty && scopeLengthOk engine name) =
      namespaceLengthOk engine name := by
    unfold scopeLengthOk namespaceLengthOk
    cases name.toList with
    | nil => cases engine <;> simp [byteLength]
    | cons c rest =>
        have := c.utf8Size_pos
        cases engine with
        | postgres =>
            simp [byteLength]
            omega
        | mysql => simp
  unfold refusedEntry passesBoth refusedByPlane
  rw [reserved_entry_eq, ← hlength, show jsTrim name.toList = trimBy isJsBlank name.toList from rfl]
  generalize name.toList.isEmpty = empty at *
  generalize scopeLengthOk engine name = lengthOk at *
  generalize systemNamespace engine (toAsciiLowercase name) = system at *
  generalize (engine = .postgres && toAsciiLowercase name = "information_\u017fchema") = long at *
  generalize (name.toList.any fun c => isAsciiControl c || isQuoting c) = controls at *
  generalize endsBlank (fun c => isWhitespace c && isJsBlank c) name = ends at *
  generalize endsBlank (fun c => decide (c.toNat = 0xfeff)) name = mark at *
  by_cases hself : name.toList = trimBy isJsBlank name.toList
  · obtain ⟨rfl, rfl⟩ := Bool.or_eq_false_iff.mp (htrim.mp hself)
    rw [show decide (name.toList ≠ trimBy isJsBlank name.toList) = false by simp [← hself]]
    cases empty <;> cases lengthOk <;> cases controls <;> cases system <;> cases long <;> rfl
  · have hends := mt htrim.mpr hself
    rw [show decide (name.toList ≠ trimBy isJsBlank name.toList) = true by simp [hself]]
    cases empty <;> cases lengthOk <;> cases controls <;> cases ends <;> cases mark <;> simp_all

end Dopedb.Cloud
