import Dopedb.Library.Utf8
import Dopedb.SqlScript.Splitting

/-!
# The statements of a script

How the statements lie in the segments of a script. A segment gives its text without the blanks
around it, unless it has nothing but blanks and comments. A statement is split into itself: the
splitter looks ahead by characters that are no blanks and no semicolons.
-/

namespace Dopedb.SqlScript

open Dopedb.Library

variable {backslash : Bool}

/-- A blank or a comment. -/
def Piece.Silent : Piece → Prop
  | .plain c => isWhitespace c = true
  | .lineComment _ | .blockComment _ _ => True
  | _ => False

/-- The statements are carved out of the segments in their order: a segment is left out only when
it has nothing but blanks and comments, and of any other segment only the blanks around the
statement are left out. -/
inductive Carved : List (List Piece) → List (List Char) → Prop
  | nil : Carved [] []
  | dropped {group : List Piece} {groups : List (List Piece)} {statements : List (List Char)}
      (hsilent : ∀ piece ∈ group, piece.Silent) (hrest : Carved groups statements) :
      Carved (group :: groups) statements
  | kept {group : List Piece} {groups : List (List Piece)} {statements : List (List Char)}
      {lead statement trail : List Char} (htext : textOf group = lead ++ statement ++ trail)
      (hlead : ∀ c ∈ lead, isWhitespace c = true) (htrail : ∀ c ∈ trail, isWhitespace c = true)
      (hne : statement ≠ []) (htrim : trim statement = statement)
      (hrest : Carved groups statements) :
      Carved (group :: groups) (statement :: statements)

/-! ## Blanks -/

/-- A blank is no character that the splitter knows, but for the line feed. -/
theorem blank_ne {c : Char} (h : isWhitespace c = true) :
    c ≠ '-' ∧ c ≠ '/' ∧ c ≠ '*' ∧ c ≠ '\'' ∧ c ≠ '"' ∧ c ≠ '$' ∧ c ≠ ';' := by
  refine ⟨?_, ?_, ?_, ?_, ?_, ?_, ?_⟩ <;>
  · intro hc
    rw [hc] at h
    exact absurd h (by decide)

/-- The characters of a dollar tag by their numbers. -/
theorem is_tag_char_iff {c : Char} :
    isTagChar c = true ↔ (48 ≤ c.toNat ∧ c.toNat ≤ 57) ∨ (65 ≤ c.toNat ∧ c.toNat ≤ 90) ∨
      (97 ≤ c.toNat ∧ c.toNat ≤ 122) ∨ c.toNat = 95 := by
  have hunder : c = '_' ↔ c.toNat = 95 := Char.toNat_inj.symm
  unfold isTagChar Char.isAlphanum Char.isAlpha Char.isUpper Char.isLower Char.isDigit
  simp only [Bool.or_eq_true, Bool.and_eq_true, decide_eq_true_eq, hunder, ge_iff_le,
    UInt32.le_iff_toNat_le]
  show ((65 ≤ c.toNat ∧ c.toNat ≤ 90 ∨ 97 ≤ c.toNat ∧ c.toNat ≤ 122) ∨
    48 ≤ c.toNat ∧ c.toNat ≤ 57) ∨ c.toNat = 95 ↔ _
  omega

/-- A blank is not part of a dollar tag. -/
theorem blank_not_tag {c : Char} (h : isWhitespace c = true) : isTagChar c = false := by
  rw [Bool.eq_false_iff, Ne, is_tag_char_iff]
  unfold isWhitespace at h
  simp only [Bool.or_eq_true, Bool.and_eq_true, decide_eq_true_eq, beq_iff_eq] at h
  omega

/-- The text that trimming leaves has no blank at its ends. -/
theorem trim_ends (text : List Char) :
    (∀ c ∈ (trim text).head?, isWhitespace c = false) ∧
      ∀ c ∈ (trim text).getLast?, isWhitespace c = false := by
  unfold trim trimBy
  constructor
  · intro c hc
    cases hstart : text.dropWhile isWhitespace with
    | nil => rw [hstart] at hc; simp at hc
    | cons d rest =>
        have hd : isWhitespace d = false := by
          have hfirst := List.head?_dropWhile_not isWhitespace text
          rw [hstart] at hfirst
          simpa using hfirst
        rw [hstart, List.head?_reverse] at hc
        -- the first character that is no blank is what dropping from the end leaves last
        have hkept : ∀ front : List Char, ((front ++ [d]).dropWhile isWhitespace).getLast? =
            some d := by
          intro front
          induction front with
          | nil => simp [hd]
          | cons e front ih =>
              rw [List.cons_append, List.dropWhile_cons]
              split
              · exact ih
              · show ((e :: front) ++ [d]).getLast? = some d
                rw [List.getLast?_append]
                rfl
        rw [List.reverse_cons, hkept] at hc
        obtain rfl := Option.some.inj hc
        exact hd
  · intro c hc
    rw [List.getLast?_reverse] at hc
    have hfirst := List.head?_dropWhile_not isWhitespace (text.dropWhile isWhitespace).reverse
    rw [show ((text.dropWhile isWhitespace).reverse.dropWhile isWhitespace).head? = some c from hc]
      at hfirst
    simpa using hfirst

/-- A trimmed text is not trimmed further. -/
theorem trim_idem (text : List Char) : trim (trim text) = trim text := by
  obtain ⟨hfirst, hlast⟩ := trim_ends text
  have htrim := @trim_by_eq isWhitespace [] (trim text) [] (List.forall_mem_nil _)
    (List.forall_mem_nil _) hfirst hlast
  rw [List.nil_append, List.append_nil] at htrim
  exact htrim

/-- Trimming leaves something of a text with a character that is no blank. -/
theorem trim_ne_nil {text : List Char} {c : Char} (hmem : c ∈ text)
    (hc : isWhitespace c = false) : trim text ≠ [] := by
  intro hnil
  obtain ⟨lead, trail, htext, hlead, htrail⟩ := @exists_trim_by isWhitespace text
  rw [show trimBy isWhitespace text = [] from hnil, List.append_nil] at htext
  rw [htext] at hmem
  cases List.mem_append.mp hmem with
  | inl h => rw [hlead c h] at hc; cases hc
  | inr h => rw [htrail c h] at hc; cases hc

/-! ## Segments with more than comments -/

/-- The bytes of a character that is no blank have one that is no blank either. -/
theorem byte_chars_not_blank {c : Char} (h : isWhitespace c = false) :
    ∃ d ∈ byteChars c, isWhitespace d = false := by
  by_cases hascii : c.toNat < 128
  · rw [byte_chars_ascii hascii]
    exact ⟨c, List.mem_singleton_self c, h⟩
  · obtain ⟨first, rest, henc, hfirst, -⟩ := utf8_wide (Nat.le_of_not_lt hascii)
    refine ⟨Char.ofNat first.toNat, ?_, ?_⟩
    · unfold byteChars
      rw [henc]
      exact List.mem_cons_self
    · have hbyte := first.toNat_lt
      have hval : (Char.ofNat first.toNat).toNat = first.toNat := by
        have hvalid : first.toNat.isValidChar := .inl (by omega)
        rw [Char.ofNat, dif_pos hvalid]
        rfl
      unfold isWhitespace
      rw [hval]
      grind

/-- Without its line end, a line comment leaves nothing. -/
theorem strip_line {body rest : List Char} (h : '\n' ∉ body) :
    stripFrom .line 0 (body ++ rest) = stripFrom .line 0 rest := by
  induction body with
  | nil => rfl
  | cons c body ih =>
      rw [List.cons_append, stripFrom, if_neg fun hc : c = '\n' => h (hc ▸ List.mem_cons_self)]
      exact ih fun hmem => h (List.mem_cons_of_mem c hmem)

/-- A comment leaves nothing. -/
theorem strip_block {body : List Char}
    (h : find ['*', '/'] (body ++ ['*', '/']) = some body.length) (rest : List Char) :
    stripFrom .block 0 (body ++ ['*', '/'] ++ rest) = stripFrom .text 0 rest := by
  induction body with
  | nil => rfl
  | cons c body ih =>
      obtain ⟨hnot, hrest⟩ := find_cons_succ.mp h
      have hend : ¬ (c = '*' ∧ (body ++ ['*', '/'] ++ rest).head? = some '/') := by
        intro ⟨hc, hhead⟩
        subst hc
        cases body with
        | nil => simp at hhead
        | cons d body =>
            obtain rfl : d = '/' := by simpa using hhead
            exact hnot ⟨body ++ ['*', '/'], rfl⟩
      rw [List.cons_append, List.cons_append, stripFrom, if_neg hend]
      exact ih hrest

/-- Blanks and comments before another character: what they leave stands before what the rest
leaves. -/
theorem strip_silent {pieces : List Piece} {c : Char} {more : List Char}
    (hsilent : ∀ piece ∈ pieces, piece.Silent) (h : Lexed backslash (c :: more) pieces)
    (more' : List Char) :
    ∃ left, stripFrom .text 0 (textOf pieces ++ c :: more') =
      left ++ stripFrom .text 0 (c :: more') := by
  induction pieces with
  | nil => exact ⟨[], rfl⟩
  | cons piece pieces ih =>
      obtain ⟨hfits, hpieces⟩ := h
      obtain ⟨left, hleft⟩ := ih (fun p hp => hsilent p (List.mem_cons_of_mem piece hp)) hpieces
      have hpiece := hsilent piece List.mem_cons_self
      rw [text_of_cons, List.append_assoc]
      cases piece with
      | plain d =>
          have hd : isWhitespace d = true := hpiece
          refine ⟨byteChars d ++ left, ?_⟩
          rw [Piece.text, List.singleton_append, stripFrom, if_neg fun h => (blank_ne hd).1 h.1,
            if_neg fun h => (blank_ne hd).2.1 h.1, hleft, List.append_assoc]
      | lineComment body =>
          refine ⟨left, ?_⟩
          rw [← hleft]
          have hstrip : stripFrom .text 0 ('-' :: '-' :: body ++ (textOf pieces ++ c :: more')) =
              stripFrom .line 0 ('-' :: body ++ (textOf pieces ++ c :: more')) := rfl
          rw [Piece.text, hstrip, strip_line (by simpa using hfits.1)]
          -- the comment is followed by the line feed that ends it
          cases htext : textOf pieces with
          | nil =>
              have hline := hfits.2 c (by rw [htext]; rfl)
              rw [hline]
              rfl
          | cons d rest =>
              have hline := hfits.2 d (by rw [htext]; rfl)
              rw [hline]
              rfl
      | blockComment body closed =>
          cases closed with
          | false =>
              have hnil := hfits.2
              simp at hnil
          | true =>
              refine ⟨left, ?_⟩
              rw [← hleft]
              exact strip_block hfits (textOf pieces ++ c :: more')
      | separator => exact hpiece.elim
      | literal quote body closed => exact hpiece.elim
      | dollar tag body closed => exact hpiece.elim

/-- Another piece begins with a character that is no blank and opens no comment. -/
theorem loud_first {piece : Piece} {after : List Char} (hfits : piece.Fits backslash after)
    (hsep : piece ≠ .separator) (hloud : ¬ piece.Silent) :
    ∃ c tail, piece.text = c :: tail ∧ isWhitespace c = false ∧
      ¬ (c = '-' ∧ (tail ++ after).head? = some '-') ∧
      ¬ (c = '/' ∧ (tail ++ after).head? = some '*') := by
  cases piece with
  | plain c => exact ⟨c, [], rfl, Bool.eq_false_iff.mpr hloud, hfits.2.2.1, hfits.2.2.2.1⟩
  | separator => exact absurd rfl hsep
  | lineComment body => exact absurd trivial hloud
  | blockComment body closed => exact absurd trivial hloud
  | literal quote body closed =>
      have hquote : IsQuote quote := by
        cases closed with
        | true => exact hfits.1
        | false => exact hfits.1
      refine ⟨quote, _, rfl, ?_⟩
      cases hquote with
      | inl h =>
          rw [h]
          exact ⟨by decide, fun h => absurd h.1 (by decide), fun h => absurd h.1 (by decide)⟩
      | inr h =>
          rw [h]
          exact ⟨by decide, fun h => absurd h.1 (by decide), fun h => absurd h.1 (by decide)⟩
  | dollar tag body closed =>
      have htag : IsTag tag := by
        cases closed with
        | true => exact hfits.1
        | false => exact hfits.1
      obtain ⟨name, -, rfl⟩ := htag
      exact ⟨'$', _, rfl, by decide, fun h => absurd h.1 (by decide),
        fun h => absurd h.1 (by decide)⟩

/-- Leading blanks are pieces of their own. -/
theorem drop_lead {pieces : List Piece} {after lead rest : List Char}
    (h : Lexed backslash after pieces) (hsilent : ∀ piece ∈ pieces, piece.Silent)
    (htext : textOf pieces = lead ++ rest) (hlead : ∀ c ∈ lead, isWhitespace c = true) :
    ∃ pieces', textOf pieces' = rest ∧ Lexed backslash after pieces' ∧
      ∀ piece ∈ pieces', piece.Silent := by
  induction lead generalizing pieces with
  | nil => exact ⟨pieces, htext, h, hsilent⟩
  | cons c lead ih =>
      have hc := hlead c List.mem_cons_self
      cases pieces with
      | nil => simp at htext
      | cons piece pieces =>
          have hpiece := hsilent piece List.mem_cons_self
          rw [text_of_cons] at htext
          cases piece with
          | plain d =>
              obtain ⟨-, htail⟩ := List.cons.inj (htext : d :: textOf pieces = c :: (lead ++ rest))
              exact ih h.2 (fun p hp => hsilent p (List.mem_cons_of_mem _ hp)) htail
                fun d hd => hlead d (List.mem_cons_of_mem c hd)
          | lineComment body =>
              obtain ⟨hd, -⟩ := List.cons.inj
                (htext : '-' :: ('-' :: body ++ textOf pieces) = c :: (lead ++ rest))
              exact absurd hd.symm (blank_ne hc).1
          | blockComment body closed =>
              have hd : '/' = c := by
                have hhead := congrArg List.head? htext
                simpa [Piece.text] using hhead
              exact absurd hd.symm (blank_ne hc).2.1
          | separator => exact hpiece.elim
          | literal quote body closed => exact hpiece.elim
          | dollar tag body closed => exact hpiece.elim

/-- Pieces are a reading in two parts. -/
theorem lexed_append {after : List Char} {first second : List Piece} :
    Lexed backslash after (first ++ second) ↔
      Lexed backslash (textOf second ++ after) first ∧ Lexed backslash after second := by
  induction first with
  | nil => simp [Lexed]
  | cons piece first ih =>
      simp only [List.cons_append, Lexed, ih, text_of_append, List.append_assoc, and_assoc]

/-- Trimming stops at a character that is no blank. -/
theorem trim_around {front own : List Char} {c : Char} (hc : isWhitespace c = false) :
    ∃ lead kept own' trail, front = lead ++ kept ∧ (∀ d ∈ lead, isWhitespace d = true) ∧
      own = own' ++ trail ∧ trim (front ++ c :: own) = kept ++ c :: own' := by
  obtain ⟨lead, trail, htext, hlead, htrail⟩ := @exists_trim_by isWhitespace (front ++ c :: own)
  have hnot : ∀ {part : List Char}, (∀ d ∈ part, isWhitespace d = true) → c ∉ part := by
    intro part hpart hmem
    rw [hpart c hmem] at hc
    cases hc
  obtain ⟨kept, hfront, hrest⟩ : ∃ kept, front = lead ++ kept ∧
      trim (front ++ c :: own) ++ trail = kept ++ c :: own := by
    rw [List.append_assoc] at htext
    rcases List.append_eq_append_iff.mp htext with ⟨extra, hlead', hrest⟩ | ⟨kept, hfront, hrest⟩
    · cases extra with
      | nil => exact ⟨[], by simpa using hlead'.symm, hrest.symm⟩
      | cons d extra =>
          obtain ⟨rfl, -⟩ := List.cons.inj hrest
          exact absurd (by rw [hlead']; simp) (hnot hlead)
    · exact ⟨kept, hfront, hrest⟩
  rcases List.append_eq_append_iff.mp hrest with ⟨extra, hkept, htrail'⟩ | ⟨extra, htrim, hown⟩
  · exact absurd (by rw [htrail']; simp) (hnot htrail)
  · cases extra with
    | nil =>
        rw [List.nil_append] at hown
        exact absurd (by rw [← hown]; simp) (hnot htrail)
    | cons d own' =>
        obtain ⟨rfl, rfl⟩ := List.cons.inj hown
        exact ⟨lead, kept, own', trail, hfront, hlead, rfl, htrim⟩

/-- The first piece that is neither blank nor comment. -/
theorem exists_loud {group : List Piece} (h : ¬ ∀ piece ∈ group, piece.Silent) :
    ∃ quiet loud rest, group = quiet ++ loud :: rest ∧ (∀ piece ∈ quiet, piece.Silent) ∧
      ¬ loud.Silent := by
  induction group with
  | nil => exact absurd (List.forall_mem_nil _) h
  | cons piece group ih =>
      by_cases hpiece : piece.Silent
      · obtain ⟨quiet, loud, rest, rfl, hquiet, hloud⟩ :=
          ih fun hall => h (List.forall_mem_cons.mpr ⟨hpiece, hall⟩)
        exact ⟨piece :: quiet, loud, rest, rfl, List.forall_mem_cons.mpr ⟨hpiece, hquiet⟩, hloud⟩
      · exact ⟨[], piece, group, rfl, List.forall_mem_nil _, hpiece⟩

/-- A segment with a piece that is neither blank nor comment gives a statement. -/
theorem push_statement_of_loud {group : List Piece} {after : List Char}
    (h : Lexed backslash after group) (hsep : ∀ piece ∈ group, piece ≠ .separator)
    (hloud : ¬ ∀ piece ∈ group, piece.Silent) : pushStatement (textOf group) ≠ none := by
  obtain ⟨quiet, loud, rest, rfl, hquiet, hloud⟩ := exists_loud hloud
  obtain ⟨hlexed, hfits, -⟩ := lexed_append.mp h
  obtain ⟨c, tail, htext, hblank, hline, hblock⟩ :=
    loud_first hfits (hsep loud (by simp)) hloud
  have hown : textOf (loud :: rest) = c :: (tail ++ textOf rest) := by simp [htext]
  rw [hown] at hlexed
  obtain ⟨lead, kept, own, trail, hfront, hlead, htail, htrim⟩ :=
    @trim_around (textOf quiet) (tail ++ textOf rest) c hblank
  obtain ⟨quiet', rfl, hlexed', hquiet'⟩ := drop_lead hlexed hquiet hfront hlead
  obtain ⟨left, hstrip⟩ := strip_silent hquiet' hlexed' own
  have hhead : ∀ d, own.head? = some d → (tail ++ (textOf rest ++ after)).head? = some d := by
    intro d hd
    obtain ⟨own, rfl⟩ := List.head?_eq_some_iff.mp hd
    rw [← List.append_assoc, htail]
    rfl
  rw [stripFrom, if_neg fun h => hline ⟨h.1, hhead _ h.2⟩,
    if_neg fun h => hblock ⟨h.1, hhead _ h.2⟩] at hstrip
  obtain ⟨d, hmem, hd⟩ := byte_chars_not_blank hblank
  have hstatement : trim (textOf (quiet ++ loud :: rest)) = textOf quiet' ++ c :: own := by
    rw [text_of_append, hown]
    exact htrim
  have heffective : isEffective (textOf quiet' ++ c :: own) = true := by
    unfold isEffective stripComments
    rw [hstrip]
    have hstripped : d ∈ left ++ (byteChars c ++ stripFrom .text 0 own) := by simp [hmem]
    have hne := trim_ne_nil hstripped hd
    simpa using hne
  unfold pushStatement
  simp only [hstatement]
  rw [if_pos ⟨by simp, heffective⟩]
  exact Option.some_ne_none _

/-- What a segment gives is its text without the blanks around it. -/
theorem push_statement_eq_some {raw statement : List Char}
    (h : pushStatement raw = some statement) :
    trim raw = statement ∧ statement ≠ [] ∧ isEffective statement = true := by
  unfold pushStatement at h
  simp only at h
  split at h
  · next hkept =>
      obtain rfl := Option.some.inj h
      exact ⟨rfl, hkept⟩
  · cases h

/-- The segments of a reading are readings of their own, without separators, before the end of the
script or a semicolon. -/
theorem groups_from_lexed {group pieces : List Piece}
    (hgroup : Lexed backslash (textOf pieces) group) (hsep : ∀ piece ∈ group, piece ≠ .separator)
    (h : Lexed backslash [] pieces) :
    ∀ segment ∈ groupsFrom group pieces, (∀ piece ∈ segment, piece ≠ .separator) ∧
      ∃ after, Lexed backslash after segment := by
  induction pieces generalizing group with
  | nil =>
      intro segment hmem
      obtain rfl := List.mem_singleton.mp hmem
      exact ⟨hsep, _, hgroup⟩
  | cons piece pieces ih =>
      obtain ⟨hfits, hpieces⟩ := h
      by_cases hpiece : piece = .separator
      · subst hpiece
        intro segment hmem
        cases List.mem_cons.mp hmem with
        | inl heq => rw [heq]; exact ⟨hsep, _, hgroup⟩
        | inr hmem =>
            exact @ih [] trivial (List.forall_mem_nil _) hpieces segment hmem
      · rw [groups_from_cons hpiece]
        refine ih (lexed_append.mpr ⟨?_, ?_, trivial⟩) ?_ hpieces
        · simpa using hgroup
        · simpa using hfits
        · exact List.forall_mem_append.mpr ⟨hsep, List.forall_mem_singleton.mpr hpiece⟩

/-- The statements are carved out of segments that are readings of their own. -/
theorem carved_of_lexed {segments : List (List Piece)}
    (h : ∀ segment ∈ segments, (∀ piece ∈ segment, piece ≠ .separator) ∧
      ∃ after, Lexed backslash after segment) :
    Carved segments ((segments.map textOf).filterMap pushStatement) := by
  induction segments with
  | nil => exact .nil
  | cons segment segments ih =>
      obtain ⟨hsegment, hrest⟩ := List.forall_mem_cons.mp h
      rw [List.map_cons, List.filterMap_cons]
      cases hpush : pushStatement (textOf segment) with
      | none =>
          refine .dropped ?_ (ih hrest)
          by_contra hloud
          obtain ⟨after, hlexed⟩ := hsegment.2
          exact push_statement_of_loud hlexed hsegment.1 hloud hpush
      | some statement =>
          obtain ⟨htrim, hne, -⟩ := push_statement_eq_some hpush
          obtain ⟨lead, trail, htext, hlead, htrail⟩ :=
            @exists_trim_by isWhitespace (textOf segment)
          rw [show trimBy isWhitespace (textOf segment) = statement from htrim] at htext
          refine .kept htext hlead htrail hne ?_ (ih hrest)
          rw [← htrim]
          exact trim_idem _

/-! ## Splitting a statement again -/

/-- What may follow a statement: nothing, a blank or a semicolon. -/
def Ends (after : List Char) : Prop := ∀ c ∈ after.head?, isWhitespace c = true ∨ c = ';'

/-- A mode that the splitter can be in. -/
def Mode.Known : Mode → Prop
  | .quoted quote => IsQuote quote
  | .dollar tag => ∀ c ∈ tag, c = '$' ∨ isTagChar c = true
  | _ => True

/-- What follows a statement does not begin with a character that the splitter looks ahead for. -/
theorem Ends.ne {after : List Char} (h : Ends after) {d : Char} (hblank : isWhitespace d = false)
    (hsep : d ≠ ';') (part : List Char) :
    (part ++ after).head? = some d ↔ part.head? = some d := by
  cases part with
  | cons c part => rfl
  | nil =>
      constructor
      · intro hd
        cases h d hd with
        | inl h => rw [h] at hblank; cases hblank
        | inr h => exact absurd h hsep
      · intro hd
        cases hd

/-- A tag is whole within a statement. -/
theorem dollar_tag_short {part after : List Char} (h : Ends after) :
    dollarTag (part ++ after) = dollarTag part := by
  have hafter : after.dropWhile isTagChar = after := by
    cases after with
    | nil => rfl
    | cons c after =>
        refine List.dropWhile_cons_of_neg ?_
        cases h c rfl with
        | inl h => rw [blank_not_tag h]; decide
        | inr h => rw [h]; decide
  unfold dollarTag
  rw [List.dropWhile_append]
  cases hpart : part.dropWhile isTagChar with
  | nil =>
      rw [List.isEmpty_nil, if_pos rfl, hafter]
      cases after with
      | nil => rfl
      | cons c after =>
          have hc : c ≠ '$' := by
            cases h c rfl with
            | inl h => exact (blank_ne h).2.2.2.2.2.1
            | inr h => rw [h]; decide
          simp only
          split
          · next heq => exact absurd (List.cons.inj heq).1 hc
          · rfl
  | cons d rest =>
      have htake : (part ++ after).takeWhile isTagChar = part.takeWhile isTagChar := by
        rw [List.takeWhile_append, if_neg]
        intro hlength
        have hwhole := List.takeWhile_append_dropWhile (p := isTagChar) (l := part)
        have hsum := congrArg List.length hwhole
        rw [hpart, List.length_append, hlength, List.length_cons] at hsum
        omega
      rw [htake, List.isEmpty_cons, if_neg Bool.false_ne_true, List.cons_append]
      split
      · next heq =>
          obtain ⟨rfl, -⟩ := List.cons.inj heq
          rfl
      · next hother =>
          split
          · next heq =>
              obtain ⟨rfl, -⟩ := List.cons.inj heq
              exact absurd rfl (hother _)
          · rfl

/-- The splitter decides within a statement as it does before what follows, but that a last
backslash escapes nothing. -/
theorem next_short {mode : Mode} {c : Char} {part after : List Char} (hmode : mode.Known)
    (h : Ends after) :
    next backslash mode c part = next backslash mode c (part ++ after) ∨
      (part = [] ∧ ∃ mode' extra, next backslash mode c part = .go mode' extra) := by
  cases mode with
  | top =>
      refine .inl ?_
      rw [next, next, nextTop, nextTop, dollar_tag_short h]
      simp only [h.ne (by decide : isWhitespace '-' = false) (by decide),
        h.ne (by decide : isWhitespace '*' = false) (by decide)]
  | lineComment => exact .inl rfl
  | blockComment =>
      refine .inl ?_
      rw [next, next]
      simp only [h.ne (by decide : isWhitespace '/' = false) (by decide)]
  | quoted quote =>
      cases part with
      | nil =>
          refine .inr ⟨rfl, ?_⟩
          rw [next, if_neg fun h => h.2.2 rfl]
          split
          · exact ⟨_, _, rfl⟩
          · exact ⟨_, _, rfl⟩
      | cons d part => exact .inl (by simp [next])
  | dollar tag =>
      refine .inl ?_
      have hleads : tag <+: c :: (part ++ after) ↔ tag <+: c :: part := by
        constructor
        -- a tag that goes on behind the part would hold a blank or a semicolon
        · intro hlong
          by_cases hlength : tag.length ≤ (c :: part).length
          · exact List.prefix_of_prefix_length_le hlong ⟨after, rfl⟩ hlength
          · exfalso
            obtain ⟨front, rfl⟩ : c :: part <+: tag :=
              List.prefix_of_prefix_length_le ⟨after, rfl⟩ hlong (by omega)
            cases front with
            | nil => simp at hlength
            | cons d front =>
                obtain ⟨rest, hrest⟩ := hlong
                have htail : d :: (front ++ rest) = after := by simpa using hrest
                have hd : d ∈ after.head? := by rw [← htail]; rfl
                have htag := hmode d (by simp)
                cases h d hd with
                | inl hblank =>
                    cases htag with
                    | inl heq => exact (blank_ne hblank).2.2.2.2.2.1 heq
                    | inr hchar => rw [blank_not_tag hblank] at hchar; cases hchar
                | inr heq =>
                    rw [heq] at htag
                    exact absurd htag (by decide)
        · intro hshort
          exact hshort.trans ⟨after, rfl⟩
      rw [next, next]
      simp only [hleads]

/-- The splitter goes on in a mode that it can be in. -/
theorem next_known {mode mode' : Mode} {c : Char} {rest : List Char} {extra : Nat}
    (hmode : mode.Known) (h : next backslash mode c rest = .go mode' extra) : mode'.Known := by
  cases mode with
  | top =>
      rw [next, nextTop] at h
      split at h
      · next hquote => cases h; exact hquote
      · split at h
        · cases h; trivial
        · split at h
          · cases h; trivial
          · split at h
            · split at h
              · next tag htag =>
                  cases h
                  obtain ⟨⟨name, hname, rfl⟩, -⟩ := tag_of_dollar_tag htag
                  intro d hd
                  simp only [List.cons_append, List.mem_cons, List.mem_append, List.not_mem_nil,
                    or_false] at hd
                  obtain rfl | hd | rfl := hd
                  · exact .inl rfl
                  · exact .inr (hname d hd)
                  · exact .inl rfl
              · cases h; trivial
            · split at h
              · cases h
              · cases h; trivial
  | quoted quote =>
      rw [next] at h
      split at h
      · cases h; exact hmode
      · split at h
        · split at h
          · cases h; exact hmode
          · cases h; trivial
        · cases h; exact hmode
  | lineComment =>
      rw [next] at h
      split at h
      · cases h; trivial
      · cases h; trivial
  | blockComment =>
      rw [next] at h
      split at h
      · cases h; trivial
      · cases h; trivial
  | dollar tag =>
      rw [next] at h
      split at h
      · cases h; trivial
      · cases h; exact hmode

/-- A part in which no statement ends has none when nothing follows it. -/
theorem reads_short {mode : Mode} {skip : Nat} {part after : List Char} (hmode : mode.Known)
    (hafter : Ends after) (h : reads backslash mode skip part after ≠ none) :
    reads backslash mode skip part [] ≠ none := by
  induction part generalizing mode skip with
  | nil => exact Option.some_ne_none _
  | cons c part ih =>
      cases skip with
      | succ skip => exact ih hmode h
      | zero =>
          rw [reads] at h ⊢
          rw [List.append_nil]
          cases hnext : next backslash mode c (part ++ after) with
          | cut => rw [hnext] at h; exact absurd rfl h
          | go mode' extra =>
              rw [hnext] at h
              rcases @next_short backslash mode c part after hmode hafter with
                hsame | ⟨rfl, mode'', extra', hgo⟩
              · rw [hsame, hnext]
                exact ih (next_known hmode hnext) h
              · rw [hgo]
                exact Option.some_ne_none _

/-- The splitter ends a statement only at a semicolon. -/
theorem eq_of_cut {mode : Mode} {c : Char} {rest : List Char}
    (h : next backslash mode c rest = .cut) : c = ';' := by
  unfold next nextTop at h
  grind

/-- A segment is read without an end before what follows it. -/
theorem reads_of_segment {mode : Mode} {skip : Nat} {raw segment text : List Char}
    (h : raw ∈ segments backslash mode skip segment text) :
    (∃ part after, raw = segment ++ part ∧ text = part ++ after ∧ Ends after ∧
      reads backslash mode skip part after ≠ none) ∨
    ∃ after, Ends after ∧ reads backslash .top 0 raw after ≠ none := by
  induction text generalizing mode skip segment with
  | nil =>
      obtain rfl := List.mem_singleton.mp (by simpa [segments] using h)
      exact .inl ⟨[], [], by simp, rfl, fun _ hd => absurd hd (by simp), Option.some_ne_none _⟩
  | cons c text ih =>
      cases skip with
      | succ skip =>
          rw [segments] at h
          rcases ih h with ⟨part, after, rfl, rfl, hafter, hread⟩ | hlater
          · exact .inl ⟨c :: part, after, by simp, rfl, hafter, hread⟩
          · exact .inr hlater
      | zero =>
          rw [segments] at h
          cases hnext : next backslash mode c text with
          | cut =>
              rw [hnext] at h
              cases List.mem_cons.mp h with
              | inl heq =>
                  refine .inl ⟨[], c :: text, by simpa using heq, rfl, ?_, Option.some_ne_none _⟩
                  intro d hd
                  obtain rfl := Option.some.inj hd
                  exact .inr (eq_of_cut hnext)
              | inr hmem =>
                  rcases ih hmem with ⟨part, after, rfl, -, hafter, hread⟩ | hlater
                  · exact .inr ⟨after, hafter, hread⟩
                  · exact .inr hlater
          | go mode' extra =>
              rw [hnext] at h
              rcases ih h with ⟨part, after, rfl, rfl, hafter, hread⟩ | hlater
              · refine .inl ⟨c :: part, after, by simp, rfl, hafter, ?_⟩
                rw [reads_go hnext]
                exact hread
              · exact .inr hlater

/-- Blanks leave the splitter at the top level. -/
theorem reads_blanks {lead after : List Char} (h : ∀ c ∈ lead, isWhitespace c = true) :
    reads backslash .top 0 lead after = some (.top, 0) := by
  induction lead with
  | nil => rfl
  | cons c lead ih =>
      obtain ⟨hline, hblock, -, hsingle, hdouble, hdollar, hsep⟩ :=
        blank_ne (h c List.mem_cons_self)
      have hfits : (Piece.plain c).Fits backslash (lead ++ after) :=
        ⟨fun hq => hq.elim hsingle hdouble, hsep, fun h => hline h.1, fun h => hblock h.1,
          fun h => absurd h hdollar⟩
      rw [reads_go (next_plain hfits)]
      exact ih fun d hd => h d (List.mem_cons_of_mem c hd)

/-- A statement of a script is split into itself. -/
theorem split_statements_self {sql statement : List Char} {engine : Engine}
    (h : statement ∈ splitStatements sql engine) :
    splitStatements statement engine = [statement] := by
  obtain ⟨raw, hraw, hpush⟩ := List.mem_filterMap.mp h
  obtain ⟨htrim, hne, heffective⟩ := push_statement_eq_some hpush
  obtain ⟨after, hafter, hread⟩ : ∃ after, Ends after ∧
      reads (backslashEscapes engine) .top 0 raw after ≠ none := by
    rcases reads_of_segment hraw with ⟨part, after, rfl, -, hafter, hread⟩ | hlater
    · exact ⟨after, hafter, hread⟩
    · exact hlater
  obtain ⟨lead, trail, htext, hlead, htrail⟩ := @exists_trim_by isWhitespace raw
  rw [show trimBy isWhitespace raw = statement from htrim] at htext
  -- the statement is read as it was behind its leading blanks
  have hstatement : reads (backslashEscapes engine) .top 0 statement (trail ++ after) ≠ none := by
    rw [htext, List.append_assoc, reads_append, reads_blanks hlead, Option.bind_some,
      reads_append] at hread
    intro hnone
    rw [hnone] at hread
    exact hread rfl
  have hends : Ends (trail ++ after) := by
    cases trail with
    | nil => exact hafter
    | cons c trail =>
        intro d hd
        obtain rfl := Option.some.inj hd
        exact .inl (htrail c List.mem_cons_self)
  have htop : Mode.Known .top := trivial
  obtain ⟨state, hstate⟩ := Option.ne_none_iff_exists'.mp (reads_short htop hends hstatement)
  unfold splitStatements
  rw [segments_open hstate, List.nil_append]
  have hself : pushStatement statement = some statement := by
    unfold pushStatement
    rw [← htrim] at hne heffective ⊢
    simp only [trim_idem]
    exact if_pos ⟨hne, heffective⟩
  simp [hself]

end Dopedb.SqlScript
