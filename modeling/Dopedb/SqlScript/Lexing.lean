import Dopedb.Library.Substring
import Dopedb.SqlScript

/-!
# The lexical pieces of a SQL script

What the splitter's five modes stand for: a script is a sequence of characters on their own,
separators, quoted literals, comments and dollar-quoted bodies. `Lexed` is a grammar that says when
a sequence of pieces is the reading of a text, and `exists_lexed` that every text has one. Only the
last piece of a text may be unterminated.
-/

namespace Dopedb.SqlScript

open Dopedb.Library

/-- A lexical piece of a script. -/
inductive Piece where
  | plain (c : Char)
  | separator
  | literal (quote : Char) (body : List Char) (closed : Bool)
  | lineComment (body : List Char)
  | blockComment (body : List Char) (closed : Bool)
  | dollar (tag body : List Char) (closed : Bool)
  deriving DecidableEq, Repr

/-- The text of a piece. -/
def Piece.text : Piece → List Char
  | .plain c => [c]
  | .separator => [';']
  | .literal quote body closed => quote :: body ++ if closed then [quote] else []
  | .lineComment body => '-' :: '-' :: body
  | .blockComment body closed => '/' :: '*' :: body ++ if closed then ['*', '/'] else []
  | .dollar tag body closed => tag ++ body ++ if closed then tag else []

/-- The text of some pieces. -/
def textOf (pieces : List Piece) : List Char := pieces.flatMap Piece.text

/-- The characters that stand for a literal between its quotes. -/
inductive LiteralBody (backslash : Bool) (quote : Char) : List Char → Prop
  | nil : LiteralBody backslash quote []
  | char {c : Char} {body : List Char} (hquote : c ≠ quote)
      (hescape : backslash = true → c ≠ '\\') (hbody : LiteralBody backslash quote body) :
      LiteralBody backslash quote (c :: body)
  | doubled {body : List Char} (hbody : LiteralBody backslash quote body) :
      LiteralBody backslash quote (quote :: quote :: body)
  | escaped {c : Char} {body : List Char} (hescape : backslash = true)
      (hbody : LiteralBody backslash quote body) :
      LiteralBody backslash quote ('\\' :: c :: body)

/-- The characters of a literal that the text ends in; the last one may be an escape of nothing. -/
def OpenBody (backslash : Bool) (quote : Char) (body : List Char) : Prop :=
  LiteralBody backslash quote body ∨
    backslash = true ∧ ∃ front, body = front ++ ['\\'] ∧ LiteralBody backslash quote front

/-- A quote of a literal. -/
def IsQuote (c : Char) : Prop := c = '\'' ∨ c = '"'

/-- A dollar tag. -/
def IsTag (tag : List Char) : Prop :=
  ∃ name, (∀ c ∈ name, isTagChar c = true) ∧ tag = '$' :: name ++ ['$']

/-- A piece may stand before the rest of a text: it is as long as can be, and unterminated only at
the end. -/
def Piece.Fits (backslash : Bool) (after : List Char) : Piece → Prop
  | .plain c => ¬ IsQuote c ∧ c ≠ ';' ∧ ¬ (c = '-' ∧ after.head? = some '-') ∧
      ¬ (c = '/' ∧ after.head? = some '*') ∧ (c = '$' → dollarTag after = none)
  | .separator => True
  | .literal quote body true =>
      IsQuote quote ∧ LiteralBody backslash quote body ∧ after.head? ≠ some quote
  | .literal quote body false => IsQuote quote ∧ OpenBody backslash quote body ∧ after = []
  | .lineComment body => '\n' ∉ body ∧ ∀ c ∈ after.head?, c = '\n'
  | .blockComment body true => find ['*', '/'] (body ++ ['*', '/']) = some body.length
  | .blockComment body false => find ['*', '/'] body = none ∧ after = []
  | .dollar tag body true => IsTag tag ∧ find tag (body ++ tag) = some body.length
  | .dollar tag body false => IsTag tag ∧ find tag body = none ∧ after = []

/-- The pieces are the reading of their text before the rest of a script. -/
def Lexed (backslash : Bool) (after : List Char) : List Piece → Prop
  | [] => True
  | piece :: pieces =>
      piece.Fits backslash (textOf pieces ++ after) ∧ Lexed backslash after pieces

/-- The pieces between the separators. The first segment has begun with some pieces. -/
def groupsFrom : List Piece → List Piece → List (List Piece)
  | group, [] => [group]
  | group, .separator :: pieces => group :: groupsFrom [] pieces
  | group, piece :: pieces => groupsFrom (group ++ [piece]) pieces

/-- The segments of a reading. -/
def groups (pieces : List Piece) : List (List Piece) := groupsFrom [] pieces

variable {backslash : Bool}

@[simp] theorem text_of_nil : textOf [] = [] := rfl

@[simp] theorem text_of_cons (piece : Piece) (pieces : List Piece) :
    textOf (piece :: pieces) = piece.text ++ textOf pieces := rfl

@[simp] theorem text_of_append (first second : List Piece) :
    textOf (first ++ second) = textOf first ++ textOf second :=
  List.flatMap_append

/-- A piece that is no separator belongs to the segment. -/
theorem groups_from_cons {group pieces : List Piece} {piece : Piece} (h : piece ≠ .separator) :
    groupsFrom group (piece :: pieces) = groupsFrom (group ++ [piece]) pieces := by
  cases piece with
  | separator => exact absurd rfl h
  | _ => rfl

/-- There is a first segment. -/
theorem groups_from_eq_cons (group pieces : List Piece) :
    ∃ first rest, groupsFrom group pieces = first :: rest := by
  induction pieces generalizing group with
  | nil => exact ⟨group, [], rfl⟩
  | cons piece pieces ih =>
      by_cases hsep : piece = .separator
      · subst hsep
        exact ⟨group, groupsFrom [] pieces, rfl⟩
      · rw [groups_from_cons hsep]
        exact ih (group ++ [piece])

/-- The segments with semicolons between them are the text. -/
theorem intercalate_groups_from (group pieces : List Piece) :
    [';'].intercalate ((groupsFrom group pieces).map textOf) = textOf group ++ textOf pieces := by
  induction pieces generalizing group with
  | nil => simp [groupsFrom]
  | cons piece pieces ih =>
      by_cases hsep : piece = .separator
      · subst hsep
        obtain ⟨first, rest, hrest⟩ := groups_from_eq_cons [] pieces
        have htail := ih []
        rw [hrest] at htail
        rw [groupsFrom, hrest, List.map_cons, List.map_cons, List.intercalate_cons_cons,
          ← List.map_cons, htail]
        simp [Piece.text]
      · rw [groups_from_cons hsep, ih]
        simp

/-! ## Every text has a reading -/

/-- A literal ends somewhere, or the text does. -/
theorem literal_end (quote : Char) (text : List Char) :
    (∃ body after, text = body ++ quote :: after ∧ LiteralBody backslash quote body ∧
      after.head? ≠ some quote) ∨ OpenBody backslash quote text := by
  induction hlength : text.length using Nat.strong_induction_on generalizing text with
  | h n ih =>
      -- what two characters stand for goes in front of what follows
      have hpair : ∀ {c d : Char} {rest : List Char}, text = c :: d :: rest →
          (∀ {body : List Char}, LiteralBody backslash quote body →
            LiteralBody backslash quote (c :: d :: body)) →
          (∃ body after, text = body ++ quote :: after ∧ LiteralBody backslash quote body ∧
            after.head? ≠ some quote) ∨ OpenBody backslash quote text := by
        intro c d rest htext hbody
        subst htext
        cases ih rest.length (by rw [← hlength, List.length_cons, List.length_cons]; omega) rest rfl with
        | inl h =>
            obtain ⟨body, after, rfl, hrest, hafter⟩ := h
            exact .inl ⟨c :: d :: body, after, rfl, hbody hrest, hafter⟩
        | inr h =>
            cases h with
            | inl h => exact .inr (.inl (hbody h))
            | inr h =>
                obtain ⟨hescape, front, rfl, hfront⟩ := h
                exact .inr (.inr ⟨hescape, c :: d :: front, rfl, hbody hfront⟩)
      cases text with
      | nil => exact .inr (.inl .nil)
      | cons c text =>
          by_cases hescape : backslash = true ∧ c = '\\'
          · obtain ⟨hbackslash, rfl⟩ := hescape
            cases text with
            | nil => exact .inr (.inr ⟨hbackslash, [], rfl, .nil⟩)
            | cons d rest => exact hpair rfl fun h => .escaped hbackslash h
          · by_cases hquote : c = quote
            · subst hquote
              cases text with
              | nil => exact .inl ⟨[], [], rfl, .nil, nofun⟩
              | cons d rest =>
                  by_cases hdouble : d = c
                  · subst hdouble
                    exact hpair rfl .doubled
                  · refine .inl ⟨[], d :: rest, rfl, .nil, ?_⟩
                    intro h
                    exact hdouble (Option.some.inj h)
            · have hchar : ∀ {body : List Char}, LiteralBody backslash quote body →
                  LiteralBody backslash quote (c :: body) :=
                fun h => .char hquote (fun hb hc => hescape ⟨hb, hc⟩) h
              cases ih text.length (by rw [← hlength]; simp) text rfl with
              | inl h =>
                  obtain ⟨body, after, rfl, hbody, hafter⟩ := h
                  exact .inl ⟨c :: body, after, rfl, hchar hbody, hafter⟩
              | inr h =>
                  cases h with
                  | inl h => exact .inr (.inl (hchar h))
                  | inr h =>
                      obtain ⟨hbackslash, front, rfl, hfront⟩ := h
                      exact .inr (.inr ⟨hbackslash, c :: front, rfl, hchar hfront⟩)

/-- A needle occurs first somewhere in the text, or not at all. -/
theorem needle_end (needle text : List Char) :
    (∃ body after, text = body ++ needle ++ after ∧
      find needle (body ++ needle) = some body.length) ∨ find needle text = none := by
  cases hfind : find needle text with
  | none => exact .inr rfl
  | some n =>
      obtain ⟨body, after, rfl, rfl⟩ := exists_of_find hfind
      refine .inl ⟨body, after, rfl, ?_⟩
      rw [find_eq_some_iff] at hfind ⊢
      refine ⟨by simp, ?_⟩
      intro m hm hprefix
      refine hfind.2 m hm ?_
      rw [List.drop_append_of_le_length (by simp; omega)]
      exact hprefix.trans (List.prefix_append _ _)

/-- What a dollar sign before a tag opens is a dollar tag. -/
theorem tag_of_dollar_tag {rest tag : List Char} (h : dollarTag rest = some tag) :
    IsTag tag ∧ ∃ after, '$' :: rest = tag ++ after := by
  unfold dollarTag at h
  split at h
  · next after hafter =>
      obtain rfl := Option.some.inj h
      refine ⟨⟨rest.takeWhile isTagChar, fun c hc => List.mem_takeWhile_imp hc, rfl⟩, after, ?_⟩
      have hrest := List.takeWhile_append_dropWhile (p := isTagChar) (l := rest)
      rw [hafter] at hrest
      simp [hrest]
  · cases h

/-- A line ends somewhere, or the text does. -/
theorem line_end (text : List Char) :
    ∃ body after, text = body ++ after ∧ '\n' ∉ body ∧ ∀ c ∈ after.head?, c = '\n' := by
  induction text with
  | nil => exact ⟨[], [], rfl, by simp, nofun⟩
  | cons c text ih =>
      by_cases hc : c = '\n'
      · exact ⟨[], c :: text, rfl, by simp, fun d hd => by simp at hd; rw [← hd, hc]⟩
      · obtain ⟨body, after, rfl, hbody, hafter⟩ := ih
        refine ⟨c :: body, after, rfl, ?_, hafter⟩
        intro hmem
        cases List.mem_cons.mp hmem with
        | inl h => exact hc h.symm
        | inr h => exact hbody h

/-- Every text begins with a piece. -/
theorem exists_piece (c : Char) (rest : List Char) :
    ∃ (piece : Piece) (after : List Char), c :: rest = piece.text ++ after ∧
      piece.Fits backslash after := by
  by_cases hquote : IsQuote c
  · cases @literal_end backslash c rest with
    | inl h =>
        obtain ⟨body, after, rfl, hbody, hafter⟩ := h
        exact ⟨.literal c body true, after, by simp [Piece.text], hquote, hbody, hafter⟩
    | inr h => exact ⟨.literal c rest false, [], by simp [Piece.text], hquote, h, rfl⟩
  by_cases hline : c = '-' ∧ rest.head? = some '-'
  · obtain ⟨rfl, hline⟩ := hline
    obtain ⟨rest, rfl⟩ := List.head?_eq_some_iff.mp hline
    obtain ⟨body, after, rfl, hbody, hafter⟩ := line_end rest
    exact ⟨.lineComment body, after, rfl, hbody, hafter⟩
  by_cases hblock : c = '/' ∧ rest.head? = some '*'
  · obtain ⟨rfl, hblock⟩ := hblock
    obtain ⟨rest, rfl⟩ := List.head?_eq_some_iff.mp hblock
    cases needle_end ['*', '/'] rest with
    | inl h =>
        obtain ⟨body, after, rfl, hbody⟩ := h
        exact ⟨.blockComment body true, after, by simp [Piece.text], hbody⟩
    | inr h => exact ⟨.blockComment rest false, [], by simp [Piece.text], h, rfl⟩
  by_cases hdollar : c = '$' ∧ dollarTag rest ≠ none
  · obtain ⟨rfl, hdollar⟩ := hdollar
    obtain ⟨tag, htag⟩ := Option.ne_none_iff_exists'.mp hdollar
    obtain ⟨hshape, body, hbody⟩ := tag_of_dollar_tag htag
    cases needle_end tag body with
    | inl h =>
        obtain ⟨inside, after, rfl, hinside⟩ := h
        exact ⟨.dollar tag inside true, after, by rw [hbody]; simp [Piece.text], hshape, hinside⟩
    | inr h =>
        exact ⟨.dollar tag body false, [], by rw [hbody]; simp [Piece.text], hshape, h, rfl⟩
  by_cases hsep : c = ';'
  · exact ⟨.separator, rest, by rw [hsep]; rfl, trivial⟩
  · refine ⟨.plain c, rest, rfl, hquote, hsep, hline, hblock, ?_⟩
    intro hc
    by_contra hnone
    exact hdollar ⟨hc, hnone⟩

/-- No piece is empty. -/
theorem text_ne_nil (piece : Piece) {backslash : Bool} {after : List Char}
    (h : piece.Fits backslash after) : piece.text ≠ [] := by
  cases piece with
  | dollar tag body closed =>
      have htag : IsTag tag := by
        cases closed with
        | true => exact h.1
        | false => exact h.1
      obtain ⟨name, -, rfl⟩ := htag
      simp [Piece.text]
  | _ => simp [Piece.text]

/-- Every text has a reading. -/
theorem exists_lexed (backslash : Bool) (text : List Char) :
    ∃ pieces, textOf pieces = text ∧ Lexed backslash [] pieces := by
  induction hlength : text.length using Nat.strong_induction_on generalizing text with
  | h n ih =>
      cases text with
      | nil => exact ⟨[], rfl, trivial⟩
      | cons c rest =>
          obtain ⟨piece, after, htext, hfits⟩ := @exists_piece backslash c rest
          have hpiece := List.length_pos_iff.mpr (text_ne_nil piece hfits)
          have htotal := congrArg List.length htext
          rw [List.length_append, hlength] at htotal
          obtain ⟨pieces, rfl, hpieces⟩ := ih after.length (by omega) after rfl
          refine ⟨piece :: pieces, htext.symm, ?_, hpieces⟩
          rw [List.append_nil]
          exact hfits

end Dopedb.SqlScript
