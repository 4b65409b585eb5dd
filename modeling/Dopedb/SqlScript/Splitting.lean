import Dopedb.SqlScript.Lexing

/-!
# The splitter on the pieces of a script

`segments_eq_groups`: the splitter ends a statement at the separators of a reading of the script
and nowhere else. `Carved` says how the statements lie in the segments, and `split_statements_self`
that a statement is split into itself.
-/

namespace Dopedb.SqlScript

open Dopedb.Library

variable {backslash : Bool}

/-! ## Reading a piece -/

/-- A quote is no backslash. -/
theorem IsQuote.ne_backslash {quote : Char} (h : IsQuote quote) : quote ≠ '\\' := by
  cases h with
  | inl h => rw [h]; decide
  | inr h => rw [h]; decide

/-- The characters of a literal leave the splitter in it. -/
theorem reads_literal_body {quote : Char} {body : List Char} (hquote : IsQuote quote)
    (h : LiteralBody backslash quote body) (part after : List Char) :
    reads backslash (.quoted quote) 0 (body ++ part) after =
      reads backslash (.quoted quote) 0 part after := by
  induction h with
  | nil => rfl
  | @char c body hne hescape hbody ih =>
      have hnext : next backslash (.quoted quote) c (body ++ part ++ after) =
          .go (.quoted quote) 0 := by
        rw [next, if_neg (fun h => hescape h.1 h.2.1), if_neg hne]
      rw [List.cons_append, reads_go hnext]
      exact ih
  | @doubled body hbody ih =>
      have hnext : next backslash (.quoted quote) quote ((quote :: (body ++ part)) ++ after) =
          .go (.quoted quote) 1 := by
        rw [next, if_neg (fun h => hquote.ne_backslash h.2.1), if_pos rfl]
        exact if_pos rfl
      rw [List.cons_append, List.cons_append, reads_go hnext, reads_skip]
      exact ih
  | @escaped c body hescape hbody ih =>
      have hnext : next backslash (.quoted quote) '\\' ((c :: (body ++ part)) ++ after) =
          .go (.quoted quote) 1 := by
        unfold next
        exact if_pos ⟨hescape, rfl, by simp⟩
      rw [List.cons_append, List.cons_append, reads_go hnext, reads_skip]
      exact ih

/-- A comment up to its first end. -/
theorem reads_block_comment {body : List Char}
    (h : find ['*', '/'] (body ++ ['*', '/']) = some body.length) (after : List Char) :
    reads backslash .blockComment 0 (body ++ ['*', '/']) after = some (.top, 0) := by
  induction body with
  | nil => rfl
  | cons c body ih =>
      obtain ⟨hnot, hrest⟩ := find_cons_succ.mp h
      have hnext : next backslash .blockComment c (body ++ ['*', '/'] ++ after) =
          .go .blockComment 0 := by
        unfold next
        refine if_neg ?_
        intro ⟨hc, hhead⟩
        subst hc
        cases body with
        | nil => simp at hhead
        | cons d body =>
            obtain rfl : d = '/' := by simpa using hhead
            exact hnot ⟨body ++ ['*', '/'], rfl⟩
      rw [List.cons_append, reads_go hnext]
      exact ih hrest

/-- A comment without an end. -/
theorem reads_open_comment {body : List Char} (h : find ['*', '/'] body = none) :
    reads backslash .blockComment 0 body [] = some (.blockComment, 0) := by
  induction body with
  | nil => rfl
  | cons c body ih =>
      obtain ⟨hnot, hrest⟩ := find_cons_none.mp h
      have hnext : next backslash .blockComment c (body ++ []) = .go .blockComment 0 := by
        unfold next
        refine if_neg ?_
        intro ⟨hc, hhead⟩
        subst hc
        cases body with
        | nil => simp at hhead
        | cons d body =>
            obtain rfl : d = '/' := by simpa using hhead
            exact hnot ⟨body, rfl⟩
      rw [reads_go hnext]
      exact ih hrest

/-- Characters that are taken unseen. -/
theorem reads_unseen {mode : Mode} (part rest after : List Char) :
    reads backslash mode part.length (part ++ rest) after = reads backslash mode 0 rest after := by
  induction part with
  | nil => rfl
  | cons c part ih => exact ih

/-- A dollar-quoted body up to the first occurrence of its tag. -/
theorem reads_dollar_body {tag body : List Char} (htag : IsTag tag)
    (h : find tag (body ++ tag) = some body.length) (after : List Char) :
    reads backslash (.dollar tag) 0 (body ++ tag) after = some (.top, 0) := by
  induction body with
  | nil =>
      obtain ⟨name, -, rfl⟩ := htag
      have hnext : next backslash (.dollar ('$' :: name ++ ['$'])) '$' (name ++ ['$'] ++ after) =
          .go .top (name ++ ['$']).length := by
        rw [next, if_pos (by simp)]
        simp
      have hunseen := @reads_unseen backslash .top (name ++ ['$']) [] after
      rw [List.append_nil] at hunseen
      exact (reads_go hnext).trans hunseen
  | cons c body ih =>
      obtain ⟨hnot, hrest⟩ := find_cons_succ.mp h
      have hnext : next backslash (.dollar tag) c (body ++ tag ++ after) = .go (.dollar tag) 0 := by
        unfold next
        refine if_neg ?_
        intro hprefix
        refine hnot (List.prefix_of_prefix_length_le hprefix ?_ ?_)
        · exact ⟨after, by simp⟩
        · simp
          omega
      rw [List.cons_append, reads_go hnext]
      exact ih hrest

/-- A dollar-quoted body without an end. -/
theorem reads_open_dollar {tag body : List Char} (h : find tag body = none) :
    reads backslash (.dollar tag) 0 body [] = some (.dollar tag, 0) := by
  induction body with
  | nil => rfl
  | cons c body ih =>
      obtain ⟨hnot, hrest⟩ := find_cons_none.mp h
      have hnext : next backslash (.dollar tag) c (body ++ []) = .go (.dollar tag) 0 := by
        unfold next
        rw [List.append_nil]
        exact if_neg hnot
      rw [reads_go hnext]
      exact ih hrest

/-- A line comment up to the end of its line. -/
theorem reads_line_comment {body : List Char} (h : '\n' ∉ body) (after : List Char) :
    reads backslash .lineComment 0 body after = some (.lineComment, 0) := by
  induction body with
  | nil => rfl
  | cons c body ih =>
      have hc : c ≠ '\n' := fun hc => h (hc ▸ List.mem_cons_self)
      have hnext : next backslash .lineComment c (body ++ after) = .go .lineComment 0 := by
        unfold next
        exact if_neg hc
      rw [reads_go hnext]
      exact ih fun hmem => h (List.mem_cons_of_mem c hmem)

/-- The dollar tag at the start of a text. -/
theorem dollar_tag_of_tag {name : List Char} (hname : ∀ c ∈ name, isTagChar c = true)
    (rest : List Char) : dollarTag (name ++ '$' :: rest) = some ('$' :: name ++ ['$']) := by
  have hdrop : (name ++ '$' :: rest).dropWhile isTagChar = '$' :: rest := by
    rw [List.dropWhile_append_of_pos hname]
    rfl
  have htake : (name ++ '$' :: rest).takeWhile isTagChar = name := by
    rw [List.takeWhile_append_of_pos hname]
    simp [isTagChar]
  unfold dollarTag
  rw [hdrop, htake]
  rfl

/-- The splitter at the top level stays there at a character that is a piece of its own. -/
theorem next_plain {c : Char} {after : List Char} (h : (Piece.plain c).Fits backslash after) :
    next backslash .top c after = .go .top 0 := by
  obtain ⟨hquote, hsep, hline, hblock, hdollar⟩ := h
  unfold IsQuote at hquote
  rw [next, nextTop, if_neg hquote, if_neg hline, if_neg hblock]
  by_cases hc : c = '$'
  · rw [if_pos hc, hdollar hc]
  · rw [if_neg hc, if_neg hsep]

/-- A line comment goes on to the end of its line as the top level does. -/
theorem segments_line_end {after : List Char} (h : ∀ c ∈ after.head?, c = '\n')
    (segment : List Char) :
    segments backslash .lineComment 0 segment after = segments backslash .top 0 segment after := by
  cases after with
  | nil => rfl
  | cons c after =>
      obtain rfl : c = '\n' := h c rfl
      rfl

/-- A part that is read to the end of the script belongs to the segment. -/
theorem segments_open {mode : Mode} {part segment : List Char} {state : Mode × Nat}
    (h : reads backslash mode 0 part [] = some state) :
    segments backslash mode 0 segment part = [segment ++ part] := by
  have hread := @segments_of_reads backslash mode state.1 0 state.2 part [] segment h
  rw [List.append_nil] at hread
  rw [hread, segments]

/-- The splitter goes over a piece that is no separator and is at the top level again, or at the
end of the script. -/
theorem segments_piece {piece : Piece} {after : List Char} (h : piece.Fits backslash after)
    (hsep : piece ≠ .separator) (segment : List Char) :
    segments backslash .top 0 segment (piece.text ++ after) =
      segments backslash .top 0 (segment ++ piece.text) after := by
  cases piece with
  | separator => exact absurd rfl hsep
  | plain c =>
      rw [Piece.text, List.singleton_append, segments, next_plain h]
  | lineComment body =>
      have hread : reads backslash .top 0 ('-' :: '-' :: body) after = some (.lineComment, 0) := by
        have hopen : reads backslash .lineComment 0 ('-' :: body) after = some (.lineComment, 0) :=
          reads_line_comment (by simpa using h.1) after
        exact hopen
      rw [Piece.text, segments_of_reads hread, segments_line_end h.2]
  | literal quote body closed =>
      have hquote : IsQuote quote := by
        cases closed with
        | true => exact h.1
        | false => exact h.1
      have hopen : ∀ rest, reads backslash .top 0 (quote :: rest) after =
          reads backslash (.quoted quote) 0 rest after := by
        intro rest
        refine reads_go ?_
        rw [next, nextTop]
        exact if_pos hquote
      cases closed with
      | true =>
          refine segments_of_reads ?_
          show reads backslash .top 0 (quote :: (body ++ [quote])) after = some (.top, 0)
          rw [hopen, reads_literal_body hquote h.2.1]
          refine reads_go ?_
          rw [next, if_neg (fun hescape => hquote.ne_backslash hescape.2.1), if_pos rfl]
          exact if_neg h.2.2
      | false =>
          -- an open literal runs to the end of the script
          obtain rfl : after = [] := h.2.2
          have hbody : ∃ state, reads backslash (.quoted quote) 0 body [] = some state := by
            cases h.2.1 with
            | inl hbody =>
                have hread := reads_literal_body hquote hbody [] []
                rw [List.append_nil] at hread
                exact ⟨_, hread⟩
            | inr hbody =>
                -- its last character may be a backslash, which then has nothing to escape
                obtain ⟨-, front, rfl, hfront⟩ := hbody
                refine ⟨(.quoted quote, 0), ?_⟩
                rw [reads_literal_body hquote hfront]
                refine reads_go ?_
                rw [next, if_neg (fun hescape => hescape.2.2 rfl),
                  if_neg (Ne.symm hquote.ne_backslash)]
          obtain ⟨state, hstate⟩ := hbody
          have htext : (Piece.literal quote body false).text = quote :: body := by simp [Piece.text]
          rw [List.append_nil, htext, segments_open ((hopen body).trans hstate), segments]
  | blockComment body closed =>
      have hopen : ∀ rest, reads backslash .top 0 ('/' :: '*' :: rest) after =
          reads backslash .blockComment 0 rest after := fun rest => rfl
      cases closed with
      | true => exact segments_of_reads ((hopen _).trans (reads_block_comment h after))
      | false =>
          obtain ⟨hbody, rfl⟩ := h
          have htext : (Piece.blockComment body false).text = '/' :: '*' :: body := by
            simp [Piece.text]
          rw [List.append_nil, htext,
            segments_open ((hopen body).trans (reads_open_comment hbody)), segments]
  | dollar tag body closed =>
      have htag : IsTag tag := by
        cases closed with
        | true => exact h.1
        | false => exact h.1
      obtain ⟨name, hname, htag'⟩ := htag
      have hopen : ∀ rest, reads backslash .top 0 (tag ++ rest) after =
          reads backslash (.dollar tag) 0 rest after := by
        intro rest
        -- the splitter finds the tag at its first dollar and goes over it at once
        have hnext : next backslash .top '$' (name ++ ['$'] ++ rest ++ after) =
            .go (.dollar tag) (name ++ ['$']).length := by
          rw [next, nextTop, if_neg (by decide), if_neg (fun h => absurd h.1 (by decide)),
            if_neg (fun h => absurd h.1 (by decide)), if_pos rfl]
          have hdollar := dollar_tag_of_tag hname (rest ++ after)
          rw [show name ++ ['$'] ++ rest ++ after = name ++ '$' :: (rest ++ after) by simp, hdollar,
            htag']
          simp
        rw [show tag ++ rest = '$' :: (name ++ ['$'] ++ rest) by rw [htag']; simp, reads_go hnext]
        exact reads_unseen (name ++ ['$']) rest after
      cases closed with
      | true =>
          refine segments_of_reads ?_
          show reads backslash .top 0 (tag ++ body ++ tag) after = some (.top, 0)
          rw [List.append_assoc, hopen]
          exact reads_dollar_body h.1 h.2 after
      | false =>
          obtain ⟨-, hbody, rfl⟩ := h
          have hread : reads backslash .top 0 (tag ++ body ++ []) [] = some (.dollar tag, 0) := by
            rw [List.append_assoc, hopen, List.append_nil]
            exact reads_open_dollar hbody
          rw [List.append_nil]
          show segments backslash .top 0 segment (tag ++ body ++ []) = _
          rw [segments_open hread, segments]
          rfl

/-- The splitter ends a statement at the separators of a reading and nowhere else. -/
theorem segments_eq_groups_from (group : List Piece) {pieces : List Piece}
    (h : Lexed backslash [] pieces) :
    segments backslash .top 0 (textOf group) (textOf pieces) =
      (groupsFrom group pieces).map textOf := by
  induction pieces generalizing group with
  | nil => rfl
  | cons piece pieces ih =>
      obtain ⟨hfits, hpieces⟩ := h
      rw [List.append_nil] at hfits
      by_cases hsep : piece = .separator
      · subst hsep
        show segments backslash .top 0 (textOf group) (';' :: textOf pieces) = _
        rw [segments]
        show textOf group :: segments backslash .top 0 (textOf []) (textOf pieces) = _
        rw [ih [] hpieces]
        rfl
      · rw [text_of_cons, segments_piece hfits hsep, groups_from_cons hsep, ← ih _ hpieces]
        simp

/-- The segments of a script are the texts between the separators of its reading. -/
theorem segments_eq_groups {pieces : List Piece} (h : Lexed backslash [] pieces) :
    segments backslash .top 0 [] (textOf pieces) = (groups pieces).map textOf :=
  segments_eq_groups_from [] h

end Dopedb.SqlScript
