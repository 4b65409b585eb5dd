import Dopedb.SqlScript.Bytes

/-!
# Positions of statements

`statement_position` looks for a statement in the script again, from behind the place where it found
the one before. `positions_right_iff` says when it finds the places that the splitter cut the
statements from: when none of them occurs earlier in the text behind the one before.
-/

namespace Dopedb.SqlScript

open Dopedb.Library

/-- The loop of `statement_position` from a place in the script on. -/
def positionFrom (sql : List Char) : Nat → List (List Char) → Nat → Option Nat
  | _, [], _ => none
  | offset, statement :: statements, index =>
    match find statement (sql.drop offset) with
    | none => none
    | some found =>
      match index with
      | 0 => some (offset + found + 1)
      | index + 1 => positionFrom sql (offset + found + statement.length) statements index

/-- The position of a statement in a script, counted in characters from 1 on. -/
def statementPosition (sql : List Char) (statements : List (List Char)) (index : Nat) :
    Option Nat :=
  positionFrom sql 0 statements index

/-- The statements of the segments with the places that they are cut from, when the first segment
begins at a place of the script. -/
def placedFrom : Nat → List (List Char) → List (Nat × List Char)
  | _, [] => []
  | start, segment :: segments =>
    let rest := placedFrom (start + segment.length + 1) segments
    match pushStatement segment with
    | some statement => (start + (segment.takeWhile isWhitespace).length, statement) :: rest
    | none => rest

/-- The statements of a script with the places that they are cut from. -/
def placedStatements (sql : List Char) (engine : Engine) : List (Nat × List Char) :=
  placedFrom 0 (segments (backslashEscapes engine) .top 0 [] sql)

/-- No statement occurs in the text behind the one before, from a place on, earlier than where it
was cut from. -/
def NoEarlier (sql : List Char) : Nat → List (Nat × List Char) → Prop
  | _, [] => True
  | offset, (place, statement) :: placed =>
    (∀ earlier, offset ≤ earlier → earlier < place → ¬ statement <+: sql.drop earlier) ∧
      NoEarlier sql (place + statement.length) placed

/-- The placed statements are the statements. -/
theorem placed_from_statements (start : Nat) (segments : List (List Char)) :
    (placedFrom start segments).map Prod.snd = segments.filterMap pushStatement := by
  induction segments generalizing start with
  | nil => rfl
  | cons segment segments ih =>
      rw [placedFrom, List.filterMap_cons]
      cases pushStatement segment with
      | none => exact ih _
      | some statement => exact congrArg (statement :: ·) (ih _)

/-- The placed statements of a script are its statements. -/
theorem placed_statements_map (sql : List Char) (engine : Engine) :
    (placedStatements sql engine).map Prod.snd = splitStatements sql engine :=
  placed_from_statements 0 _

/-- The statements occur at their places, one behind the other. -/
def Occurs (sql : List Char) : Nat → List (Nat × List Char) → Prop
  | _, [] => True
  | offset, (place, statement) :: placed =>
    offset ≤ place ∧ statement <+: sql.drop place ∧
      Occurs sql (place + statement.length) placed

/-- A statement stands in its segment behind the leading blanks. -/
theorem prefix_drop_lead {segment statement : List Char} (h : trim segment = statement)
    (after : List Char) :
    statement <+: (segment ++ after).drop (segment.takeWhile isWhitespace).length := by
  have hsegment := List.takeWhile_append_dropWhile (p := isWhitespace) (l := segment)
  have hstart : (segment ++ after).drop (segment.takeWhile isWhitespace).length =
      segment.dropWhile isWhitespace ++ after := by
    conv => lhs; rw [← hsegment, List.append_assoc]
    rw [hsegment, List.drop_left]
  have htrim : statement <+: segment.dropWhile isWhitespace := by
    rw [← h]
    unfold trim trimBy
    rw [← List.reverse_suffix, List.reverse_reverse]
    exact List.dropWhile_suffix _
  rw [hstart]
  exact htrim.trans (List.prefix_append _ _)

/-- A statement ends in its segment. -/
theorem lead_add_length_le {segment statement : List Char} (h : trim segment = statement) :
    (segment.takeWhile isWhitespace).length + statement.length ≤ segment.length := by
  have hprefix := prefix_drop_lead h []
  have hlength := hprefix.length_le
  have hlead := (List.takeWhile_prefix isWhitespace (l := segment)).length_le
  rw [List.append_nil, List.length_drop] at hlength
  omega

/-- The statements of segments that follow a part of the script occur at their places. -/
theorem occurs_placed_from (front : List Char) (segments : List (List Char)) {offset : Nat}
    (hoffset : offset ≤ front.length) :
    Occurs (front ++ [';'].intercalate segments) offset (placedFrom front.length segments) := by
  induction segments generalizing front offset with
  | nil => trivial
  | cons segment segments ih =>
      obtain ⟨after, htext, hrest⟩ : ∃ after,
          [';'].intercalate (segment :: segments) = segment ++ after ∧
          ∀ offset, offset ≤ front.length + segment.length →
            Occurs (front ++ (segment ++ after)) offset
              (placedFrom (front.length + segment.length + 1) segments) := by
        cases segments with
        | nil => exact ⟨[], by simp, fun _ _ => trivial⟩
        | cons next segments =>
            refine ⟨';' :: [';'].intercalate (next :: segments),
              by rw [List.intercalate_cons_cons]; simp, ?_⟩
            intro offset hle
            have hnext := @ih (front ++ segment ++ [';']) offset (by simp; omega)
            simpa [Nat.add_assoc] using hnext
      rw [htext, placedFrom]
      cases hpush : pushStatement segment with
      | none => exact hrest offset (by omega)
      | some statement =>
          obtain ⟨htrim, -, -⟩ := push_statement_eq_some hpush
          have hle := lead_add_length_le htrim
          refine ⟨by omega, ?_, hrest _ (by omega)⟩
          rw [List.drop_append, List.drop_of_length_le (by omega), List.nil_append,
            Nat.add_sub_cancel_left]
          exact prefix_drop_lead htrim after

/-- The statements of a script occur at their places. -/
theorem occurs_placed_statements (sql : List Char) (engine : Engine) :
    Occurs sql 0 (placedStatements sql engine) := by
  obtain ⟨pieces, rfl, hpieces⟩ := exists_lexed (backslashEscapes engine) sql
  have htext := intercalate_groups_from [] pieces
  rw [text_of_nil, List.nil_append] at htext
  have hoccurs := @occurs_placed_from [] ((groups pieces).map textOf) 0 (by simp)
  unfold placedStatements
  rw [segments_eq_groups hpieces]
  rw [List.nil_append, show [';'].intercalate ((groups pieces).map textOf) = _ from htext]
    at hoccurs
  exact hoccurs

/-- A statement that occurs at a place is found there exactly when it does not occur earlier. -/
theorem find_eq_place_iff {sql statement : List Char} {offset place : Nat}
    (hle : offset ≤ place) (hplace : statement <+: sql.drop place) :
    find statement (sql.drop offset) = some (place - offset) ↔
      ∀ earlier, offset ≤ earlier → earlier < place → ¬ statement <+: sql.drop earlier := by
  rw [find_eq_some_iff]
  constructor
  · intro h earlier hfrom hbefore hprefix
    refine h.2 (earlier - offset) (by omega) ?_
    rw [List.drop_drop, show offset + (earlier - offset) = earlier by omega]
    exact hprefix
  · intro h
    refine ⟨?_, ?_⟩
    · rw [List.drop_drop, show offset + (place - offset) = place by omega]
      exact hplace
    · intro earlier hbefore hprefix
      rw [List.drop_drop] at hprefix
      exact h (offset + earlier) (by omega) (by omega) hprefix

/-- The positions from a place on are the places exactly when no statement occurs earlier. -/
theorem position_from_iff {sql : List Char} {offset : Nat} {placed : List (Nat × List Char)}
    (h : Occurs sql offset placed) :
    (∀ index place statement, placed[index]? = some (place, statement) →
      positionFrom sql offset (placed.map Prod.snd) index = some (place + 1)) ↔
      NoEarlier sql offset placed := by
  induction placed generalizing offset with
  | nil => exact ⟨fun _ => trivial, fun _ _ _ _ hindex => by simp at hindex⟩
  | cons entry placed ih =>
      obtain ⟨place, statement⟩ := entry
      obtain ⟨hle, hplace, hrest⟩ := h
      have hfind := find_eq_place_iff hle hplace
      have htail : ∀ index, find statement (sql.drop offset) = some (place - offset) →
          positionFrom sql offset (((place, statement) :: placed).map Prod.snd) (index + 1) =
            positionFrom sql (place + statement.length) (placed.map Prod.snd) index := by
        intro index hfound
        rw [List.map_cons, positionFrom, hfound]
        simp only
        rw [show offset + (place - offset) = place by omega]
      constructor
      · intro hright
        have hfirst := hright 0 place statement rfl
        rw [List.map_cons, positionFrom] at hfirst
        have hfound : find statement (sql.drop offset) = some (place - offset) := by
          cases hsearch : find statement (sql.drop offset) with
          | none => rw [hsearch] at hfirst; cases hfirst
          | some found =>
              rw [hsearch] at hfirst
              have hposition := Option.some.inj hfirst
              congr 1
              omega
        refine ⟨hfind.mp hfound, (ih hrest).mp ?_⟩
        intro index place' statement' hindex
        rw [← htail index hfound]
        exact hright (index + 1) place' statement' hindex
      · intro ⟨hnone, hlater⟩ index place' statement' hindex
        have hfound := hfind.mpr hnone
        cases index with
        | zero =>
            obtain ⟨rfl, rfl⟩ := Prod.mk.inj (Option.some.inj hindex)
            rw [List.map_cons, positionFrom, hfound]
            show some (offset + (place - offset) + 1) = _
            rw [show offset + (place - offset) = place by omega]
        | succ index =>
            rw [htail index hfound]
            exact (ih hrest).mpr hlater index place' statement' hindex

/-- The positions of the statements of a script are the places that they are cut from. -/
def PositionsRight (sql : List Char) (engine : Engine) : Prop :=
  ∀ index place statement, (placedStatements sql engine)[index]? = some (place, statement) →
    statementPosition sql (splitStatements sql engine) index = some (place + 1)

/-- The positions are right exactly when no statement occurs in the text behind the one before
earlier than where it was cut from. -/
theorem positions_right_iff (sql : List Char) (engine : Engine) :
    PositionsRight sql engine ↔ NoEarlier sql 0 (placedStatements sql engine) := by
  unfold PositionsRight statementPosition
  rw [← placed_statements_map]
  exact position_from_iff (occurs_placed_statements sql engine)

/-- A statement is found in a comment before it that was left out. -/
theorem statement_found_in_comment :
    ¬ ∀ (sql : List Char) (engine : Engine), PositionsRight sql engine := by
  intro h
  have hright := h "/*SELECT 1*/;SELECT 1".toList .postgres 0 13 "SELECT 1".toList (by decide)
  exact absurd hright (by decide)

end Dopedb.SqlScript
