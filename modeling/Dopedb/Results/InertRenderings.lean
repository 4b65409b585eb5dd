import Dopedb.Results.CsvText

/-!
# Inert renderings

Which texts the database renders for values that hold no formula, said apart from the pattern of
`inert_value`: numbers, infinities, intervals and durations. `inert_value_iff` says that the pattern
accepts exactly these texts, and `InertRendering.inert` which characters they hold.
-/

namespace Dopedb.Results

open Library Library.Regex

/-! ## The texts -/

/-- Decimal digits, one at least. -/
def Digits (text : List Char) : Prop := text ≠ [] ∧ ∀ c ∈ text, c.isDigit = true

/-- Two decimal digits. -/
def TwoDigits (text : List Char) : Prop := text.length = 2 ∧ ∀ c ∈ text, c.isDigit = true

/-- A sign that may be missing. -/
inductive Sign : List Char → Prop where
  | missing : Sign []
  | plus : Sign ['+']
  | minus : Sign ['-']

/-- A minus that may be missing. -/
inductive Minus : List Char → Prop where
  | missing : Minus []
  | minus : Minus ['-']

/-- Digits with a decimal point in them, before them, behind them, or without one. -/
inductive Mantissa : List Char → Prop where
  | whole {digits} : Digits digits → Mantissa digits
  | point {whole fraction} : Digits whole → (∀ c ∈ fraction, c.isDigit = true) →
      Mantissa (whole ++ '.' :: fraction)
  | fraction {digits} : Digits digits → Mantissa ('.' :: digits)

/-- An exponent that may be missing. -/
inductive Exponent : List Char → Prop where
  | missing : Exponent []
  | power {e sign digits} : e = 'e' ∨ e = 'E' → Sign sign → Digits digits →
      Exponent (e :: (sign ++ digits))

/-- The units of an interval. -/
def UNITS : List (List Char) :=
  ["year", "years", "mon", "mons", "day", "days"].map String.toList

/-- A number of units. -/
inductive Quantity : List Char → Prop where
  | units {digits unit} : Digits digits → unit ∈ UNITS → Quantity (digits ++ ' ' :: unit)

/-- A fraction of a second that may be missing. -/
inductive Fraction : List Char → Prop where
  | missing : Fraction []
  | digits {digits} : Digits digits → Fraction ('.' :: digits)

/-- Hours, minutes and seconds. -/
inductive Clock : List Char → Prop where
  | time {hours minutes seconds fraction} : Digits hours → TwoDigits minutes → TwoDigits seconds →
      Fraction fraction → Clock (hours ++ ':' :: (minutes ++ ':' :: (seconds ++ fraction)))

/-- A later quantity of an interval. -/
inductive LaterQuantity : List Char → Prop where
  | signed {sign quantity} : Sign sign → Quantity quantity →
      LaterQuantity (' ' :: (sign ++ quantity))

/-- The time of an interval, which may be missing. -/
inductive LaterClock : List Char → Prop where
  | missing : LaterClock []
  | signed {sign clock} : Sign sign → Clock clock → LaterClock (' ' :: (sign ++ clock))

/-- The text is the database's rendering of a number, an infinity, an interval or a duration. -/
inductive InertRendering : List Char → Prop where
  | number {sign mantissa exponent} : Sign sign → Mantissa mantissa → Exponent exponent →
      InertRendering (sign ++ (mantissa ++ exponent))
  | infinity {sign i} : Sign sign → i = 'I' ∨ i = 'i' →
      InertRendering (sign ++ i :: "nfinity".toList)
  | interval {minus quantity clock} {laters : List (List Char)} :
      Minus minus → Quantity quantity →
      (∀ later ∈ laters, LaterQuantity later) → LaterClock clock →
      InertRendering (minus ++ (quantity ++ (laters.flatten ++ clock)))
  | duration {minus clock} : Minus minus → Clock clock → InertRendering (minus ++ clock)

/-! ## The pattern -/

theorem mem_digit {text : List Char} :
    text ∈ digit.language ↔ ∃ c, text = [c] ∧ c.isDigit = true := by
  refine exists_congr fun c => and_congr_right fun _ => ?_
  rw [Char.isDigit, Bool.and_eq_true, decide_eq_true_iff, decide_eq_true_iff]
  rfl

theorem mem_some_digits {text : List Char} :
    text ∈ (star digit).language ↔ ∀ c ∈ text, c.isDigit = true := by
  refine mem_star_range.trans (forall_congr' fun c => forall_congr' fun _ => ?_)
  rw [Char.isDigit, Bool.and_eq_true, decide_eq_true_iff, decide_eq_true_iff]
  rfl

theorem mem_digits {text : List Char} : text ∈ (plus digit).language ↔ Digits text := by
  rw [mem_plus]
  constructor
  · rintro ⟨front, hfront, back, hback, rfl⟩
    obtain ⟨c, rfl, hc⟩ := mem_digit.mp hfront
    exact ⟨List.cons_ne_nil _ _, List.forall_mem_cons.mpr ⟨hc, mem_some_digits.mp hback⟩⟩
  · rintro ⟨hne, hdigits⟩
    obtain ⟨c, rest, rfl⟩ := List.exists_cons_of_ne_nil hne
    obtain ⟨hc, hrest⟩ := List.forall_mem_cons.mp hdigits
    exact ⟨[c], mem_digit.mpr ⟨c, rfl, hc⟩, rest, mem_some_digits.mpr hrest, rfl⟩

/-- A character and then a text of a pattern. -/
theorem mem_char_then {c : Char} {pattern : Regex} {text : List Char} :
    text ∈ (all [char c, pattern]).language ↔ ∃ rest ∈ pattern.language, text = c :: rest := by
  rw [mem_all_cons]
  constructor
  · rintro ⟨front, hfront, rest, hrest, rfl⟩
    rw [mem_char.mp hfront]
    exact ⟨rest, mem_all_singleton.mp hrest, rfl⟩
  · rintro ⟨rest, hrest, rfl⟩
    exact ⟨[c], mem_char.mpr rfl, rest, mem_all_singleton.mpr hrest, rfl⟩

/-- One of two characters. -/
theorem mem_either {c d : Char} {text : List Char} :
    text ∈ (any [char c, char d]).language ↔ text = [c] ∨ text = [d] := by
  rw [mem_any_cons, mem_any_cons, mem_char, mem_char, iff_false_intro mem_any_nil, or_false]

theorem mem_sign {text : List Char} : text ∈ optionalSign.language ↔ Sign text := by
  rw [optionalSign, mem_optional, mem_either]
  constructor
  · rintro (rfl | rfl | rfl)
    · exact .missing
    · exact .plus
    · exact .minus
  · intro h
    cases h with
    | missing => exact .inl rfl
    | plus => exact .inr (.inl rfl)
    | minus => exact .inr (.inr rfl)

theorem mem_minus {text : List Char} : text ∈ (optional (char '-')).language ↔ Minus text := by
  rw [mem_optional, mem_char]
  constructor
  · rintro (rfl | rfl)
    · exact .missing
    · exact .minus
  · intro h
    cases h with
    | missing => exact .inl rfl
    | minus => exact .inr rfl

theorem mantissa_iff {text : List Char} :
    text ∈ (any [.all [.plus digit, .optional (.all [.char '.', .star digit])],
      .all [.char '.', .plus digit]]).language ↔ Mantissa text := by
  rw [mem_any_cons, mem_any_cons, mem_char_then, mem_all_cons, iff_false_intro mem_any_nil,
    or_false]
  constructor
  · rintro (⟨whole, hwhole, rest, hrest, rfl⟩ | ⟨digits, hdigits, rfl⟩)
    · rcases mem_optional.mp (mem_all_singleton.mp hrest) with rfl | hpoint
      · rw [List.append_nil]
        exact .whole (mem_digits.mp hwhole)
      · obtain ⟨fraction, hfraction, rfl⟩ := mem_char_then.mp hpoint
        exact .point (mem_digits.mp hwhole) (mem_some_digits.mp hfraction)
    · exact .fraction (mem_digits.mp hdigits)
  · intro h
    cases h with
    | whole hdigits =>
        refine .inl ⟨text, mem_digits.mpr hdigits, [], ?_, List.append_nil text⟩
        exact mem_all_singleton.mpr (mem_optional.mpr (.inl rfl))
    | @point whole fraction hwhole hfraction =>
        refine .inl ⟨whole, mem_digits.mpr hwhole, '.' :: fraction, ?_, rfl⟩
        refine mem_all_singleton.mpr (mem_optional.mpr (.inr ?_))
        exact mem_char_then.mpr ⟨fraction, mem_some_digits.mpr hfraction, rfl⟩
    | fraction hdigits => exact .inr ⟨_, mem_digits.mpr hdigits, rfl⟩

theorem mem_exponent {text : List Char} :
    text ∈ (optional (all [.any [.char 'e', .char 'E'], optionalSign, .plus digit])).language ↔
      Exponent text := by
  rw [mem_optional, mem_all_cons]
  constructor
  · rintro (rfl | ⟨front, hfront, back, hback, rfl⟩)
    · exact .missing
    · obtain ⟨sign, hsign, digits, hdigits, rfl⟩ := mem_all_cons.mp hback
      have hpower := fun e he => @Exponent.power e _ _ he (mem_sign.mp hsign)
        (mem_digits.mp (mem_all_singleton.mp hdigits))
      rcases mem_either.mp hfront with rfl | rfl
      · exact hpower 'e' (.inl rfl)
      · exact hpower 'E' (.inr rfl)
  · intro h
    cases h with
    | missing => exact .inl rfl
    | @power e sign digits he hsign hdigits =>
        refine .inr ⟨[e], mem_either.mpr ?_, sign ++ digits, ?_, rfl⟩
        · rcases he with rfl | rfl
          · exact .inl rfl
          · exact .inr rfl
        · exact mem_all_cons.mpr ⟨sign, mem_sign.mpr hsign, digits,
            mem_all_singleton.mpr (mem_digits.mpr hdigits), rfl⟩

/-- A word that may have an `s` behind it. -/
theorem mem_plural {word : String} {text : List Char} :
    text ∈ (all [.text word, .optional (.char 's')]).language ↔
      text = word.toList ∨ text = word.toList ++ ['s'] := by
  rw [mem_all_cons]
  constructor
  · rintro ⟨front, hfront, back, hback, rfl⟩
    rw [mem_text.mp hfront]
    rcases mem_optional.mp (mem_all_singleton.mp hback) with rfl | hs
    · exact .inl (List.append_nil _)
    · rw [mem_char.mp hs]
      exact .inr rfl
  · have hword := @mem_text word _ |>.mpr rfl
    rintro (rfl | rfl)
    · exact ⟨_, hword, [], mem_all_singleton.mpr (mem_optional.mpr (.inl rfl)), List.append_nil _⟩
    · exact ⟨_, hword, ['s'], mem_all_singleton.mpr (mem_optional.mpr (.inr (mem_char.mpr rfl))),
        rfl⟩

theorem mem_unit {text : List Char} : text ∈ intervalUnit.language ↔ text ∈ UNITS := by
  rw [intervalUnit, mem_any_cons, mem_any_cons, mem_any_cons, mem_plural, mem_plural, mem_plural,
    iff_false_intro mem_any_nil]
  simp [UNITS, or_assoc]

/-- Digits, a blank and a unit, before more of a pattern. -/
theorem mem_quantity_then {rest : List Regex} {text : List Char} :
    text ∈ (all (.plus digit :: .char ' ' :: intervalUnit :: rest)).language ↔
      ∃ quantity, Quantity quantity ∧ ∃ back ∈ (all rest).language, quantity ++ back = text := by
  simp only [mem_all_cons, mem_char, mem_unit, mem_digits]
  constructor
  · rintro ⟨digits, hdigits, _, ⟨_, rfl, _, ⟨unit, hunit, back, hback, rfl⟩, rfl⟩, rfl⟩
    exact ⟨_, .units hdigits hunit, back, hback, by simp⟩
  · rintro ⟨quantity, ⟨hdigits, hunit⟩, back, hback, rfl⟩
    exact ⟨_, hdigits, _, ⟨_, rfl, _, ⟨_, hunit, back, hback, rfl⟩, rfl⟩, by simp⟩

/-- Two digits before more of a pattern. -/
theorem mem_two_digits_then {rest : List Regex} {text : List Char} :
    text ∈ (all (digit :: digit :: rest)).language ↔
      ∃ digits, TwoDigits digits ∧ ∃ back ∈ (all rest).language, digits ++ back = text := by
  simp only [mem_all_cons, mem_digit]
  constructor
  · rintro ⟨_, ⟨c, rfl, hc⟩, _, ⟨_, ⟨d, rfl, hd⟩, back, hback, rfl⟩, rfl⟩
    exact ⟨[c, d], ⟨rfl, by simp [hc, hd]⟩, back, hback, rfl⟩
  · rintro ⟨digits, ⟨hlength, hdigits⟩, back, hback, rfl⟩
    obtain ⟨c, d, rfl⟩ := List.length_eq_two.mp hlength
    obtain ⟨hc, hrest⟩ := List.forall_mem_cons.mp hdigits
    exact ⟨_, ⟨c, rfl, hc⟩, _, ⟨_, ⟨d, rfl, hrest d List.mem_cons_self⟩, back, hback, rfl⟩, rfl⟩

theorem mem_fraction {text : List Char} :
    text ∈ (optional (all [.char '.', .plus digit])).language ↔ Fraction text := by
  rw [mem_optional, mem_char_then]
  constructor
  · rintro (rfl | ⟨digits, hdigits, rfl⟩)
    · exact .missing
    · exact .digits (mem_digits.mp hdigits)
  · intro h
    cases h with
    | missing => exact .inl rfl
    | digits hdigits => exact .inr ⟨_, mem_digits.mpr hdigits, rfl⟩

theorem mem_clock {text : List Char} : text ∈ clock.language ↔ Clock text := by
  rw [clock, mem_all_cons]
  constructor
  · rintro ⟨hours, hhours, _, hback, rfl⟩
    obtain ⟨_, hcolon, _, hafter, rfl⟩ := mem_all_cons.mp hback
    obtain ⟨minutes, hminutes, _, hback', rfl⟩ := mem_two_digits_then.mp hafter
    obtain ⟨_, hcolon', _, hafter', rfl⟩ := mem_all_cons.mp hback'
    obtain ⟨seconds, hseconds, fraction, hlast, rfl⟩ := mem_two_digits_then.mp hafter'
    rw [mem_char.mp hcolon, mem_char.mp hcolon']
    show Clock (hours ++ ':' :: (minutes ++ ':' :: (seconds ++ fraction)))
    exact .time (mem_digits.mp hhours) hminutes hseconds
      (mem_fraction.mp (mem_all_singleton.mp hlast))
  · rintro ⟨hhours, hminutes, hseconds, hfraction⟩
    refine ⟨_, mem_digits.mpr hhours, _, ?_, rfl⟩
    refine mem_all_cons.mpr ⟨[':'], mem_char.mpr rfl, _, ?_, rfl⟩
    refine mem_two_digits_then.mpr ⟨_, hminutes, _, ?_, rfl⟩
    refine mem_all_cons.mpr ⟨[':'], mem_char.mpr rfl, _, ?_, rfl⟩
    refine mem_two_digits_then.mpr ⟨_, hseconds, _, ?_, rfl⟩
    exact mem_all_singleton.mpr (mem_fraction.mpr hfraction)

/-- A blank and a sign before more of a pattern. -/
theorem mem_signed {rest : List Regex} {text : List Char} :
    text ∈ (all (.char ' ' :: optionalSign :: rest)).language ↔
      ∃ sign, Sign sign ∧ ∃ back ∈ (all rest).language, ' ' :: (sign ++ back) = text := by
  simp only [mem_all_cons, mem_char, mem_sign]
  constructor
  · rintro ⟨_, rfl, _, ⟨sign, hsign, back, hback, rfl⟩, rfl⟩
    exact ⟨sign, hsign, back, hback, rfl⟩
  · rintro ⟨sign, hsign, back, hback, rfl⟩
    exact ⟨_, rfl, _, ⟨sign, hsign, back, hback, rfl⟩, rfl⟩

theorem mem_later_quantity {text : List Char} :
    text ∈ (all [.char ' ', optionalSign, .plus digit, .char ' ', intervalUnit]).language ↔
      LaterQuantity text := by
  rw [mem_signed]
  constructor
  · rintro ⟨sign, hsign, _, hback, rfl⟩
    obtain ⟨quantity, hquantity, _, hnil, rfl⟩ := mem_quantity_then.mp hback
    rw [mem_all_nil.mp hnil, List.append_nil]
    exact .signed hsign hquantity
  · rintro ⟨hsign, hquantity⟩
    refine ⟨_, hsign, _, ?_, rfl⟩
    exact mem_quantity_then.mpr ⟨_, hquantity, [], mem_all_nil.mpr rfl, List.append_nil _⟩

theorem mem_later_clock {text : List Char} :
    text ∈ (optional (all [.char ' ', optionalSign, clock])).language ↔ LaterClock text := by
  rw [mem_optional, mem_signed]
  constructor
  · rintro (rfl | ⟨sign, hsign, time, htime, rfl⟩)
    · exact .missing
    · exact .signed hsign (mem_clock.mp (mem_all_singleton.mp htime))
  · intro h
    cases h with
    | missing => exact .inl rfl
    | signed hsign htime =>
        exact .inr ⟨_, hsign, _, mem_all_singleton.mpr (mem_clock.mpr htime), rfl⟩

/-- The pattern accepts the inert renderings. -/
theorem inert_value_iff {text : List Char} : inertValue text = true ↔ InertRendering text := by
  rw [inertValue, accepts_iff, INERT_VALUE, mem_any_cons, mem_any_cons, mem_any_cons, mem_any_cons,
    iff_false_intro mem_any_nil, or_false]
  -- the four alternatives of the pattern are the four kinds of renderings
  constructor
  · rintro (hnumber | hinfinity | hinterval | hduration)
    · obtain ⟨sign, hsign, _, hrest, rfl⟩ := mem_all_cons.mp hnumber
      obtain ⟨mantissa, hmantissa, exponent, hexponent, rfl⟩ := mem_all_cons.mp hrest
      exact .number (mem_sign.mp hsign) (mantissa_iff.mp hmantissa)
        (mem_exponent.mp (mem_all_singleton.mp hexponent))
    · obtain ⟨sign, hsign, _, hrest, rfl⟩ := mem_all_cons.mp hinfinity
      obtain ⟨first, hfirst, word, hword, rfl⟩ := mem_all_cons.mp hrest
      rw [mem_text.mp (mem_all_singleton.mp hword)]
      rcases mem_either.mp hfirst with rfl | rfl
      · exact .infinity (mem_sign.mp hsign) (.inl rfl)
      · exact .infinity (mem_sign.mp hsign) (.inr rfl)
    · obtain ⟨minus, hminus, _, hrest, rfl⟩ := mem_all_cons.mp hinterval
      obtain ⟨quantity, hquantity, _, hback, rfl⟩ := mem_quantity_then.mp hrest
      obtain ⟨_, hlaters, time, htime, rfl⟩ := mem_all_cons.mp hback
      obtain ⟨laters, rfl, hall⟩ := Language.mem_kstar.mp hlaters
      exact .interval (mem_minus.mp hminus) hquantity
        (fun later hlater => mem_later_quantity.mp (hall later hlater))
        (mem_later_clock.mp (mem_all_singleton.mp htime))
    · obtain ⟨minus, hminus, time, htime, rfl⟩ := mem_all_cons.mp hduration
      exact .duration (mem_minus.mp hminus) (mem_clock.mp (mem_all_singleton.mp htime))
  · intro h
    cases h with
    | number hsign hmantissa hexponent =>
        refine .inl (mem_all_cons.mpr ⟨_, mem_sign.mpr hsign, _, mem_all_cons.mpr
          ⟨_, mantissa_iff.mpr hmantissa, _, ?_, rfl⟩, rfl⟩)
        exact mem_all_singleton.mpr (mem_exponent.mpr hexponent)
    | @infinity sign i hsign hi =>
        refine .inr (.inl (mem_all_cons.mpr ⟨_, mem_sign.mpr hsign, _, mem_all_cons.mpr
          ⟨[i], mem_either.mpr ?_, _, mem_all_singleton.mpr (mem_text.mpr rfl), rfl⟩, rfl⟩))
        rcases hi with rfl | rfl
        · exact .inl rfl
        · exact .inr rfl
    | interval hminus hquantity hlaters htime =>
        refine .inr (.inr (.inl (mem_all_cons.mpr ⟨_, mem_minus.mpr hminus, _, ?_, rfl⟩)))
        refine mem_quantity_then.mpr ⟨_, hquantity, _, mem_all_cons.mpr ⟨_, ?_, _, ?_, rfl⟩, rfl⟩
        · exact Language.join_mem_kstar fun later hlater =>
            mem_later_quantity.mpr (hlaters later hlater)
        · exact mem_all_singleton.mpr (mem_later_clock.mpr htime)
    | duration hminus htime =>
        refine .inr (.inr (.inr (mem_all_cons.mpr ⟨_, mem_minus.mpr hminus, _, ?_, rfl⟩)))
        exact mem_all_singleton.mpr (mem_clock.mpr htime)

/-! ## Their characters -/

/-- A character of an inert rendering. -/
def isInert (c : Char) : Bool :=
  c.isDigit || c ∈ ['+', '-', '.', ':', ' ', 'E', 'I', 'a', 'd', 'e', 'f', 'i', 'm', 'n', 'o', 'r',
    's', 't', 'y']

/-- The text holds only characters of inert renderings. -/
def Inert (text : List Char) : Prop := ∀ c ∈ text, isInert c = true

theorem Inert.append {text text' : List Char} (h : Inert text) (h' : Inert text') :
    Inert (text ++ text') := List.forall_mem_append.mpr ⟨h, h'⟩

theorem Inert.cons {c : Char} {text : List Char} (hc : isInert c = true) (h : Inert text) :
    Inert (c :: text) := List.forall_mem_cons.mpr ⟨hc, h⟩

theorem inert_nil : Inert [] := fun _ hc => absurd hc List.not_mem_nil

theorem inert_digits {text : List Char} (h : ∀ c ∈ text, c.isDigit = true) : Inert text := by
  intro c hc
  rw [isInert, h c hc, Bool.true_or]

theorem Sign.inert {text : List Char} (h : Sign text) : Inert text := by
  cases h with
  | missing => exact inert_nil
  | plus => exact inert_nil.cons (by decide)
  | minus => exact inert_nil.cons (by decide)

theorem Minus.inert {text : List Char} (h : Minus text) : Inert text := by
  cases h with
  | missing => exact inert_nil
  | minus => exact inert_nil.cons (by decide)

theorem Mantissa.inert {text : List Char} (h : Mantissa text) : Inert text := by
  cases h with
  | whole hdigits => exact inert_digits hdigits.2
  | point hwhole hfraction =>
      exact (inert_digits hwhole.2).append ((inert_digits hfraction).cons (by decide))
  | fraction hdigits => exact (inert_digits hdigits.2).cons (by decide)

theorem Exponent.inert {text : List Char} (h : Exponent text) : Inert text := by
  cases h with
  | missing => exact inert_nil
  | power he hsign hdigits =>
      refine (hsign.inert.append (inert_digits hdigits.2)).cons ?_
      rcases he with rfl | rfl
      · decide
      · decide

theorem Quantity.inert {text : List Char} (h : Quantity text) : Inert text := by
  obtain ⟨hdigits, hunit⟩ := h
  have hunits : ∀ unit ∈ UNITS, ∀ c ∈ unit, isInert c = true := by simp [UNITS, isInert]
  exact (inert_digits hdigits.2).append (.cons (by decide) (hunits _ hunit))

theorem Clock.inert {text : List Char} (h : Clock text) : Inert text := by
  obtain ⟨hhours, hminutes, hseconds, hfraction⟩ := h
  refine (inert_digits hhours.2).append (.cons (by decide) ?_)
  refine (inert_digits hminutes.2).append (.cons (by decide) ?_)
  refine (inert_digits hseconds.2).append ?_
  cases hfraction with
  | missing => exact inert_nil
  | digits hdigits => exact (inert_digits hdigits.2).cons (by decide)

theorem LaterQuantity.inert {text : List Char} (h : LaterQuantity text) : Inert text := by
  obtain ⟨hsign, hquantity⟩ := h
  exact (hsign.inert.append hquantity.inert).cons (by decide)

theorem LaterClock.inert {text : List Char} (h : LaterClock text) : Inert text := by
  cases h with
  | missing => exact inert_nil
  | signed hsign htime => exact (hsign.inert.append htime.inert).cons (by decide)

/-- An inert rendering holds no other characters. -/
theorem InertRendering.inert {text : List Char} (h : InertRendering text) : Inert text := by
  cases h with
  | number hsign hmantissa hexponent =>
      exact hsign.inert.append (hmantissa.inert.append hexponent.inert)
  | infinity hsign hi =>
      refine hsign.inert.append (.cons ?_ (by simp [Inert, isInert]))
      rcases hi with rfl | rfl
      · decide
      · decide
  | interval hminus hquantity hlaters htime =>
      refine hminus.inert.append (hquantity.inert.append (.append ?_ htime.inert))
      intro c hc
      obtain ⟨later, hlater, hmem⟩ := List.mem_flatten.mp hc
      exact (hlaters later hlater).inert c hmem
  | duration hminus htime => exact hminus.inert.append htime.inert

/-- But for its signs, an inert rendering holds no character that a formula starts with. -/
theorem InertRendering.head {text : List Char} (h : InertRendering text) :
    ∀ c ∈ text, c ∉ ['=', '@', '\t', '\r'] := by
  intro c hc hspecial
  have hinert := h.inert c hc
  simp only [List.mem_cons, List.not_mem_nil, or_false] at hspecial
  rcases hspecial with rfl | rfl | rfl | rfl
  all_goals exact absurd hinert (by decide)

end Dopedb.Results
