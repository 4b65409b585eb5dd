import Dopedb.Desktop.GridStatements
import Dopedb.Library.SqlTokens

/-!
# What the engines read in statements of the grid

The lexical rules of the engines as dialects, and the tokens of the grid's literals, names and
statements under them. A value of a cell is one literal, a number with its sign, or NULL, and a
statement is read as the tokens of its names and values in their places, whatever they are.
BigQuery has no doubled quotes and reads backslashes in all quotes, so there this holds only for texts
without quotes and names without backquotes, and neither with backslashes or line breaks.
-/

namespace Dopedb.Desktop

open Library Library.SqlTokens

/-! ## Dialects -/

/-- A literal in which two quotes stand for one. -/
def doubledLiteral : QuoteRule := ⟨false, true, false, false, true⟩

/-- A name in which two quotes stand for one. -/
def doubledName : QuoteRule := ⟨true, true, false, false, true⟩

/-- A literal of MySQL. -/
def mysqlLiteral : QuoteRule := ⟨false, true, true, false, true⟩

/-- A literal of BigQuery. -/
def bigqueryLiteral : QuoteRule := ⟨false, false, true, true, false⟩

/-- A name of BigQuery. -/
def bigqueryName : QuoteRule := ⟨true, false, true, false, false⟩

/-- The escapes of MySQL. -/
def mysqlEscape : List Char → Escape
  | ['0'] => .chars ['\x00']
  | ['b'] => .chars ['\x08']
  | ['n'] => .chars ['\n']
  | ['r'] => .chars ['\r']
  | ['t'] => .chars ['\t']
  | ['Z'] => .chars ['\x1a']
  | ['%'] => .chars ['\\', '%']
  | ['_'] => .chars ['\\', '_']
  | [c] => .chars [c]
  | _ => .invalid

/-- The number that digits of a base write. -/
def digitsValue (base : Nat) (digits : List Char) : Option Nat :=
  digits.foldlM (fun n c =>
    let digit := if c.isDigit then c.toNat - '0'.toNat else c.toLower.toNat - 'a'.toNat + 10
    if c.isAlphanum && digit < base then some (n * base + digit) else none) 0

/-- The character that an escape names by its number, once all digits are there. -/
def numbered (base count : Nat) (digits : List Char) : Escape :=
  if digits.length < count then .more
  else
    match digitsValue base digits with
    | some code => if code.isValidChar then .chars [Char.ofNat code] else .invalid
    | none => .invalid

/-- The escapes of BigQuery. -/
def bigqueryEscape : List Char → Escape
  | 'x' :: digits => numbered 16 2 digits
  | 'X' :: digits => numbered 16 2 digits
  | 'u' :: digits => numbered 16 4 digits
  | 'U' :: digits => numbered 16 8 digits
  | ['a'] => .chars ['\x07']
  | ['b'] => .chars ['\x08']
  | ['f'] => .chars ['\x0c']
  | ['n'] => .chars ['\n']
  | ['r'] => .chars ['\r']
  | ['t'] => .chars ['\t']
  | ['v'] => .chars ['\x0b']
  | c :: digits =>
    if '0' ≤ c ∧ c ≤ '3' then numbered 8 3 (c :: digits)
    else if digits = [] ∧ (c = '\\' ∨ c = '?' ∨ c = '"' ∨ c = '\'' ∨ c = '`') then .chars [c]
    else .invalid
  | [] => .more

/-- The lexical rules of an engine. MongoDB has no statements. -/
def dialectOf : Engine → Dialect
  | .postgres => ⟨fun c => if c = '\'' then some doubledLiteral
      else if c = '"' then some doubledName else none, fun _ => .invalid⟩
  | .sqlite => ⟨fun c => if c = '\'' then some doubledLiteral
      else if c = '"' ∨ c = '`' then some doubledName else none, fun _ => .invalid⟩
  | .mysql => ⟨fun c => if c = '\'' ∨ c = '"' then some mysqlLiteral
      else if c = '`' then some doubledName else none, mysqlEscape⟩
  | .bigquery => ⟨fun c => if c = '\'' ∨ c = '"' then some bigqueryLiteral
      else if c = '`' then some bigqueryName else none, bigqueryEscape⟩
  | .mongodb => ⟨fun _ => none, fun _ => .invalid⟩

/-- The engines whose tables the grid shows. -/
abbrev GridEngine := { engine : Engine // engine ≠ .mongodb }

/-- A character without a meaning between two of these quotes in BigQuery. -/
def isBare (quote c : Char) : Bool := c ≠ quote && c ≠ '\\' && c ≠ '\n' && c ≠ '\r'

/-- The grid writes the text of a cell so that the engine reads it back. -/
def writableText (engine : Engine) (text : String) : Bool :=
  engine ≠ .bigquery || text.toList.all (isBare '\'')

/-- The grid writes the name so that the engine reads it back. -/
def writableName (engine : Engine) (name : String) : Bool :=
  engine ≠ .bigquery || name.toList.all (isBare '`')

/-! ## Values -/

/-- What an expression denotes. -/
inductive CellValue where
  | null
  | boolean (value : Bool)
  | number (numeral : List Char)
  | text (content : List Char)
  deriving DecidableEq, Repr

/-- What a cell of a column is meant to hold. A numeric column reads its text as a number, and a
cleared numeric field is NULL; the texts of all other types stand for themselves. -/
def editedValue (dataType : String) : Option String → CellValue
  | none => .null
  | some value =>
    let text := jsTrim value.toList
    if isNumericType dataType && text.isEmpty then .null
    else if isNumericType dataType && isNumeral text then .number text
    else .text value.toList

/-- The expression of a value. -/
def valueTokens : CellValue → List Token
  | .null => [.word "NULL".toList]
  | .boolean value => [.word (if value then "TRUE".toList else "FALSE".toList)]
  | .number ('-' :: numeral) => [.symbol '-', .word numeral]
  | .number numeral => [.word numeral]
  | .text content => [.literal content]

/-- A number without a sign is one word. -/
theorem value_tokens_plain {numeral : List Char} (h : ∀ rest, numeral ≠ '-' :: rest) :
    valueTokens (.number numeral) = [.word numeral] := by
  unfold valueTokens
  split
  case h_3 rest heq =>
      obtain rfl := CellValue.number.inj heq
      exact absurd rfl (h rest)
  case h_4 heq => rw [CellValue.number.inj heq]
  all_goals rename_i heq; cases heq

/-- What an expression of one value denotes. -/
def denoted : List Token → Option CellValue
  | [.word word] =>
    if word = "NULL".toList then some .null
    else if word = "TRUE".toList then some (.boolean true)
    else if word = "FALSE".toList then some (.boolean false)
    else if isUnsigned word then some (.number word) else none
  | [.symbol '-', .word word] => if isUnsigned word then some (.number ('-' :: word)) else none
  | [.literal content] => some (.text content)
  | _ => none

/-! ## Literals and names -/

section Pieces

variable {engine : Engine}

/-- A doubled quote is read as one, and other characters as themselves. -/
theorem scan_twice {dialect : Dialect} {quote c : Char} {rule : QuoteRule}
    (hdoubled : rule.doubled = true) (hescapes : rule.escapes = true → c ≠ '\\')
    (hlines : rule.newlines = true) (front : List Char) :
    scan dialect (.inside quote rule false front 0) (if c = quote then [c, c] else [c]) =
      some ([], .inside quote rule false (front ++ [c]) 0) := by
  split
  case isTrue heq =>
      subst heq
      exact scan_doubled hdoubled front
  case isFalse hne =>
      refine scan_plain hne hescapes ?_ front
      intro hnone
      rw [hlines] at hnone
      cases hnone

/-- A text in quotes that are doubled in it is one token. -/
theorem quoted_twice {dialect : Dialect} (quote : Char) (rule : QuoteRule)
    (hquote : dialect.quotes quote = some rule) (hclosed : isSeparator quote = false)
    (hpoint : quote ≠ '.') (hdoubled : rule.doubled = true) (hescapes : rule.escapes = false)
    (hlines : rule.newlines = true) (text : List Char) :
    Quoted dialect (quote :: twice quote text ++ [quote]) (rule.token text) := by
  refine quoted_text quote rule hquote hclosed hpoint ?_
  intro c _ front
  exact scan_twice hdoubled (by rw [hescapes]; exact nofun) hlines front

/-- A text without special characters in quotes is one token. -/
theorem quoted_bare {dialect : Dialect} (quote : Char) (rule : QuoteRule)
    (hquote : dialect.quotes quote = some rule) (hclosed : isSeparator quote = false)
    (hpoint : quote ≠ '.') {text : List Char} (hbare : ∀ c ∈ text, isBare quote c = true) :
    Quoted dialect (quote :: twice quote text ++ [quote]) (rule.token text) := by
  refine quoted_text quote rule hquote hclosed hpoint ?_
  intro c hc front
  have hplain := hbare c hc
  unfold isBare at hplain
  simp only [Bool.and_eq_true, decide_eq_true_eq] at hplain
  obtain ⟨⟨⟨hne, hslash⟩, hline⟩, hreturn⟩ := hplain
  rw [if_neg hne]
  exact scan_plain hne (fun _ => hslash) (fun _ => ⟨hline, hreturn⟩) front

/-- The literal of a text is one token with that text. -/
theorem quoted_literal (hengine : engine ≠ .mongodb) {value : String}
    (hvalue : writableText engine value = true) :
    Quoted (dialectOf engine) (sqlLiteral engine (some value)) (.literal value.toList) := by
  cases engine with
  | postgres => exact quoted_twice '\'' doubledLiteral rfl rfl (by decide) rfl rfl rfl value.toList
  | sqlite => exact quoted_twice '\'' doubledLiteral rfl rfl (by decide) rfl rfl rfl value.toList
  | bigquery =>
      exact quoted_bare '\'' bigqueryLiteral rfl rfl (by decide) (List.all_eq_true.mp hvalue)
  | mysql =>
      have htext : twice '\'' (twice '\\' value.toList) = value.toList.flatMap fun c =>
          if c = '\\' then ['\\', '\\'] else if c = '\'' then [c, c] else [c] := by
        unfold twice
        rw [List.flatMap_assoc]
        refine List.flatMap_congr fun c _ => ?_
        by_cases hslash : c = '\\'
        · subst hslash
          decide
        · simp [hslash]
      show Quoted _ ('\'' :: twice '\'' (twice '\\' value.toList) ++ ['\'']) _
      rw [htext]
      refine quoted_text '\'' mysqlLiteral rfl rfl (by decide) ?_
      intro c _ front
      split
      case isTrue heq =>
          subst heq
          simp [scan, step, dialectOf, mysqlLiteral, mysqlEscape]
      case isFalse hslash =>
          exact @scan_twice _ '\'' c mysqlLiteral rfl (fun _ => hslash) rfl front
  | mongodb => exact absurd rfl hengine

/-- A quoted name is one token with that name. -/
theorem quoted_ident (hengine : engine ≠ .mongodb) {name : String}
    (hname : writableName engine name = true) :
    Quoted (dialectOf engine) (quoteIdent engine name) (.name name.toList) := by
  cases engine with
  | postgres => exact quoted_twice '"' doubledName rfl rfl (by decide) rfl rfl rfl name.toList
  | sqlite => exact quoted_twice '"' doubledName rfl rfl (by decide) rfl rfl rfl name.toList
  | mysql => exact quoted_twice '`' doubledName rfl rfl (by decide) rfl rfl rfl name.toList
  | bigquery =>
      exact quoted_bare '`' bigqueryName rfl rfl (by decide) (List.all_eq_true.mp hname)
  | mongodb => exact absurd rfl hengine

/-- A separator is no quote. -/
theorem quotes_separator (engine : Engine) {c : Char} (h : isSeparator c = true) :
    (dialectOf engine).quotes c = none := by
  unfold isSeparator at h
  simp only [Bool.or_eq_true, decide_eq_true_eq] at h
  rcases h with (rfl | rfl) | rfl <;> cases engine <;> rfl

/-- Behind a word that is read a separator ends it. -/
theorem reads_word {text : List Char} (tokens : List Token)
    (h : scan (dialectOf engine) .between text = some (tokens, .word text)) :
    Reads (dialectOf engine) text (tokens ++ [.word text]) := by
  refine ⟨tokens, .word text, [.word text], h, rfl, rfl, ?_⟩
  intro c hc
  rw [step, if_neg (by rw [not_goes_on hc text]; decide), quotes_separator engine hc]
  rfl

/-- `NULL` is a word. -/
theorem reads_null (engine : Engine) :
    Reads (dialectOf engine) "NULL".toList [.word "NULL".toList] := by
  refine reads_word [] ?_
  cases engine <;> decide

/-! ## Numbers -/

/-- What `\d+` takes are digits, at least one. -/
theorem drop_digits_some {text rest : List Char} (h : dropDigits text = some rest) :
    ∃ c digits, text = c :: digits ++ rest ∧ c.isDigit = true ∧
      ∀ d ∈ digits, d.isDigit = true := by
  unfold dropDigits at h
  split at h
  case isTrue hhead =>
      obtain rfl := Option.some.inj h
      cases text with
      | nil => cases hhead
      | cons c text =>
          have hc : c.isDigit = true := hhead
          refine ⟨c, text.takeWhile Char.isDigit, ?_, hc, fun d hd => List.mem_takeWhile_imp hd⟩
          rw [List.dropWhile_cons_of_pos hc, List.cons_append, List.takeWhile_append_dropWhile]
  case isFalse => cases h

/-- A digit is a character of a word. -/
theorem word_char_of_digit {c : Char} (h : c.isDigit = true) : isWordChar c = true := by
  simp [isWordChar, Char.isAlphanum, h]

/-- A word goes on with digits. -/
theorem scan_digits {dialect : Dialect} {digits : List Char} (h : ∀ d ∈ digits, d.isDigit = true)
    (front : List Char) :
    scan dialect (.word front) digits = some ([], .word (front ++ digits)) := by
  refine scan_word ?_
  rintro before c after rfl
  have hword := word_char_of_digit (h c (by simp))
  simp [goesOn, hword]

/-- A number goes on with a point. -/
theorem scan_point {dialect : Dialect} {c : Char} (hc : c.isDigit = true) (front : List Char) :
    scan dialect (.word (c :: front)) ['.'] = some ([], .word (c :: front ++ ['.'])) := by
  have hgoes : goesOn (c :: front) '.' = true := by
    unfold goesOn
    simp [hc]
  simp [scan, step, hgoes]

/-- A number goes on with the mark of an exponent and its sign. -/
theorem scan_exponent {dialect : Dialect} {c e : Char} (hc : c.isDigit = true)
    (he : e = 'e' ∨ e = 'E') {sign : List Char} (hsign : sign = [] ∨ sign = ['+'] ∨ sign = ['-'])
    (front : List Char) :
    scan dialect (.word (c :: front)) (e :: sign) =
      some ([], .word (c :: front ++ e :: sign)) := by
  have hmark : goesOn (c :: front) e = true := by
    have hword : isWordChar e = true := by
      rcases he with rfl | rfl <;> decide
    simp [goesOn, hword]
  have hgoes : ∀ d : Char, d = '+' ∨ d = '-' → goesOn (c :: (front ++ [e])) d = true := by
    intro d hd
    unfold goesOn
    have hlast : (c :: (front ++ [e])).getLast? = some e := by
      rw [← List.cons_append]
      exact List.getLast?_concat
    rw [hlast]
    rcases hd with rfl | rfl <;> rcases he with rfl | rfl <;> simp [hc]
  rcases hsign with rfl | rfl | rfl
  · simp [scan, step, hmark]
  · simp [scan, step, hmark, hgoes '+' (.inl rfl)]
  · simp [scan, step, hmark, hgoes '-' (.inr rfl)]

/-- A number is read in its parts. -/
theorem unsigned_parts {text : List Char} (h : isUnsigned text = true) :
    ∃ c digits fraction exponent, text = c :: digits ++ fraction ++ exponent ∧
      c.isDigit = true ∧ (∀ d ∈ digits, d.isDigit = true) ∧
      (fraction = [] ∨ ∃ tail, fraction = '.' :: tail ∧ ∀ d ∈ tail, d.isDigit = true) ∧
      (exponent = [] ∨ ∃ e sign tail, exponent = e :: sign ++ tail ∧ (e = 'e' ∨ e = 'E') ∧
        (sign = [] ∨ sign = ['+'] ∨ sign = ['-']) ∧ ∀ d ∈ tail, d.isDigit = true) := by
  have hall : ∀ {front rest : List Char}, dropDigits front = some rest →
      ∃ digits, front = digits ++ rest ∧ ∀ d ∈ digits, d.isDigit = true := by
    intro front rest hfront
    obtain ⟨c, digits, rfl, hc, hdigits⟩ := drop_digits_some hfront
    exact ⟨c :: digits, rfl, List.forall_mem_cons.mpr ⟨hc, hdigits⟩⟩
  unfold isUnsigned at h
  obtain ⟨last, hlast, hempty⟩ := (Option.any_eq_true _ _).mp h
  obtain rfl := List.isEmpty_iff.mp hempty
  obtain ⟨middle, hmiddle, hexponent⟩ := Option.bind_eq_some_iff.mp hlast
  obtain ⟨rest, hwhole, hfraction⟩ := Option.bind_eq_some_iff.mp hmiddle
  obtain ⟨c, digits, rfl, hc, hdigits⟩ := drop_digits_some hwhole
  have hfractions : ∃ fraction, rest = fraction ++ middle ∧
      (fraction = [] ∨ ∃ tail, fraction = '.' :: tail ∧ ∀ d ∈ tail, d.isDigit = true) := by
    unfold dropFraction at hfraction
    split at hfraction
    · obtain ⟨tail, rfl, htail⟩ := hall hfraction
      exact ⟨'.' :: tail, rfl, .inr ⟨tail, rfl, htail⟩⟩
    · obtain rfl := Option.some.inj hfraction
      exact ⟨[], rfl, .inl rfl⟩
  have hexponents : middle = [] ∨ ∃ e sign tail, middle = e :: sign ++ tail ∧
      (e = 'e' ∨ e = 'E') ∧ (sign = [] ∨ sign = ['+'] ∨ sign = ['-']) ∧
        ∀ d ∈ tail, d.isDigit = true := by
    unfold dropExponent at hexponent
    split at hexponent
    case h_1 e more =>
        split at hexponent
        case isTrue he =>
            split at hexponent
            case h_1 d more =>
                split at hexponent
                case isTrue hd =>
                    obtain ⟨tail, rfl, htail⟩ := hall hexponent
                    refine .inr ⟨e, [d], tail, by simp, he, ?_, htail⟩
                    rcases hd with rfl | rfl
                    · exact .inr (.inl rfl)
                    · exact .inr (.inr rfl)
                case isFalse =>
                    obtain ⟨tail, htext, htail⟩ := hall hexponent
                    exact .inr ⟨e, [], tail, by rw [htext]; simp, he, .inl rfl, htail⟩
            case h_2 => cases hexponent
        case isFalse => cases hexponent
    case h_2 => exact .inl rfl
  obtain ⟨fraction, rfl, hshape⟩ := hfractions
  exact ⟨c, digits, fraction, middle, by simp, hc, hdigits, hshape, hexponents⟩

/-- A number without a sign is one word. -/
theorem scan_unsigned (engine : Engine) {text : List Char} (h : isUnsigned text = true) :
    scan (dialectOf engine) .between text = some ([], .word text) := by
  obtain ⟨c, digits, fraction, exponent, rfl, hc, hdigits, hfraction, hexponent⟩ :=
    unsigned_parts h
  have hword := word_char_of_digit hc
  have hfirst : scan (dialectOf engine) .between [c] = some ([], .word [c]) := by
    have hne : ∀ d : Char, d.isDigit = false → c ≠ d := by
      rintro d hd rfl
      rw [hc] at hd
      cases hd
    have hquotes : (dialectOf engine).quotes c = none := by
      cases engine <;>
        simp [dialectOf, hne '\'' rfl, hne '"' rfl, hne '`' rfl]
    have hblank : isSpace c = false := by
      simp [isSpace, hne ' ' rfl, hne '\t' rfl, hne '\n' rfl, hne '\r' rfl]
    simp [scan, step, fresh, hquotes, hblank, hword]
  have hwhole := scan_trans hfirst (scan_digits hdigits [c])
  have hpoint : scan (dialectOf engine) (.word (c :: digits)) fraction =
      some ([], .word (c :: digits ++ fraction)) := by
    rcases hfraction with rfl | ⟨tail, rfl, htail⟩
    · rw [List.append_nil]
      rfl
    · have hboth := @scan_trans (dialectOf engine) _ _ _ _ _ _ _ (scan_point hc digits)
        (scan_digits htail _)
      simpa using hboth
  have hmark : scan (dialectOf engine) (.word (c :: digits ++ fraction)) exponent =
      some ([], .word (c :: digits ++ fraction ++ exponent)) := by
    rcases hexponent with rfl | ⟨e, sign, tail, rfl, he, hsign, htail⟩
    · rw [List.append_nil]
      rfl
    · have hboth := @scan_trans (dialectOf engine) _ _ _ _ _ _ _
        (scan_exponent hc he hsign (digits ++ fraction)) (scan_digits htail _)
      simpa using hboth
  have hall := scan_trans (scan_trans hwhole hpoint) hmark
  simpa using hall

/-- A number with its sign. -/
theorem reads_numeral (engine : Engine) {text : List Char} (h : isNumeral text = true) :
    Reads (dialectOf engine) text (valueTokens (.number text)) := by
  unfold isNumeral at h
  split at h
  case h_1 rest =>
      have hsign : scan (dialectOf engine) .between ['-'] = some ([], .dash) := by
        cases engine <;> decide
      have hrest := scan_unsigned engine h
      obtain ⟨c, digits, fraction, exponent, rfl, hc, -, -, -⟩ := unsigned_parts h
      have hne : c ≠ '-' := by
        rintro rfl
        cases hc
      have hfirst : ∀ text' : List Char, scan (dialectOf engine) .dash (c :: text') =
          (scan (dialectOf engine) .between (c :: text')).map (prepend [.symbol '-']) := by
        intro text'
        have hstep : step (dialectOf engine) .dash c =
            (fresh (dialectOf engine) c).map (prepend [.symbol '-']) := if_neg hne
        have hfresh : step (dialectOf engine) .between c = fresh (dialectOf engine) c := rfl
        rw [scan, scan, hstep, hfresh]
        cases fresh (dialectOf engine) c with
        | none => rfl
        | some read =>
            rw [Option.map_some, Option.bind_some, Option.bind_some, Option.map_map]
            simp only [prepend]
            congr 1
      have hrun : scan (dialectOf engine) .dash (c :: digits ++ fraction ++ exponent) =
          some ([.symbol '-'], .word (c :: digits ++ fraction ++ exponent)) := by
        have hdash := hfirst (digits ++ fraction ++ exponent)
        simp only [← List.cons_append] at hdash
        rw [hdash, hrest]
        rfl
      have hall := scan_trans hsign hrun
      refine ⟨[.symbol '-'], _, [.word (c :: digits ++ fraction ++ exponent)], hall, rfl, rfl, ?_⟩
      intro d hd
      rw [step, if_neg (by rw [not_goes_on hd]; decide), quotes_separator engine hd]
      rfl
  case h_2 hsign =>
      rw [value_tokens_plain hsign]
      exact reads_word [] (scan_unsigned engine h)

/-- The expression of a cell is the expression of its value. -/
theorem reads_value (hengine : engine ≠ .mongodb) (dataType : String) {value : Option String}
    (hvalue : value.all (writableText engine) = true) :
    Reads (dialectOf engine) (sqlValue engine dataType value)
      (valueTokens (editedValue dataType value)) := by
  cases value with
  | none => exact reads_null engine
  | some value =>
      have hliteral := (quoted_literal hengine hvalue).reads
      unfold sqlValue editedValue
      simp only
      cases hnumeric : isNumericType dataType with
      | false => simpa [valueTokens] using hliteral
      | true =>
          simp only [if_true, Bool.true_and, List.isEmpty_iff]
          by_cases hempty : jsTrim value.toList = []
          · rw [if_pos hempty, if_pos hempty]
            exact reads_null engine
          · rw [if_neg hempty, if_neg hempty]
            by_cases hnumeral : isNumeral (jsTrim value.toList) = true
            · rw [if_pos hnumeral, if_pos hnumeral]
              exact reads_numeral engine hnumeral
            · rw [if_neg hnumeral, if_neg hnumeral]
              exact hliteral

/-- The expression of a cell denotes what the cell is meant to hold. -/
theorem denoted_edited (dataType : String) (value : Option String) :
    denoted (valueTokens (editedValue dataType value)) = some (editedValue dataType value) := by
  unfold editedValue
  cases value with
  | none =>
      simp only
      decide
  | some value =>
      simp only
      split
      · decide
      split
      case isFalse => rfl
      case isTrue hnumber =>
          have hnumeral := (Bool.and_eq_true_iff.mp hnumber).2
          have hwords : ∀ text, isUnsigned text = true → text ≠ "NULL".toList ∧
              text ≠ "TRUE".toList ∧ text ≠ "FALSE".toList := by
            intro text htext
            refine ⟨?_, ?_, ?_⟩ <;>
              · rintro rfl
                exact absurd htext (by decide)
          unfold isNumeral at hnumeral
          split at hnumeral
          case h_1 rest heq =>
              rw [heq]
              show (if isUnsigned rest then some (CellValue.number ('-' :: rest)) else none) = _
              rw [if_pos hnumeral]
          case h_2 hsign =>
              obtain ⟨hnull, htrue, hfalse⟩ := hwords _ hnumeral
              generalize jsTrim value.toList = text at *
              rw [value_tokens_plain hsign, denoted, if_neg hnull, if_neg htrue, if_neg hfalse,
                if_pos hnumeral]

end Pieces

end Dopedb.Desktop
