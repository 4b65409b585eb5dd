import Mathlib.Data.List.Basic

/-!
# Tokens of SQL texts

A lexical automaton for SQL. A dialect says what each quote opens: whether two of them stand for
one, whether a backslash starts an escape, whether three of them open a long literal, and whether a
line may end in it. Outside of quotes the automaton only reads what all dialects read alike: blanks,
words, numbers and a few symbols. It gives up on everything else, comments in particular, so what it
reads has no other reading. `Reads` says that a text is a piece of a statement, with its tokens.
-/

namespace Dopedb.Library.SqlTokens

/-- A token of a statement. -/
inductive Token where
  | word (text : List Char)
  | name (text : List Char)
  | literal (text : List Char)
  | symbol (c : Char)
  deriving DecidableEq, Repr

/-- What the characters behind a backslash are so far. -/
inductive Escape where
  | more
  | chars (text : List Char)
  | invalid
  deriving DecidableEq, Repr

/-- What a quote opens. -/
structure QuoteRule where
  /-- It opens a name, and otherwise a literal. -/
  isName : Bool
  /-- Two quotes stand for one. -/
  doubled : Bool
  /-- A backslash starts an escape. -/
  escapes : Bool
  /-- Three quotes open a long literal. -/
  tripled : Bool
  /-- A line may end inside. -/
  newlines : Bool
  deriving DecidableEq

/-- The quotes and the escapes of an engine. -/
structure Dialect where
  quotes : Char → Option QuoteRule
  escape : List Char → Escape

/-- Where the automaton stands. -/
inductive Mode where
  | between
  | dash
  | word (text : List Char)
  /-- Inside of quotes, with the number of quotes just read that may close a long literal. -/
  | inside (quote : Char) (rule : QuoteRule) (long : Bool) (text : List Char) (closers : Nat)
  | escaped (quote : Char) (rule : QuoteRule) (long : Bool) (text buffer : List Char)
  /-- Behind a quote that closes, unless another one follows. -/
  | closing (quote : Char) (rule : QuoteRule) (text : List Char)
  deriving DecidableEq

/-- The token of a quoted text. -/
def QuoteRule.token (rule : QuoteRule) (text : List Char) : Token :=
  if rule.isName then .name text else .literal text

/-- A blank. -/
def isSpace (c : Char) : Bool := c = ' ' || c = '\t' || c = '\n' || c = '\r'

/-- A character of a word. -/
def isWordChar (c : Char) : Bool := c.isAlphanum || c = '_'

/-- A symbol that all dialects read as a token of its own. -/
def isSymbol (c : Char) : Bool := c = '(' || c = ')' || c = ',' || c = '.' || c = '=' || c = '+'

/-- The character goes on with the word. A number may have a point and the sign of its exponent. -/
def goesOn (text : List Char) (c : Char) : Bool :=
  isWordChar c || (text.head?.any Char.isDigit &&
    (c = '.' || ((c = '+' || c = '-') && text.getLast?.any fun d => d = 'e' || d = 'E')))

/-- A character between two tokens. -/
def fresh (dialect : Dialect) (c : Char) : Option (List Token × Mode) :=
  match dialect.quotes c with
  | some rule => some ([], .inside c rule false [] 0)
  | none =>
    if isSpace c then some ([], .between)
    else if isWordChar c then some ([], .word [c])
    else if c = '-' then some ([], .dash)
    else if isSymbol c then some ([.symbol c], .between)
    else none

/-- More tokens come before what is read. -/
def prepend (tokens : List Token) (read : List Token × Mode) : List Token × Mode :=
  (tokens ++ read.1, read.2)

/-- One character. -/
@[simp] def step (dialect : Dialect) : Mode → Char → Option (List Token × Mode)
  | .between, c => fresh dialect c
  | .dash, c => if c = '-' then none else (fresh dialect c).map (prepend [.symbol '-'])
  | .word text, c =>
    if goesOn text c then some ([], .word (text ++ [c]))
    else if (dialect.quotes c).isSome then none
    else (fresh dialect c).map (prepend [.word text])
  | .inside quote rule long text closers, c =>
    if c = quote then
      if !long then some ([], .closing quote rule text)
      else if closers = 2 then some ([rule.token text], .between)
      else some ([], .inside quote rule long text (closers + 1))
    else if c = '\\' && rule.escapes then
      some ([], .escaped quote rule long (text ++ List.replicate closers quote) [])
    else if !long && !rule.newlines && (c = '\n' || c = '\r') then none
    else some ([], .inside quote rule long (text ++ List.replicate closers quote ++ [c]) 0)
  | .escaped quote rule long text buffer, c =>
    match dialect.escape (buffer ++ [c]) with
    | .more => some ([], .escaped quote rule long text (buffer ++ [c]))
    | .chars decoded => some ([], .inside quote rule long (text ++ decoded) 0)
    | .invalid => none
  | .closing quote rule text, c =>
    if c = quote && rule.doubled then some ([], .inside quote rule false (text ++ [quote]) 0)
    else if c = quote && rule.tripled && text.isEmpty then
      some ([], .inside quote rule true [] 0)
    else (fresh dialect c).map (prepend [rule.token text])

/-- The last token, where the text may end. -/
def flush : Mode → Option (List Token)
  | .between => some []
  | .dash => some [.symbol '-']
  | .word text => some [.word text]
  | .closing _ rule text => some [rule.token text]
  | .inside _ _ _ _ _ => none
  | .escaped _ _ _ _ _ => none

/-- The automaton over a text. -/
@[simp] def scan (dialect : Dialect) : Mode → List Char → Option (List Token × Mode)
  | mode, [] => some ([], mode)
  | mode, c :: text =>
    (step dialect mode c).bind fun (tokens, mode) => (scan dialect mode text).map (prepend tokens)

/-- The tokens of a text. -/
def lex (dialect : Dialect) (text : List Char) : Option (List Token) :=
  (scan dialect .between text).bind fun (tokens, mode) => (flush mode).map (tokens ++ ·)

variable {dialect : Dialect}

@[simp] theorem prepend_nil (read : List Token × Mode) : prepend [] read = read := rfl

theorem prepend_prepend (tokens tokens' : List Token) (read : List Token × Mode) :
    prepend tokens (prepend tokens' read) = prepend (tokens ++ tokens') read := by
  simp [prepend]

/-- The automaton goes on where it stands. -/
theorem scan_append {mode middle : Mode} {text text' : List Char} {tokens : List Token}
    (h : scan dialect mode text = some (tokens, middle)) :
    scan dialect mode (text ++ text') = (scan dialect middle text').map (prepend tokens) := by
  induction text generalizing mode tokens with
  | nil =>
      obtain ⟨rfl, rfl⟩ := Prod.mk.inj (Option.some.inj h)
      rw [List.nil_append]
      cases scan dialect mode text' <;> rfl
  | cons c text ih =>
      rw [scan] at h
      obtain ⟨⟨first, next⟩, hstep, hrest⟩ := Option.bind_eq_some_iff.mp h
      obtain ⟨⟨more, last⟩, hrun, heq⟩ := Option.map_eq_some_iff.mp hrest
      obtain ⟨rfl, rfl⟩ := Prod.mk.inj heq
      rw [List.cons_append, scan, hstep, Option.bind_some]
      simp only
      rw [ih hrun, Option.map_map]
      congr 1
      funext read
      exact prepend_prepend first more read

/-- Two runs after each other. -/
theorem scan_trans {mode middle last : Mode} {text text' : List Char} {tokens tokens' : List Token}
    (h : scan dialect mode text = some (tokens, middle))
    (h' : scan dialect middle text' = some (tokens', last)) :
    scan dialect mode (text ++ text') = some (tokens ++ tokens', last) := by
  rw [scan_append h, h']
  rfl

/-! ## Pieces of statements -/

/-- A character that ends every token of a statement. -/
def isSeparator (c : Char) : Bool := c = ' ' || c = ',' || c = ')'

/-- The text is read with nothing left over. -/
def Fixed (dialect : Dialect) (text : List Char) (tokens : List Token) : Prop :=
  scan dialect .between text = some (tokens, .between)

/-- The text is read as these tokens when a separator or nothing follows. -/
def Reads (dialect : Dialect) (text : List Char) (tokens : List Token) : Prop :=
  ∃ emitted mode pending, scan dialect .between text = some (emitted, mode) ∧
    flush mode = some pending ∧ tokens = emitted ++ pending ∧
    ∀ c, isSeparator c = true → step dialect mode c = (fresh dialect c).map (prepend pending)

/-- A text that is read with nothing left over is a piece. -/
theorem Fixed.reads {text : List Char} {tokens : List Token} (h : Fixed dialect text tokens) :
    Reads dialect text tokens := by
  refine ⟨tokens, .between, [], h, rfl, (List.append_nil _).symm, ?_⟩
  intro c _
  show fresh dialect c = _
  cases fresh dialect c <;> rfl

/-- A piece behind a text. -/
theorem Fixed.then_reads {text text' : List Char} {tokens tokens' : List Token}
    (h : Fixed dialect text tokens) (h' : Reads dialect text' tokens') :
    Reads dialect (text ++ text') (tokens ++ tokens') := by
  obtain ⟨emitted, mode, pending, hrun, hflush, rfl, hsettled⟩ := h'
  exact ⟨tokens ++ emitted, mode, pending, scan_trans h hrun, hflush,
    (List.append_assoc _ _ _).symm, hsettled⟩

/-- The text starts with a separator. -/
def Leads (text : List Char) : Prop := text.head?.any isSeparator = true

/-- A text that starts with a separator behind a piece. -/
theorem Reads.then_fixed {text text' : List Char} {tokens tokens' : List Token}
    (h : Reads dialect text tokens) (hleads : Leads text')
    (h' : Fixed dialect text' tokens') : Fixed dialect (text ++ text') (tokens ++ tokens') := by
  obtain ⟨emitted, mode, pending, hrun, -, rfl, hsettled⟩ := h
  cases text' with
  | nil => cases hleads
  | cons c text' =>
      have hrest : scan dialect mode (c :: text') = some (pending ++ tokens', .between) := by
        unfold Fixed at h'
        rw [scan] at h' ⊢
        have hstep : step dialect .between c = fresh dialect c := rfl
        rw [hstep] at h'
        obtain ⟨⟨first, next⟩, hfresh, hmore⟩ := Option.bind_eq_some_iff.mp h'
        obtain ⟨⟨more, last⟩, hlast, heq⟩ := Option.map_eq_some_iff.mp hmore
        obtain ⟨rfl, rfl⟩ := Prod.mk.inj heq
        rw [hsettled c hleads, hfresh, Option.map_some, Option.bind_some]
        simp only [prepend]
        rw [hlast]
        simp [prepend]
      have hboth := scan_trans hrun hrest
      unfold Fixed
      rw [hboth, List.append_assoc]

/-- The tokens of a piece. -/
theorem Reads.lex {text : List Char} {tokens : List Token} (h : Reads dialect text tokens) :
    lex dialect text = some tokens := by
  obtain ⟨emitted, mode, pending, hrun, hflush, rfl, -⟩ := h
  rw [SqlTokens.lex, hrun, Option.bind_some]
  simp only
  rw [hflush]
  rfl

/-- Pieces with a fixed text between each two. -/
theorem reads_intercalate {separator : List Char} {marks : List Token}
    (hleads : Leads separator) (hfixed : Fixed dialect separator marks)
    {pieces : List (List Char × List Token)}
    (h : ∀ piece ∈ pieces, Reads dialect piece.1 piece.2) :
    Reads dialect (separator.intercalate (pieces.map Prod.fst))
      (marks.intercalate (pieces.map Prod.snd)) := by
  induction pieces with
  | nil => exact Fixed.reads (rfl : scan dialect .between [] = some ([], .between))
  | cons piece rest ih =>
      cases rest with
      | nil =>
          rw [List.map_singleton, List.map_singleton, List.intercalate_singleton,
            List.intercalate_singleton]
          exact h piece List.mem_cons_self
      | cons next rest =>
          have hmore := ih fun other hother => h other (List.mem_cons_of_mem _ hother)
          have hboth := ((h piece List.mem_cons_self).then_fixed hleads hfixed).then_reads hmore
          rw [List.map_cons, List.map_cons, List.map_cons, List.map_cons,
            List.intercalate_cons_cons, List.intercalate_cons_cons]
          simpa [List.append_assoc] using hboth

/-! ## Quoted texts and numbers -/

/-- Characters that are each read as themselves are read as a text. -/
theorem scan_inside {quote : Char} {rule : QuoteRule} {encode : Char → List Char} {text : List Char}
    (h : ∀ c ∈ text, ∀ front, scan dialect (.inside quote rule false front 0) (encode c) =
      some ([], .inside quote rule false (front ++ [c]) 0)) (front : List Char) :
    scan dialect (.inside quote rule false front 0) (text.flatMap encode) =
      some ([], .inside quote rule false (front ++ text) 0) := by
  induction text generalizing front with
  | nil =>
      rw [List.append_nil]
      rfl
  | cons c text ih =>
      have hfirst := h c List.mem_cons_self front
      have hrest := ih (fun d hd => h d (List.mem_cons_of_mem _ hd)) (front ++ [c])
      rw [List.flatMap_cons, scan_append hfirst, hrest, List.append_assoc]
      rfl

/-- The text is a quoted one, and the token is what it quotes. -/
def Quoted (dialect : Dialect) (text : List Char) (token : Token) : Prop :=
  ∃ quote rule content, scan dialect .between text = some ([], .closing quote rule content) ∧
    isSeparator quote = false ∧ quote ≠ '.' ∧ token = rule.token content

/-- A quoted text whose characters are each read as themselves is one token. -/
theorem quoted_text (quote : Char) (rule : QuoteRule) (hquote : dialect.quotes quote = some rule)
    (hclosed : isSeparator quote = false) (hpoint : quote ≠ '.') {encode : Char → List Char}
    {text : List Char}
    (h : ∀ c ∈ text, ∀ front, scan dialect (.inside quote rule false front 0) (encode c) =
      some ([], .inside quote rule false (front ++ [c]) 0)) :
    Quoted dialect (quote :: text.flatMap encode ++ [quote]) (rule.token text) := by
  have hopen : scan dialect .between [quote] = some ([], .inside quote rule false [] 0) := by
    simp [scan, step, fresh, hquote]
  have hclose : scan dialect (.inside quote rule false text 0) [quote] =
      some ([], .closing quote rule text) := by
    simp [scan, step]
  have hbody := scan_inside h []
  rw [List.nil_append] at hbody
  have hall := scan_trans (scan_trans hopen hbody) hclose
  exact ⟨quote, rule, text, by simpa using hall, hclosed, hpoint, rfl⟩

/-- A quoted text is a piece. -/
theorem Quoted.reads {text : List Char} {token : Token} (h : Quoted dialect text token) :
    Reads dialect text [token] := by
  obtain ⟨quote, rule, content, hrun, hclosed, -, rfl⟩ := h
  refine ⟨[], .closing quote rule content, [rule.token content], hrun, rfl, rfl, ?_⟩
  intro c hc
  have hne : c ≠ quote := by
    rintro rfl
    rw [hc] at hclosed
    cases hclosed
  simp [step, hne]

/-- A point may follow a quoted text. -/
theorem Quoted.point {text : List Char} {token : Token} (h : Quoted dialect text token)
    (hpoint : dialect.quotes '.' = none) :
    Fixed dialect (text ++ ['.']) [token, .symbol '.'] := by
  obtain ⟨quote, rule, content, hrun, -, hne, rfl⟩ := h
  have hfresh : fresh dialect '.' = some ([.symbol '.'], .between) := by
    unfold fresh
    rw [hpoint]
    decide
  have hstep : scan dialect (.closing quote rule content) ['.'] =
      some ([rule.token content, .symbol '.'], .between) := by
    simp [scan, step, hne.symm, hfresh, prepend]
  exact scan_trans hrun hstep

/-- A character without a meaning inside of quotes. -/
theorem scan_plain {quote c : Char} {rule : QuoteRule} (hquote : c ≠ quote)
    (hescape : rule.escapes = true → c ≠ '\\')
    (hline : rule.newlines = false → c ≠ '\n' ∧ c ≠ '\r') (front : List Char) :
    scan dialect (.inside quote rule false front 0) [c] =
      some ([], .inside quote rule false (front ++ [c]) 0) := by
  have hslash : (decide (c = '\\') && rule.escapes) = false := by
    cases hescapes : rule.escapes with
    | false => simp
    | true => simp [hescape hescapes]
  have hbreak : (!false && !rule.newlines && (decide (c = '\n') || decide (c = '\r'))) = false := by
    cases hnewlines : rule.newlines with
    | true => simp
    | false => simp [hline hnewlines]
  rw [scan, step, if_neg hquote, hslash, hbreak]
  simp [scan]

/-- Two quotes stand for one. -/
theorem scan_doubled {quote : Char} {rule : QuoteRule} (hdoubled : rule.doubled = true)
    (front : List Char) :
    scan dialect (.inside quote rule false front 0) [quote, quote] =
      some ([], .inside quote rule false (front ++ [quote]) 0) := by
  simp [scan, step, hdoubled]

/-- Characters that go on with a word. -/
theorem scan_word {text more : List Char}
    (h : ∀ front c back, more = front ++ c :: back → goesOn (text ++ front) c = true) :
    scan dialect (.word text) more = some ([], .word (text ++ more)) := by
  induction more generalizing text with
  | nil =>
      rw [List.append_nil]
      rfl
  | cons c more ih =>
      have hfirst := h [] c more rfl
      rw [List.append_nil] at hfirst
      have hrest : scan dialect (.word (text ++ [c])) more =
          some ([], .word (text ++ [c] ++ more)) := by
        refine ih ?_
        intro front d back hmore
        have hnext := h (c :: front) d back (by rw [hmore]; rfl)
        simpa using hnext
      rw [scan, step, if_pos hfirst, Option.bind_some]
      simp only
      rw [hrest]
      simp

/-- No word goes on at a separator. -/
theorem not_goes_on {c : Char} (h : isSeparator c = true) (text : List Char) :
    goesOn text c = false := by
  unfold isSeparator at h
  simp only [Bool.or_eq_true, decide_eq_true_eq] at h
  rcases h with (rfl | rfl) | rfl <;> simp [goesOn, isWordChar]

end Dopedb.Library.SqlTokens
