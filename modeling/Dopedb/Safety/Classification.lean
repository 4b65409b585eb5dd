import Dopedb.Safety.StatementKinds

/-!
# Classification of a parsed text

`classify_parsed` of `l1_parse.rs`: what the parser's answer for a text is classified as, with the
flag for updates and deletes without a selection and the risk. `no_where_reported_iff` says when the
flag tells the truth about every executed update and delete.
-/

namespace Dopedb.Safety

/-- `RiskLevel`. -/
inductive RiskLevel where
  | low | medium | high
  deriving DecidableEq, Repr

/-- `Classification`. -/
structure Classification where
  kind : QueryKind
  risk : RiskLevel
  statementCount : Nat
  noWhere : Bool
  tables : List String
  notes : List String
  directDml : Bool
  deriving DecidableEq

/-- `SqlParseFailure`. -/
structure SqlParseFailure where
  message : String
  position : Option Nat
  deriving DecidableEq

/-- `ClassificationAnalysis`. -/
structure ClassificationAnalysis where
  classification : Classification
  integrity : ClassificationIntegrity
  parseFailure : Option SqlParseFailure
  statementStart : Option Nat
  deriving DecidableEq

/-- `fail_safe`. -/
def failSafe (note : String) (integrity : ClassificationIntegrity) : ClassificationAnalysis where
  classification := {
    kind := .privilege
    risk := .high
    statementCount := 1
    noWhere := false
    tables := []
    notes := [note]
    directDml := false }
  integrity := integrity
  parseFailure := none
  statementStart := none

/-- The forms of a SQLite `PRAGMA`. -/
inductive PragmaForm where
  | unsupported | changesState | reads
  deriving DecidableEq, Repr

/-- `pragma_analysis`, by the form of the `PRAGMA`. -/
def pragmaAnalysis : PragmaForm → ClassificationAnalysis
  | .unsupported => failSafe "unsupported PRAGMA form — blocked (fail-safe)" .ambiguous
  | .changesState => failSafe "PRAGMA changes connection or database state — blocked" .ambiguous
  | .reads => {
    classification := {
      kind := .read
      risk := .low
      statementCount := 1
      noWhere := false
      tables := []
      notes := []
      directDml := false }
    integrity := .exactSingle
    parseFailure := none
    statementStart := none }

/-- A parsed statement, with the queries that it runs in its expressions and sources, into which no
check looks. -/
structure ParsedStatement where
  statement : Statement
  subqueries : List Query

/-- What the scans and the parser answer for a text: the form of a SQLite `PRAGMA`, the statements
or why there are none, and the first call of a function that sets the session. -/
structure ParsedText where
  pragma : Option PragmaForm
  parsed : Except SqlParseFailure (List ParsedStatement)
  sessionSettingCall : Option Nat

/-- `UPDATE`, `DELETE` or `INSERT` at the top. -/
def isDirectDml : Statement → Bool
  | .insert | .update _ | .delete _ => true
  | _ => false

/-- The risk of a kind. -/
def riskOf (kind : QueryKind) (noWhere : Bool) : RiskLevel :=
  match kind with
  | .read => .low
  | .write => if noWhere then .high else .medium
  | .ddl | .privilege => .high

section

-- The tables that `collect_tables` finds in the statements.
variable (tables : List ParsedStatement → List String)

/-- The classification of one statement. -/
def classifySingle (stmt : ParsedStatement) : ClassificationAnalysis :=
  let finding := classifyStmt [] false stmt.statement
  { classification := {
      kind := finding.kind
      risk := riskOf finding.kind finding.noWhere
      statementCount := 1
      noWhere := finding.noWhere
      tables := tables [stmt]
      notes := finding.notes ++ if finding.noWhere then
        ["UPDATE/DELETE without a WHERE clause — affects every row"] else []
      directDml := isDirectDml stmt.statement }
    integrity := finding.integrity
    parseFailure := none
    statementStart := none }

/-- The classification of more than one statement. -/
def classifyMultiple (statements : List ParsedStatement) : ClassificationAnalysis where
  classification := {
    kind := .write
    risk := .high
    statementCount := statements.length
    noWhere := false
    tables := tables statements
    notes := [toString statements.length ++
      " statements found — only single statements are allowed"]
    directDml := false }
  integrity := .multipleStatements
  parseFailure := none
  statementStart := none

/-- `classify_parsed`. -/
def classifyParsed (text : ParsedText) : ClassificationAnalysis :=
  match text.pragma, text.parsed with
  | some form, _ => pragmaAnalysis form
  | none, .error failure =>
    { failSafe "SQL could not be parsed — blocked before execution (fail-safe)" .parseFailed with
      parseFailure := some failure }
  | none, .ok [] => failSafe "no parseable statement — treated as a write (fail-safe)" .parseFailed
  | none, .ok [stmt] =>
    match text.sessionSettingCall with
    | some position =>
      { failSafe "set_config changes session settings — blocked like SET" .sessionStatement with
        statementStart := some position }
    | none => classifySingle tables stmt
  | none, .ok statements => classifyMultiple tables statements

end

/-! ## Updates and deletes that run -/

mutual

/-- The selections of the updates and deletes in a query. -/
def querySelections : Query → List (Option Expr)
  | .mk ctes body _ => cteSelections ctes ++ setexprSelections body

/-- The selections in the `WITH` tables. -/
def cteSelections : List Query → List (Option Expr)
  | [] => []
  | query :: ctes => querySelections query ++ cteSelections ctes

/-- The selections in a query body. -/
def setexprSelections : SetExpr → List (Option Expr)
  | .select _ tables => sourceSelections tables
  | .query query => querySelections query
  | .setOperation left right => setexprSelections left ++ setexprSelections right
  | .update selection => [selection]
  | .delete selection => [selection]
  | .values | .table _ | .insert | .merge => []

/-- The selections below a `FROM` clause. -/
def sourceSelections : List TableWithJoins → List (Option Expr)
  | [] => []
  | table :: tables => joinedSelections table ++ sourceSelections tables

/-- The selections below a table and those joined to it. -/
def joinedSelections : TableWithJoins → List (Option Expr)
  | .mk relation joins => factorSelections relation ++ factorsSelections joins

/-- The selections below the joined tables. -/
def factorsSelections : List TableFactor → List (Option Expr)
  | [] => []
  | factor :: factors => factorSelections factor ++ factorsSelections factors

/-- The selections below one table reference. -/
def factorSelections : TableFactor → List (Option Expr)
  | .derived subquery => querySelections subquery
  | .nestedJoin table => joinedSelections table
  | .pivot table | .unpivot table | .matchRecognize table => factorSelections table
  | .table _ | .other => []

end

/-- The selections of the updates and deletes that a statement runs: at the top, below an `EXPLAIN`
that executes, and in its query tree. -/
def statementSelections : Statement → List (Option Expr)
  | .query query => querySelections query
  | .explain analyze statement options =>
    if analyze || analyzeOption options then statementSelections statement else []
  | .update selection => [selection]
  | .delete selection => [selection]
  | _ => []

/-- The selections of all updates and deletes of a parsed statement. -/
def ParsedStatement.selections (stmt : ParsedStatement) : List (Option Expr) :=
  statementSelections stmt.statement ++ stmt.subqueries.flatMap querySelections

/-- The statement is an update or a delete without a selection, or an `EXPLAIN` that executes
one. -/
def Statement.withoutWhere : Statement → Bool
  | .explain analyze statement options =>
    (analyze || analyzeOption options) && statement.withoutWhere
  | .update selection => selection.isNone
  | .delete selection => selection.isNone
  | _ => false

/-- The text runs an update or a delete without a selection. -/
def ParsedText.Unguarded (text : ParsedText) : Prop :=
  ∃ statements, text.parsed = .ok statements ∧ ∃ stmt ∈ statements, none ∈ stmt.selections

/-- The text is one statement that no scan answers for, and it is an update or a delete without a
selection, or an `EXPLAIN` that executes one. -/
def ParsedText.WithoutWhere (text : ParsedText) : Prop :=
  text.pragma = none ∧ text.sessionSettingCall = none ∧
    ∃ stmt, text.parsed = .ok [stmt] ∧ stmt.statement.withoutWhere = true

/-- The flag of one statement, and the kind that goes with it. -/
theorem classify_stmt_no_where (notes : List String) (statement : Statement) :
    (classifyStmt notes false statement).noWhere = statement.withoutWhere ∧
      (statement.withoutWhere = true → (classifyStmt notes false statement).kind = .write) := by
  induction statement generalizing notes with
  | query query =>
      refine ⟨?_, nofun⟩
      show StatementFinding.noWhere (if queryHasDml query then _ else
        if querySelectsInto query then _ else if queryHasLocks query then _ else _) = false
      rw [apply_ite StatementFinding.noWhere, apply_ite StatementFinding.noWhere,
        apply_ite StatementFinding.noWhere, ite_self, ite_self, ite_self]
  | explain analyze statement options ih =>
      cases hruns : analyze || analyzeOption options with
      | true =>
          rw [classify_stmt_explain hruns]
          unfold Statement.withoutWhere
          rw [hruns, Bool.true_and]
          exact ih _
      | false =>
          have hread : classifyStmt notes false (.explain analyze statement options) =
              ⟨.read, .exactSingle, notes, false⟩ := by
            show (if analyze || analyzeOption options then _ else _) = _
            rw [hruns]
            rfl
          rw [hread]
          unfold Statement.withoutWhere
          rw [hruns, Bool.false_and]
          exact ⟨rfl, nofun⟩
  | update selection => exact ⟨rfl, fun _ => rfl⟩
  | delete selection => exact ⟨rfl, fun _ => rfl⟩
  | drop objectType =>
      cases objectType with
      | role => exact ⟨rfl, nofun⟩
      | user => exact ⟨rfl, nofun⟩
      | other => exact ⟨rfl, nofun⟩
  | _ => exact ⟨rfl, nofun⟩

/-- A statement without a selection runs one. -/
theorem mem_selections_of_without_where {statement : Statement}
    (h : statement.withoutWhere = true) : none ∈ statementSelections statement := by
  induction statement with
  | explain analyze statement options ih =>
      unfold Statement.withoutWhere at h
      rw [Bool.and_eq_true] at h
      unfold statementSelections
      rw [if_pos h.1]
      exact ih h.2
  | update selection =>
      rw [Option.isNone_iff_eq_none.mp h]
      exact List.mem_singleton.mpr rfl
  | delete selection =>
      rw [Option.isNone_iff_eq_none.mp h]
      exact List.mem_singleton.mpr rfl
  | _ => cases h

/-- The flag says that the text is one statement without a selection, and its risk is high then. -/
theorem classify_parsed_no_where (tables : List ParsedStatement → List String)
    (text : ParsedText) :
    ((classifyParsed tables text).classification.noWhere = true ↔ text.WithoutWhere) ∧
      (text.WithoutWhere → (classifyParsed tables text).classification.risk = .high) := by
  obtain ⟨pragma, parsed, sessionSettingCall⟩ := text
  unfold ParsedText.WithoutWhere
  cases pragma with
  | some form =>
      refine ⟨⟨?_, nofun⟩, nofun⟩
      intro h
      cases form with
      | unsupported => cases h
      | changesState => cases h
      | reads => cases h
  | none =>
      cases parsed with
      | error failure =>
          refine ⟨⟨nofun, ?_⟩, ?_⟩
          · rintro ⟨_, _, stmt, hstmt, _⟩
            cases hstmt
          · rintro ⟨_, _, stmt, hstmt, _⟩
            cases hstmt
      | ok statements =>
          -- only a text of one statement may have the flag
          match statements with
          | [] =>
              refine ⟨⟨nofun, ?_⟩, ?_⟩
              · rintro ⟨_, _, stmt, hstmt, _⟩
                cases hstmt
              · rintro ⟨_, _, stmt, hstmt, _⟩
                cases hstmt
          | [stmt] =>
              cases sessionSettingCall with
              | some position => exact ⟨⟨nofun, fun h => nomatch h.2.1⟩, fun h => nomatch h.2.1⟩
              | none =>
                  obtain ⟨hflag, hkind⟩ := classify_stmt_no_where [] stmt.statement
                  constructor
                  · show (classifyStmt [] false stmt.statement).noWhere = true ↔ _
                    rw [hflag]
                    constructor
                    · intro h
                      exact ⟨rfl, rfl, stmt, rfl, h⟩
                    · rintro ⟨_, _, other, hother, h⟩
                      cases hother
                      exact h
                  · rintro ⟨_, _, other, hother, h⟩
                    cases hother
                    show riskOf (classifyStmt [] false stmt.statement).kind
                      (classifyStmt [] false stmt.statement).noWhere = .high
                    rw [hkind h, hflag, h]
                    rfl
          | first :: second :: rest =>
              refine ⟨⟨nofun, ?_⟩, ?_⟩
              · rintro ⟨_, _, stmt, hstmt, _⟩
                cases hstmt
              · rintro ⟨_, _, stmt, hstmt, _⟩
                cases hstmt

/-- The flag and the risk tell of every executed update and delete without a selection exactly when
such a text is nothing but one of them. -/
theorem no_where_reported_iff (tables : List ParsedStatement → List String) (text : ParsedText) :
    ((text.Unguarded → (classifyParsed tables text).classification.noWhere = true ∧
        (classifyParsed tables text).classification.risk = .high) ∧
      (¬text.Unguarded → (classifyParsed tables text).classification.noWhere = false)) ↔
      (text.Unguarded → text.WithoutWhere) := by
  obtain ⟨hflag, hrisk⟩ := classify_parsed_no_where tables text
  constructor
  · rintro ⟨hreported, _⟩ hunguarded
    exact hflag.mp (hreported hunguarded).1
  · intro hcondition
    constructor
    · intro hunguarded
      have hwithout := hcondition hunguarded
      exact ⟨hflag.mpr hwithout, hrisk hwithout⟩
    · intro hguarded
      refine Bool.eq_false_iff.mpr ?_
      intro hnoWhere
      obtain ⟨_, _, stmt, hparsed, hwithout⟩ := hflag.mp hnoWhere
      exact hguarded ⟨[stmt], hparsed, stmt, List.mem_singleton.mpr rfl,
        List.mem_append_left _ (mem_selections_of_without_where hwithout)⟩

/-- `WITH gone AS (DELETE FROM t RETURNING *) SELECT * FROM gone`. -/
def deletingCte : ParsedText where
  pragma := none
  parsed := .ok [{
    statement := .query (.mk [.mk [] (.delete none) []]
      (.select none [.mk (.table "gone") []]) [])
    subqueries := [] }]
  sessionSettingCall := none

/-- A delete without a selection in a `WITH` table is not flagged. -/
theorem deleting_cte_not_flagged :
    ¬∀ (tables : List ParsedStatement → List String) (text : ParsedText),
      (text.Unguarded → (classifyParsed tables text).classification.noWhere = true ∧
          (classifyParsed tables text).classification.risk = .high) ∧
        (¬text.Unguarded → (classifyParsed tables text).classification.noWhere = false) := by
  intro hreported
  obtain ⟨hflagged, _⟩ := hreported (fun _ => []) deletingCte
  have hunguarded : deletingCte.Unguarded :=
    ⟨_, rfl, _, List.mem_singleton.mpr rfl, by simp [ParsedStatement.selections,
      statementSelections, querySelections, cteSelections, setexprSelections]⟩
  exact absurd (hflagged hunguarded).1 (by decide)

end Dopedb.Safety
