import Mathlib.Tactic.ByContra
import Dopedb.Model
import Dopedb.Text
import Dopedb.Safety.Ast

/-!
# Statement kinds

`l1_statement_kinds.rs`: which parsed statement shapes read, change data, change the schema, or
are blocked, and how far a `read` verdict can be trusted. The three walks over a query visit
different parts of its tree: data changes and locks are looked for in `WITH` tables, set
operations and parentheses, `INTO` only in the statement's own body, and none of them enters the
tables of a `FROM` clause.
-/

namespace Dopedb.Safety

/-- How sure the parser is about a classification. -/
inductive ClassificationIntegrity where
  | exactSingle | parseFailed | multipleStatements | documentFamily | ambiguous | sessionStatement
  deriving DecidableEq, Repr

/-- The query's own clauses show the effect: only row locks are a clause of the query itself. -/
def locksShow (effect : Effect) (locks : List LockType) : Bool :=
  effect == .lock && !locks.isEmpty

/-- A query body that nests no query shows the effect: a data change in place of a select. -/
def bodyShows (effect : Effect) : SetExpr → Bool
  | .insert | .update _ | .delete _ | .merge => effect == .change
  | _ => false

mutual

/-- The walk that `query_has_dml` and `query_has_locks` share: the query itself, its `WITH`
tables, and its set-expression tree. -/
def walkQuery (effect : Effect) : Query → Bool
  | .mk cteTables body locks =>
      locksShow effect locks || walkCteTables effect cteTables || walkSetexpr effect body

/-- The walk over the `WITH` tables. -/
def walkCteTables (effect : Effect) : List Query → Bool
  | [] => false
  | query :: cteTables => walkQuery effect query || walkCteTables effect cteTables

/-- The walk over a set-expression tree: it enters parentheses and set operations only. -/
def walkSetexpr (effect : Effect) : SetExpr → Bool
  | .query query => walkQuery effect query
  | .setOperation left right => walkSetexpr effect left || walkSetexpr effect right
  | body => bodyShows effect body

end

/-- A data change in the query tree, including `WITH` tables. -/
def queryHasDml (query : Query) : Bool := walkQuery .change query

/-- A row-locking clause in the query tree, including `WITH` tables. -/
def queryHasLocks (query : Query) : Bool := walkQuery .lock query

/-- `SELECT … INTO` at the top-level select body. -/
def querySelectsInto : Query → Bool
  | .mk _ (.select target _) _ => target.isSome
  | _ => false

/-- `str::to_ascii_lowercase`. -/
def toAsciiLowercase (text : String) : String := String.ofList (text.toList.map Char.toLower)

/-- The argument of an `ANALYZE` option turns execution off. -/
def optionDisables : Option Expr → Bool
  | some (.value (.boolean enabled)) => !enabled
  | some (.value (.number number)) => number == "0"
  | some (.value (.singleQuotedString text)) =>
      ["false", "off", "0", "no"].contains (toAsciiLowercase text)
  | some (.value .other) => false
  | some (.identifier value) => ["false", "off", "no"].contains (toAsciiLowercase value)
  | _ => false

/-- An option list that asks for the statement to be executed. -/
def analyzeOption (options : Option (List UtilityOption)) : Bool :=
  options.any fun options => options.any fun option =>
    toAsciiLowercase option.name == "analyze" && !optionDisables option.arg

/-- The name a blocked statement is reported under. -/
def shortKind : Statement → String
  | .query _ => "Query"
  | .insert => "Insert"
  | .update _ => "Update"
  | .delete _ => "Delete"
  | _ => "Other"

/-- What `classify_stmt` returns and the two outputs it writes through. -/
structure StatementFinding where
  kind : QueryKind
  integrity : ClassificationIntegrity
  notes : List String
  noWhere : Bool
  deriving DecidableEq, Repr

/-- Classify one parsed statement. -/
def classifyStmt (notes : List String) (noWhere : Bool) : Statement → StatementFinding
  | .query query =>
      if queryHasDml query then
        ⟨.write, .exactSingle,
          notes ++ ["data-changing statement inside the query or its CTEs — reclassified as a write"],
          noWhere⟩
      else if querySelectsInto query then
        ⟨.ddl, .exactSingle,
          notes ++ ["SELECT ... INTO creates a table — reclassified as DDL"], noWhere⟩
      else if queryHasLocks query then
        ⟨.write, .exactSingle,
          notes ++ ["SELECT ... FOR UPDATE/SHARE takes row locks — reclassified as a write"],
          noWhere⟩
      else
        ⟨.read, .exactSingle, notes, noWhere⟩
  | .explain analyze statement options =>
      if analyze || analyzeOption options then
        classifyStmt
          (notes ++ ["EXPLAIN ANALYZE executes the statement — classified by its inner statement"])
          noWhere statement
      else
        -- without ANALYZE the statement is planned and not executed
        ⟨.read, .exactSingle, notes, noWhere⟩
  | .explainTable | .showVariable | .showVariables | .showStatus | .showCreate | .showColumns
  | .showTables | .showViews | .showDatabases | .showSchemas | .showCatalogs | .showFunctions
  | .showCollation | .showCharset | .showObjects => ⟨.read, .exactSingle, notes, noWhere⟩
  | .use | .set =>
      ⟨.privilege, .sessionStatement,
        notes ++
          ["USE/SET changes session state — choose the database and schema with the selector"],
        noWhere⟩
  | .insert | .merge => ⟨.write, .exactSingle, notes, noWhere⟩
  | .update selection => ⟨.write, .exactSingle, notes, selection.isNone⟩
  | .delete selection => ⟨.write, .exactSingle, notes, selection.isNone⟩
  | .drop .role | .drop .user => ⟨.privilege, .exactSingle, notes, noWhere⟩
  | .createTable | .createIndex | .createView | .createVirtualTable | .createSchema
  | .createDatabase | .createFunction | .createTrigger | .createProcedure | .createSequence
  | .createDomain | .createType | .createExtension | .createCollation | .createOperator
  | .createOperatorFamily | .createOperatorClass
  | .alterTable | .alterSchema | .alterIndex | .alterView | .alterFunction | .alterType
  | .alterCollation | .alterOperator | .alterOperatorFamily | .alterOperatorClass
  | .drop .other | .dropFunction | .dropDomain | .dropProcedure | .dropTrigger | .dropExtension
  | .dropOperator | .dropOperatorFamily | .dropOperatorClass
  | .renameTable | .comment | .truncate => ⟨.ddl, .exactSingle, notes, noWhere⟩
  | .createRole | .alterRole | .createUser | .alterUser | .createPolicy | .alterPolicy
  | .dropPolicy | .grant | .deny | .revoke => ⟨.privilege, .exactSingle, notes, noWhere⟩
  | statement =>
      -- a statement of no known kind is never taken for a read
      ⟨.privilege, .ambiguous,
        notes ++ ["unrecognized statement shape — blocked as privileged (fail-safe): " ++
          shortKind statement],
        noWhere⟩

/-- The statement, when it runs, reaches the effect at the place. -/
inductive StatementHas : Place → Effect → Statement → Prop where
  | query {place : Place} {effect : Effect} {query : Query} (h : QueryHas place effect query) :
      StatementHas place effect (.query query)
  | explain {place : Place} {effect : Effect} {analyze : Bool} {statement : Statement}
      {options : Option (List UtilityOption)}
      (hruns : analyze = true ∨ ∃ entries, options = some entries ∧ ∃ option ∈ entries,
        toAsciiLowercase option.name = "analyze" ∧ optionDisables option.arg = false)
      (h : StatementHas place effect statement) :
      StatementHas place effect (.explain analyze statement options)
  | insert : StatementHas .own .change .insert
  | merge : StatementHas .own .change .merge
  | update {selection : Option Expr} : StatementHas .own .change (.update selection)
  | delete {selection : Option Expr} : StatementHas .own .change (.delete selection)

/-- The places at which the classifier looks for an effect. -/
def Place.visited : Place → Effect → Bool
  | .own, _ => true
  | .nested, effect => effect != .into
  | .derived, _ => false

/-! ### What the walks see -/

/-- One query further out, a place is below a `FROM` clause exactly when it was before. -/
theorem Place.inner_eq_derived {place : Place} : place.inner = .derived ↔ place = .derived := by
  cases place <;> simp [Place.inner]

/-- One query further out, no place is the statement's own. -/
theorem Place.inner_ne_own (place : Place) : place.inner ≠ .own := by
  cases place <;> simp [Place.inner]

section

variable {effect : Effect}

mutual

/-- The walk finds every lock and data change that is not below a `FROM` clause. -/
theorem walk_query_of_has (heffect : effect ≠ .into) {place : Place} (hplace : place ≠ .derived) :
    ∀ {query : Query}, QueryHas place effect query → walkQuery effect query = true
  | .mk ctes body locks, h => by
      cases h with
      | locks hlocks => simp [walkQuery, locksShow, hlocks]
      | cte h =>
          have hctes := walk_cte_tables_of_have heffect (mt Place.inner_eq_derived.mpr hplace) h
          simp [walkQuery, hctes]
      | body h =>
          have hbody := walk_setexpr_of_has heffect hplace h
          simp [walkQuery, hbody]

/-- The walk finds every such effect in the `WITH` tables. -/
theorem walk_cte_tables_of_have (heffect : effect ≠ .into) {place : Place}
    (hplace : place ≠ .derived) :
    ∀ {ctes : List Query}, CtesHave place effect ctes → walkCteTables effect ctes = true
  | query :: ctes, h => by
      cases h with
      | head h =>
          have hquery := walk_query_of_has heffect hplace h
          simp [walkCteTables, hquery]
      | tail h =>
          have hctes := walk_cte_tables_of_have heffect hplace h
          simp [walkCteTables, hctes]

/-- The walk finds every such effect in a query body. -/
theorem walk_setexpr_of_has (heffect : effect ≠ .into) {place : Place}
    (hplace : place ≠ .derived) :
    ∀ {body : SetExpr}, SetExprHas place effect body → walkSetexpr effect body = true
  | .select _ _, h => by
      cases h with
      | into => exact absurd rfl heffect
      | source => exact absurd rfl hplace
  | .query query, h => by
      cases h with
      | query h =>
          have hquery := walk_query_of_has heffect (mt Place.inner_eq_derived.mpr hplace) h
          simpa [walkSetexpr] using hquery
  | .setOperation left right, h => by
      cases h with
      | left h =>
          have hleft := walk_setexpr_of_has heffect (mt Place.inner_eq_derived.mpr hplace) h
          simp [walkSetexpr, hleft]
      | right h =>
          have hright := walk_setexpr_of_has heffect (mt Place.inner_eq_derived.mpr hplace) h
          simp [walkSetexpr, hright]
  | .values, h => nomatch h
  | .table _, h => nomatch h
  | .insert, h => by cases h; rfl
  | .update _, h => by cases h; rfl
  | .delete _, h => by cases h; rfl
  | .merge, h => by cases h; rfl

end

mutual

/-- What the walk finds stands outside every `FROM` clause. -/
theorem has_of_walk_query :
    ∀ {query : Query}, walkQuery effect query = true →
      ∃ place, place ≠ .derived ∧ QueryHas place effect query
  | .mk ctes body locks, h => by
      simp only [walkQuery, Bool.or_eq_true] at h
      rcases h with (hlocks | hctes) | hbody
      · simp only [locksShow, Bool.and_eq_true, beq_iff_eq, Bool.not_eq_true',
          List.isEmpty_eq_false_iff] at hlocks
        obtain ⟨rfl, hlocks⟩ := hlocks
        exact ⟨.own, by simp, .locks hlocks⟩
      · obtain ⟨place, hplace, h⟩ := have_of_walk_cte_tables hctes
        exact ⟨place.inner, mt Place.inner_eq_derived.mp hplace, .cte h⟩
      · obtain ⟨place, hplace, h⟩ := has_of_walk_setexpr hbody
        exact ⟨place, hplace, .body h⟩

/-- What the walk finds in the `WITH` tables is in one of them. -/
theorem have_of_walk_cte_tables :
    ∀ {ctes : List Query}, walkCteTables effect ctes = true →
      ∃ place, place ≠ .derived ∧ CtesHave place effect ctes
  | query :: ctes, h => by
      simp only [walkCteTables, Bool.or_eq_true] at h
      rcases h with hquery | hctes
      · obtain ⟨place, hplace, h⟩ := has_of_walk_query hquery
        exact ⟨place, hplace, .head h⟩
      · obtain ⟨place, hplace, h⟩ := have_of_walk_cte_tables hctes
        exact ⟨place, hplace, .tail h⟩

/-- What the walk finds in a query body is there. -/
theorem has_of_walk_setexpr :
    ∀ {body : SetExpr}, walkSetexpr effect body = true →
      ∃ place, place ≠ .derived ∧ SetExprHas place effect body
  | .select _ _, h => by simp [walkSetexpr, bodyShows] at h
  | .query query, h => by
      obtain ⟨place, hplace, h⟩ := has_of_walk_query (by simpa [walkSetexpr] using h)
      exact ⟨place.inner, mt Place.inner_eq_derived.mp hplace, .query h⟩
  | .setOperation left right, h => by
      simp only [walkSetexpr, Bool.or_eq_true] at h
      rcases h with hleft | hright
      · obtain ⟨place, hplace, h⟩ := has_of_walk_setexpr hleft
        exact ⟨place.inner, mt Place.inner_eq_derived.mp hplace, .left h⟩
      · obtain ⟨place, hplace, h⟩ := has_of_walk_setexpr hright
        exact ⟨place.inner, mt Place.inner_eq_derived.mp hplace, .right h⟩
  | .values, h => by simp [walkSetexpr, bodyShows] at h
  | .table _, h => by simp [walkSetexpr, bodyShows] at h
  | .insert, h => ⟨.own, by simp, by
      rw [eq_of_beq (show (effect == .change) = true from h)]
      exact .insert⟩
  | .update _, h => ⟨.own, by simp, by
      rw [eq_of_beq (show (effect == .change) = true from h)]
      exact .update⟩
  | .delete _, h => ⟨.own, by simp, by
      rw [eq_of_beq (show (effect == .change) = true from h)]
      exact .delete⟩
  | .merge, h => ⟨.own, by simp, by
      rw [eq_of_beq (show (effect == .change) = true from h)]
      exact .merge⟩

end

end

/-- The `INTO` check sees exactly the target of the statement's own select. -/
theorem query_selects_into_iff {query : Query} :
    querySelectsInto query = true ↔ QueryHas .own .into query := by
  constructor
  · intro h
    match query, h with
    | .mk _ (.select (some _) _) _, _ => exact .body .into
  · intro h
    generalize hplace : Place.own = place at h
    generalize heffect : Effect.into = effect at h
    cases h with
    | locks => cases heffect
    | cte => exact absurd hplace.symm (Place.inner_ne_own _)
    | body h =>
        cases h with
        | into => rfl
        | source => cases hplace
        | query => exact absurd hplace.symm (Place.inner_ne_own _)
        | left => exact absurd hplace.symm (Place.inner_ne_own _)
        | right => exact absurd hplace.symm (Place.inner_ne_own _)
        | insert | update | delete | merge => cases heffect

/-- A query classifies as a read exactly when no place that the classifier visits has an
effect. -/
theorem query_read_iff {query : Query} :
    (queryHasDml query = false ∧ querySelectsInto query = false ∧ queryHasLocks query = false) ↔
      ∀ place effect, QueryHas place effect query → place.visited effect = false := by
  constructor
  · rintro ⟨hdml, hinto, hlocks⟩ place effect h
    cases hvisited : place.visited effect with
    | false => rfl
    | true =>
        cases effect with
        | change =>
            have hplace : place ≠ .derived := by rintro rfl; cases hvisited
            rw [queryHasDml, walk_query_of_has (by simp) hplace h] at hdml
            cases hdml
        | lock =>
            have hplace : place ≠ .derived := by rintro rfl; cases hvisited
            rw [queryHasLocks, walk_query_of_has (by simp) hplace h] at hlocks
            cases hlocks
        | into =>
            have hplace : place = .own := by
              cases place <;> simp [Place.visited] at hvisited ⊢
            subst hplace
            rw [query_selects_into_iff.mpr h] at hinto
            cases hinto
  · intro h
    refine ⟨?_, ?_, ?_⟩
    · refine Bool.eq_false_iff.mpr fun hdml => ?_
      obtain ⟨place, hplace, hhas⟩ := has_of_walk_query hdml
      have hvisited := h _ _ hhas
      cases place <;> simp [Place.visited] at hvisited hplace
    · refine Bool.eq_false_iff.mpr fun hinto => ?_
      have hvisited := h _ _ (query_selects_into_iff.mp hinto)
      simp [Place.visited] at hvisited
    · refine Bool.eq_false_iff.mpr fun hlocks => ?_
      obtain ⟨place, hplace, hhas⟩ := has_of_walk_query hlocks
      have hvisited := h _ _ hhas
      cases place <;> simp [Place.visited] at hvisited hplace

/-- `classify_stmt` takes the inner statement's kind exactly when the `EXPLAIN` executes. -/
theorem explain_runs_iff {analyze : Bool} {options : Option (List UtilityOption)} :
    (analyze || analyzeOption options) = true ↔
      (analyze = true ∨ ∃ entries, options = some entries ∧ ∃ option ∈ entries,
        toAsciiLowercase option.name = "analyze" ∧ optionDisables option.arg = false) := by
  cases options <;> simp [analyzeOption]

/-- The kind of a query: its data changes, its `INTO` target and its row locks, in this order. -/
theorem classify_stmt_query (notes : List String) (noWhere : Bool) (query : Query) :
    (classifyStmt notes noWhere (.query query)).kind =
      if queryHasDml query then .write
      else if querySelectsInto query then .ddl
      else if queryHasLocks query then .write
      else .read := by
  show StatementFinding.kind (if queryHasDml query then _ else
    if querySelectsInto query then _ else if queryHasLocks query then _ else _) = _
  rw [apply_ite StatementFinding.kind, apply_ite StatementFinding.kind,
    apply_ite StatementFinding.kind]

/-- An `EXPLAIN` that executes is classified by its inner statement. -/
theorem classify_stmt_explain {notes : List String} {noWhere analyze : Bool}
    {statement : Statement} {options : Option (List UtilityOption)}
    (h : (analyze || analyzeOption options) = true) :
    classifyStmt notes noWhere (.explain analyze statement options) =
      classifyStmt
        (notes ++ ["EXPLAIN ANALYZE executes the statement — classified by its inner statement"])
        noWhere statement := by
  show (if analyze || analyzeOption options then _ else _) = _
  rw [if_pos h]

/-- A statement that has an effect somewhere classifies as a read exactly when no visited place
has one. -/
theorem classify_stmt_read_iff {place : Place} {effect : Effect} {statement : Statement}
    (h : StatementHas place effect statement) (notes : List String) (noWhere : Bool) :
    (classifyStmt notes noWhere statement).kind = .read ↔
      ∀ place effect, StatementHas place effect statement → place.visited effect = false := by
  induction h generalizing notes noWhere with
  | @query place effect query h =>
      have hinv : ∀ place effect,
          StatementHas place effect (.query query) ↔ QueryHas place effect query :=
        fun _ _ => ⟨fun h => by cases h; assumption, .query⟩
      simp only [hinv, ← query_read_iff, classify_stmt_query]
      cases queryHasDml query <;> cases querySelectsInto query <;>
        cases queryHasLocks query <;> simp
  | @explain place effect analyze statement options hruns h ih =>
      have hinv : ∀ place effect,
          StatementHas place effect (.explain analyze statement options) ↔
            StatementHas place effect statement :=
        fun _ _ => ⟨fun h => by cases h; assumption, .explain hruns⟩
      simp only [hinv]
      rw [classify_stmt_explain (explain_runs_iff.mpr hruns)]
      exact ih _ _
  | insert => exact ⟨nofun, fun h => nomatch h _ _ .insert⟩
  | merge => exact ⟨nofun, fun h => nomatch h _ _ .merge⟩
  | update => exact ⟨nofun, fun h => nomatch h _ _ .update⟩
  | delete => exact ⟨nofun, fun h => nomatch h _ _ .delete⟩

/-- A read verdict is sound on a statement exactly when an effect at an unvisited place comes
with an effect at a visited one. -/
theorem read_classification_sound_iff (notes : List String) (noWhere : Bool)
    (statement : Statement) :
    ((classifyStmt notes noWhere statement).kind = .read →
        ∀ place effect, ¬ StatementHas place effect statement) ↔
      ((∃ place effect, StatementHas place effect statement ∧ place.visited effect = false) →
        ∃ place effect, StatementHas place effect statement ∧ place.visited effect = true) := by
  constructor
  · rintro hsound ⟨place, effect, h, -⟩
    by_contra hnone
    refine hsound ((classify_stmt_read_iff h notes noWhere).mpr fun place effect h => ?_) _ _ h
    exact Bool.eq_false_iff.mpr fun hvisited => hnone ⟨place, effect, h, hvisited⟩
  · intro hcond hread place effect h
    have hunvisited := (classify_stmt_read_iff h notes noWhere).mp hread
    obtain ⟨place', effect', h', hvisited⟩ := hcond ⟨place, effect, h, hunvisited _ _ h⟩
    rw [hunvisited _ _ h'] at hvisited
    cases hvisited

/-- `SELECT id FROM t FOR UPDATE`. -/
def selectForUpdate : Query := .mk [] (.select none [.mk (.table "t") []]) [.update]

/-- `SELECT * FROM (SELECT id FROM t FOR UPDATE) AS x`. -/
def selectFromLocked : Statement :=
  .query (.mk [] (.select none [.mk (.derived selectForUpdate) []]) [])

/-- A row lock in a derived table is classified as a read. -/
theorem locked_derived_table_reads :
    ¬ ∀ statement : Statement, (classifyStmt [] false statement).kind = .read →
      ∀ place effect, ¬ StatementHas place effect statement := by
  intro hsound
  refine hsound selectFromLocked rfl .derived .lock (.query (.body (.source (.head _) ?_)))
  exact .relation (.derived (.locks (by decide)))

end Dopedb.Safety
