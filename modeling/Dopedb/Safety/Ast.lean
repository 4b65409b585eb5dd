/-!
# The parsed statements the classifier reads

The part of the parser's syntax tree that the read and write classification looks at: the query
tree with its common table expressions, set operations and tables in `FROM`, and one constructor
for every statement shape the classifier names. Expressions appear only as the argument of an
`EXPLAIN` option and as the selection of an update or a delete.
-/

namespace Dopedb.Safety

/-- The lock of a `FOR UPDATE` or `FOR SHARE` clause. -/
inductive LockType where
  | share | update
  deriving DecidableEq, Repr

/-- A literal. -/
inductive Value where
  | boolean (enabled : Bool)
  | number (number : String)
  | singleQuotedString (text : String)
  | other
  deriving DecidableEq, Repr

/-- An expression, as far as the classifier looks at it. -/
inductive Expr where
  | value (value : Value)
  | identifier (value : String)
  | other
  deriving DecidableEq, Repr

mutual

/-- A query: the queries of its `WITH` tables, its body, and its row-locking clauses. -/
inductive Query where
  | mk (cteTables : List Query) (body : SetExpr) (locks : List LockType)

/-- A query body. A `WITH` in front of a data change gives one of the last four shapes, an update or
a delete with its selection. -/
inductive SetExpr where
  | select (into : Option String) (tables : List TableWithJoins)
  | query (query : Query)
  | setOperation (left right : SetExpr)
  | values
  | table (name : String)
  | insert
  | update (selection : Option Expr)
  | delete (selection : Option Expr)
  | merge

/-- A table of a `FROM` clause with the tables joined to it. -/
inductive TableWithJoins where
  | mk (relation : TableFactor) (joins : List TableFactor)

/-- One table reference. -/
inductive TableFactor where
  | table (name : String)
  | derived (subquery : Query)
  | nestedJoin (tableWithJoins : TableWithJoins)
  | pivot (table : TableFactor)
  | unpivot (table : TableFactor)
  | matchRecognize (table : TableFactor)
  | other

end

/-- One entry of an `EXPLAIN (…)` option list. -/
structure UtilityOption where
  name : String
  arg : Option Expr
  deriving DecidableEq, Repr

/-- What a `DROP` removes. -/
inductive ObjectType where
  | role | user | other
  deriving DecidableEq, Repr

/-- A parsed statement. `other` is every shape the classifier does not name. -/
inductive Statement where
  | query (query : Query)
  | explain (analyze : Bool) (statement : Statement) (options : Option (List UtilityOption))
  | explainTable | showVariable | showVariables | showStatus | showCreate | showColumns
  | showTables | showViews | showDatabases | showSchemas | showCatalogs | showFunctions
  | showCollation | showCharset | showObjects
  | use | set
  | insert
  | merge
  | update (selection : Option Expr)
  | delete (selection : Option Expr)
  | drop (objectType : ObjectType)
  | createTable | createIndex | createView | createVirtualTable | createSchema | createDatabase
  | createFunction | createTrigger | createProcedure | createSequence | createDomain | createType
  | createExtension | createCollation | createOperator | createOperatorFamily
  | createOperatorClass
  | alterTable | alterSchema | alterIndex | alterView | alterFunction | alterType
  | alterCollation | alterOperator | alterOperatorFamily | alterOperatorClass
  | dropFunction | dropDomain | dropProcedure | dropTrigger | dropExtension | dropOperator
  | dropOperatorFamily | dropOperatorClass
  | renameTable | comment | truncate
  | createRole | alterRole | createUser | alterUser | createPolicy | alterPolicy | dropPolicy
  | grant | deny | revoke
  | other

/-- What an executed position of a statement can do besides reading. -/
inductive Effect where
  | change | lock | into
  deriving DecidableEq, Repr

/-- Where an effect stands: in the statement's own query, in a query that a `WITH` table, a set
operation or parentheses nest, or below a table of a `FROM` clause. -/
inductive Place where
  | own | nested | derived
  deriving DecidableEq, Repr

/-- The place, seen from one query further out. -/
def Place.inner : Place → Place
  | .own => .nested
  | place => place

mutual

/-- The query has the effect at the place. -/
inductive QueryHas : Place → Effect → Query → Prop where
  | locks {ctes : List Query} {body : SetExpr} {locks : List LockType} (h : locks ≠ []) :
      QueryHas .own .lock (.mk ctes body locks)
  | cte {place : Place} {effect : Effect} {ctes : List Query} {body : SetExpr}
      {locks : List LockType} (h : CtesHave place effect ctes) :
      QueryHas place.inner effect (.mk ctes body locks)
  | body {place : Place} {effect : Effect} {ctes : List Query} {body : SetExpr}
      {locks : List LockType} (h : SetExprHas place effect body) :
      QueryHas place effect (.mk ctes body locks)

/-- One of the queries has the effect at the place. -/
inductive CtesHave : Place → Effect → List Query → Prop where
  | head {place : Place} {effect : Effect} {query : Query} {ctes : List Query}
      (h : QueryHas place effect query) : CtesHave place effect (query :: ctes)
  | tail {place : Place} {effect : Effect} {query : Query} {ctes : List Query}
      (h : CtesHave place effect ctes) : CtesHave place effect (query :: ctes)

/-- The query body has the effect at the place. -/
inductive SetExprHas : Place → Effect → SetExpr → Prop where
  | into {target : String} {tables : List TableWithJoins} :
      SetExprHas .own .into (.select (some target) tables)
  | source {effect : Effect} {target : Option String} {tables : List TableWithJoins}
      {table : TableWithJoins} (hmem : table ∈ tables) (h : TableWithJoinsHas effect table) :
      SetExprHas .derived effect (.select target tables)
  | query {place : Place} {effect : Effect} {query : Query} (h : QueryHas place effect query) :
      SetExprHas place.inner effect (.query query)
  | left {place : Place} {effect : Effect} {left right : SetExpr}
      (h : SetExprHas place effect left) :
      SetExprHas place.inner effect (.setOperation left right)
  | right {place : Place} {effect : Effect} {left right : SetExpr}
      (h : SetExprHas place effect right) :
      SetExprHas place.inner effect (.setOperation left right)
  | insert : SetExprHas .own .change .insert
  | update {selection : Option Expr} : SetExprHas .own .change (.update selection)
  | delete {selection : Option Expr} : SetExprHas .own .change (.delete selection)
  | merge : SetExprHas .own .change .merge

/-- A table of a `FROM` clause, or one joined to it, has the effect. -/
inductive TableWithJoinsHas : Effect → TableWithJoins → Prop where
  | relation {effect : Effect} {relation : TableFactor} {joins : List TableFactor}
      (h : TableFactorHas effect relation) : TableWithJoinsHas effect (.mk relation joins)
  | join {effect : Effect} {relation join : TableFactor} {joins : List TableFactor}
      (hmem : join ∈ joins) (h : TableFactorHas effect join) :
      TableWithJoinsHas effect (.mk relation joins)

/-- The table reference has the effect in a derived table. -/
inductive TableFactorHas : Effect → TableFactor → Prop where
  | derived {place : Place} {effect : Effect} {subquery : Query}
      (h : QueryHas place effect subquery) : TableFactorHas effect (.derived subquery)
  | nestedJoin {effect : Effect} {tableWithJoins : TableWithJoins}
      (h : TableWithJoinsHas effect tableWithJoins) :
      TableFactorHas effect (.nestedJoin tableWithJoins)
  | pivot {effect : Effect} {table : TableFactor} (h : TableFactorHas effect table) :
      TableFactorHas effect (.pivot table)
  | unpivot {effect : Effect} {table : TableFactor} (h : TableFactorHas effect table) :
      TableFactorHas effect (.unpivot table)
  | matchRecognize {effect : Effect} {table : TableFactor} (h : TableFactorHas effect table) :
      TableFactorHas effect (.matchRecognize table)

end

end Dopedb.Safety
