import Dopedb.Library.Collected
import Dopedb.Protocol.Catalog

/-!
# Structural comparison of catalogs

`schema_diff.rs`: two catalogs of one engine are compared relation by relation, and within a
relation by columns, indexes and foreign keys. Every definition is compared through a text, its
signature. Maps collected from lists are `Collected.lean`'s: `collected` for the value at a key,
`sortedKeys` for the order of a walk.
-/

namespace Dopedb.Protocol

open Library Std

/-- The version of the result. -/
def SCHEMA_DIFF_VERSION : UInt16 := 2

/-- Which snapshot was compared. -/
structure SchemaDiffSource where
  connectionId : Uuid
  database : String
  fingerprint : String
  capturedAt : String
  deriving DecidableEq, Repr

/-- How the target differs from the baseline. -/
inductive SchemaDiffStatus where
  | added | missing | changed
  deriving DecidableEq, Repr

/-- What kind of object an entry is about. -/
inductive SchemaDiffObjectType where
  | table | view | materializedView | column | index | foreignKey
  deriving DecidableEq, Repr

/-- One difference. -/
structure SchemaDiffObject where
  table : String
  objectType : SchemaDiffObjectType
  name : String
  status : SchemaDiffStatus
  baselineValue : String
  targetValue : String
  deriving DecidableEq, Repr

/-- The number of differences of each status. -/
structure SchemaDiffCounts where
  added : Nat
  missing : Nat
  changed : Nat
  deriving DecidableEq, Repr

/-- A property that a comparison reads or leaves out. -/
inductive SchemaDiffProperty where
  | relationPresence | relationKind | columnPresence | columnType | columnNullability | primaryKey
  | indexPresence | indexKeys | indexUniqueness | foreignKeyTargets
  | columnOrder | columnDefault | generatedColumn | identity | collation | checkConstraint
  | uniqueConstraint | indexMethod | indexPredicate | indexInclude | indexSortOrder
  | indexValidity | foreignKeyAction | foreignKeyDeferrable | foreignKeyValidation
  | viewDefinition | partitioning | comment | trigger | routine | type | sequence
  deriving DecidableEq, Repr

/-- The properties a comparison reads and those it leaves out. -/
structure SchemaDiffScope where
  compared : List SchemaDiffProperty
  notCompared : List SchemaDiffProperty
  deriving DecidableEq, Repr

/-- The scope of `compareSchemaCatalogs`. -/
def SchemaDiffScope.current : SchemaDiffScope where
  compared := [.relationPresence, .relationKind, .columnPresence, .columnType, .columnNullability,
    .primaryKey, .indexPresence, .indexKeys, .indexUniqueness, .foreignKeyTargets]
  notCompared := [.columnOrder, .columnDefault, .generatedColumn, .identity, .collation,
    .checkConstraint, .uniqueConstraint, .indexMethod, .indexPredicate, .indexInclude,
    .indexSortOrder, .indexValidity, .foreignKeyAction, .foreignKeyDeferrable,
    .foreignKeyValidation, .viewDefinition, .partitioning, .comment, .trigger, .routine, .type,
    .sequence]

/-- The result of a comparison. -/
structure SchemaDiff where
  schemaVersion : UInt16
  engine : DatabaseEngine
  baseline : SchemaDiffSource
  target : SchemaDiffSource
  scope : SchemaDiffScope
  counts : SchemaDiffCounts
  total : Nat
  objects : List SchemaDiffObject
  deriving DecidableEq, Repr

/-- Which snapshot was compared. -/
def sourceOf (platform : Platform) (catalog : CatalogSnapshot) : SchemaDiffSource where
  connectionId := catalog.connectionId
  database := catalog.database
  fingerprint := catalog.fingerprint
  capturedAt := platform.toRfc3339 catalog.capturedAt

/-- The object type of a relation. -/
def relationType (relation : Relation) : SchemaDiffObjectType :=
  match relation.object.kind with
  | .view => .view
  | .materializedView => .materializedView
  | _ => .table

/-- The shown name of an object kind. -/
def kindText : ObjectKind → String
  | .table => "table"
  | .view => "view"
  | .materializedView => "materialized_view"
  | .routine => "function"
  | .sequence => "sequence"
  | .type => "type"
  | .trigger => "trigger"
  | .other => "other"

/-- The shown kind of a relation. -/
def kindLabel (relation : Relation) : String := kindText relation.object.kind

/-- The value shown for an absent side. -/
def absentValue : String := "—"

/-- One difference. -/
def entry (table : String) (objectType : SchemaDiffObjectType) (name : String)
    (status : SchemaDiffStatus) (baselineValue targetValue : String) : SchemaDiffObject :=
  ⟨table, objectType, name, status, baselineValue, targetValue⟩

section Signatures

-- The lowercase mapping of a single character, which Rust and JavaScript both take from Unicode.
variable (lower : Char → List Char)

/-- Lower a type text outside quotes. The state is the quote that is open. -/
def lowerUnquoted : Option Char → List Char → List Char
  | _, [] => []
  | some opened, character :: rest =>
      character :: lowerUnquoted (if character = opened then none else some opened) rest
  | none, character :: rest =>
      if character = '\'' ∨ character = '"' then character :: lowerUnquoted (some character) rest
      else lower character ++ lowerUnquoted none rest

/-- The signature of a column type. -/
def typeSignature (nativeType : String) : String :=
  String.ofList (lowerUnquoted lower none (trim nativeType.toList))

/-- `true` or `false`, as `format!` writes it. -/
def boolText : Bool → String
  | true => "true"
  | false => "false"

/-- A map from names to a signature and a shown value, as the pairs it is collected from. -/
abbrev Definitions := List (String × String × String)

/-- The columns that a primary key of the relation contains. -/
def primaryColumns (relation : Relation) : List String :=
  (relation.constraints.filter fun constraint => constraint.kind = .primary).flatMap (·.columns)

/-- The signature of a column. -/
def columnSignature (column : Column) (pk : Bool) : String :=
  typeSignature lower column.nativeType ++ "|" ++ boolText column.nullable ++ "|" ++ boolText pk

/-- The shown value of a column. -/
def columnValue (column : Column) (pk : Bool) : String :=
  column.nativeType ++ " · " ++ (if column.nullable then "NULL" else "NOT NULL") ++
    (if pk then " · PK" else "")

/-- The columns of a relation by name. -/
def columns (relation : Relation) : Definitions :=
  relation.columns.map fun column =>
    let pk := decide (column.name ∈ primaryColumns relation)
    (column.name, columnSignature lower column pk, columnValue column pk)

end Signatures

/-- The text of an index key: its column, or else its expression. -/
def keyText (key : IndexKey) : Option String := key.column <|> key.expression

/-- The signature and shown value of an index. -/
def indexValue (index : Index) : String :=
  (if index.unique then "UNIQUE " else "") ++ "(" ++
    String.intercalate ", " (index.keys.filterMap keyText) ++ ")"

/-- The indexes of a relation by name. -/
def indexes (relation : Relation) : Definitions :=
  relation.indexes.map fun index => (index.name, indexValue index, indexValue index)

/-- Compare two maps of definitions. -/
def compareNamed (table : String) (kind : SchemaDiffObjectType) (baseline target : Definitions) :
    List SchemaDiffObject :=
  (sortedKeys compare (baseline.map Prod.fst ++ target.map Prod.fst)).filterMap fun name =>
    match collected baseline name, collected target name with
    | some base, some current =>
        if base.1 ≠ current.1 then some (entry table kind name .changed base.2 current.2) else none
    | none, some current => some (entry table kind name .added absentValue current.2)
    | some base, none => some (entry table kind name .missing base.2 absentValue)
    | none, none => none

/-- A namespace and a dot, or nothing for no namespace. -/
def namespacePrefix : Option String → String
  | some «namespace» => if «namespace» = "" then "" else «namespace» ++ "."
  | none => ""

/-- The shown target of a foreign-key column. -/
def targetText (column : String) (reference : ObjectRef) (referencedColumn : String) : String :=
  column ++ " → " ++ namespacePrefix reference.namespace ++ reference.name ++ "." ++
    referencedColumn

/-- The columns of a foreign key with their referenced relations and columns. -/
def constraintTargets (constraint : Constraint) : List (String × ObjectRef × Option String) :=
  match constraint.kind, constraint.referencedRelation with
  | .foreign, some reference =>
      constraint.columns.zipIdx.map fun (column, index) =>
        (column, reference, constraint.referencedColumns[index]?)
  | _, _ => []

/-- The foreign keys of a relation by column: each target as a text. -/
def foreignKeys (relation : Relation) : List (String × String) :=
  relation.constraints.flatMap fun constraint =>
    (constraintTargets constraint).map fun (column, reference, referencedColumn) =>
      (column, targetText column reference (referencedColumn.getD ""))

/-- The foreign-key entries of one column whose targets are matched as multisets. -/
def matchTargets (table column : String) (base current : List String) : List SchemaDiffObject :=
  ((unmatched base current).map fun value =>
    entry table .foreignKey column .added absentValue value) ++
  (base.diff current).map fun value => entry table .foreignKey column .missing value absentValue

/-- The foreign-key entries of one column: a single target that differs is a change. -/
def compareTargets (table column : String) (base current : List String) : List SchemaDiffObject :=
  match base, current with
  | [value], [value'] =>
      if value ≠ value' then [entry table .foreignKey column .changed value value']
      else matchTargets table column base current
  | _, _ => matchTargets table column base current

/-- Compare the foreign keys of two relations. -/
def compareForeignKeys (table : String) (baseline target : Relation) : List SchemaDiffObject :=
  let baseline := foreignKeys baseline
  let target := foreignKeys target
  (sortedKeys compare (baseline.map Prod.fst ++ target.map Prod.fst)).flatMap fun column =>
    compareTargets table column (sortBy compare (grouped baseline column))
      (sortBy compare (grouped target column))

/-- The identity of a relation: its namespace and name. -/
abbrev RelationKey := Option String × String

/-- The order of relations: by namespace, no namespace first, then by name. -/
def compareRelationKey : RelationKey → RelationKey → Ordering :=
  compareLex (compareOn Prod.fst) (compareOn Prod.snd)

instance : TransCmp compareRelationKey := inferInstanceAs (TransCmp (compareLex _ _))

instance : LawfulEqCmp compareRelationKey where
  eq_of_compare h := by
    simp only [compareRelationKey, compareLex_eq_eq, compareOn,
      LawfulEqCmp.compare_eq_iff_eq] at h
    exact Prod.ext h.1 h.2

/-- The key of a relation. -/
def relationKey (relation : Relation) : RelationKey :=
  (relation.object.namespace, relation.object.name)

/-- The relations of a catalog by key. -/
def relationsByKey (catalog : CatalogSnapshot) : List (RelationKey × Relation) :=
  catalog.relations.map fun relation => (relationKey relation, relation)

/-- The shown path of a relation. -/
def tablePath (key : RelationKey) : String := namespacePrefix key.1 ++ key.2

variable (lower : Char → List Char)

/-- Compare two relations of one key. -/
def compareRelations (table : String) (base current : Relation) : List SchemaDiffObject :=
  (if base.object.kind ≠ current.object.kind then
    [entry table (relationType current) current.object.name .changed (kindLabel base)
      (kindLabel current)]
  else []) ++
  compareNamed table .column (columns lower base) (columns lower current) ++
  compareNamed table .index (indexes base) (indexes current) ++
  compareForeignKeys table base current

/-- All differences of two catalogs. -/
def compareObjects (baseline target : CatalogSnapshot) : List SchemaDiffObject :=
  let base := relationsByKey baseline
  let current := relationsByKey target
  (sortedKeys compareRelationKey (base.map Prod.fst ++ current.map Prod.fst)).flatMap fun key =>
    match collected base key, collected current key with
    | some base, some current => compareRelations lower (tablePath key) base current
    | none, some current =>
        [entry (tablePath key) (relationType current) current.object.name .added absentValue
          (kindLabel current)]
    | some base, none =>
        [entry (tablePath key) (relationType base) base.object.name .missing (kindLabel base)
          absentValue]
    | none, none => []

/-- The number of differences of each status. -/
def countObjects (objects : List SchemaDiffObject) : SchemaDiffCounts where
  added := (objects.filter (·.status = .added)).length
  missing := (objects.filter (·.status = .missing)).length
  changed := (objects.filter (·.status = .changed)).length

/-- Compare two catalogs of one relational engine. -/
def compareSchemaCatalogs (platform : Platform) (baseline target : CatalogSnapshot) :
    Except String SchemaDiff :=
  if baseline.engine ≠ target.engine then
    .error "schema diff requires two databases using the same engine"
  else if baseline.engine = .mongodb then
    .error "schema diff requires a relational catalog; MongoDB is not supported"
  else
    let objects := compareObjects lower baseline target
    .ok {
      schemaVersion := SCHEMA_DIFF_VERSION
      engine := baseline.engine
      baseline := sourceOf platform baseline
      target := sourceOf platform target
      scope := SchemaDiffScope.current
      counts := countObjects objects
      total := objects.length
      objects := objects }

end Dopedb.Protocol
