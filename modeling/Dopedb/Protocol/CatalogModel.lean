import Dopedb.Library.JsonRecord

/-!
# Catalog transfer objects

The catalog types of the protocol crate with their derived JSON form: what introspection reports
about namespaces, relations, routines and other objects. Each type carries a `Serde` instance, so
that its writer is invertible by construction.
-/

namespace Dopedb.Protocol

open Library Json Serde

/-- The engine of a catalog. -/
inductive DatabaseEngine where
  | postgres | mysql | sqlite | mongodb | bigquery
  deriving DecidableEq, Repr

/-- The written name of an engine. -/
def DatabaseEngine.name : DatabaseEngine → String
  | .postgres => "postgres"
  | .mysql => "mysql"
  | .sqlite => "sqlite"
  | .mongodb => "mongodb"
  | .bigquery => "bigquery"

instance : Serde DatabaseEngine :=
  ofVariants DatabaseEngine.name [.postgres, .mysql, .sqlite, .mongodb, .bigquery]
    (by intro engine; cases engine <;> decide)

/-- A schema or database of a catalog. -/
structure Namespace where
  name : String
  comment : Option String
  deriving DecidableEq, Repr

/-- The written names of a namespace's fields. -/
def Namespace.fields : List String := ["name", "comment"]

/-- Read a namespace from the values of its fields. -/
def Namespace.ofFields : List (Option Json) → Option Namespace
  | [name, comment] => do
    return {
      name := ← requiredField deserialize name
      comment := ← optionalField deserialize comment }
  | _ => none

instance : Serde Namespace where
  serialize item := record [("name", some (serialize item.name)),
    ("comment", item.comment.map serialize)]
  deserialize v := (readRecord Namespace.fields v).bind Namespace.ofFields
  deserialize_serialize item := by
    refine read_record_bind rfl (by decide) ?_
    simp only [List.map_cons, List.map_nil, Namespace.ofFields]
    simp only [↓required_field_bind, ↓optional_field_bind]
    rfl
  serialize_ne_null _ := nofun

/-- What an object reference refers to. -/
inductive ObjectKind where
  | table | view | materializedView | routine | sequence | type | trigger | other
  deriving DecidableEq, Repr

/-- The written name of an object kind. -/
def ObjectKind.name : ObjectKind → String
  | .table => "table"
  | .view => "view"
  | .materializedView => "materialized_view"
  | .routine => "routine"
  | .sequence => "sequence"
  | .type => "type"
  | .trigger => "trigger"
  | .other => "other"

instance : Serde ObjectKind :=
  ofVariants ObjectKind.name
    [.table, .view, .materializedView, .routine, .sequence, .type, .trigger, .other]
    (by intro kind; cases kind <;> decide)

/-- A reference to a database object. -/
structure ObjectRef where
  catalog : Option String
  «namespace» : Option String
  name : String
  kind : ObjectKind
  nativeId : Option String
  deriving DecidableEq, Repr

/-- The written names of an object reference's fields. -/
def ObjectRef.fields : List String := ["catalog", "namespace", "name", "kind", "nativeId"]

/-- Read an object reference from the values of its fields. -/
def ObjectRef.ofFields : List (Option Json) → Option ObjectRef
  | [catalog, «namespace», name, kind, nativeId] => do
    return {
      catalog := ← optionalField deserialize catalog
      «namespace» := ← optionalField deserialize «namespace»
      name := ← requiredField deserialize name
      kind := ← requiredField deserialize kind
      nativeId := ← optionalField deserialize nativeId }
  | _ => none

instance : Serde ObjectRef where
  serialize item := record [("catalog", item.catalog.map serialize),
    ("namespace", item.namespace.map serialize), ("name", some (serialize item.name)),
    ("kind", some (serialize item.kind)), ("nativeId", item.nativeId.map serialize)]
  deserialize v := (readRecord ObjectRef.fields v).bind ObjectRef.ofFields
  deserialize_serialize item := by
    refine read_record_bind rfl (by decide) ?_
    simp only [List.map_cons, List.map_nil, ObjectRef.ofFields]
    simp only [↓required_field_bind, ↓optional_field_bind]
    rfl
  serialize_ne_null _ := nofun

/-- The family a native column type belongs to. -/
inductive NormalizedTypeFamily where
  | boolean | integer | decimal | float | text | binary | json | date | time | timestamp | uuid
  | array | document | other
  deriving DecidableEq, Repr

/-- The written name of a type family. -/
def NormalizedTypeFamily.name : NormalizedTypeFamily → String
  | .boolean => "boolean"
  | .integer => "integer"
  | .decimal => "decimal"
  | .float => "float"
  | .text => "text"
  | .binary => "binary"
  | .json => "json"
  | .date => "date"
  | .time => "time"
  | .timestamp => "timestamp"
  | .uuid => "uuid"
  | .array => "array"
  | .document => "document"
  | .other => "other"

instance : Serde NormalizedTypeFamily :=
  ofVariants NormalizedTypeFamily.name
    [.boolean, .integer, .decimal, .float, .text, .binary, .json, .date, .time, .timestamp, .uuid,
      .array, .document, .other]
    (by intro family; cases family <;> decide)

/-- A column of a relation. -/
structure Column where
  name : String
  ordinal : UInt32
  nativeType : String
  typeFamily : NormalizedTypeFamily
  length : Option UInt64
  precision : Option UInt32
  scale : Option UInt32
  nullable : Bool
  defaultExpression : Option String
  generatedExpression : Option String
  identity : Bool
  autoIncrement : Bool
  collation : Option String
  comment : Option String
  sensitivity : Option String
  deriving DecidableEq, Repr

/-- The written names of a column's fields. -/
def Column.fields : List String :=
  ["name", "ordinal", "nativeType", "typeFamily", "length", "precision", "scale", "nullable",
    "defaultExpression", "generatedExpression", "identity", "autoIncrement", "collation",
    "comment", "sensitivity"]

/-- Read a column from the values of its fields. -/
def Column.ofFields : List (Option Json) → Option Column
  | [name, ordinal, nativeType, typeFamily, length, precision, scale, nullable,
      defaultExpression, generatedExpression, identity, autoIncrement, collation, comment,
      sensitivity] => do
    return {
      name := ← requiredField deserialize name
      ordinal := ← requiredField deserialize ordinal
      nativeType := ← requiredField deserialize nativeType
      typeFamily := ← requiredField deserialize typeFamily
      length := ← optionalField deserialize length
      precision := ← optionalField deserialize precision
      scale := ← optionalField deserialize scale
      nullable := ← requiredField deserialize nullable
      defaultExpression := ← optionalField deserialize defaultExpression
      generatedExpression := ← optionalField deserialize generatedExpression
      identity := ← requiredField deserialize identity
      autoIncrement := ← requiredField deserialize autoIncrement
      collation := ← optionalField deserialize collation
      comment := ← optionalField deserialize comment
      sensitivity := ← optionalField deserialize sensitivity }
  | _ => none

instance : Serde Column where
  serialize item := record [("name", some (serialize item.name)),
    ("ordinal", some (serialize item.ordinal)), ("nativeType", some (serialize item.nativeType)),
    ("typeFamily", some (serialize item.typeFamily)), ("length", item.length.map serialize),
    ("precision", item.precision.map serialize), ("scale", item.scale.map serialize),
    ("nullable", some (serialize item.nullable)),
    ("defaultExpression", item.defaultExpression.map serialize),
    ("generatedExpression", item.generatedExpression.map serialize),
    ("identity", some (serialize item.identity)),
    ("autoIncrement", some (serialize item.autoIncrement)),
    ("collation", item.collation.map serialize), ("comment", item.comment.map serialize),
    ("sensitivity", item.sensitivity.map serialize)]
  deserialize v := (readRecord Column.fields v).bind Column.ofFields
  deserialize_serialize item := by
    refine read_record_bind rfl (by decide) ?_
    simp only [List.map_cons, List.map_nil, Column.ofFields]
    simp only [↓required_field_bind, ↓optional_field_bind]
    rfl
  serialize_ne_null _ := nofun

/-- The kind of a constraint. -/
inductive ConstraintKind where
  | primary | unique | foreign | check
  deriving DecidableEq, Repr

/-- The written name of a constraint kind. -/
def ConstraintKind.name : ConstraintKind → String
  | .primary => "primary"
  | .unique => "unique"
  | .foreign => "foreign"
  | .check => "check"

instance : Serde ConstraintKind :=
  ofVariants ConstraintKind.name [.primary, .unique, .foreign, .check]
    (by intro kind; cases kind <;> decide)

/-- A constraint of a relation. -/
structure Constraint where
  name : String
  kind : ConstraintKind
  columns : List String
  referencedRelation : Option ObjectRef
  referencedColumns : List String
  checkExpression : Option String
  updateAction : Option String
  deleteAction : Option String
  deferrable : Bool
  validated : Bool
  deriving DecidableEq, Repr

/-- The written names of a constraint's fields. -/
def Constraint.fields : List String :=
  ["name", "kind", "columns", "referencedRelation", "referencedColumns", "checkExpression",
    "updateAction", "deleteAction", "deferrable", "validated"]

/-- Read a constraint from the values of its fields. -/
def Constraint.ofFields : List (Option Json) → Option Constraint
  | [name, kind, columns, referencedRelation, referencedColumns, checkExpression, updateAction,
      deleteAction, deferrable, validated] => do
    return {
      name := ← requiredField deserialize name
      kind := ← requiredField deserialize kind
      columns := ← defaultedField [] columns
      referencedRelation := ← optionalField deserialize referencedRelation
      referencedColumns := ← defaultedField [] referencedColumns
      checkExpression := ← optionalField deserialize checkExpression
      updateAction := ← optionalField deserialize updateAction
      deleteAction := ← optionalField deserialize deleteAction
      deferrable := ← requiredField deserialize deferrable
      validated := ← requiredField deserialize validated }
  | _ => none

instance : Serde Constraint where
  serialize item := record [("name", some (serialize item.name)),
    ("kind", some (serialize item.kind)), ("columns", some (serialize item.columns)),
    ("referencedRelation", item.referencedRelation.map serialize),
    ("referencedColumns", some (serialize item.referencedColumns)),
    ("checkExpression", item.checkExpression.map serialize),
    ("updateAction", item.updateAction.map serialize),
    ("deleteAction", item.deleteAction.map serialize),
    ("deferrable", some (serialize item.deferrable)),
    ("validated", some (serialize item.validated))]
  deserialize v := (readRecord Constraint.fields v).bind Constraint.ofFields
  deserialize_serialize item := by
    refine read_record_bind rfl (by decide) ?_
    simp only [List.map_cons, List.map_nil, Constraint.ofFields]
    simp only [↓required_field_bind, ↓optional_field_bind, ↓defaulted_field_bind]
    rfl
  serialize_ne_null _ := nofun

/-- The direction of an index key. -/
inductive SortDirection where
  | asc | desc
  deriving DecidableEq, Repr

/-- The written name of a direction. -/
def SortDirection.name : SortDirection → String
  | .asc => "asc"
  | .desc => "desc"

instance : Serde SortDirection :=
  ofVariants SortDirection.name [.asc, .desc] (by intro direction; cases direction <;> decide)

/-- A key of an index: a column or an expression. -/
structure IndexKey where
  column : Option String
  expression : Option String
  direction : Option SortDirection
  deriving DecidableEq, Repr

/-- The written names of an index key's fields. -/
def IndexKey.fields : List String := ["column", "expression", "direction"]

/-- Read an index key from the values of its fields. -/
def IndexKey.ofFields : List (Option Json) → Option IndexKey
  | [column, expression, direction] => do
    return {
      column := ← optionalField deserialize column
      expression := ← optionalField deserialize expression
      direction := ← optionalField deserialize direction }
  | _ => none

instance : Serde IndexKey where
  serialize item := record [("column", item.column.map serialize),
    ("expression", item.expression.map serialize), ("direction", item.direction.map serialize)]
  deserialize v := (readRecord IndexKey.fields v).bind IndexKey.ofFields
  deserialize_serialize item := by
    refine read_record_bind rfl (by decide) ?_
    simp only [List.map_cons, List.map_nil, IndexKey.ofFields]
    simp only [↓optional_field_bind]
    rfl
  serialize_ne_null _ := nofun

/-- An index of a relation. -/
structure Index where
  name : String
  method : Option String
  keys : List IndexKey
  includedColumns : List String
  predicate : Option String
  unique : Bool
  valid : Bool
  deriving DecidableEq, Repr

/-- The written names of an index's fields. -/
def Index.fields : List String :=
  ["name", "method", "keys", "includedColumns", "predicate", "unique", "valid"]

/-- Read an index from the values of its fields. -/
def Index.ofFields : List (Option Json) → Option Index
  | [name, method, keys, includedColumns, predicate, unique, valid] => do
    return {
      name := ← requiredField deserialize name
      method := ← optionalField deserialize method
      keys := ← defaultedField [] keys
      includedColumns := ← defaultedField [] includedColumns
      predicate := ← optionalField deserialize predicate
      unique := ← requiredField deserialize unique
      valid := ← requiredField deserialize valid }
  | _ => none

instance : Serde Index where
  serialize item := record [("name", some (serialize item.name)),
    ("method", item.method.map serialize), ("keys", some (serialize item.keys)),
    ("includedColumns", some (serialize item.includedColumns)),
    ("predicate", item.predicate.map serialize), ("unique", some (serialize item.unique)),
    ("valid", some (serialize item.valid))]
  deserialize v := (readRecord Index.fields v).bind Index.ofFields
  deserialize_serialize item := by
    refine read_record_bind rfl (by decide) ?_
    simp only [List.map_cons, List.map_nil, Index.ofFields]
    simp only [↓required_field_bind, ↓optional_field_bind, ↓defaulted_field_bind]
    rfl
  serialize_ne_null _ := nofun

/-- A table or view with its columns, constraints, indexes and partitions. -/
structure Relation where
  object : ObjectRef
  comment : Option String
  rowEstimate : Option Int64
  partitionParent : Option ObjectRef
  partitionChildren : List ObjectRef
  columns : List Column
  constraints : List Constraint
  indexes : List Index
  deriving DecidableEq

/-- The written names of a relation's fields. -/
def Relation.fields : List String :=
  ["object", "comment", "rowEstimate", "partitionParent", "partitionChildren", "columns",
    "constraints", "indexes"]

/-- Read a relation from the values of its fields. -/
def Relation.ofFields : List (Option Json) → Option Relation
  | [object, comment, rowEstimate, partitionParent, partitionChildren, columns, constraints,
      indexes] => do
    return {
      object := ← requiredField deserialize object
      comment := ← optionalField deserialize comment
      rowEstimate := ← optionalField deserialize rowEstimate
      partitionParent := ← optionalField deserialize partitionParent
      partitionChildren := ← defaultedField [] partitionChildren
      columns := ← defaultedField [] columns
      constraints := ← defaultedField [] constraints
      indexes := ← defaultedField [] indexes }
  | _ => none

instance : Serde Relation where
  serialize item := record [("object", some (serialize item.object)),
    ("comment", item.comment.map serialize), ("rowEstimate", item.rowEstimate.map serialize),
    ("partitionParent", item.partitionParent.map serialize),
    ("partitionChildren", some (serialize item.partitionChildren)),
    ("columns", some (serialize item.columns)),
    ("constraints", some (serialize item.constraints)),
    ("indexes", some (serialize item.indexes))]
  deserialize v := (readRecord Relation.fields v).bind Relation.ofFields
  deserialize_serialize item := by
    refine read_record_bind rfl (by decide) ?_
    simp only [List.map_cons, List.map_nil, Relation.ofFields]
    simp only [↓required_field_bind, ↓optional_field_bind, ↓defaulted_field_bind]
    rfl
  serialize_ne_null _ := nofun

/-- A function, procedure or trigger. -/
structure Routine where
  object : ObjectRef
  nativeKind : Option String
  arguments : List String
  returnType : Option String
  language : Option String
  comment : Option String
  detail : Option String
  parent : Option String
  deriving DecidableEq, Repr

/-- The written names of a routine's fields. -/
def Routine.fields : List String :=
  ["object", "nativeKind", "arguments", "returnType", "language", "comment", "detail", "parent"]

/-- Read a routine from the values of its fields. -/
def Routine.ofFields : List (Option Json) → Option Routine
  | [object, nativeKind, arguments, returnType, language, comment, detail, parent] => do
    return {
      object := ← requiredField deserialize object
      nativeKind := ← optionalField deserialize nativeKind
      arguments := ← defaultedField [] arguments
      returnType := ← optionalField deserialize returnType
      language := ← optionalField deserialize language
      comment := ← optionalField deserialize comment
      detail := ← optionalField deserialize detail
      parent := ← optionalField deserialize parent }
  | _ => none

instance : Serde Routine where
  serialize item := record [("object", some (serialize item.object)),
    ("nativeKind", item.nativeKind.map serialize), ("arguments", some (serialize item.arguments)),
    ("returnType", item.returnType.map serialize), ("language", item.language.map serialize),
    ("comment", item.comment.map serialize), ("detail", item.detail.map serialize),
    ("parent", item.parent.map serialize)]
  deserialize v := (readRecord Routine.fields v).bind Routine.ofFields
  deserialize_serialize item := by
    refine read_record_bind rfl (by decide) ?_
    simp only [List.map_cons, List.map_nil, Routine.ofFields]
    simp only [↓required_field_bind, ↓optional_field_bind, ↓defaulted_field_bind]
    rfl
  serialize_ne_null _ := nofun

/-- Any other object of a catalog. -/
structure DatabaseObject where
  object : ObjectRef
  nativeKind : Option String
  comment : Option String
  detail : Option String
  parent : Option String
  deriving DecidableEq, Repr

/-- The written names of an object's fields. -/
def DatabaseObject.fields : List String :=
  ["object", "nativeKind", "comment", "detail", "parent"]

/-- Read an object from the values of its fields. -/
def DatabaseObject.ofFields : List (Option Json) → Option DatabaseObject
  | [object, nativeKind, comment, detail, parent] => do
    return {
      object := ← requiredField deserialize object
      nativeKind := ← optionalField deserialize nativeKind
      comment := ← optionalField deserialize comment
      detail := ← optionalField deserialize detail
      parent := ← optionalField deserialize parent }
  | _ => none

instance : Serde DatabaseObject where
  serialize item := record [("object", some (serialize item.object)),
    ("nativeKind", item.nativeKind.map serialize), ("comment", item.comment.map serialize),
    ("detail", item.detail.map serialize), ("parent", item.parent.map serialize)]
  deserialize v := (readRecord DatabaseObject.fields v).bind DatabaseObject.ofFields
  deserialize_serialize item := by
    refine read_record_bind rfl (by decide) ?_
    simp only [List.map_cons, List.map_nil, DatabaseObject.ofFields]
    simp only [↓required_field_bind, ↓optional_field_bind]
    rfl
  serialize_ne_null _ := nofun

/-- What a catalog contains. -/
structure CatalogContents where
  namespaces : List Namespace
  relations : List Relation
  routines : List Routine
  otherObjects : List DatabaseObject
  deriving DecidableEq

end Dopedb.Protocol
