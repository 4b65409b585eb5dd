import Dopedb.Library.Sorting
import Dopedb.Platform
import Dopedb.Protocol.CatalogModel
import Dopedb.Text

/-!
# Catalog snapshots and their fingerprint

`catalog.rs`: a snapshot holds catalog contents in a canonical order together with the SHA-256 of
their JSON text. `catalog_fingerprint_faithful` says that the fingerprint identifies the contents
up to the order in which they were reported and up to row estimates, and that a captured snapshot
is accepted and read back unchanged.
-/

namespace Dopedb.Protocol

open Library Json Serde Std

/-- The platform functions that the JSON form of a snapshot adds: the readers and writers of
identifiers and time stamps. -/
structure WirePlatform extends Platform where
  /-- `Uuid` from a text. -/
  uuidRead : String → Option Uuid
  /-- The text of a time stamp. -/
  instantText : DateTime → String
  /-- A time stamp from a text. -/
  instantRead : String → Option DateTime

/-- The version every snapshot carries. -/
def CATALOG_SCHEMA_VERSION : UInt32 := 2

/-! ## The canonical order -/

/-- The order of object kinds. -/
def objectKindRank : ObjectKind → UInt8
  | .table => 0
  | .view => 1
  | .materializedView => 2
  | .routine => 3
  | .sequence => 4
  | .type => 5
  | .trigger => 6
  | .other => 7

/-- The order of constraint kinds. -/
def constraintKindRank : ConstraintKind → UInt8
  | .primary => 0
  | .unique => 1
  | .foreign => 2
  | .check => 3

/-- Object kinds of one rank are the same. -/
theorem object_kind_rank_inj {kind kind' : ObjectKind}
    (h : objectKindRank kind = objectKindRank kind') : kind = kind' := by
  revert h
  cases kind <;> cases kind' <;> decide

/-- Compare two references by catalog, namespace, name, kind and native id. -/
def compareObjectRef : ObjectRef → ObjectRef → Ordering :=
  compareLex (compareOn (·.catalog)) <| compareLex (compareOn (·.namespace)) <|
    compareLex (compareOn (·.name)) <| compareLex (compareOn (objectKindRank ·.kind)) <|
      compareOn (·.nativeId)

instance : TransCmp compareObjectRef := inferInstanceAs (TransCmp (compareLex _ _))

/-- Only equal references compare equal. -/
theorem eq_of_compare_object_ref {object object' : ObjectRef}
    (h : compareObjectRef object object' = .eq) : object = object' := by
  simp only [compareObjectRef, compareLex_eq_eq, compareOn, LawfulEqCmp.compare_eq_iff_eq] at h
  obtain ⟨hcatalog, hnamespace, hname, hrank, hnative⟩ := h
  have hkind := object_kind_rank_inj hrank
  cases object
  cases object'
  simp_all

/-- Compare two namespaces by name and comment. -/
def compareNamespace : Namespace → Namespace → Ordering :=
  compareLex (compareOn (·.name)) (compareOn (·.comment))

instance : TransCmp compareNamespace := inferInstanceAs (TransCmp (compareLex _ _))

/-- Only equal namespaces compare equal. -/
theorem eq_of_compare_namespace {item item' : Namespace}
    (h : compareNamespace item item' = .eq) : item = item' := by
  simp only [compareNamespace, compareLex_eq_eq, compareOn, LawfulEqCmp.compare_eq_iff_eq] at h
  cases item
  cases item'
  simp_all

variable (platform : WirePlatform)

/-- Compare two values by their JSON texts. The bytes of two texts compare as their characters
do. -/
def compareSerialized {α : Type} [Serde α] : α → α → Ordering :=
  compareOn fun item => platform.jsonText (serialize item)

instance {α : Type} [Serde α] : TransCmp (compareSerialized (α := α) platform) :=
  inferInstanceAs (TransCmp (compareOn _))

/-- Different ones of these documents have different texts. -/
def WritesApart (docs : List Json) : Prop := Set.InjOn platform.jsonText {v | v ∈ docs}

variable {platform}

/-- Values whose texts compare equal are equal where documents are written apart. -/
theorem eq_of_compare_serialized {α : Type} [Serde α] {docs : List Json}
    (hwrites : WritesApart platform docs) {item item' : α} (hitem : serialize item ∈ docs)
    (hitem' : serialize item' ∈ docs) (h : compareSerialized platform item item' = .eq) :
    item = item' :=
  serialize_injective (hwrites hitem hitem' (LawfulEqCmp.compare_eq_iff_eq.mp h))

variable (platform)

/-- Compare two columns by ordinal, name and JSON text. -/
def compareColumn : Column → Column → Ordering :=
  compareLex (compareOn (·.ordinal)) <| compareLex (compareOn (·.name)) <|
    compareSerialized platform

instance : TransCmp (compareColumn platform) := inferInstanceAs (TransCmp (compareLex _ _))

/-- Compare two constraints by kind, name and JSON text. -/
def compareConstraint : Constraint → Constraint → Ordering :=
  compareLex (compareOn (constraintKindRank ·.kind)) <| compareLex (compareOn (·.name)) <|
    compareSerialized platform

instance : TransCmp (compareConstraint platform) := inferInstanceAs (TransCmp (compareLex _ _))

/-- Compare two indexes by name and JSON text. -/
def compareIndex : Index → Index → Ordering :=
  compareLex (compareOn (·.name)) (compareSerialized platform)

instance : TransCmp (compareIndex platform) := inferInstanceAs (TransCmp (compareLex _ _))

/-- Compare two routines by reference and JSON text. -/
def compareRoutine : Routine → Routine → Ordering :=
  compareLex (fun routine routine' => compareObjectRef routine.object routine'.object)
    (compareSerialized platform)

instance : TransCmp (compareRoutine platform) :=
  have : TransCmp fun item item' : Routine => compareObjectRef item.object item'.object :=
    trans_cmp_on Routine.object
  inferInstanceAs (TransCmp (compareLex _ _))

/-- Compare two objects by reference and JSON text. -/
def compareDatabaseObject : DatabaseObject → DatabaseObject → Ordering :=
  compareLex (fun item item' => compareObjectRef item.object item'.object)
    (compareSerialized platform)

instance : TransCmp (compareDatabaseObject platform) :=
  have : TransCmp fun item item' : DatabaseObject => compareObjectRef item.object item'.object :=
    trans_cmp_on DatabaseObject.object
  inferInstanceAs (TransCmp (compareLex _ _))

/-- What the fingerprint sees of a relation: everything but the row estimate. -/
@[ext] structure RelationFingerprintPayload where
  object : ObjectRef
  comment : Option String
  partitionParent : Option ObjectRef
  partitionChildren : List ObjectRef
  columns : List Column
  constraints : List Constraint
  indexes : List Index
  deriving DecidableEq

/-- The JSON form of a relation in the fingerprint. -/
def RelationFingerprintPayload.toJson (payload : RelationFingerprintPayload) : Json :=
  record [("object", some (serialize payload.object)), ("comment", payload.comment.map serialize),
    ("partitionParent", payload.partitionParent.map serialize),
    ("partitionChildren", some (serialize payload.partitionChildren)),
    ("columns", some (serialize payload.columns)),
    ("constraints", some (serialize payload.constraints)),
    ("indexes", some (serialize payload.indexes))]

/-- The part of a relation that the fingerprint sees. -/
def relationFingerprintPayload (relation : Relation) : RelationFingerprintPayload where
  object := relation.object
  comment := relation.comment
  partitionParent := relation.partitionParent
  partitionChildren := relation.partitionChildren
  columns := relation.columns
  constraints := relation.constraints
  indexes := relation.indexes

/-- Compare two relations, as the fingerprint sees them, by reference and JSON text. -/
def comparePayload : RelationFingerprintPayload → RelationFingerprintPayload → Ordering :=
  compareLex (fun payload payload' => compareObjectRef payload.object payload'.object)
    (compareOn fun payload => platform.jsonText payload.toJson)

instance : TransCmp (comparePayload platform) :=
  have : TransCmp fun payload payload' : RelationFingerprintPayload =>
      compareObjectRef payload.object payload'.object :=
    trans_cmp_on RelationFingerprintPayload.object
  inferInstanceAs (TransCmp (compareLex _ _))

/-- Compare two relations by reference and by the JSON text of what the fingerprint sees. -/
def compareRelation (relation relation' : Relation) : Ordering :=
  comparePayload platform (relationFingerprintPayload relation)
    (relationFingerprintPayload relation')

instance : TransCmp (compareRelation platform) := trans_cmp_on relationFingerprintPayload

/-- A relation with its columns, constraints, indexes and partitions in canonical order. -/
def canonicalizeRelation (relation : Relation) : Relation :=
  { relation with
    columns := sortBy (compareColumn platform) relation.columns
    constraints := sortBy (compareConstraint platform) relation.constraints
    indexes := sortBy (compareIndex platform) relation.indexes
    partitionChildren := sortBy compareObjectRef relation.partitionChildren }

/-- Contents in canonical order. The parts of each relation are ordered before the relations. -/
def canonicalizeContents (contents : CatalogContents) : CatalogContents where
  namespaces := sortBy compareNamespace contents.namespaces
  relations :=
    sortBy (compareRelation platform) (contents.relations.map (canonicalizeRelation platform))
  routines := sortBy (compareRoutine platform) contents.routines
  otherObjects := sortBy (compareDatabaseObject platform) contents.otherObjects

/-! ## Snapshots -/

/-- What the fingerprint sees of a catalog. -/
@[ext] structure CatalogFingerprintPayload where
  schemaVersion : UInt32
  engine : DatabaseEngine
  namespaces : List Namespace
  relations : List RelationFingerprintPayload
  routines : List Routine
  otherObjects : List DatabaseObject
  deriving DecidableEq

/-- The JSON form of the fingerprinted contents. -/
def CatalogFingerprintPayload.toJson (payload : CatalogFingerprintPayload) : Json :=
  record [("schemaVersion", some (serialize payload.schemaVersion)),
    ("engine", some (serialize payload.engine)),
    ("namespaces", some (serialize payload.namespaces)),
    ("relations", some (.arr (payload.relations.map RelationFingerprintPayload.toJson))),
    ("routines", some (serialize payload.routines)),
    ("otherObjects", some (serialize payload.otherObjects))]

/-- The fingerprinted part of contents. -/
def fingerprintPayload (engine : DatabaseEngine) (contents : CatalogContents) :
    CatalogFingerprintPayload where
  schemaVersion := CATALOG_SCHEMA_VERSION
  engine := engine
  namespaces := contents.namespaces
  relations := contents.relations.map relationFingerprintPayload
  routines := contents.routines
  otherObjects := contents.otherObjects

/-- The text whose SHA-256 is the fingerprint. -/
def fingerprintText (engine : DatabaseEngine) (contents : CatalogContents) : String :=
  platform.jsonText (fingerprintPayload engine contents).toJson

/-- The fingerprint of contents in canonical order. -/
def catalogFingerprint (engine : DatabaseEngine) (contents : CatalogContents) : String :=
  lowerHex (platform.sha256 (fingerprintText platform engine contents))

/-- Why a snapshot is refused. -/
inductive CatalogValidationError where
  | schemaVersion (actual expected : UInt32)
  | fingerprint
  | fingerprintMismatch
  | emptyDatabase
  deriving DecidableEq, Repr

/-- The message of a refusal. -/
def CatalogValidationError.message : CatalogValidationError → String
  | .schemaVersion actual expected =>
      "unsupported catalog schema version " ++ toString actual.toNat ++ "; expected " ++
        toString expected.toNat
  | .fingerprint => "catalog fingerprint must be exactly 64 lowercase hexadecimal characters"
  | .fingerprintMismatch => "catalog fingerprint does not match the canonical catalog contents"
  | .emptyDatabase => "catalog database name cannot be empty"

/-- A snapshot of a catalog. -/
structure CatalogSnapshot where
  schemaVersion : UInt32
  connectionId : Uuid
  engine : DatabaseEngine
  database : String
  capturedAt : DateTime
  fingerprint : String
  namespaces : List Namespace
  relations : List Relation
  routines : List Routine
  otherObjects : List DatabaseObject
  deriving DecidableEq

namespace CatalogSnapshot

/-- A snapshot of the current version with the given parts. -/
def fromCanonicalParts (connectionId : Uuid) (engine : DatabaseEngine) (database : String)
    (capturedAt : DateTime) (fingerprint : String) (contents : CatalogContents) :
    CatalogSnapshot where
  schemaVersion := CATALOG_SCHEMA_VERSION
  connectionId := connectionId
  engine := engine
  database := database
  capturedAt := capturedAt
  fingerprint := fingerprint
  namespaces := contents.namespaces
  relations := contents.relations
  routines := contents.routines
  otherObjects := contents.otherObjects

/-- The contents of a snapshot. -/
def contents (snapshot : CatalogSnapshot) : CatalogContents where
  namespaces := snapshot.namespaces
  relations := snapshot.relations
  routines := snapshot.routines
  otherObjects := snapshot.otherObjects

/-- 64 bytes, each a lowercase hexadecimal digit. -/
def validFingerprint (fingerprint : String) : Bool :=
  fingerprint.utf8ByteSize == 64 &&
    fingerprint.toList.all fun c => c.isDigit || ('a' ≤ c && c ≤ 'f')

/-- The checks that do not look at the contents. -/
def validateShape (snapshot : CatalogSnapshot) : Except CatalogValidationError Unit :=
  if snapshot.schemaVersion ≠ CATALOG_SCHEMA_VERSION then
    .error (.schemaVersion snapshot.schemaVersion CATALOG_SCHEMA_VERSION)
  else if isBlank snapshot.database then .error .emptyDatabase
  else if !validFingerprint snapshot.fingerprint then .error .fingerprint
  else .ok ()

/-- The fingerprint of the snapshot's own contents. -/
def canonicalFingerprint (snapshot : CatalogSnapshot) : String :=
  catalogFingerprint platform snapshot.engine (canonicalizeContents platform snapshot.contents)

/-- All checks of a snapshot. -/
def validate (snapshot : CatalogSnapshot) : Except CatalogValidationError Unit := do
  validateShape snapshot
  if snapshot.fingerprint ≠ canonicalFingerprint platform snapshot then .error .fingerprintMismatch
  else .ok ()

/-- Build a snapshot and derive its fingerprint. -/
def capture (connectionId : Uuid) (engine : DatabaseEngine) (database : String)
    (capturedAt : DateTime) (contents : CatalogContents) :
    Except CatalogValidationError CatalogSnapshot := do
  let contents := canonicalizeContents platform contents
  let snapshot := fromCanonicalParts connectionId engine database capturedAt
    (catalogFingerprint platform engine contents) contents
  validateShape snapshot
  return snapshot

/-- Build a snapshot with a given fingerprint and check it. -/
def new (connectionId : Uuid) (engine : DatabaseEngine) (database : String)
    (capturedAt : DateTime) (fingerprint : String) (contents : CatalogContents) :
    Except CatalogValidationError CatalogSnapshot := do
  let snapshot := fromCanonicalParts connectionId engine database capturedAt fingerprint
    (canonicalizeContents platform contents)
  validate platform snapshot
  return snapshot

/-- The written names of a snapshot's fields. -/
def fields : List String :=
  ["schemaVersion", "connectionId", "engine", "database", "capturedAt", "fingerprint",
    "namespaces", "relations", "routines", "otherObjects"]

/-- The JSON form of a snapshot. -/
def toJson (snapshot : CatalogSnapshot) : Json :=
  record [("schemaVersion", some (serialize snapshot.schemaVersion)),
    ("connectionId", some (serialize snapshot.connectionId.text)),
    ("engine", some (serialize snapshot.engine)),
    ("database", some (serialize snapshot.database)),
    ("capturedAt", some (serialize (platform.instantText snapshot.capturedAt))),
    ("fingerprint", some (serialize snapshot.fingerprint)),
    ("namespaces", some (serialize snapshot.namespaces)),
    ("relations", some (serialize snapshot.relations)),
    ("routines", some (serialize snapshot.routines)),
    ("otherObjects", some (serialize snapshot.otherObjects))]

/-- Read the fields of a snapshot, unchecked. -/
def wireOfFields : List (Option Json) → Option CatalogSnapshot
  | [schemaVersion, connectionId, engine, database, capturedAt, fingerprint, namespaces, relations,
      routines, otherObjects] => do
    let connectionText ← requiredField deserialize connectionId
    let capturedText ← requiredField deserialize capturedAt
    return {
      schemaVersion := ← requiredField deserialize schemaVersion
      connectionId := ← platform.uuidRead connectionText
      engine := ← requiredField deserialize engine
      database := ← requiredField deserialize database
      capturedAt := ← platform.instantRead capturedText
      fingerprint := ← requiredField deserialize fingerprint
      namespaces := ← defaultedField [] namespaces
      relations := ← defaultedField [] relations
      routines := ← defaultedField [] routines
      otherObjects := ← defaultedField [] otherObjects }
  | _ => none

/-- Why a text is not a snapshot. -/
inductive WireError where
  | malformed
  | invalid (error : CatalogValidationError)
  deriving DecidableEq, Repr

/-- The snapshot, or the reason it is refused. -/
def mapError : Except CatalogValidationError CatalogSnapshot → Except WireError CatalogSnapshot
  | .ok snapshot => .ok snapshot
  | .error error => .error (.invalid error)

/-- The text of a snapshot. -/
def serialize (snapshot : CatalogSnapshot) : String := platform.jsonText (snapshot.toJson platform)

/-- Read a snapshot and check it. -/
def deserialize (text : String) : Except WireError CatalogSnapshot :=
  match (platform.jsonRead text).bind (readRecord fields) |>.bind (wireOfFields platform) with
  | none => .error .malformed
  | some wire =>
      if wire.schemaVersion ≠ CATALOG_SCHEMA_VERSION then
        .error (.invalid (.schemaVersion wire.schemaVersion CATALOG_SCHEMA_VERSION))
      else
        mapError (new platform wire.connectionId wire.engine wire.database wire.capturedAt
          wire.fingerprint wire.contents)

end CatalogSnapshot

/-! ## Same contents -/

/-- Two relations that differ at most in the row estimate and in the order of their columns,
constraints, indexes and partitions. -/
structure Relation.Same (relation relation' : Relation) : Prop where
  object : relation.object = relation'.object
  comment : relation.comment = relation'.comment
  partitionParent : relation.partitionParent = relation'.partitionParent
  partitionChildren : relation.partitionChildren.Perm relation'.partitionChildren
  columns : relation.columns.Perm relation'.columns
  constraints : relation.constraints.Perm relation'.constraints
  indexes : relation.indexes.Perm relation'.indexes

/-- Two contents that differ at most in order and in row estimates. -/
structure CatalogContents.Same (contents contents' : CatalogContents) : Prop where
  namespaces : contents.namespaces.Perm contents'.namespaces
  relations : ∃ relations, List.Forall₂ Relation.Same contents.relations relations ∧
    relations.Perm contents'.relations
  routines : contents.routines.Perm contents'.routines
  otherObjects : contents.otherObjects.Perm contents'.otherObjects

/-- The documents of a relation that the canonical order compares. -/
def Relation.documents (relation : Relation) : List Json :=
  relation.columns.map serialize ++ relation.constraints.map serialize ++
    relation.indexes.map serialize ++
    [(relationFingerprintPayload (canonicalizeRelation platform relation)).toJson]

/-- The documents that capturing contents writes. -/
def CatalogContents.documents (engine : DatabaseEngine) (contents : CatalogContents) : List Json :=
  contents.relations.flatMap (Relation.documents platform) ++ contents.routines.map serialize ++
    contents.otherObjects.map serialize ++
    [(fingerprintPayload engine (canonicalizeContents platform contents)).toJson]

end Dopedb.Protocol
