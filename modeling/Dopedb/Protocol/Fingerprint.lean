import Mathlib.Data.List.Perm.Basic
import Dopedb.Library.Framing
import Dopedb.Protocol.Catalog
import Dopedb.Reference

/-!
# What the fingerprint identifies

The canonical order of `Catalog.lean` depends on the contents alone, because elements that compare
equal are equal as far as the fingerprint sees them. `catalog_fingerprint_faithful` puts this
together with the injectivity of the JSON form.
-/

namespace Dopedb.Protocol

open Library Json Serde Std

variable (platform : WirePlatform)

/-! ## The canonical form -/

/-- The canonical form of a canonical relation is itself. -/
theorem canonicalize_relation_idem (relation : Relation) :
    canonicalizeRelation platform (canonicalizeRelation platform relation) =
      canonicalizeRelation platform relation := by
  simp only [canonicalizeRelation, sort_by_idem]

/-- The canonical form of canonical contents is itself. -/
theorem canonicalize_contents_idem (contents : CatalogContents) :
    canonicalizeContents platform (canonicalizeContents platform contents) =
      canonicalizeContents platform contents := by
  have hrelations : (canonicalizeContents platform contents).relations.map
      (canonicalizeRelation platform) = (canonicalizeContents platform contents).relations := by
    refine (List.map_congr_left fun relation hmem => ?_).trans (List.map_id _)
    obtain ⟨source, -, rfl⟩ := List.mem_map.mp (mem_sort_by.mp hmem)
    exact canonicalize_relation_idem platform source
  rw [canonicalizeContents, hrelations]
  simp only [canonicalizeContents, sort_by_idem]

/-- What the fingerprint sees of a relation in canonical order. -/
def canonicalPayload (relation : Relation) : RelationFingerprintPayload :=
  relationFingerprintPayload (canonicalizeRelation platform relation)

/-- The relations of canonical contents, as the fingerprint sees them. -/
theorem map_canonicalize_relations (contents : CatalogContents) :
    (canonicalizeContents platform contents).relations.map relationFingerprintPayload =
      sortBy (comparePayload platform) (contents.relations.map (canonicalPayload platform)) := by
  have hsort := @map_sort_by _ (compareRelation platform) _ (comparePayload platform)
    relationFingerprintPayload (fun _ _ => rfl) (contents.relations.map (canonicalizeRelation platform))
  rw [List.map_map] at hsort
  exact hsort

/-! ## Ties -/

variable {platform}
variable {docs : List Json} (hwrites : WritesApart platform docs)
include hwrites

/-- Columns that compare equal are equal. -/
theorem eq_of_compare_column {column column' : Column} (hcolumn : serialize column ∈ docs)
    (hcolumn' : serialize column' ∈ docs) (h : compareColumn platform column column' = .eq) :
    column = column' := by
  simp only [compareColumn, compareLex_eq_eq] at h
  exact eq_of_compare_serialized hwrites hcolumn hcolumn' h.2.2

/-- Constraints that compare equal are equal. -/
theorem eq_of_compare_constraint {constraint constraint' : Constraint}
    (hconstraint : serialize constraint ∈ docs) (hconstraint' : serialize constraint' ∈ docs)
    (h : compareConstraint platform constraint constraint' = .eq) : constraint = constraint' := by
  simp only [compareConstraint, compareLex_eq_eq] at h
  exact eq_of_compare_serialized hwrites hconstraint hconstraint' h.2.2

/-- Indexes that compare equal are equal. -/
theorem eq_of_compare_index {index index' : Index} (hindex : serialize index ∈ docs)
    (hindex' : serialize index' ∈ docs) (h : compareIndex platform index index' = .eq) :
    index = index' := by
  simp only [compareIndex, compareLex_eq_eq] at h
  exact eq_of_compare_serialized hwrites hindex hindex' h.2

/-- Routines that compare equal are equal. -/
theorem eq_of_compare_routine {routine routine' : Routine} (hroutine : serialize routine ∈ docs)
    (hroutine' : serialize routine' ∈ docs) (h : compareRoutine platform routine routine' = .eq) :
    routine = routine' := by
  simp only [compareRoutine, compareLex_eq_eq] at h
  exact eq_of_compare_serialized hwrites hroutine hroutine' h.2

/-- Objects that compare equal are equal. -/
theorem eq_of_compare_database_object {item item' : DatabaseObject}
    (hitem : serialize item ∈ docs) (hitem' : serialize item' ∈ docs)
    (h : compareDatabaseObject platform item item' = .eq) : item = item' := by
  simp only [compareDatabaseObject, compareLex_eq_eq] at h
  exact eq_of_compare_serialized hwrites hitem hitem' h.2

omit hwrites in
/-- The fingerprint's view of a relation is determined by its JSON form. -/
theorem relation_payload_inj {payload payload' : RelationFingerprintPayload}
    (h : payload.toJson = payload'.toJson) : payload = payload' := by
  have hvalues := record_inj h rfl rfl
    (show ["object", "comment", "partitionParent", "partitionChildren", "columns", "constraints",
      "indexes"].Nodup by decide)
  simp only [List.map_cons, List.map_nil, List.cons.injEq, Option.some.injEq, and_true] at hvalues
  obtain ⟨hobject, hcomment, hparent, hchildren, hcolumns, hconstraints, hindexes⟩ := hvalues
  exact RelationFingerprintPayload.ext (serialize_injective hobject) (map_serialize_inj hcomment)
    (map_serialize_inj hparent) (serialize_injective hchildren) (serialize_injective hcolumns)
    (serialize_injective hconstraints) (serialize_injective hindexes)

/-- Views of relations that compare equal are equal. -/
theorem eq_of_compare_payload {payload payload' : RelationFingerprintPayload}
    (hpayload : payload.toJson ∈ docs) (hpayload' : payload'.toJson ∈ docs)
    (h : comparePayload platform payload payload' = .eq) : payload = payload' := by
  simp only [comparePayload, compareLex_eq_eq] at h
  exact relation_payload_inj (hwrites hpayload hpayload' (LawfulEqCmp.compare_eq_iff_eq.mp h.2))

/-! ## Same contents, same canonical form -/

/-- Relations that are the same have the same canonical view. -/
theorem canonical_payload_of_same {relation relation' : Relation}
    (hdocs : relation.documents platform ⊆ docs) (h : relation.Same relation') :
    canonicalPayload platform relation = canonicalPayload platform relation' := by
  have hcolumns : sortBy (compareColumn platform) relation.columns =
      sortBy (compareColumn platform) relation'.columns :=
    sort_by_congr h.columns fun a ha b hb => eq_of_compare_column hwrites
      (hdocs (by simp [Relation.documents, List.mem_map_of_mem ha]))
      (hdocs (by simp [Relation.documents, List.mem_map_of_mem hb]))
  have hconstraints : sortBy (compareConstraint platform) relation.constraints =
      sortBy (compareConstraint platform) relation'.constraints :=
    sort_by_congr h.constraints fun a ha b hb => eq_of_compare_constraint hwrites
      (hdocs (by simp [Relation.documents, List.mem_map_of_mem ha]))
      (hdocs (by simp [Relation.documents, List.mem_map_of_mem hb]))
  have hindexes : sortBy (compareIndex platform) relation.indexes =
      sortBy (compareIndex platform) relation'.indexes :=
    sort_by_congr h.indexes fun a ha b hb => eq_of_compare_index hwrites
      (hdocs (by simp [Relation.documents, List.mem_map_of_mem ha]))
      (hdocs (by simp [Relation.documents, List.mem_map_of_mem hb]))
  have hchildren : sortBy compareObjectRef relation.partitionChildren =
      sortBy compareObjectRef relation'.partitionChildren :=
    sort_by_congr h.partitionChildren fun _ _ _ _ => eq_of_compare_object_ref
  simp only [canonicalPayload, relationFingerprintPayload, canonicalizeRelation, hcolumns,
    hconstraints, hindexes, hchildren, h.object, h.comment, h.partitionParent]

/-- Lists of relations that are the same have the same canonical views. -/
theorem map_canonical_payload_of_same {relations relations' : List Relation}
    (hdocs : ∀ relation ∈ relations, relation.documents platform ⊆ docs)
    (h : List.Forall₂ Relation.Same relations relations') :
    relations.map (canonicalPayload platform) = relations'.map (canonicalPayload platform) := by
  induction h with
  | nil => rfl
  | cons hhead _ ih =>
      rw [List.map_cons, List.map_cons, ih fun r hr => hdocs r (List.mem_cons_of_mem _ hr),
        canonical_payload_of_same hwrites (hdocs _ List.mem_cons_self) hhead]

omit hwrites in
/-- Relations with the same canonical view are the same. -/
theorem same_of_canonical_payload {relation relation' : Relation}
    (h : canonicalPayload platform relation = canonicalPayload platform relation') :
    relation.Same relation' := by
  simp only [canonicalPayload, relationFingerprintPayload, canonicalizeRelation,
    RelationFingerprintPayload.mk.injEq] at h
  obtain ⟨hobject, hcomment, hparent, hchildren, hcolumns, hconstraints, hindexes⟩ := h
  exact {
    object := hobject
    comment := hcomment
    partitionParent := hparent
    partitionChildren := perm_of_sort_by_eq hchildren
    columns := perm_of_sort_by_eq hcolumns
    constraints := perm_of_sort_by_eq hconstraints
    indexes := perm_of_sort_by_eq hindexes }

/-- Contents that are the same have the same fingerprinted form. -/
theorem fingerprint_payload_of_same {engine : DatabaseEngine} {contents contents' : CatalogContents}
    (hdocs : contents.documents platform engine ⊆ docs) (h : contents.Same contents') :
    fingerprintPayload engine (canonicalizeContents platform contents) =
      fingerprintPayload engine (canonicalizeContents platform contents') := by
  have hrelation : ∀ relation ∈ contents.relations, relation.documents platform ⊆ docs :=
    fun relation hmem v hv => hdocs (by
      simp only [CatalogContents.documents, List.mem_append, List.mem_flatMap]
      exact .inl (.inl (.inl ⟨relation, hmem, hv⟩)))
  have hnamespaces := sort_by_congr h.namespaces fun _ _ _ _ => eq_of_compare_namespace
  have hroutines : sortBy (compareRoutine platform) contents.routines =
      sortBy (compareRoutine platform) contents'.routines :=
    sort_by_congr h.routines fun a ha b hb => eq_of_compare_routine hwrites
      (hdocs (by simp [CatalogContents.documents, List.mem_map_of_mem ha]))
      (hdocs (by simp [CatalogContents.documents, List.mem_map_of_mem hb]))
  have hobjects : sortBy (compareDatabaseObject platform) contents.otherObjects =
      sortBy (compareDatabaseObject platform) contents'.otherObjects :=
    sort_by_congr h.otherObjects fun a ha b hb => eq_of_compare_database_object hwrites
      (hdocs (by simp [CatalogContents.documents, List.mem_map_of_mem ha]))
      (hdocs (by simp [CatalogContents.documents, List.mem_map_of_mem hb]))
  have hrelations : sortBy (comparePayload platform)
        (contents.relations.map (canonicalPayload platform)) =
      sortBy (comparePayload platform)
        (contents'.relations.map (canonicalPayload platform)) := by
    obtain ⟨relations, hsame, hperm⟩ := h.relations
    have hmap := map_canonical_payload_of_same hwrites hrelation hsame
    refine sort_by_congr (hmap ▸ hperm.map _) fun a ha b hb => ?_
    obtain ⟨relation, hmem, rfl⟩ := List.mem_map.mp ha
    obtain ⟨relation', hmem', rfl⟩ := List.mem_map.mp hb
    exact eq_of_compare_payload hwrites
      (hrelation relation hmem (by simp [Relation.documents, canonicalPayload]))
      (hrelation relation' hmem' (by simp [Relation.documents, canonicalPayload]))
  simp only [fingerprintPayload, map_canonicalize_relations, hrelations]
  simp only [canonicalizeContents, hnamespaces, hroutines, hobjects]

omit hwrites in
/-- Contents with the same fingerprinted form are the same. -/
theorem same_of_fingerprint_payload {engine : DatabaseEngine} {contents contents' : CatalogContents}
    (h : fingerprintPayload engine (canonicalizeContents platform contents) =
      fingerprintPayload engine (canonicalizeContents platform contents')) :
    contents.Same contents' := by
  simp only [fingerprintPayload, map_canonicalize_relations,
    CatalogFingerprintPayload.mk.injEq, true_and] at h
  simp only [canonicalizeContents] at h
  obtain ⟨hnamespaces, hrelations, hroutines, hobjects⟩ := h
  have hperm : (contents.relations.map (canonicalPayload platform)).Perm
      (contents'.relations.map (canonicalPayload platform)) := perm_of_sort_by_eq hrelations
  have hcomp := congrFun (congrFun (List.eq_map_comp_perm (canonicalPayload platform))
    (contents.relations.map (canonicalPayload platform))) contents'.relations
  obtain ⟨relations, hmap, hrelations⟩ := hcomp.mpr hperm
  refine ⟨perm_of_sort_by_eq hnamespaces, ⟨relations, ?_, hrelations⟩,
    perm_of_sort_by_eq hroutines, perm_of_sort_by_eq hobjects⟩
  have hviews : List.Forall₂ (· = ·) (contents.relations.map (canonicalPayload platform))
      (relations.map (canonicalPayload platform)) := by
    rw [List.forall₂_eq_eq_eq]
    exact hmap
  rw [List.forall₂_map_left_iff, List.forall₂_map_right_iff] at hviews
  exact hviews.imp fun _ _ => same_of_canonical_payload

omit hwrites in
/-- The fingerprinted form of a catalog is determined by its JSON form. -/
theorem catalog_payload_inj {payload payload' : CatalogFingerprintPayload}
    (h : payload.toJson = payload'.toJson) : payload = payload' := by
  have hvalues := record_inj h rfl rfl
    (show ["schemaVersion", "engine", "namespaces", "relations", "routines", "otherObjects"].Nodup
      by decide)
  simp only [List.map_cons, List.map_nil, List.cons.injEq, Option.some.injEq, Json.arr.injEq,
    and_true] at hvalues
  obtain ⟨hversion, hengine, hnamespaces, hrelations, hroutines, hobjects⟩ := hvalues
  exact CatalogFingerprintPayload.ext (serialize_injective hversion) (serialize_injective hengine)
    (serialize_injective hnamespaces)
    (List.map_injective_iff.mpr (fun _ _ => relation_payload_inj) hrelations)
    (serialize_injective hroutines) (serialize_injective hobjects)

omit hwrites

/-! ## Capture, validation and the way over the wire -/

/-- The hexadecimal text of a digest is a valid fingerprint. -/
theorem valid_lower_hex (digest : Digest) :
    CatalogSnapshot.validFingerprint (lowerHex digest) = true := by
  have hall : (HEX.all fun c => c.utf8Size == 1 && (c.isDigit || ('a' ≤ c && c ≤ 'f'))) = true := by
    decide
  have hdigits : ∀ c ∈ HEX, c.utf8Size = 1 ∧ (c.isDigit || ('a' ≤ c && c ≤ 'f')) = true := by
    intro c hc
    simpa only [Bool.and_eq_true, beq_iff_eq] using List.all_eq_true.mp hall c hc
  have hsize : ∀ chars : List Char, (∀ c ∈ chars, c ∈ HEX) → byteLength chars = chars.length := by
    intro chars h
    induction chars with
    | nil => rfl
    | cons c rest ih =>
        have hrest := ih fun c hc => h c (List.mem_cons_of_mem _ hc)
        have hc := (hdigits c (h c List.mem_cons_self)).1
        simp only [byteLength, List.map_cons, List.sum_cons, List.length_cons] at hrest ⊢
        omega
  have hlength : (lowerHex digest).toList.length = 64 := by
    rw [lowerHex, String.toList_ofList, List.length_flatMap]
    simp [hexByte]
  have hbytes : (lowerHex digest).utf8ByteSize = 64 := by
    rw [← byte_length_to_list, hsize _ fun c hc => mem_lower_hex hc, hlength]
  have hall : (lowerHex digest).toList.all (fun c => c.isDigit || ('a' ≤ c && c ≤ 'f')) = true :=
    List.all_eq_true.mpr fun c hc => (hdigits c (mem_lower_hex hc)).2
  simp [CatalogSnapshot.validFingerprint, hbytes, hall]

namespace CatalogSnapshot

variable (platform)
variable (connectionId : Uuid) (engine : DatabaseEngine) {database : String}
  (capturedAt : DateTime) (contents : CatalogContents)

/-- The snapshot that capturing the contents gives. -/
def captured (database : String) : CatalogSnapshot :=
  fromCanonicalParts connectionId engine database capturedAt
    (catalogFingerprint platform engine (canonicalizeContents platform contents))
    (canonicalizeContents platform contents)

variable (hdatabase : isBlank database = false)
include hdatabase

/-- A captured snapshot has a valid shape. -/
theorem validate_shape_captured :
    validateShape (captured platform connectionId engine capturedAt contents database) =
      .ok () := by
  have hvalid := valid_lower_hex (platform.sha256
    (fingerprintText platform engine (canonicalizeContents platform contents)))
  simp [validateShape, captured, fromCanonicalParts, hdatabase, catalogFingerprint, hvalid]

/-- Capturing fails on a blank database name only. -/
theorem capture_ok :
    capture platform connectionId engine database capturedAt contents =
      .ok (captured platform connectionId engine capturedAt contents database) := by
  have hshape := validate_shape_captured platform connectionId engine capturedAt contents hdatabase
  rw [captured] at hshape
  simp only [capture, hshape]
  rfl

/-- A captured snapshot passes all checks. -/
theorem validate_captured :
    validate platform (captured platform connectionId engine capturedAt contents database) =
      .ok () := by
  have hcanonical : canonicalFingerprint platform
      (captured platform connectionId engine capturedAt contents database) =
        (captured platform connectionId engine capturedAt contents database).fingerprint := by
    have hcontents := canonicalize_contents_idem platform contents
    rw [canonicalFingerprint]
    exact congrArg (catalogFingerprint platform engine) hcontents
  have hshape := validate_shape_captured platform connectionId engine capturedAt contents hdatabase
  simp only [validate, hshape, hcanonical, ne_eq, not_true_eq_false, if_false]
  rfl

omit hdatabase in
/-- The fields of a snapshot are read back. -/
theorem read_fields {snapshot : CatalogSnapshot}
    (huuid : platform.uuidRead snapshot.connectionId.text = some snapshot.connectionId)
    (hinstant : platform.instantRead (platform.instantText snapshot.capturedAt) =
      some snapshot.capturedAt) :
    (readRecord fields (snapshot.toJson platform)).bind (wireOfFields platform) =
      some snapshot := by
  refine read_record_bind rfl (by decide) ?_
  simp only [List.map_cons, List.map_nil, wireOfFields]
  simp only [↓required_field_bind, ↓defaulted_field_bind, huuid, hinstant]
  rfl

/-- A captured snapshot is read back from its text. -/
theorem deserialize_captured
    (hread : platform.jsonRead (serialize platform
      (captured platform connectionId engine capturedAt contents database)) =
        some ((captured platform connectionId engine capturedAt contents database).toJson platform))
    (huuid : platform.uuidRead connectionId.text = some connectionId)
    (hinstant : platform.instantRead (platform.instantText capturedAt) = some capturedAt) :
    deserialize platform (serialize platform
      (captured platform connectionId engine capturedAt contents database)) =
        .ok (captured platform connectionId engine capturedAt contents database) := by
  have hfields := @read_fields platform
    (captured platform connectionId engine capturedAt contents database) huuid hinstant
  have hvalid := validate_captured platform connectionId engine capturedAt contents hdatabase
  have hnew : new platform connectionId engine database capturedAt
      (captured platform connectionId engine capturedAt contents database).fingerprint
      (canonicalizeContents platform contents) =
        .ok (captured platform connectionId engine capturedAt contents database) := by
    simp only [new, canonicalize_contents_idem]
    rw [captured] at hvalid ⊢
    simp only [fromCanonicalParts] at hvalid ⊢
    rw [hvalid]
    rfl
  have hversion : (captured platform connectionId engine capturedAt contents
      database).schemaVersion = CATALOG_SCHEMA_VERSION := rfl
  rw [deserialize, hread, Option.bind_some, hfields]
  simp only [hversion, ne_eq, not_true_eq_false, if_false]
  exact congrArg mapError hnew

end CatalogSnapshot

/-! ## The fingerprint theorem -/

variable (platform)

/-- The fingerprint of a captured catalog identifies its contents up to the order in which they
were reported and up to row estimates, whatever the connection, the database name and the time; a
captured snapshot is valid and is read back from its text. -/
theorem catalog_fingerprint_faithful (connectionId connectionId' : Uuid) (engine : DatabaseEngine)
    {database database' : String} (capturedAt capturedAt' : DateTime)
    (contents contents' : CatalogContents) (hdatabase : isBlank database = false)
    (hdatabase' : isBlank database' = false) :
    ∃ snapshot snapshot',
      CatalogSnapshot.capture platform connectionId engine database capturedAt contents =
        .ok snapshot ∧
      CatalogSnapshot.capture platform connectionId' engine database' capturedAt' contents' =
        .ok snapshot' ∧
      (WritesApart platform
          (contents.documents platform engine ++ contents'.documents platform engine) →
        platform.CollisionFree
          {fingerprintText platform engine (canonicalizeContents platform contents),
            fingerprintText platform engine (canonicalizeContents platform contents')} →
        (snapshot.fingerprint = snapshot'.fingerprint ↔ contents.Same contents')) ∧
      snapshot.validate platform = .ok () ∧
      (platform.jsonRead (platform.jsonText (snapshot.toJson platform)) =
          some (snapshot.toJson platform) →
        platform.uuidRead connectionId.text = some connectionId →
        platform.instantRead (platform.instantText capturedAt) = some capturedAt →
        CatalogSnapshot.deserialize platform (snapshot.serialize platform) = .ok snapshot) := by
  refine ⟨_, _, CatalogSnapshot.capture_ok platform connectionId engine capturedAt contents hdatabase,
    CatalogSnapshot.capture_ok platform connectionId' engine capturedAt' contents' hdatabase', ?_,
    CatalogSnapshot.validate_captured platform connectionId engine capturedAt contents hdatabase,
    fun hread huuid hinstant => CatalogSnapshot.deserialize_captured platform connectionId engine
      capturedAt contents hdatabase hread huuid hinstant⟩
  intro hwrites hhash
  constructor
  · intro hfingerprint
    have htext := hhash (.inl rfl) (.inr rfl) (lower_hex_inj hfingerprint)
    have hdoc : (fingerprintPayload engine (canonicalizeContents platform contents)).toJson =
        (fingerprintPayload engine (canonicalizeContents platform contents')).toJson :=
      hwrites (by simp [CatalogContents.documents]) (by simp [CatalogContents.documents]) htext
    exact same_of_fingerprint_payload (catalog_payload_inj hdoc)
  · intro hsame
    have hpayload := @fingerprint_payload_of_same platform _ hwrites engine contents contents'
      (List.subset_append_left _ _) hsame
    simp only [CatalogSnapshot.captured, CatalogSnapshot.fromCanonicalParts, catalogFingerprint,
      fingerprintText, hpayload]

/-! A catalog reported twice, in different orders. -/

/-- The reference functions with the wire form of identifiers and time stamps. -/
def referenceWire : WirePlatform :=
  { Reference.platform with
    uuidRead := Reference.uuidRead
    instantText := Reference.instantText
    instantRead := Reference.instantRead }

/-- A plain column. -/
def sampleColumn (name : String) (ordinal : UInt32) : Column where
  name := name
  ordinal := ordinal
  nativeType := "text"
  typeFamily := .text
  length := none
  precision := none
  scale := none
  nullable := false
  defaultExpression := none
  generatedExpression := none
  identity := false
  autoIncrement := false
  collation := none
  comment := none
  sensitivity := none

/-- A table with two columns, in the given order. -/
def sampleRelation (rowEstimate : Option Int64) (columns : List Column) : Relation where
  object := ⟨none, some "public", "users", .table, none⟩
  comment := none
  rowEstimate := rowEstimate
  partitionParent := none
  partitionChildren := []
  columns := columns
  constraints := []
  indexes := []

/-- A catalog. -/
def sampleContents : CatalogContents :=
  ⟨[⟨"public", none⟩, ⟨"app", none⟩],
    [sampleRelation (some 7) [sampleColumn "id" 1, sampleColumn "name" 2]], [], []⟩

/-- The same catalog in another order and with another row estimate. -/
def reorderedContents : CatalogContents :=
  ⟨[⟨"app", none⟩, ⟨"public", none⟩],
    [sampleRelation none [sampleColumn "name" 2, sampleColumn "id" 1]], [], []⟩

/-- A connection. -/
def sampleConnection : Uuid := ⟨"00000000-0000-4000-8000-000000000001"⟩

/-- Another connection. -/
def otherConnection : Uuid := ⟨"00000000-0000-4000-8000-000000000002"⟩

/-- The two reports hold the same contents. -/
theorem sample_contents_same : sampleContents.Same reorderedContents where
  namespaces := List.Perm.swap _ _ _
  relations := ⟨reorderedContents.relations,
    .cons ⟨rfl, rfl, rfl, .rfl, List.Perm.swap _ _ _, .rfl, .rfl⟩ .nil, .rfl⟩
  routines := .rfl
  otherObjects := .rfl

/-- Two reports of one catalog have the same fingerprint, and the snapshot is read back. -/
theorem sample_fingerprint_faithful : ∃ snapshot snapshot',
    CatalogSnapshot.capture referenceWire sampleConnection .postgres "prod" 0 sampleContents =
      .ok snapshot ∧
    CatalogSnapshot.capture referenceWire otherConnection .postgres "staging" 1 reorderedContents =
      .ok snapshot' ∧
    snapshot.fingerprint = snapshot'.fingerprint ∧
    CatalogSnapshot.deserialize referenceWire (snapshot.serialize referenceWire) =
      .ok snapshot := by
  have hblank : isBlank "prod" = false := by decide
  have hblank' : isBlank "staging" = false := by decide
  have hdocs : ∀ v ∈ sampleContents.documents referenceWire .postgres ++
      reorderedContents.documents referenceWire .postgres,
      referenceWire.jsonRead (referenceWire.jsonText v) = some v := by decide +kernel
  have htexts : fingerprintText referenceWire .postgres
      (canonicalizeContents referenceWire sampleContents) =
        fingerprintText referenceWire .postgres
          (canonicalizeContents referenceWire reorderedContents) := by decide +kernel
  obtain ⟨snapshot, snapshot', h, h', hiff, -, hwire⟩ := catalog_fingerprint_faithful referenceWire
    sampleConnection otherConnection .postgres 0 1 sampleContents reorderedContents hblank hblank'
  have hsnapshot := Except.ok.inj (h.symm.trans (CatalogSnapshot.capture_ok referenceWire
    sampleConnection .postgres 0 sampleContents hblank))
  have hread : referenceWire.jsonRead (referenceWire.jsonText (snapshot.toJson referenceWire)) =
      some (snapshot.toJson referenceWire) := by
    rw [hsnapshot]
    decide +kernel
  refine ⟨snapshot, snapshot', h, h', (hiff ?_ ?_).mpr sample_contents_same,
    hwire hread (by decide +kernel) (by decide +kernel)⟩
  · intro v hv v' hv' htext
    have hback := hdocs v hv
    rw [htext, hdocs v' hv'] at hback
    exact (Option.some.inj hback).symm
  · rw [← htexts, Set.pair_eq_singleton]
    exact Set.injOn_singleton _ _

end Dopedb.Protocol
