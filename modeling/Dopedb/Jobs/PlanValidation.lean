import Dopedb.Jobs.Values
import Dopedb.Library.Collected
import Dopedb.Protocol.Catalog

/-!
# Job plans against a snapshot of the catalog

`validate_plan` of `jobs/validation.rs`, and the steps of `run_export` that read the same plan when
the job runs. `validation_agrees_iff` says for which plans the two agree.
-/

namespace Dopedb.Jobs

open Library
open Dopedb.Operations (AppError)
open Dopedb.Protocol (CatalogSnapshot NormalizedTypeFamily ObjectRef Relation)

/-- `JobFieldMapping`. -/
structure JobFieldMapping where
  source : String
  target : String
  required : Bool
  deriving DecidableEq

/-- `JobErrorPolicy`. -/
inductive JobErrorPolicy where
  | stop | continueOn
  deriving DecidableEq

/-- `JobValidation`. -/
structure JobValidation where
  onError : JobErrorPolicy
  maxErrors : Nat
  nullValues : List String

/-- The members of `JobPlan::Export` that a check reads. -/
structure JobExport where
  relation : ObjectRef
  columns : List String
  fieldNames : List JobFieldMapping
  batchSize : Nat

/-- The members of `JobPlan::Import` that a check reads. -/
structure JobImport where
  targetRelation : Option ObjectRef
  mapping : List JobFieldMapping
  validation : JobValidation
  batchSize : Nat

/-- `JobPlan`. -/
inductive JobPlan where
  | exportPlan (plan : JobExport)
  | importPlan (plan : JobImport)

/-- `JobPlan::batch_size`. -/
def JobPlan.batchSize : JobPlan → Nat
  | .exportPlan plan => plan.batchSize
  | .importPlan plan => plan.batchSize

/-- `CreateJobRequest`, as far as a check reads it. -/
structure CreateJobRequest where
  format : JobFormat
  plan : JobPlan

/-! ## Validation -/

section

variable {α : Type}

/-- Some item is bad, or repeats an earlier item under one of the keys. -/
def anyRepeated (bad : α → Bool) (keys : List (α → String)) : List α → List α → Bool
  | _, [] => false
  | seen, item :: rest =>
    bad item || (keys.any fun key => seen.any fun other => key other == key item) ||
      anyRepeated bad keys (item :: seen) rest

/-- No item is bad and the keys of the items are distinct. -/
theorem any_repeated_eq_false {bad : α → Bool} {keys : List (α → String)} {seen items : List α} :
    anyRepeated bad keys seen items = false ↔
      (∀ item ∈ items, bad item = false) ∧ ∀ key ∈ keys, (items.map key).Nodup ∧
        ∀ item ∈ items, ∀ other ∈ seen, key other ≠ key item := by
  induction items generalizing seen with
  | nil => simp [anyRepeated]
  | cons item rest ih =>
      have hany : ∀ key : α → String,
          (seen.any fun other => key other == key item) = false ↔
            ∀ other ∈ seen, key other ≠ key item := by
        intro key
        simp
      unfold anyRepeated
      rw [Bool.or_eq_false_iff, Bool.or_eq_false_iff, ih, List.any_eq_false]
      simp only [Bool.not_eq_true, hany, List.forall_mem_cons, List.map_cons, List.nodup_cons,
        List.mem_map, not_exists, not_and]
      constructor
      · rintro ⟨⟨hbad, hseen⟩, hrest, hkeys⟩
        refine ⟨⟨hbad, hrest⟩, ?_⟩
        intro key hkey
        obtain ⟨hnodup, hdistinct⟩ := hkeys key hkey
        exact ⟨⟨fun other hother hsame => (hdistinct other hother).1 hsame.symm, hnodup⟩,
          hseen key hkey, fun other hother => (hdistinct other hother).2⟩
      · rintro ⟨⟨hbad, hrest⟩, hkeys⟩
        refine ⟨⟨hbad, fun key hkey => (hkeys key hkey).2.1⟩, hrest, ?_⟩
        intro key hkey
        obtain ⟨⟨hfirst, hnodup⟩, _, hseen⟩ := hkeys key hkey
        exact ⟨hnodup, fun other hother =>
          ⟨fun hsame => hfirst other hother hsame.symm, hseen other hother⟩⟩

end

/-- The names of a relation's columns. -/
def columnNames (relation : Relation) : List String := relation.columns.map (·.name)

/-- A relation that was found. -/
def foundRelation : Option Relation → Except AppError Relation
  | some relation => .ok relation
  | none => .error (.blocked "job relation is missing from the current catalog")

/-- `relation_in_snapshot`. -/
def relationInSnapshot (snapshot : CatalogSnapshot) (reference : ObjectRef) :
    Except AppError Relation :=
  foundRelation (snapshot.relations.find? fun relation => relation.object = reference)

/-- The check of listed columns, with the test for an empty name. -/
def checkColumns (empty : String → Bool) (columns available : List String) : Except AppError Unit :=
  if anyRepeated (fun column => empty column || !available.contains column) [id] [] columns then
    .error (.config "job columns contain an unknown, empty, or duplicate name")
  else .ok ()

/-- `validate_named_columns`. -/
def validateNamedColumns : List String → List String → Except AppError Unit := checkColumns isBlank

/-- `validate_mapping`. -/
def validateMapping (mapping : List JobFieldMapping) (availableTargets : Option (List String)) :
    Except AppError Unit :=
  if anyRepeated (fun field => isBlank field.source || isBlank field.target ||
      availableTargets.any fun available => !available.contains field.target)
      [(·.source), (·.target)] [] mapping then
    .error (.config "field mapping contains an unknown, empty, or duplicate field")
  else .ok ()

/-- The `JobPlan::Import` branch of `validate_plan`. -/
def validateImport (format : JobFormat) (plan : JobImport) (snapshot : CatalogSnapshot) :
    Except AppError Unit :=
  if plan.validation.maxErrors = 0 ∨ plan.validation.maxErrors > 1000000 then
    .error (.config "import max errors must be between 1 and 1,000,000")
  else if format.base = .sql then
    if plan.targetRelation.isSome ∨ plan.mapping ≠ [] then
      .error (.config "SQL import does not accept a target or field mapping")
    else if plan.validation.onError ≠ .stop then
      .error (.config "SQL import must stop on the first failed statement")
    else .ok ()
  else
    match plan.targetRelation with
    | none => .error (.config "structured import requires a target relation")
    | some target => do
      let metadata ← relationInSnapshot snapshot target
      validateMapping plan.mapping (some (columnNames metadata))

/-- The `JobPlan::Export` branch of `validate_plan`. -/
def validateExport (plan : JobExport) (snapshot : CatalogSnapshot) : Except AppError Unit := do
  let metadata ← relationInSnapshot snapshot plan.relation
  validateNamedColumns plan.columns (columnNames metadata)
  validateMapping plan.fieldNames (some (columnNames metadata))

/-- `validate_plan`. -/
def validatePlan (request : CreateJobRequest) (snapshot : CatalogSnapshot) : Except AppError Unit :=
  if ¬(100 ≤ request.plan.batchSize ∧ request.plan.batchSize ≤ 10000) then
    .error (.config "job batch size must be between 100 and 10,000")
  else
    match request.plan with
    | .exportPlan plan => validateExport plan snapshot
    | .importPlan plan => validateImport request.format plan snapshot

/-! ## The export that runs -/

/-- The names of an object that `find_relation` compares. -/
def sameNames (object reference : ObjectRef) : Bool :=
  object.catalog = reference.catalog && object.namespace = reference.namespace &&
    object.name = reference.name && object.kind = reference.kind

/-- `find_relation`. -/
def findRelation (snapshot : CatalogSnapshot) (reference : ObjectRef) : Except AppError Relation :=
  foundRelation (snapshot.relations.find? fun relation => sameNames relation.object reference)

/-- `validate_columns`. -/
def validateColumns : List String → List String → Except AppError Unit := checkColumns (· = "")

/-- The name under which a column is written. -/
def outputName (mappings : List JobFieldMapping) (column : String) : String :=
  (collected (mappings.map fun mapping => (mapping.source, mapping.target)) column).getD column

/-- `export_field_names`. -/
def exportFieldNames (columns : List String) (mappings : List JobFieldMapping) :
    Except AppError (List String) :=
  if mappings = [] then .ok columns
  else
    let output := columns.map (outputName mappings)
    if anyRepeated (fun _ => false) [id] [] output then
      .error (.config "export field mapping creates duplicate names")
    else .ok output

/-- The type family of an exported column. -/
def typeFamily (metadata : Relation) (name : String) : Except AppError NormalizedTypeFamily :=
  match metadata.columns.find? fun column => column.name = name with
  | some column => .ok column.typeFamily
  | none => .error (.config ("export column \x60" ++ name ++ "\x60 has no catalog type metadata"))

/-- What an export reads off the plan and the snapshot. -/
structure ExportColumns where
  sourceColumns : List String
  outputColumns : List String
  typeFamilies : List NormalizedTypeFamily

/-- The columns of an export: those of the plan, or else all of them. -/
def sourceColumns (plan : JobExport) (metadata : Relation) : Except AppError (List String) :=
  if plan.columns = [] then .ok (columnNames metadata)
  else do
    validateColumns plan.columns (columnNames metadata)
    .ok plan.columns

/-- The steps of `run_export` that read the plan against the snapshot. -/
def exportColumns (plan : JobExport) (snapshot : CatalogSnapshot) :
    Except AppError ExportColumns := do
  let metadata ← findRelation snapshot plan.relation
  let sourceColumns ← sourceColumns plan metadata
  if sourceColumns = [] then .error (.config "export relation contains no columns")
  else
    let outputColumns ← exportFieldNames sourceColumns plan.fieldNames
    let typeFamilies ← sourceColumns.mapM (typeFamily metadata)
    .ok {
      sourceColumns
      outputColumns
      typeFamilies }

/-! ## When the two agree -/

/-- The relation that has exactly the plan's reference. -/
def planned (plan : JobExport) (snapshot : CatalogSnapshot) : Option Relation :=
  snapshot.relations.find? fun relation => relation.object = plan.relation

/-- The relation that has the names of the plan's reference. -/
def used (plan : JobExport) (snapshot : CatalogSnapshot) : Option Relation :=
  snapshot.relations.find? fun relation => sameNames relation.object plan.relation

/-- The columns that are exported. -/
def exportedColumns (plan : JobExport) (metadata : Relation) : List String :=
  if plan.columns = [] then columnNames metadata else plan.columns

/-- The exported columns are written under distinct names. -/
def DistinctNames (plan : JobExport) (metadata : Relation) : Prop :=
  plan.fieldNames ≠ [] → ((exportedColumns plan metadata).map (outputName plan.fieldNames)).Nodup

/-- A mapping onto columns of the relation: no blank name, no name twice, and every target is a
column. -/
structure MapsToColumns (mapping : List JobFieldMapping) (metadata : Relation) : Prop where
  named : ∀ field ∈ mapping, isBlank field.source = false ∧ isBlank field.target = false
  columns : ∀ field ∈ mapping, field.target ∈ columnNames metadata
  sources : (mapping.map (·.source)).Nodup
  targets : (mapping.map (·.target)).Nodup

/-- An export of the plan from the relation has its columns and their names. -/
structure Usable (plan : JobExport) (metadata : Relation) : Prop where
  listed : ∀ column ∈ plan.columns, column ≠ "" ∧ column ∈ columnNames metadata
  once : plan.columns.Nodup
  some : exportedColumns plan metadata ≠ []
  distinct : DistinctNames plan metadata

/-- The plan is in order for the relation, with a mapping onto its columns. -/
structure InOrder (plan : JobExport) (metadata : Relation) : Prop where
  batch : 100 ≤ plan.batchSize ∧ plan.batchSize ≤ 10000
  listed : ∀ column ∈ plan.columns, isBlank column = false ∧ column ∈ columnNames metadata
  once : plan.columns.Nodup
  mapping : MapsToColumns plan.fieldNames metadata

/-- A usable plan has a batch size out of range or a blank column, or the relation with exactly its
reference is not there, lacks a column, or lacks a column named like a target of the mapping. -/
def UsableRefused (plan : JobExport) (snapshot : CatalogSnapshot) : Prop :=
  ∃ metadata, used plan snapshot = some metadata ∧ Usable plan metadata ∧
    (¬(100 ≤ plan.batchSize ∧ plan.batchSize ≤ 10000) ∨
      (∃ column ∈ plan.columns, isBlank column = true) ∨
      ∀ other, planned plan snapshot = some other →
        (∃ column ∈ plan.columns, column ∉ columnNames other) ∨
          ¬MapsToColumns plan.fieldNames other)

/-- A plan is in order, but the relation that the export finds lacks a column, or has none to
export, or two columns get one name. -/
def UnusableAccepted (plan : JobExport) (snapshot : CatalogSnapshot) : Prop :=
  ∃ metadata, planned plan snapshot = some metadata ∧ InOrder plan metadata ∧
    ∀ other, used plan snapshot = some other →
      (∃ column ∈ plan.columns, column ∉ columnNames other) ∨ exportedColumns plan other = [] ∨
        ¬DistinctNames plan other

/-- The listed columns pass the check. -/
theorem check_columns_iff {empty : String → Bool} {columns available : List String} :
    checkColumns empty columns available = .ok () ↔
      (∀ column ∈ columns, empty column = false ∧ column ∈ available) ∧ columns.Nodup := by
  unfold checkColumns
  split
  · next h =>
      simp only [reduceCtorEq, false_iff]
      rintro ⟨hlisted, honce⟩
      have hfalse : anyRepeated (fun column => empty column || !available.contains column) [id] []
          columns = false := by
        rw [any_repeated_eq_false]
        simpa using ⟨hlisted, honce⟩
      rw [hfalse] at h
      cases h
  · next h =>
      rw [Bool.not_eq_true, any_repeated_eq_false] at h
      simpa using h

/-- A mapping passes the check against the columns of a relation. -/
theorem validate_mapping_iff {mapping : List JobFieldMapping} {metadata : Relation} :
    validateMapping mapping (some (columnNames metadata)) = .ok () ↔
      MapsToColumns mapping metadata := by
  have hpasses : anyRepeated (fun field => isBlank field.source || isBlank field.target ||
      (some (columnNames metadata)).any fun available => !available.contains field.target)
      [(·.source), (·.target)] [] mapping = false ↔ MapsToColumns mapping metadata := by
    rw [any_repeated_eq_false]
    constructor
    · rintro ⟨hfields, hkeys⟩
      have hsources := hkeys (·.source) (by simp)
      have htargets := hkeys (·.target) (by simp)
      simp only [Option.any_some, Bool.or_eq_false_iff, Bool.not_eq_false',
        List.contains_eq_mem, decide_eq_true_eq] at hfields
      exact {
        named := fun field hfield => (hfields field hfield).1
        columns := fun field hfield => (hfields field hfield).2
        sources := hsources.1
        targets := htargets.1 }
    · intro h
      refine ⟨?_, ?_⟩
      · intro field hfield
        simp [h.named field hfield, h.columns field hfield]
      · intro key hkey
        rw [List.mem_cons, List.mem_singleton] at hkey
        refine ⟨?_, by simp⟩
        obtain rfl | rfl := hkey
        · exact h.sources
        · exact h.targets
  unfold validateMapping
  split
  · next h =>
      simp only [reduceCtorEq, false_iff]
      intro hmaps
      rw [hpasses.mpr hmaps] at h
      cases h
  · next h =>
      rw [Bool.not_eq_true, hpasses] at h
      simp [h]

/-- The renamed columns pass the check. -/
theorem export_field_names_iff {columns : List String} {mappings : List JobFieldMapping} :
    (∃ output, exportFieldNames columns mappings = .ok output) ↔
      (mappings ≠ [] → (columns.map (outputName mappings)).Nodup) := by
  unfold exportFieldNames
  split
  · next h => simp [h]
  · next h =>
      have hpasses : anyRepeated (fun _ => false) [id] [] (columns.map (outputName mappings)) =
          false ↔ (columns.map (outputName mappings)).Nodup := by
        rw [any_repeated_eq_false]
        simp
      by_cases hdistinct : (columns.map (outputName mappings)).Nodup
      · simp [hpasses.mpr hdistinct, hdistinct]
      · have hrepeated := (Bool.not_eq_false _).mp (mt hpasses.mp hdistinct)
        simp [hrepeated, hdistinct, h]

/-- Every column of the relation has a type family. -/
theorem type_families_ok {metadata : Relation} {names : List String}
    (h : ∀ name ∈ names, name ∈ columnNames metadata) :
    ∃ families, names.mapM (typeFamily metadata) = .ok families := by
  induction names with
  | nil => exact ⟨[], rfl⟩
  | cons name rest ih =>
      obtain ⟨families, hrest⟩ := ih fun other hother => h other (List.mem_cons_of_mem _ hother)
      obtain ⟨column, hcolumn, hname⟩ := List.mem_map.mp (h name List.mem_cons_self)
      have hfamily : ∃ family, typeFamily metadata name = .ok family := by
        unfold typeFamily
        cases hfind : metadata.columns.find? fun column => column.name = name with
        | some found => exact ⟨_, rfl⟩
        | none => exact absurd hname (by simpa using List.find?_eq_none.mp hfind column hcolumn)
      obtain ⟨family, hfamily⟩ := hfamily
      refine ⟨family :: families, ?_⟩
      rw [List.mapM_cons, hfamily, hrest]
      rfl

/-- An export passes validation when it is in order for the relation with its reference. -/
theorem validate_plan_iff (format : JobFormat) (plan : JobExport) (snapshot : CatalogSnapshot) :
    validatePlan { format, plan := .exportPlan plan } snapshot = .ok () ↔
      ∃ metadata, planned plan snapshot = some metadata ∧ InOrder plan metadata := by
  unfold validatePlan
  split
  · next hbatch =>
      simp only [reduceCtorEq, false_iff]
      rintro ⟨metadata, _, horder⟩
      exact hbatch horder.batch
  · next hbatch =>
      rw [not_not] at hbatch
      show validateExport plan snapshot = .ok () ↔ _
      unfold validateExport relationInSnapshot
      show (foundRelation (planned plan snapshot)).bind _ = .ok () ↔ _
      cases hplanned : planned plan snapshot with
      | none => simp [foundRelation, Except.bind]
      | some metadata =>
          show (checkColumns isBlank plan.columns (columnNames metadata)).bind (fun _ =>
            validateMapping plan.fieldNames (some (columnNames metadata))) = .ok () ↔ _
          have hcolumns := @check_columns_iff isBlank plan.columns (columnNames metadata)
          constructor
          · intro haccepted
            cases hchecked : checkColumns isBlank plan.columns (columnNames metadata) with
            | error error =>
                rw [hchecked] at haccepted
                cases haccepted
            | ok _ =>
                rw [hchecked] at haccepted
                obtain ⟨hlisted, honce⟩ := hcolumns.mp hchecked
                exact ⟨metadata, rfl, {
                  batch := hbatch
                  listed := hlisted
                  once := honce
                  mapping := validate_mapping_iff.mp haccepted }⟩
          · rintro ⟨other, hother, horder⟩
            cases hother
            rw [hcolumns.mpr ⟨horder.listed, horder.once⟩]
            exact validate_mapping_iff.mpr horder.mapping

/-- The columns of an export are there when the listed ones are. -/
theorem source_columns_iff {plan : JobExport} {metadata : Relation} {columns : List String} :
    sourceColumns plan metadata = .ok columns ↔
      columns = exportedColumns plan metadata ∧
        (∀ column ∈ plan.columns, column ≠ "" ∧ column ∈ columnNames metadata) ∧
        plan.columns.Nodup := by
  unfold sourceColumns exportedColumns
  split
  · next h =>
      rw [h]
      simp [eq_comm]
  · next h =>
      have hcolumns := @check_columns_iff (· = "") plan.columns (columnNames metadata)
      show (checkColumns (· = "") plan.columns (columnNames metadata)).bind _ = .ok columns ↔ _
      simp only [decide_eq_false_iff_not] at hcolumns
      cases hchecked : checkColumns (· = "") plan.columns (columnNames metadata) with
      | error error =>
          rw [hchecked] at hcolumns
          simp only [Except.bind, reduceCtorEq, false_iff] at hcolumns ⊢
          rintro ⟨_, hlisted⟩
          exact hcolumns hlisted
      | ok _ =>
          have hlisted := hcolumns.mp hchecked
          simp only [Except.bind, Except.ok.injEq]
          exact ⟨fun heq => ⟨heq.symm, hlisted⟩, fun h => h.1.symm⟩

/-- An export has its columns when the plan is usable for the relation with its names. -/
theorem export_columns_iff (plan : JobExport) (snapshot : CatalogSnapshot) :
    (∃ columns, exportColumns plan snapshot = .ok columns) ↔
      ∃ metadata, used plan snapshot = some metadata ∧ Usable plan metadata := by
  unfold exportColumns findRelation
  show (∃ columns, (foundRelation (used plan snapshot)).bind _ = .ok columns) ↔ _
  cases hused : used plan snapshot with
  | none => simp [foundRelation, Except.bind]
  | some metadata =>
      have hsource := @source_columns_iff plan metadata
      have hnames := @export_field_names_iff (exportedColumns plan metadata) plan.fieldNames
      constructor
      · rintro ⟨columns, hcolumns⟩
        cases hchosen : sourceColumns plan metadata with
        | error error =>
            simp only [foundRelation, Except.bind, hchosen, bind, reduceCtorEq] at hcolumns
        | ok chosen =>
            obtain ⟨rfl, hlisted, honce⟩ := hsource.mp hchosen
            simp only [foundRelation, Except.bind, hchosen, bind] at hcolumns
            split at hcolumns
            · cases hcolumns
            · next hsome =>
                cases houtput : exportFieldNames (exportedColumns plan metadata)
                  plan.fieldNames with
                | error error =>
                    rw [houtput] at hcolumns
                    cases hcolumns
                | ok output =>
                    exact ⟨metadata, rfl, {
                      listed := hlisted
                      once := honce
                      some := hsome
                      distinct := hnames.mp ⟨output, houtput⟩ }⟩
      · rintro ⟨other, hother, husable⟩
        cases hother
        have hchosen := hsource.mpr ⟨rfl, husable.listed, husable.once⟩
        obtain ⟨output, houtput⟩ := hnames.mpr husable.distinct
        -- every column of the export is one of the relation, so its type is known
        have hknown : ∀ name ∈ exportedColumns plan metadata, name ∈ columnNames metadata := by
          intro name hname
          unfold exportedColumns at hname
          split at hname
          · exact hname
          · exact (husable.listed name hname).2
        obtain ⟨families, hfamilies⟩ := type_families_ok hknown
        refine ⟨{
          sourceColumns := exportedColumns plan metadata
          outputColumns := output
          typeFamilies := families }, ?_⟩
        simp only [foundRelation, Except.bind, hchosen, bind, if_neg husable.some, houtput,
          hfamilies]

/-- Validation accepts an export exactly when the export finds its columns, for the plans that are
neither usable and refused nor unusable and accepted. -/
theorem validation_agrees_iff (format : JobFormat) (plan : JobExport)
    (snapshot : CatalogSnapshot) :
    (validatePlan { format, plan := .exportPlan plan } snapshot = .ok () ↔
        ∃ columns, exportColumns plan snapshot = .ok columns) ↔
      ¬UsableRefused plan snapshot ∧ ¬UnusableAccepted plan snapshot := by
  -- validation looks up the planned relation, the export the one that it will read
  rw [validate_plan_iff, export_columns_iff]
  constructor
  · intro hagree
    constructor
    · rintro ⟨metadata, hused, husable, hrefused⟩
      obtain ⟨other, hplanned, horder⟩ := hagree.mpr ⟨metadata, hused, husable⟩
      obtain hbatch | ⟨column, hcolumn, hblank⟩ | hother := hrefused
      · exact hbatch horder.batch
      · rw [(horder.listed column hcolumn).1] at hblank
        cases hblank
      · obtain ⟨column, hcolumn, hmissing⟩ | hmapping := hother other hplanned
        · exact hmissing (horder.listed column hcolumn).2
        · exact hmapping horder.mapping
    · rintro ⟨metadata, hplanned, horder, hunusable⟩
      obtain ⟨other, hused, husable⟩ := hagree.mp ⟨metadata, hplanned, horder⟩
      obtain ⟨column, hcolumn, hmissing⟩ | hnone | hdistinct := hunusable other hused
      · exact hmissing (husable.listed column hcolumn).2
      · exact husable.some hnone
      · exact hdistinct husable.distinct
  · rintro ⟨hrefused, haccepted⟩
    constructor
    · rintro ⟨metadata, hplanned, horder⟩
      by_contra hnone
      refine haccepted ⟨metadata, hplanned, horder, ?_⟩
      intro other hused
      by_contra hfine
      simp only [not_or, not_exists, not_and, not_not] at hfine
      obtain ⟨hlisted, hsome, hdistinct⟩ := hfine
      refine hnone ⟨other, hused, {
        listed := fun column hcolumn => ⟨?_, hlisted column hcolumn⟩
        once := horder.once
        some := hsome
        distinct := hdistinct }⟩
      rintro rfl
      exact absurd (horder.listed "" hcolumn).1 (by decide)
    · rintro ⟨metadata, hused, husable⟩
      by_contra hnone
      refine hrefused ⟨metadata, hused, husable, ?_⟩
      by_contra hfine
      simp only [not_or, not_exists, not_and, not_not, not_forall, Bool.not_eq_true] at hfine
      obtain ⟨⟨hsmall, hlarge⟩, hblank, other, hplanned, hlisted, hmapping⟩ := hfine
      exact hnone ⟨other, hplanned, {
        batch := ⟨hsmall, hlarge⟩
        listed := fun column hcolumn => ⟨hblank column hcolumn, hlisted column hcolumn⟩
        once := husable.once
        mapping := hmapping }⟩

/-- A table with one column. -/
def peopleCatalog : CatalogSnapshot where
  schemaVersion := 1
  connectionId := ⟨"00000000-0000-4000-8000-000000000003"⟩
  engine := .postgres
  database := "app"
  capturedAt := 1709210096120000000
  fingerprint := ""
  namespaces := []
  relations := [{
    object := {
      catalog := none
      «namespace» := some "public"
      name := "people"
      kind := .table
      nativeId := none }
    comment := none
    rowEstimate := none
    partitionParent := none
    partitionChildren := []
    columns := [{
      name := "id"
      ordinal := 1
      nativeType := "bigint"
      typeFamily := .integer
      length := none
      precision := none
      scale := none
      nullable := false
      defaultExpression := none
      generatedExpression := none
      identity := false
      autoIncrement := false
      collation := none
      comment := none
      sensitivity := none }]
    constraints := []
    indexes := [] }]
  routines := []
  otherObjects := []

/-- The column exported under a name of its own. -/
def renamedExport : JobExport where
  relation := {
    catalog := none
    «namespace» := some "public"
    name := "people"
    kind := .table
    nativeId := none }
  columns := ["id"]
  fieldNames := [{
    source := "id"
    target := "identifier"
    required := false }]
  batchSize := 1000

/-- Validation refuses to rename an exported column, which the export would do. -/
theorem renamed_export_refused :
    ¬∀ (format : JobFormat) (plan : JobExport) (snapshot : CatalogSnapshot),
      validatePlan { format, plan := .exportPlan plan } snapshot = .ok () ↔
        ∃ columns, exportColumns plan snapshot = .ok columns := by
  intro hagree
  have haccepted := (hagree .csv renamedExport peopleCatalog).mpr ⟨_, rfl⟩
  exact absurd haccepted (by decide)

end Dopedb.Jobs
