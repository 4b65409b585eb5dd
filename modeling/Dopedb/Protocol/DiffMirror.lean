import Dopedb.Protocol.DiffSoundness

/-!
# The mirror of a comparison

Comparing the target with the baseline gives the differences of the baseline with the target, seen
from the other side. `MirrorOf` says in which respects the two lists may differ: the order of the
foreign-key entries of one column, and the object type of a kind change. `comparison_mirrored` is
the main result.
-/

namespace Dopedb.Protocol

open Library Std

/-! ## Differences seen from the other side -/

/-- The status seen from the other side. -/
def SchemaDiffStatus.mirror : SchemaDiffStatus → SchemaDiffStatus
  | .added => .missing
  | .missing => .added
  | .changed => .changed

/-- The difference seen from the other side. -/
def SchemaDiffObject.mirror (object : SchemaDiffObject) : SchemaDiffObject :=
  { object with
    status := object.status.mirror
    baselineValue := object.targetValue
    targetValue := object.baselineValue }

/-- The object types of relations. -/
def SchemaDiffObjectType.IsRelation (type : SchemaDiffObjectType) : Prop :=
  type = .table ∨ type = .view ∨ type = .materializedView

/-- The second list has the differences of the first, seen from the other side. -/
inductive MirrorOf : List SchemaDiffObject → List SchemaDiffObject → Prop where
  | nil : MirrorOf [] []
  | entry (object : SchemaDiffObject) {rest rest' : List SchemaDiffObject}
      (h : MirrorOf rest rest') : MirrorOf (object :: rest) (object.mirror :: rest')
  | kindChange (object : SchemaDiffObject) {type : SchemaDiffObjectType}
      {rest rest' : List SchemaDiffObject} (hchanged : object.status = .changed)
      (hobject : object.objectType.IsRelation) (htype : type.IsRelation) (h : MirrorOf rest rest') :
      MirrorOf (object :: rest) ({ object.mirror with objectType := type } :: rest')
  | targets {table column : String} {block block' rest rest' : List SchemaDiffObject}
      (hblock : ∀ object ∈ block, object.table = table ∧ object.objectType = .foreignKey ∧
        object.name = column)
      (hperm : block'.Perm (block.map SchemaDiffObject.mirror)) (h : MirrorOf rest rest') :
      MirrorOf (block ++ rest) (block' ++ rest')

/-- Lists one after the other. -/
theorem MirrorOf.append {front front' back back' : List SchemaDiffObject}
    (hfront : MirrorOf front front') (hback : MirrorOf back back') :
    MirrorOf (front ++ back) (front' ++ back') := by
  induction hfront with
  | nil => exact hback
  | entry object _ ih => exact .entry object ih
  | kindChange object hchanged hobject htype _ ih =>
      exact .kindChange object hchanged hobject htype ih
  | targets hblock hperm _ ih =>
      rw [List.append_assoc, List.append_assoc]
      exact .targets hblock hperm ih

/-- Differences one by one. -/
theorem mirror_of_map (objects : List SchemaDiffObject) :
    MirrorOf objects (objects.map SchemaDiffObject.mirror) := by
  induction objects with
  | nil => exact .nil
  | cons object rest ih => exact .entry object ih

/-- The differences of each key in turn. -/
theorem mirror_of_flat_map {K : Type} {keys : List K} {objects objects' : K → List SchemaDiffObject}
    (h : ∀ key ∈ keys, MirrorOf (objects key) (objects' key)) :
    MirrorOf (keys.flatMap objects) (keys.flatMap objects') := by
  induction keys with
  | nil => exact .nil
  | cons key rest ih =>
      rw [List.flatMap_cons, List.flatMap_cons]
      exact (h key List.mem_cons_self).append
        (ih fun other hother => h other (List.mem_cons_of_mem _ hother))

/-- The counts seen from the other side. -/
theorem MirrorOf.counts {objects objects' : List SchemaDiffObject} (h : MirrorOf objects objects')
    (status : SchemaDiffStatus) :
    (objects'.filter (·.status = status.mirror)).length =
      (objects.filter (·.status = status)).length := by
  have hmirror : ∀ other : SchemaDiffStatus, other.mirror = status.mirror ↔ other = status := by
    intro other
    cases other with
    | added => cases status <;> simp [SchemaDiffStatus.mirror]
    | missing => cases status <;> simp [SchemaDiffStatus.mirror]
    | changed => cases status <;> simp [SchemaDiffStatus.mirror]
  have hcons : ∀ {object object' : SchemaDiffObject} {rest rest' : List SchemaDiffObject},
      object'.status = object.status.mirror →
      (rest'.filter (·.status = status.mirror)).length =
        (rest.filter (·.status = status)).length →
      ((object' :: rest').filter (·.status = status.mirror)).length =
        ((object :: rest).filter (·.status = status)).length := by
    intro object object' rest rest' hobject hrest
    by_cases hsame : object.status = status
    · have hsame' : object'.status = status.mirror := by rw [hobject, hsame]
      simp [hsame, hsame', hrest]
    · have hsame' : object'.status ≠ status.mirror := by
        rw [hobject]
        exact fun h => hsame ((hmirror _).mp h)
      simp [hsame, hsame', hrest]
  induction h with
  | nil => rfl
  | entry object _ ih => exact hcons rfl ih
  | kindChange object _ _ _ _ ih => exact hcons rfl ih
  | @targets table column block block' rest rest' hblock hperm _ ih =>
      have hblocks : (block'.filter (·.status = status.mirror)).length =
          (block.filter (·.status = status)).length := by
        rw [(hperm.filter _).length_eq]
        clear hblock hperm
        induction block with
        | nil => rfl
        | cons object block ihblock => exact hcons rfl ihblock
      rw [List.filter_append, List.filter_append, List.length_append, List.length_append, ih,
        hblocks]

/-! ## Parts of a comparison -/

/-- The walk over the keys of two maps does not depend on which comes first. -/
theorem sorted_keys_comm {K : Type} [DecidableEq K] {cmp : K → K → Ordering} [TransCmp cmp]
    [LawfulEqCmp cmp] (keys keys' : List K) :
    sortedKeys cmp (keys ++ keys') = sortedKeys cmp (keys' ++ keys) :=
  sorted_keys_congr fun key => by rw [List.mem_append, List.mem_append, or_comm]

/-- Definitions compared from the other side. -/
theorem compare_named_mirror (table : String) (kind : SchemaDiffObjectType)
    (baseline target : Definitions) :
    MirrorOf (compareNamed table kind baseline target)
      (compareNamed table kind target baseline) := by
  have hmirror : compareNamed table kind target baseline =
      (compareNamed table kind baseline target).map SchemaDiffObject.mirror := by
    unfold compareNamed
    rw [sorted_keys_comm, List.map_filterMap]
    refine List.filterMap_congr ?_
    intro name _
    cases collected baseline name with
    | none =>
        cases collected target name with
        | none => rfl
        | some current => rfl
    | some base =>
        cases collected target name with
        | none => rfl
        | some current =>
            by_cases hsame : base.1 = current.1
            · simp [hsame]
            · have hsame' : current.1 ≠ base.1 := fun h => hsame h.symm
              simp only [ne_eq, hsame, hsame', not_false_eq_true, if_true, Option.map_some]
              rfl
  rw [hmirror]
  exact mirror_of_map _

/-- Targets matched from the other side. -/
theorem match_targets_mirror (table column : String) (base current : List String) :
    (matchTargets table column current base).Perm
      ((matchTargets table column base current).map SchemaDiffObject.mirror) := by
  have hcount : ∀ source comparison : List String,
      (unmatched comparison source).Perm (source.diff comparison) := by
    intro source comparison
    refine List.perm_iff_count.mpr ?_
    intro value
    rw [count_unmatched, List.count_diff]
  have hadded : (unmatched current base).Perm (base.diff current) := hcount base current
  have hmissing : (current.diff base).Perm (unmatched base current) := (hcount current base).symm
  unfold matchTargets
  rw [List.map_append, List.map_map, List.map_map]
  exact ((hadded.map _).append (hmissing.map _)).trans List.perm_append_comm

/-- Targets that are matched are foreign-key entries of the column. -/
theorem match_targets_entries {table column : String} {base current : List String} :
    ∀ object ∈ matchTargets table column base current, object.table = table ∧
      object.objectType = .foreignKey ∧ object.name = column := by
  intro object hobject
  unfold matchTargets at hobject
  obtain hadded | hmissing := List.mem_append.mp hobject
  · obtain ⟨value, _, rfl⟩ := List.mem_map.mp hadded
    exact ⟨rfl, rfl, rfl⟩
  · obtain ⟨value, _, rfl⟩ := List.mem_map.mp hmissing
    exact ⟨rfl, rfl, rfl⟩

/-- Matched targets are a block of their own. -/
theorem match_targets_mirror_of (table column : String) (base current : List String) :
    MirrorOf (matchTargets table column base current)
      (matchTargets table column current base) := by
  have hblock := MirrorOf.targets match_targets_entries
    (match_targets_mirror table column base current) .nil
  rwa [List.append_nil, List.append_nil] at hblock

/-- The targets of one column compared from the other side. -/
theorem compare_targets_mirror (table column : String) (base current : List String) :
    MirrorOf (compareTargets table column base current)
      (compareTargets table column current base) := by
  have hmatched := match_targets_mirror_of table column base current
  unfold compareTargets
  match base, current with
  | [value], [value'] =>
      by_cases hsame : value = value'
      · simpa [hsame] using hmatched
      · have hsame' : value' ≠ value := fun h => hsame h.symm
        simp only [ne_eq, hsame, hsame', not_false_eq_true, if_true]
        exact .entry _ .nil
  | [], [] => exact hmatched
  | [], [_] => exact hmatched
  | [], _ :: _ :: _ => exact hmatched
  | [_], [] => exact hmatched
  | _ :: _ :: _, [] => exact hmatched
  | [_], _ :: _ :: _ => exact hmatched
  | _ :: _ :: _, [_] => exact hmatched
  | _ :: _ :: _, _ :: _ :: _ => exact hmatched

/-- The foreign keys of two relations compared from the other side. -/
theorem compare_foreign_keys_mirror (table : String) (baseline target : Relation) :
    MirrorOf (compareForeignKeys table baseline target)
      (compareForeignKeys table target baseline) := by
  unfold compareForeignKeys
  dsimp only
  rw [sorted_keys_comm ((foreignKeys target).map Prod.fst)]
  exact mirror_of_flat_map fun column _ => compare_targets_mirror table column _ _

/-- The object type of a relation is one of a relation. -/
theorem relation_type_is_relation (relation : Relation) : (relationType relation).IsRelation := by
  unfold relationType
  split
  · exact .inr (.inl rfl)
  · exact .inr (.inr rfl)
  · exact .inl rfl

variable {lower : Char → List Char} {platform : Platform}

/-- Two relations of one key compared from the other side. -/
theorem compare_relations_mirror {table : String} {base current : Relation}
    (hname : base.object.name = current.object.name) :
    MirrorOf (compareRelations lower table base current)
      (compareRelations lower table current base) := by
  unfold compareRelations
  refine ((MirrorOf.append ?_ (compare_named_mirror table .column _ _)).append
    (compare_named_mirror table .index _ _)).append (compare_foreign_keys_mirror table base current)
  by_cases hkind : base.object.kind = current.object.kind
  · rw [if_neg (not_not.mpr hkind), if_neg (not_not.mpr hkind.symm)]
    exact .nil
  · rw [if_pos hkind, if_pos fun h => hkind h.symm, hname]
    exact .kindChange _ rfl (relation_type_is_relation current) (relation_type_is_relation base)
      .nil

/-- The relation at a key has the key. -/
theorem relation_at_key {catalog : CatalogSnapshot} {key : RelationKey} {relation : Relation}
    (h : collected (relationsByKey catalog) key = some relation) : relationKey relation = key := by
  obtain ⟨other, _, hpair⟩ := List.mem_map.mp (List.mem_reverse.mp (mem_of_lookup h))
  cases hpair
  rfl

/-- Two catalogs compared from the other side. -/
theorem compare_objects_mirror (baseline target : CatalogSnapshot) :
    MirrorOf (compareObjects lower baseline target) (compareObjects lower target baseline) := by
  unfold compareObjects
  dsimp only
  rw [sorted_keys_comm ((relationsByKey target).map Prod.fst)]
  refine mirror_of_flat_map ?_
  intro key _
  cases hbase : collected (relationsByKey baseline) key with
  | none =>
      cases collected (relationsByKey target) key with
      | none => exact .nil
      | some current => exact .entry _ .nil
  | some base =>
      cases hcurrent : collected (relationsByKey target) key with
      | none => exact .entry _ .nil
      | some current =>
          have hkeys := (relation_at_key hbase).trans (relation_at_key hcurrent).symm
          exact compare_relations_mirror (Prod.mk.inj hkeys).2

/-- Every difference has one status. -/
theorem count_objects_total (objects : List SchemaDiffObject) :
    (countObjects objects).added + (countObjects objects).missing +
      (countObjects objects).changed = objects.length := by
  unfold countObjects
  dsimp only
  induction objects with
  | nil => rfl
  | cons object rest ih =>
      simp only [List.filter_cons, List.length_cons]
      cases object.status with
      | added => simp; omega
      | missing => simp; omega
      | changed => simp; omega

/-! ## The whole comparison -/

/-- The second result is the first, seen from the other side. -/
structure SchemaDiff.Mirrored (diff diff' : SchemaDiff) : Prop where
  header : diff'.schemaVersion = diff.schemaVersion ∧ diff'.engine = diff.engine ∧
    diff'.scope = diff.scope
  sources : diff'.baseline = diff.target ∧ diff'.target = diff.baseline
  objects : MirrorOf diff.objects diff'.objects
  counts : diff'.counts.added = diff.counts.missing ∧ diff'.counts.missing = diff.counts.added ∧
    diff'.counts.changed = diff.counts.changed
  totals : diff.counts.added + diff.counts.missing + diff.counts.changed = diff.total ∧
    diff'.counts.added + diff'.counts.missing + diff'.counts.changed = diff'.total

/-- Two catalogs of one relational engine compared from the other side give the mirrored result. -/
theorem comparison_mirrored (lower : Char → List Char) (platform : Platform)
    {baseline target : CatalogSnapshot} (hengine : baseline.engine = target.engine)
    (hrelational : baseline.engine ≠ .mongodb) :
    ∃ diff diff', compareSchemaCatalogs lower platform baseline target = .ok diff ∧
      compareSchemaCatalogs lower platform target baseline = .ok diff' ∧ diff.Mirrored diff' := by
  have hmirror := @compare_objects_mirror lower baseline target
  unfold compareSchemaCatalogs
  rw [if_neg (not_not.mpr hengine), if_neg hrelational, if_neg (not_not.mpr hengine.symm),
    if_neg (hengine ▸ hrelational)]
  refine ⟨_, _, rfl, rfl, ?_⟩
  exact {
    header := ⟨rfl, hengine.symm, rfl⟩
    sources := ⟨rfl, rfl⟩
    objects := hmirror
    counts := ⟨hmirror.counts .missing, hmirror.counts .added, hmirror.counts .changed⟩
    totals := ⟨count_objects_total _, count_objects_total _⟩ }

/-- Indexes on different columns compared from both sides. -/
theorem indexed_comparison_mirrored : ∃ diff diff',
    compareSchemaCatalogs (fun c => [c.toLower]) Reference.platform (indexedCatalog ["qty"])
      (indexedCatalog ["total"]) = .ok diff ∧
    compareSchemaCatalogs (fun c => [c.toLower]) Reference.platform (indexedCatalog ["total"])
      (indexedCatalog ["qty"]) = .ok diff' ∧ diff.Mirrored diff' :=
  comparison_mirrored (fun c => [c.toLower]) Reference.platform rfl nofun

end Dopedb.Protocol
