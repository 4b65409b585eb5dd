import Dopedb.Library.Framing
import Dopedb.Protocol.SchemaDiff
import Dopedb.Reference

/-!
# What an empty comparison means

`CatalogsMatch` compares two catalogs fact by fact, with a parameter for what is looked at in an
index and in a foreign key: the facts themselves (`RelationAgree`), or the texts that
`schema_diff.rs` renders them to (`TextsAgree`). The comparison is empty exactly when the texts
agree, so it is right about the facts unless two different facts have one text (`Collides`).
-/

namespace Dopedb.Protocol

open Library Std

/-! ## Agreement -/

/-- A key of an index, known to be a column or an expression. -/
inductive KeyPart where
  | column (name : String)
  | expression (text : String)
  deriving DecidableEq, Repr

/-- The column of an index key, or else its expression. -/
def keyPart (key : IndexKey) : Option KeyPart :=
  match key.column, key.expression with
  | some name, _ => some (.column name)
  | none, some text => some (.expression text)
  | none, none => none

/-- What a foreign-key column refers to. -/
structure ForeignKeyTarget where
  «namespace» : Option String
  relation : String
  column : Option String
  deriving DecidableEq, Repr

/-- The keys of an index in order. -/
def keyParts (index : Index) : List KeyPart := index.keys.filterMap keyPart

/-- The joined texts of the keys of an index. -/
def joinedKeys (index : Index) : String :=
  String.intercalate ", " (index.keys.filterMap keyText)

/-- The foreign-key columns of a relation with what they refer to. -/
def targets (relation : Relation) : List (String × ForeignKeyTarget) :=
  relation.constraints.flatMap fun constraint =>
    (constraintTargets constraint).map fun (column, reference, referencedColumn) =>
      (column, ⟨reference.namespace, reference.name, referencedColumn⟩)

/-- Two relations agree on their kind, their columns by name, their indexes by name, and the
targets of each column as a multiset. What is looked at in an index and as a target is a
parameter. -/
structure RelationMatch {K T : Type} (lower : Char → List Char) (keysOf : Index → K)
    (targetsOf : Relation → List (String × T)) (base current : Relation) : Prop where
  kind : base.object.kind = current.object.kind
  columnNames : ∀ name, name ∈ base.columns.map (·.name) ↔ name ∈ current.columns.map (·.name)
  columns : ∀ column ∈ base.columns, ∀ column' ∈ current.columns, column.name = column'.name →
    typeSignature lower column.nativeType = typeSignature lower column'.nativeType ∧
      column.nullable = column'.nullable ∧
      (column.name ∈ primaryColumns base ↔ column'.name ∈ primaryColumns current)
  indexNames : ∀ name, name ∈ base.indexes.map (·.name) ↔ name ∈ current.indexes.map (·.name)
  indexes : ∀ index ∈ base.indexes, ∀ index' ∈ current.indexes, index.name = index'.name →
    index.unique = index'.unique ∧ keysOf index = keysOf index'
  foreignKeys : ∀ column,
    (grouped (targetsOf base) column).Perm (grouped (targetsOf current) column)

/-- Two relations agree on every compared property. -/
def RelationAgree (lower : Char → List Char) : Relation → Relation → Prop :=
  RelationMatch lower keyParts targets

/-- Two relations agree where their indexes and foreign keys are only read as texts. -/
def TextsAgree (lower : Char → List Char) : Relation → Relation → Prop :=
  RelationMatch lower joinedKeys foreignKeys

/-- Two catalogs have the same relations, and relations of one key are related. -/
structure CatalogsMatch (R : Relation → Relation → Prop) (baseline target : CatalogSnapshot) :
    Prop where
  keys : ∀ key, key ∈ baseline.relations.map relationKey ↔ key ∈ target.relations.map relationKey
  relations : ∀ base ∈ baseline.relations, ∀ current ∈ target.relations,
    relationKey base = relationKey current → R base current

/-- The names of a catalog are unique: of its relations, and inside each relation. -/
structure WellNamed (catalog : CatalogSnapshot) : Prop where
  relations : (catalog.relations.map relationKey).Nodup
  columns : ∀ relation ∈ catalog.relations, (relation.columns.map (·.name)).Nodup
  indexes : ∀ relation ∈ catalog.relations, (relation.indexes.map (·.name)).Nodup

/-- Two different facts of relations of one key have one text: the key lists of an index that
differ but join to the same text, or the targets of a column that differ as a multiset but not as
texts. -/
def Collides (baseline target : CatalogSnapshot) : Prop :=
  ∃ base ∈ baseline.relations, ∃ current ∈ target.relations, relationKey base = relationKey current ∧
    ((∃ index ∈ base.indexes, ∃ index' ∈ current.indexes, index.name = index'.name ∧
        joinedKeys index = joinedKeys index' ∧ keyParts index ≠ keyParts index') ∨
      ∃ column, (grouped (foreignKeys base) column).Perm (grouped (foreignKeys current) column) ∧
        ¬ (grouped (targets base) column).Perm (grouped (targets current) column))

/-! ## Signatures -/

/-- A truth value is determined by its text. -/
theorem bool_text_inj {b b' : Bool} (h : boolText b = boolText b') : b = b' := by
  revert h
  cases b <;> cases b' <;> decide

/-- The text of a truth value has no bar. -/
theorem bar_not_mem_bool_text (b : Bool) : '|' ∉ (boolText b).toList := by
  cases b <;> decide

/-- The part behind the last bar is determined by the whole text. -/
theorem last_part_inj {front front' last last' : String}
    (h : front ++ "|" ++ last = front' ++ "|" ++ last') (hlast : '|' ∉ last.toList)
    (hlast' : '|' ∉ last'.toList) : front = front' ∧ last = last' := by
  have hreversed : last.toList.reverse ++ '|' :: front.toList.reverse =
      last'.toList.reverse ++ '|' :: front'.toList.reverse := by
    simpa using congrArg (fun text : String => text.toList.reverse) h
  obtain ⟨hback, hfront⟩ := prefix_eq_of_separator hreversed
    (by simpa using hlast) (by simpa using hlast')
  exact ⟨String.toList_injective (List.reverse_injective hfront),
    String.toList_injective (List.reverse_injective hback)⟩

/-- A column's signature determines its type signature, nullability and key membership. -/
theorem column_signature_inj {lower : Char → List Char} {column column' : Column} {pk pk' : Bool} :
    columnSignature lower column pk = columnSignature lower column' pk' ↔
      typeSignature lower column.nativeType = typeSignature lower column'.nativeType ∧
        column.nullable = column'.nullable ∧ pk = pk' := by
  constructor
  · intro h
    obtain ⟨hfront, hpk⟩ := last_part_inj h (bar_not_mem_bool_text _) (bar_not_mem_bool_text _)
    obtain ⟨htype, hnullable⟩ := last_part_inj hfront (bar_not_mem_bool_text _)
      (bar_not_mem_bool_text _)
    exact ⟨htype, bool_text_inj hnullable, bool_text_inj hpk⟩
  · rintro ⟨htype, hnullable, rfl⟩
    rw [columnSignature, columnSignature, htype, hnullable]

/-- An index's signature around the joined texts of its keys. -/
theorem index_value_eq (index : Index) :
    indexValue index = (if index.unique then "UNIQUE " else "") ++ "(" ++ joinedKeys index ++ ")" :=
  rfl

/-- An index's signature determines its uniqueness and the joined texts of its keys. -/
theorem index_value_inj {index index' : Index} :
    indexValue index = indexValue index' ↔
      index.unique = index'.unique ∧ joinedKeys index = joinedKeys index' := by
  rw [index_value_eq, index_value_eq]
  constructor
  · intro h
    have hlist := congrArg String.toList h
    cases hunique : index.unique <;> cases hunique' : index'.unique <;>
      simp [hunique, hunique'] at hlist ⊢
    all_goals exact String.toList_injective hlist
  · rintro ⟨hunique, hkeys⟩
    rw [hunique, hkeys]

/-! ## When a comparison reports nothing -/

/-- Maps of definitions compare without an entry exactly when each name has the same signature on
both sides. -/
theorem compare_named_eq_nil {table : String} {kind : SchemaDiffObjectType}
    {baseline target : Definitions} :
    compareNamed table kind baseline target = [] ↔
      ∀ name, (collected baseline name).map Prod.fst = (collected target name).map Prod.fst := by
  rw [compareNamed, List.filterMap_eq_nil_iff]
  constructor
  · intro h name
    by_cases hname : name ∈ baseline.map Prod.fst ++ target.map Prod.fst
    · have hentry := h name (mem_sorted_keys.mpr hname)
      cases hbase : collected baseline name <;> cases hcurrent : collected target name <;>
        simp_all
    · rw [List.mem_append, not_or] at hname
      rw [collected_eq_none.mpr hname.1, collected_eq_none.mpr hname.2]
  · intro h name _
    have hname := h name
    cases hbase : collected baseline name <;> cases hcurrent : collected target name <;>
      simp_all

/-- Definitions of two lists with distinct names compare without an entry exactly when the names
are the same and equal names have equal signatures. -/
theorem compare_definitions_eq_nil {α : Type} {name signature value signature' value' : α → String}
    {table : String} {kind : SchemaDiffObjectType} {l l' : List α}
    (hl : (l.map name).Nodup) (hl' : (l'.map name).Nodup) :
    compareNamed table kind (l.map fun a => (name a, signature a, value a))
        (l'.map fun a => (name a, signature' a, value' a)) = [] ↔
      (∀ text, text ∈ l.map name ↔ text ∈ l'.map name) ∧
        ∀ a ∈ l, ∀ a' ∈ l', name a = name a' → signature a = signature' a' := by
  have hkeys : ((l.map fun a => (name a, signature a, value a)).map Prod.fst).Nodup := by
    simpa [Function.comp_def] using hl
  have hkeys' : ((l'.map fun a => (name a, signature' a, value' a)).map Prod.fst).Nodup := by
    simpa [Function.comp_def] using hl'
  rw [compare_named_eq_nil]
  constructor
  · intro h
    refine ⟨fun text => ?_, fun a ha a' ha' hname => ?_⟩
    · have hsome := congrArg Option.isSome (h text)
      rw [Option.isSome_map, Option.isSome_map, Bool.eq_iff_iff, collected_is_some,
        collected_is_some] at hsome
      simpa [Function.comp_def] using hsome
    · have hbase := (collected_eq_some hkeys).mpr (List.mem_map_of_mem ha)
      have hcurrent := (collected_eq_some hkeys').mpr (List.mem_map_of_mem ha')
      have hboth := h (name a)
      rw [hbase, hname, hcurrent] at hboth
      exact Option.some.inj hboth
  · rintro ⟨hnames, hsame⟩ text
    by_cases htext : text ∈ l.map name
    · obtain ⟨a, ha, rfl⟩ := List.mem_map.mp htext
      obtain ⟨a', ha', hname⟩ := List.mem_map.mp ((hnames _).mp htext)
      have hbase := (collected_eq_some hkeys).mpr (List.mem_map_of_mem ha)
      have hcurrent := (collected_eq_some hkeys').mpr (List.mem_map_of_mem ha')
      rw [hbase, ← hname, hcurrent, Option.map_some, Option.map_some,
        hsame a ha a' ha' hname.symm]
    · have htext' := mt (hnames text).mpr htext
      rw [collected_eq_none.mpr (by simpa [Function.comp_def] using htext),
        collected_eq_none.mpr (by simpa [Function.comp_def] using htext')]

/-- Matching targets leaves no entry exactly when they are the same up to order. -/
theorem match_targets_eq_nil {table column : String} {base current : List String} :
    matchTargets table column base current = [] ↔ base.Perm current := by
  rw [matchTargets, List.append_eq_nil_iff, List.map_eq_nil_iff, List.map_eq_nil_iff,
    unmatched_nil_iff_perm]

/-- The targets of a column compare without an entry exactly when they are the same up to
order. -/
theorem compare_targets_eq_nil {table column : String} {base current : List String} :
    compareTargets table column base current = [] ↔ base.Perm current := by
  unfold compareTargets
  split
  · split
    · rename_i hne
      simp [hne]
    · exact match_targets_eq_nil
  · exact match_targets_eq_nil

/-- The foreign keys of two relations compare without an entry exactly when each column has the
same targets up to order. -/
theorem compare_foreign_keys_eq_nil {table : String} {base current : Relation} :
    compareForeignKeys table base current = [] ↔
      ∀ column, (grouped (foreignKeys base) column).Perm (grouped (foreignKeys current) column) := by
  have hsort : ∀ l l' : List String, (sortBy compare l).Perm (sortBy compare l') ↔ l.Perm l' :=
    fun l l' => (sort_by_perm l).congr_left _ |>.trans ((sort_by_perm l').congr_right _)
  simp only [compareForeignKeys, List.flatMap_eq_nil_iff, compare_targets_eq_nil, hsort,
    mem_sorted_keys, List.mem_append]
  refine ⟨fun h column => ?_, fun h column _ => h column⟩
  by_cases hcolumn : column ∈ (foreignKeys base).map Prod.fst ∨
      column ∈ (foreignKeys current).map Prod.fst
  · exact h column hcolumn
  · rw [not_or] at hcolumn
    rw [grouped_eq_nil.mpr hcolumn.1, grouped_eq_nil.mpr hcolumn.2]

section

variable {lower : Char → List Char}

/-- Two relations compare without an entry exactly when their texts agree. -/
theorem compare_relations_eq_nil {table : String} {base current : Relation}
    (hcolumns : (base.columns.map (·.name)).Nodup) (hcolumns' : (current.columns.map (·.name)).Nodup)
    (hindexes : (base.indexes.map (·.name)).Nodup)
    (hindexes' : (current.indexes.map (·.name)).Nodup) :
    compareRelations lower table base current = [] ↔ TextsAgree lower base current := by
  have hkind : (if base.object.kind ≠ current.object.kind then
      [entry table (relationType current) current.object.name .changed (kindLabel base)
        (kindLabel current)] else []) = [] ↔ base.object.kind = current.object.kind := by
    simp
  have hcolumn := @compare_definitions_eq_nil Column (·.name)
    (fun column => columnSignature lower column (column.name ∈ primaryColumns base))
    (fun column => columnValue column (column.name ∈ primaryColumns base))
    (fun column => columnSignature lower column (column.name ∈ primaryColumns current))
    (fun column => columnValue column (column.name ∈ primaryColumns current))
    table .column _ _ hcolumns hcolumns'
  have hindex := @compare_definitions_eq_nil Index (·.name) indexValue indexValue indexValue
    indexValue table .index _ _ hindexes hindexes'
  simp only [column_signature_inj, decide_eq_decide] at hcolumn
  simp only [index_value_inj] at hindex
  rw [compareRelations, List.append_eq_nil_iff, List.append_eq_nil_iff, List.append_eq_nil_iff,
    hkind, compare_foreign_keys_eq_nil]
  constructor
  · rintro ⟨⟨⟨hkind, hcolumnsNil⟩, hindexesNil⟩, hforeign⟩
    obtain ⟨hcolumnNames, hcolumnFacts⟩ := hcolumn.mp hcolumnsNil
    obtain ⟨hindexNames, hindexFacts⟩ := hindex.mp hindexesNil
    exact ⟨hkind, hcolumnNames, hcolumnFacts, hindexNames, hindexFacts, hforeign⟩
  · intro h
    exact ⟨⟨⟨h.kind, hcolumn.mpr ⟨h.columnNames, h.columns⟩⟩,
      hindex.mpr ⟨h.indexNames, h.indexes⟩⟩, h.foreignKeys⟩

variable {baseline target : CatalogSnapshot}

/-- Two catalogs compare without an entry exactly when their texts agree. -/
theorem compare_objects_eq_nil (hbaseline : WellNamed baseline) (htarget : WellNamed target) :
    compareObjects lower baseline target = [] ↔
      CatalogsMatch (TextsAgree lower) baseline target := by
  have hkeys : ∀ catalog : CatalogSnapshot,
      (relationsByKey catalog).map Prod.fst = catalog.relations.map relationKey := fun catalog => by
    simp [relationsByKey, Function.comp_def]
  have hmem : ∀ {catalog : CatalogSnapshot}, WellNamed catalog → ∀ {key relation},
      collected (relationsByKey catalog) key = some relation ↔
        relation ∈ catalog.relations ∧ relationKey relation = key := fun {catalog} hnamed {_ _} => by
    rw [collected_eq_some (by rw [hkeys]; exact hnamed.relations)]
    simp only [relationsByKey, List.mem_map, Prod.mk.injEq]
    exact ⟨fun ⟨_, hrelation, hkey, heq⟩ => heq ▸ ⟨hrelation, hkey⟩,
      fun ⟨hrelation, hkey⟩ => ⟨_, hrelation, hkey, rfl⟩⟩
  have hcompare : ∀ base ∈ baseline.relations, ∀ current ∈ target.relations, ∀ table,
      compareRelations lower table base current = [] ↔ TextsAgree lower base current :=
    fun base hbase current hcurrent table => compare_relations_eq_nil
      (hbaseline.columns base hbase) (htarget.columns current hcurrent)
      (hbaseline.indexes base hbase) (htarget.indexes current hcurrent)
  simp only [compareObjects, List.flatMap_eq_nil_iff, mem_sorted_keys, List.mem_append, hkeys]
  constructor
  · intro h
    refine ⟨fun key => ⟨fun hkey => ?_, fun hkey => ?_⟩, fun base hbase current hcurrent hkey => ?_⟩
    -- a relation of one catalog alone makes an entry
    · by_contra hnone
      obtain ⟨base, hbase⟩ := Option.isSome_iff_exists.mp
        (collected_is_some.mpr ((hkeys baseline).symm ▸ hkey))
      have hentry := h key (.inl hkey)
      rw [hbase, collected_eq_none.mpr ((hkeys target).symm ▸ hnone)] at hentry
      cases hentry
    · by_contra hnone
      obtain ⟨current, hcurrent⟩ := Option.isSome_iff_exists.mp
        (collected_is_some.mpr ((hkeys target).symm ▸ hkey))
      have hentry := h key (.inr hkey)
      rw [hcurrent, collected_eq_none.mpr ((hkeys baseline).symm ▸ hnone)] at hentry
      cases hentry
    · have hentry := h (relationKey base) (.inl (List.mem_map_of_mem hbase))
      rw [(hmem hbaseline).mpr ⟨hbase, rfl⟩, (hmem htarget).mpr ⟨hcurrent, hkey.symm⟩] at hentry
      exact (hcompare base hbase current hcurrent _).mp hentry
  · intro h key hkey
    have hkey : key ∈ baseline.relations.map relationKey :=
      hkey.elim id (h.keys key).mpr
    obtain ⟨base, hbase, rfl⟩ := List.mem_map.mp hkey
    obtain ⟨current, hcurrent, hsame⟩ := List.mem_map.mp ((h.keys _).mp hkey)
    rw [(hmem hbaseline).mpr ⟨hbase, rfl⟩, (hmem htarget).mpr ⟨hcurrent, hsame⟩]
    exact (hcompare base hbase current hcurrent _).mpr (h.relations base hbase current hcurrent
      hsame.symm)

end

/-! ## Facts and their texts -/

/-- The text of a key part. -/
def KeyPart.text : KeyPart → String
  | .column name => name
  | .expression text => text

/-- A key's text is the text of its part. -/
theorem key_text_eq (key : IndexKey) : keyText key = (keyPart key).map KeyPart.text := by
  obtain ⟨column, expression, direction⟩ := key
  cases column <;> cases expression <;> rfl

/-- The joined texts of an index depend on its key parts alone. -/
theorem joined_keys_eq (index : Index) :
    joinedKeys index = String.intercalate ", " ((keyParts index).map KeyPart.text) := by
  have htext : keyText = fun key => (keyPart key).map KeyPart.text := funext key_text_eq
  rw [joinedKeys, keyParts, List.map_filterMap, htext]

/-- The shown text of a target. -/
def ForeignKeyTarget.text (column : String) (target : ForeignKeyTarget) : String :=
  column ++ " → " ++ namespacePrefix target.namespace ++ target.relation ++ "." ++
    target.column.getD ""

/-- The texts of a column's targets are the texts of its targets. -/
theorem grouped_foreign_keys (relation : Relation) (column : String) :
    grouped (foreignKeys relation) column =
      (grouped (targets relation) column).map (ForeignKeyTarget.text column) := by
  have hpairs : foreignKeys relation =
      (targets relation).map fun pair => (pair.1, pair.2.text pair.1) := by
    simp only [foreignKeys, targets, List.map_flatMap, List.map_map]
    rfl
  rw [hpairs, grouped, grouped, List.filterMap_map, List.map_filterMap]
  refine List.filterMap_congr fun pair _ => ?_
  by_cases hcolumn : pair.1 = column <;> simp [hcolumn]

section

variable {lower : Char → List Char} {base current : Relation}

/-- Relations that agree on the facts agree on their texts. -/
theorem texts_agree_of_agree (h : RelationAgree lower base current) :
    TextsAgree lower base current where
  kind := h.kind
  columnNames := h.columnNames
  columns := h.columns
  indexNames := h.indexNames
  indexes index hindex index' hindex' hname := by
    obtain ⟨hunique, hkeys⟩ := h.indexes index hindex index' hindex' hname
    exact ⟨hunique, by rw [joined_keys_eq, joined_keys_eq, hkeys]⟩
  foreignKeys column := by
    rw [grouped_foreign_keys, grouped_foreign_keys]
    exact (h.foreignKeys column).map _

end

section

variable {lower : Char → List Char} {baseline target : CatalogSnapshot}

/-- Catalogs whose texts agree agree on the facts exactly when no two facts collide. -/
theorem agree_iff_not_collides (h : CatalogsMatch (TextsAgree lower) baseline target) :
    CatalogsMatch (RelationAgree lower) baseline target ↔ ¬ Collides baseline target := by
  constructor
  · rintro hagree ⟨base, hbase, current, hcurrent, hkey, hcollide⟩
    have hrelation := hagree.relations base hbase current hcurrent hkey
    rcases hcollide with ⟨index, hindex, index', hindex', hname, -, hparts⟩ | ⟨column, -, htargets⟩
    · exact hparts (hrelation.indexes index hindex index' hindex' hname).2
    · exact htargets (hrelation.foreignKeys column)
  · intro hcollides
    refine ⟨h.keys, fun base hbase current hcurrent hkey => ?_⟩
    have htexts := h.relations base hbase current hcurrent hkey
    refine ⟨htexts.kind, htexts.columnNames, htexts.columns, htexts.indexNames, ?_, ?_⟩
    · intro index hindex index' hindex' hname
      obtain ⟨hunique, hjoined⟩ := htexts.indexes index hindex index' hindex' hname
      refine ⟨hunique, ?_⟩
      by_contra hparts
      exact hcollides ⟨base, hbase, current, hcurrent, hkey,
        .inl ⟨index, hindex, index', hindex', hname, hjoined, hparts⟩⟩
    · intro column
      by_contra htargets
      exact hcollides ⟨base, hbase, current, hcurrent, hkey,
        .inr ⟨column, htexts.foreignKeys column, htargets⟩⟩

/-- A comparison that reports nothing means agreement on every compared property, exactly when
colliding facts come with a difference that the texts show. -/
theorem zero_differences_iff (lower : Char → List Char) (platform : Platform)
    (hengine : baseline.engine = target.engine) (hrelational : baseline.engine ≠ .mongodb)
    (hbaseline : WellNamed baseline) (htarget : WellNamed target) :
    ∃ diff, compareSchemaCatalogs lower platform baseline target = .ok diff ∧
      ((diff.total = 0 ↔ CatalogsMatch (RelationAgree lower) baseline target) ↔
        (Collides baseline target → ¬ CatalogsMatch (TextsAgree lower) baseline target)) := by
  have htotal : (compareObjects lower baseline target).length = 0 ↔
      CatalogsMatch (TextsAgree lower) baseline target := by
    rw [List.length_eq_zero_iff, compare_objects_eq_nil hbaseline htarget]
  have htexts : CatalogsMatch (RelationAgree lower) baseline target →
      CatalogsMatch (TextsAgree lower) baseline target := fun h =>
    ⟨h.keys, fun base hbase current hcurrent hkey =>
      texts_agree_of_agree (h.relations base hbase current hcurrent hkey)⟩
  refine ⟨_, by rw [compareSchemaCatalogs, if_neg (not_not.mpr hengine), if_neg hrelational], ?_⟩
  simp only [htotal]
  constructor
  · intro h hcollides hmatch
    exact (agree_iff_not_collides hmatch).mp (h.mp hmatch) hcollides
  · intro h
    refine ⟨fun hmatch => (agree_iff_not_collides hmatch).mpr fun hcollides => ?_, htexts⟩
    exact h hcollides hmatch

end

/-! Catalogs with one table and one index. -/

/-- A table with one index on columns of the given names. -/
def indexedRelation (keys : List String) : Relation where
  object := ⟨none, some "public", "orders", .table, none⟩
  comment := none
  rowEstimate := none
  partitionParent := none
  partitionChildren := []
  columns := []
  constraints := []
  indexes := [⟨"orders_key", none, keys.map fun name => ⟨some name, none, none⟩, [], none, false,
    true⟩]

/-- A catalog with that table. -/
def indexedCatalog (keys : List String) : CatalogSnapshot :=
  .fromCanonicalParts ⟨"00000000-0000-4000-8000-000000000001"⟩ .postgres "prod" 0 ""
    ⟨[], [indexedRelation keys], [], []⟩

/-- The names of the sample catalogs are unique. -/
theorem indexed_catalog_well_named (keys : List String) : WellNamed (indexedCatalog keys) where
  relations := by simp [indexedCatalog, CatalogSnapshot.fromCanonicalParts]
  columns := by simp [indexedCatalog, CatalogSnapshot.fromCanonicalParts, indexedRelation]
  indexes := by simp [indexedCatalog, CatalogSnapshot.fromCanonicalParts, indexedRelation]

/-- Indexes on different columns are told apart. -/
theorem sample_comparison : ∃ diff,
    compareSchemaCatalogs (fun c => [c.toLower]) Reference.platform (indexedCatalog ["qty"])
      (indexedCatalog ["total"]) = .ok diff ∧
    (diff.total = 0 ↔ CatalogsMatch (RelationAgree fun c => [c.toLower]) (indexedCatalog ["qty"])
      (indexedCatalog ["total"])) := by
  obtain ⟨diff, hdiff, hiff⟩ := @zero_differences_iff (indexedCatalog ["qty"])
    (indexedCatalog ["total"]) (fun c => [c.toLower]) Reference.platform rfl nofun
    (indexed_catalog_well_named _) (indexed_catalog_well_named _)
  refine ⟨diff, hdiff, hiff.mpr fun hcollides => ?_⟩
  obtain ⟨base, hbase, current, hcurrent, -, hcollide⟩ := hcollides
  rw [List.mem_singleton.mp hbase, List.mem_singleton.mp hcurrent] at hcollide
  rcases hcollide with ⟨index, hindex, index', hindex', -, hjoined, -⟩ | ⟨column, -, htargets⟩
  · rw [List.mem_singleton.mp hindex, List.mem_singleton.mp hindex'] at hjoined
    exact absurd hjoined (by decide)
  · exact absurd (List.Perm.refl _) htargets

/-- An index on the column `a, b` and an index on the columns `a` and `b` compare as equal. -/
theorem joined_index_keys_unseen :
    ¬ ∀ baseline target : CatalogSnapshot, baseline.engine = target.engine →
      baseline.engine ≠ .mongodb → WellNamed baseline → WellNamed target →
      ∀ diff, compareSchemaCatalogs (fun c => [c.toLower]) Reference.platform baseline target =
          .ok diff →
        (diff.total = 0 ↔
          CatalogsMatch (RelationAgree fun c => [c.toLower]) baseline target) := by
  intro h
  have hempty : compareObjects (fun c => [c.toLower]) (indexedCatalog ["a, b"])
      (indexedCatalog ["a", "b"]) = [] := by decide
  have hagree := (h (indexedCatalog ["a, b"]) (indexedCatalog ["a", "b"]) rfl nofun
    (indexed_catalog_well_named _) (indexed_catalog_well_named _) _ rfl).mp
    (List.length_eq_zero_iff.mpr hempty)
  have hrelation := hagree.relations _ (List.mem_singleton_self _) _ (List.mem_singleton_self _) rfl
  have hkeys := (hrelation.indexes _ (List.mem_singleton_self _) _ (List.mem_singleton_self _)
    rfl).2
  exact absurd hkeys (by decide)

end Dopedb.Protocol
