import Dopedb.Cloud.ConnectionTemplates

/-!
# Stored templates

What `parseSharedConnection` keeps is a `StoredTemplate`: every text is trimmed and within its
limits, and the boundaries of the engines hold. Read `parse_shared_spec` first.
-/

namespace Dopedb.Cloud

open Library

/-! ## Stored texts -/

/-- A text that the parser kept: it is trimmed and not empty. -/
structure StoredText (max : Nat) (text : String) : Prop where
  trimmed : jsTrim text.toList = text.toList
  filled : text.toList.isEmpty = false
  admitted : admitsText max false text.toList = true

/-- Trimming twice is trimming once. -/
theorem js_trim_idem (text : List Char) : jsTrim (jsTrim text) = jsTrim text := by
  have hlast : ∀ c ∈ (jsTrim text).getLast?, isJsBlank c = false := by
    intro c hc
    unfold jsTrim trimBy at hc
    rw [List.getLast?_reverse] at hc
    have hhead := List.head?_dropWhile_not isJsBlank (text.dropWhile isJsBlank).reverse
    rw [Option.mem_def.mp hc] at hhead
    exact hhead
  have hfirst : ∀ c ∈ (jsTrim text).head?, isJsBlank c = false := by
    intro c hc
    obtain ⟨kept, hkept⟩ : ∃ kept, text.dropWhile isJsBlank = jsTrim text ++ kept := by
      refine ⟨((text.dropWhile isJsBlank).reverse.takeWhile isJsBlank).reverse, ?_⟩
      unfold jsTrim trimBy
      rw [← List.reverse_append, List.takeWhile_append_dropWhile, List.reverse_reverse]
    have hhead := List.head?_dropWhile_not isJsBlank text
    rw [hkept, List.head?_append, Option.mem_def.mp hc] at hhead
    exact hhead
  have htrim := @trim_by_eq isJsBlank [] (jsTrim text) [] (by simp) (by simp) hfirst hlast
  simpa [jsTrim] using htrim

/-- What is admitted as a required text is admitted as a text. -/
theorem admits_text_optional {max : Nat} {required : Bool} {text : List Char}
    (h : admitsText max required text = true) : admitsText max false text = true := by
  unfold admitsText at h ⊢
  simp only [Bool.and_eq_true] at h
  simp only [Bool.false_and, Bool.not_false, Bool.true_and, Bool.and_eq_true]
  exact ⟨h.1.2, h.2⟩

/-- What the parser makes of a text member. -/
theorem template_text_spec {value : Option Json} {max : Nat} {required : Bool}
    {result : Option String} (h : templateText value max required = .ok result) :
    (∀ text ∈ result, StoredText max text) ∧ (required = true → result.isSome = true) := by
  unfold templateText at h
  split at h
  · cases required <;> cases h
    exact ⟨by simp, by simp⟩
  · cases required <;> cases h
    exact ⟨by simp, by simp⟩
  · next raw =>
      simp only at h
      split at h
      · next hadmits =>
          cases h
          by_cases hempty : (jsTrim raw.toList).isEmpty = true
          · rw [if_pos hempty]
            refine ⟨by simp, ?_⟩
            intro hrequired
            simp [admitsText, hrequired, hempty] at hadmits
          · rw [if_neg hempty]
            refine ⟨?_, by simp⟩
            intro text htext
            cases htext
            have hlist : (String.ofList (jsTrim raw.toList)).toList = jsTrim raw.toList := by simp
            refine ⟨?_, ?_, ?_⟩
            · rw [hlist, js_trim_idem]
            · rw [hlist]
              simpa using hempty
            · rw [hlist]
              exact admits_text_optional hadmits
      · cases h
  · cases h

/-! ## Members -/

/-- The result of `require`. -/
@[simp] theorem require_ok {condition : Bool} {message : String} {done : Unit} :
    require condition message = .ok done ↔ condition = true := by
  unfold require
  cases condition <;> simp

/-- The result of `orRefuse`. -/
@[simp] theorem or_refuse_ok {α : Type} {value : Option α} {message : String} {found : α} :
    orRefuse value message = .ok found ↔ value = some found := by
  unfold orRefuse
  cases value <;> simp

/-- MongoDB options whose names have the patterns. -/
structure StoredMongoOptions (options : MongoTemplateOptions) : Prop where
  authSource : ∀ text ∈ options.authSource, mongoAuthSource text = true
  replicaSet : ∀ text ∈ options.replicaSet, mongoReplicaSet text = true

/-- A name that was kept has its pattern. -/
theorem mongo_name_spec {value : Option Json} {pattern : String → Bool} {label : String}
    {result : Option String} (h : mongoName value pattern label = .ok result) :
    ∀ text ∈ result, pattern text = true := by
  unfold mongoName at h
  split at h
  · cases h
    simp
  · cases h
    simp
  · next text =>
      split at h
      · next hpattern =>
          cases h
          simpa using hpattern
      · cases h
  · cases h

/-- A name with its pattern is kept. -/
theorem mongo_name_reread {value : Option String} {pattern : String → Bool} {label : String}
    (h : ∀ text ∈ value, pattern text = true) :
    mongoName (value.map Json.str) pattern label = .ok value := by
  cases value with
  | none => rfl
  | some text =>
      simp only [Option.map_some, mongoName, h text rfl, if_true]

/-- Options that were kept have the patterns. -/
theorem parse_mongo_options_spec {value : Option Json} {result : Option MongoTemplateOptions}
    (h : parseMongoOptions value = .ok result) :
    ∀ options ∈ result, StoredMongoOptions options := by
  unfold parseMongoOptions at h
  split at h
  · cases h
    simp
  · cases h
    simp
  · split at h
    · cases h
    · split at h
      · simp only [except_bind_ok, pure, Except.pure, Except.ok.injEq] at h
        obtain ⟨authSource, hauth, replicaSet, hreplica, rfl⟩ := h
        intro options hoptions
        cases hoptions
        exact ⟨mongo_name_spec hauth, mongo_name_spec hreplica⟩
      · cases h
  · cases h

/-- Stored options are read back. -/
theorem StoredMongoOptions.reread {options : MongoTemplateOptions}
    (h : StoredMongoOptions options) :
    parseMongoOptions (some options.toJson) = .ok (some options) := by
  obtain ⟨srv, authSource, replicaSet⟩ := options
  have hauth := @mongo_name_reread authSource mongoAuthSource "authSource" h.authSource
  have hreplica := @mongo_name_reread replicaSet mongoReplicaSet "replicaSet" h.replicaSet
  cases authSource with
  | none =>
      cases replicaSet with
      | none =>
          simp only [Option.map_none] at hauth hreplica
          simp [MongoTemplateOptions.toJson, parseMongoOptions, unknownKey, mongoOptionKeys,
            List.lookup, hauth, hreplica, pure, Except.pure, bind, Except.bind]
      | some replica =>
          simp only [Option.map_none, Option.map_some] at hauth hreplica
          simp [MongoTemplateOptions.toJson, parseMongoOptions, unknownKey, mongoOptionKeys,
            List.lookup, hauth, hreplica, pure, Except.pure, bind, Except.bind]
  | some auth =>
      cases replicaSet with
      | none =>
          simp only [Option.map_none, Option.map_some] at hauth hreplica
          simp [MongoTemplateOptions.toJson, parseMongoOptions, unknownKey, mongoOptionKeys,
            List.lookup, hauth, hreplica, pure, Except.pure, bind, Except.bind]
      | some replica =>
          simp only [Option.map_some] at hauth hreplica
          simp [MongoTemplateOptions.toJson, parseMongoOptions, unknownKey, mongoOptionKeys,
            List.lookup, hauth, hreplica, pure, Except.pure, bind, Except.bind]

/-! ## Templates -/

/-- A template that the parser made: every member is one that it keeps. -/
structure StoredTemplate (input : SharedConnectionInput) : Prop where
  name : StoredText 120 input.name
  driverId : ∀ text ∈ input.driverId, StoredText 160 text
  host : StoredText 512 input.host
  plainHost : isPlainHost input.host = true
  port : 1 ≤ input.port ∧ input.port ≤ 65535
  database : input.database = "" ∨ StoredText 1024 input.database
  plainDatabase :
    (input.database.toList.any fun c => decide (c ∈ ['?', '#', '\r', '\n'])) = false
  sslmode : StoredText 64 input.sslmode
  readonlyDefault : input.readonlyDefault = true
  env : ∀ text ∈ input.env, StoredText 32 text
  label : connectionEnvironmentLabel input.env = input.env
  schemaGroup : ∀ text ∈ input.schemaGroup, StoredText 120 text
  bigquery : input.engine = .bigquery →
    validBigQueryBoundary input.fields input.host input.database input.allowWrites = true
  sqlite : input.engine = .sqlite →
    validCloudflareD1Identity input.fields input.host input.database input.allowWrites = true
  cloudflare : input.provider = .cloudflareD1 → input.engine = .sqlite
  mongo : ∀ options ∈ input.mongoOptions, StoredMongoOptions options
  mongoEngine : input.mongoOptions.isSome = true → input.engine = .mongodb
  srv : ∀ options ∈ input.mongoOptions, options.srv = true →
    input.port = MONGO_SRV_PORT ∧ (input.host.toList.any fun c => c = ',' || c = ':') = false

/-- The modes that admit a template. -/
def ModeAdmits (credentialMode : CredentialMode) (input : SharedConnectionInput) : Prop :=
  (credentialMode = .memberLocal → input.allowWrites = false) ∧
    (credentialMode = .managed → input.engine ≠ .bigquery ∧ input.engine ≠ .sqlite)

instance (credentialMode : CredentialMode) (input : SharedConnectionInput) :
    Decidable (ModeAdmits credentialMode input) :=
  inferInstanceAs (Decidable (_ ∧ _))

/-- A label is kept. -/
theorem label_idem (label : Option String) :
    connectionEnvironmentLabel (connectionEnvironmentLabel label) =
      connectionEnvironmentLabel label := by
  by_cases hproduction : label = some "production"
  · rw [hproduction]
    rfl
  · by_cases hdevelopment : label = some "development"
    · rw [hdevelopment]
      rfl
    · have hkept : connectionEnvironmentLabel label = label := by
        unfold connectionEnvironmentLabel
        split
        · exact absurd rfl hproduction
        · exact absurd rfl hdevelopment
        · rfl
      rw [hkept, hkept]

/-- The label of a stored text is a stored text. -/
theorem label_stored {label : Option String} (h : ∀ text ∈ label, StoredText 32 text) :
    ∀ text ∈ connectionEnvironmentLabel label, StoredText 32 text := by
  unfold connectionEnvironmentLabel
  split
  · intro text htext
    cases htext
    exact ⟨by decide, by decide, by decide⟩
  · intro text htext
    cases htext
    exact ⟨by decide, by decide, by decide⟩
  · exact h

/-- A member that is exactly a text. -/
theorem is_text_iff {value : Option Json} {text : String} :
    isText value text = true ↔ value = some (.str text) := by
  unfold isText
  split <;> simp_all

/-- An engine is named by its text. -/
theorem engine_of_spec {value : Option Json} {engine : TemplateEngine}
    (h : engineOf value = some engine) : value = some (.str engine.text) := by
  unfold engineOf at h
  exact is_text_iff.mp (by simpa using List.find?_some h)

/-- A provider is named by its text. -/
theorem provider_of_spec {value : Option Json} {provider : TemplateProvider}
    (h : providerOf value = some provider) : value = some (.str provider.text) := by
  unfold providerOf at h
  exact is_text_iff.mp (by simpa using List.find?_some h)

/-- A port lies in its range. -/
theorem port_of_spec {value : Option Json} {port : Nat} (h : portOf value = some port) :
    value = some (.int port) ∧ 1 ≤ port ∧ port ≤ 65535 := by
  unfold portOf at h
  split at h
  · next number =>
      split at h
      · next hrange =>
          cases h
          refine ⟨?_, by omega, by omega⟩
          rw [Int.toNat_of_nonneg (by omega)]
      · cases h
  · cases h

/-- A host that was kept is stored text without credentials. -/
theorem valid_host_spec {value : Option Json} {host : String} (h : validHost value = .ok host) :
    StoredText 512 host ∧ isPlainHost host = true := by
  unfold validHost at h
  simp only [except_bind_ok, require_ok, pure, Except.pure, Except.ok.injEq] at h
  obtain ⟨found, hfound, -, hplain, rfl⟩ := h
  obtain ⟨hstored, hsome⟩ := template_text_spec hfound
  obtain ⟨text, rfl⟩ := Option.isSome_iff_exists.mp (hsome rfl)
  exact ⟨hstored text rfl, hplain⟩

/-- A required text that was kept is stored text. -/
theorem required_text_spec {value : Option Json} {max : Nat} {result : Option String}
    (h : templateText value max true = .ok result) :
    value.isSome = true ∧ StoredText max (result.getD "") := by
  obtain ⟨hstored, hsome⟩ := template_text_spec h
  obtain ⟨text, rfl⟩ := Option.isSome_iff_exists.mp (hsome rfl)
  refine ⟨?_, hstored text rfl⟩
  unfold templateText at h
  split at h <;> simp_all

/-- A text that is trimmed already is kept as it is. -/
theorem kept_text {text : String} {max : Nat} {required : Bool} {result : Option String}
    (htrimmed : jsTrim text.toList = text.toList) (hfilled : text.toList.isEmpty = false)
    (h : templateText (some (.str text)) max required = .ok result) : result = some text := by
  unfold templateText at h
  simp only [htrimmed, hfilled] at h
  split at h
  · cases h
    simp
  · cases h

/-- Nothing is kept of what is absent or null. -/
theorem kept_nullish {value : Option Json} {max : Nat} {result : Option String}
    (hvalue : isNullish value = true) (h : templateText value max false = .ok result) :
    result = none := by
  unfold isNullish at hvalue
  split at hvalue
  · cases h
    rfl
  · cases h
    rfl
  · cases hvalue

/-- What a driver member may say at a fixed boundary is kept. -/
theorem kept_driver {value : Option Json} {driver : String} {result : Option String}
    (htrimmed : jsTrim driver.toList = driver.toList) (hfilled : driver.toList.isEmpty = false)
    (hvalue : isNullish value = true ∨ isText value driver = true)
    (h : templateText value 160 false = .ok result) : result = none ∨ result = some driver := by
  obtain hnullish | htext := hvalue
  · exact .inl (kept_nullish hnullish h)
  · rw [is_text_iff.mp htext] at h
    exact .inr (kept_text htrimmed hfilled h)

/-- The members of a template, by name. -/
theorem fields_lookup (input : SharedConnectionInput) :
    input.fields.lookup "name" = some (.str input.name) ∧
      input.fields.lookup "engine" = some (.str input.engine.text) ∧
      input.fields.lookup "provider" = some (.str input.provider.text) ∧
      input.fields.lookup "driverId" = some (nullable input.driverId) ∧
      input.fields.lookup "host" = some (.str input.host) ∧
      input.fields.lookup "port" = some (.int input.port) ∧
      input.fields.lookup "database" = some (.str input.database) ∧
      input.fields.lookup "sslmode" = some (.str input.sslmode) ∧
      input.fields.lookup "readonlyDefault" = some (.bool input.readonlyDefault) ∧
      input.fields.lookup "allowWrites" = some (.bool input.allowWrites) ∧
      input.fields.lookup "env" = some (nullable input.env) ∧
      input.fields.lookup "schemaGroup" = some (nullable input.schemaGroup) ∧
      input.fields.lookup "mongoOptions" = input.mongoOptions.map (·.toJson) := by
  cases hoptions : input.mongoOptions <;>
    simp [SharedConnectionInput.fields, hoptions, List.lookup]

/-- A template whose boundary was checked keeps it. -/
theorem bigquery_boundary_kept {body : List (String × Json)} {input : SharedConnectionInput}
    (hprovider : body.lookup "provider" = some (.str input.provider.text))
    (hport : body.lookup "port" = some (.int input.port))
    (hdriver : templateText (body.lookup "driverId") 160 false = .ok input.driverId)
    (hsslmode : ∃ found, templateText (body.lookup "sslmode") 64 true = .ok found ∧
      input.sslmode = found.getD "")
    (hgroup : templateText (body.lookup "schemaGroup") 120 false = .ok input.schemaGroup)
    (h : validBigQueryBoundary body input.host input.database input.allowWrites = true) :
    validBigQueryBoundary input.fields input.host input.database input.allowWrites = true := by
  obtain ⟨-, -, hp, hd, -, ho, -, hs, -, -, -, hg, -⟩ := fields_lookup input
  unfold validBigQueryBoundary at h ⊢
  simp only [Bool.and_eq_true, Bool.or_eq_true] at h
  obtain ⟨⟨⟨⟨⟨⟨⟨hgeneric, hnumber⟩, hrequire⟩, hwrites⟩, hhost⟩, hdatabase⟩, hdriverText⟩,
    hnullish⟩ := h
  have hnone : input.schemaGroup = none := kept_nullish hnullish hgroup
  have hssl : input.sslmode = "require" := by
    obtain ⟨found, hfound, hvalue⟩ := hsslmode
    rw [is_text_iff.mp hrequire] at hfound
    rw [hvalue, kept_text (by decide) (by decide) hfound]
    rfl
  have hdriverKept : input.driverId = none ∨ input.driverId = some "google-bq-cli" := by
    refine kept_driver (by decide) (by decide) ?_ hdriver
    obtain hnull | htext := hdriverText
    · left
      rw [beq_iff_eq.mp hnull]
      rfl
    · exact .inr htext
  rw [hp, ← hprovider, ho, ← hport, hs, hssl, hd, hg, hnone]
  simp only [Bool.and_eq_true, Bool.or_eq_true]
  refine ⟨⟨⟨⟨⟨⟨⟨hgeneric, hnumber⟩, rfl⟩, hwrites⟩, hhost⟩, hdatabase⟩, ?_⟩, rfl⟩
  obtain hnone | htext := hdriverKept
  · left
    rw [hnone]
    rfl
  · right
    rw [htext]
    rfl

/-- A Cloudflare D1 identity that was checked stays one. -/
theorem cloudflare_identity_kept {body : List (String × Json)} {input : SharedConnectionInput}
    (hengine : body.lookup "engine" = some (.str input.engine.text))
    (hprovider : body.lookup "provider" = some (.str input.provider.text))
    (hport : body.lookup "port" = some (.int input.port))
    (hdriver : templateText (body.lookup "driverId") 160 false = .ok input.driverId)
    (hsslmode : ∃ found, templateText (body.lookup "sslmode") 64 true = .ok found ∧
      input.sslmode = found.getD "")
    (hgroup : templateText (body.lookup "schemaGroup") 120 false = .ok input.schemaGroup)
    (h : validCloudflareD1Identity body input.host input.database input.allowWrites = true) :
    validCloudflareD1Identity input.fields input.host input.database input.allowWrites = true := by
  obtain ⟨-, he, hp, hd, -, ho, -, hs, -, -, -, hg, -⟩ := fields_lookup input
  unfold validCloudflareD1Identity at h ⊢
  simp only [Bool.and_eq_true, Bool.or_eq_true] at h
  obtain ⟨⟨⟨⟨⟨⟨⟨⟨hsqlite, hcloudflare⟩, hnumber⟩, hrequire⟩, hwrites⟩, hhost⟩, hdatabase⟩,
    hdriverText⟩, hnullish⟩ := h
  have hnone : input.schemaGroup = none := kept_nullish hnullish hgroup
  have hssl : input.sslmode = "require" := by
    obtain ⟨found, hfound, hvalue⟩ := hsslmode
    rw [is_text_iff.mp hrequire] at hfound
    rw [hvalue, kept_text (by decide) (by decide) hfound]
    rfl
  have hdriverKept := kept_driver (by decide) (by decide) hdriverText hdriver
  rw [he, ← hengine, hp, ← hprovider, ho, ← hport, hs, hssl, hd, hg, hnone]
  simp only [Bool.and_eq_true, Bool.or_eq_true]
  refine ⟨⟨⟨⟨⟨⟨⟨⟨hsqlite, hcloudflare⟩, hnumber⟩, rfl⟩, hwrites⟩, hhost⟩, hdatabase⟩, ?_⟩, rfl⟩
  obtain hnone | htext := hdriverKept
  · left
    rw [hnone]
    rfl
  · right
    rw [htext]
    rfl

/-- What the parser keeps is a stored template that the mode admits. -/
theorem parse_shared_spec {body : List (String × Json)} {credentialMode : CredentialMode}
    {input : SharedConnectionInput} (h : parseSharedConnection body credentialMode = .ok input) :
    StoredTemplate input ∧ ModeAdmits credentialMode input := by
  unfold parseSharedConnection at h
  split at h
  · cases h
  · simp only [except_bind_ok, or_refuse_ok, require_ok, modeAllows, pure, Except.pure,
      Except.ok.injEq] at h
    obtain ⟨engine, hengine, provider, hprovider, port, hport, -, -, allowWrites, -, -,
      ⟨-, hbigMode, hlocalMode⟩, host, hhost, found, hdatabase, -, hplain, -, hbigquery, -, hsqlite,
      -, hcloudflare, mongoOptions, hmongo, -, hmongoEngine, -, hsrv, name, hname, driverId, hdriver,
      sslmode, hsslmode, env, henv, schemaGroup, hgroup, rfl⟩ := h
    obtain ⟨hportMember, hrange⟩ := port_of_spec hport
    obtain ⟨hhostStored, hplainHost⟩ := valid_host_spec hhost
    have hengineMember := engine_of_spec hengine
    have hproviderMember := provider_of_spec hprovider
    have hdatabaseStored := (template_text_spec hdatabase).1
    have henvStored := (template_text_spec henv).1
    refine ⟨{
      name := (required_text_spec hname).2
      driverId := (template_text_spec hdriver).1
      host := hhostStored
      plainHost := hplainHost
      port := hrange
      database := ?_
      plainDatabase := by simpa using hplain
      sslmode := (required_text_spec hsslmode).2
      readonlyDefault := rfl
      env := label_stored henvStored
      label := label_idem env
      schemaGroup := (template_text_spec hgroup).1
      bigquery := ?_
      sqlite := ?_
      cloudflare := ?_
      mongo := parse_mongo_options_spec hmongo
      mongoEngine := ?_
      srv := ?_ }, ?_, ?_⟩
    · cases found with
      | none => exact .inl rfl
      | some text => exact .inr (hdatabaseStored text rfl)
    · intro heq
      -- the check is on the members of the body, which are those that the parser keeps
      refine bigquery_boundary_kept hproviderMember hportMember hdriver ⟨sslmode, hsslmode, rfl⟩
        hgroup ?_
      change engine = .bigquery at heq
      simpa [heq] using hbigquery
    · intro heq
      refine cloudflare_identity_kept hengineMember hproviderMember hportMember hdriver
        ⟨sslmode, hsslmode, rfl⟩ hgroup ?_
      change engine = .sqlite at heq
      simp only [heq, ne_eq, not_true_eq_false, decide_false, Bool.false_or, Bool.and_eq_true] at hsqlite
      exact hsqlite.2
    · intro heq
      change provider = .cloudflareD1 at heq
      simpa [heq] using hcloudflare
    · intro hsome
      change mongoOptions.isSome = true at hsome
      have hnotNone : mongoOptions.isNone = false := by
        cases mongoOptions with
        | none => cases hsome
        | some _ => rfl
      simpa [hnotNone] using hmongoEngine
    · intro options hoptions hwith
      change options ∈ mongoOptions at hoptions
      rw [Option.mem_def.mp hoptions] at hsrv
      simp only [Option.any_some, hwith, Bool.true_and, Bool.not_eq_true', Bool.or_eq_false_iff,
        decide_eq_false_iff_not, ne_eq, not_not] at hsrv
      exact hsrv
    · intro hmode
      simpa [hmode] using hlocalMode
    · intro hmode
      refine ⟨?_, ?_⟩
      · intro heq
        change engine = .bigquery at heq
        simp [hmode, heq] at hbigMode
      · intro heq
        change engine = .sqlite at heq
        simp [hmode, heq] at hsqlite

end Dopedb.Cloud
