import Dopedb.Cloud.Canonical
import Dopedb.Cloud.Identifiers
import Dopedb.Desktop.JavaScript
import Dopedb.Library.Transaction
import Dopedb.Text

/-!
# Connection templates

`workspace-connections.ts` and `workspace-versioning.ts`: the strict parser of a shared connection,
and the payload that every version of a connection stores. Errors are the texts that a request is
refused with.
-/

namespace Dopedb.Cloud

open Library

/-! ## Templates -/

/-- `SharedConnectionCredentialMode`. -/
inductive CredentialMode where
  | memberLocal | managed
  deriving DecidableEq, Repr

/-- `engines`. -/
inductive TemplateEngine where
  | postgres | mysql | mongodb | bigquery | sqlite
  deriving DecidableEq, Repr

/-- The text of an engine. -/
def TemplateEngine.text : TemplateEngine → String
  | .postgres => "postgres"
  | .mysql => "mysql"
  | .mongodb => "mongodb"
  | .bigquery => "bigquery"
  | .sqlite => "sqlite"

/-- All engines. -/
def engines : List TemplateEngine := [.postgres, .mysql, .mongodb, .bigquery, .sqlite]

/-- `providers`. -/
inductive TemplateProvider where
  | auto | generic | neon | planetScale | gcpCloudSql | cloudflareD1
  deriving DecidableEq, Repr

/-- The text of a provider. -/
def TemplateProvider.text : TemplateProvider → String
  | .auto => "auto"
  | .generic => "generic"
  | .neon => "neon"
  | .planetScale => "planetScale"
  | .gcpCloudSql => "gcpCloudSql"
  | .cloudflareD1 => "cloudflareD1"

/-- All providers. -/
def providers : List TemplateProvider :=
  [.auto, .generic, .neon, .planetScale, .gcpCloudSql, .cloudflareD1]

/-- `MongoTemplateOptions`. -/
structure MongoTemplateOptions where
  srv : Bool
  authSource : Option String
  replicaSet : Option String
  deriving DecidableEq

/-- `SharedConnectionInput`. -/
structure SharedConnectionInput where
  name : String
  engine : TemplateEngine
  provider : TemplateProvider
  driverId : Option String
  host : String
  port : Nat
  database : String
  sslmode : String
  readonlyDefault : Bool
  allowWrites : Bool
  env : Option String
  schemaGroup : Option String
  mongoOptions : Option MongoTemplateOptions
  deriving DecidableEq

/-- `ConnectionVersionPayload`. -/
structure ConnectionVersionPayload extends SharedConnectionInput where
  deleted : Bool
  deriving DecidableEq

/-! ## Parsing -/

/-- The names a template may hold. -/
def allowedKeys : List String :=
  ["name", "engine", "provider", "driverId", "host", "port", "database", "sslmode",
    "readonlyDefault", "allowWrites", "env", "schemaGroup", "mongoOptions"]

/-- The names that carry secrets. -/
def forbiddenKeys : List String :=
  ["password", "secret", "secretRef", "token", "connectionString", "connectionUrl", "url",
    "username", "extraParams", "certificate", "privateKey"]

/-- The options of a MongoDB template. -/
def mongoOptionKeys : List String := ["srv", "authSource", "replicaSet"]

/-- The default port of MongoDB. -/
def MONGO_SRV_PORT : Nat := 27017

/-- Refuse unless a condition holds. -/
def require (condition : Bool) (message : String) : Except String Unit :=
  if condition then .ok () else .error message

/-- What is absent or null. -/
def isNullish : Option Json → Bool
  | none => true
  | some .null => true
  | some _ => false

/-- A member that is exactly a text. -/
def isText (value : Option Json) (text : String) : Bool :=
  match value with
  | some (.str found) => found = text
  | _ => false

/-- A control character. -/
def isControl (c : Char) : Bool := decide (c.toNat ≤ 0x1f) || c.toNat = 0x7f

/-- A trimmed text may stand in a template. -/
def admitsText (max : Nat) (required : Bool) (normalized : List Char) : Bool :=
  !(required && normalized.isEmpty) && decide ((Desktop.utf16 normalized).length ≤ max) &&
    !normalized.any isControl

/-- `text`. -/
def templateText (value : Option Json) (max : Nat) (required : Bool) :
    Except String (Option String) :=
  match value with
  | none => if required then .error "Expected text" else .ok none
  | some .null => if required then .error "Expected text" else .ok none
  | some (.str raw) =>
    let normalized := jsTrim raw.toList
    if admitsText max required normalized then
      .ok (if normalized.isEmpty then none else some (String.ofList normalized))
    else .error "Invalid text value"
  | some _ => .error "Expected text"

/-- A host without credentials, and no URL. -/
def isPlainHost (host : String) : Bool :=
  !host.toList.any fun c => decide (c ∈ "@/?#".toList) || isJsBlank c

/-- `validHost`. A text that holds a scheme holds a slash. -/
def validHost (value : Option Json) : Except String String := do
  let host := ((← templateText value 512 true).getD "")
  require (isPlainHost host) "Host must not contain credentials or a connection URL"
  return host

/-- `mongoName`. -/
def mongoName (value : Option Json) (pattern : String → Bool) (label : String) :
    Except String (Option String) :=
  match value with
  | none => .ok none
  | some .null => .ok none
  | some (.str text) =>
    if pattern text then .ok (some text) else .error s!"Invalid MongoDB {label}"
  | some _ => .error s!"Invalid MongoDB {label}"

/-- `mongoAuthSource`. -/
def mongoAuthSource : String → Bool :=
  within (fun c => c.isAlphanum || decide (c ∈ "_.$-".toList)) 1 64

/-- `mongoReplicaSet`. -/
def mongoReplicaSet : String → Bool :=
  within (fun c => c.isAlphanum || decide (c ∈ "_.-".toList)) 1 128

/-- The first member whose name is not in a list. -/
def unknownKey (names : List String) (fields : List (String × Json)) : Option String :=
  (fields.map Prod.fst).find? fun name => decide (name ∉ names)

/-- `parseMongoOptions`. -/
def parseMongoOptions : Option Json → Except String (Option MongoTemplateOptions)
  | none => .ok none
  | some .null => .ok none
  | some (.obj fields) => do
    match unknownKey mongoOptionKeys fields with
    | some key => .error s!"Unknown MongoDB option '{key}'"
    | none =>
      match fields.lookup "srv" with
      | some (.bool srv) => do
        let authSource ← mongoName (fields.lookup "authSource") mongoAuthSource "authSource"
        let replicaSet ← mongoName (fields.lookup "replicaSet") mongoReplicaSet "replicaSet"
        return some { srv, authSource, replicaSet }
      | _ => .error "Invalid MongoDB srv option"
  | some _ => .error "Invalid MongoDB options"

/-- `storedMongoOptions`: a value that is not valid reads as absent. -/
def storedMongoOptions (value : Option Json) : Option MongoTemplateOptions :=
  match parseMongoOptions value with
  | .ok options => options
  | .error _ => none

/-- `connectionEnvironmentLabel`. -/
def connectionEnvironmentLabel : Option String → Option String
  | some "production" => some "prod"
  | some "development" => some "dev"
  | label => label

/-- The boundary of a BigQuery template. -/
def validBigQueryBoundary (body : List (String × Json)) (host database : String)
    (allowWrites : Bool) : Bool :=
  isText (body.lookup "provider") "generic" && body.lookup "port" == some (.int 443) &&
    isText (body.lookup "sslmode") "require" && !allowWrites && isBigQueryProject host &&
    isBigQueryDataset database &&
    (body.lookup "driverId" == some .null || isText (body.lookup "driverId") "google-bq-cli") &&
    isNullish (body.lookup "schemaGroup")

/-- `validCloudflareD1Identity`. -/
def validCloudflareD1Identity (body : List (String × Json)) (host database : String)
    (allowWrites : Bool) : Bool :=
  isText (body.lookup "engine") "sqlite" && isText (body.lookup "provider") "cloudflareD1" &&
    body.lookup "port" == some (.int 443) && isText (body.lookup "sslmode") "require" &&
    !allowWrites && isD1AccountId host && isD1DatabaseId database &&
    (isNullish (body.lookup "driverId") ||
      isText (body.lookup "driverId") "cloudflare-d1-wrangler") &&
    isNullish (body.lookup "schemaGroup")

/-- The first name that a template may not hold, with what is said about it. -/
def refusedKey (body : List (String × Json)) : Option String :=
  (body.map Prod.fst).findSome? fun key =>
    if key ∈ forbiddenKeys then some s!"Secret-bearing field '{key}' is not accepted"
    else if key ∉ allowedKeys then some s!"Unknown connection field '{key}'"
    else none

/-- The engine that a template names. -/
def engineOf (value : Option Json) : Option TemplateEngine :=
  engines.find? fun engine => isText value engine.text

/-- The provider that a template names. -/
def providerOf (value : Option Json) : Option TemplateProvider :=
  providers.find? fun provider => isText value provider.text

/-- The port that a template names. -/
def portOf : Option Json → Option Nat
  | some (.int port) => if 1 ≤ port ∧ port ≤ 65535 then some port.toNat else none
  | _ => none

/-- A mode delegates no authority that it does not hold. -/
def modeAllows (credentialMode : CredentialMode) (engine : TemplateEngine) (allowWrites : Bool) :
    Except String Unit := do
  require (!(engine = .bigquery && credentialMode ≠ .memberLocal))
    "BigQuery uses member-local Google Cloud CLI authentication"
  require (!(credentialMode = .memberLocal && allowWrites))
    "Member-local shared connections cannot delegate write authority"

/-- The write policy that a template names. -/
def writePolicyOf : Option Json → Option Bool
  | none => some false
  | some (.bool allowed) => some allowed
  | some _ => none

/-- `Option.get` of a parsed member, or what is said without one. -/
def orRefuse {α : Type} (value : Option α) (message : String) : Except String α :=
  match value with
  | some found => .ok found
  | none => .error message

/-- `parseSharedConnection`. -/
def parseSharedConnection (body : List (String × Json)) (credentialMode : CredentialMode) :
    Except String SharedConnectionInput := do
  match refusedKey body with
  | some message => .error message
  | none =>
    let engine ← orRefuse (engineOf (body.lookup "engine")) "Invalid engine"
    let provider ← orRefuse (providerOf (body.lookup "provider")) "Invalid provider"
    let port ← orRefuse (portOf (body.lookup "port")) "Invalid port"
    require (body.lookup "readonlyDefault" == none ||
      body.lookup "readonlyDefault" == some (.bool true))
      "Shared connections must open read-only by default"
    let allowWrites ← orRefuse (writePolicyOf (body.lookup "allowWrites"))
      "Invalid shared connection write policy"
    modeAllows credentialMode engine allowWrites
    let host ← validHost (body.lookup "host")
    let database := (← templateText (body.lookup "database") 1024 false).getD ""
    require (!database.toList.any fun c => decide (c ∈ ['?', '#', '\r', '\n']))
      "Invalid database name"
    require (engine ≠ .bigquery || validBigQueryBoundary body host database allowWrites)
      "Invalid BigQuery shared connection boundary"
    require (engine ≠ .sqlite || (credentialMode = .memberLocal &&
      validCloudflareD1Identity body host database allowWrites))
      "Only a Cloudflare D1 identity can be shared as SQLite"
    require (provider ≠ .cloudflareD1 || engine = .sqlite)
      "Invalid Cloudflare D1 shared connection boundary"
    let mongoOptions ← parseMongoOptions (body.lookup "mongoOptions")
    require (mongoOptions.isNone || engine = .mongodb)
      "Only MongoDB templates accept MongoDB options"
    require (!(mongoOptions.any (·.srv) &&
      (port ≠ MONGO_SRV_PORT || host.toList.any fun c => c = ',' || c = ':')))
      "SRV hosts are a single DNS name on the default port"
    let name := (← templateText (body.lookup "name") 120 true).getD ""
    let driverId ← templateText (body.lookup "driverId") 160 false
    let sslmode := (← templateText (body.lookup "sslmode") 64 true).getD ""
    let env ← templateText (body.lookup "env") 32 false
    let schemaGroup ← templateText (body.lookup "schemaGroup") 120 false
    return {
      name
      engine
      provider
      driverId
      host
      port
      database
      sslmode
      readonlyDefault := true
      allowWrites
      env := connectionEnvironmentLabel env
      schemaGroup
      mongoOptions }

/-! ## Storing -/

/-- A text or null. -/
def nullable (text : Option String) : Json := (text.map Json.str).getD .null

/-- MongoDB options as JSON. -/
def MongoTemplateOptions.toJson (options : MongoTemplateOptions) : Json :=
  .obj ([("srv", .bool options.srv)] ++
    (options.authSource.map fun text => ("authSource", Json.str text)).toList ++
    (options.replicaSet.map fun text => ("replicaSet", Json.str text)).toList)

/-- The members of a template in the order they are written. -/
def SharedConnectionInput.fields (input : SharedConnectionInput) : List (String × Json) :=
  [("name", .str input.name),
    ("engine", .str input.engine.text),
    ("provider", .str input.provider.text),
    ("driverId", nullable input.driverId),
    ("host", .str input.host),
    ("port", .int input.port),
    ("database", .str input.database),
    ("sslmode", .str input.sslmode),
    ("readonlyDefault", .bool input.readonlyDefault),
    ("allowWrites", .bool input.allowWrites),
    ("env", nullable input.env),
    ("schemaGroup", nullable input.schemaGroup)] ++
    (input.mongoOptions.map fun options => ("mongoOptions", options.toJson)).toList

/-- A payload as the document that a version stores. -/
def ConnectionVersionPayload.toJson (payload : ConnectionVersionPayload) : Json :=
  .obj (payload.fields ++ [("deleted", .bool payload.deleted)])

end Dopedb.Cloud
