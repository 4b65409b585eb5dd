import Dopedb.Library.Transaction
import Dopedb.Operations.StateMachine
import Dopedb.Text

/-!
# Canonical payloads, row projection and event hashing

`operations/canonicalize.rs` and `operations/repository/projection.rs`. A stored JSON column is
accepted only when it is its own canonical text, and a payload only when it also matches its
stored hash.
-/

namespace Dopedb.Operations

open Library OperationState

/-- The limit on a request's control messages, in bytes. -/
def MAX_REQUEST_BYTES : Nat := 1024 * 1024

/-- The limit on a response's control messages, in bytes. -/
def MAX_RESPONSE_BYTES : Nat := 8 * 1024 * 1024

/-- Canonical JSON text with the lowercase SHA-256 of its exact bytes. -/
structure CanonicalJson where
  json : String
  sha256 : String

section
variable (platform : Platform)

/-- The canonical text of a document and its hash. -/
def CanonicalJson.fromValue (value : Json) : CanonicalJson :=
  let json := platform.jsonText value.canonicalValue
  ⟨json, lowerHex (platform.sha256 json)⟩

/-- The canonical text of a document. -/
def canonicalJson (value : Json) : String := (CanonicalJson.fromValue platform value).json

/-- Parse stored text, reporting a malformed document. -/
def readJson (text : String) : Except AppError Json :=
  match platform.jsonRead text with
  | some value => .ok value
  | none => .error (.serialization text)

/-- Validate that persisted JSON is canonical and matches its immutable digest. -/
def CanonicalJson.fromStored (json expectedSha256 : String) : Except AppError CanonicalJson := do
  let value ← readJson platform json
  let canonical := CanonicalJson.fromValue platform value
  if canonical.json ≠ json ∨ canonical.sha256 ≠ expectedSha256 then
    .error (.config "stored operation payload failed canonical integrity validation")
  else .ok canonical

/-- Parse stored JSON that must be its own canonical text. -/
def parseCanonicalJson (json : String) : Except AppError Json := do
  let value ← readJson platform json
  if canonicalJson platform value ≠ json then
    .error (.config "stored operation JSON is not canonical")
  else .ok value

/-- Load the projection of one row. -/
def rowToOperation (row : OperationRow) : Except AppError OperationRecord := do
  let payload ← CanonicalJson.fromStored platform row.payloadJson row.payloadHash
  let payload ← readJson platform payload.json
  let provenance ← parseCanonicalJson platform row.actorProvenanceJson
  let provenance ← match OperationActorProvenance.ofJson provenance with
    | some provenance => .ok provenance
    | none => .error (.serialization row.actorProvenanceJson)
  let preview ← parseCanonicalJson platform row.previewJson
  let policySnapshot ← parseCanonicalJson platform row.policySnapshotJson
  .ok { row.toOperationColumns with provenance, payload, preview, policySnapshot }

/-- Load one event. -/
def rowToEvent (row : EventRow) : Except AppError OperationEventRecord := do
  let details ← parseCanonicalJson platform row.eventJson
  .ok { row with details }

end

/-- The event kind that records a transition. -/
def transitionEventKind : OperationState → OperationEventKind
  | planned | ready => .planned
  | pendingApproval => .approvalRequested
  | approved => .approved
  | rejected => .rejected
  | expired => .expired
  | cancelled => .cancelled
  | executing => .executionStarted
  | succeeded => .succeeded
  | failed => .failed
  | outcomeUnknown => .outcomeUnknown

/-- Only the claim of an execution is recorded as `executionStarted`. -/
theorem transition_event_kind_started {target : OperationState} :
    transitionEventKind target = .executionStarted ↔ target = executing := by
  cases target <;> decide

/-- The fields that an event's hash covers. -/
structure EventHashInput where
  eventId : Uuid
  operationId : Uuid
  sequence : Int
  kind : OperationEventKind
  state : OperationState
  eventJson : String
  createdAt : DateTime
  prevHash : Option String

/-- An absent value is written as `null`. -/
def optionalText : Option String → Json
  | none => .null
  | some text => .str text

/-- The document that an event's hash covers. -/
def EventHashInput.toJson (platform : Platform) (input : EventHashInput) : Json :=
  .obj [("createdAt", .str (platform.rfc3339 input.createdAt)),
    ("eventId", .str input.eventId.text),
    ("eventJson", .str input.eventJson),
    ("eventKind", .str (eventKindStr input.kind)),
    ("operationId", .str input.operationId.text),
    ("prevHash", optionalText input.prevHash),
    ("sequence", .int input.sequence),
    ("state", .str (stateStr input.state))]

/-- The text that is hashed for an event. -/
def eventText (platform : Platform) (input : EventHashInput) : String :=
  canonicalJson platform (input.toJson platform)

/-- The lowercase SHA-256 of the canonical event document. -/
def eventHash (platform : Platform) (input : EventHashInput) : String :=
  lowerHex (platform.sha256 (eventText platform input))

/-- Validated input together with the canonical texts the store will hold. -/
structure PreparedOperation where
  runtimeId : Uuid
  operation : NewOperation
  payload : CanonicalJson
  actorProvenanceJson : String
  previewJson : String
  policySnapshotJson : String

/-- A text is a lowercase SHA-256. -/
def isLowerSha256 (value : String) : Bool :=
  value.utf8ByteSize == 64 && value.toList.all fun c => c.isDigit || ('a' ≤ c && c ≤ 'f')

/-- The texts that must not be blank, with the names their errors use. -/
def requiredTexts (operation : NewOperation) : List (String × String) :=
  [("account scope", operation.accountScope),
    ("actor id", operation.actor.id),
    ("actor origin surface", operation.actor.provenance.originSurface),
    ("policy revision", operation.policyRevision),
    ("idempotency key", operation.idempotencyKey)]

/-- Reject an incomplete or malformed plan. -/
def validateNewOperation (operation : NewOperation) : Except AppError Unit :=
  match (requiredTexts operation).find? fun entry => isBlank entry.2 with
  | some (name, _) => .error (.config ("operation " ++ name ++ " cannot be empty"))
  | none =>
    if operation.connectionRevision < 1 then
      .error (.config "operation connection revision must be positive")
    else if operation.payloadSchemaVersion = 0 then
      .error (.config "operation payload schema version must be positive")
    else if operation.schemaFingerprint.any fun value => !isLowerSha256 value then
      .error (.config "operation schema fingerprint must be lowercase SHA-256")
    else .ok ()

section
variable (platform : Platform)

/-- Validate a plan and derive the texts and the hash that will be stored. -/
def PreparedOperation.new (runtimeId : Uuid) (operation : NewOperation) :
    Except AppError PreparedOperation := do
  validateNewOperation operation
  let payload := CanonicalJson.fromValue platform operation.payload
  if payload.json.utf8ByteSize > MAX_REQUEST_BYTES then
    .error (.config "operation payload exceeds the local control-message limit")
  else
    let actorProvenanceJson := canonicalJson platform operation.actor.provenance.toJson
    let previewJson := canonicalJson platform operation.preview
    let policySnapshotJson := canonicalJson platform operation.policySnapshot
    let metadataBytes := actorProvenanceJson.utf8ByteSize + previewJson.utf8ByteSize +
      policySnapshotJson.utf8ByteSize
    if metadataBytes > MAX_RESPONSE_BYTES then
      .error (.config "operation metadata exceeds the local control-message limit")
    else
      .ok { runtimeId, operation, payload, actorProvenanceJson, previewJson, policySnapshotJson }

end

/-- Documents of `serde_json` are equal up to the order of object members. -/
def sameValue (v v' : Json) : Bool := v.canonicalValue == v'.canonicalValue

/-- The stored operation is the one being planned again. -/
def PreparedOperation.matches (prepared : PreparedOperation) (existing : OperationRecord) : Bool :=
  let operation := prepared.operation
  -- the id is not compared, for a repeated plan comes with a fresh one
  existing.runtimeId == prepared.runtimeId
    && existing.workspaceId == operation.workspaceId
    && existing.accountScope == operation.accountScope
    && existing.connectionId == operation.connectionId
    && existing.connectionRevision == operation.connectionRevision
    && existing.terminalSessionId == operation.terminalSessionId
    && existing.actor == operation.actor
    && existing.kind == operation.kind
    && existing.payloadSchemaVersion == operation.payloadSchemaVersion
    && existing.payloadHash == prepared.payload.sha256
    && existing.schemaFingerprint == operation.schemaFingerprint
    && existing.riskLevel == operation.riskLevel
    && sameValue existing.preview operation.preview
    && sameValue existing.policySnapshot operation.policySnapshot
    && existing.policyRevision == operation.policyRevision
    && existing.singleUse == operation.singleUse
    && existing.idempotencyKey == operation.idempotencyKey
    && existing.expiresAt == operation.expiresAt

/-- The row that a prepared plan inserts. -/
def PreparedOperation.toRow (prepared : PreparedOperation) (createdAt : DateTime) : OperationRow :=
  let operation := prepared.operation
  { id := operation.id
    runtimeId := prepared.runtimeId
    workspaceId := operation.workspaceId
    accountScope := operation.accountScope
    connectionId := operation.connectionId
    connectionRevision := operation.connectionRevision
    terminalSessionId := operation.terminalSessionId
    actorKind := operation.actor.kind
    actorId := operation.actor.id
    kind := operation.kind
    payloadSchemaVersion := operation.payloadSchemaVersion
    payloadHash := prepared.payload.sha256
    schemaFingerprint := operation.schemaFingerprint
    riskLevel := operation.riskLevel
    policyRevision := operation.policyRevision
    state := planned
    singleUse := operation.singleUse
    idempotencyKey := operation.idempotencyKey
    expiresAt := operation.expiresAt
    startedAt := none
    finishedAt := none
    createdAt := createdAt
    updatedAt := createdAt
    actorProvenanceJson := prepared.actorProvenanceJson
    payloadJson := prepared.payload.json
    previewJson := prepared.previewJson
    policySnapshotJson := prepared.policySnapshotJson }

/-- A prepared plan is the plan it was made from. -/
theorem prepared_operation {platform : Platform} {runtimeId : Uuid} {operation : NewOperation}
    {prepared : PreparedOperation}
    (h : PreparedOperation.new platform runtimeId operation = .ok prepared) :
    prepared.operation = operation := by
  obtain ⟨u, -, h⟩ := except_bind_ok.mp h
  simp only at h
  split at h
  · cases h
  · split at h
    · cases h
    · cases h
      rfl

/-- The JSON columns of a row load: the payload is canonical and has the stored hash, and the
other texts are canonical. -/
structure LoadsJson (platform : Platform) (row : OperationRow)
    (provenance : OperationActorProvenance) (payload preview policySnapshot : Json) : Prop where
  payload : ∃ canonical, CanonicalJson.fromStored platform row.payloadJson row.payloadHash =
    .ok canonical ∧ readJson platform canonical.json = .ok payload
  provenance : ∃ doc, parseCanonicalJson platform row.actorProvenanceJson = .ok doc ∧
    OperationActorProvenance.ofJson doc = some provenance
  preview : parseCanonicalJson platform row.previewJson = .ok preview
  policySnapshot : parseCanonicalJson platform row.policySnapshotJson = .ok policySnapshot

/-- A loaded operation has the columns of its row and the documents of its JSON columns. -/
theorem row_to_operation_ok {platform : Platform} {row : OperationRow} {record : OperationRecord} :
    rowToOperation platform row = .ok record ↔
      record.toOperationColumns = row.toOperationColumns ∧ LoadsJson platform row
        record.provenance record.payload record.preview record.policySnapshot := by
  constructor
  · intro h
    obtain ⟨canonical, hstored, h⟩ := except_bind_ok.mp h
    obtain ⟨payload, hpayload, h⟩ := except_bind_ok.mp h
    obtain ⟨doc, hdoc, h⟩ := except_bind_ok.mp h
    cases hprovenance : OperationActorProvenance.ofJson doc with
    | none => simp [hprovenance, bind, Except.bind] at h
    | some provenance =>
        simp only [hprovenance] at h
        obtain ⟨_, hread, h⟩ := except_bind_ok.mp h
        obtain ⟨preview, hpreview, h⟩ := except_bind_ok.mp h
        obtain ⟨policySnapshot, hpolicy, h⟩ := except_bind_ok.mp h
        cases hread
        cases h
        exact ⟨rfl, ⟨canonical, hstored, hpayload⟩, ⟨doc, hdoc, hprovenance⟩, hpreview, hpolicy⟩
  · rintro ⟨hcolumns, ⟨canonical, hstored, hpayload⟩, ⟨doc, hdoc, hprovenance⟩, hpreview, hpolicy⟩
    cases record
    cases hcolumns
    simp [rowToOperation, hstored, hpayload, hdoc, hprovenance, hpreview, hpolicy, bind,
      Except.bind]

/-- Whether a row loads depends only on its JSON columns and its payload hash. -/
theorem row_to_operation_congr {platform : Platform} {row row' : OperationRow}
    {record : OperationRecord} (hpayload : row'.payloadJson = row.payloadJson)
    (hhash : row'.payloadHash = row.payloadHash)
    (hprovenance : row'.actorProvenanceJson = row.actorProvenanceJson)
    (hpreview : row'.previewJson = row.previewJson)
    (hpolicy : row'.policySnapshotJson = row.policySnapshotJson)
    (h : rowToOperation platform row = .ok record) :
    ∃ record', rowToOperation platform row' = .ok record' := by
  obtain ⟨-, hloads⟩ := row_to_operation_ok.mp h
  refine ⟨{ record with toOperationColumns := row'.toOperationColumns },
    row_to_operation_ok.mpr ⟨rfl, ?_, ?_, ?_, ?_⟩⟩
  · rw [hpayload, hhash]
    exact hloads.payload
  · rw [hprovenance]
    exact hloads.provenance
  · rw [hpreview]
    exact hloads.preview
  · rw [hpolicy]
    exact hloads.policySnapshot

/-- An event loads to its columns and the document of its details. -/
theorem row_to_event_ok {platform : Platform} {row : EventRow} {event : OperationEventRecord} :
    rowToEvent platform row = .ok event ↔
      parseCanonicalJson platform row.eventJson = .ok event.details ∧
        event = { row with details := event.details } := by
  simp only [rowToEvent, except_bind_ok, Except.ok.injEq]
  constructor
  · rintro ⟨details, hparse, rfl⟩
    exact ⟨hparse, rfl⟩
  · rintro ⟨hparse, hevent⟩
    exact ⟨_, hparse, hevent.symm⟩

/-- The text that was parsed is the canonical text of the parsed document. -/
theorem canonical_json_of_parse {platform : Platform} {json : String} {value : Json}
    (h : parseCanonicalJson platform json = .ok value) : canonicalJson platform value = json := by
  obtain ⟨parsed, -, h⟩ := except_bind_ok.mp h
  split at h
  · cases h
  · next hcanonical =>
      cases h
      exact not_not.mp hcanonical

end Dopedb.Operations
