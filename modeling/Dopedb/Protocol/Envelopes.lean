import Dopedb.Library.JsonMembers
import Dopedb.Protocol.FrameStream

/-!
# Messages of the broker

`dopedb-protocol/src/request.rs`, `response.rs` and `error.rs`: the requests and responses that are
framed, with their derived and custom readers, as instances of `FramePayload` beside plain JSON
values. The `uuid` crate is a parameter: `UuidFormat` carries the law that an identifier is read
back from its text.
-/

namespace Dopedb.Protocol

open Library Library.Json

/-- A `serde_json::Value`, up to the order of members. -/
abbrev Value := { value : Json // value.canonicalValue = value }

/-- The value that is read. -/
def Value.ofJson (value : Json) : Value := ⟨value.canonicalValue, canonical_value_idem value⟩

/-- A value is read back. -/
theorem value_reads_back (value : Value) :
    ReadsBack (fun read => some (Value.ofJson read)) value.val value := by
  intro read hread
  refine congrArg some (Subtype.ext ?_)
  show read.canonicalValue = value.val
  rw [hread, value.property]

/-- `impl FramePayload for Value`. -/
def valuePayload : FramePayload Value where
  validateBeforeEncode value := validateJsonLimits value.val
  serialize value := value.val
  deserialize read := some (Value.ofJson read)
  reads_back := value_reads_back
  checked value hlimited := (validate_json_limits_iff value.val).mpr hlimited

/-- The texts of identifiers. -/
structure UuidFormat (Id : Type) where
  text : Id → String
  read : String → Option Id
  read_text : ∀ id, read (text id) = some id

variable {Id : Type} (uuid : UuidFormat Id)

/-- `Uuid::serialize`. -/
def UuidFormat.write (id : Id) : Json := .str (uuid.text id)

/-- `Uuid::deserialize`. -/
def UuidFormat.readJson : Json → Option Id
  | .str text => uuid.read text
  | _ => none

theorem uuid_reads_back (id : Id) : ReadsBack uuid.readJson (uuid.write id) id :=
  reads_back_str (uuid.read_text id)

/-- `u16::serialize`. -/
def writeU16 (n : UInt16) : Json := .int n.toNat

/-- `u16::deserialize`. -/
def readU16 : Json → Option UInt16
  | .int n => if 0 ≤ n ∧ n < 65536 then some n.toNat.toUInt16 else none
  | _ => none

theorem u16_reads_back (n : UInt16) : ReadsBack readU16 (writeU16 n) n := by
  refine reads_back_int ?_
  have hlt := n.toNat_lt
  rw [readU16, if_pos ⟨by omega, by omega⟩]
  simp

/-- A text is read back. -/
theorem string_reads_back (text : String) :
    ReadsBack (Serde.deserialize (α := String)) (.str text) text := reads_back_str rfl

/-- A truth value is read back. -/
theorem bool_reads_back (b : Bool) : ReadsBack (Serde.deserialize (α := Bool)) (.bool b) b :=
  reads_back_bool rfl

/-! ## Requests -/

/-- `CommandName`. -/
inductive CommandName where
  | version
  | status
  | appOpen
  | skillsList
  | skillsGet
  | skillStatus
  | skillInstall
  | skillRepair
  | skillRemove
  | agentSessionRegister
  | externalAgentConfigCreate
  | externalAgentSessionStart
  | externalAgentSessionRevoke
  | connectionList
  | connectionShow
  | connectionTest
  | databaseList
  | catalogShow
  | catalogSearch
  | schemaList
  | tableDescribe
  | documentRun
  | queryPlan
  | queryRun
  | queryCancel
  | analysisArticlePropose
  | analysisArticleUpdate
  | analysisArticleVerify
  | analysisArticleList
  | sqlPropose
  | operationShow
  | operationWait
  | operationCancel
  | sourceSearch
  | sourceRead
  | environmentContext
  | unknown
  deriving DecidableEq, Repr

/-- `CommandName::ALL`. -/
def CommandName.ALL : List CommandName :=
  [.version, .status, .appOpen, .skillsList, .skillsGet, .skillStatus, .skillInstall, .skillRepair,
    .skillRemove, .agentSessionRegister, .externalAgentConfigCreate, .externalAgentSessionStart,
    .externalAgentSessionRevoke, .connectionList, .connectionShow, .connectionTest, .databaseList,
    .catalogShow, .catalogSearch, .schemaList, .tableDescribe, .documentRun, .queryPlan, .queryRun,
    .queryCancel, .analysisArticlePropose, .analysisArticleUpdate, .analysisArticleVerify,
    .analysisArticleList, .sqlPropose, .operationShow, .operationWait, .operationCancel,
    .sourceSearch, .sourceRead, .environmentContext]

/-- The name under which a command is written. -/
def CommandName.wireName : CommandName → String
  | .version => "version"
  | .status => "status"
  | .appOpen => "app.open"
  | .skillsList => "skills.list"
  | .skillsGet => "skills.get"
  | .skillStatus => "skill.status"
  | .skillInstall => "skill.install"
  | .skillRepair => "skill.repair"
  | .skillRemove => "skill.remove"
  | .agentSessionRegister => "agent.session.register"
  | .externalAgentConfigCreate => "agent.config.create"
  | .externalAgentSessionStart => "agent.external_session.start"
  | .externalAgentSessionRevoke => "agent.external_session.revoke"
  | .connectionList => "connection.list"
  | .connectionShow => "connection.show"
  | .connectionTest => "connection.test"
  | .databaseList => "database.list"
  | .catalogShow => "catalog.show"
  | .catalogSearch => "catalog.search"
  | .schemaList => "schema.list"
  | .tableDescribe => "table.describe"
  | .documentRun => "document.run"
  | .queryPlan => "query.plan"
  | .queryRun => "query.run"
  | .queryCancel => "query.cancel"
  | .analysisArticlePropose => "analysis_article.propose"
  | .analysisArticleUpdate => "analysis_article.update"
  | .analysisArticleVerify => "analysis_article.verify"
  | .analysisArticleList => "analysis_article.list"
  | .sqlPropose => "sql.propose"
  | .operationShow => "operation.show"
  | .operationWait => "operation.wait"
  | .operationCancel => "operation.cancel"
  | .sourceSearch => "source.search"
  | .sourceRead => "source.read"
  | .environmentContext => "environment.context"
  | .unknown => "Unknown"

/-- `CommandName::deserialize`: every other name is the unknown command. -/
def CommandName.read (value : Json) : Option CommandName :=
  value.variantName.map fun name => (ALL.find? fun command => command.wireName == name).getD .unknown

theorem command_reads_back (command : CommandName) :
    ReadsBack CommandName.read (.str command.wireName) command := by
  refine reads_back_str ?_
  cases command <;> decide

/-- `SessionAuthentication`. -/
structure SessionAuthentication (Id : Type) where
  terminalSessionId : Id
  token : Option String

/-- `RequestEnvelope`. -/
structure RequestEnvelope (Id : Type) where
  protocolVersion : UInt16
  commandSchemaVersion : UInt16
  requestId : Id
  authentication : Option (SessionAuthentication Id)
  command : CommandName
  arguments : Value

/-- The member names of `SessionAuthentication`. -/
def SessionAuthentication.NAMES : List String := ["terminalSessionId", "token"]

/-- `SessionAuthentication::serialize`. -/
def SessionAuthentication.write (authentication : SessionAuthentication Id) : Json :=
  record [("terminalSessionId", some (uuid.write authentication.terminalSessionId)),
    ("token", authentication.token.map Json.str)]

/-- `SessionAuthentication::deserialize`. -/
def SessionAuthentication.read (value : Json) : Option (SessionAuthentication Id) :=
  (readRecord SessionAuthentication.NAMES value).bind fun members =>
    match members with
    | [terminalSessionId, token] => do
      let terminalSessionId ← requiredField uuid.readJson terminalSessionId
      let token ← optionalField Serde.deserialize token
      return { terminalSessionId, token }
    | _ => none

/-- An authentication is read back. -/
theorem authentication_reads_back (authentication : SessionAuthentication Id) :
    ReadsBack (SessionAuthentication.read uuid) (authentication.write uuid) authentication := by
  intro value hvalue
  obtain ⟨members, hread, hsame⟩ :=
    @read_record_any_order SessionAuthentication.NAMES _ _ rfl (by decide) hvalue
  obtain ⟨id, _, rfl, hid, hsame⟩ := List.map_eq_cons_iff.mp hsame
  obtain ⟨token, _, rfl, htoken, hsame⟩ := List.map_eq_cons_iff.mp hsame
  obtain rfl := List.map_eq_nil_iff.mp hsame
  have hid := required_reads_back (uuid_reads_back uuid _) hid
  have htoken := optional_reads_back (fun text _ => string_reads_back text)
    (fun text _ => Json.noConfusion) htoken
  rw [SessionAuthentication.read, hread, Option.bind_some]
  simp only [hid, htoken]
  rfl

/-- The member names of `RequestEnvelope`. -/
def RequestEnvelope.NAMES : List String :=
  ["protocolVersion", "commandSchemaVersion", "requestId", "authentication", "command", "arguments"]

/-- `RequestEnvelope::serialize`. -/
def RequestEnvelope.write (request : RequestEnvelope Id) : Json :=
  record [("protocolVersion", some (writeU16 request.protocolVersion)),
    ("commandSchemaVersion", some (writeU16 request.commandSchemaVersion)),
    ("requestId", some (uuid.write request.requestId)),
    ("authentication", request.authentication.map (SessionAuthentication.write uuid)),
    ("command", some (.str request.command.wireName)),
    ("arguments", some request.arguments.val)]

/-- `RequestEnvelope::deserialize`. -/
def RequestEnvelope.read (value : Json) : Option (RequestEnvelope Id) :=
  (readRecord RequestEnvelope.NAMES value).bind fun members =>
    match members with
    | [protocolVersion, commandSchemaVersion, requestId, authentication, command, arguments] => do
      let protocolVersion ← requiredField readU16 protocolVersion
      let commandSchemaVersion ← requiredField readU16 commandSchemaVersion
      let requestId ← requiredField uuid.readJson requestId
      let authentication ← optionalField (SessionAuthentication.read uuid) authentication
      let command ← requiredField CommandName.read command
      let arguments := Value.ofJson (arguments.getD .null)
      return { protocolVersion, commandSchemaVersion, requestId, authentication, command, arguments }
    | _ => none

/-- A request is read back. -/
theorem request_reads_back (request : RequestEnvelope Id) :
    ReadsBack (RequestEnvelope.read uuid) (request.write uuid) request := by
  intro value hvalue
  obtain ⟨members, hread, hsame⟩ :=
    @read_record_any_order RequestEnvelope.NAMES _ _ rfl (by decide) hvalue
  obtain ⟨protocol, _, rfl, hprotocol, hsame⟩ := List.map_eq_cons_iff.mp hsame
  obtain ⟨schema, _, rfl, hschema, hsame⟩ := List.map_eq_cons_iff.mp hsame
  obtain ⟨id, _, rfl, hid, hsame⟩ := List.map_eq_cons_iff.mp hsame
  obtain ⟨authentication, _, rfl, hauthentication, hsame⟩ := List.map_eq_cons_iff.mp hsame
  obtain ⟨command, _, rfl, hcommand, hsame⟩ := List.map_eq_cons_iff.mp hsame
  obtain ⟨arguments, _, rfl, harguments, hsame⟩ := List.map_eq_cons_iff.mp hsame
  obtain rfl := List.map_eq_nil_iff.mp hsame
  have hprotocol := required_reads_back (u16_reads_back _) hprotocol
  have hschema := required_reads_back (u16_reads_back _) hschema
  have hid := required_reads_back (uuid_reads_back uuid _) hid
  have hauthentication := optional_reads_back
    (fun authentication _ => authentication_reads_back uuid authentication)
    (fun authentication _ => Json.noConfusion) hauthentication
  have hcommand := required_reads_back (command_reads_back _) hcommand
  obtain ⟨present, rfl, hwritten⟩ := @member_present _ request.arguments.val harguments
  have harguments : Value.ofJson present = request.arguments :=
    Option.some.inj (value_reads_back request.arguments present hwritten)
  rw [RequestEnvelope.read, hread, Option.bind_some]
  simp only [hprotocol, hschema, hid, hauthentication, hcommand, Option.getD_some, harguments]
  rfl

/-- A text that may be absent. -/
def validateOptional : Option String → Except FrameError Unit
  | some text => validateString text
  | none => .ok ()

/-- What `validate_before_encode` checks of a request. -/
def RequestEnvelope.validateBeforeEncode (request : RequestEnvelope Id) : Except FrameError Unit :=
  (validateJsonLimits request.arguments.val).bind fun _ =>
    validateOptional (request.authentication.bind SessionAuthentication.token)

/-- A member that is written is among the values in the object. -/
theorem child_of_record {fields : List (String × Option Json)} {name : String} {value : Json}
    (h : (name, some value) ∈ fields) : value ∈ children (record fields) := by
  rw [record, children]
  exact List.mem_map.mpr ⟨(name, value), List.mem_filterMap.mpr ⟨_, h, rfl⟩, rfl⟩

/-- A request within the limits passes the check. -/
theorem request_checked (request : RequestEnvelope Id) (h : Limited (request.write uuid)) :
    request.validateBeforeEncode = .ok () := by
  have harguments : Limited request.arguments.val :=
    h.child (@child_of_record _ "arguments" _ (by simp))
  rw [RequestEnvelope.validateBeforeEncode, (validate_json_limits_iff _).mpr harguments]
  show validateOptional (request.authentication.bind SessionAuthentication.token) = .ok ()
  cases hauthentication : request.authentication with
  | none => rfl
  | some authentication =>
      rw [Option.bind_some]
      cases htoken : authentication.token with
      | none => rfl
      | some token =>
          rw [validateOptional]
          have hinner : Limited (authentication.write uuid) :=
            h.child (@child_of_record _ "authentication" _ (by simp [hauthentication]))
          have htext : Limited (.str token) :=
            hinner.child (@child_of_record _ "token" _ (by simp [htoken]))
          exact (validate_string_iff token).mpr (htext.own (by rw [ownStrings]; simp))

/-- `impl FramePayload for RequestEnvelope`. -/
def requestPayload : FramePayload (RequestEnvelope Id) where
  validateBeforeEncode := RequestEnvelope.validateBeforeEncode
  serialize := RequestEnvelope.write uuid
  deserialize := RequestEnvelope.read uuid
  reads_back := request_reads_back uuid
  checked := request_checked uuid

/-! ## Responses -/

/-- `ErrorCode`. -/
inductive ErrorCode where
  | invalidRequest
  | runtimeUnavailable
  | authenticationDenied
  | scopeDenied
  | policyBlocked
  | operationExpired
  | operationConflict
  | cancelled
  | timeout
  | targetExecutionFailed
  | protocolMismatch
  | responseTooLarge
  | internal
  deriving DecidableEq, Repr

/-- The error codes. -/
def ErrorCode.all : List ErrorCode :=
  [.invalidRequest, .runtimeUnavailable, .authenticationDenied, .scopeDenied, .policyBlocked,
    .operationExpired, .operationConflict, .cancelled, .timeout, .targetExecutionFailed,
    .protocolMismatch, .responseTooLarge, .internal]

/-- The name under which a code is written. -/
def ErrorCode.wireName : ErrorCode → String
  | .invalidRequest => "invalid_request"
  | .runtimeUnavailable => "runtime_unavailable"
  | .authenticationDenied => "authentication_denied"
  | .scopeDenied => "scope_denied"
  | .policyBlocked => "policy_blocked"
  | .operationExpired => "operation_expired"
  | .operationConflict => "operation_conflict"
  | .cancelled => "cancelled"
  | .timeout => "timeout"
  | .targetExecutionFailed => "target_execution_failed"
  | .protocolMismatch => "protocol_mismatch"
  | .responseTooLarge => "response_too_large"
  | .internal => "internal"

/-- `ErrorCode::deserialize`. -/
def ErrorCode.read (value : Json) : Option ErrorCode :=
  value.variantName.bind fun name => all.find? fun code => code.wireName == name

theorem code_reads_back (code : ErrorCode) :
    ReadsBack ErrorCode.read (.str code.wireName) code := by
  refine reads_back_str ?_
  cases code <;> decide

/-- `ErrorCode::safe_message`. -/
def ErrorCode.safeMessage : ErrorCode → String
  | .invalidRequest => "the request is invalid"
  | .runtimeUnavailable => "the DopeDB runtime is unavailable"
  | .authenticationDenied => "runtime authentication was denied"
  | .scopeDenied => "the requested resource is outside the active scope"
  | .policyBlocked => "the operation is blocked by the active safety policy"
  | .operationExpired => "the operation has expired"
  | .operationConflict => "the operation state changed before it could be claimed"
  | .cancelled => "the operation was cancelled"
  | .timeout => "the operation timed out"
  | .targetExecutionFailed => "the target database operation failed"
  | .protocolMismatch => "the client and runtime protocols are incompatible"
  | .responseTooLarge => "the response exceeds the configured limit"
  | .internal => "the DopeDB runtime encountered an internal error"

/-- `ProtocolError`: it is built with the stable message of its code only. -/
structure ProtocolError where
  code : ErrorCode
  message : String
  retryable : Bool
  stable : message = code.safeMessage

/-- The member names of `ProtocolError`. -/
def ProtocolError.NAMES : List String := ["code", "message", "retryable"]

/-- `ProtocolError::serialize`. -/
def ProtocolError.write (error : ProtocolError) : Json :=
  record [("code", some (.str error.code.wireName)), ("message", some (.str error.message)),
    ("retryable", some (.bool error.retryable))]

/-- `ProtocolError::deserialize`. -/
def ProtocolError.read (value : Json) : Option ProtocolError :=
  (readRecord ProtocolError.NAMES value).bind fun members =>
    match members with
    | [code, message, retryable] => do
      let code ← requiredField ErrorCode.read code
      let message : String ← requiredField Serde.deserialize message
      let retryable : Bool ← requiredField Serde.deserialize retryable
      if h : message = code.safeMessage then
        some { code, message, retryable, stable := h }
      else none
    | _ => none

/-- An error is read back. -/
theorem error_reads_back (error : ProtocolError) :
    ReadsBack ProtocolError.read error.write error := by
  intro value hvalue
  obtain ⟨members, hread, hsame⟩ :=
    @read_record_any_order ProtocolError.NAMES _ _ rfl (by decide) hvalue
  obtain ⟨code, _, rfl, hcode, hsame⟩ := List.map_eq_cons_iff.mp hsame
  obtain ⟨message, _, rfl, hmessage, hsame⟩ := List.map_eq_cons_iff.mp hsame
  obtain ⟨retryable, _, rfl, hretryable, hsame⟩ := List.map_eq_cons_iff.mp hsame
  obtain rfl := List.map_eq_nil_iff.mp hsame
  have hcode := required_reads_back (code_reads_back _) hcode
  have hmessage := required_reads_back (string_reads_back _) hmessage
  have hretryable := required_reads_back (bool_reads_back _) hretryable
  rw [ProtocolError.read, hread, Option.bind_some]
  simp only [hcode, hmessage, hretryable, Option.bind_eq_bind, Option.bind_some]
  rw [dif_pos error.stable]

/-- `ResponseEnvelope::validate`. -/
def matchingOutcome (ok : Bool) (result : Option Value) (error : Option ProtocolError) : Bool :=
  match ok, result.isSome, error.isSome with
  | true, true, false => true
  | false, false, true => true
  | _, _, _ => false

/-- `ResponseEnvelope`: it is built with exactly one of a result and an error, as it says. -/
structure ResponseEnvelope (Id : Type) where
  protocolVersion : UInt16
  requestId : Id
  ok : Bool
  result : Option Value
  error : Option ProtocolError
  valid : matchingOutcome ok result error = true

/-- The member names of `ResponseEnvelope`. -/
def ResponseEnvelope.NAMES : List String :=
  ["protocolVersion", "requestId", "ok", "result", "error"]

/-- `ResponseEnvelope::serialize`. -/
def ResponseEnvelope.write (response : ResponseEnvelope Id) : Json :=
  record [("protocolVersion", some (writeU16 response.protocolVersion)),
    ("requestId", some (uuid.write response.requestId)), ("ok", some (.bool response.ok)),
    ("result", response.result.map Subtype.val), ("error", response.error.map ProtocolError.write)]

/-- `ResponseEnvelope::deserialize`. A `null` result is a result, and a `null` error is refused. -/
def ResponseEnvelope.read (value : Json) : Option (ResponseEnvelope Id) :=
  match value with
  | .obj fields =>
    (readRecord ResponseEnvelope.NAMES (.obj fields)).bind fun members =>
      match members with
      | [protocolVersion, requestId, ok, result, error] => do
        let protocolVersion ← requiredField readU16 protocolVersion
        let requestId ← requiredField uuid.readJson requestId
        let ok ← requiredField Serde.deserialize ok
        let present := error.isSome
        let error ← optionalField ProtocolError.read error
        let result := result.map Value.ofJson
        if present = true ∧ error.isNone = true then none
        else if h : matchingOutcome ok result error = true then
          some { protocolVersion, requestId, ok, result, error, valid := h }
        else none
      | _ => none
  | _ => none

/-- A response is read back. -/
theorem response_reads_back (response : ResponseEnvelope Id) :
    ReadsBack (ResponseEnvelope.read uuid) (response.write uuid) response := by
  intro value hvalue
  obtain ⟨fields, rfl, -⟩ := obj_of_canonical hvalue
  obtain ⟨members, hread, hsame⟩ :=
    @read_record_any_order ResponseEnvelope.NAMES _ _ rfl (by decide) hvalue
  obtain ⟨protocol, _, rfl, hprotocol, hsame⟩ := List.map_eq_cons_iff.mp hsame
  obtain ⟨id, _, rfl, hid, hsame⟩ := List.map_eq_cons_iff.mp hsame
  obtain ⟨ok, _, rfl, hok, hsame⟩ := List.map_eq_cons_iff.mp hsame
  obtain ⟨result, _, rfl, hresult, hsame⟩ := List.map_eq_cons_iff.mp hsame
  obtain ⟨error, _, rfl, herror, hsame⟩ := List.map_eq_cons_iff.mp hsame
  obtain rfl := List.map_eq_nil_iff.mp hsame
  have hprotocol := required_reads_back (u16_reads_back _) hprotocol
  have hid := required_reads_back (uuid_reads_back uuid _) hid
  have hok := required_reads_back (bool_reads_back _) hok
  have hpresent : error.isSome = response.error.isSome := by
    have hsome := congrArg Option.isSome herror
    simp only [Option.isSome_map] at hsome
    exact hsome
  have herror := optional_reads_back (fun error _ => error_reads_back error)
    (fun error _ => Json.noConfusion) herror
  have hresult : result.map Value.ofJson = response.result := by
    cases hwritten : response.result with
    | none =>
        rw [hwritten] at hresult
        rw [Option.map_eq_none_iff.mp hresult]
        rfl
    | some written =>
        rw [hwritten] at hresult
        obtain ⟨present, rfl, hpresent⟩ := @member_present _ written.val hresult
        exact value_reads_back written present hpresent
  rw [ResponseEnvelope.read]
  simp only [hread, Option.bind_some, hprotocol, hid, hok, herror, hresult, hpresent,
    Option.bind_eq_bind]
  rw [if_neg ?_, dif_pos response.valid]
  rintro ⟨hsome, hnone⟩
  rw [Option.isNone_iff_eq_none] at hnone
  rw [hnone] at hsome
  cases hsome

/-- What `validate_before_encode` checks of a response. -/
def ResponseEnvelope.validateBeforeEncode (response : ResponseEnvelope Id) :
    Except FrameError Unit :=
  (match response.result with
    | some result => validateJsonLimits result.val
    | none => .ok ()).bind fun _ => validateOptional (response.error.map ProtocolError.message)

/-- A response within the limits passes the check. -/
theorem response_checked (response : ResponseEnvelope Id) (h : Limited (response.write uuid)) :
    response.validateBeforeEncode = .ok () := by
  unfold ResponseEnvelope.validateBeforeEncode
  rw [except_bind_unit]
  constructor
  · cases hresult : response.result with
    | none => rfl
    | some result =>
        have hlimited : Limited result.val :=
          h.child (@child_of_record _ "result" _ (by simp [hresult]))
        exact (validate_json_limits_iff _).mpr hlimited
  · cases herror : response.error with
    | none => rfl
    | some error =>
        have hinner : Limited error.write :=
          h.child (@child_of_record _ "error" _ (by simp [herror]))
        have htext : Limited (.str error.message) :=
          hinner.child (@child_of_record _ "message" _ (by simp))
        exact (validate_string_iff _).mpr (htext.own (by rw [ownStrings]; simp))

/-- `impl FramePayload for ResponseEnvelope`. -/
def responsePayload : FramePayload (ResponseEnvelope Id) where
  validateBeforeEncode := ResponseEnvelope.validateBeforeEncode
  serialize := ResponseEnvelope.write uuid
  deserialize := ResponseEnvelope.read uuid
  reads_back := response_reads_back uuid
  checked := response_checked uuid

/-! ## The frames of the broker -/

/-- The frames of every message type, under any limit: what is written is read back, also one after
the other and in any pieces, and what is cut, followed by more or over the limit is refused. -/
theorem broker_frames_round_trip (serde : SerdeJson) (maximum : Nat) :
    FramesRight serde valuePayload maximum ∧ FramesRight serde (requestPayload uuid) maximum ∧
      FramesRight serde (responsePayload uuid) maximum :=
  ⟨frames_round_trip serde valuePayload maximum, frames_round_trip serde _ maximum,
    frames_round_trip serde _ maximum⟩

/-- A reader of one text. -/
def readerOf (value : Json) : SerdeJson where
  parse bytes :=
    let text := textBytes value.render
    if bytes.take text.length = text then .ok (value, bytes.drop text.length) else .error (1, 0)
  trailingAt bytes := (1, bytes.length)
  chunks value := [textBytes value.render]
  chunks_flatten value := by simp

/-- It reads its text back. -/
theorem reader_of_reads {value : Json} (h : textBytes value.render ≠ []) :
    (readerOf value).Reads value where
  nonempty := h
  parse rest _ := by
    refine ⟨value, ?_, rfl⟩
    show (if (textBytes value.render ++ rest).take (textBytes value.render).length =
        textBytes value.render then _ else _) = _
    rw [List.take_left' rfl, if_pos rfl, List.drop_left' rfl]

/-- A request for the status of the runtime. -/
def statusRequest : RequestEnvelope String where
  protocolVersion := 1
  commandSchemaVersion := 18
  requestId := "00000000-0000-4000-8000-000000000001"
  authentication := none
  command := .status
  arguments := ⟨.obj [], rfl⟩

/-- Identifiers that are their texts. -/
def textIds : UuidFormat String := ⟨id, some, fun _ => rfl⟩

/-- Two status requests are read from one piece. -/
theorem two_requests_read : ∃ frame rest,
    encodeFrame (readerOf (statusRequest.write textIds)) (requestPayload textIds) statusRequest
        requestLimit = .ok frame ∧
      Pieces.readMany (fun stream => (readFrame (readerOf (statusRequest.write textIds))
        (requestPayload textIds) requestLimit stream).outcome) 2 [frame ++ frame ++ [7]] =
          some ([statusRequest, statusRequest], rest) ∧ rest.flatten = [7] := by
  have hreads : (readerOf (statusRequest.write textIds)).Reads (statusRequest.write textIds) :=
    reader_of_reads (by decide)
  have hright := (broker_frames_round_trip textIds (readerOf (statusRequest.write textIds))
    requestLimit).2.1
  have hfits : Fits (requestPayload textIds) requestLimit statusRequest := by
    refine ⟨by decide +kernel, ?_⟩
    exact (validate_json_limits_iff _).mp rfl
  obtain ⟨frame, hframe⟩ := (hright.encodes statusRequest hreads).mpr hfits
  obtain ⟨rest, hmany, hrest⟩ := hright.streams [statusRequest, statusRequest] [frame, frame]
    (.cons ⟨hreads, hframe⟩ (.cons ⟨hreads, hframe⟩ .nil)) [frame ++ frame ++ [7]] [7] (by simp)
  exact ⟨frame, rest, hframe, hmany, hrest⟩

/-- Arrays in one another. -/
def nestedArrays : Nat → Json
  | 0 => .arr []
  | n + 1 => .arr [nestedArrays n]

theorem nested_arrays_canonical (n : Nat) : (nestedArrays n).canonicalValue = nestedArrays n := by
  induction n with
  | zero => rfl
  | succ n ih =>
      rw [nestedArrays, Json.canonicalValue, Json.canonicalItems, Json.canonicalItems, ih]

/-- A short message is refused because of its depth, and a payload with a blank behind its value is
accepted. -/
theorem deep_message_refused :
    (payloadBytes valuePayload ⟨nestedArrays 32, nested_arrays_canonical 32⟩).length ≤
        requestLimit ∧
      encodeFrame (readerOf (nestedArrays 32)) valuePayload
          ⟨nestedArrays 32, nested_arrays_canonical 32⟩ requestLimit =
        .error (.jsonDepth MAX_JSON_DEPTH) ∧
      decodeFrame (readerOf (.arr [])) valuePayload
          (beBytes LENGTH_PREFIX_BYTES 3 ++ (textBytes (Json.arr []).render ++ [0x20]))
          requestLimit = .ok ⟨.arr [], rfl⟩ := by
  refine ⟨by decide +kernel, ?_, ?_⟩
  · have hdeep : validateJsonLimits (nestedArrays 32) = .error (.jsonDepth MAX_JSON_DEPTH) := rfl
    rw [encodeFrame]
    show (validateJsonLimits (nestedArrays 32)).bind _ = _
    rw [hdeep]
    rfl
  · have hlimited : Limited (.arr []) := (validate_json_limits_iff _).mp rfl
    exact decode_frame_iff.mpr ⟨textBytes (Json.arr []).render ++ [0x20], .arr [], by decide,
      by decide, by decide, by decide, by decide, hlimited, rfl⟩

end Dopedb.Protocol
