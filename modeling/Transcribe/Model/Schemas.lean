import Mathlib.Data.List.Infix
import Mathlib.Data.Rat.Defs
import Mathlib.Tactic.Common

/-!
# Protocol schemas

The messages of the WebSocket protocol (`schemas/`): the inbound message with its
business rules, the ACK and ERROR frames, the error scenarios with their codes.

An `InboundMessage` carries the constraints of the pydantic models as fields, so a
message that `InboundMessage.model_validate` would reject cannot be built. Validation
itself belongs to pydantic; its outcome is an `InboundMessage` or a `ValidationError`.
-/

namespace Transcribe

/-! ## Constants -/

def wsPath : String := "/ws/v1/realtime-transcriptions"

def maxErrorMessageLen : ℕ := 256

def maxErrorDetailsLen : ℕ := 2048

/-- Python's `s[:n]`. -/
def prefixOf (s : String) (n : ℕ) : String := String.ofList (s.toList.take n)

/-! ## Values -/

/-- A UTC timestamp, in microseconds since the epoch. -/
structure Datetime where
  micros : ℤ
deriving DecidableEq

/-- An ordinary Python exception (`Exception`) with its text. -/
inductive Exc
  | timeoutError (text : String)
  | webSocketDisconnect (text : String)
  | other (text : String)
deriving DecidableEq

/-- `str(e)`. -/
def Exc.str : Exc → String
  | timeoutError t | webSocketDisconnect t | other t => t

/-- A JSON document. Objects keep their keys in order; a key occurs once. -/
inductive Json
  | null
  | bool (b : Bool)
  | int (n : ℤ)
  | float (q : ℚ)
  | str (s : String)
  | arr (l : List Json)
  | obj (l : List (String × Json))

/-- `isinstance(raw_json, dict)`. -/
def Json.isDict : Json → Bool
  | obj _ => true
  | _ => false

/-- `d.get(key)` on an object. -/
def Json.get? : Json → String → Option Json
  | obj l, key => l.lookup key
  | _, _ => none

/-- `raw["metaData"]["conversationId"]` where it is a string. -/
def Json.bodyConversationId (raw : Json) : Option String :=
  match (raw.get? "metaData").bind (·.get? "conversationId") with
  | some (.str s) => some s
  | _ => none

/-! ## Inbound messages (`schemas/request.py`) -/

inductive EventType | sessionOngoing | sessionComplete
deriving DecidableEq

inductive Speaker | agent | customer | system
deriving DecidableEq

structure MetaData where
  conversationId : String
  callStartTimeStamp : Datetime
  callEndTimeStamp : Option Datetime
  eventType : EventType
  conversationId_length : conversationId.length ≤ 64
deriving DecidableEq

/-- `modelFieldsSet` are the keys present in the document. -/
structure Payload where
  sequenceNumber : ℕ
  speaker : Speaker
  transcript : String
  engineProvider : String
  dialect : String
  isFinal : Bool
  speakTimeStamp : Option Datetime
  transcriptGenerateTimeStamp : Option Datetime
  modelFieldsSet : List String
  transcript_length : transcript.length ≤ 8000
  engineProvider_length : engineProvider.length ≤ 64
  dialect_length : dialect.length ≤ 32
deriving DecidableEq

/-- `_check_business_rules`: the text of the `ValueError`, or none. -/
def checkBusinessRules (m : MetaData) (p : Payload) : Option String :=
  match m.eventType with
  | .sessionOngoing =>
    if m.callEndTimeStamp ≠ none then
      some "callEndTimeStamp must be null when eventType=SESSION_ONGOING"
    else if p.speaker ≠ .agent ∧ p.speaker ≠ .customer then
      some "speaker must be Agent or Customer when eventType=SESSION_ONGOING"
    else if p.speakTimeStamp = none then
      some "speakTimeStamp must be provided when eventType=SESSION_ONGOING"
    else if p.transcriptGenerateTimeStamp = none then
      some "transcriptGenerateTimeStamp must be provided when eventType=SESSION_ONGOING"
    else if p.isFinal then none else some "isFinal must be true"
  | .sessionComplete =>
    if m.callEndTimeStamp = none then
      some "callEndTimeStamp must be provided when eventType=SESSION_COMPLETE"
    else if p.speaker ≠ .system then
      some "speaker must be System when eventType=SESSION_COMPLETE"
    else if "speakTimeStamp" ∈ p.modelFieldsSet then
      some "speakTimeStamp must be omitted when eventType=SESSION_COMPLETE"
    else if "transcriptGenerateTimeStamp" ∈ p.modelFieldsSet then
      some "transcriptGenerateTimeStamp must be omitted when eventType=SESSION_COMPLETE"
    else if p.isFinal then none else some "isFinal must be true"

/-- A validated message. -/
structure InboundMessage where
  metaData : MetaData
  payload : Payload
  rules : checkBusinessRules metaData payload = none
deriving DecidableEq

namespace InboundMessage

abbrev conversationId (m : InboundMessage) : String := m.metaData.conversationId

abbrev sequenceNumber (m : InboundMessage) : ℕ := m.payload.sequenceNumber

abbrev eventType (m : InboundMessage) : EventType := m.metaData.eventType

end InboundMessage

/-- pydantic's `ValidationError`: the types of its errors in order, and its text. -/
structure ValidationError where
  types : List String
  str : String

/-! ## Error codes and scenarios -/

inductive ErrorCode
  | E1001 | E1002 | E1003 | E1004 | E1005 | E1006 | E1007 | E1008 | E1009 | E1010 | E1011
deriving DecidableEq

def ErrorCode.value : ErrorCode → String
  | E1001 => "E1001"
  | E1002 => "E1002"
  | E1003 => "E1003"
  | E1004 => "E1004"
  | E1005 => "E1005"
  | E1006 => "E1006"
  | E1007 => "E1007"
  | E1008 => "E1008"
  | E1009 => "E1009"
  | E1010 => "E1010"
  | E1011 => "E1011"

inductive WsCloseCode
  | normal | goingAway | invalidPayload | policyViolation | internalError | tryAgainLater
deriving DecidableEq

def WsCloseCode.value : WsCloseCode → ℕ
  | normal => 1000
  | goingAway => 1001
  | invalidPayload => 1007
  | policyViolation => 1008
  | internalError => 1011
  | tryAgainLater => 1013

def closeCodeForError : ErrorCode → WsCloseCode
  | .E1001 => .invalidPayload
  | .E1002 | .E1003 | .E1004 | .E1005 | .E1006 => .policyViolation
  | .E1007 => .internalError
  | .E1008 | .E1011 => .tryAgainLater
  | _ => .policyViolation

inductive ProtocolErrorScenario
  | missingQueryConversationId
  | serviceDraining
  | connectionLimitExceeded
  | invalidJson
  | invalidEnumValue
  | missingRequiredField
  | invalidFieldType
  | invalidTimestampFormat
  | sequenceOutOfOrder
  | downstreamTimeout
  | downstreamUnavailable
  | orchestratorInternalException
  | transportInternalException
  | conversationIdMismatch
  | businessRuleViolation
  | activeSenderConflict
  | authenticationFailed
deriving DecidableEq

namespace ProtocolErrorScenario

def errorCode : ProtocolErrorScenario → ErrorCode
  | missingQueryConversationId => .E1003
  | serviceDraining => .E1008
  | connectionLimitExceeded => .E1008
  | invalidJson => .E1001
  | invalidEnumValue => .E1002
  | missingRequiredField => .E1003
  | invalidFieldType => .E1004
  | invalidTimestampFormat => .E1005
  | sequenceOutOfOrder => .E1006
  | downstreamTimeout => .E1011
  | downstreamUnavailable => .E1008
  | orchestratorInternalException => .E1007
  | transportInternalException => .E1007
  | conversationIdMismatch => .E1009
  | businessRuleViolation => .E1009
  | activeSenderConflict => .E1009
  | authenticationFailed => .E1010

def message : ProtocolErrorScenario → String
  | missingQueryConversationId => "Missing required field"
  | serviceDraining => "Service draining"
  | connectionLimitExceeded => "Too many connections"
  | invalidJson => "Invalid JSON"
  | invalidEnumValue | missingRequiredField | invalidFieldType | invalidTimestampFormat
  | businessRuleViolation => "Validation failed"
  | sequenceOutOfOrder => "Sequence number out of order"
  | downstreamTimeout => "Downstream timeout"
  | downstreamUnavailable => "Downstream unavailable"
  | orchestratorInternalException | transportInternalException => "Internal server error"
  | conversationIdMismatch => "conversationId mismatch"
  | activeSenderConflict => "Only one sender connection is allowed"
  | authenticationFailed => "Authentication failed"

/-- The details templates without fields. Those with fields are `activeDetails`,
`sequenceDetails` and `mismatchDetails`, and their callers always pass the result. -/
def staticDetails : ProtocolErrorScenario → Option String
  | missingQueryConversationId => some "Query parameter 'conversationId' is required"
  | serviceDraining => some "Server is shutting down, try again later"
  | downstreamTimeout => some "Kafka send timed out"
  | activeSenderConflict =>
    some "another connection is already sending messages for this conversation"
  | _ => none

/-- The details of `connectionLimitExceeded`. -/
def activeDetails (active maxConnections : ℕ) : String :=
  "Active " ++ toString active ++ " >= limit " ++ toString maxConnections

/-- The details of `sequenceOutOfOrder`. -/
def sequenceDetails (sequenceNumber : ℕ) : String :=
  "sequenceNumber=" ++ toString sequenceNumber ++ " is not expected"

/-- The details of `conversationIdMismatch`; `repr` is Python's `repr` of a string. -/
def mismatchDetails (repr : String → String) (expectedConversationId : String) : String :=
  "metaData.conversationId must match query parameter 'conversationId' (" ++
    repr expectedConversationId ++ ")"

def httpStatus : ProtocolErrorScenario → Option ℕ
  | missingQueryConversationId => some 400
  | serviceDraining => some 503
  | connectionLimitExceeded => some 429
  | downstreamUnavailable => some 503
  | activeSenderConflict => some 403
  | authenticationFailed => some 401
  | _ => none

def wsCloseCode : ProtocolErrorScenario → Option WsCloseCode
  | invalidJson => some .invalidPayload
  | invalidEnumValue | missingRequiredField | invalidFieldType | invalidTimestampFormat
  | sequenceOutOfOrder | conversationIdMismatch | businessRuleViolation
  | activeSenderConflict => some .policyViolation
  | downstreamTimeout | downstreamUnavailable => some .tryAgainLater
  | orchestratorInternalException | transportInternalException => some .internalError
  | missingQueryConversationId | serviceDraining | connectionLimitExceeded
  | authenticationFailed => none

/-- Every scenario's close code is the one of its error code. -/
theorem closeCodeForError_errorCode {s : ProtocolErrorScenario} {c : WsCloseCode}
    (h : s.wsCloseCode = some c) : closeCodeForError s.errorCode = c := by
  cases s <;> simp_all [wsCloseCode, errorCode, closeCodeForError]

def name : ProtocolErrorScenario → String
  | missingQueryConversationId => "MISSING_QUERY_CONVERSATION_ID"
  | serviceDraining => "SERVICE_DRAINING"
  | connectionLimitExceeded => "CONNECTION_LIMIT_EXCEEDED"
  | invalidJson => "INVALID_JSON"
  | invalidEnumValue => "INVALID_ENUM_VALUE"
  | missingRequiredField => "MISSING_REQUIRED_FIELD"
  | invalidFieldType => "INVALID_FIELD_TYPE"
  | invalidTimestampFormat => "INVALID_TIMESTAMP_FORMAT"
  | sequenceOutOfOrder => "SEQUENCE_OUT_OF_ORDER"
  | downstreamTimeout => "DOWNSTREAM_TIMEOUT"
  | downstreamUnavailable => "DOWNSTREAM_UNAVAILABLE"
  | orchestratorInternalException => "ORCHESTRATOR_INTERNAL_EXCEPTION"
  | transportInternalException => "TRANSPORT_INTERNAL_EXCEPTION"
  | conversationIdMismatch => "CONVERSATION_ID_MISMATCH"
  | businessRuleViolation => "BUSINESS_RULE_VIOLATION"
  | activeSenderConflict => "ACTIVE_SENDER_CONFLICT"
  | authenticationFailed => "AUTHENTICATION_FAILED"

/-- `require_ws_close_code`, with the `ValueError` of a scenario without one. -/
def requireWsCloseCode (s : ProtocolErrorScenario) : Except Exc WsCloseCode :=
  match s.wsCloseCode with
  | some c => .ok c
  | none => .error (.other (s.name ++ " does not define a WebSocket close code"))

/-- `require_http_status`, with the `ValueError` of a scenario without one. -/
def requireHttpStatus (s : ProtocolErrorScenario) : Except Exc ℕ :=
  match s.httpStatus with
  | some c => .ok c
  | none => .error (.other (s.name ++ " does not define an HTTP status"))

end ProtocolErrorScenario

/-- `"pat" in s`. -/
def contains (s pat : String) : Bool := decide (pat.toList <:+: s.toList)

/-- `_classify_validation_error`: the first error with a category decides. -/
def classifyValidationError (e : ValidationError) : ProtocolErrorScenario :=
  (e.types.findSome? fun t =>
    if contains t "datetime" || contains t "time" || contains t "iso" then
      some .invalidTimestampFormat
    else if contains t "json" then some .invalidJson
    else if contains t "missing" then some .missingRequiredField
    else if contains t "enum" || contains t "literal" then some .invalidEnumValue
    else if t = "extra_forbidden" then some .invalidFieldType
    else if contains t "type" || contains t "int" || contains t "bool" then
      some .invalidFieldType
    else if t = "value_error" then some .businessRuleViolation
    else none).getD .missingRequiredField

/-! ## Responses (`schemas/response.py`) -/

inductive ResponseEventType | transcriptAck | eolAck | error
deriving DecidableEq

structure ErrorDetail where
  code : String
  message : String
  details : Option String
  createdAtTimeStamp : Datetime
deriving DecidableEq

/-- A response frame: `metaData.conversationId` and `metaData.eventType`, and the
payload of an ACK or the error of an ERROR. -/
inductive Response
  | ack (conversationId : String) (eventType : ResponseEventType) (sequenceNumber : ℕ)
      (createdAtTimeStamp : Datetime)
  | error (conversationId : String) (error : ErrorDetail)
deriving DecidableEq

/-- `metaData.conversationId`. -/
def Response.conversationId : Response → String
  | ack c _ _ _ => c
  | error c _ => c

/-- `metaData.eventType`. -/
def Response.eventType : Response → ResponseEventType
  | ack _ t _ _ => t
  | error _ _ => .error

/-- `_build_success_response`, at the time `now`. -/
def buildSuccessResponse (now : Datetime) (conversationId : String) (sequenceNumber : ℕ)
    (eventType : ResponseEventType) : Response :=
  .ack conversationId eventType sequenceNumber now

def buildTranscriptAck (now : Datetime) (conversationId : String) (sequenceNumber : ℕ) : Response :=
  buildSuccessResponse now conversationId sequenceNumber .transcriptAck

def buildEolAck (now : Datetime) (conversationId : String) (sequenceNumber : ℕ) : Response :=
  buildSuccessResponse now conversationId sequenceNumber .eolAck

def buildError (now : Datetime) (conversationId code message : String) (details : Option String) :
    Response :=
  .error conversationId ⟨code, message, details, now⟩

/-- `ProtocolErrorScenario.build_response`. -/
def ProtocolErrorScenario.buildResponse (s : ProtocolErrorScenario) (now : Datetime)
    (conversationId : String) (details : Option String) : Response :=
  buildError now conversationId s.errorCode.value s.message (details.or s.staticDetails)

end Transcribe
