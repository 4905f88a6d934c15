import Transcribe.Model.Orchestrator

/-!
# Messages as JSON documents

`InboundMessage.model_validate` on a document, and the document of a Kafka value. What
pydantic makes of a single JSON value is a parameter; which fields a model has, which of
them may be missing, their bounds and what is done with the keys present is here.
-/

namespace Transcribe

/-- How pydantic reads a JSON value as a field, and writes a timestamp. -/
structure Pydantic where
  readStr : Json → Option String
  readInt : Json → Option ℤ
  readBool : Json → Option Bool
  /-- with `_ensure_utc_timestamp` -/
  readDatetime : Json → Option Datetime
  encodeDatetime : Datetime → String
  /-- `format_utc_timestamp` -/
  formatUtcTimestamp : Datetime → String

/-- A value of a field's own JSON type is read as it is, and a timestamp as it was written. -/
structure Pydantic.Faithful (P : Pydantic) : Prop where
  str : ∀ s, P.readStr (.str s) = some s
  int : ∀ n, P.readInt (.int n) = some n
  bool : ∀ b, P.readBool (.bool b) = some b
  datetime : ∀ t, P.readDatetime (.str (P.encodeDatetime t)) = some t

/-! ## Enumerations -/

def EventType.value : EventType → String
  | sessionOngoing => "SESSION_ONGOING"
  | sessionComplete => "SESSION_COMPLETE"

def EventType.all : List EventType := [.sessionOngoing, .sessionComplete]

def Speaker.value : Speaker → String
  | agent => "Agent"
  | customer => "Customer"
  | system => "System"

def Speaker.all : List Speaker := [.agent, .customer, .system]

/-- The member of an enumeration with this value. -/
def readEnum {α : Type} (all : List α) (value : α → String) : Json → Option α
  | .str s => all.find? fun a => decide (value a = s)
  | _ => none

/-! ## Fields -/

/-- The keys of an object that has no key but `fields` (`extra="forbid"`). -/
def declaredKeys (fields : List String) : Json → Option (List String)
  | .obj l => if ∀ k ∈ l.map Prod.fst, k ∈ fields then some (l.map Prod.fst) else none
  | _ => none

/-- A required field. -/
def readField {α : Type} (raw : Json) (key : String) (read : Json → Option α) : Option α :=
  (raw.get? key).bind read

/-- An `Optional` field with the default `None`. -/
def readOptionalField {α : Type} (raw : Json) (key : String) (read : Json → Option α) : Option (Option α) :=
  match raw.get? key with
  | none | some .null => some none
  | some j => (read j).map some

/-- `Field(..., max_length=n)`. -/
def atMost (n : ℕ) (s : String) : Option { s : String // s.length ≤ n } :=
  if h : s.length ≤ n then some ⟨s, h⟩ else none

/-- `Field(..., ge=0)`. -/
def nonNegative (n : ℤ) : Option ℕ := if 0 ≤ n then some n.toNat else none

def encodeOptional (P : Pydantic) : Option Datetime → Json
  | none => .null
  | some t => .str (P.encodeDatetime t)

/-! ## Models -/

namespace MetaData

def modelFields : List String := ["conversationId", "callStartTimeStamp", "callEndTimeStamp", "eventType"]

def modelValidate (P : Pydantic) (raw : Json) : Option MetaData := do
  let _ ← declaredKeys modelFields raw
  let conversationId ← (← readField raw "conversationId" P.readStr) |> atMost 64
  let callStartTimeStamp ← readField raw "callStartTimeStamp" P.readDatetime
  let callEndTimeStamp ← readOptionalField raw "callEndTimeStamp" P.readDatetime
  let eventType ← readField raw "eventType" (readEnum EventType.all EventType.value)
  return ⟨conversationId, callStartTimeStamp, callEndTimeStamp, eventType, conversationId.2⟩

/-- `model_dump(mode="json")`. -/
def modelDump (P : Pydantic) (m : MetaData) : Json := .obj
  [("conversationId", .str m.conversationId), ("callStartTimeStamp", .str (P.encodeDatetime m.callStartTimeStamp)),
    ("callEndTimeStamp", encodeOptional P m.callEndTimeStamp), ("eventType", .str m.eventType.value)]

end MetaData

namespace Payload

def modelFields : List String := ["sequenceNumber", "speaker", "transcript", "engineProvider", "dialect",
  "isFinal", "speakTimeStamp", "transcriptGenerateTimeStamp"]

/-- `model_fields_set` are the keys present. -/
def modelValidate (P : Pydantic) (raw : Json) : Option Payload := do
  let keys ← declaredKeys modelFields raw
  let sequenceNumber ← (← readField raw "sequenceNumber" P.readInt) |> nonNegative
  let speaker ← readField raw "speaker" (readEnum Speaker.all Speaker.value)
  let transcript ← (← readField raw "transcript" P.readStr) |> atMost 8000
  let engineProvider ← (← readField raw "engineProvider" P.readStr) |> atMost 64
  let dialect ← (← readField raw "dialect" P.readStr) |> atMost 32
  let isFinal ← readField raw "isFinal" P.readBool
  let speakTimeStamp ← readOptionalField raw "speakTimeStamp" P.readDatetime
  let transcriptGenerateTimeStamp ← readOptionalField raw "transcriptGenerateTimeStamp" P.readDatetime
  return ⟨sequenceNumber, speaker, transcript, engineProvider, dialect, isFinal, speakTimeStamp,
    transcriptGenerateTimeStamp, keys, transcript.2, engineProvider.2, dialect.2⟩

def modelDump (P : Pydantic) (p : Payload) : Json := .obj
  [("sequenceNumber", .int p.sequenceNumber), ("speaker", .str p.speaker.value), ("transcript", .str p.transcript),
    ("engineProvider", .str p.engineProvider), ("dialect", .str p.dialect), ("isFinal", .bool p.isFinal),
    ("speakTimeStamp", encodeOptional P p.speakTimeStamp),
    ("transcriptGenerateTimeStamp", encodeOptional P p.transcriptGenerateTimeStamp)]

/-- `==` of pydantic: it compares the fields, not which of them were set. -/
def Equal (p q : Payload) : Prop := { p with modelFieldsSet := [] } = { q with modelFieldsSet := [] }

end Payload

namespace InboundMessage

def modelValidate (P : Pydantic) (raw : Json) : Option InboundMessage := do
  let _ ← declaredKeys ["metaData", "payload"] raw
  let m ← readField raw "metaData" (MetaData.modelValidate P)
  let p ← readField raw "payload" (Payload.modelValidate P)
  match h : checkBusinessRules m p with
  | none => some ⟨m, p, h⟩
  | some _ => none

def Equal (m m' : InboundMessage) : Prop := m.metaData = m'.metaData ∧ m.payload.Equal m'.payload

end InboundMessage

/-! ## Kafka values -/

/-- The value `to_kafka_payload` returns. -/
def KafkaPayload.document (P : Pydantic) (k : KafkaPayload) : Json := .obj
  [("metaData", k.metaData.modelDump P), ("payload", k.payload.modelDump P),
    ("enrich", .obj [("eventProduceTimestamp", .str (P.formatUtcTimestamp k.eventProduceTimestamp))])]

/-- The `metaData` and `payload` of a Kafka value. -/
def requestPart (value : Json) : Json := .obj
  [("metaData", (value.get? "metaData").getD .null), ("payload", (value.get? "payload").getD .null)]

end Transcribe
