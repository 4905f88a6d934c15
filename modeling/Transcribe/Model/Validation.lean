import Transcribe.Model.Documents

/-!
# Validation in pydantic's lax mode

`InboundMessage.model_validate` with the errors of its `ValidationError`: every field of a model is
checked, then the keys it does not declare, and the business rules once all that is in order.
`Lax` is what pydantic makes of a string or a number where a field has another type; no model
of `schemas/request.py` is strict.
-/

namespace Transcribe

/-! ## Errors -/

/-- Why a string or a number is no timestamp. -/
inductive DatetimeFault | parsing | fromDateParsing | objectInvalid
deriving DecidableEq

/-- The errors the models report. -/
inductive ErrorType
  | missing
  | extraForbidden
  | modelType
  | stringType
  | stringTooLong
  | intType
  | intParsing
  | intParsingSize
  | intFromFloat
  | greaterThanEqual
  | boolType
  | boolParsing
  | enum
  | datetimeType
  | datetime (fault : DatetimeFault)
  | datetimeNotUtc
  | valueError
deriving DecidableEq

/-- The `type` of an error. -/
def ErrorType.value : ErrorType → String
  | missing => "missing"
  | extraForbidden => "extra_forbidden"
  | modelType => "model_type"
  | stringType => "string_type"
  | stringTooLong => "string_too_long"
  | intType => "int_type"
  | intParsing => "int_parsing"
  | intParsingSize => "int_parsing_size"
  | intFromFloat => "int_from_float"
  | greaterThanEqual => "greater_than_equal"
  | boolType => "bool_type"
  | boolParsing => "bool_parsing"
  | enum => "enum"
  | datetimeType => "datetime_type"
  | datetime .parsing => "datetime_parsing"
  | datetime .fromDateParsing => "datetime_from_date_parsing"
  | datetime .objectInvalid => "datetime_object_invalid"
  | datetimeNotUtc => "datetime_not_utc"
  | valueError => "value_error"

/-! ## Conversions -/

/-- A parsed timestamp with the offset from UTC it names, in seconds. -/
structure Timestamp where
  instant : Datetime
  utcoffset : Option ℤ

/-- `_ensure_utc_timestamp`. -/
def ensureUtcTimestamp (t : Timestamp) : Except ErrorType Datetime :=
  if t.utcoffset = some 0 then .ok t.instant else .error .datetimeNotUtc

/-- What pydantic makes of a string or a number in lax mode, and how it writes timestamps and errors.
A number is a Unix time, so in UTC. -/
structure Lax where
  strAsInt : String → Option ℤ
  tooManyDigits : String → Bool
  strAsBool : String → Option Bool
  strAsDatetime : String → Except DatetimeFault Timestamp
  intAsDatetime : ℤ → Except DatetimeFault Datetime
  floatAsDatetime : ℚ → Except DatetimeFault Datetime
  encodeDatetime : Datetime → String
  formatUtcTimestamp : Datetime → String
  /-- `str` of the `ValidationError` of a document -/
  errorText : Json → String

/-- The integers of 64 bits. -/
def isInt64 (n : ℤ) : Bool := decide (-2 ^ 63 ≤ n ∧ n < 2 ^ 63)

/-- A float as an integer (`float_as_int`). -/
def floatAsInt (q : ℚ) : Except ErrorType ℤ :=
  if q.den ≠ 1 then .error .intFromFloat
  else if -2 ^ 63 < q.num ∧ q.num < 2 ^ 63 then .ok q.num
  else .error .intParsingSize

/-- An integer as a boolean. -/
def intAsBool (n : ℤ) : Except ErrorType Bool :=
  if n = 0 then .ok false else if n = 1 then .ok true else .error .boolParsing

namespace Lax

variable (T : Lax)

def readStr : Json → Except ErrorType String
  | .str s => .ok s
  | _ => .error .stringType

def readInt : Json → Except ErrorType ℤ
  | .int n => .ok n
  | .bool b => .ok (if b then 1 else 0)
  | .float q => floatAsInt q
  | .str s =>
    match T.strAsInt s with
    | some n => .ok n
    | none => .error (if T.tooManyDigits s then .intParsingSize else .intParsing)
  | _ => .error .intType

def readBool : Json → Except ErrorType Bool
  | .bool b => .ok b
  | .str s =>
    match T.strAsBool s with
    | some b => .ok b
    | none => .error .boolParsing
  | .int n => if isInt64 n then intAsBool n else .error .boolType
  | .float q =>
    match floatAsInt q with
    | .ok n => intAsBool n
    | .error _ => .error .boolType
  | _ => .error .boolType

/-- A `datetime` field with its validator. -/
def readDatetime : Json → Except ErrorType Datetime
  | .str s => ((T.strAsDatetime s).mapError .datetime).bind ensureUtcTimestamp
  | .int n => (T.intAsDatetime n).mapError .datetime
  | .float q => (T.floatAsDatetime q).mapError .datetime
  | _ => .error .datetimeType

/-- The values read, without the errors. -/
def pydantic : Pydantic where
  readStr j := (readStr j).toOption
  readInt j := (T.readInt j).toOption
  readBool j := (T.readBool j).toOption
  readDatetime j := (T.readDatetime j).toOption
  encodeDatetime := T.encodeDatetime
  formatUtcTimestamp := T.formatUtcTimestamp

end Lax

/-! ## Checks -/

def errorsOf {α : Type} : Except ErrorType α → List ErrorType
  | .ok _ => []
  | .error e => [e]

/-- A field of a model and the errors of its value; one that is not required may be null. -/
structure FieldCheck where
  key : String
  required : Bool
  errors : Json → List ErrorType

def FieldCheck.errorsIn (f : FieldCheck) (raw : Json) : List ErrorType :=
  match raw.get? f.key with
  | none => if f.required then [.missing] else []
  | some .null => if f.required then f.errors .null else []
  | some j => f.errors j

/-- The errors of a model: those of its fields in order, then its extra keys. -/
def objectErrors (fields : List FieldCheck) : Json → List ErrorType
  | .obj l => fields.flatMap (·.errorsIn (.obj l)) ++
      ((l.map Prod.fst).filter fun k => k ∉ fields.map FieldCheck.key).map fun _ => .extraForbidden
  | _ => [.modelType]

/-- `str` with `max_length=n`. -/
def stringErrors (n : ℕ) (j : Json) : List ErrorType :=
  errorsOf do
    let s ← Lax.readStr j
    if s.length ≤ n then return s else throw .stringTooLong

def enumErrors {α : Type} (all : List α) (value : α → String) (j : Json) : List ErrorType :=
  if (readEnum all value j).isSome then [] else [.enum]

/-- `int` with `ge=0`. -/
def Lax.sequenceErrors (T : Lax) (j : Json) : List ErrorType :=
  errorsOf do
    let n ← T.readInt j
    if 0 ≤ n then return n else throw .greaterThanEqual

def Lax.boolErrors (T : Lax) (j : Json) : List ErrorType := errorsOf (T.readBool j)

def Lax.datetimeErrors (T : Lax) (j : Json) : List ErrorType := errorsOf (T.readDatetime j)

def MetaData.checks (T : Lax) : List FieldCheck :=
  [⟨"conversationId", true, stringErrors 64⟩, ⟨"callStartTimeStamp", true, T.datetimeErrors⟩,
    ⟨"callEndTimeStamp", false, T.datetimeErrors⟩, ⟨"eventType", true, enumErrors EventType.all EventType.value⟩]

def Payload.checks (T : Lax) : List FieldCheck :=
  [⟨"sequenceNumber", true, T.sequenceErrors⟩, ⟨"speaker", true, enumErrors Speaker.all Speaker.value⟩,
    ⟨"transcript", true, stringErrors 8000⟩, ⟨"engineProvider", true, stringErrors 64⟩,
    ⟨"dialect", true, stringErrors 32⟩, ⟨"isFinal", true, T.boolErrors⟩,
    ⟨"speakTimeStamp", false, T.datetimeErrors⟩, ⟨"transcriptGenerateTimeStamp", false, T.datetimeErrors⟩]

namespace InboundMessage

def checks (T : Lax) : List FieldCheck :=
  [⟨"metaData", true, objectErrors (MetaData.checks T)⟩, ⟨"payload", true, objectErrors (Payload.checks T)⟩]

/-- The error of the business rules, for a document whose parts are valid. -/
def ruleErrors (T : Lax) (raw : Json) : List ErrorType :=
  match readField raw "metaData" (MetaData.modelValidate T.pydantic),
    readField raw "payload" (Payload.modelValidate T.pydantic) with
  | some m, some p => if (checkBusinessRules m p).isSome then [.valueError] else []
  | _, _ => []

def errors (T : Lax) (raw : Json) : List ErrorType :=
  if objectErrors (checks T) raw = [] then ruleErrors T raw else objectErrors (checks T) raw

end InboundMessage

/-- `InboundMessage.model_validate`. -/
def Lax.modelValidate (T : Lax) (raw : Json) : Except ValidationError InboundMessage :=
  match InboundMessage.modelValidate T.pydantic raw with
  | some m => .ok m
  | none => .error ⟨(InboundMessage.errors T raw).map ErrorType.value, T.errorText raw⟩

end Transcribe
