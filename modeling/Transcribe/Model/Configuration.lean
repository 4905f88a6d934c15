import Transcribe.Model.UrlPrefix

/-!
# All of the settings

The whole of `Settings` (`config/settings.py`): besides the fields of `SettingsFields` those that no
rule reads, with their validators and bounds. The values given are of their fields' types already
(the texts of enumerations in their spelling), and the floats are finite. `auth_jwt_algorithm` has one
value and is left out.
-/

namespace Transcribe

inductive CompressionType | none | gzip | snappy | lz4 | zstd
deriving DecidableEq

inductive LogLevel | critical | error | warning | info | debug
deriving DecidableEq

inductive LogFormat | json | console | auto
deriving DecidableEq

def defaultKafkaTopic : String := "AI_STAGING_TRANSCRIPTION"

/-- The values given. -/
structure ConfigurationFields extends SettingsFields where
  redisUsername : Option String := none
  redisPassword : Option String := none
  redisSslCheckHostname : Bool := false
  redisMaxConnections : ℤ := 100
  kafkaTopic : String := defaultKafkaTopic
  kafkaCompressionType : CompressionType := .zstd
  kafkaAwsDebugCreds : Bool := false
  kafkaSendTimeoutSec : ℚ := 2
  kafkaLingerMs : ℤ := 1
  kafkaBatchSize : ℤ := 32768
  wsPingInterval : ℚ := 20
  wsPingTimeout : ℚ := 10
  httpPort : ℤ := 8080
  httpBacklog : ℤ := 4096
  httpEnableDocs : Bool := false
  urlPathPrefix : String := ""
  wsMaxConnections : ℤ := 0
  kafkaStartupTimeoutSec : ℚ := 30
  stopTimeout : ℚ := 120
  logLevel : LogLevel := .info
  logFormat : LogFormat := .auto
  suppressHealthAccessLogs : Bool := false
  logWsErrorFrames : Bool := false
  logSlowMessageThresholdMs : ℚ := 0

/-- Validated settings. -/
structure Configuration extends Settings where
  redisUsername : Option String
  redisPassword : Option String
  redisSslCheckHostname : Bool
  redisMaxConnections : { n : ℕ // 0 < n }
  kafkaTopic : String
  kafkaCompressionType : CompressionType
  kafkaAwsDebugCreds : Bool
  kafkaSendTimeoutSec : { x : ℚ // 0 < x }
  kafkaLingerMs : ℕ
  kafkaBatchSize : { n : ℕ // 0 < n }
  wsPingInterval : { x : ℚ // 0 < x }
  wsPingTimeout : { x : ℚ // 0 < x }
  httpPort : { n : ℕ // 1 ≤ n ∧ n ≤ 65535 }
  httpBacklog : { n : ℕ // 0 < n }
  httpEnableDocs : Bool
  urlPathPrefix : String
  wsMaxConnections : ℕ
  kafkaStartupTimeoutSec : { x : ℚ // 0 < x }
  stopTimeout : { x : ℚ // 0 < x }
  logLevel : LogLevel
  logFormat : LogFormat
  suppressHealthAccessLogs : Bool
  logWsErrorFrames : Bool
  logSlowMessageThresholdMs : { x : ℚ // 0 ≤ x }

/-! ## Field validators -/

/-- `Field(gt=0)` on a float. -/
def positiveFloat (x : ℚ) : Except String { x : ℚ // 0 < x } :=
  if h : 0 < x then .ok ⟨x, h⟩ else .error "Input should be greater than 0"

/-- `Field(ge=0)` on an integer. -/
def nonNegativeInt (n : ℤ) : Except String ℕ :=
  if 0 ≤ n then .ok n.toNat else .error "Input should be greater than or equal to 0"

/-- `Field(ge=0)` on a float. -/
def nonNegativeFloat (x : ℚ) : Except String { x : ℚ // 0 ≤ x } :=
  if h : 0 ≤ x then .ok ⟨x, h⟩ else .error "Input should be greater than or equal to 0"

/-- `Field(ge=1, le=65535)`. -/
def portNumber (n : ℤ) : Except String { n : ℕ // 1 ≤ n ∧ n ≤ 65535 } :=
  if hlow : 1 ≤ n then
    if hhigh : n ≤ 65535 then .ok ⟨n.toNat, by omega⟩
    else .error "Input should be less than or equal to 65535"
  else .error "Input should be greater than or equal to 1"

/-- `_optional_redis_username`. -/
def optionalRedisUsername (value : Option String) : Option String :=
  value.bind fun value => if strip value = "" then none else some (strip value)

/-- `_optional_redis_password`. -/
def optionalRedisPassword (value : Option String) : Option String :=
  value.bind fun value => if strip value = "" then none else some value

def maxUrlPathPrefix : ℕ := 512

/-- `Field(max_length=512)` and `_normalize_url_path_prefix`. -/
def normalizeUrlPathPrefix (value : String) : Except String String :=
  if value.length ≤ maxUrlPathPrefix then normalizeUrlPathPrefixStr value
  else .error "String should have at most 512 characters"

/-! ## Validation -/

/-- The settings that the values given come to, or the text of an error. pydantic reports every error
of the fields, and of the rules one if the fields have none; this is one of those it reports. -/
def Configuration.validate (environ : String → Option String) (f : ConfigurationFields) :
    Except String Configuration := do
  let redisMaxConnections ← positive f.redisMaxConnections
  let kafkaTopic ← rejectBlankString f.kafkaTopic
  let kafkaSendTimeoutSec ← positiveFloat f.kafkaSendTimeoutSec
  let kafkaLingerMs ← nonNegativeInt f.kafkaLingerMs
  let kafkaBatchSize ← positive f.kafkaBatchSize
  let wsPingInterval ← positiveFloat f.wsPingInterval
  let wsPingTimeout ← positiveFloat f.wsPingTimeout
  let httpPort ← portNumber f.httpPort
  let httpBacklog ← positive f.httpBacklog
  let urlPathPrefix ← normalizeUrlPathPrefix f.urlPathPrefix
  let wsMaxConnections ← nonNegativeInt f.wsMaxConnections
  let kafkaStartupTimeoutSec ← positiveFloat f.kafkaStartupTimeoutSec
  let stopTimeout ← positiveFloat f.stopTimeout
  let logSlowMessageThresholdMs ← nonNegativeFloat f.logSlowMessageThresholdMs
  let settings ← Settings.validate environ f.toSettingsFields
  return ⟨settings, optionalRedisUsername f.redisUsername, optionalRedisPassword f.redisPassword,
    f.redisSslCheckHostname, redisMaxConnections, kafkaTopic, f.kafkaCompressionType, f.kafkaAwsDebugCreds,
    kafkaSendTimeoutSec, kafkaLingerMs, kafkaBatchSize, wsPingInterval, wsPingTimeout, httpPort, httpBacklog,
    f.httpEnableDocs, urlPathPrefix, wsMaxConnections, kafkaStartupTimeoutSec, stopTimeout, f.logLevel,
    f.logFormat, f.suppressHealthAccessLogs, f.logWsErrorFrames, logSlowMessageThresholdMs⟩

end Transcribe
