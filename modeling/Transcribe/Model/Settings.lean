import Mathlib.Data.Rat.Defs
import Mathlib.Tactic.NormNum
import Transcribe.Model.Redis

/-!
# Settings

The fields of `Settings` (`config/settings.py`) that its cross-field rules read, and these rules:
`_apply_environment_rules`, with the validators of the same fields. The other fields, which are checked
one by one, are in `Model/Configuration`. `SettingsFields` are the values given, of their types already;
`Settings` are values that have been validated, and carry what the Redis components rely on.
-/

namespace Transcribe

/-! ## Python's `str.strip` -/

/-- `c.isspace()`. -/
def isSpace (c : Char) : Bool :=
  let n := c.toNat
  (9 ≤ n && n ≤ 13) || (28 ≤ n && n ≤ 32) || n == 0x85 || n == 0xA0 || n == 0x1680 ||
    (0x2000 ≤ n && n ≤ 0x200A) || n == 0x2028 || n == 0x2029 || n == 0x202F || n == 0x205F || n == 0x3000

def strip (s : String) : String :=
  String.ofList (((s.toList.dropWhile isSpace).reverse.dropWhile isSpace).reverse)

/-! ## Fields -/

inductive AppEnv | local | deployed
deriving DecidableEq

inductive KafkaMode | local | awsMsk
deriving DecidableEq

def defaultRedisSequenceStateKeyPrefix : String := "realtime-transcribe-service:expect-transcript-seq-num"

def defaultRedisOwnershipGuardKeyPrefix : String := "realtime-transcribe-service:conversation-owner"

def localRedisUrl : String := "redis://127.0.0.1:6379/0"

def localKafkaBootstrapServers : String := "127.0.0.1:9092"

/-- The values given. -/
structure SettingsFields where
  appEnv : AppEnv
  redisUrl : Option String := none
  redisActiveTtlSec : ℤ := 3600
  redisFinalTtlSec : ℤ := 60
  redisOwnershipGuardTtlSec : ℤ := 30
  redisSequenceStateKeyPrefix : String := defaultRedisSequenceStateKeyPrefix
  redisOwnershipGuardKeyPrefix : String := defaultRedisOwnershipGuardKeyPrefix
  kafkaBootstrapServers : Option String := none
  kafkaMode : KafkaMode := .local
  kafkaSslCaFile : Option String := none
  kafkaAwsRegion : Option String := none
  wsOwnershipGuardRefreshIntervalSec : ℚ := 15
  authEnabled : Bool := false
  authJwtSigningMaterial : Option String := none

/-- Validated settings. -/
structure Settings where
  appEnv : AppEnv
  redisUrl : Option String
  redisActiveTtlSec : ℕ
  redisFinalTtlSec : ℕ
  redisOwnershipGuardTtlSec : ℕ
  redisSequenceStateKeyPrefix : String
  redisOwnershipGuardKeyPrefix : String
  kafkaBootstrapServers : Option String
  kafkaMode : KafkaMode
  kafkaSslCaFile : Option String
  kafkaAwsRegion : Option String
  wsOwnershipGuardRefreshIntervalSec : ℚ
  authEnabled : Bool
  authJwtSigningMaterial : Option String
  redisFinalTtlSec_pos : 0 < redisFinalTtlSec
  redisFinalTtlSec_le : redisFinalTtlSec ≤ redisActiveTtlSec
  redisOwnershipGuardTtlSec_pos : 0 < redisOwnershipGuardTtlSec

/-! ## Field validators -/

/-- `Field(gt=0)` on an integer. -/
def positive (n : ℤ) : Except String { n : ℕ // 0 < n } :=
  if h : 0 < n then .ok ⟨n.toNat, by omega⟩ else .error "Input should be greater than 0"

/-- `_reject_blank_strings`. -/
def rejectBlankString (value : String) : Except String String :=
  if strip value = "" then .error "must not be empty" else .ok (strip value)

def rejectBlankStrings : Option String → Except String (Option String)
  | none => .ok none
  | some value => (rejectBlankString value).map some

/-! ## Rules -/

/-- What `_apply_environment_rules` requires of a deployed service. -/
def deployedRules (redisUrl kafkaBootstrapServers : Option String) (sequencePrefix ownershipPrefix : String) :
    Except String Unit :=
  let missing := (if redisUrl = none then ["REDIS_URL"] else []) ++
    if kafkaBootstrapServers = none then ["KAFKA_BOOTSTRAP_SERVERS"] else []
  if missing ≠ [] then
    .error ("Missing required configuration for APP_ENV=deployed: " ++ ", ".intercalate missing)
  else if sequencePrefix = defaultRedisSequenceStateKeyPrefix then
    .error ("APP_ENV=deployed requires explicit REDIS_SEQUENCE_STATE_KEY_PREFIX " ++
      "matching your Redis/ElastiCache ACL key pattern (defaults are for " ++
      "APP_ENV=local / unscoped Redis only).")
  else if ownershipPrefix = defaultRedisOwnershipGuardKeyPrefix then
    .error ("APP_ENV=deployed requires explicit REDIS_OWNERSHIP_GUARD_KEY_PREFIX " ++
      "matching your Redis/ElastiCache ACL key pattern (defaults are for " ++
      "APP_ENV=local / unscoped Redis only).")
  else .ok ()

/-- The region of a service with `KAFKA_MODE=aws_msk`; `environ` is the process environment. -/
def kafkaRegion (environ : String → Option String) : KafkaMode → Option String → Except String (Option String)
  | .awsMsk, none =>
    let region := strip ((environ "AWS_REGION").getD "")
    let bootstrapRegion := if region = "" then strip ((environ "AWS_DEFAULT_REGION").getD "") else region
    if bootstrapRegion = "" then
      .error ("KAFKA_AWS_REGION must be set, or AWS_REGION/AWS_DEFAULT_REGION " ++
        "must be available, when KAFKA_MODE=aws_msk")
    else .ok (some bootstrapRegion)
  | _, region => .ok region

/-- The settings that the values given come to, or the text of the first error. -/
def Settings.validate (environ : String → Option String) (f : SettingsFields) : Except String Settings := do
  let redisUrl ← rejectBlankStrings f.redisUrl
  let activeTtl ← positive f.redisActiveTtlSec
  let finalTtl ← positive f.redisFinalTtlSec
  let guardTtl ← positive f.redisOwnershipGuardTtlSec
  let sequencePrefix ← rejectBlankString f.redisSequenceStateKeyPrefix
  let ownershipPrefix ← rejectBlankString f.redisOwnershipGuardKeyPrefix
  let kafkaBootstrapServers ← rejectBlankStrings f.kafkaBootstrapServers
  let kafkaSslCaFile ← rejectBlankStrings f.kafkaSslCaFile
  let kafkaAwsRegion ← rejectBlankStrings f.kafkaAwsRegion
  if f.wsOwnershipGuardRefreshIntervalSec ≤ 0 then throw "Input should be greater than 0"
  let authJwtSigningMaterial ← rejectBlankStrings f.authJwtSigningMaterial
  if f.appEnv = .deployed then deployedRules redisUrl kafkaBootstrapServers sequencePrefix ownershipPrefix
  if hle : finalTtl.1 ≤ activeTtl.1 then
    if (guardTtl.1 : ℚ) ≤ f.wsOwnershipGuardRefreshIntervalSec then
      throw "WS_OWNERSHIP_GUARD_REFRESH_INTERVAL_SEC must be < REDIS_OWNERSHIP_GUARD_TTL_SEC"
    if f.authEnabled ∧ authJwtSigningMaterial = none then
      throw "AUTH_JWT_SIGNING_MATERIAL must be set when AUTH_ENABLED=true"
    if f.appEnv = .deployed ∧ f.kafkaMode ≠ .awsMsk then
      throw ("APP_ENV=deployed requires KAFKA_MODE=aws_msk " ++
        "(KAFKA_MODE=local is for local docker-compose only)")
    if f.kafkaMode = .local ∧ kafkaSslCaFile ≠ none then
      throw ("KAFKA_SSL_CA_FILE is only used when KAFKA_MODE=aws_msk; " ++
        "local mode is PLAINTEXT docker-compose only")
    let kafkaAwsRegion ← kafkaRegion environ f.kafkaMode kafkaAwsRegion
    return ⟨f.appEnv, if f.appEnv = .local then some (redisUrl.getD localRedisUrl) else redisUrl, activeTtl,
      finalTtl, guardTtl, sequencePrefix, ownershipPrefix,
      if f.appEnv = .local then some (kafkaBootstrapServers.getD localKafkaBootstrapServers)
      else kafkaBootstrapServers,
      f.kafkaMode, kafkaSslCaFile, kafkaAwsRegion, f.wsOwnershipGuardRefreshIntervalSec, f.authEnabled,
      authJwtSigningMaterial, finalTtl.2, hle, guardTtl.2⟩
  else throw "REDIS_FINAL_TTL_SEC must be <= REDIS_ACTIVE_TTL_SEC"

/-! ## Redis components (`redis/runtime.py`) -/

namespace Settings

variable (s : Settings)

/-- `create_sequence_state_machine`. -/
def createSequenceStateMachine : RedisSequenceStateMachine :=
  ⟨s.redisSequenceStateKeyPrefix, s.redisActiveTtlSec, s.redisFinalTtlSec, s.redisFinalTtlSec_pos,
    s.redisFinalTtlSec_le⟩

/-- `create_ownership_guard`. -/
def createOwnershipGuard : RedisConversationOwnershipGuard :=
  ⟨s.redisOwnershipGuardKeyPrefix, s.redisOwnershipGuardTtlSec, s.redisOwnershipGuardTtlSec_pos⟩

end Settings

end Transcribe
