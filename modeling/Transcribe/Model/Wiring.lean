import Transcribe.Model.Auth
import Transcribe.Model.Configuration
import Transcribe.Model.RedisUrl

/-!
# The wiring

How the steps of `create_runtime_bundle` (`service_runtime.py`) make the clients and the backends of
the service from its settings: `redis/runtime.py` and `redis/async_client.py`,
`producer/runtime.py` and `producer/kafka_connection.py`, `auth/runtime.py`.
-/

namespace Transcribe

/-- Settings, with the fields that no rule reads but the wiring does. -/
structure RuntimeSettings extends Settings where
  redisUsername : Option String := none
  redisPassword : Option String := none
  redisSslCheckHostname : Bool := false
  redisMaxConnections : ℕ := 100
  kafkaTopic : String := defaultKafkaTopic
  kafkaCompressionType : CompressionType := .zstd
  kafkaAwsDebugCreds : Bool := false
  kafkaSendTimeoutSec : ℚ := 2
  kafkaLingerMs : ℕ := 1
  kafkaBatchSize : ℕ := 32768
  authJwtAlgorithm : String := "HS256"

/-- What the wiring reads of the settings; `auth_jwt_algorithm` has one value. -/
def Configuration.toRuntimeSettings (c : Configuration) : RuntimeSettings where
  toSettings := c.toSettings
  redisUsername := c.redisUsername
  redisPassword := c.redisPassword
  redisSslCheckHostname := c.redisSslCheckHostname
  redisMaxConnections := c.redisMaxConnections
  kafkaTopic := c.kafkaTopic
  kafkaCompressionType := c.kafkaCompressionType
  kafkaAwsDebugCreds := c.kafkaAwsDebugCreds
  kafkaSendTimeoutSec := c.kafkaSendTimeoutSec
  kafkaLingerMs := c.kafkaLingerMs
  kafkaBatchSize := c.kafkaBatchSize

/-- `_RedisClientKwargs`. -/
structure RedisClientKwargs where
  decodeResponses : Bool
  maxConnections : ℕ
  sslCheckHostname : Option Bool
  username : Option String
  password : Option String
deriving DecidableEq

/-- What the steps rely on: `urllib.parse`, whether `Redis.from_url` takes a URL with keyword arguments
(it raises for a scheme or a port it does not know), whether `ssl.create_default_context` takes a CA
file, and what `jwt.decode` makes of a token, by signing material and algorithm. -/
structure RuntimeLibrary where
  url : UrlLibrary
  fromUrlTakes : String → RedisClientKwargs → Bool
  sslTakes : Option String → Bool
  lower : String → String
  jwtDecode : String → String → String → JwtOutcome

/-- What the steps raise: an assertion of theirs, an error of theirs, what `urlparse`, what
`Redis.from_url` and what `ssl.create_default_context` raise. -/
inductive WiringExc
  | assertion
  | valueError (text : String)
  | urlparse
  | fromUrl
  | ssl
deriving DecidableEq

/-- `assert value is not None`. -/
def assertSome {α : Type} : Option α → Except WiringExc α
  | some value => .ok value
  | none => .error .assertion

/-! ## Redis -/

/-- What `Redis.from_url` is called with. -/
structure RedisClient where
  url : String
  kwargs : RedisClientKwargs
deriving DecidableEq

/-- The keyword arguments; `tls` tells whether the scheme of the URL is `rediss`. -/
def redisClientKwargs (username password : Option String) (sslCheckHostname decodeResponses : Bool)
    (maxConnections : ℕ) (tls : Bool) : RedisClientKwargs :=
  let u := strip (username.getD "")
  ⟨decodeResponses, maxConnections, if tls then some sslCheckHostname else none,
    if u = "" then none else some u, if password = some "" then none else password⟩

/-- The scheme is `rediss`. -/
def UrlLibrary.isTls (L : UrlLibrary) (parts : SplitResult) : Bool :=
  decide (L.lower parts.scheme = "rediss".toList)

/-- `create_async_redis_client`. -/
def RuntimeLibrary.createAsyncRedisClient (L : RuntimeLibrary) (redisUrl : String)
    (username password : Option String) (sslCheckHostname decodeResponses : Bool) (maxConnections : ℕ) :
    Except WiringExc RedisClient :=
  match L.url.urlsplit redisUrl.toList with
  | none => .error .urlparse
  | some parts =>
    let kwargs := redisClientKwargs username password sslCheckHostname decodeResponses maxConnections
      (L.url.isTls parts)
    if L.fromUrlTakes redisUrl kwargs then .ok ⟨redisUrl, kwargs⟩ else .error .fromUrl

/-! ## Kafka -/

inductive KafkaBrokerConnection
  | localPlaintext
  | awsMskIam (awsRegion : String) (sslCaFile : Option String) (awsDebugCreds : Bool)
deriving DecidableEq

/-- The keyword arguments of `AIOKafkaProducer` that depend on the connection: the CA file of the TLS
context, and the region and the flag of the `MSKTokenProvider`. -/
structure KafkaClientKwargs where
  bootstrapServers : String
  securityProtocol : String
  sslContext : Option (Option String) := none
  saslMechanism : Option String := none
  saslOauthTokenProvider : Option (String × Bool) := none
deriving DecidableEq

/-- `kafka_connection_for_mode`. -/
def kafkaConnectionForMode (mode : KafkaMode) (awsRegion sslCaFile : Option String) (awsDebugCreds : Bool) :
    Except WiringExc KafkaBrokerConnection :=
  match mode with
  | .local => .ok .localPlaintext
  | .awsMsk =>
    match awsRegion with
    | none => .error (.valueError "aws_region is required for KAFKA_MODE=aws_msk")
    | some awsRegion => .ok (.awsMskIam awsRegion sslCaFile awsDebugCreds)

/-- `build_client_kwargs`. -/
def KafkaBrokerConnection.buildClientKwargs (sslTakes : Option String → Bool) (bootstrapServers : String) :
    KafkaBrokerConnection → Except WiringExc KafkaClientKwargs
  | .localPlaintext => .ok { bootstrapServers := bootstrapServers, securityProtocol := "PLAINTEXT" }
  | .awsMskIam awsRegion sslCaFile awsDebugCreds =>
    if sslTakes sslCaFile then
      .ok ⟨bootstrapServers, "SASL_SSL", some sslCaFile, some "OAUTHBEARER", some (awsRegion, awsDebugCreds)⟩
    else .error .ssl

/-- A `KafkaProducer` as it is made. -/
structure KafkaProducerFields where
  bootstrap : String
  topic : String
  connection : KafkaBrokerConnection
  compressionType : CompressionType
  clientKwargs : KafkaClientKwargs
  sendTimeoutSec : ℚ
  lingerMs : ℕ
  batchSize : ℕ

/-! ## The steps -/

namespace RuntimeSettings

variable (L : RuntimeLibrary) (s : RuntimeSettings)

def createSharedRedisClient : Except WiringExc RedisClient := do
  let redisUrl ← assertSome s.redisUrl
  L.createAsyncRedisClient redisUrl s.redisUsername s.redisPassword s.redisSslCheckHostname true
    s.redisMaxConnections

def createKafkaProducer : Except WiringExc KafkaProducerFields := do
  let bootstrapServers ← assertSome s.kafkaBootstrapServers
  let connection ← kafkaConnectionForMode s.kafkaMode s.kafkaAwsRegion s.kafkaSslCaFile s.kafkaAwsDebugCreds
  let clientKwargs ← connection.buildClientKwargs L.sslTakes bootstrapServers
  return ⟨bootstrapServers, s.kafkaTopic, connection, s.kafkaCompressionType, clientKwargs,
    s.kafkaSendTimeoutSec, s.kafkaLingerMs, s.kafkaBatchSize⟩

def createAuthBackend : Option JwtBearerAuthBackend :=
  if s.authEnabled ≠ true then none
  else some ⟨L.lower, L.jwtDecode (s.authJwtSigningMaterial.getD "") s.authJwtAlgorithm⟩

end RuntimeSettings

/-- `RuntimeBundle`, as far as it depends on the settings. -/
structure RuntimeBundle where
  sharedRedisClient : RedisClient
  sequenceStateMachine : RedisSequenceStateMachine
  ownershipGuard : RedisConversationOwnershipGuard
  producer : KafkaProducerFields
  authBackend : Option JwtBearerAuthBackend
  ownershipGuardRefreshIntervalSec : ℚ

/-- `create_runtime_bundle`. Three more of its steps assert that there is a Redis URL. -/
def RuntimeSettings.createRuntimeBundle (L : RuntimeLibrary) (s : RuntimeSettings) :
    Except WiringExc RuntimeBundle := do
  let sharedRedisClient ← s.createSharedRedisClient L
  let _ ← assertSome s.redisUrl
  let _ ← assertSome s.redisUrl
  let producer ← s.createKafkaProducer L
  let _ ← assertSome s.redisUrl
  return ⟨sharedRedisClient, s.createSequenceStateMachine, s.createOwnershipGuard, producer,
    s.createAuthBackend L, s.wsOwnershipGuardRefreshIntervalSec⟩

end Transcribe
