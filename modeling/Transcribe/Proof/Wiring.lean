import Transcribe.Model.Wiring
import Transcribe.Proof.Configuration

/-!
# Accepted settings are wired

* `validate_sound`: what the wiring needs of settings, and validated ones have.
* `createRuntimeBundle_cases`: with them no assertion and no check of the wiring fails; what is left
  is that the Redis URL cannot be read or is not taken, or the CA file is not taken.
* `Configuration.wired`: the service that is made talks to Kafka in plain text only if it is local,
  checks tokens exactly if it is told to, never with empty signing material, and refreshes its
  ownership guard before that expires.
-/

namespace Transcribe

open Transcribe.Runtime (bind_of_ok)
open Transcribe.Configuration (spacedConfigurationFields spacedConfiguration)

/-! ## Validated settings -/

/-- What validated settings satisfy. -/
structure Settings.Sound (s : Settings) : Prop where
  redisUrl : s.redisUrl ≠ none
  kafkaBootstrapServers : s.kafkaBootstrapServers ≠ none
  kafkaAwsRegion : s.kafkaMode = .awsMsk →
    ∃ region, s.kafkaAwsRegion = some region ∧ strip region = region ∧ region ≠ ""
  kafkaMode : s.appEnv = .deployed → s.kafkaMode = .awsMsk
  signing : s.authEnabled → ∃ material, s.authJwtSigningMaterial = some material ∧ material ≠ ""
  refresh : 0 < s.wsOwnershipGuardRefreshIntervalSec ∧
    s.wsOwnershipGuardRefreshIntervalSec < s.redisOwnershipGuardTtlSec

theorem Settings.validate_sound {environ : String → Option String} {f : SettingsFields} {s : Settings}
    (h : Settings.validate environ f = .ok s) : s.Sound := by
  obtain ⟨hacceptable, hfields⟩ := Settings.validate_inv h
  -- validated settings are values that are accepted, and that nothing is done to any more
  have hnormal : ∀ {value}, some value ∈ s.fields.texts → strip value = value ∧ value ≠ "" := fun hmem =>
    SettingsFields.normal_texts hacceptable (hfields ▸ hmem)
  have hagain : s.fields.Acceptable environ := hfields ▸ SettingsFields.acceptable_normal hacceptable environ
  have hlocal : ∀ {o : Option String} {default : String}, (f.appEnv = .deployed → o ≠ none) →
      f.orLocal default o ≠ none := by
    intro o default hdeployed
    cases henv : f.appEnv with
    | «local» => exact SettingsFields.orLocal_ne_none (.inl henv)
    | deployed => exact SettingsFields.orLocal_ne_none (.inr (hdeployed henv))
  have hurl : s.redisUrl = f.orLocal localRedisUrl f.redisUrl := congrArg SettingsFields.redisUrl hfields
  have hservers : s.kafkaBootstrapServers = f.orLocal localKafkaBootstrapServers f.kafkaBootstrapServers :=
    congrArg SettingsFields.kafkaBootstrapServers hfields
  have hregion : s.kafkaAwsRegion = f.region environ := congrArg SettingsFields.kafkaAwsRegion hfields
  have hmode : s.kafkaMode = f.kafkaMode := congrArg SettingsFields.kafkaMode hfields
  refine ⟨?_, ?_, ?_, fun henv => (hagain.deployed henv).kafkaMode, ?_, hagain.refresh⟩
  · rw [hurl]
    exact hlocal fun henv => (hacceptable.deployed henv).redisUrl
  · rw [hservers]
    exact hlocal fun henv => (hacceptable.deployed henv).kafkaBootstrapServers
  · intro hmsk
    obtain ⟨region, hsome⟩ := Option.ne_none_iff_exists'.1 (hacceptable.region (hmode ▸ hmsk))
    rw [← hregion] at hsome
    exact ⟨region, hsome, hnormal (by simp [SettingsFields.texts, Settings.fields, hsome])⟩
  · intro hauth
    obtain ⟨material, hsome⟩ := Option.ne_none_iff_exists'.1 (hagain.signing hauth)
    exact ⟨material, hsome, (hnormal (by simp [SettingsFields.texts, hsome])).2⟩

/-! ## The steps -/

namespace RuntimeSettings

variable {L : RuntimeLibrary} {s : RuntimeSettings}

/-- What the producer is given of sound settings. -/
def clientKwargs (s : RuntimeSettings) (servers : String) : KafkaClientKwargs :=
  match s.kafkaMode with
  | .local => { bootstrapServers := servers, securityProtocol := "PLAINTEXT" }
  | .awsMsk => ⟨servers, "SASL_SSL", some s.kafkaSslCaFile, some "OAUTHBEARER",
    s.kafkaAwsRegion.map fun region => (region, s.kafkaAwsDebugCreds)⟩

/-- The TLS context of the producer can be made, if it has one. -/
def CaFileTaken (L : RuntimeLibrary) (s : RuntimeSettings) : Prop :=
  s.kafkaMode = .awsMsk → L.sslTakes s.kafkaSslCaFile = true

/-- The keyword arguments of the Redis client. -/
def clientArguments (s : RuntimeSettings) (tls : Bool) : RedisClientKwargs :=
  redisClientKwargs s.redisUsername s.redisPassword s.redisSslCheckHostname true s.redisMaxConnections tls

/-- `urlparse` reads the Redis URL, and `Redis.from_url` takes it. -/
def RedisUrlTaken (L : RuntimeLibrary) (s : RuntimeSettings) : Prop :=
  ∃ url parts, s.redisUrl = some url ∧ L.url.urlsplit url.toList = some parts ∧
    L.fromUrlTakes url (s.clientArguments (L.url.isTls parts)) = true

theorem createSharedRedisClient_cases {url : String} (hurl : s.redisUrl = some url) :
    (¬ s.RedisUrlTaken L ∧ ∃ e, s.createSharedRedisClient L = .error e ∧ (e = .urlparse ∨ e = .fromUrl)) ∨
      (s.RedisUrlTaken L ∧ ∃ client, s.createSharedRedisClient L = .ok client) := by
  have hstep : s.createSharedRedisClient L = L.createAsyncRedisClient url s.redisUsername s.redisPassword
      s.redisSslCheckHostname true s.redisMaxConnections := by
    unfold createSharedRedisClient
    rw [hurl]
    rfl
  rw [hstep]
  unfold RuntimeLibrary.createAsyncRedisClient RedisUrlTaken
  cases hsplit : L.url.urlsplit url.toList with
  | none =>
    refine .inl ⟨?_, _, rfl, .inl rfl⟩
    rintro ⟨_, parts, hsome, hparts, -⟩
    obtain rfl := Option.some.inj (hurl.symm.trans hsome)
    cases hsplit.symm.trans hparts
  | some parts =>
    by_cases htaken : L.fromUrlTakes url (s.clientArguments (L.url.isTls parts)) = true
    · exact .inr ⟨⟨url, parts, hurl, hsplit, htaken⟩, _, if_pos htaken⟩
    · refine .inl ⟨?_, _, if_neg htaken, .inr rfl⟩
      rintro ⟨_, parts', hsome, hparts, htaken'⟩
      obtain rfl := Option.some.inj (hurl.symm.trans hsome)
      obtain rfl := Option.some.inj (hsplit.symm.trans hparts)
      exact htaken htaken'

theorem createKafkaProducer_cases {servers : String} (hs : s.toSettings.Sound)
    (hservers : s.kafkaBootstrapServers = some servers) :
    (¬ s.CaFileTaken L ∧ s.createKafkaProducer L = .error .ssl) ∨
      (s.CaFileTaken L ∧ ∃ producer, s.createKafkaProducer L = .ok producer ∧
        producer.clientKwargs = s.clientKwargs servers) := by
  have hstep : s.createKafkaProducer L = (do
      let connection ← kafkaConnectionForMode s.kafkaMode s.kafkaAwsRegion s.kafkaSslCaFile s.kafkaAwsDebugCreds
      let clientKwargs ← connection.buildClientKwargs L.sslTakes servers
      return ⟨servers, s.kafkaTopic, connection, s.kafkaCompressionType, clientKwargs, s.kafkaSendTimeoutSec,
        s.kafkaLingerMs, s.kafkaBatchSize⟩) := by
    unfold createKafkaProducer
    rw [hservers]
    rfl
  rw [hstep]
  unfold CaFileTaken clientKwargs
  cases hmode : s.kafkaMode with
  | «local» => exact .inr ⟨nofun, _, rfl, rfl⟩
  | awsMsk =>
    -- the region that the rules have seen to
    obtain ⟨region, hregion, -⟩ := hs.kafkaAwsRegion hmode
    rw [hregion]
    let connection := KafkaBrokerConnection.awsMskIam region s.kafkaSslCaFile s.kafkaAwsDebugCreds
    by_cases htaken : L.sslTakes s.kafkaSslCaFile = true
    · refine .inr ⟨fun _ => htaken, ?_⟩
      have hkwargs : connection.buildClientKwargs L.sslTakes servers = .ok ⟨servers, "SASL_SSL",
          some s.kafkaSslCaFile, some "OAUTHBEARER", some (region, s.kafkaAwsDebugCreds)⟩ := if_pos htaken
      exact ⟨_, bind_of_ok hkwargs _, rfl⟩
    · refine .inl ⟨fun h => htaken (h rfl), ?_⟩
      have hkwargs : connection.buildClientKwargs L.sslTakes servers = .error .ssl := if_neg htaken
      show (connection.buildClientKwargs L.sslTakes servers >>= _) = _
      rw [hkwargs]
      rfl

/-! ## The bundle -/

/-- What is made of sound settings. -/
structure Wired (L : RuntimeLibrary) (s : RuntimeSettings) (b : RuntimeBundle) : Prop where
  kafka : ∃ servers, s.kafkaBootstrapServers = some servers ∧ b.producer.clientKwargs = s.clientKwargs servers
  plaintext : b.producer.clientKwargs.securityProtocol = "PLAINTEXT" → s.appEnv = .local
  tokens : b.producer.clientKwargs.securityProtocol ≠ "PLAINTEXT" →
    ∃ region, strip region = region ∧ region ≠ "" ∧
      b.producer.clientKwargs.saslOauthTokenProvider = some (region, s.kafkaAwsDebugCreds)
  open_iff : b.authBackend = none ↔ s.authEnabled = false
  signed : ∀ backend, b.authBackend = some backend → ∃ material, material ≠ "" ∧
    s.authJwtSigningMaterial = some material ∧ backend = ⟨L.lower, L.jwtDecode material s.authJwtAlgorithm⟩
  refresh : b.ownershipGuardRefreshIntervalSec < b.ownershipGuard.guardTtlSec

theorem createRuntimeBundle_cases (hs : s.toSettings.Sound) :
    (¬ s.RedisUrlTaken L ∧ ∃ e, s.createRuntimeBundle L = .error e ∧ (e = .urlparse ∨ e = .fromUrl)) ∨
      (s.RedisUrlTaken L ∧ ¬ s.CaFileTaken L ∧ s.createRuntimeBundle L = .error .ssl) ∨
      (s.RedisUrlTaken L ∧ s.CaFileTaken L ∧ ∃ b, s.createRuntimeBundle L = .ok b ∧ Wired L s b) := by
  obtain ⟨url, hurl⟩ := Option.ne_none_iff_exists'.1 hs.redisUrl
  obtain ⟨servers, hservers⟩ := Option.ne_none_iff_exists'.1 hs.kafkaBootstrapServers
  unfold createRuntimeBundle
  rcases createSharedRedisClient_cases (L := L) hurl with ⟨hnot, e, hclient, he⟩ | ⟨htaken, client, hclient⟩
  · rw [hclient]
    exact .inl ⟨hnot, e, rfl, he⟩
  rw [hclient, hurl]
  rcases createKafkaProducer_cases (L := L) hs hservers with
    ⟨hca, hproducer⟩ | ⟨hca, producer, hproducer, hkwargs⟩
  · rw [hproducer]
    exact .inr (.inl ⟨htaken, hca, rfl⟩)
  rw [hproducer]
  refine .inr (.inr ⟨htaken, hca, _, rfl, ?_⟩)
  refine ⟨⟨servers, hservers, hkwargs⟩, ?_, ?_, ?_, ?_, hs.refresh.2⟩
  · -- a deployed service uses MSK, which speaks SASL_SSL
    intro hplain
    cases henv : s.appEnv with
    | «local» => rfl
    | deployed =>
      have hprotocol : (s.clientKwargs servers).securityProtocol = "PLAINTEXT" := hkwargs ▸ hplain
      unfold clientKwargs at hprotocol
      rw [hs.kafkaMode henv] at hprotocol
      have hsame : "SASL_SSL" = "PLAINTEXT" := hprotocol
      exact absurd hsame (by decide)
  · -- MSK has a region, given or from the environment
    intro htls
    have hprotocol : (s.clientKwargs servers).securityProtocol ≠ "PLAINTEXT" := hkwargs ▸ htls
    unfold clientKwargs at hprotocol
    cases hmode : s.kafkaMode with
    | «local» =>
      rw [hmode] at hprotocol
      exact absurd rfl hprotocol
    | awsMsk =>
      obtain ⟨region, hregion, hstrip, hne⟩ := hs.kafkaAwsRegion hmode
      refine ⟨region, hstrip, hne, ?_⟩
      show producer.clientKwargs.saslOauthTokenProvider = _
      rw [hkwargs, clientKwargs, hmode, hregion]
      rfl
  · show s.createAuthBackend L = none ↔ _
    unfold createAuthBackend
    cases s.authEnabled <;> simp
  · intro backend hbackend
    change s.createAuthBackend L = some backend at hbackend
    unfold createAuthBackend at hbackend
    split at hbackend
    · cases hbackend
    · rename_i hauth
      obtain ⟨material, hsome, hne⟩ := hs.signing (not_not.1 hauth)
      cases hbackend
      refine ⟨material, hne, hsome, ?_⟩
      rw [hsome]
      rfl

/-- What is made of accepted settings is wired. -/
theorem wired_of_ok {environ : String → Option String} {f : SettingsFields} {b : RuntimeBundle}
    (h : Settings.validate environ f = .ok s.toSettings) (hbundle : s.createRuntimeBundle L = .ok b) :
    Wired L s b := by
  rcases createRuntimeBundle_cases (L := L) (Settings.validate_sound h) with
    ⟨-, e, herror, -⟩ | ⟨-, -, herror⟩ | ⟨-, -, b', hb', hwired⟩
  · rw [herror] at hbundle
    cases hbundle
  · rw [herror] at hbundle
    cases hbundle
  · rw [hb'] at hbundle
    rwa [← Except.ok.inj hbundle]

end RuntimeSettings

open RuntimeSettings

/-- **The service of accepted settings.** Its clients and backends are made exactly if the Redis URL is
read and taken and the CA file is taken, and no assertion or check of the wiring ever fails. -/
theorem Configuration.wired (L : RuntimeLibrary) {environ : String → Option String} {f : ConfigurationFields}
    {c : Configuration} (h : Configuration.validate environ f = .ok c) :
    ((∃ b, c.toRuntimeSettings.createRuntimeBundle L = .ok b) ↔
      c.toRuntimeSettings.RedisUrlTaken L ∧ c.toRuntimeSettings.CaFileTaken L) ∧
    (∀ e, c.toRuntimeSettings.createRuntimeBundle L = .error e → e = .urlparse ∨ e = .fromUrl ∨ e = .ssl) ∧
    ∀ b, c.toRuntimeSettings.createRuntimeBundle L = .ok b → Wired L c.toRuntimeSettings b := by
  obtain ⟨-, -, hsettings, -⟩ := Configuration.validate_inv h
  refine and_assoc.1 ⟨?_, fun b hb => wired_of_ok hsettings hb⟩
  have hs : c.toRuntimeSettings.toSettings.Sound := Settings.validate_sound hsettings
  rcases createRuntimeBundle_cases (L := L) hs with
    ⟨hnot, e, hbundle, he⟩ | ⟨-, hca, hbundle⟩ | ⟨htaken, hca, b, hbundle, -⟩
  · rw [hbundle]
    refine ⟨⟨?_, fun hc => absurd hc.1 hnot⟩, fun e' he' => ?_⟩
    · rintro ⟨b, hb⟩
      cases hb
    · rw [← Except.error.inj he']
      exact he.imp_right .inl
  · rw [hbundle]
    refine ⟨⟨?_, fun hc => absurd hc.2 hca⟩, fun e he => .inr (.inr (Except.error.inj he).symm)⟩
    rintro ⟨b, hb⟩
    cases hb
  · rw [hbundle]
    refine ⟨⟨fun _ => ⟨htaken, hca⟩, fun _ => ⟨b, rfl⟩⟩, fun e he => ?_⟩
    cases he

namespace RuntimeSettings

/-- Libraries for an example: the letters of a URL are plain, its port is a number, no CA file is there,
and there is one token that is taken. -/
def plainLibrary : RuntimeLibrary where
  url := ⟨fun t => t.map Char.toLower, fun _ => false⟩
  fromUrlTakes := fun url _ => ["redis://", "rediss://", "unix://"].any (startsWith url)
  sslTakes := fun caFile => caFile.isNone
  lower := fun s => String.ofList (s.toList.map Char.toLower)
  jwtDecode := fun material algorithm token =>
    if material = "material" ∧ algorithm = "HS256" ∧ token = "t" then .claims (.obj [("sub", .str "s")])
    else .invalidToken

/-- A deployed service that checks tokens. -/
def deployedService : RuntimeSettings :=
  { spacedSettings with
    appEnv := .deployed
    redisSequenceStateKeyPrefix := "prod:sequence"
    redisOwnershipGuardKeyPrefix := "prod:owner"
    kafkaBootstrapServers := some "broker:9098"
    authEnabled := true
    authJwtSigningMaterial := some "material" }

theorem deployedService_validated : Settings.validate regionInEnviron
    { deployedService.fields with kafkaAwsRegion := none } = .ok deployedService.toSettings := rfl

/-- All the values of that service. -/
def deployedFields : ConfigurationFields :=
  { spacedConfigurationFields with toSettingsFields := { deployedService.fields with kafkaAwsRegion := none } }

def deployedConfiguration : Configuration := { spacedConfiguration with toSettings := deployedService.toSettings }

theorem deployedConfiguration_wired :
    ∃ b, deployedConfiguration.toRuntimeSettings.createRuntimeBundle plainLibrary = .ok b ∧
      Wired plainLibrary deployedConfiguration.toRuntimeSettings b := by
  have hvalid : Configuration.validate regionInEnviron deployedFields = .ok deployedConfiguration := rfl
  obtain ⟨hmade, -, hwired⟩ := Configuration.wired plainLibrary hvalid
  obtain ⟨b, hb⟩ := hmade.2 ⟨⟨"redis://cache:6379/0", _, rfl, rfl, by decide +kernel⟩, fun _ => rfl⟩
  exact ⟨b, hb, hwired b hb⟩

end RuntimeSettings

end Transcribe
