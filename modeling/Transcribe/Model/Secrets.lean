import Transcribe.Lib.Dict
import Transcribe.Model.Settings

/-!
# Deployed configuration

The two programs at the ends of a deployed configuration: `render_secret_bundle` of
`ci-cd/sync_secret.py`, which merges the TOML layers, validates the result and writes it as a
JSON secret; and `merge_deployed_secrets_into_environ` of `config/secrets_loader.py`, which puts
the secret into the process environment. Each has its own encoder of scalars.

A dictionary is an insertion-ordered `Dict`. The secret itself, floats and the `Settings` class
belong to libraries: they are the parameters of `Runtime`.
-/

namespace Transcribe

/-! ## Values -/

/-- A scalar; `F` is the type of floats. -/
inductive Scalar (F : Type)
  | str (s : String)
  | int (n : ℤ)
  | float (x : F)
  | bool (b : Bool)
deriving DecidableEq

/-- A value of a TOML document; `other` are arrays, dates and times, with the name of their
type. -/
inductive TomlValue (F : Type)
  | scalar (v : Scalar F)
  | table (entries : List (String × TomlValue F))
  | other (typeName : String)

/-- A value of a JSON document that `json.loads` returns. -/
inductive SecretValue (F : Type)
  | null
  | scalar (v : Scalar F)
  | other (typeName : String)

/-- What `json.loads` returns: an object, or something else. -/
inductive SecretPayload (F : Type)
  | object (items : Dict String (SecretValue F))
  | other

/-- A TOML table. -/
abbrev Toml (F : Type) : Type := Dict String (TomlValue F)

/-! ## Environments -/

def appEnvVar : String := "APP_ENV"

def awsSecretsManagerSecretIdEnv : String := "AWS_SECRETS_MANAGER_SECRET_ID"

def awsRegionEnv : String := "AWS_REGION"

def awsDefaultRegionEnv : String := "AWS_DEFAULT_REGION"

def appEnvDeployed : String := "deployed"

def deployedBootstrapEnvKeys : List String :=
  [appEnvVar, awsSecretsManagerSecretIdEnv, awsRegionEnv, awsDefaultRegionEnv]

/-- What the operating system takes as an environment variable. -/
def Legal (e : String × String) : Prop :=
  e.1 ≠ "" ∧ '=' ∉ e.1.toList ∧ Char.ofNat 0 ∉ e.1.toList ∧ Char.ofNat 0 ∉ e.2.toList

instance (e : String × String) : Decidable (Legal e) := inferInstanceAs (Decidable (_ ∧ _))

/-- The variables of a process. -/
structure Environ where
  vars : Dict String String
  legal : ∀ e ∈ vars, Legal e

namespace Environ

def empty : Environ := ⟨[], fun _ h => absurd h List.not_mem_nil⟩

theorem legal_set {d : Dict String String} {e : String × String} (hd : ∀ x ∈ d, Legal x) (he : Legal e) :
    ∀ x ∈ d.set e.1 e.2, Legal x := by
  induction d with
  | nil => intro x hx; rwa [List.mem_singleton.1 hx]
  | cons y d ih =>
    intro x hx
    unfold Dict.set at hx
    split at hx
    · rcases List.mem_cons.1 hx with rfl | hx
      · exact he
      · exact hd x (List.mem_cons_of_mem _ hx)
    · rcases List.mem_cons.1 hx with rfl | hx
      · exact hd x List.mem_cons_self
      · exact ih (fun x hx => hd x (List.mem_cons_of_mem _ hx)) x hx

/-- `os.environ[key] = value`. -/
def set (env : Environ) (e : String × String) : Except String Environ :=
  if h : Legal e then .ok ⟨env.vars.set e.1 e.2, legal_set env.legal h⟩
  else .error "illegal environment variable"

/-- `os.environ.update(values)`. -/
def update (env : Environ) (values : Dict String String) : Except String Environ := values.foldlM set env

end Environ

/-! ## What belongs to libraries -/

/-- The libraries: `str` on floats, `repr`, `str.upper` and `str.lower` on strings, `json.dumps` on an
object with sorted keys and an indent of two, `json.loads`, and the `Settings` class, which reads the
environment. -/
structure Runtime where
  Float : Type
  strFloat : Float → String
  repr : String → String
  upper : String → String
  lower : String → String
  dumps : Dict String (Scalar Float) → String
  loads : String → Except String (SecretPayload Float)
  Settings : Type
  settings : Dict String String → Except String Settings

/-- `Settings.model_fields`. -/
def settingsModelFields : List String :=
  ["app_env", "redis_url", "redis_username", "redis_password", "redis_ssl_check_hostname",
    "redis_max_connections", "redis_active_ttl_sec", "redis_final_ttl_sec", "redis_ownership_guard_ttl_sec",
    "redis_sequence_state_key_prefix", "redis_ownership_guard_key_prefix", "kafka_bootstrap_servers",
    "kafka_mode", "kafka_topic", "kafka_compression_type", "kafka_ssl_ca_file", "kafka_aws_region",
    "kafka_aws_debug_creds", "kafka_send_timeout_sec", "kafka_linger_ms", "kafka_batch_size",
    "ws_ping_interval", "ws_ping_timeout", "ws_ownership_guard_refresh_interval_sec", "auth_enabled",
    "auth_jwt_signing_material", "auth_jwt_algorithm", "http_port", "http_backlog", "http_enable_docs",
    "url_path_prefix", "ws_max_connections", "kafka_startup_timeout_sec", "stop_timeout", "log_level",
    "log_format", "suppress_health_access_logs", "log_ws_error_frames", "log_slow_message_threshold_ms"]

/-- The keys a secret may have. The fields have ASCII names, so `upper` is Lean's. -/
def allowedSecretAppKeys : List String :=
  (settingsModelFields.map String.toUpper).filter fun k => decide (k ∉ deployedBootstrapEnvKeys)

namespace Runtime

variable (R : Runtime)

/-! ## `ci-cd/sync_secret.py` -/

def unsetSentinel : String := "__UNSET__"

/-- `raw_key.strip().upper()`. -/
def normalizeKey (rawKey : String) : String := R.upper (strip rawKey)

/-- `_normalize_app_value`. -/
def normalizeAppValue (key : String) : TomlValue R.Float → Except String (Scalar R.Float)
  | .scalar v => .ok v
  | .table _ => .error ("Unsupported value type for app key " ++ key ++ ": dict. " ++
      "Use string, integer, float, or boolean values.")
  | .other typeName => .error ("Unsupported value type for app key " ++ key ++ ": " ++ typeName ++ ". " ++
      "Use string, integer, float, or boolean values.")

/-- The value is the string `__UNSET__`. -/
def isUnset {F : Type} : Scalar F → Bool
  | .str s => decide (s = unsetSentinel)
  | _ => false

/-- One entry of a layer. -/
def mergeAppEntry (merged : Dict String (Scalar R.Float)) (e : String × TomlValue R.Float) :
    Except String (Dict String (Scalar R.Float)) := do
  if strip e.1 = "" then throw "Application config keys must be non-empty strings"
  let key := R.normalizeKey e.1
  let value ← R.normalizeAppValue key e.2
  return if isUnset value then merged.pop key else merged.set key value

/-- `_merge_app_layers`. -/
def mergeAppLayers (layers : List (Toml R.Float)) : Except String (Dict String (Scalar R.Float)) :=
  layers.foldlM (fun merged layer => layer.foldlM R.mergeAppEntry merged) []

/-- The keys `sorted`, with commas. -/
def listed (keys : List String) : String := ", ".intercalate (keys.mergeSort fun a b => decide (a ≤ b))

/-- `_validate_secret_app_keys`. -/
def validateSecretAppKeys {F : Type} (appSecret : Dict String (Scalar F)) : Except String Unit :=
  let keys := appSecret.map Prod.fst
  let reserved := keys.filter fun k => decide (k ∈ deployedBootstrapEnvKeys)
  let unknown := keys.filter fun k => decide (k ∉ allowedSecretAppKeys)
  if reserved ≠ [] then .error ("Bootstrap keys must not appear in the secret body: " ++ listed reserved)
  else if unknown ≠ [] then
    .error ("Unsupported app configuration keys for Secrets Manager payload: " ++ listed unknown)
  else .ok ()

/-- `_json_scalar_to_env_str`. -/
def jsonScalarToEnvStr : Scalar R.Float → String
  | .bool b => if b then "true" else "false"
  | .int n => toString n
  | .float x => R.strFloat x
  | .str s => s

/-- The environment `_validate_deployed_settings` constructs `Settings` in. -/
def validationEnv (appSecret : Dict String (Scalar R.Float)) (awsRegion : String) : Dict String String :=
  Dict.update [(appEnvVar, appEnvDeployed), (awsRegionEnv, awsRegion)]
    (appSecret.map fun e => (e.1, R.jsonScalarToEnvStr e.2))

/-- `_validate_deployed_settings`, with the settings it constructs. -/
def validateDeployedSettings (appSecret : Dict String (Scalar R.Float)) (awsRegion : String) :
    Except String R.Settings := do
  let env ← Environ.empty.update (R.validationEnv appSecret awsRegion)
  match R.settings env.vars with
  | .error text => throw ("Invalid deployed application configuration: " ++ text)
  | .ok settings => return settings

/-- `AwsSecretConfig`. -/
structure AwsSecretConfig where
  region : String
  profile : String
  secretName : String
  kmsKeyId : Option String

/-- `_is_non_empty_string`. -/
def nonEmptyString {F : Type} : Option (TomlValue F) → Option String
  | some (.scalar (.str s)) => if strip s = "" then none else some s
  | _ => none

/-- `_load_aws_config`. -/
def loadAwsConfig (baseAws envAws : Toml R.Float) : Except String AwsSecretConfig := do
  let merged := Dict.update baseAws envAws
  let unknown := (merged.map Prod.fst).filter fun k =>
    decide (k ∉ ["region", "profile", "secret_name", "kms_key_id"])
  if unknown ≠ [] then throw ("Unsupported [aws] keys: " ++ listed unknown)
  let missing := ["region", "profile", "secret_name"].filter fun k => (nonEmptyString (merged.get? k)).isNone
  match nonEmptyString (merged.get? "region"), nonEmptyString (merged.get? "profile"),
    nonEmptyString (merged.get? "secret_name") with
  | some region, some profile, some secretName =>
    match merged.get? "kms_key_id", nonEmptyString (merged.get? "kms_key_id") with
    | none, _ => return ⟨strip region, strip profile, strip secretName, none⟩
    | some _, some kmsKeyId => return ⟨strip region, strip profile, strip secretName, some (strip kmsKeyId)⟩
    | some _, none => throw "[aws].kms_key_id must be a non-empty string when set"
  | _, _, _ => throw ("Missing required [aws] keys: " ++ listed missing)

/-- A section of a document, empty if it is not there. -/
def sectionOf (path name : String) (doc : Toml R.Float) : Except String (Toml R.Float) :=
  match doc.get? name with
  | none => .ok []
  | some (.table entries) => .ok entries
  | some _ => .error (path ++ " section [" ++ name ++ "] must be a TOML table")

/-- `_load_toml_document` on a parsed file: its sections `[app]` and `[aws]`. -/
def loadTomlDocument (path : String) (allowAws : Bool) (doc : Toml R.Float) :
    Except String (Toml R.Float × Toml R.Float) := do
  let allowed := if allowAws then ["app", "aws"] else ["app"]
  let unknown := (doc.map Prod.fst).filter fun k => decide (k ∉ allowed)
  if unknown ≠ [] then throw (path ++ " contains unsupported top-level sections: " ++ listed unknown)
  return (← R.sectionOf path "app" doc, ← R.sectionOf path "aws" doc)

/-- `RenderedSecretBundle`. -/
structure RenderedSecretBundle where
  environment : String
  aws : AwsSecretConfig
  appSecret : Dict String (Scalar R.Float)
  bootstrapEnvironment : Dict String String

/-- The items of the secret, keys sorted. -/
def RenderedSecretBundle.sortedItems {R : Runtime} (b : R.RenderedSecretBundle) : Dict String (Scalar R.Float) :=
  b.appSecret.mergeSort fun a b => decide (a.1 ≤ b.1)

/-- `secret_string`. -/
def RenderedSecretBundle.secretString {R : Runtime} (b : R.RenderedSecretBundle) : String :=
  R.dumps b.sortedItems

/-- `render_secret_bundle` on the three parsed files of an environment. -/
def renderSecretBundle (environment : String) (baseDoc envDoc secretDoc : Toml R.Float) :
    Except String R.RenderedSecretBundle := do
  let envName := R.lower (strip environment)
  if envName = "" then throw "Environment name must not be empty"
  let base ← R.loadTomlDocument "base.toml" true baseDoc
  let env ← R.loadTomlDocument (envName ++ ".toml") true envDoc
  let secret ← R.loadTomlDocument (envName ++ ".secrets.toml") false secretDoc
  let aws ← R.loadAwsConfig base.2 env.2
  let appSecret ← R.mergeAppLayers [base.1, env.1, secret.1]
  validateSecretAppKeys appSecret
  let _ ← R.validateDeployedSettings appSecret aws.region
  return ⟨envName, aws, appSecret, [(appEnvVar, appEnvDeployed), (awsRegionEnv, aws.region),
    (awsSecretsManagerSecretIdEnv, aws.secretName)]⟩

/-! ## `config/secrets_loader.py` -/

/-- `_secret_scalar_to_str`. -/
def secretScalarToStr : SecretValue R.Float → Except String String
  | .null => .ok ""
  | .scalar (.bool b) => .ok (if b then "true" else "false")
  | .scalar (.int n) => .ok (toString n)
  | .scalar (.float x) => .ok (R.strFloat x)
  | .scalar (.str s) => .ok s
  | .other typeName => .error ("Unsupported JSON value type in secret: " ++ typeName ++ " " ++
      "(use string, number, boolean, or null)")

/-- One key of the secret. -/
def secretEntryToEnv (out : Dict String String) (e : String × SecretValue R.Float) :
    Except String (Dict String String) :=
  if strip e.1 = "" then .ok out
  else
    match R.secretScalarToStr e.2 with
    | .ok value => .ok (out.set (R.normalizeKey e.1) value)
    | .error text => .error ("Invalid value for secret key " ++ R.repr (R.normalizeKey e.1) ++ ": " ++ text)

/-- `_secret_json_to_env_kv`. -/
def secretJsonToEnvKv (payload : Dict String (SecretValue R.Float)) : Except String (Dict String String) :=
  payload.foldlM R.secretEntryToEnv []

/-- `_load_dotenv_layer`; `raw` is what `dotenv_values` returns, if there is a file. -/
def loadDotenvLayer (raw : Option (Dict String (Option String))) : Dict String String :=
  (raw.getD []).foldl (fun out e =>
    if strip e.1 = "" then out
    else
      match e.2 with
      | none => out
      | some value => if strip value = "" then out else out.set (R.normalizeKey e.1) (strip value)) []

/-- The process: its environment, and whether the loader has run. -/
structure Process where
  environ : Environ
  deployedSecretsLoaded : Bool

/-- `merge_deployed_secrets_into_environ`; `getSecretValue region secretId` is the answer of
Secrets Manager. -/
def mergeDeployedSecretsIntoEnviron (getSecretValue : String → String → Except String (Option String))
    (dotenv : Option (Dict String (Option String))) (p : Process) : Except String Process := do
  if p.deployedSecretsLoaded then return p
  let initial := p.environ.vars
  if R.lower (strip ((initial.get? appEnvVar).getD "")) ≠ appEnvDeployed then return p
  let secretId := strip ((initial.get? awsSecretsManagerSecretIdEnv).getD "")
  if secretId = "" then
    throw ("APP_ENV=deployed requires " ++ awsSecretsManagerSecretIdEnv ++ " " ++
      "to load configuration from AWS Secrets Manager")
  let awsRegion := (initial.get? awsRegionEnv).getD ""
  let region := strip (if awsRegion = "" then (initial.get? awsDefaultRegionEnv).getD "" else awsRegion)
  match getSecretValue region secretId with
  | .error text => throw ("Failed to read AWS Secrets Manager secret " ++ R.repr secretId ++ ": " ++ text)
  | .ok none => throw ("Secret " ++ R.repr secretId ++ " has no SecretString (binary-only secrets are not supported)")
  | .ok (some raw) =>
    match R.loads raw with
    | .error _ => throw ("Secret " ++ R.repr secretId ++ " must contain a JSON object (UTF-8 string)")
    | .ok .other =>
      throw ("Secret " ++ R.repr secretId ++ " JSON root must be an object, not a list or scalar")
    | .ok (.object payload) =>
      let secretKv ← R.secretJsonToEnvKv payload
      let merged := ((Dict.update [] (R.loadDotenvLayer dotenv)).update initial).update secretKv
      let merged := deployedBootstrapEnvKeys.foldl (fun merged key =>
        match initial.get? key with
        | some value => merged.set key value
        | none => merged) merged
      let environ ← p.environ.update merged
      return ⟨environ, true⟩

/-- What `Settings` reads under a name: it compares names in lower case, and of the variables
that differ only in case the later one counts. -/
def settingsValue (vars : Dict String String) (name : String) : Option String :=
  Dict.reading R.lower vars name

end Runtime

end Transcribe
