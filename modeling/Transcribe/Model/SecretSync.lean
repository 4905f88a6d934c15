import Mathlib.Logic.Function.Basic
import Transcribe.Lib.EventSystem
import Transcribe.Lib.Resumption
import Transcribe.Model.Secrets

/-!
# Syncing secrets

`sync_secret_bundle` (`ci-cd/sync_secret.py`). Any number of syncs may be under way, one for each
pipeline run, and their requests interleave. A request may also fail without effect, or take effect
while its answer is lost.

The Secrets Manager they talk to is a parameter, with what it documents (`SecretsManager.Documented`).
-/

namespace Transcribe

open Resumption EventSystem

namespace Runtime

/-- What a call of the client raises: an error that the service answers with, or another one. -/
inductive AwsExc
  | clientError (code : String)
  | other (text : String)
deriving DecidableEq

/-- The current version of a secret, `none` if it is binary, and what is kept of the secret besides. -/
structure StoredSecret where
  secretString : Option String
  tags : List (String × String)
  kmsKeyId : Option String
deriving DecidableEq

/-- What `sync_secret_bundle` asks of the client. -/
inductive SecretsCall
  | describeSecret (secretId : String)
  | createSecret (name : String) (secret : StoredSecret)
  | putSecretValue (secretId secretString : String)
deriving DecidableEq

abbrev SecretsReply : SecretsCall → Type := fun _ => Except AwsExc Unit

abbrev SecretsCoro := ExceptT AwsExc (Prog SecretsCall SecretsReply)

def callSecrets (i : SecretsCall) : SecretsCoro Unit := ExceptT.mk (.call i .ret)

def resourceNotFound : String := "ResourceNotFoundException"

def serviceTags : List (String × String) :=
  [("service", "realtime-transcribe-service"), ("managed-by", "repo-script")]

/-- `SecretSyncResult.action`. -/
inductive SyncAction | created | updated
deriving DecidableEq

variable {R : Runtime}

/-- What `create_secret` is called with. -/
def RenderedSecretBundle.newSecret (b : R.RenderedSecretBundle) : StoredSecret :=
  ⟨some b.secretString, serviceTags ++ [("environment", b.environment)], b.aws.kmsKeyId.filter (· ≠ "")⟩

/-- `sync_secret_bundle`. -/
def syncSecretBundle (b : R.RenderedSecretBundle) : SecretsCoro SyncAction := do
  match ← attempt (callSecrets (.describeSecret b.aws.secretName)) with
  | .error (.clientError code) =>
    if code ≠ resourceNotFound then throw (.clientError code)
    callSecrets (.createSecret b.aws.secretName b.newSecret)
    return .created
  | .error e => throw e
  | .ok () =>
    callSecrets (.putSecretValue b.aws.secretName b.secretString)
    return .updated

/-! ## Secrets Manager -/

/-- Secrets Manager, as its clients see it. `resolve` is the secret that an id (a name or an ARN)
denotes for the credentials of a profile, in a region; `current` is what is stored of it, if it exists;
`exec` is a request, with its answer, and `getSecretValue` the `SecretString` that a loader is given. -/
structure SecretsManager where
  Store : Type
  Secret : Type
  resolve : (credentials region secretId : String) → Secret
  current : Store → Secret → Option StoredSecret
  exec : Store → (credentials region : String) → SecretsCall → Store × Except AwsExc Unit
  getSecretValue : Store → (credentials region secretId : String) → Except String (Option String)

namespace SecretsManager

variable (M : SecretsManager)

/-- No secret is changed. -/
def Keeps (s s' : M.Store) : Prop := ∀ k, M.current s' k = M.current s k

/-- The secret `k` is now `x`, and no other one is changed. -/
def Writes (s s' : M.Store) (k : M.Secret) (x : StoredSecret) : Prop :=
  M.current s' k = some x ∧ ∀ k' ≠ k, M.current s' k' = M.current s k'

/-- What Secrets Manager documents. `DescribeSecret` changes nothing; `CreateSecret` makes a secret that
does not exist, `PutSecretValue` gives one that exists another value and leaves the rest of it, and
either changes nothing if it is refused; `GetSecretValue` returns the current value. -/
structure Documented : Prop where
  describe : ∀ s c r secretId, M.Keeps s (M.exec s c r (.describeSecret secretId)).1
  create : ∀ s c r name x,
    ((M.exec s c r (.createSecret name x)).2 = .ok () ∧ M.current s (M.resolve c r name) = none ∧
      M.Writes s (M.exec s c r (.createSecret name x)).1 (M.resolve c r name) x) ∨
    ((∃ e, (M.exec s c r (.createSecret name x)).2 = .error e) ∧
      M.Keeps s (M.exec s c r (.createSecret name x)).1)
  put : ∀ s c r secretId value,
    ((M.exec s c r (.putSecretValue secretId value)).2 = .ok () ∧
      ∃ x, M.current s (M.resolve c r secretId) = some x ∧
        M.Writes s (M.exec s c r (.putSecretValue secretId value)).1 (M.resolve c r secretId)
          { x with secretString := some value }) ∨
    ((∃ e, (M.exec s c r (.putSecretValue secretId value)).2 = .error e) ∧
      M.Keeps s (M.exec s c r (.putSecretValue secretId value)).1)
  get : ∀ s c r secretId value, M.getSecretValue s c r secretId = .ok (some value) →
    ∃ x, M.current s (M.resolve c r secretId) = some x ∧ x.secretString = some value

end SecretsManager

/-! ## Syncs under way -/

/-- How a request fares: it is answered, it fails, or its answer is lost. -/
inductive Delivery
  | answered
  | failed (e : AwsExc)
  | lost (e : AwsExc)

/-- The secrets, and sync `i` of the bundle `bundle i`. -/
structure Syncs (M : SecretsManager) (bundle : ℕ → R.RenderedSecretBundle) where
  store : M.Store
  sync : (i : ℕ) → Thread (syncSecretBundle (bundle i)).run

/-- The request of one sync. -/
structure SyncEvent where
  sync : ℕ
  delivery : Delivery

namespace Syncs

variable {M : SecretsManager} {bundle : ℕ → R.RenderedSecretBundle}

/-- The secret of sync `i`. -/
def secretOf (M : SecretsManager) (bundle : ℕ → R.RenderedSecretBundle) (i : ℕ) : M.Secret :=
  M.resolve (bundle i).aws.profile (bundle i).aws.region (bundle i).aws.secretName

/-- What the request comes to, for the client of the bundle. -/
def deliver (s : M.Store) (aws : AwsSecretConfig) (i : SecretsCall) : Delivery → M.Store × Except AwsExc Unit
  | .answered => M.exec s aws.profile aws.region i
  | .failed e => (s, .error e)
  | .lost e => ((M.exec s aws.profile aws.region i).1, .error e)

def step (w : Syncs M bundle) (e : SyncEvent) : Syncs M bundle :=
  match (w.sync e.sync).rest.pending with
  | none => w
  | some i =>
    let r := deliver w.store (bundle e.sync).aws i e.delivery
    ⟨r.1, Function.update w.sync e.sync ((w.sync e.sync).advance fun _ => r.2)⟩

/-- The state after the events `es`, where the secrets were `s` before. -/
abbrev after (M : SecretsManager) (bundle : ℕ → R.RenderedSecretBundle) (s : M.Store) (es : List SyncEvent) :
    Syncs M bundle :=
  run step ⟨s, fun _ => .start _⟩ es

/-- What a sync has returned. -/
def result (w : Syncs M bundle) (i : ℕ) : Option (Except AwsExc SyncAction) := (w.sync i).rest.result

end Syncs

end Runtime

end Transcribe
