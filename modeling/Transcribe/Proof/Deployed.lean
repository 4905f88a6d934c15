import Mathlib.Data.List.DropRight
import Mathlib.Data.List.TakeWhile
import Transcribe.Model.Configuration
import Transcribe.Model.Secrets

/-!
# What was validated is what runs

* `mergeAppLayers_get?`: merging the layers leaves of a key what its last definition says.
* `secretJsonToEnvKv_render`: the loader turns the parsed secret into the strings the
  validation used; the two encoders agree.
* `merge_get?`: the environment of a service that starts from a rendered bundle, key by key.
* `validated_is_what_runs`: these are the strings `Settings` was validated with, so it accepts
  and returns the same settings.
-/

namespace Transcribe

/-! ## Strings -/

theorem strip_eq (s : String) : strip s = String.ofList ((s.toList.dropWhile isSpace).rdropWhile isSpace) := rfl

/-- A prefix of a list that does not start with a space does not either. -/
theorem dropWhile_prefix {l m : List Char} (hl : l.dropWhile isSpace = l) (hpre : m <+: l) :
    m.dropWhile isSpace = m := by
  obtain ⟨t, rfl⟩ := hpre
  cases m with
  | nil => rfl
  | cons c m =>
    have hc : ¬ isSpace c = true := List.dropWhile_eq_self_iff.1 hl (by simp)
    exact List.dropWhile_cons_of_neg hc

theorem strip_strip (s : String) : strip (strip s) = strip s := by
  have hdrop : ((s.toList.dropWhile isSpace).rdropWhile isSpace).dropWhile isSpace =
      (s.toList.dropWhile isSpace).rdropWhile isSpace :=
    dropWhile_prefix (List.dropWhile_idempotent _ _) (List.rdropWhile_prefix _ _)
  rw [strip_eq (strip s), strip_eq s, String.toList_ofList, hdrop, List.rdropWhile_idempotent]

theorem strip_self {s : String} (h : ∀ c ∈ s.toList, isSpace c = false) : strip s = s := by
  have hdrop : s.toList.dropWhile isSpace = s.toList :=
    List.dropWhile_eq_self_iff.2 fun hl => by simp [h _ (List.getElem_mem hl)]
  have hrdrop : s.toList.rdropWhile isSpace = s.toList :=
    List.rdropWhile_eq_self_iff.2 fun hl => by simp [h _ (List.getLast_mem hl)]
  rw [strip_eq, hdrop, hrdrop, String.ofList_toList]

theorem isLower_iff {c : Char} : c.isLower = true ↔ 97 ≤ c.toNat ∧ c.toNat ≤ 122 := by
  show (decide ('a'.val ≤ c.val) && decide (c.val ≤ 'z'.val)) = true ↔ _
  rw [Bool.and_eq_true, decide_eq_true_eq, decide_eq_true_eq, UInt32.le_iff_toNat_le, UInt32.le_iff_toNat_le]
  exact Iff.rfl

theorem isUpper_iff {c : Char} : c.isUpper = true ↔ 65 ≤ c.toNat ∧ c.toNat ≤ 90 := by
  show decide ('A'.val ≤ c.val ∧ c.val ≤ 'Z'.val) = true ↔ _
  rw [decide_eq_true_eq, UInt32.le_iff_toNat_le, UInt32.le_iff_toNat_le]
  exact Iff.rfl

theorem isUpper_toUpper {c : Char} (h : c.isLower) : c.toUpper.isUpper := by
  obtain ⟨hlow, hhigh⟩ := isLower_iff.1 h
  have hrange : 'a'.val ≤ c.val ∧ c.val ≤ 'z'.val :=
    ⟨UInt32.le_iff_toNat_le.2 hlow, UInt32.le_iff_toNat_le.2 hhigh⟩
  unfold Char.toUpper
  rw [dif_pos hrange, isUpper_iff]
  show 65 ≤ (c.val + ('A'.val - 'a'.val)).toNat ∧ (c.val + ('A'.val - 'a'.val)).toNat ≤ 90
  have hval : c.val.toNat = c.toNat := rfl
  have hshift : ('A'.val - 'a'.val).toNat = 2 ^ 32 - 32 := rfl
  rw [UInt32.toNat_add, hval, hshift]
  omega

theorem toUpper_of_isUpper {c : Char} (h : c.isUpper ∨ c = '_') : c.toUpper = c := by
  unfold Char.toUpper
  refine dif_neg fun hrange => ?_
  rcases h with h | rfl
  · have hlow : 97 ≤ c.toNat := UInt32.le_iff_toNat_le.1 hrange.1
    have hhigh := (isUpper_iff.1 h).2
    omega
  · revert hrange
    decide

theorem toLower_of_isLower {c : Char} (h : c.isLower) : c.toLower = c := by
  unfold Char.toLower
  refine dif_neg fun hrange => ?_
  have hhigh : c.toNat ≤ 90 := UInt32.le_iff_toNat_le.1 hrange.2
  have hlow := (isLower_iff.1 h).1
  omega

theorem isSpace_of_isUpper {c : Char} (h : c.isUpper) : isSpace c = false := by
  have hrange : 65 ≤ c.toNat ∧ c.toNat ≤ 90 := isUpper_iff.1 h
  unfold isSpace
  simp
  omega

/-! ## Environments -/

namespace Environ

/-- Variables can be set exactly if they are legal, and are then the updated ones. -/
theorem update_ok (env : Environ) {values : Dict String String} (h : ∀ e ∈ values, Legal e) :
    ∃ env', env.update values = .ok env' ∧ env'.vars = env.vars.update values := by
  induction values generalizing env with
  | nil => exact ⟨env, rfl, rfl⟩
  | cons e values ih =>
    have hset : env.set e = .ok ⟨env.vars.set e.1 e.2, legal_set env.legal (h e List.mem_cons_self)⟩ :=
      dif_pos (h e List.mem_cons_self)
    obtain ⟨env', hrun, hvars⟩ := ih ⟨_, legal_set env.legal (h e List.mem_cons_self)⟩
      fun x hx => h x (List.mem_cons_of_mem _ hx)
    refine ⟨env', ?_, hvars⟩
    unfold update
    rw [List.foldlM_cons, hset]
    exact hrun

theorem legal_of_update {env env' : Environ} {values : Dict String String}
    (h : env.update values = .ok env') : (∀ e ∈ values, Legal e) ∧ env'.vars = env.vars.update values := by
  induction values generalizing env with
  | nil =>
    cases h
    exact ⟨fun _ he => absurd he List.not_mem_nil, rfl⟩
  | cons e values ih =>
    unfold update at h
    rw [List.foldlM_cons] at h
    by_cases he : Legal e
    · have hset : env.set e = .ok ⟨env.vars.set e.1 e.2, legal_set env.legal he⟩ := dif_pos he
      rw [hset] at h
      obtain ⟨hrest, hvars⟩ := @ih ⟨_, legal_set env.legal he⟩ h
      refine ⟨fun x hx => ?_, hvars⟩
      rcases List.mem_cons.1 hx with rfl | hx
      · exact he
      · exact hrest x hx
    · have hset : env.set e = .error "illegal environment variable" := dif_neg he
      rw [hset] at h
      cases h

theorem legal_update {d values : Dict String String} (hd : ∀ e ∈ d, Legal e) (hv : ∀ e ∈ values, Legal e) :
    ∀ e ∈ d.update values, Legal e := by
  induction values generalizing d with
  | nil => exact hd
  | cons e values ih =>
    exact ih (legal_set hd (hv e List.mem_cons_self)) fun x hx => hv x (List.mem_cons_of_mem _ hx)

end Environ

namespace Runtime

variable {R : Runtime}

/-! ## Layers -/

/-- The section `[app]` of a document. -/
def appLayer {F : Type} (doc : Toml F) : Toml F :=
  match doc.get? "app" with
  | some (.table entries) => entries
  | _ => []

/-- The last definition of a key in the layers, keys compared after strip and upper-casing. -/
def lastDefinition (R : Runtime) (layers : List (Toml R.Float)) (key : String) :
    Option (TomlValue R.Float) :=
  Dict.last? (layers.flatten.map fun e => (R.normalizeKey e.1, e.2)) key

/-- The rendering of the last definition, if there is one and it is not the unset sentinel. -/
def rendering (R : Runtime) (layers : List (Toml R.Float)) (key : String) : Option String :=
  match R.lastDefinition layers key with
  | some (.scalar v) => if isUnset v then none else some (R.jsonScalarToEnvStr v)
  | _ => none

/-- What an entry of a layer leaves of its key. -/
def left {F : Type} : TomlValue F → Option (Scalar F)
  | .scalar v => if isUnset v then none else some v
  | _ => none

theorem mergeAppEntry_ok {merged merged' : Dict String (Scalar R.Float)} {e : String × TomlValue R.Float}
    (h : R.mergeAppEntry merged e = .ok merged') :
    (∃ v, e.2 = .scalar v) ∧ merged' = merged.edit (R.normalizeKey e.1, left e.2) := by
  obtain ⟨rawKey, rawValue⟩ := e
  unfold mergeAppEntry at h
  by_cases hkey : strip rawKey = ""
  · simp only [hkey, if_true] at h
    cases h
  · simp only [hkey, if_false] at h
    cases rawValue with
    | table entries => cases h
    | other typeName => cases h
    | scalar v =>
      refine ⟨⟨v, rfl⟩, ?_⟩
      have hmerged : merged' = if isUnset v then merged.pop (R.normalizeKey rawKey)
          else merged.set (R.normalizeKey rawKey) v := by
        cases h
        rfl
      rw [hmerged]
      unfold Dict.edit left
      by_cases hunset : isUnset v
      · simp only [hunset, if_true]
      · simp only [hunset, if_false, Bool.false_eq_true]

theorem mergeAppEntries_ok {es : List (String × TomlValue R.Float)} {merged merged' : Dict String (Scalar R.Float)}
    (h : es.foldlM R.mergeAppEntry merged = .ok merged') :
    (∀ e ∈ es, ∃ v, e.2 = .scalar v) ∧
      merged' = (es.map fun e => (R.normalizeKey e.1, left e.2)).foldl Dict.edit merged := by
  induction es generalizing merged with
  | nil =>
    cases h
    exact ⟨fun _ he => absurd he List.not_mem_nil, rfl⟩
  | cons e es ih =>
    rw [List.foldlM_cons] at h
    cases hentry : R.mergeAppEntry merged e with
    | error text =>
      rw [hentry] at h
      cases h
    | ok merged₁ =>
      rw [hentry] at h
      obtain ⟨hscalar, rfl⟩ := mergeAppEntry_ok hentry
      obtain ⟨hrest, hrun⟩ := ih h
      refine ⟨fun x hx => ?_, hrun⟩
      rcases List.mem_cons.1 hx with rfl | hx
      · exact hscalar
      · exact hrest x hx

theorem mergeAppLayers_flatten (layers : List (Toml R.Float)) :
    R.mergeAppLayers layers = layers.flatten.foldlM R.mergeAppEntry [] := by
  unfold mergeAppLayers
  generalize ([] : Dict String (Scalar R.Float)) = merged
  induction layers generalizing merged with
  | nil => rfl
  | cons layer layers ih =>
    rw [List.foldlM_cons, List.flatten_cons, List.foldlM_append]
    exact bind_congr fun merged => ih merged

/-- **Merging the layers leaves of a key what its last definition says.** -/
theorem mergeAppLayers_get? {layers : List (Toml R.Float)} {merged : Dict String (Scalar R.Float)}
    (h : R.mergeAppLayers layers = .ok merged) (key : String) :
    merged.Proper ∧ merged.get? key = (R.lastDefinition layers key).bind left ∧
      ∀ v, R.lastDefinition layers key = some v → ∃ x, v = .scalar x := by
  rw [mergeAppLayers_flatten] at h
  obtain ⟨hscalar, rfl⟩ := mergeAppEntries_ok h
  refine ⟨Dict.Proper.nil.edits _, ?_, ?_⟩
  · have hmap : (layers.flatten.map fun e => (R.normalizeKey e.1, left e.2)) =
        (layers.flatten.map fun e => (R.normalizeKey e.1, e.2)).map fun e => (e.1, left e.2) := by
      rw [List.map_map]
      rfl
    rw [Dict.get?_edits, hmap, Dict.last?_map, Dict.get?_nil]
    unfold lastDefinition
    cases Dict.last? (layers.flatten.map fun e => (R.normalizeKey e.1, e.2)) key <;> rfl
  · intro v hv
    obtain ⟨e, he, hkey⟩ := List.mem_map.1 (Dict.mem_of_last? hv)
    obtain ⟨x, hx⟩ := hscalar e he
    exact ⟨x, (Prod.mk.inj hkey).2.symm.trans hx⟩

theorem rendering_eq (layers : List (Toml R.Float)) (key : String) :
    R.rendering layers key = ((R.lastDefinition layers key).bind left).map R.jsonScalarToEnvStr := by
  unfold rendering
  cases R.lastDefinition layers key with
  | none => rfl
  | some value =>
    cases value with
    | table entries => rfl
    | other typeName => rfl
    | scalar v =>
      unfold left
      simp only [Option.bind_some]
      split <;> rfl

theorem isUnset_iff {F : Type} {v : Scalar F} : isUnset v = true ↔ v = .str unsetSentinel := by
  unfold isUnset
  cases v <;> simp

/-- In accepted layers a key is absent exactly if its last definition, if any, is the sentinel. -/
theorem rendering_none {layers : List (Toml R.Float)} {merged : Dict String (Scalar R.Float)}
    (h : R.mergeAppLayers layers = .ok merged) (key : String) :
    R.rendering layers key = none ↔ R.lastDefinition layers key = none ∨
      R.lastDefinition layers key = some (.scalar (.str unsetSentinel)) := by
  have hscalar := (mergeAppLayers_get? h key).2.2
  unfold rendering
  cases hlast : R.lastDefinition layers key with
  | none => simp
  | some value =>
    obtain ⟨v, rfl⟩ := hscalar value hlast
    by_cases hunset : isUnset v = true
    · rw [isUnset_iff] at hunset
      subst hunset
      simp [isUnset]
    · have hne : v ≠ .str unsetSentinel := fun heq => hunset (isUnset_iff.2 heq)
      simp [hunset, hne]

/-! ## Keys of a secret -/

/-- What the libraries document. `Settings` reads the environment by name, and none of its
fields is called `AWS_SECRETS_MANAGER_SECRET_ID`. -/
structure Documented (R : Runtime) : Prop where
  upper_self : ∀ s : String, (∀ c ∈ s.toList, c.isUpper ∨ c = '_') → R.upper s = s
  lower_self : ∀ s : String, (∀ c ∈ s.toList, c.isLower) → R.lower s = s
  settings_congr : ∀ env env' : Dict String String, env.Proper → env'.Proper →
    (∀ k ∉ allowedSecretAppKeys ++ deployedBootstrapEnvKeys, env.get? k = none ∧ env'.get? k = none) →
    (∀ k ≠ awsSecretsManagerSecretIdEnv, env.get? k = env'.get? k) → R.settings env = R.settings env'

theorem settingsModelFields_snake :
    (settingsModelFields.all fun k => !k.isEmpty && k.toList.all fun c => c.isLower || c == '_') = true := by
  decide +kernel

/-- The keys of a secret are upper-case names without spaces, and none is a bootstrap key. -/
theorem allowed_keys {k : String} (hk : k ∈ allowedSecretAppKeys) :
    strip k = k ∧ k ≠ "" ∧ (∀ c ∈ k.toList, c.isUpper ∨ c = '_') ∧ k ∉ deployedBootstrapEnvKeys := by
  obtain ⟨hmap, hreserved⟩ := List.mem_filter.1 hk
  obtain ⟨field, hfield, rfl⟩ := List.mem_map.1 hmap
  have hsnake := List.all_eq_true.1 settingsModelFields_snake field hfield
  rw [Bool.and_eq_true, List.all_eq_true] at hsnake
  obtain ⟨hne, hchars⟩ := hsnake
  have hlist : field.toUpper.toList = field.toList.map Char.toUpper := String.toList_map
  have hupper : ∀ c ∈ field.toUpper.toList, c.isUpper ∨ c = '_' := by
    rw [hlist]
    intro c hc
    obtain ⟨x, hx, rfl⟩ := List.mem_map.1 hc
    rcases Bool.or_eq_true _ _ ▸ hchars x hx with hlower | hunderscore
    · exact .inl (isUpper_toUpper hlower)
    · rw [eq_of_beq hunderscore]
      exact .inr rfl
  refine ⟨strip_self fun c hc => ?_, ?_, hupper, of_decide_eq_true hreserved⟩
  · rcases hupper c hc with hc | rfl
    · exact isSpace_of_isUpper hc
    · rfl
  · intro hempty
    rw [hempty] at hlist
    have hnil : field.toList = [] := List.map_eq_nil_iff.1 hlist.symm
    simp [String.toList_eq_nil_iff.1 hnil] at hne

theorem normalizeKey_allowed (hR : R.Documented) {k : String} (hk : k ∈ allowedSecretAppKeys) :
    R.normalizeKey k = k := by
  obtain ⟨hstrip, -, hupper, -⟩ := allowed_keys hk
  unfold normalizeKey
  rw [hstrip]
  exact hR.upper_self k hupper

theorem validateSecretAppKeys_ok {F : Type} {secret : Dict String (Scalar F)} :
    validateSecretAppKeys secret = .ok () ↔ ∀ e ∈ secret, e.1 ∈ allowedSecretAppKeys := by
  unfold validateSecretAppKeys
  simp only
  constructor
  · intro h e he
    by_contra hnot
    have hunknown : (secret.map Prod.fst).filter (fun k => decide (k ∉ allowedSecretAppKeys)) ≠ [] :=
      List.ne_nil_of_mem (List.mem_filter.2 ⟨List.mem_map_of_mem he, by simpa using hnot⟩)
    split at h
    · cases h
    · cases h
  · intro h
    have hkeys : ∀ k ∈ secret.map Prod.fst, k ∈ allowedSecretAppKeys := fun k hk => by
      obtain ⟨e, he, rfl⟩ := List.mem_map.1 hk
      exact h e he
    have hreserved : (secret.map Prod.fst).filter (fun k => decide (k ∈ deployedBootstrapEnvKeys)) = [] :=
      List.filter_eq_nil_iff.2 fun k hk => by simpa using (allowed_keys (hkeys k hk)).2.2.2
    have hunknown : (secret.map Prod.fst).filter (fun k => decide (k ∉ allowedSecretAppKeys)) = [] :=
      List.filter_eq_nil_iff.2 fun k hk => by simpa using hkeys k hk
    rw [hreserved, hunknown]
    rfl

/-- **The two encoders agree**: the loader turns the parsed secret into the strings of the
validation. -/
theorem secretJsonToEnvKv_render (hR : R.Documented) {secret : Dict String (Scalar R.Float)}
    (hkeys : ∀ e ∈ secret, e.1 ∈ allowedSecretAppKeys) :
    R.secretJsonToEnvKv (secret.map fun e => (e.1, .scalar e.2)) =
      .ok (Dict.update [] (secret.map fun e => (e.1, R.jsonScalarToEnvStr e.2))) := by
  unfold secretJsonToEnvKv
  generalize ([] : Dict String String) = out
  induction secret generalizing out with
  | nil => rfl
  | cons e secret ih =>
    have hkey := hkeys e List.mem_cons_self
    obtain ⟨hstrip, hne, -, -⟩ := allowed_keys hkey
    have hscalar : R.secretScalarToStr (.scalar e.2) = .ok (R.jsonScalarToEnvStr e.2) := by
      cases e.2 <;> rfl
    have hentry : R.secretEntryToEnv out (e.1, .scalar e.2) = .ok (Dict.set out e.1 (R.jsonScalarToEnvStr e.2)) := by
      unfold secretEntryToEnv
      simp only [hstrip, hne, if_false, hscalar, normalizeKey_allowed hR hkey]
    rw [List.map_cons, List.foldlM_cons, hentry]
    exact ih (fun x hx => hkeys x (List.mem_cons_of_mem _ hx)) _

/-! ## Accepted bundles -/

theorem bind_eq_ok {ε α β : Type} {x : Except ε α} {f : α → Except ε β} {r : β} (h : (x >>= f) = .ok r) :
    ∃ a, x = .ok a ∧ f a = .ok r := by
  cases x with
  | error e => cases h
  | ok a => exact ⟨a, rfl, h⟩

theorem sectionOf_app {path : String} {doc app : Toml R.Float} (h : R.sectionOf path "app" doc = .ok app) :
    app = appLayer doc := by
  unfold sectionOf at h
  unfold appLayer
  cases hdoc : doc.get? "app" with
  | none =>
    rw [hdoc] at h
    exact (Except.ok.inj h).symm
  | some value =>
    rw [hdoc] at h
    cases value with
    | table entries => exact (Except.ok.inj h).symm
    | scalar v => cases h
    | other typeName => cases h

theorem bind_of_ok {ε α β : Type} {x : Except ε α} {a : α} (h : x = .ok a) (f : α → Except ε β) :
    (x >>= f) = f a := by
  rw [h]
  rfl

theorem loadTomlDocument_ok {path : String} {allowAws : Bool} {doc : Toml R.Float}
    {sections : Toml R.Float × Toml R.Float} (h : R.loadTomlDocument path allowAws doc = .ok sections) :
    sections.1 = appLayer doc := by
  unfold loadTomlDocument at h
  generalize (if allowAws = true then ["app", "aws"] else ["app"]) = allowed at h
  simp only at h
  split at h
  · cases h
  · obtain ⟨app, happ, h⟩ := bind_eq_ok h
    obtain ⟨aws, -, h⟩ := bind_eq_ok h
    cases h
    exact sectionOf_app happ

theorem nonEmptyString_ok {F : Type} {value : Option (TomlValue F)} {s : String}
    (h : nonEmptyString value = some s) : strip s ≠ "" := by
  unfold nonEmptyString at h
  split at h
  · split at h
    · cases h
    · rename_i hne
      cases h
      exact hne
  · cases h

theorem loadAwsConfig_ok {baseAws envAws : Toml R.Float} {aws : AwsSecretConfig}
    (h : R.loadAwsConfig baseAws envAws = .ok aws) : (strip aws.region = aws.region ∧ aws.region ≠ "") ∧
      strip aws.secretName = aws.secretName ∧ aws.secretName ≠ "" := by
  unfold loadAwsConfig at h
  simp only at h
  split at h
  · cases h
  · split at h
    · rename_i hregion hprofile hname
      have hregion := nonEmptyString_ok hregion
      have hname := nonEmptyString_ok hname
      split at h
      · cases h
        exact ⟨⟨strip_strip _, hregion⟩, strip_strip _, hname⟩
      · cases h
        exact ⟨⟨strip_strip _, hregion⟩, strip_strip _, hname⟩
      · cases h
    · cases h

/-- What an accepted bundle has passed. -/
structure Accepted (layers : List (Toml R.Float)) (b : R.RenderedSecretBundle) : Prop where
  merged : R.mergeAppLayers layers = .ok b.appSecret
  keys : ∀ e ∈ b.appSecret, e.1 ∈ allowedSecretAppKeys
  validated : ∃ settings, R.validateDeployedSettings b.appSecret b.aws.region = .ok settings
  region : strip b.aws.region = b.aws.region ∧ b.aws.region ≠ ""
  secretName : strip b.aws.secretName = b.aws.secretName ∧ b.aws.secretName ≠ ""
  bootstrap : b.bootstrapEnvironment = [(appEnvVar, appEnvDeployed), (awsRegionEnv, b.aws.region),
    (awsSecretsManagerSecretIdEnv, b.aws.secretName)]

theorem renderSecretBundle_ok {environment : String} {baseDoc envDoc secretDoc : Toml R.Float}
    {b : R.RenderedSecretBundle} (h : R.renderSecretBundle environment baseDoc envDoc secretDoc = .ok b) :
    Accepted [appLayer baseDoc, appLayer envDoc, appLayer secretDoc] b := by
  unfold renderSecretBundle at h
  simp only at h
  split at h
  · cases h
  · obtain ⟨base, hbase, h⟩ := bind_eq_ok h
    obtain ⟨env, henv, h⟩ := bind_eq_ok h
    obtain ⟨secret, hsecret, h⟩ := bind_eq_ok h
    obtain ⟨aws, haws, h⟩ := bind_eq_ok h
    obtain ⟨appSecret, hmerged, h⟩ := bind_eq_ok h
    obtain ⟨⟨⟩, hkeys, h⟩ := bind_eq_ok h
    obtain ⟨settings, hsettings, h⟩ := bind_eq_ok h
    cases h
    rw [loadTomlDocument_ok hbase, loadTomlDocument_ok henv, loadTomlDocument_ok hsecret] at hmerged
    obtain ⟨hregion, hname⟩ := loadAwsConfig_ok haws
    exact ⟨hmerged, validateSecretAppKeys_ok.1 hkeys, ⟨settings, hsettings⟩, hregion, hname, rfl⟩

/-! ## The environment of a service -/

/-- What the process had under `keys`, put back. -/
def restored (initial : Dict String String) (keys : List String) (merged : Dict String String) :
    Dict String String :=
  keys.foldl (fun merged key =>
    match initial.get? key with
    | some value => merged.set key value
    | none => merged) merged

theorem get?_restored (initial : Dict String String) (keys : List String) (merged : Dict String String) (k : String) :
    (restored initial keys merged).get? k =
      if k ∈ keys then (initial.get? k).or (merged.get? k) else merged.get? k := by
  induction keys generalizing merged with
  | nil => rfl
  | cons key keys ih =>
    unfold restored at ih ⊢
    rw [List.foldl_cons, ih]
    by_cases hk : key = k
    · subst hk
      cases initial.get? key with
      | none => simp
      | some value => simp [Dict.get?_set]
    · have hmem : k ∈ key :: keys ↔ k ∈ keys := by simp [Ne.symm hk]
      cases initial.get? key with
      | none => simp only [hmem]
      | some value => simp only [hmem, Dict.get?_set, hk, if_false]

theorem proper_restored {initial merged : Dict String String} (h : merged.Proper) (keys : List String) :
    (restored initial keys merged).Proper := by
  induction keys generalizing merged with
  | nil => exact h
  | cons key keys ih =>
    refine ih ?_
    beta_reduce
    split
    · exact h.set _ _
    · exact h

theorem legal_restored {initial merged : Dict String String} (hi : ∀ e ∈ initial, Legal e)
    (h : ∀ e ∈ merged, Legal e) (keys : List String) : ∀ e ∈ restored initial keys merged, Legal e := by
  induction keys generalizing merged with
  | nil => exact h
  | cons key keys ih =>
    refine ih ?_
    beta_reduce
    cases hkey : initial.get? key with
    | none => exact h
    | some value => exact Environ.legal_set h (hi _ (Dict.mem_of_get? hkey))

/-- What the loader sets: the bootstrap variables of the process win, then the secret. -/
theorem get?_merged {initial secretKv : Dict String String} (hi : initial.Proper) (hs : secretKv.Proper)
    (hsecret : ∀ k ∈ deployedBootstrapEnvKeys, secretKv.get? k = none) (k : String) :
    (restored initial deployedBootstrapEnvKeys ((Dict.update [] initial).update secretKv)).get? k =
      (secretKv.get? k).or (initial.get? k) := by
  rw [get?_restored, Dict.get?_update hs, Dict.get?_update hi, Dict.get?_nil, Option.or_none]
  by_cases hk : k ∈ deployedBootstrapEnvKeys
  · rw [if_pos hk, hsecret k hk, Option.none_or, Option.or_self]
  · rw [if_neg hk]

variable {layers : List (Toml R.Float)} {b : R.RenderedSecretBundle}

/-- `json.loads` reads back the object that `json.dumps` wrote. -/
def RenderedSecretBundle.ReadsBack (b : R.RenderedSecretBundle) : Prop :=
  R.loads b.secretString = .ok (.object (b.sortedItems.map fun e => (e.1, .scalar e.2)))

/-- The strings of a bundle, as both sides write them. -/
def RenderedSecretBundle.strings (b : R.RenderedSecretBundle) : Dict String String :=
  b.appSecret.map fun e => (e.1, R.jsonScalarToEnvStr e.2)

/-- The settings are those of the environment of the validation. -/
theorem validated_with {settings : R.Settings}
    (h : R.validateDeployedSettings b.appSecret b.aws.region = .ok settings) :
    ∃ env : Dict String String, (env.Proper ∧
      ∀ k, env.get? k = (R.validationEnv b.appSecret b.aws.region).get? k) ∧ R.settings env = .ok settings := by
  obtain ⟨env, henv, h⟩ := bind_eq_ok h
  have hproper : Dict.Proper (R.validationEnv b.appSecret b.aws.region) := by
    refine Dict.Proper.update ?_
    show [appEnvVar, awsRegionEnv].Nodup
    decide
  have hvars : env.vars = Dict.update [] (R.validationEnv b.appSecret b.aws.region) :=
    (Environ.legal_of_update henv).2
  refine ⟨env.vars, ⟨?_, fun k => ?_⟩, ?_⟩
  · rw [hvars]
    exact Dict.Proper.nil.update
  · rw [hvars, Dict.get?_update hproper, Dict.get?_nil, Option.or_none]
  · cases hsettings : R.settings env.vars with
    | error text =>
      rw [hsettings] at h
      cases h
    | ok settings' =>
      rw [hsettings] at h
      cases h
      rfl

namespace Accepted

variable (hb : Accepted layers b)
include hb

theorem proper : b.appSecret.Proper := (mergeAppLayers_get? hb.merged "").1

theorem strings_get? (key : String) : Dict.get? b.strings key = R.rendering layers key := by
  rw [rendering_eq, ← (mergeAppLayers_get? hb.merged key).2.1]
  exact Dict.get?_map _

theorem strings_none {key : String} (h : key ∉ allowedSecretAppKeys) : Dict.get? b.strings key = none := by
  rw [Dict.get?_eq_none]
  intro hmem
  obtain ⟨x, hx, rfl⟩ := List.mem_map.1 hmem
  obtain ⟨e, he, rfl⟩ := List.mem_map.1 hx
  exact h (hb.keys e he)

theorem strings_bootstrap {key : String} (h : key ∈ deployedBootstrapEnvKeys) : Dict.get? b.strings key = none :=
  hb.strings_none fun hallowed => (allowed_keys hallowed).2.2.2 h

/-- The environment of the validation, key by key. -/
theorem validationEnv_get? (key : String) :
    (R.validationEnv b.appSecret b.aws.region).get? key =
      (Dict.get? b.strings key).or
        (Dict.get? [(appEnvVar, appEnvDeployed), (awsRegionEnv, b.aws.region)] key) :=
  Dict.get?_update (hb.proper.map _)

theorem strings_legal : ∀ e ∈ b.strings, Legal e := by
  obtain ⟨settings, h⟩ := hb.validated
  obtain ⟨env, henv, -⟩ := bind_eq_ok h
  have hlegal := (Environ.legal_of_update henv).1
  intro e he
  have hget : Dict.get? b.strings e.1 = some e.2 := Dict.get?_of_mem (hb.proper.map _) he
  refine hlegal e (Dict.mem_of_get? ?_)
  rw [hb.validationEnv_get?, hget, Option.some_or]

theorem proper_bootstrap : Dict.Proper b.bootstrapEnvironment := by
  rw [hb.bootstrap]
  show [appEnvVar, awsRegionEnv, awsSecretsManagerSecretIdEnv].Nodup
  decide

theorem bootstrap_none {key : String} (h : key ∉ deployedBootstrapEnvKeys) :
    Dict.get? b.bootstrapEnvironment key = none := by
  rw [Dict.get?_eq_none, hb.bootstrap]
  intro hmem
  have hkeys : ∀ k ∈ [appEnvVar, awsRegionEnv, awsSecretsManagerSecretIdEnv], k ∈ deployedBootstrapEnvKeys := by
    decide
  exact h (hkeys key hmem)

/-- The bootstrap variables are those of the validation and the name of the secret. -/
theorem bootstrap_get? {key : String} (h : key ≠ awsSecretsManagerSecretIdEnv) :
    Dict.get? b.bootstrapEnvironment key =
      Dict.get? [(appEnvVar, appEnvDeployed), (awsRegionEnv, b.aws.region)] key := by
  rw [hb.bootstrap]
  simp [Dict.get?_cons, Ne.symm h]

/-- What the loader reads of the secret. -/
theorem secretKv_ok (hR : R.Documented) (hjson : b.ReadsBack) :
    ∃ payload kv, R.loads b.secretString = .ok (.object payload) ∧ R.secretJsonToEnvKv payload = .ok kv ∧
      kv.Proper ∧ (∀ e ∈ kv, Legal e) ∧ ∀ key, kv.get? key = Dict.get? b.strings key := by
  have hperm := List.mergeSort_perm b.appSecret fun a b => decide (a.1 ≤ b.1)
  have hproper : Dict.Proper b.sortedItems := (hperm.map _).nodup_iff.2 hb.proper
  have hstrings : (b.sortedItems.map fun e => (e.1, R.jsonScalarToEnvStr e.2)).Perm b.strings := hperm.map _
  refine ⟨_, _, hjson, secretJsonToEnvKv_render hR fun e he => hb.keys e (hperm.subset he), ?_, ?_, ?_⟩
  · exact Dict.Proper.nil.update
  · exact Environ.legal_update (fun _ h => absurd h List.not_mem_nil) fun e he =>
      hb.strings_legal e (hstrings.subset he)
  · intro key
    rw [Dict.get?_update (hproper.map _), Dict.get?_nil, Option.or_none]
    exact (Dict.get?_perm (hproper.map _) hstrings).symm

end Accepted

theorem appEnvDeployed_normal (hR : R.Documented) : R.lower (strip appEnvDeployed) = appEnvDeployed := by
  have hstrip : strip appEnvDeployed = appEnvDeployed := by decide +kernel
  rw [hstrip]
  exact hR.lower_self _ (List.all_eq_true.1 (by decide +kernel))

/-- **The environment of a service that starts from a rendered bundle, key by key.** -/
theorem merge_get? (hR : R.Documented) (hb : Accepted layers b) (hjson : b.ReadsBack)
    {getSecretValue : String → String → Except String (Option String)}
    (hstore : getSecretValue b.aws.region b.aws.secretName = .ok (some b.secretString)) {p : Process}
    (hp : p.deployedSecretsLoaded = false) (hvars : p.environ.vars.Perm b.bootstrapEnvironment) :
    ∃ p', R.mergeDeployedSecretsIntoEnviron getSecretValue none p = .ok p' ∧ p'.environ.vars.Proper ∧
      ∀ key, p'.environ.vars.get? key =
        (Dict.get? b.strings key).or (Dict.get? b.bootstrapEnvironment key) := by
  obtain ⟨payload, kv, hloads, hkv, hproper, hlegal, hget⟩ := hb.secretKv_ok hR hjson
  have hinitial : p.environ.vars.Proper := (hvars.map _).nodup_iff.2 hb.proper_bootstrap
  -- the service starts with the bootstrap variables
  have hboot : ∀ key, p.environ.vars.get? key = Dict.get? b.bootstrapEnvironment key := fun key =>
    Dict.get?_perm hb.proper_bootstrap hvars.symm
  have happ : p.environ.vars.get? appEnvVar = some appEnvDeployed := by
    rw [hboot, hb.bootstrap]
    rfl
  have hregion : p.environ.vars.get? awsRegionEnv = some b.aws.region := by
    rw [hboot, hb.bootstrap]
    rfl
  have hname : p.environ.vars.get? awsSecretsManagerSecretIdEnv = some b.aws.secretName := by
    rw [hboot, hb.bootstrap]
    rfl
  have hmerged : ∀ e ∈ restored p.environ.vars deployedBootstrapEnvKeys
      ((Dict.update [] p.environ.vars).update kv), Legal e :=
    legal_restored p.environ.legal (Environ.legal_update
      (Environ.legal_update (fun _ h => absurd h List.not_mem_nil) p.environ.legal) hlegal) _
  obtain ⟨environ, hupdate, hset⟩ := p.environ.update_ok hmerged
  refine ⟨⟨environ, true⟩, ?_, ?_, fun key => ?_⟩
  · -- the checks in front of the request pass, and its answer is merged
    unfold mergeDeployedSecretsIntoEnviron
    simp only [hp, happ, hregion, hname, Option.getD_some, appEnvDeployed_normal hR, hb.region.1, hb.region.2,
      hb.secretName.1, hb.secretName.2, hstore, hloads, hkv, Bool.false_eq_true, ne_eq, not_true_eq_false, if_false]
    show (p.environ.update (restored p.environ.vars deployedBootstrapEnvKeys
      ((Dict.update [] p.environ.vars).update kv)) >>= fun environ => pure (Process.mk environ true)) = _
    rw [hupdate]
    rfl
  · rw [hset]
    exact hinitial.update
  · -- the secret has none of the bootstrap keys
    have hkeys : ∀ k ∈ deployedBootstrapEnvKeys, kv.get? k = none := fun k hk => by
      rw [hget, hb.strings_bootstrap hk]
    have hnew : Dict.Proper (restored p.environ.vars deployedBootstrapEnvKeys
        ((Dict.update [] p.environ.vars).update kv)) :=
      proper_restored (Dict.Proper.nil.update.update) _
    rw [hset, Dict.get?_update hnew, get?_merged hinitial hproper hkeys, hget, hboot, Option.or_assoc,
      Option.or_self]

/-- **What was validated is what runs.** -/
theorem validated_is_what_runs (hR : R.Documented) {environment : String} {baseDoc envDoc secretDoc : Toml R.Float}
    {b : R.RenderedSecretBundle} (h : R.renderSecretBundle environment baseDoc envDoc secretDoc = .ok b)
    (hjson : b.ReadsBack) {getSecretValue : String → String → Except String (Option String)}
    (hstore : getSecretValue b.aws.region b.aws.secretName = .ok (some b.secretString)) {p : Process}
    (hp : p.deployedSecretsLoaded = false) (hvars : p.environ.vars.Perm b.bootstrapEnvironment) :
    ∃ p' settings, R.mergeDeployedSecretsIntoEnviron getSecretValue none p = .ok p' ∧
      (∀ key ∉ deployedBootstrapEnvKeys,
        p'.environ.vars.get? key = (R.validationEnv b.appSecret b.aws.region).get? key ∧
        p'.environ.vars.get? key =
          R.rendering [appLayer baseDoc, appLayer envDoc, appLayer secretDoc] key ∧
        (p'.environ.vars.get? key = none ↔
          R.lastDefinition [appLayer baseDoc, appLayer envDoc, appLayer secretDoc] key = none ∨
          R.lastDefinition [appLayer baseDoc, appLayer envDoc, appLayer secretDoc] key =
            some (.scalar (.str unsetSentinel)))) ∧
      R.validateDeployedSettings b.appSecret b.aws.region = .ok settings ∧
      R.settings p'.environ.vars = .ok settings := by
  have hb := renderSecretBundle_ok h
  obtain ⟨p', hmerge, hproper, hget⟩ := merge_get? hR hb hjson hstore hp hvars
  obtain ⟨settings, hvalidated⟩ := hb.validated
  -- the environment of the service and the one that was validated agree, but for the id of the secret
  have hagree : ∀ key ≠ awsSecretsManagerSecretIdEnv,
      p'.environ.vars.get? key = (R.validationEnv b.appSecret b.aws.region).get? key := fun key hne => by
    rw [hget, hb.validationEnv_get?, hb.bootstrap_get? hne]
  refine ⟨p', settings, hmerge, fun key hnot => ?_, hvalidated, ?_⟩
  · have hne : key ≠ awsSecretsManagerSecretIdEnv := by
      rintro rfl
      exact hnot (by decide)
    have hrendering : p'.environ.vars.get? key =
        R.rendering [appLayer baseDoc, appLayer envDoc, appLayer secretDoc] key := by
      rw [hget, hb.bootstrap_none hnot, Option.or_none, hb.strings_get?]
    refine ⟨hagree key hne, hrendering, ?_⟩
    rw [hrendering]
    exact rendering_none hb.merged key
  · -- the settings depend on no other key
    obtain ⟨env, henv, hsettings⟩ := validated_with hvalidated
    rw [← hsettings]
    refine hR.settings_congr _ _ hproper henv.1 (fun k hk => ?_) fun k hne => ?_
    · rw [List.mem_append, not_or] at hk
      have hne : k ≠ awsSecretsManagerSecretIdEnv := by
        rintro rfl
        exact hk.2 (by decide)
      rw [henv.2, ← hagree k hne, hget, hb.strings_none hk.1, hb.bootstrap_none hk.2]
      exact ⟨rfl, rfl⟩
    · rw [henv.2, hagree k hne]

/-! ## A deployment -/

/-- A number in digits. -/
def readDigits (s : String) : Except String ℤ :=
  match s.toList.foldlM (fun n c => if c.isDigit then some (10 * n + (c.toNat - 48)) else none) 0 with
  | some n => .ok n
  | none => .error "Input should be a valid integer, unable to parse string as an integer"

/-- `Settings` on an environment that names its variables in capitals, enumerations in their
spelling. Of the fields that are not texts it reads the modes and the port, the only ones of the
deployment below. -/
def readSettings (get : String → Option String) : Except String Configuration := do
  let appEnv ← if get appEnvVar = some "local" then .ok AppEnv.local
    else if get appEnvVar = some appEnvDeployed then .ok .deployed
    else .error "Input should be 'local' or 'deployed'"
  let kafkaMode ← if get "KAFKA_MODE" = some "aws_msk" then .ok KafkaMode.awsMsk
    else if get "KAFKA_MODE" = some "local" ∨ get "KAFKA_MODE" = none then .ok .local
    else .error "Input should be 'local' or 'aws_msk'"
  let httpPort ← readDigits ((get "HTTP_PORT").getD "8080")
  Configuration.validate get
    { appEnv := appEnv
      redisUrl := get "REDIS_URL"
      redisUsername := get "REDIS_USERNAME"
      redisPassword := get "REDIS_PASSWORD"
      redisSequenceStateKeyPrefix :=
        (get "REDIS_SEQUENCE_STATE_KEY_PREFIX").getD defaultRedisSequenceStateKeyPrefix
      redisOwnershipGuardKeyPrefix :=
        (get "REDIS_OWNERSHIP_GUARD_KEY_PREFIX").getD defaultRedisOwnershipGuardKeyPrefix
      kafkaBootstrapServers := get "KAFKA_BOOTSTRAP_SERVERS"
      kafkaMode := kafkaMode
      kafkaTopic := (get "KAFKA_TOPIC").getD defaultKafkaTopic
      kafkaSslCaFile := get "KAFKA_SSL_CA_FILE"
      kafkaAwsRegion := get "KAFKA_AWS_REGION"
      authJwtSigningMaterial := get "AUTH_JWT_SIGNING_MATERIAL"
      httpPort := httpPort
      urlPathPrefix := (get "URL_PATH_PREFIX").getD "" }

/-- What the settings read: none of the fields is called `AWS_SECRETS_MANAGER_SECRET_ID`. -/
def settingOf (env : Dict String String) (name : String) : Option String :=
  if name = awsSecretsManagerSecretIdEnv then none else env.get? name

def sampleSecretString : String :=
  "\x7b\n  \"HTTP_PORT\": 9090,\n  \"KAFKA_BOOTSTRAP_SERVERS\": \"broker:9098\",\n" ++
  "  \"KAFKA_MODE\": \"aws_msk\",\n  \"REDIS_OWNERSHIP_GUARD_KEY_PREFIX\": \"prod:owner\",\n" ++
  "  \"REDIS_SEQUENCE_STATE_KEY_PREFIX\": \"prod:sequence\",\n  \"REDIS_URL\": \"rediss://cache:6379/0\"\n\x7d"

/-- The items of that secret. -/
def sampleItems : Dict String (Scalar ℚ) :=
  [("HTTP_PORT", .int 9090), ("KAFKA_BOOTSTRAP_SERVERS", .str "broker:9098"), ("KAFKA_MODE", .str "aws_msk"),
    ("REDIS_OWNERSHIP_GUARD_KEY_PREFIX", .str "prod:owner"),
    ("REDIS_SEQUENCE_STATE_KEY_PREFIX", .str "prod:sequence"), ("REDIS_URL", .str "rediss://cache:6379/0")]

/-- A reader of the one secret above. -/
def sampleLoads (raw : String) : Except String (SecretPayload ℚ) :=
  if raw = sampleSecretString then .ok (.object (sampleItems.map fun e => (e.1, .scalar e.2)))
  else .error "JSONDecodeError"

/-- ASCII casing, a JSON writer with an indent of two for strings without escapes, that reader, and the
settings. -/
abbrev asciiRuntime : Runtime where
  Float := ℚ
  strFloat := toString
  repr s := "'" ++ s ++ "'"
  upper s := String.ofList (s.toList.map Char.toUpper)
  lower s := String.ofList (s.toList.map Char.toLower)
  dumps items := "\x7b\n" ++ ",\n".intercalate (items.map fun e => "  \"" ++ e.1 ++ "\": " ++
    match e.2 with
    | .str s => "\"" ++ s ++ "\""
    | .int n => toString n
    | .float x => toString x
    | .bool b => if b then "true" else "false") ++ "\n\x7d"
  loads := sampleLoads
  Settings := Configuration
  settings env := readSettings (settingOf env)

/-- A port, a topic, and where the secret is. -/
def sampleBase : Toml ℚ :=
  [("app", .table [("http_port", .scalar (.int 8080)), ("kafka_topic", .scalar (.str "events"))]),
   ("aws", .table [("region", .scalar (.str "ap-east-1")), ("profile", .scalar (.str "prod")),
    ("secret_name", .scalar (.str " prod/transcribe "))])]

/-- Another port, no topic, and what a deployed service needs. -/
def sampleEnv : Toml ℚ :=
  [("app", .table [(" HTTP_Port ", .scalar (.int 9090)), ("Kafka_Topic", .scalar (.str unsetSentinel)),
    ("kafka_bootstrap_servers", .scalar (.str "broker:9098")), ("kafka_mode", .scalar (.str "aws_msk")),
    ("redis_ownership_guard_key_prefix", .scalar (.str "prod:owner")),
    ("redis_sequence_state_key_prefix", .scalar (.str "prod:sequence"))])]

def sampleSecrets : Toml ℚ := [("app", .table [("REDIS_URL", .scalar (.str "rediss://cache:6379/0"))])]

def sampleBundle : asciiRuntime.RenderedSecretBundle where
  environment := "prod"
  aws := ⟨"ap-east-1", "prod", "prod/transcribe", none⟩
  appSecret := sampleItems
  bootstrapEnvironment := [(appEnvVar, appEnvDeployed), (awsRegionEnv, "ap-east-1"),
    (awsSecretsManagerSecretIdEnv, "prod/transcribe")]

theorem asciiRuntime_documented : asciiRuntime.Documented where
  upper_self s h := by
    have hchars : s.toList.map Char.toUpper = s.toList.map id :=
      List.map_congr_left fun c hc => toUpper_of_isUpper (h c hc)
    show String.ofList (s.toList.map Char.toUpper) = s
    rw [hchars, List.map_id, String.ofList_toList]
  lower_self s h := by
    have hchars : s.toList.map Char.toLower = s.toList.map id :=
      List.map_congr_left fun c hc => toLower_of_isLower (h c hc)
    show String.ofList (s.toList.map Char.toLower) = s
    rw [hchars, List.map_id, String.ofList_toList]
  settings_congr env env' _ _ _ h := by
    have hsame : settingOf env = settingOf env' := by
      funext name
      unfold settingOf
      by_cases hname : name = awsSecretsManagerSecretIdEnv
      · rw [if_pos hname, if_pos hname]
      · rw [if_neg hname, if_neg hname, h name hname]
    exact congrArg readSettings hsame

theorem sample_merged : asciiRuntime.mergeAppLayers [appLayer sampleBase, appLayer sampleEnv, appLayer sampleSecrets] =
    .ok sampleBundle.appSecret := by
  decide +kernel

theorem sample_keys : ∀ e ∈ sampleBundle.appSecret, e.1 ∈ allowedSecretAppKeys := by
  decide +kernel

/-- The settings of the deployment: the port of the environment, the default topic, and the region of the
process. -/
theorem sample_validated : ∃ c : Configuration,
    asciiRuntime.validateDeployedSettings sampleBundle.appSecret "ap-east-1" = .ok c ∧
      c.httpPort.1 = 9090 ∧ c.kafkaTopic = defaultKafkaTopic ∧ c.kafkaAwsRegion = some "ap-east-1" :=
  ⟨_, rfl, rfl, rfl, rfl⟩

theorem sample_rendered :
    asciiRuntime.renderSecretBundle "prod" sampleBase sampleEnv sampleSecrets = .ok sampleBundle := by
  have hbase : asciiRuntime.loadTomlDocument "base.toml" true sampleBase = .ok (appLayer sampleBase,
      [("region", .scalar (.str "ap-east-1")), ("profile", .scalar (.str "prod")),
        ("secret_name", .scalar (.str " prod/transcribe "))]) := rfl
  have henv : asciiRuntime.loadTomlDocument ("prod" ++ ".toml") true sampleEnv = .ok (appLayer sampleEnv, []) := rfl
  have hsecret : asciiRuntime.loadTomlDocument ("prod" ++ ".secrets.toml") false sampleSecrets =
      .ok (appLayer sampleSecrets, []) := rfl
  have haws : asciiRuntime.loadAwsConfig [("region", .scalar (.str "ap-east-1")), ("profile", .scalar (.str "prod")),
      ("secret_name", .scalar (.str " prod/transcribe "))] [] = .ok sampleBundle.aws := rfl
  have hkeys := validateSecretAppKeys_ok.2 sample_keys
  obtain ⟨c, hsettings, -⟩ := sample_validated
  have hname : asciiRuntime.lower (strip "prod") = "prod" := by decide +kernel
  unfold renderSecretBundle
  rw [hname]
  simp only
  rw [if_neg (by decide), bind_of_ok hbase, bind_of_ok henv, bind_of_ok hsecret, bind_of_ok haws,
    bind_of_ok sample_merged, bind_of_ok hkeys]
  exact bind_of_ok hsettings _

theorem sampleLoads_ok {raw : String} (h : raw = sampleSecretString) :
    sampleLoads raw = .ok (.object (sampleItems.map fun e => (e.1, .scalar e.2))) :=
  if_pos h

theorem sample_readsBack : sampleBundle.ReadsBack := by
  have hsorted : sampleBundle.sortedItems = sampleItems := List.mergeSort_of_pairwise (by decide +kernel)
  have hraw : asciiRuntime.dumps sampleItems = sampleSecretString := by decide +kernel
  have hloads : asciiRuntime.loads = sampleLoads := rfl
  unfold RenderedSecretBundle.ReadsBack RenderedSecretBundle.secretString
  rewrite [hsorted, hloads]
  exact sampleLoads_ok hraw

/-- Secrets Manager with this one secret. -/
def sampleStore (region name : String) : Except String (Option String) :=
  if region = "ap-east-1" ∧ name = "prod/transcribe" then .ok (some sampleBundle.secretString)
  else .error "ResourceNotFoundException"

theorem sample_legal : ∀ e ∈ sampleBundle.bootstrapEnvironment, Legal e := by decide +kernel

/-- A service with the bootstrap environment. -/
def sampleService : Process := ⟨⟨sampleBundle.bootstrapEnvironment, sample_legal⟩, false⟩

/-- It finds the port of the environment and no topic, and runs with the settings that were validated. -/
theorem sample_runs : ∃ p' settings,
    asciiRuntime.mergeDeployedSecretsIntoEnviron sampleStore none sampleService = .ok p' ∧
    p'.environ.vars.get? "HTTP_PORT" = some "9090" ∧ p'.environ.vars.get? "KAFKA_TOPIC" = none ∧
    asciiRuntime.settings p'.environ.vars = .ok settings ∧ settings.httpPort.1 = 9090 ∧
    settings.kafkaTopic = defaultKafkaTopic ∧ settings.kafkaAwsRegion = some "ap-east-1" := by
  have hstore : sampleStore "ap-east-1" "prod/transcribe" = .ok (some sampleBundle.secretString) := if_pos ⟨rfl, rfl⟩
  obtain ⟨p', settings, hmerge, hkeys, hvalidated, hsettings⟩ := validated_is_what_runs asciiRuntime_documented
    sample_rendered sample_readsBack hstore (p := sampleService) rfl (.refl _)
  have hport := (hkeys "HTTP_PORT" (by decide)).2.1
  have htopic := (hkeys "KAFKA_TOPIC" (by decide)).2.1
  have hport' : asciiRuntime.rendering [appLayer sampleBase, appLayer sampleEnv, appLayer sampleSecrets] "HTTP_PORT" =
      some "9090" := by
    decide +kernel
  have htopic' : asciiRuntime.rendering [appLayer sampleBase, appLayer sampleEnv, appLayer sampleSecrets] "KAFKA_TOPIC" =
      none := by
    decide +kernel
  obtain ⟨c, hc, hfields⟩ := sample_validated
  obtain rfl : c = settings := Except.ok.inj (hc.symm.trans hvalidated)
  exact ⟨p', c, hmerge, hport.trans hport', htopic.trans htopic', hsettings, hfields⟩

end Runtime

end Transcribe
