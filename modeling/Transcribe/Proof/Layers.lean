import Transcribe.Proof.Deployed

/-!
# The layers of a deployed configuration

The loader puts three layers on top of each other: `.env`, the process environment, the secret.
The first and the last have upper-case names, the process keeps its own.

* `merge_vars`: the environment the loader leaves, as updates of the initial one.
* `bootstrap_kept_iff`: the bootstrap variables are as they were exactly if neither `.env` nor the
  secret defines one that the process does not have.
* `precedence_iff`: `Settings` reads the secret's value, else the process's, else that of `.env`,
  exactly if the deciding spelling is not overtaken by another one that stands behind it.
-/

namespace Transcribe

namespace Runtime

variable {R : Runtime} {getSecretValue : String → String → Except String (Option String)}
  {dotenv : Option (Dict String (Option String))} {payload : Dict String (SecretValue R.Float)}
  {p p' : Process}

/-! ## The secret and `.env` -/

/-- The secret has an entry for a variable, keys compared after strip and upper-casing. -/
def SecretDefines (R : Runtime) (payload : Dict String (SecretValue R.Float)) (key : String) : Prop :=
  ∃ e ∈ payload, strip e.1 ≠ "" ∧ R.normalizeKey e.1 = key

/-- A line of `.env` has a name and a value. -/
def Filled (e : String × Option String) : Prop :=
  strip e.1 ≠ "" ∧ ∃ value, e.2 = some value ∧ strip value ≠ ""

/-- `.env` has a filled line for a variable. -/
def DotenvDefines (R : Runtime) (dotenv : Option (Dict String (Option String))) (key : String) : Prop :=
  ∃ e ∈ dotenv.getD [], Filled e ∧ R.normalizeKey e.1 = key

theorem secretEntryToEnv_ok {out out' : Dict String String} {e : String × SecretValue R.Float}
    (h : R.secretEntryToEnv out e = .ok out') :
    (strip e.1 = "" ∧ out' = out) ∨ (strip e.1 ≠ "" ∧ ∃ value, out' = out.set (R.normalizeKey e.1) value) := by
  unfold secretEntryToEnv at h
  by_cases hblank : strip e.1 = ""
  · rw [if_pos hblank] at h
    exact .inl ⟨hblank, (Except.ok.inj h).symm⟩
  · rw [if_neg hblank] at h
    cases hvalue : R.secretScalarToStr e.2 with
    | error text =>
      rw [hvalue] at h
      cases h
    | ok value =>
      rw [hvalue] at h
      exact .inr ⟨hblank, value, (Except.ok.inj h).symm⟩

theorem secretEntries_keys {out kv : Dict String String} (hout : out.Proper)
    (h : payload.foldlM R.secretEntryToEnv out = .ok kv) :
    kv.Proper ∧ ∀ key, key ∈ kv.map Prod.fst ↔ key ∈ out.map Prod.fst ∨ R.SecretDefines payload key := by
  induction payload generalizing out with
  | nil =>
    cases h
    exact ⟨hout, fun key => by simp [SecretDefines]⟩
  | cons e payload ih =>
    rw [List.foldlM_cons] at h
    obtain ⟨out', hentry, hrest⟩ := bind_eq_ok h
    have hdefines : ∀ key, R.SecretDefines (e :: payload) key ↔
        (strip e.1 ≠ "" ∧ R.normalizeKey e.1 = key) ∨ R.SecretDefines payload key := by
      simp [SecretDefines]
    rcases secretEntryToEnv_ok hentry with ⟨hblank, rfl⟩ | ⟨hname, value, rfl⟩
    · obtain ⟨hproper, hkeys⟩ := ih hout hrest
      refine ⟨hproper, fun key => ?_⟩
      rw [hkeys, hdefines]
      simp [hblank]
    · obtain ⟨hproper, hkeys⟩ := ih (hout.set _ _) hrest
      refine ⟨hproper, fun key => ?_⟩
      rw [hkeys, hdefines, Dict.mem_keys_set, eq_comm, or_comm (b := key ∈ _), or_assoc]
      simp [hname]

/-- The variables of the secret are those it has entries for. -/
theorem secretJsonToEnvKv_keys {kv : Dict String String} (h : R.secretJsonToEnvKv payload = .ok kv) :
    kv.Proper ∧ ∀ key, key ∈ kv.map Prod.fst ↔ R.SecretDefines payload key := by
  obtain ⟨hproper, hkeys⟩ := secretEntries_keys Dict.Proper.nil h
  exact ⟨hproper, fun key => by rw [hkeys]; simp⟩

/-- One line of `.env`. -/
def dotenvEntry (R : Runtime) (out : Dict String String) (e : String × Option String) : Dict String String :=
  if strip e.1 = "" then out
  else
    match e.2 with
    | none => out
    | some value => if strip value = "" then out else out.set (R.normalizeKey e.1) (strip value)

theorem dotenvEntry_cases (out : Dict String String) (e : String × Option String) :
    (¬ Filled e ∧ R.dotenvEntry out e = out) ∨
      (Filled e ∧ ∃ value, R.dotenvEntry out e = out.set (R.normalizeKey e.1) value) := by
  unfold dotenvEntry
  by_cases hname : strip e.1 = ""
  · exact .inl ⟨fun h => h.1 hname, if_pos hname⟩
  · rw [if_neg hname]
    cases hvalue : e.2 with
    | none =>
      refine .inl ⟨?_, rfl⟩
      rintro ⟨-, value, heq, -⟩
      cases hvalue.symm.trans heq
    | some value =>
      by_cases hblank : strip value = ""
      · refine .inl ⟨?_, if_pos hblank⟩
        rintro ⟨-, v, heq, hne⟩
        cases hvalue.symm.trans heq
        exact hne hblank
      · exact .inr ⟨⟨hname, value, hvalue, hblank⟩, strip value, if_neg hblank⟩

theorem dotenvEntries_keys (lines : Dict String (Option String)) {out : Dict String String} (hout : out.Proper) :
    (lines.foldl R.dotenvEntry out).Proper ∧ ∀ key, key ∈ (lines.foldl R.dotenvEntry out).map Prod.fst ↔
      key ∈ out.map Prod.fst ∨ R.DotenvDefines (some lines) key := by
  induction lines generalizing out with
  | nil => exact ⟨hout, fun key => by simp [DotenvDefines]⟩
  | cons e lines ih =>
    have hdefines : ∀ key, R.DotenvDefines (some (e :: lines)) key ↔
        (Filled e ∧ R.normalizeKey e.1 = key) ∨ R.DotenvDefines (some lines) key := by
      simp [DotenvDefines]
    rw [List.foldl_cons]
    rcases R.dotenvEntry_cases out e with ⟨hskip, heq⟩ | ⟨hfilled, value, heq⟩
    · rw [heq]
      refine ⟨(ih hout).1, fun key => ?_⟩
      have hline : ¬ (Filled e ∧ R.normalizeKey e.1 = key) := fun h => hskip h.1
      rw [(ih hout).2, hdefines, or_iff_right hline]
    · rw [heq]
      refine ⟨(ih (hout.set _ _)).1, fun key => ?_⟩
      rw [(ih (hout.set _ _)).2, hdefines, Dict.mem_keys_set, eq_comm, or_comm (b := key ∈ _), or_assoc,
        and_iff_right hfilled]

/-- The variables of `.env` are those it has entries for. -/
theorem loadDotenvLayer_keys (dotenv : Option (Dict String (Option String))) :
    (R.loadDotenvLayer dotenv).Proper ∧
      ∀ key, key ∈ (R.loadDotenvLayer dotenv).map Prod.fst ↔ R.DotenvDefines dotenv key := by
  have hfold : R.loadDotenvLayer dotenv = (dotenv.getD []).foldl R.dotenvEntry [] := rfl
  obtain ⟨hproper, hkeys⟩ := dotenvEntries_keys (R := R) (dotenv.getD []) Dict.Proper.nil
  rw [hfold]
  exact ⟨hproper, fun key => by rw [hkeys]; simp [DotenvDefines]⟩

/-! ## The environment afterwards -/

/-- The region the loader asks. -/
def region (initial : Dict String String) : String :=
  let awsRegion := (initial.get? awsRegionEnv).getD ""
  strip (if awsRegion = "" then (initial.get? awsDefaultRegionEnv).getD "" else awsRegion)

/-- The name of the secret. -/
def secretId (initial : Dict String String) : String := strip ((initial.get? awsSecretsManagerSecretIdEnv).getD "")

/-- A process before the loader runs: its environment says `APP_ENV=deployed` and names a
secret, which holds `payload`. -/
structure Starting (R : Runtime) (getSecretValue : String → String → Except String (Option String))
    (payload : Dict String (SecretValue R.Float)) (p : Process) : Prop where
  proper : p.environ.vars.Proper
  notLoaded : p.deployedSecretsLoaded = false
  appEnv : R.lower (strip ((p.environ.vars.get? appEnvVar).getD "")) = appEnvDeployed
  named : secretId p.environ.vars ≠ ""
  secret : ∃ raw, getSecretValue (region p.environ.vars) (secretId p.environ.vars) = .ok (some raw) ∧
    R.loads raw = .ok (.object payload)

/-- The three layers on top of each other. -/
def layered (dotenvLayer initial secretKv : Dict String String) : Dict String String :=
  ((Dict.update [] dotenvLayer).update initial).update secretKv

/-- **The environment the loader leaves**: the layers put into the one that was there. -/
theorem merge_vars (h : R.Starting getSecretValue payload p)
    (hmerge : R.mergeDeployedSecretsIntoEnviron getSecretValue dotenv p = .ok p') :
    ∃ kv, R.secretJsonToEnvKv payload = .ok kv ∧ p'.environ.vars = p.environ.vars.update
      (restored p.environ.vars deployedBootstrapEnvKeys (layered (R.loadDotenvLayer dotenv) p.environ.vars kv)) := by
  obtain ⟨raw, hanswer, hloads⟩ := h.secret
  unfold region secretId at hanswer
  have hnamed := h.named
  unfold secretId at hnamed
  unfold mergeDeployedSecretsIntoEnviron at hmerge
  simp only [h.notLoaded, h.appEnv, hnamed, hanswer, hloads, Bool.false_eq_true, ne_eq, not_true_eq_false,
    if_false] at hmerge
  obtain ⟨kv, hkv, hmerge⟩ := bind_eq_ok hmerge
  obtain ⟨environ, hupdate, hmerge⟩ := bind_eq_ok hmerge
  cases hmerge
  exact ⟨kv, hkv, (Environ.legal_of_update hupdate).2⟩

/-- The loader returns if the variables are ones the operating system takes. -/
theorem merge_returns (h : R.Starting getSecretValue payload p) {kv : Dict String String}
    (hkv : R.secretJsonToEnvKv payload = .ok kv) (hlegal : ∀ e ∈ R.loadDotenvLayer dotenv ++ kv, Legal e) :
    ∃ p', R.mergeDeployedSecretsIntoEnviron getSecretValue dotenv p = .ok p' := by
  obtain ⟨raw, hanswer, hloads⟩ := h.secret
  unfold region secretId at hanswer
  have hnamed := h.named
  unfold secretId at hnamed
  have hlayered : ∀ e ∈ layered (R.loadDotenvLayer dotenv) p.environ.vars kv, Legal e :=
    Environ.legal_update
      (Environ.legal_update
        (Environ.legal_update (fun _ hmem => absurd hmem List.not_mem_nil)
          fun e he => hlegal e (List.mem_append_left _ he))
        p.environ.legal)
      fun e he => hlegal e (List.mem_append_right _ he)
  obtain ⟨environ, hupdate, -⟩ := p.environ.update_ok
    (legal_restored p.environ.legal hlayered deployedBootstrapEnvKeys)
  refine ⟨⟨environ, true⟩, ?_⟩
  unfold mergeDeployedSecretsIntoEnviron
  simp only [h.notLoaded, h.appEnv, hnamed, hanswer, hloads, hkv, Bool.false_eq_true, ne_eq, not_true_eq_false,
    if_false]
  exact bind_of_ok hupdate _

theorem get?_layered {dotenvLayer initial secretKv : Dict String String} (hd : dotenvLayer.Proper)
    (hi : initial.Proper) (hs : secretKv.Proper) (key : String) :
    (layered dotenvLayer initial secretKv).get? key =
      (secretKv.get? key).or ((initial.get? key).or (dotenvLayer.get? key)) := by
  unfold layered
  rw [Dict.get?_update hs, Dict.get?_update hi, Dict.get?_update hd, Dict.get?_nil, Option.or_none]

theorem proper_layered (dotenvLayer initial secretKv : Dict String String) :
    (layered dotenvLayer initial secretKv).Proper := Dict.Proper.nil.update.update.update

/-- A variable afterwards. -/
theorem merge_vars_get? (h : R.Starting getSecretValue payload p) {kv : Dict String String} (hs : kv.Proper)
    (key : String) :
    (p.environ.vars.update (restored p.environ.vars deployedBootstrapEnvKeys
      (layered (R.loadDotenvLayer dotenv) p.environ.vars kv))).get? key =
      if key ∈ deployedBootstrapEnvKeys then
        (p.environ.vars.get? key).or ((kv.get? key).or ((R.loadDotenvLayer dotenv).get? key))
      else (kv.get? key).or ((p.environ.vars.get? key).or ((R.loadDotenvLayer dotenv).get? key)) := by
  have hlayered := get?_layered (R.loadDotenvLayer_keys dotenv).1 h.proper hs key
  have hproper := @proper_restored p.environ.vars _
    (proper_layered (R.loadDotenvLayer dotenv) p.environ.vars kv) deployedBootstrapEnvKeys
  rw [Dict.get?_update hproper, get?_restored, hlayered]
  cases p.environ.vars.get? key with
  | none => simp
  | some value =>
    split
    · rfl
    · cases kv.get? key <;> rfl

/-! ## Bootstrap variables -/

/-- **The bootstrap variables are as they were exactly if neither layer defines one that the
process does not have.** -/
theorem bootstrap_kept_iff (h : R.Starting getSecretValue payload p)
    (hmerge : R.mergeDeployedSecretsIntoEnviron getSecretValue dotenv p = .ok p') :
    (∀ key ∈ deployedBootstrapEnvKeys, p'.environ.vars.get? key = p.environ.vars.get? key) ↔
      ∀ key ∈ deployedBootstrapEnvKeys, p.environ.vars.get? key = none →
        ¬ R.SecretDefines payload key ∧ ¬ R.DotenvDefines dotenv key := by
  obtain ⟨kv, hkv, hvars⟩ := merge_vars h hmerge
  obtain ⟨hproper, hsecret⟩ := secretJsonToEnvKv_keys hkv
  have hdotenv := (R.loadDotenvLayer_keys dotenv).2
  refine forall₂_congr fun key hkey => ?_
  have hget : p'.environ.vars.get? key = (p.environ.vars.get? key).or
      ((kv.get? key).or ((R.loadDotenvLayer dotenv).get? key)) := by
    rw [hvars, merge_vars_get? h hproper, if_pos hkey]
  rw [hget, ← hsecret, ← hdotenv, ← Dict.get?_eq_none, ← Dict.get?_eq_none]
  cases p.environ.vars.get? key with
  | none => simp
  | some value => simp

/-! ## Settings -/

/-- The names in the order they have in the environment afterwards: those of the process,
behind them the new ones of `.env`, then the new ones of the secret. -/
def environOrder (dotenvLayer initial secretKv : Dict String String) : List String :=
  initial.map Prod.fst ++
    ((dotenvLayer.map Prod.fst).filter fun k => decide (k ∉ initial.map Prod.fst)) ++
    ((secretKv.map Prod.fst).filter fun k => decide (k ∉ initial.map Prod.fst ∧ k ∉ dotenvLayer.map Prod.fst))

theorem keys_restored {initial merged : Dict String String} {keys : List String}
    (h : ∀ k ∈ initial.map Prod.fst, k ∈ merged.map Prod.fst) :
    (restored initial keys merged).map Prod.fst = merged.map Prod.fst := by
  induction keys generalizing merged with
  | nil => rfl
  | cons key keys ih =>
    unfold restored at ih ⊢
    rw [List.foldl_cons]
    cases hkey : initial.get? key with
    | none => exact ih h
    | some value =>
      have hmem : key ∈ merged.map Prod.fst := h key (List.mem_map_of_mem (Dict.mem_of_get? hkey))
      have hset : (merged.set key value).map Prod.fst = merged.map Prod.fst := by
        rw [Dict.keys_set, if_pos hmem, List.append_nil]
      rw [← hset]
      exact ih fun k hk => hset ▸ h k hk

theorem keys_layered {dotenvLayer initial secretKv : Dict String String} (hd : dotenvLayer.Proper)
    (hi : initial.Proper) (hs : secretKv.Proper) :
    (layered dotenvLayer initial secretKv).map Prod.fst =
      dotenvLayer.map Prod.fst ++ ((initial.map Prod.fst).filter fun k => decide (k ∉ dotenvLayer.map Prod.fst)) ++
        ((secretKv.map Prod.fst).filter fun k => decide (k ∉ initial.map Prod.fst ∧ k ∉ dotenvLayer.map Prod.fst)) := by
  have hlower : (Dict.update [] dotenvLayer).map Prod.fst = dotenvLayer.map Prod.fst := by
    rw [Dict.keys_update hd]
    simp
  unfold layered
  rw [Dict.keys_update hs, Dict.keys_update hi, hlower]
  congr 1
  refine List.filter_congr fun k _ => decide_eq_decide.2 ?_
  rw [List.mem_append, List.mem_filter, decide_eq_true_eq]
  tauto

/-- **Where the variables stand afterwards.** -/
theorem merge_vars_keys (h : R.Starting getSecretValue payload p) {kv : Dict String String} (hs : kv.Proper) :
    (p.environ.vars.update (restored p.environ.vars deployedBootstrapEnvKeys
      (layered (R.loadDotenvLayer dotenv) p.environ.vars kv))).map Prod.fst =
      environOrder (R.loadDotenvLayer dotenv) p.environ.vars kv := by
  have hkeys := keys_layered (R.loadDotenvLayer_keys dotenv).1 h.proper hs
  have hinitial : ∀ k ∈ p.environ.vars.map Prod.fst,
      k ∈ (layered (R.loadDotenvLayer dotenv) p.environ.vars kv).map Prod.fst := by
    intro k hk
    rw [hkeys, List.mem_append, List.mem_append, List.mem_filter, decide_eq_true_eq]
    tauto
  have hproper := @proper_restored p.environ.vars _
    (proper_layered (R.loadDotenvLayer dotenv) p.environ.vars kv) deployedBootstrapEnvKeys
  rw [Dict.keys_update hproper, keys_restored hinitial, hkeys]
  unfold environOrder
  rw [List.filter_append, List.filter_append, ← List.append_assoc]
  have hprocess : ((p.environ.vars.map Prod.fst).filter fun k =>
      decide (k ∉ (R.loadDotenvLayer dotenv).map Prod.fst)).filter
        (fun k => decide (k ∉ p.environ.vars.map Prod.fst)) = [] := by
    refine List.filter_eq_nil_iff.2 fun k hk => ?_
    simpa using (List.mem_filter.1 hk).1
  have hsecret : ((kv.map Prod.fst).filter fun k => decide (k ∉ p.environ.vars.map Prod.fst ∧
      k ∉ (R.loadDotenvLayer dotenv).map Prod.fst)).filter (fun k => decide (k ∉ p.environ.vars.map Prod.fst)) =
      (kv.map Prod.fst).filter fun k => decide (k ∉ p.environ.vars.map Prod.fst ∧
        k ∉ (R.loadDotenvLayer dotenv).map Prod.fst) := by
    refine List.filter_eq_self.2 fun k hk => ?_
    exact decide_eq_true (of_decide_eq_true (List.mem_filter.1 hk).2).1
  rw [hprocess, hsecret, List.append_nil]

/-- The value of the secret, else of the process, else of `.env`, each read by itself. -/
def precedence (R : Runtime) (dotenvLayer initial secretKv : Dict String String) (name : String) : Option String :=
  (R.settingsValue secretKv name).or ((R.settingsValue initial name).or (R.settingsValue dotenvLayer name))

/-- The last spelling of a name in a layer. -/
def lastSpelling (R : Runtime) (d : Dict String String) (name : String) : Option String :=
  Dict.spelling R.lower name (d.map Prod.fst)

/-- The spelling that decides is not overtaken by one with another value. If the secret gives the
name, its last spelling also stands last in the environment, or the one that does has, in the
highest layer with it, the same value. Otherwise, if the process gives the name, `.env` adds no
other spelling, or the last it adds has the same value. -/
def Settled (R : Runtime) (dotenvLayer initial secretKv : Dict String String) (name : String) : Prop :=
  match R.lastSpelling secretKv name, R.lastSpelling initial name with
  | some s, _ => ∀ w, Dict.spelling R.lower name (environOrder dotenvLayer initial secretKv) = some w →
      w = s ∨ (secretKv.get? w).or ((initial.get? w).or (dotenvLayer.get? w)) = secretKv.get? s
  | none, some s => ∀ w, Dict.spelling R.lower name
      ((dotenvLayer.map Prod.fst).filter fun k => decide (k ∉ initial.map Prod.fst)) = some w →
      dotenvLayer.get? w = initial.get? s
  | none, none => True

section Reading

variable {dotenvLayer initial secretKv vars : Dict String String} {name : String}

theorem settingsValue_eq (h : vars.Proper) :
    R.settingsValue vars name = (R.lastSpelling vars name).bind vars.get? := Dict.reading_eq h

/-- A layer without a spelling of the name has no value for any. -/
theorem get?_of_lastSpelling (h : R.lastSpelling vars name = none) {w : String} (hw : R.lower w = name) :
    vars.get? w = none := Dict.get?_eq_none.2 fun hmem => Dict.spelling_eq_none.1 h w hmem hw

theorem spelling_filter {keys : List String} {q : String → Bool} (h : R.lastSpelling vars name = none)
    (hkeys : ∀ k ∈ keys, q k = true → k ∈ vars.map Prod.fst) :
    Dict.spelling R.lower name (keys.filter q) = none := by
  refine Dict.spelling_eq_none.2 fun k hk => ?_
  obtain ⟨hmem, hq⟩ := List.mem_filter.1 hk
  exact Dict.spelling_eq_none.1 h k (hkeys k hmem hq)

/-- What is read of the three layers together, against the first of them that gives the name. -/
theorem reading_iff (hd : dotenvLayer.Proper) (hi : initial.Proper) (hs : secretKv.Proper) (hvars : vars.Proper)
    (hkeys : vars.map Prod.fst = environOrder dotenvLayer initial secretKv)
    (hget : ∀ w, R.lower w = name → vars.get? w =
      (secretKv.get? w).or ((initial.get? w).or (dotenvLayer.get? w))) :
    R.settingsValue vars name = R.precedence dotenvLayer initial secretKv name ↔
      R.Settled dotenvLayer initial secretKv name := by
  have hread : R.settingsValue vars name =
      (Dict.spelling R.lower name (environOrder dotenvLayer initial secretKv)).bind vars.get? := by
    rw [settingsValue_eq hvars, ← hkeys]
    rfl
  unfold precedence
  rw [hread, settingsValue_eq hd, settingsValue_eq hi, settingsValue_eq hs]
  cases hsecret : R.lastSpelling secretKv name with
  | some s =>
    obtain ⟨hmem, hname⟩ := Dict.mem_of_spelling hsecret
    obtain ⟨v, hv⟩ := Option.ne_none_iff_exists'.1 fun hnone => Dict.get?_eq_none.1 hnone hmem
    have horder : s ∈ environOrder dotenvLayer initial secretKv := by
      unfold environOrder
      rw [List.mem_append, List.mem_append, List.mem_filter, List.mem_filter, decide_eq_true_eq, decide_eq_true_eq]
      tauto
    obtain ⟨w, hw⟩ := Option.ne_none_iff_exists'.1 fun hnone =>
      Dict.spelling_eq_none.1 hnone s horder hname
    unfold Settled
    rw [hsecret, hw, Option.bind_some, Option.bind_some, hv, Option.some_or, hget w (Dict.mem_of_spelling hw).2]
    constructor
    · rintro heq w' ⟨⟩
      exact .inr (heq.trans hv.symm)
    · intro h
      rcases h w rfl with rfl | heq
      · rw [hv, Option.some_or]
      · exact heq.trans hv
  | none =>
    have hnew : Dict.spelling R.lower name ((secretKv.map Prod.fst).filter fun k =>
        decide (k ∉ initial.map Prod.fst ∧ k ∉ dotenvLayer.map Prod.fst)) = none :=
      spelling_filter hsecret fun k hk _ => hk
    unfold environOrder Settled
    rw [Dict.spelling_append, hnew, Option.none_or, Dict.spelling_append, Option.bind_none, Option.none_or, hsecret]
    cases hprocess : R.lastSpelling initial name with
    | some s =>
      obtain ⟨hmem, hname⟩ := Dict.mem_of_spelling hprocess
      obtain ⟨v, hv⟩ := Option.ne_none_iff_exists'.1 fun hnone => Dict.get?_eq_none.1 hnone hmem
      have hlast : Dict.spelling R.lower name (initial.map Prod.fst) = some s := hprocess
      rw [hlast, Option.bind_some, hv, Option.some_or]
      cases hadded : Dict.spelling R.lower name
          ((dotenvLayer.map Prod.fst).filter fun k => decide (k ∉ initial.map Prod.fst)) with
      | none =>
        -- `.env` adds no spelling: the one of the process stands last
        have hvalue : vars.get? s = some v := by
          rw [hget s hname, get?_of_lastSpelling hsecret hname, hv]
          rfl
        exact iff_of_true hvalue nofun
      | some w =>
        -- the spelling that `.env` adds stands behind those of the process
        obtain ⟨hfilter, hw⟩ := Dict.mem_of_spelling hadded
        have habsent : initial.get? w = none :=
          Dict.get?_eq_none.2 (of_decide_eq_true (List.mem_filter.1 hfilter).2)
        have hvalue : vars.get? w = dotenvLayer.get? w := by
          rw [hget w hw, get?_of_lastSpelling hsecret hw, habsent, Option.none_or, Option.none_or]
        rw [Option.some_or, Option.bind_some, hvalue]
        constructor
        · rintro heq w' ⟨⟩
          exact heq.trans hv.symm
        · intro h
          exact (h w rfl).trans hv
    | none =>
      have hfilter : Dict.spelling R.lower name
          ((dotenvLayer.map Prod.fst).filter fun k => decide (k ∉ initial.map Prod.fst)) =
          R.lastSpelling dotenvLayer name := by
        unfold lastSpelling Dict.spelling
        rw [List.filter_filter]
        refine congrArg List.getLast? (List.filter_congr fun k _ => ?_)
        by_cases hk : R.lower k = name
        · have hnot : k ∉ initial.map Prod.fst := fun hmem => Dict.spelling_eq_none.1 hprocess k hmem hk
          rw [decide_eq_true hk, decide_eq_true hnot]
          rfl
        · rw [decide_eq_false hk]
          rfl
      have hlast : Dict.spelling R.lower name (initial.map Prod.fst) = none := hprocess
      rw [hfilter, hlast, Option.or_none, Option.bind_none, Option.none_or]
      refine iff_of_true ?_ trivial
      cases hdotenv : R.lastSpelling dotenvLayer name with
      | none => rfl
      | some w =>
        have hw := (Dict.mem_of_spelling hdotenv).2
        rw [Option.bind_some, Option.bind_some, hget w hw, get?_of_lastSpelling hsecret hw,
          get?_of_lastSpelling hprocess hw, Option.none_or, Option.none_or]

end Reading

/-- **`Settings` reads the value that comes first in precedence exactly if the name is settled.** -/
theorem precedence_iff (h : R.Starting getSecretValue payload p)
    (hmerge : R.mergeDeployedSecretsIntoEnviron getSecretValue dotenv p = .ok p') :
    ∃ kv, R.secretJsonToEnvKv payload = .ok kv ∧ ∀ name, (∀ key ∈ deployedBootstrapEnvKeys, R.lower key ≠ name) →
      (R.settingsValue p'.environ.vars name = R.precedence (R.loadDotenvLayer dotenv) p.environ.vars kv name ↔
        R.Settled (R.loadDotenvLayer dotenv) p.environ.vars kv name) := by
  obtain ⟨kv, hkv, hvars⟩ := merge_vars h hmerge
  have hs := (secretJsonToEnvKv_keys hkv).1
  refine ⟨kv, hkv, fun name hname => ?_⟩
  have hproper : p'.environ.vars.Proper := hvars ▸ h.proper.update
  refine reading_iff (R.loadDotenvLayer_keys dotenv).1 h.proper hs hproper ?_ fun w hw => ?_
  · rw [hvars]
    exact merge_vars_keys h hs
  · have hnot : w ∉ deployedBootstrapEnvKeys := fun hmem => hname w hmem hw
    rw [hvars, merge_vars_get? h hs, if_neg hnot]

/-! ## Deployments -/

def regionSecret : String := "\x7b\"aws_region\": \"eu-west-1\"\x7d"

def portSecret : String := "\x7b\"HTTP_PORT\": 9090\x7d"

/-- A secret that holds a region, and one that holds a port. -/
abbrev twoSecrets : Runtime :=
  { asciiRuntime with
    loads := fun raw =>
      if raw = regionSecret then .ok (.object [("aws_region", .scalar (.str "eu-west-1"))])
      else if raw = portSecret then .ok (.object [("HTTP_PORT", .scalar (.int 9090))])
      else .error "JSONDecodeError" }

/-- Secrets Manager with these two. -/
def namedStore (_ name : String) : Except String (Option String) :=
  if name = "region" then .ok (some regionSecret)
  else if name = "port" then .ok (some portSecret)
  else .error "ResourceNotFoundException"

/-- The region is under `AWS_DEFAULT_REGION`, where the secret does not put it. -/
def otherRegion : Process :=
  ⟨⟨[(appEnvVar, appEnvDeployed), (awsSecretsManagerSecretIdEnv, "region"), (awsDefaultRegionEnv, "ap-east-1")],
    by decide +kernel⟩, false⟩

/-- The process has both regions. -/
def bothRegions : Process :=
  ⟨⟨[(appEnvVar, appEnvDeployed), (awsSecretsManagerSecretIdEnv, "region"), (awsRegionEnv, "ap-east-1"),
    (awsDefaultRegionEnv, "ap-east-1")], by decide +kernel⟩, false⟩

/-- The process writes a setting in lower case. -/
def lowerCase : Process :=
  ⟨⟨[(appEnvVar, appEnvDeployed), (awsSecretsManagerSecretIdEnv, "port"), ("redis_url", "redis://process")],
    by decide +kernel⟩, false⟩

theorem otherRegion_starting :
    twoSecrets.Starting namedStore [("aws_region", .scalar (.str "eu-west-1"))] otherRegion where
  proper := by
    unfold Dict.Proper
    decide +kernel
  notLoaded := rfl
  appEnv := by decide +kernel
  named := by decide +kernel
  secret := ⟨regionSecret, by decide +kernel, rfl⟩

theorem bothRegions_starting :
    twoSecrets.Starting namedStore [("aws_region", .scalar (.str "eu-west-1"))] bothRegions where
  proper := by
    unfold Dict.Proper
    decide +kernel
  notLoaded := rfl
  appEnv := by decide +kernel
  named := by decide +kernel
  secret := ⟨regionSecret, by decide +kernel, rfl⟩

theorem lowerCase_starting : twoSecrets.Starting namedStore [("HTTP_PORT", .scalar (.int 9090))] lowerCase where
  proper := by
    unfold Dict.Proper
    decide +kernel
  notLoaded := rfl
  appEnv := by decide +kernel
  named := by decide +kernel
  secret := ⟨portSecret, by decide +kernel, rfl⟩

theorem region_kv : twoSecrets.secretJsonToEnvKv [("aws_region", .scalar (.str "eu-west-1"))] =
    .ok [(awsRegionEnv, "eu-west-1")] := by decide +kernel

theorem port_kv : twoSecrets.secretJsonToEnvKv [("HTTP_PORT", .scalar (.int 9090))] =
    .ok [("HTTP_PORT", "9090")] := by decide +kernel

/-- **The secret introduces a region**, and the Kafka client takes it for its own. -/
theorem region_introduced : ∃ p', twoSecrets.mergeDeployedSecretsIntoEnviron namedStore none otherRegion = .ok p' ∧
    otherRegion.environ.vars.get? awsRegionEnv = none ∧ p'.environ.vars.get? awsRegionEnv = some "eu-west-1" ∧
    kafkaRegion otherRegion.environ.vars.get? .awsMsk none = .ok (some "ap-east-1") ∧
    kafkaRegion p'.environ.vars.get? .awsMsk none = .ok (some "eu-west-1") := by
  obtain ⟨p', hmerge⟩ := @merge_returns _ _ none _ _ otherRegion_starting _ region_kv (by decide +kernel)
  obtain ⟨kv, hkv, hvars⟩ := merge_vars otherRegion_starting hmerge
  cases region_kv.symm.trans hkv
  refine ⟨p', hmerge, by decide +kernel, ?_, by decide +kernel, ?_⟩
  · rw [hvars]
    decide +kernel
  · rw [hvars]
    decide +kernel

/-- A process with both regions keeps them. -/
theorem regions_kept : ∃ p', twoSecrets.mergeDeployedSecretsIntoEnviron namedStore none bothRegions = .ok p' ∧
    ∀ key ∈ deployedBootstrapEnvKeys, p'.environ.vars.get? key = bothRegions.environ.vars.get? key := by
  obtain ⟨p', hmerge⟩ := @merge_returns _ _ none _ _ bothRegions_starting _ region_kv (by decide +kernel)
  refine ⟨p', hmerge, (bootstrap_kept_iff bothRegions_starting hmerge).2 fun key hkey hnone => ?_⟩
  have hall : ∀ key ∈ deployedBootstrapEnvKeys, bothRegions.environ.vars.get? key ≠ none := by decide +kernel
  exact absurd hnone (hall key hkey)

/-- **`.env` wins against the process**, which spells the name in lower case. -/
theorem dotenv_overtakes : ∃ p' kv, twoSecrets.mergeDeployedSecretsIntoEnviron namedStore
      (some [("REDIS_URL", some "redis://dotenv")]) lowerCase = .ok p' ∧
    twoSecrets.secretJsonToEnvKv [("HTTP_PORT", .scalar (.int 9090))] = .ok kv ∧
    twoSecrets.settingsValue kv "redis_url" = none ∧
    twoSecrets.settingsValue lowerCase.environ.vars "redis_url" = some "redis://process" ∧
    twoSecrets.settingsValue p'.environ.vars "redis_url" = some "redis://dotenv" := by
  obtain ⟨p', hmerge⟩ := @merge_returns _ _ (some [("REDIS_URL", some "redis://dotenv")]) _ _
    lowerCase_starting _ port_kv (by decide +kernel)
  obtain ⟨kv, hkv, hvars⟩ := merge_vars lowerCase_starting hmerge
  cases port_kv.symm.trans hkv
  refine ⟨p', _, hmerge, port_kv, by decide +kernel, by decide +kernel, ?_⟩
  rw [hvars]
  decide +kernel

/-- The port of the secret wins against that of `.env`. -/
theorem port_settled : ∃ p', twoSecrets.mergeDeployedSecretsIntoEnviron namedStore
      (some [("HTTP_PORT", some "8080")]) lowerCase = .ok p' ∧
    twoSecrets.settingsValue p'.environ.vars "http_port" = some "9090" := by
  obtain ⟨p', hmerge⟩ := @merge_returns _ _ (some [("HTTP_PORT", some "8080")]) _ _ lowerCase_starting _
    port_kv (by decide +kernel)
  obtain ⟨kv, hkv, hread⟩ := precedence_iff lowerCase_starting hmerge
  cases port_kv.symm.trans hkv
  refine ⟨p', hmerge, ((hread "http_port" (by decide +kernel)).2 ?_).trans (by decide +kernel)⟩
  have hsecret : twoSecrets.lastSpelling [("HTTP_PORT", "9090")] "http_port" = some "HTTP_PORT" := by decide +kernel
  have hlast : Dict.spelling twoSecrets.lower "http_port" (environOrder
      (twoSecrets.loadDotenvLayer (some [("HTTP_PORT", some "8080")])) lowerCase.environ.vars
      [("HTTP_PORT", "9090")]) = some "HTTP_PORT" := by
    decide +kernel
  unfold Settled
  rw [hsecret]
  rintro w hw
  exact .inl (Option.some.inj (hw.symm.trans hlast))

end Runtime

end Transcribe
