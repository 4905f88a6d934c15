import Transcribe.Proof.Deployed

/-!
# The rules of the settings

* `SettingsFields.Acceptable`: what the rules ask of the values; `SettingsFields.normal`: what the values
  come to.
* `Settings.validate_inv`, `Settings.validate_returns`: the rules accept these values, whatever the order
  they are applied in, and no others.
* `SettingsFields.acceptable_normal`, `SettingsFields.normal_normal`: values that have been through the
  rules go through them again, unchanged, in any environment.
-/

namespace Transcribe

open Transcribe.Runtime (bind_eq_ok bind_of_ok)

/-! ## One check -/

/-- What follows a check that raises. -/
theorem unless_throw {ε α : Type} {c : Prop} [Decidable c] {e : ε} {k : Unit → Except ε α} {r : α}
    (h : (if c then (throw e : Except ε Unit) >>= k else k ()) = .ok r) : ¬ c ∧ k () = .ok r := by
  by_cases hc : c
  · rw [if_pos hc] at h
    cases h
  · rw [if_neg hc] at h
    exact ⟨hc, h⟩

/-- What follows a check that is made in one case only. -/
theorem when_check {ε α : Type} {c : Prop} [Decidable c] {x : Except ε Unit} {k : Unit → Except ε α} {r : α}
    (h : (if c then x >>= k else k ()) = .ok r) : (c → x = .ok ()) ∧ k () = .ok r := by
  by_cases hc : c
  · rw [if_pos hc] at h
    obtain ⟨_, hx, hk⟩ := bind_eq_ok h
    exact ⟨fun _ => hx, hk⟩
  · rw [if_neg hc] at h
    exact ⟨fun hc' => absurd hc' hc, h⟩

section Returns

variable {ε α β : Type} {c : Prop} [Decidable c] {k : Unit → Except ε α}

/-- A computation returns if its first step does and the rest does from there. -/
theorem returns_bind {x : Except ε β} {g : β → Except ε α} {b : β} (hx : x = .ok b) (hg : ∃ r, g b = .ok r) :
    ∃ r, (x >>= g) = .ok r := by
  rw [bind_of_ok hx]
  exact hg

theorem returns_unless {e : ε} (hc : ¬ c) (hk : ∃ r, k () = .ok r) :
    ∃ r, (if c then (throw e : Except ε Unit) >>= k else k ()) = .ok r := by
  rw [if_neg hc]
  exact hk

theorem returns_when {x : Except ε Unit} (hx : c → x = .ok ()) (hk : ∃ r, k () = .ok r) :
    ∃ r, (if c then x >>= k else k ()) = .ok r := by
  by_cases hc : c
  · rw [if_pos hc]
    exact returns_bind (hx hc) hk
  · rw [if_neg hc]
    exact hk

end Returns

/-! ## The fields -/

theorem rejectBlankString_ok_iff {value r : String} :
    rejectBlankString value = .ok r ↔ strip value ≠ "" ∧ r = strip value := by
  unfold rejectBlankString
  by_cases hblank : strip value = ""
  · rw [if_pos hblank]
    exact ⟨nofun, fun h => absurd hblank h.1⟩
  · rw [if_neg hblank, Except.ok.injEq]
    exact ⟨fun h => ⟨hblank, h.symm⟩, fun h => h.2.symm⟩

theorem rejectBlankStrings_ok_iff {o r : Option String} :
    rejectBlankStrings o = .ok r ↔ (∀ value, o = some value → strip value ≠ "") ∧ r = o.map strip := by
  cases o with
  | none =>
    refine ⟨fun h => ⟨nofun, (Except.ok.inj h).symm⟩, fun h => ?_⟩
    rw [h.2]
    rfl
  | some value =>
    have hmap : rejectBlankStrings (some value) = (rejectBlankString value).map some := rfl
    constructor
    · intro h
      rw [hmap] at h
      cases hvalue : rejectBlankString value with
      | error e =>
        rw [hvalue] at h
        cases h
      | ok v =>
        rw [hvalue] at h
        obtain ⟨hblank, rfl⟩ := rejectBlankString_ok_iff.1 hvalue
        refine ⟨?_, (Except.ok.inj h).symm⟩
        rintro _ ⟨⟩
        exact hblank
    · rintro ⟨hblank, rfl⟩
      rw [hmap, rejectBlankString_ok_iff.2 ⟨hblank value rfl, rfl⟩]
      rfl

theorem positive_ok_iff {n : ℤ} {m : { n : ℕ // 0 < n }} : positive n = .ok m ↔ n = m.1 := by
  have hm := m.2
  unfold positive
  by_cases hn : 0 < n
  · rw [dif_pos hn, Except.ok.injEq, Subtype.ext_iff]
    show n.toNat = m.1 ↔ _
    omega
  · rw [dif_neg hn]
    constructor
    · intro h
      cases h
    · intro h
      omega

theorem deployedRules_ok_iff {redisUrl kafkaBootstrapServers : Option String}
    {sequencePrefix ownershipPrefix : String} :
    deployedRules redisUrl kafkaBootstrapServers sequencePrefix ownershipPrefix = .ok () ↔
      redisUrl ≠ none ∧ kafkaBootstrapServers ≠ none ∧ sequencePrefix ≠ defaultRedisSequenceStateKeyPrefix ∧
        ownershipPrefix ≠ defaultRedisOwnershipGuardKeyPrefix := by
  unfold deployedRules
  by_cases hurl : redisUrl = none <;> by_cases hservers : kafkaBootstrapServers = none <;>
    by_cases hsequence : sequencePrefix = defaultRedisSequenceStateKeyPrefix <;>
    by_cases hownership : ownershipPrefix = defaultRedisOwnershipGuardKeyPrefix <;>
    simp [hurl, hservers, hsequence, hownership]

/-! ## Values -/

namespace SettingsFields

variable (environ : String → Option String) (f : SettingsFields)

/-- The strings that must not be blank. -/
def texts : List (Option String) :=
  [f.redisUrl, some f.redisSequenceStateKeyPrefix, some f.redisOwnershipGuardKeyPrefix, f.kafkaBootstrapServers,
    f.kafkaSslCaFile, f.kafkaAwsRegion, f.authJwtSigningMaterial]

/-- The region of the process environment. -/
def environRegion : Option String :=
  ["AWS_REGION", "AWS_DEFAULT_REGION"].findSome? fun name =>
    (environ name).bind fun value => if strip value = "" then none else some (strip value)

/-- The region of the service. -/
def region : Option String :=
  if f.kafkaMode = .awsMsk then (f.kafkaAwsRegion.map strip).or (environRegion environ)
  else f.kafkaAwsRegion.map strip

/-- A value that has a default in a local service. -/
def orLocal (default : String) (value : Option String) : Option String :=
  if f.appEnv = .local then some ((value.map strip).getD default) else value.map strip

/-- What the values come to: without the spaces around them, and with what the environment adds. -/
def normal : SettingsFields :=
  { f with
    redisUrl := f.orLocal localRedisUrl f.redisUrl
    redisSequenceStateKeyPrefix := strip f.redisSequenceStateKeyPrefix
    redisOwnershipGuardKeyPrefix := strip f.redisOwnershipGuardKeyPrefix
    kafkaBootstrapServers := f.orLocal localKafkaBootstrapServers f.kafkaBootstrapServers
    kafkaSslCaFile := f.kafkaSslCaFile.map strip
    kafkaAwsRegion := f.region environ
    authJwtSigningMaterial := f.authJwtSigningMaterial.map strip }

/-- What is asked of a deployed service. -/
structure Deployable : Prop where
  redisUrl : f.redisUrl ≠ none
  kafkaBootstrapServers : f.kafkaBootstrapServers ≠ none
  sequencePrefix : strip f.redisSequenceStateKeyPrefix ≠ defaultRedisSequenceStateKeyPrefix
  ownershipPrefix : strip f.redisOwnershipGuardKeyPrefix ≠ defaultRedisOwnershipGuardKeyPrefix
  kafkaMode : f.kafkaMode = .awsMsk

/-- What is asked of the values. -/
structure Acceptable : Prop where
  texts : ∀ value, some value ∈ f.texts → strip value ≠ ""
  finalTtl : 0 < f.redisFinalTtlSec ∧ f.redisFinalTtlSec ≤ f.redisActiveTtlSec
  refresh : 0 < f.wsOwnershipGuardRefreshIntervalSec ∧
    f.wsOwnershipGuardRefreshIntervalSec < f.redisOwnershipGuardTtlSec
  deployed : f.appEnv = .deployed → f.Deployable
  signing : f.authEnabled → f.authJwtSigningMaterial ≠ none
  plaintext : f.kafkaMode = .local → f.kafkaSslCaFile = none
  region : f.kafkaMode = .awsMsk → f.region environ ≠ none

end SettingsFields

/-- Validated settings, as values given. -/
def Settings.fields (s : Settings) : SettingsFields :=
  ⟨s.appEnv, s.redisUrl, s.redisActiveTtlSec, s.redisFinalTtlSec, s.redisOwnershipGuardTtlSec,
    s.redisSequenceStateKeyPrefix, s.redisOwnershipGuardKeyPrefix, s.kafkaBootstrapServers, s.kafkaMode,
    s.kafkaSslCaFile, s.kafkaAwsRegion, s.wsOwnershipGuardRefreshIntervalSec, s.authEnabled,
    s.authJwtSigningMaterial⟩

theorem Settings.fields_injective {s s' : Settings} (h : s.fields = s'.fields) : s = s' := by
  cases s
  cases s'
  simp only [Settings.fields, SettingsFields.mk.injEq, Nat.cast_inj] at h
  simp only [h]

/-! ## The region -/

/-- A variable of the process, its value `""` if it is not set. -/
theorem notBlank_getD (value : Option String) :
    (value.bind fun v => if strip v = "" then none else some (strip v)) =
      if strip (value.getD "") = "" then none else some (strip (value.getD "")) := by
  cases value with
  | none => exact (if_pos (by decide)).symm
  | some v => rfl

/-- `bootstrap_region`. -/
def bootstrapRegion (environ : String → Option String) : String :=
  if strip ((environ "AWS_REGION").getD "") = "" then strip ((environ "AWS_DEFAULT_REGION").getD "")
  else strip ((environ "AWS_REGION").getD "")

theorem environRegion_eq (environ : String → Option String) :
    SettingsFields.environRegion environ =
      if bootstrapRegion environ = "" then none else some (bootstrapRegion environ) := by
  simp only [SettingsFields.environRegion, List.findSome?_cons, List.findSome?_nil, notBlank_getD]
  unfold bootstrapRegion
  by_cases hregion : strip ((environ "AWS_REGION").getD "") = ""
  · rw [if_pos hregion, if_pos hregion]
    by_cases hdefault : strip ((environ "AWS_DEFAULT_REGION").getD "") = ""
    · rw [if_pos hdefault]
    · rw [if_neg hdefault]
  · rw [if_neg hregion, if_neg hregion, if_neg hregion]

theorem kafkaRegion_ok_iff {environ : String → Option String} {f : SettingsFields} {r : Option String} :
    kafkaRegion environ f.kafkaMode (f.kafkaAwsRegion.map strip) = .ok r ↔
      (f.kafkaMode = .awsMsk → f.region environ ≠ none) ∧ r = f.region environ := by
  unfold SettingsFields.region
  cases hmode : f.kafkaMode with
  | «local» =>
    show Except.ok (f.kafkaAwsRegion.map strip) = .ok r ↔ _
    rw [Except.ok.injEq]
    simp [eq_comm]
  | awsMsk =>
    cases f.kafkaAwsRegion with
    | some region =>
      show Except.ok (some (strip region)) = .ok r ↔ _
      rw [Except.ok.injEq]
      simp [eq_comm]
    | none =>
      rw [if_pos rfl, Option.map_none, Option.none_or, environRegion_eq]
      unfold kafkaRegion
      show (if bootstrapRegion environ = "" then _ else _) = _ ↔ _
      -- no region is given: that of the environment counts, unless it is blank
      by_cases hblank : bootstrapRegion environ = ""
      · rw [if_pos hblank, if_pos hblank]
        exact ⟨nofun, fun h => absurd rfl (h.1 rfl)⟩
      · rw [if_neg hblank, if_neg hblank, Except.ok.injEq]
        exact ⟨fun h => ⟨nofun, h.symm⟩, fun h => h.2.symm⟩

/-! ## The rules together -/

theorem Settings.validate_inv {environ : String → Option String} {f : SettingsFields} {s : Settings}
    (h : Settings.validate environ f = .ok s) : f.Acceptable environ ∧ s.fields = f.normal environ := by
  unfold Settings.validate at h
  -- the steps in their order
  obtain ⟨redisUrl, urlOk, h⟩ := bind_eq_ok h
  obtain ⟨activeTtl, activeOk, h⟩ := bind_eq_ok h
  obtain ⟨finalTtl, finalOk, h⟩ := bind_eq_ok h
  obtain ⟨guardTtl, guardOk, h⟩ := bind_eq_ok h
  obtain ⟨sequencePrefix, sequenceOk, h⟩ := bind_eq_ok h
  obtain ⟨ownershipPrefix, ownershipOk, h⟩ := bind_eq_ok h
  obtain ⟨kafkaBootstrapServers, serversOk, h⟩ := bind_eq_ok h
  obtain ⟨kafkaSslCaFile, caOk, h⟩ := bind_eq_ok h
  obtain ⟨kafkaAwsRegion, regionOk, h⟩ := bind_eq_ok h
  obtain ⟨hinterval, h⟩ := unless_throw h
  obtain ⟨material, materialOk, h⟩ := bind_eq_ok h
  obtain ⟨hdeployed, h⟩ := when_check h
  by_cases hle : finalTtl.1 ≤ activeTtl.1
  · replace h := (dif_pos hle).symm.trans h
    obtain ⟨hrefresh, h⟩ := unless_throw h
    obtain ⟨hsigning, h⟩ := unless_throw h
    obtain ⟨hmode, h⟩ := unless_throw h
    obtain ⟨hplain, h⟩ := unless_throw h
    obtain ⟨region, kafkaOk, h⟩ := bind_eq_ok h
    -- what each has seen to, and what it has left
    obtain ⟨hurl, rfl⟩ := rejectBlankStrings_ok_iff.1 urlOk
    obtain ⟨hsequence, rfl⟩ := rejectBlankString_ok_iff.1 sequenceOk
    obtain ⟨hownership, rfl⟩ := rejectBlankString_ok_iff.1 ownershipOk
    obtain ⟨hservers, rfl⟩ := rejectBlankStrings_ok_iff.1 serversOk
    obtain ⟨hca, rfl⟩ := rejectBlankStrings_ok_iff.1 caOk
    obtain ⟨hregion, rfl⟩ := rejectBlankStrings_ok_iff.1 regionOk
    obtain ⟨hmaterial, rfl⟩ := rejectBlankStrings_ok_iff.1 materialOk
    obtain ⟨hkafka, rfl⟩ := kafkaRegion_ok_iff.1 kafkaOk
    have hactive := positive_ok_iff.1 activeOk
    have hfinal := positive_ok_iff.1 finalOk
    have hguard := positive_ok_iff.1 guardOk
    cases Except.ok.inj h
    refine ⟨⟨?_, ?_, ?_, ?_, ?_, ?_, hkafka⟩, ?_⟩
    · intro value hvalue
      simp only [SettingsFields.texts, List.mem_cons, List.not_mem_nil, or_false, Option.some.injEq] at hvalue
      rcases hvalue with hv | rfl | rfl | hv | hv | hv | hv
      · exact hurl value hv.symm
      · exact hsequence
      · exact hownership
      · exact hservers value hv.symm
      · exact hca value hv.symm
      · exact hregion value hv.symm
      · exact hmaterial value hv.symm
    · have hpos := finalTtl.2
      omega
    · rw [hguard]
      exact ⟨not_le.1 hinterval, not_le.1 hrefresh⟩
    · intro henv
      obtain ⟨hurl', hservers', hsequence', hownership'⟩ := deployedRules_ok_iff.1 (hdeployed henv)
      refine ⟨?_, ?_, hsequence', hownership', not_not.1 fun hne => hmode ⟨henv, hne⟩⟩
      · simpa using hurl'
      · simpa using hservers'
    · intro hauth
      simpa using fun hnone => hsigning ⟨hauth, hnone⟩
    · intro hlocal
      simpa using fun hne => hplain ⟨hlocal, hne⟩
    · unfold Settings.fields SettingsFields.normal SettingsFields.orLocal
      simp only [hactive, hfinal, hguard]
  · replace h := (dif_neg hle).symm.trans h
    cases h

theorem Settings.validate_returns {environ : String → Option String} {f : SettingsFields}
    (h : f.Acceptable environ) : ∃ s, Settings.validate environ f = .ok s := by
  have htext : ∀ {o : Option String}, o ∈ f.texts → rejectBlankStrings o = .ok (o.map strip) := fun hmem =>
    rejectBlankStrings_ok_iff.2 ⟨fun value hvalue => h.texts value (hvalue ▸ hmem), rfl⟩
  have hkey : ∀ {value}, some value ∈ f.texts → rejectBlankString value = .ok (strip value) := fun hmem =>
    rejectBlankString_ok_iff.2 ⟨h.texts _ hmem, rfl⟩
  have hpos : ∀ {n : ℤ} (hn : 0 < n), positive n = .ok ⟨n.toNat, by omega⟩ := fun hn => dif_pos hn
  obtain ⟨hfinal, hle⟩ := h.finalTtl
  obtain ⟨hinterval, hrefresh⟩ := h.refresh
  have hguard : 0 < f.redisOwnershipGuardTtlSec := by exact_mod_cast hinterval.trans hrefresh
  -- each step of the validation returns
  unfold Settings.validate
  refine returns_bind (htext (by simp [SettingsFields.texts])) ?_
  refine returns_bind (hpos (hfinal.trans_le hle)) ?_
  refine returns_bind (hpos hfinal) ?_
  refine returns_bind (hpos hguard) ?_
  refine returns_bind (hkey (by simp [SettingsFields.texts])) ?_
  refine returns_bind (hkey (by simp [SettingsFields.texts])) ?_
  refine returns_bind (htext (by simp [SettingsFields.texts])) ?_
  refine returns_bind (htext (by simp [SettingsFields.texts])) ?_
  refine returns_bind (htext (by simp [SettingsFields.texts])) ?_
  refine returns_unless (not_le.2 hinterval) ?_
  refine returns_bind (htext (by simp [SettingsFields.texts])) ?_
  refine returns_when (fun henv => ?_) ?_
  · have hdeploy := h.deployed henv
    refine deployedRules_ok_iff.2 ⟨?_, ?_, hdeploy.sequencePrefix, hdeploy.ownershipPrefix⟩
    · simpa using hdeploy.redisUrl
    · simpa using hdeploy.kafkaBootstrapServers
  have hle' : f.redisFinalTtlSec.toNat ≤ f.redisActiveTtlSec.toNat := by omega
  -- the refresh interval is compared with the time to live as a number
  have hcast : ((f.redisOwnershipGuardTtlSec.toNat : ℕ) : ℚ) = f.redisOwnershipGuardTtlSec := by
    have hnat : ((f.redisOwnershipGuardTtlSec.toNat : ℕ) : ℤ) = f.redisOwnershipGuardTtlSec := by omega
    exact_mod_cast hnat
  simp only [dif_pos hle']
  refine returns_unless (not_le.2 (hcast ▸ hrefresh)) ?_
  refine returns_unless (fun hc => h.signing hc.1 (by simpa using hc.2)) ?_
  refine returns_unless (fun hc => hc.2 (h.deployed hc.1).kafkaMode) ?_
  refine returns_unless (fun hc => hc.2 (by rw [h.plaintext hc.1]; rfl)) ?_
  refine returns_bind (kafkaRegion_ok_iff.2 ⟨h.region, rfl⟩) ?_
  exact ⟨_, rfl⟩

/-! ## Settings are settled -/

namespace SettingsFields

variable {environ : String → Option String} {f : SettingsFields}

theorem strip_environRegion {value : String} (h : environRegion environ = some value) :
    strip value = value ∧ value ≠ "" := by
  rw [environRegion_eq] at h
  by_cases hblank : bootstrapRegion environ = ""
  · rw [if_pos hblank] at h
    cases h
  · rw [if_neg hblank] at h
    cases h
    refine ⟨?_, hblank⟩
    unfold bootstrapRegion
    split <;> exact strip_strip _

/-- A text of the settings has no spaces around it, and is not empty. -/
theorem normal_texts (h : f.Acceptable environ) {value : String}
    (hmem : some value ∈ (f.normal environ).texts) : strip value = value ∧ value ≠ "" := by
  -- where a text of the normal form comes from: it was given, or filled in
  have hgiven : ∀ {v : String}, some v ∈ f.texts → strip (strip v) = strip v ∧ strip v ≠ "" := fun hv =>
    ⟨strip_strip _, h.texts _ hv⟩
  have hmap : ∀ {o}, o ∈ f.texts → some value = o.map strip → strip value = value ∧ value ≠ "" := by
    intro o ho hvalue
    obtain ⟨v, rfl, rfl⟩ := Option.map_eq_some_iff.1 hvalue.symm
    exact hgiven ho
  have hlocal : ∀ {o : Option String} {default : String}, o ∈ f.texts → strip default = default ∧ default ≠ "" →
      some value = f.orLocal default o → strip value = value ∧ value ≠ "" := by
    intro o default ho hdefault hvalue
    unfold orLocal at hvalue
    split at hvalue
    · cases o with
      | none =>
        cases hvalue
        exact hdefault
      | some v =>
        cases hvalue
        exact hgiven ho
    · exact hmap ho hvalue
  simp only [texts, normal, List.mem_cons, List.not_mem_nil, or_false] at hmem
  -- the texts in their order: two of them have a local default, one may come from the environment
  rcases hmem with hv | hv | hv | hv | hv | hv | hv
  · exact hlocal (by simp [texts]) (by decide +kernel) hv
  · cases hv
    exact hgiven (by simp [texts])
  · cases hv
    exact hgiven (by simp [texts])
  · exact hlocal (by simp [texts]) (by decide +kernel) hv
  · exact hmap (by simp [texts]) hv
  · unfold region at hv
    split at hv
    · cases hregion : f.kafkaAwsRegion with
      | none =>
        rw [hregion] at hv
        exact strip_environRegion hv.symm
      | some r =>
        rw [hregion] at hv
        cases hv
        exact hgiven (by simp [texts, hregion])
    · exact hmap (by simp [texts]) hv
  · exact hmap (by simp [texts]) hv

/-- The texts of the settings are not changed any more. -/
theorem map_strip_normal (h : f.Acceptable environ) {o : Option String} (ho : o ∈ (f.normal environ).texts) :
    o.map strip = o := by
  cases o with
  | none => rfl
  | some value =>
    rw [Option.map_some, (normal_texts h ho).1]

theorem orLocal_normal {default : String} {o : Option String} (ho : o.map strip = o)
    (hlocal : f.appEnv = .local → o ≠ none) : f.orLocal default o = o := by
  unfold orLocal
  split
  · rename_i henv
    rw [ho]
    cases o with
    | none => exact absurd rfl (hlocal henv)
    | some value => rfl
  · exact ho

theorem orLocal_ne_none {default : String} {o : Option String} (henv : f.appEnv = .local ∨ o ≠ none) :
    f.orLocal default o ≠ none := by
  unfold orLocal
  split
  · exact nofun
  · rename_i hdeployed
    simpa using henv.resolve_left hdeployed

theorem region_normal (h : f.Acceptable environ) (environ' : String → Option String) :
    (f.normal environ).region environ' = f.region environ := by
  have hstrip : (f.region environ).map strip = f.region environ := map_strip_normal h (by simp [texts, normal])
  show (if f.kafkaMode = .awsMsk then ((f.region environ).map strip).or (environRegion environ')
    else (f.region environ).map strip) = _
  rw [hstrip]
  split
  · rename_i hmode
    obtain ⟨region, hregion⟩ := Option.ne_none_iff_exists'.1 (h.region hmode)
    rw [hregion]
    rfl
  · rfl

theorem normal_normal (h : f.Acceptable environ) (environ' : String → Option String) :
    (f.normal environ).normal environ' = f.normal environ := by
  have hmap : ∀ {o : Option String}, o ∈ (f.normal environ).texts → o.map strip = o := map_strip_normal h
  have hurl : (f.normal environ).orLocal localRedisUrl (f.normal environ).redisUrl =
      (f.normal environ).redisUrl :=
    orLocal_normal (hmap (by simp [texts])) fun henv => orLocal_ne_none (.inl henv)
  have hservers : (f.normal environ).orLocal localKafkaBootstrapServers
      (f.normal environ).kafkaBootstrapServers = (f.normal environ).kafkaBootstrapServers :=
    orLocal_normal (hmap (by simp [texts])) fun henv => orLocal_ne_none (.inl henv)
  rw [normal, hurl, hservers, region_normal h environ', hmap (by simp [texts]), hmap (by simp [texts])]
  simp only [normal, strip_strip]

theorem acceptable_normal (h : f.Acceptable environ) (environ' : String → Option String) :
    (f.normal environ).Acceptable environ' := by
  refine ⟨?_, h.finalTtl, h.refresh, ?_, ?_, ?_, ?_⟩
  · intro value hmem
    obtain ⟨hstrip, hne⟩ := normal_texts h hmem
    rwa [hstrip]
  · intro henv
    have hdeploy := h.deployed henv
    refine ⟨orLocal_ne_none (.inr hdeploy.redisUrl), orLocal_ne_none (.inr hdeploy.kafkaBootstrapServers),
      ?_, ?_, hdeploy.kafkaMode⟩
    · show strip (strip f.redisSequenceStateKeyPrefix) ≠ _
      rw [strip_strip]
      exact hdeploy.sequencePrefix
    · show strip (strip f.redisOwnershipGuardKeyPrefix) ≠ _
      rw [strip_strip]
      exact hdeploy.ownershipPrefix
  · intro hauth
    simpa [normal] using h.signing hauth
  · intro hmode
    show f.kafkaSslCaFile.map strip = none
    rw [h.plaintext hmode]
    rfl
  · intro hmode
    rw [region_normal h environ']
    exact h.region hmode

end SettingsFields

/-- A process that has a region. -/
def regionInEnviron (name : String) : Option String :=
  if name = "AWS_DEFAULT_REGION" then some " ap-east-1 " else none

/-- A local service that uses MSK, with a space in a value. -/
def spacedFields : SettingsFields :=
  { appEnv := .local
    redisUrl := some " redis://cache:6379/0"
    kafkaMode := .awsMsk }

def spacedSettings : Settings where
  appEnv := .local
  redisUrl := some "redis://cache:6379/0"
  redisActiveTtlSec := RedisSequenceStateMachine.default.activeTtl
  redisFinalTtlSec := RedisSequenceStateMachine.default.finalTtl
  redisOwnershipGuardTtlSec := RedisConversationOwnershipGuard.default.guardTtlSec
  redisSequenceStateKeyPrefix := defaultRedisSequenceStateKeyPrefix
  redisOwnershipGuardKeyPrefix := defaultRedisOwnershipGuardKeyPrefix
  kafkaBootstrapServers := some localKafkaBootstrapServers
  kafkaMode := .awsMsk
  kafkaSslCaFile := none
  kafkaAwsRegion := some "ap-east-1"
  wsOwnershipGuardRefreshIntervalSec := 15
  authEnabled := false
  authJwtSigningMaterial := none
  redisFinalTtlSec_pos := RedisSequenceStateMachine.default.finalTtl_pos
  redisFinalTtlSec_le := RedisSequenceStateMachine.default.finalTtl_le
  redisOwnershipGuardTtlSec_pos := RedisConversationOwnershipGuard.default.guardTtlSec_pos

end Transcribe
