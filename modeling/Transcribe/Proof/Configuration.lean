import Transcribe.Model.Configuration
import Transcribe.Proof.Settings
import Transcribe.Proof.UrlPrefix

/-!
# Accepted configurations

* `Configuration.accepted_iff`: which values the settings take, and what they come to.
* `Configuration.settled_iff`: settings given back as values are taken again, unchanged, in any
  environment, iff no space is left at the end of the path prefix, and it is not too long.
-/

namespace Transcribe

open Transcribe.Runtime (bind_eq_ok bind_of_ok)

/-! ## The fields -/

theorem positiveFloat_ok_iff {x : ℚ} {y : { x : ℚ // 0 < x }} : positiveFloat x = .ok y ↔ x = y.1 := by
  unfold positiveFloat
  by_cases hx : 0 < x
  · rw [dif_pos hx, Except.ok.injEq, Subtype.ext_iff]
  · rw [dif_neg hx]
    refine ⟨nofun, ?_⟩
    rintro rfl
    exact absurd y.2 hx

theorem nonNegativeFloat_ok_iff {x : ℚ} {y : { x : ℚ // 0 ≤ x }} : nonNegativeFloat x = .ok y ↔ x = y.1 := by
  unfold nonNegativeFloat
  by_cases hx : 0 ≤ x
  · rw [dif_pos hx, Except.ok.injEq, Subtype.ext_iff]
  · rw [dif_neg hx]
    refine ⟨nofun, ?_⟩
    rintro rfl
    exact absurd y.2 hx

theorem nonNegativeInt_ok_iff {n : ℤ} {m : ℕ} : nonNegativeInt n = .ok m ↔ n = m := by
  unfold nonNegativeInt
  by_cases hn : 0 ≤ n
  · rw [if_pos hn, Except.ok.injEq]
    omega
  · rw [if_neg hn]
    constructor
    · intro h
      cases h
    · intro h
      omega

theorem portNumber_ok_iff {n : ℤ} {m : { n : ℕ // 1 ≤ n ∧ n ≤ 65535 }} : portNumber n = .ok m ↔ n = m.1 := by
  obtain ⟨hm, hm'⟩ := m.2
  unfold portNumber
  by_cases hlow : 1 ≤ n
  · rw [dif_pos hlow]
    by_cases hhigh : n ≤ 65535
    · rw [dif_pos hhigh, Except.ok.injEq, Subtype.ext_iff]
      show n.toNat = m.1 ↔ _
      omega
    · rw [dif_neg hhigh]
      constructor
      · intro h
        cases h
      · intro h
        omega
  · rw [dif_neg hlow]
    constructor
    · intro h
      cases h
    · intro h
      omega

theorem normalizeUrlPathPrefix_ok_iff {value r : String} : normalizeUrlPathPrefix value = .ok r ↔
    value.length ≤ maxUrlPathPrefix ∧ normalizeUrlPathPrefixStr value = .ok r := by
  unfold normalizeUrlPathPrefix
  by_cases hlen : value.length ≤ maxUrlPathPrefix
  · rw [if_pos hlen]
    exact ⟨fun h => ⟨hlen, h⟩, fun h => h.2⟩
  · rw [if_neg hlen]
    exact ⟨nofun, fun h => absurd h.1 hlen⟩

theorem optionalRedisUsername_idem (value : Option String) :
    optionalRedisUsername (optionalRedisUsername value) = optionalRedisUsername value := by
  cases value with
  | none => rfl
  | some v =>
    by_cases hblank : strip v = ""
    · simp [optionalRedisUsername, hblank]
    · simp [optionalRedisUsername, hblank, strip_strip]

theorem optionalRedisPassword_idem (value : Option String) :
    optionalRedisPassword (optionalRedisPassword value) = optionalRedisPassword value := by
  cases value with
  | none => rfl
  | some v =>
    by_cases hblank : strip v = ""
    · simp [optionalRedisPassword, hblank]
    · simp [optionalRedisPassword, hblank]

/-! ## Values -/

namespace ConfigurationFields

variable (environ : String → Option String) (f : ConfigurationFields)

/-- The path prefix that is stored. -/
def storedPrefix : String := (normalizeUrlPathPrefixStr f.urlPathPrefix).toOption.getD ""

/-- What the values come to. -/
def normal : ConfigurationFields :=
  { f with
    toSettingsFields := f.toSettingsFields.normal environ
    redisUsername := optionalRedisUsername f.redisUsername
    redisPassword := optionalRedisPassword f.redisPassword
    kafkaTopic := strip f.kafkaTopic
    urlPathPrefix := f.storedPrefix }

/-- What is asked of the values. -/
structure Acceptable : Prop where
  rules : f.toSettingsFields.Acceptable environ
  kafkaTopic : strip f.kafkaTopic ≠ ""
  counts : ∀ n ∈ [f.redisMaxConnections, f.kafkaBatchSize, f.httpBacklog], 0 < n
  durations : ∀ x ∈ [f.kafkaSendTimeoutSec, f.wsPingInterval, f.wsPingTimeout, f.kafkaStartupTimeoutSec,
    f.stopTimeout], 0 < x
  limits : 0 ≤ f.kafkaLingerMs ∧ 0 ≤ f.wsMaxConnections ∧ 0 ≤ f.logSlowMessageThresholdMs
  httpPort : 1 ≤ f.httpPort ∧ f.httpPort ≤ 65535
  urlPathPrefix : f.urlPathPrefix.length ≤ maxUrlPathPrefix ∧
    (strip f.urlPathPrefix = "" ∨ Clean (strip f.urlPathPrefix).toList)

end ConfigurationFields

namespace Configuration

/-- Validated settings, as values given. -/
def fields (c : Configuration) : ConfigurationFields where
  toSettingsFields := c.toSettings.fields
  redisUsername := c.redisUsername
  redisPassword := c.redisPassword
  redisSslCheckHostname := c.redisSslCheckHostname
  redisMaxConnections := c.redisMaxConnections.1
  kafkaTopic := c.kafkaTopic
  kafkaCompressionType := c.kafkaCompressionType
  kafkaAwsDebugCreds := c.kafkaAwsDebugCreds
  kafkaSendTimeoutSec := c.kafkaSendTimeoutSec.1
  kafkaLingerMs := c.kafkaLingerMs
  kafkaBatchSize := c.kafkaBatchSize.1
  wsPingInterval := c.wsPingInterval.1
  wsPingTimeout := c.wsPingTimeout.1
  httpPort := c.httpPort.1
  httpBacklog := c.httpBacklog.1
  httpEnableDocs := c.httpEnableDocs
  urlPathPrefix := c.urlPathPrefix
  wsMaxConnections := c.wsMaxConnections
  kafkaStartupTimeoutSec := c.kafkaStartupTimeoutSec.1
  stopTimeout := c.stopTimeout.1
  logLevel := c.logLevel
  logFormat := c.logFormat
  suppressHealthAccessLogs := c.suppressHealthAccessLogs
  logWsErrorFrames := c.logWsErrorFrames
  logSlowMessageThresholdMs := c.logSlowMessageThresholdMs.1

theorem fields_injective {c c' : Configuration} (h : c.fields = c'.fields) : c = c' := by
  have hsettings : c.toSettings = c'.toSettings :=
    Settings.fields_injective (congrArg ConfigurationFields.toSettingsFields h)
  cases c
  cases c'
  simp only [fields, ConfigurationFields.mk.injEq, Nat.cast_inj, Subtype.val_inj] at h
  simp only [Configuration.mk.injEq]
  exact ⟨hsettings, h.2⟩

variable {environ : String → Option String} {f : ConfigurationFields} {c : Configuration}

theorem validate_inv (h : validate environ f = .ok c) :
    f.Acceptable environ ∧ c.fields = f.normal environ ∧ Settings.validate environ f.toSettingsFields = .ok c.toSettings ∧
      normalizeUrlPathPrefixStr f.urlPathPrefix = .ok c.urlPathPrefix := by
  unfold validate at h
  -- the steps in their order
  obtain ⟨maxConnections, maxConnectionsOk, h⟩ := bind_eq_ok h
  obtain ⟨topic, topicOk, h⟩ := bind_eq_ok h
  obtain ⟨sendTimeout, sendTimeoutOk, h⟩ := bind_eq_ok h
  obtain ⟨linger, lingerOk, h⟩ := bind_eq_ok h
  obtain ⟨batchSize, batchSizeOk, h⟩ := bind_eq_ok h
  obtain ⟨pingInterval, pingIntervalOk, h⟩ := bind_eq_ok h
  obtain ⟨pingTimeout, pingTimeoutOk, h⟩ := bind_eq_ok h
  obtain ⟨port, portOk, h⟩ := bind_eq_ok h
  obtain ⟨backlog, backlogOk, h⟩ := bind_eq_ok h
  obtain ⟨pathPrefix, prefixOk, h⟩ := bind_eq_ok h
  obtain ⟨limit, limitOk, h⟩ := bind_eq_ok h
  obtain ⟨startupTimeout, startupTimeoutOk, h⟩ := bind_eq_ok h
  obtain ⟨stopTimeout, stopTimeoutOk, h⟩ := bind_eq_ok h
  obtain ⟨threshold, thresholdOk, h⟩ := bind_eq_ok h
  obtain ⟨settings, settingsOk, h⟩ := bind_eq_ok h
  -- what each has seen to, and what it has left
  have hmaxConnections := positive_ok_iff.1 maxConnectionsOk
  obtain ⟨htopic, rfl⟩ := rejectBlankString_ok_iff.1 topicOk
  have hsendTimeout := positiveFloat_ok_iff.1 sendTimeoutOk
  have hlinger := nonNegativeInt_ok_iff.1 lingerOk
  have hbatchSize := positive_ok_iff.1 batchSizeOk
  have hpingInterval := positiveFloat_ok_iff.1 pingIntervalOk
  have hpingTimeout := positiveFloat_ok_iff.1 pingTimeoutOk
  have hport := portNumber_ok_iff.1 portOk
  have hbacklog := positive_ok_iff.1 backlogOk
  obtain ⟨hlen, hpath⟩ := normalizeUrlPathPrefix_ok_iff.1 prefixOk
  have hlimit := nonNegativeInt_ok_iff.1 limitOk
  have hstartupTimeout := positiveFloat_ok_iff.1 startupTimeoutOk
  have hstopTimeout := positiveFloat_ok_iff.1 stopTimeoutOk
  have hthreshold := nonNegativeFloat_ok_iff.1 thresholdOk
  obtain ⟨hrules, hfields⟩ := Settings.validate_inv settingsOk
  cases Except.ok.inj h
  refine ⟨⟨hrules, htopic, ?_, ?_, ?_, ?_, hlen, normalize_ok_iff.1 ⟨_, hpath⟩⟩, ?_, settingsOk, hpath⟩
  · have hn := maxConnections.2
    have hn' := batchSize.2
    have hn'' := backlog.2
    simp only [List.mem_cons, List.not_mem_nil, or_false, forall_eq_or_imp, forall_eq, hmaxConnections, hbatchSize,
      hbacklog]
    omega
  · simp only [List.mem_cons, List.not_mem_nil, or_false, forall_eq_or_imp, forall_eq, hsendTimeout, hpingInterval,
      hpingTimeout, hstartupTimeout, hstopTimeout]
    exact ⟨sendTimeout.2, pingInterval.2, pingTimeout.2, startupTimeout.2, stopTimeout.2⟩
  · rw [hlinger, hlimit, hthreshold]
    exact ⟨Int.natCast_nonneg _, Int.natCast_nonneg _, threshold.2⟩
  · have hn := port.2
    omega
  · have hstored : f.storedPrefix = pathPrefix := by
      unfold ConfigurationFields.storedPrefix
      rw [hpath]
      rfl
    unfold fields ConfigurationFields.normal
    simp only [hfields, hmaxConnections, hsendTimeout, hlinger, hbatchSize, hpingInterval, hpingTimeout, hport,
      hbacklog, hstored, hlimit, hstartupTimeout, hstopTimeout, hthreshold]

theorem validate_returns (h : f.Acceptable environ) : ∃ c, validate environ f = .ok c := by
  have hcount : ∀ {n : ℤ}, n ∈ [f.redisMaxConnections, f.kafkaBatchSize, f.httpBacklog] →
      ∃ m, positive n = .ok m := fun hn => ⟨_, dif_pos (h.counts _ hn)⟩
  have hduration : ∀ {x : ℚ}, x ∈ [f.kafkaSendTimeoutSec, f.wsPingInterval, f.wsPingTimeout,
      f.kafkaStartupTimeoutSec, f.stopTimeout] → ∃ y, positiveFloat x = .ok y :=
    fun hx => ⟨_, dif_pos (h.durations _ hx)⟩
  obtain ⟨hlinger, hlimit, hthreshold⟩ := h.limits
  obtain ⟨maxConnections, maxConnectionsOk⟩ := hcount (n := f.redisMaxConnections) (by simp)
  obtain ⟨batchSize, batchSizeOk⟩ := hcount (n := f.kafkaBatchSize) (by simp)
  obtain ⟨backlog, backlogOk⟩ := hcount (n := f.httpBacklog) (by simp)
  obtain ⟨sendTimeout, sendTimeoutOk⟩ := hduration (x := f.kafkaSendTimeoutSec) (by simp)
  obtain ⟨pingInterval, pingIntervalOk⟩ := hduration (x := f.wsPingInterval) (by simp)
  obtain ⟨pingTimeout, pingTimeoutOk⟩ := hduration (x := f.wsPingTimeout) (by simp)
  obtain ⟨startupTimeout, startupTimeoutOk⟩ := hduration (x := f.kafkaStartupTimeoutSec) (by simp)
  obtain ⟨stopTimeout, stopTimeoutOk⟩ := hduration (x := f.stopTimeout) (by simp)
  obtain ⟨pathPrefix, hpath⟩ := normalize_ok_iff.2 h.urlPathPrefix.2
  obtain ⟨settings, settingsOk⟩ := Settings.validate_returns h.rules
  have hport : portNumber f.httpPort = .ok ⟨f.httpPort.toNat, by have := h.httpPort; omega⟩ :=
    (dif_pos h.httpPort.1).trans (dif_pos h.httpPort.2)
  -- the fields in the order of the validators, and last the fragment of the rules
  unfold validate
  refine returns_bind maxConnectionsOk ?_
  refine returns_bind (rejectBlankString_ok_iff.2 ⟨h.kafkaTopic, rfl⟩) ?_
  refine returns_bind sendTimeoutOk ?_
  refine returns_bind (if_pos hlinger) ?_
  refine returns_bind batchSizeOk ?_
  refine returns_bind pingIntervalOk ?_
  refine returns_bind pingTimeoutOk ?_
  refine returns_bind hport ?_
  refine returns_bind backlogOk ?_
  refine returns_bind (normalizeUrlPathPrefix_ok_iff.2 ⟨h.urlPathPrefix.1, hpath⟩) ?_
  refine returns_bind (if_pos hlimit) ?_
  refine returns_bind startupTimeoutOk ?_
  refine returns_bind stopTimeoutOk ?_
  refine returns_bind (dif_pos hthreshold) ?_
  exact returns_bind settingsOk ⟨_, rfl⟩

theorem validate_of_normal (h : f.Acceptable environ) (hfields : c.fields = f.normal environ) :
    validate environ f = .ok c := by
  obtain ⟨c', hc'⟩ := validate_returns h
  rw [hc', fields_injective ((validate_inv hc').2.1.trans hfields.symm)]

/-- **Accepted values**: what is asked of them, and what the settings then are. -/
theorem accepted_iff (environ : String → Option String) (f : ConfigurationFields) (c : Configuration) :
    validate environ f = .ok c ↔ f.Acceptable environ ∧ c.fields = f.normal environ :=
  ⟨fun h => ⟨(validate_inv h).1, (validate_inv h).2.1⟩, fun h => validate_of_normal h.1 h.2⟩

/-! ## Settings given back -/

/-- What is asked of the values is asked of the settings again, and their path prefix has to be
short enough and free of what is rejected. -/
theorem acceptable_fields (h : validate environ f = .ok c) (environ' : String → Option String) :
    c.fields.Acceptable environ' ↔ c.urlPathPrefix.length ≤ maxUrlPathPrefix ∧
      (strip c.urlPathPrefix = "" ∨ Clean (strip c.urlPathPrefix).toList) := by
  obtain ⟨hacceptable, hfields, -, -⟩ := validate_inv h
  refine ⟨fun hagain => hagain.urlPathPrefix, fun hpath => ⟨?_, ?_, ?_, ?_, ?_, ?_, hpath⟩⟩
  · rw [hfields]
    exact SettingsFields.acceptable_normal hacceptable.rules environ'
  · rw [hfields]
    show strip (strip f.kafkaTopic) ≠ ""
    rw [strip_strip]
    exact hacceptable.kafkaTopic
  · rw [hfields]
    exact hacceptable.counts
  · rw [hfields]
    exact hacceptable.durations
  · rw [hfields]
    exact hacceptable.limits
  · rw [hfields]
    exact hacceptable.httpPort

/-- Nothing but the path prefix is changed again. -/
theorem normal_fields (h : validate environ f = .ok c) (environ' : String → Option String) :
    c.fields.normal environ' = { c.fields with urlPathPrefix := c.fields.storedPrefix } := by
  obtain ⟨hacceptable, hfields, -, -⟩ := validate_inv h
  have hrules : (f.toSettingsFields.normal environ).normal environ' = f.toSettingsFields.normal environ :=
    SettingsFields.normal_normal hacceptable.rules environ'
  rw [hfields]
  unfold ConfigurationFields.normal
  simp only [hrules, optionalRedisUsername_idem, optionalRedisPassword_idem, strip_strip]

/-- **Settings given back as values** are taken again, unchanged, in any environment, iff no space is
left where the trailing slashes of the path prefix were, and it has not become too long. -/
theorem settled_iff (h : validate environ f = .ok c) (environ' : String → Option String) :
    validate environ' c.fields = .ok c ↔ Tidy f.urlPathPrefix ∧ c.urlPathPrefix.length ≤ maxUrlPathPrefix := by
  obtain ⟨-, -, -, hpath⟩ := validate_inv h
  constructor
  · intro hagain
    obtain ⟨hacceptable, -, -, hfixed⟩ := validate_inv hagain
    exact ⟨tidy_of_fixed hpath hfixed, hacceptable.urlPathPrefix.1⟩
  · rintro ⟨htidy, hlen⟩
    have hfixed : normalizeUrlPathPrefixStr c.urlPathPrefix = .ok c.urlPathPrefix := (mountable_of_tidy hpath htidy).2
    refine validate_of_normal ((acceptable_fields h environ').2 ⟨hlen, normalize_ok_iff.1 ⟨_, hfixed⟩⟩) ?_
    have hstored : c.fields.storedPrefix = c.urlPathPrefix := by
      unfold ConfigurationFields.storedPrefix
      show (normalizeUrlPathPrefixStr c.urlPathPrefix).toOption.getD "" = _
      rw [hfixed]
      rfl
    rw [normal_fields h environ', hstored]
    rfl

/-- Spaces around the user and the topic, and nothing else in the password and the path prefix. -/
def spacedConfigurationFields : ConfigurationFields :=
  { toSettingsFields := spacedFields
    redisUsername := some " app "
    redisPassword := some " "
    kafkaTopic := " events"
    urlPathPrefix := " " }

def spacedConfiguration : Configuration where
  toSettings := spacedSettings
  redisUsername := some "app"
  redisPassword := none
  redisSslCheckHostname := false
  redisMaxConnections := ⟨100, Nat.succ_pos _⟩
  kafkaTopic := "events"
  kafkaCompressionType := .zstd
  kafkaAwsDebugCreds := false
  kafkaSendTimeoutSec := ⟨2, two_pos⟩
  kafkaLingerMs := 1
  kafkaBatchSize := ⟨32768, Nat.succ_pos _⟩
  wsPingInterval := ⟨20, by norm_num⟩
  wsPingTimeout := ⟨10, by norm_num⟩
  httpPort := ⟨8080, by omega⟩
  httpBacklog := ⟨4096, Nat.succ_pos _⟩
  httpEnableDocs := false
  urlPathPrefix := ""
  wsMaxConnections := 0
  kafkaStartupTimeoutSec := ⟨30, by norm_num⟩
  stopTimeout := ⟨120, by norm_num⟩
  logLevel := .info
  logFormat := .auto
  suppressHealthAccessLogs := false
  logWsErrorFrames := false
  logSlowMessageThresholdMs := ⟨0, le_rfl⟩

/-- The spaces go, and nothing changes any more. -/
theorem spacedConfiguration_again :
    validate regionInEnviron spacedConfigurationFields = .ok spacedConfiguration ∧
      validate (fun _ => none) spacedConfiguration.fields = .ok spacedConfiguration := by
  have hvalid : validate regionInEnviron spacedConfigurationFields = .ok spacedConfiguration := rfl
  refine ⟨hvalid, (settled_iff hvalid _).2 ⟨fun c hc => ?_, Nat.zero_le _⟩⟩
  have hblank : lastChar (strip " ").toList = none := rfl
  cases hblank.symm.trans hc

end Configuration

end Transcribe
