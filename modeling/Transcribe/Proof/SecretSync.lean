import Transcribe.Model.SecretSync
import Transcribe.Proof.Deployed

/-!
# Overlapping syncs, and what a service starts from

* `syncSecretBundle_sat`: what one sync asks for, and what it returns.
* `exec_cases`: what a request of a sync does to the secrets.
* `syncs_interleave`: whatever the order of the requests and whatever fails or is lost, a secret is
  as it was or holds the payload of one sync; a sync that returns has written its payload; one
  sync at most has created the secret.
* `deployed_boots`: a service that starts at any time from a secret that only syncs have written
  runs with settings that were validated, those of the payload it finds.
-/

namespace Transcribe

open Resumption EventSystem

namespace Runtime

variable {R : Runtime} {M : SecretsManager}

/-! ## One sync -/

/-- How far a sync is. -/
inductive SyncPhase
  | start
  | found
  | missing
  | wrote (a : SyncAction)
  | failed
deriving DecidableEq

namespace SyncPhase

def next : SyncPhase → SecretsCall → Except AwsExc Unit → SyncPhase
  | _, .describeSecret _, .ok () => .found
  | _, .describeSecret _, .error e => if e = .clientError resourceNotFound then .missing else .failed
  | _, .createSecret .., .ok () => .wrote .created
  | _, .putSecretValue .., .ok () => .wrote .updated
  | _, _, .error _ => .failed

/-- What a sync of the bundle may ask for. -/
def Allows (b : R.RenderedSecretBundle) : SyncPhase → SecretsCall → Prop
  | .start, .describeSecret name => name = b.aws.secretName
  | .missing, .createSecret name secret => name = b.aws.secretName ∧ secret = b.newSecret
  | .found, .putSecretValue name secretString => name = b.aws.secretName ∧ secretString = b.secretString
  | _, _ => False

end SyncPhase

/-- The requests of a sync, watched. -/
def syncing (b : R.RenderedSecretBundle) : Monitor SecretsCall SecretsReply SyncPhase :=
  ⟨SyncPhase.Allows b, SyncPhase.next⟩

theorem syncSecretBundle_sat (b : R.RenderedSecretBundle) :
    (syncing b).Sat (syncSecretBundle b).run .start fun s x => ∀ a, x = .ok a → s = .wrote a := by
  refine Monitor.sat_attempt_bind.2 ⟨rfl, fun (x : Except AwsExc Unit) => ?_⟩
  rcases x with (code | text) | _
  · show (syncing b).Sat (if code ≠ resourceNotFound then throw (.clientError code) >>= fun _ => _ else _ :
      SecretsCoro SyncAction).run _ _
    refine Monitor.sat_ite (fun _ => nofun) fun hcode => ?_
    have hphase : (syncing b).next .start (.describeSecret b.aws.secretName) (.error (.clientError code)) =
        .missing := by
      rw [not_not.1 hcode]
      rfl
    rw [hphase]
    refine Monitor.sat_exceptT_bind.2 ⟨⟨rfl, rfl⟩, fun (x : Except AwsExc Unit) => ?_⟩
    cases x with
    | ok _ => exact fun a ha => by rw [← Except.ok.inj ha]; rfl
    | error e => exact nofun
  · exact nofun
  · refine Monitor.sat_exceptT_bind.2 ⟨⟨rfl, rfl⟩, fun (x : Except AwsExc Unit) => ?_⟩
    cases x with
    | ok _ => exact fun a ha => by rw [← Except.ok.inj ha]; rfl
    | error e => exact nofun

/-- **What a request of a sync does**: nothing, or it writes the payload of the bundle into its
secret, which it creates or which is there. -/
theorem exec_cases (hM : M.Documented) {b : R.RenderedSecretBundle} {p : SyncPhase} {i : SecretsCall}
    (hok : p.Allows b i) (s : M.Store) :
    M.Keeps s (M.exec s b.aws.profile b.aws.region i).1 ∧
      (∀ a, p.next i (M.exec s b.aws.profile b.aws.region i).2 ≠ .wrote a) ∨
    ∃ x, M.Writes s (M.exec s b.aws.profile b.aws.region i).1
        (M.resolve b.aws.profile b.aws.region b.aws.secretName) x ∧ x.secretString = some b.secretString ∧
      (M.current s (M.resolve b.aws.profile b.aws.region b.aws.secretName) = none ∧ x = b.newSecret ∧
          p.next i (M.exec s b.aws.profile b.aws.region i).2 = .wrote .created ∨
        ∃ x₀, M.current s (M.resolve b.aws.profile b.aws.region b.aws.secretName) = some x₀ ∧ x.tags = x₀.tags ∧
          x.kmsKeyId = x₀.kmsKeyId ∧ p.next i (M.exec s b.aws.profile b.aws.region i).2 = .wrote .updated) := by
  cases i with
  | describeSecret name =>
    refine .inl ⟨hM.describe _ _ _ _, fun a => ?_⟩
    cases (M.exec s b.aws.profile b.aws.region (.describeSecret name)).2 with
    | ok _ => nofun
    | error e =>
      show (if e = .clientError resourceNotFound then SyncPhase.missing else .failed) ≠ _
      -- a description writes nothing, whatever it answers
      split <;> nofun
  | createSecret name secret =>
    -- only the bundle's own secret is created
    obtain ⟨rfl, rfl⟩ : name = b.aws.secretName ∧ secret = b.newSecret := by
      cases p <;> first | exact hok | exact hok.elim
    rcases hM.create s b.aws.profile b.aws.region b.aws.secretName b.newSecret with
      ⟨hanswer, hnone, hwrites⟩ | ⟨⟨e, hanswer⟩, hkeeps⟩
    · rw [hanswer]
      exact .inr ⟨_, hwrites, rfl, .inl ⟨hnone, rfl, rfl⟩⟩
    · rw [hanswer]
      exact .inl ⟨hkeeps, nofun⟩
  | putSecretValue name secretString =>
    obtain ⟨rfl, rfl⟩ : name = b.aws.secretName ∧ secretString = b.secretString := by
      cases p <;> first | exact hok | exact hok.elim
    rcases hM.put s b.aws.profile b.aws.region b.aws.secretName b.secretString with
      ⟨hanswer, x₀, hsome, hwrites⟩ | ⟨⟨e, hanswer⟩, hkeeps⟩
    · rw [hanswer]
      exact .inr ⟨_, hwrites, rfl, .inr ⟨x₀, hsome, rfl, rfl, rfl⟩⟩
    · rw [hanswer]
      exact .inl ⟨hkeeps, nofun⟩

/-! ## Syncs that overlap -/

namespace Syncs

variable {bundle : ℕ → R.RenderedSecretBundle} {s₀ : M.Store} {w : Syncs M bundle}

/-- How far sync `i` is. -/
def phase (w : Syncs M bundle) (i : ℕ) : SyncPhase := (w.sync i).state (syncing (bundle i)) .start

/-- The secret `x`, which is `k`, comes from the syncs: its payload is that of a sync, and what else it
has is what was there or what the sync that created it has put there. -/
def Synced (bundle : ℕ → R.RenderedSecretBundle) (s₀ : M.Store) (k : M.Secret) (x : StoredSecret) : Prop :=
  (∃ i, secretOf M bundle i = k ∧ x.secretString = some (bundle i).secretString) ∧
    ((∃ x₀, M.current s₀ k = some x₀ ∧ x.tags = x₀.tags ∧ x.kmsKeyId = x₀.kmsKeyId) ∨
      M.current s₀ k = none ∧ ∃ j, secretOf M bundle j = k ∧ x.tags = (bundle j).newSecret.tags ∧
        x.kmsKeyId = (bundle j).newSecret.kmsKeyId)

/-- The secrets after some requests, and the syncs that have written. -/
structure Sound (s₀ : M.Store) (w : Syncs M bundle) : Prop where
  kept : ∀ k, M.current w.store k = M.current s₀ k ∨ ∃ x, M.current w.store k = some x ∧ Synced bundle s₀ k x
  there : ∀ i a, w.phase i = .wrote a → M.current w.store (secretOf M bundle i) ≠ none
  fresh : ∀ i, w.phase i = .wrote .created → M.current s₀ (secretOf M bundle i) = none
  one : ∀ i j, w.phase i = .wrote .created → w.phase j = .wrote .created →
    secretOf M bundle i = secretOf M bundle j → i = j

theorem phase_step {e : SyncEvent} {c : SecretsCall} (hc : (w.sync e.sync).rest.pending = some c) (i : ℕ) :
    (w.step e).phase i = if i = e.sync then
      (w.phase e.sync).next c (deliver w.store (bundle e.sync).aws c e.delivery).2 else w.phase i := by
  unfold phase step
  rw [hc]
  by_cases hi : i = e.sync
  · subst hi
    simp only [Function.update_self, if_true]
    exact Thread.state_advance hc
  · simp only [Function.update_of_ne hi, if_neg hi]

theorem store_step {e : SyncEvent} {c : SecretsCall} (hc : (w.sync e.sync).rest.pending = some c) :
    (w.step e).store = (deliver w.store (bundle e.sync).aws c e.delivery).1 := by
  unfold step
  rw [hc]

/-- A request that leaves the secrets as they are, of a sync that has not written then. -/
theorem Sound.idle (h : Sound s₀ w) {e : SyncEvent} (hstore : M.Keeps w.store (w.step e).store)
    (hphase : ∀ i a, (w.step e).phase i = .wrote a → w.phase i = .wrote a) : Sound s₀ (w.step e) := by
  refine ⟨fun k => ?_, fun i a hi => ?_, fun i hi => h.fresh i (hphase i _ hi), fun i j hi hj => ?_⟩
  · rw [hstore k]
    exact h.kept k
  · rw [hstore]
    exact h.there i a (hphase i a hi)
  · exact h.one i j (hphase i _ hi) (hphase j _ hj)

/-- What is written is from the syncs. -/
theorem Sound.synced (h : Sound s₀ w) {i : ℕ} {x : StoredSecret}
    (hx : x.secretString = some (bundle i).secretString)
    (hfrom : M.current w.store (secretOf M bundle i) = none ∧ x = (bundle i).newSecret ∨
      ∃ x₀, M.current w.store (secretOf M bundle i) = some x₀ ∧ x.tags = x₀.tags ∧ x.kmsKeyId = x₀.kmsKeyId) :
    Synced bundle s₀ (secretOf M bundle i) x := by
  refine ⟨⟨i, rfl, hx⟩, ?_⟩
  rcases hfrom with ⟨hnone, rfl⟩ | ⟨x₀, hx₀, htags, hkms⟩
  · -- nothing was there before either, for what is there stays
    right
    rcases h.kept (secretOf M bundle i) with hold | ⟨x, hsome, _⟩
    · exact ⟨hold.symm.trans hnone, i, rfl, rfl, rfl⟩
    · rw [hnone] at hsome
      cases hsome
  · rcases h.kept (secretOf M bundle i) with hold | ⟨x₁, hx₁, _, horigin⟩
    · exact .inl ⟨x₀, hold.symm.trans hx₀, htags, hkms⟩
    · obtain rfl : x₁ = x₀ := Option.some.inj (hx₁.symm.trans hx₀)
      rcases horigin with ⟨y, hy, ht, hk⟩ | ⟨hnone, j, hj, ht, hk⟩
      · exact .inl ⟨y, hy, htags.trans ht, hkms.trans hk⟩
      · exact .inr ⟨hnone, j, hj, htags.trans ht, hkms.trans hk⟩

/-- **A request of a sync that writes.** -/
theorem Sound.write (h : Sound s₀ w) {e : SyncEvent} {x : StoredSecret}
    (hwrites : M.Writes w.store (w.step e).store (secretOf M bundle e.sync) x)
    (hx : x.secretString = some (bundle e.sync).secretString)
    (hfrom : M.current w.store (secretOf M bundle e.sync) = none ∧ x = (bundle e.sync).newSecret ∨
      ∃ x₀, M.current w.store (secretOf M bundle e.sync) = some x₀ ∧ x.tags = x₀.tags ∧ x.kmsKeyId = x₀.kmsKeyId)
    (hother : ∀ i, i ≠ e.sync → (w.step e).phase i = w.phase i)
    (hcreated : (w.step e).phase e.sync = .wrote .created → M.current w.store (secretOf M bundle e.sync) = none) :
    Sound s₀ (w.step e) := by
  obtain ⟨hself, hget⟩ := hwrites
  -- whoever has created a secret before has created another one
  have hbefore : ∀ i, i ≠ e.sync → (w.step e).phase i = .wrote .created →
      (w.step e).phase e.sync = .wrote .created → secretOf M bundle i ≠ secretOf M bundle e.sync := by
    intro i hi hphase hmine hsame
    rw [hother i hi] at hphase
    exact h.there i _ hphase (hsame ▸ hcreated hmine)
  refine ⟨fun k => ?_, fun i a hi => ?_, fun i hi => ?_, fun i j hi hj hsame => ?_⟩
  · by_cases hk : k = secretOf M bundle e.sync
    · subst hk
      exact .inr ⟨x, hself, h.synced hx hfrom⟩
    · rw [hget k hk]
      exact h.kept k
  · by_cases hk : secretOf M bundle i = secretOf M bundle e.sync
    · rw [hk, hself]
      nofun
    · rw [hget _ hk]
      refine h.there i a ?_
      rwa [← hother i fun hi' => hk (by rw [hi'])]
  · by_cases hmine : i = e.sync
    · subst hmine
      rcases h.kept (secretOf M bundle e.sync) with hold | ⟨y, hy, _⟩
      · rw [← hold]
        exact hcreated hi
      · rw [hcreated hi] at hy
        cases hy
    · rw [hother i hmine] at hi
      exact h.fresh i hi
  · by_cases hi' : i = e.sync
    · subst hi'
      by_cases hj' : j = e.sync
      · exact hj'.symm
      · exact absurd hsame.symm (hbefore j hj' hj hi)
    · by_cases hj' : j = e.sync
      · subst hj'
        exact absurd hsame (hbefore i hi' hi hj)
      · rw [hother i hi'] at hi
        rw [hother j hj'] at hj
        exact h.one i j hi hj hsame

/-- A request in the state `w`, by what it does. -/
theorem step_cases (hM : M.Documented) (w : Syncs M bundle) (e : SyncEvent) :
    (M.Keeps w.store (w.step e).store ∧ ∀ i a, (w.step e).phase i = .wrote a → w.phase i = .wrote a) ∨
    ∃ x, M.Writes w.store (w.step e).store (secretOf M bundle e.sync) x ∧
      x.secretString = some (bundle e.sync).secretString ∧
      (M.current w.store (secretOf M bundle e.sync) = none ∧ x = (bundle e.sync).newSecret ∨
        ∃ x₀, M.current w.store (secretOf M bundle e.sync) = some x₀ ∧ x.tags = x₀.tags ∧ x.kmsKeyId = x₀.kmsKeyId) ∧
      (∀ i, i ≠ e.sync → (w.step e).phase i = w.phase i) ∧
      ((w.step e).phase e.sync = .wrote .created → M.current w.store (secretOf M bundle e.sync) = none) := by
  cases hc : (w.sync e.sync).rest.pending with
  | none =>
    left
    have hsame : w.step e = w := by
      unfold step
      rw [hc]
    rw [hsame]
    exact ⟨fun _ => rfl, fun _ _ h => h⟩
  | some c =>
    have hok : (w.phase e.sync).Allows (bundle e.sync) c :=
      (w.sync e.sync).ok_of_pending (syncSecretBundle_sat (bundle e.sync)) hc
    have hother : ∀ i, i ≠ e.sync → (w.step e).phase i = w.phase i := by
      intro i hi
      rw [phase_step hc, if_neg hi]
    have hmine : (w.step e).phase e.sync =
        (w.phase e.sync).next c (deliver w.store (bundle e.sync).aws c e.delivery).2 := by
      rw [phase_step hc, if_pos rfl]
    -- where the request is not answered the sync has not written, as far as it knows
    have hunanswered : ∀ x a, (w.phase e.sync).next c (.error x) ≠ .wrote a := by
      intro x a
      cases c with
      | describeSecret name =>
        show (if x = .clientError resourceNotFound then SyncPhase.missing else .failed) ≠ _
        split <;> nofun
      | createSecret name secret => nofun
      | putSecretValue name secretString => nofun
    have hidle : (∀ a, (w.step e).phase e.sync ≠ .wrote a) →
        ∀ i a, (w.step e).phase i = .wrote a → w.phase i = .wrote a := by
      intro hno i a hi
      by_cases hie : i = e.sync
      · subst hie
        exact absurd hi (hno a)
      · rwa [← hother i hie]
    rw [store_step hc]
    cases hd : e.delivery with
    | failed x =>
      left
      rw [hd] at hmine
      refine ⟨fun _ => rfl, hidle fun a => ?_⟩
      rw [hmine]
      exact hunanswered x a
    | answered =>
      rw [hd] at hmine
      rcases exec_cases hM hok w.store with ⟨hsame, hno⟩ | ⟨x, hupd, hx, hfrom⟩
      · exact .inl ⟨hsame, hidle fun a => hmine ▸ hno a⟩
      · refine .inr ⟨x, hupd, hx, ?_, hother, fun hcreated => ?_⟩
        · rcases hfrom with ⟨hnone, hnew, _⟩ | ⟨x₀, hx₀, htags, hkms, _⟩
          · exact .inl ⟨hnone, hnew⟩
          · exact .inr ⟨x₀, hx₀, htags, hkms⟩
        · rcases hfrom with ⟨hnone, _, _⟩ | ⟨x₀, _, _, _, hupdated⟩
          · exact hnone
          · have hboth := hupdated.symm.trans (hmine.symm.trans hcreated)
            cases hboth
    | lost y =>
      rw [hd] at hmine
      rcases exec_cases hM hok w.store with ⟨hsame, _⟩ | ⟨x, hupd, hx, hfrom⟩
      · refine .inl ⟨hsame, hidle fun a => ?_⟩
        rw [hmine]
        exact hunanswered y a
      · refine .inr ⟨x, hupd, hx, ?_, hother, fun hcreated => ?_⟩
        · rcases hfrom with ⟨hnone, hnew, _⟩ | ⟨x₀, hx₀, htags, hkms, _⟩
          · exact .inl ⟨hnone, hnew⟩
          · exact .inr ⟨x₀, hx₀, htags, hkms⟩
        · exact absurd (hmine.symm.trans hcreated) (hunanswered y _)

theorem step_sound (hM : M.Documented) (h : Sound s₀ w) (e : SyncEvent) : Sound s₀ (w.step e) := by
  rcases step_cases hM w e with ⟨hstore, hphase⟩ | ⟨x, hwrites, hx, hfrom, hother, hcreated⟩
  · exact h.idle hstore hphase
  · exact h.write hwrites hx hfrom hother hcreated

theorem init_sound : Sound s₀ (⟨s₀, fun _ => .start _⟩ : Syncs M bundle) :=
  ⟨fun _ => .inl rfl, nofun, nofun, nofun⟩

theorem after_sound (hM : M.Documented) (es : List SyncEvent) : Sound s₀ (after M bundle s₀ es) :=
  @run_inv _ _ step (Sound s₀) (fun _ e h => step_sound hM h e) es _ init_sound

/-- A sync that has written: its payload was there once. -/
theorem written (hM : M.Documented) {i : ℕ} {a : SyncAction} (es : List SyncEvent)
    (h : (after M bundle s₀ es).phase i = .wrote a) :
    ∃ es₁, es₁ <+: es ∧ ∃ x, M.current (after M bundle s₀ es₁).store (secretOf M bundle i) = some x ∧
      x.secretString = some (bundle i).secretString := by
  induction es using List.reverseRecOn with
  | nil => cases h
  | append_singleton es e ih =>
    have hnext : after M bundle s₀ (es ++ [e]) = (after M bundle s₀ es).step e := run_append ..
    by_cases hbefore : (after M bundle s₀ es).phase i = .wrote a
    · obtain ⟨es₁, hpre, hx⟩ := ih hbefore
      exact ⟨es₁, hpre.trans (List.prefix_append _ _), hx⟩
    · rw [hnext] at h
      rcases step_cases hM (after M bundle s₀ es) e with ⟨_, hphase⟩ | ⟨x, hwrites, hx, _, hother, _⟩
      · exact absurd (hphase i a h) hbefore
      · -- it is the request that has just been made
        have hmine : i = e.sync := by
          by_contra hi
          exact hbefore ((hother i hi).symm.trans h)
        subst hmine
        refine ⟨es ++ [e], List.prefix_refl _, x, ?_, hx⟩
        rw [hnext]
        exact hwrites.1

theorem phase_of_result {i : ℕ} {a : SyncAction} (h : w.result i = some (.ok a)) : w.phase i = .wrote a :=
  (w.sync i).post_of_result (syncSecretBundle_sat (bundle i)) h a rfl

variable (bundle s₀) in
/-- **Overlapping syncs.** Whatever the order of the requests, and whatever fails or is lost: a secret
is as it was, or holds the payload of a sync of it, with the tags and the key it has had from
the start. A sync that returns has had its payload there, and one at most has created the secret. -/
theorem syncs_interleave (hM : M.Documented) (es : List SyncEvent) :
    (∀ k, M.current (after M bundle s₀ es).store k = M.current s₀ k ∨
      ∃ x, M.current (after M bundle s₀ es).store k = some x ∧ Synced bundle s₀ k x) ∧
    (∀ i a, (after M bundle s₀ es).result i = some (.ok a) →
      (∃ es₁, es₁ <+: es ∧ ∃ x, M.current (after M bundle s₀ es₁).store (secretOf M bundle i) = some x ∧
        x.secretString = some (bundle i).secretString) ∧
      (a = .created → M.current s₀ (secretOf M bundle i) = none)) ∧
    ∀ i j, (after M bundle s₀ es).result i = some (.ok .created) →
      (after M bundle s₀ es).result j = some (.ok .created) → secretOf M bundle i = secretOf M bundle j → i = j := by
  have h := @after_sound R M bundle s₀ hM es
  refine ⟨h.kept, fun i a hi => ⟨written hM es (phase_of_result hi), ?_⟩, fun i j hi hj hsame => ?_⟩
  · rintro rfl
    exact h.fresh i (phase_of_result hi)
  · exact h.one i j (phase_of_result hi) (phase_of_result hj) hsame

end Syncs

/-! ## What a service starts from -/

/-- A service that starts from the payload of an accepted bundle has its settings. -/
theorem Accepted.starts {layers : List (Toml R.Float)} {b : R.RenderedSecretBundle} (hb : Accepted layers b)
    (hR : R.Documented) (hjson : b.ReadsBack) {getSecretValue : String → String → Except String (Option String)}
    (hstore : getSecretValue b.aws.region b.aws.secretName = .ok (some b.secretString)) {p : Process}
    (hp : p.deployedSecretsLoaded = false) (hvars : p.environ.vars.Perm b.bootstrapEnvironment) :
    ∃ p' settings, R.mergeDeployedSecretsIntoEnviron getSecretValue none p = .ok p' ∧
      R.validateDeployedSettings b.appSecret b.aws.region = .ok settings ∧
      R.settings p'.environ.vars = .ok settings := by
  obtain ⟨p', hmerge, hproper, hget⟩ := merge_get? hR hb hjson hstore hp hvars
  obtain ⟨settings, hvalidated⟩ := hb.validated
  obtain ⟨env, henv, hsettings⟩ := validated_with hvalidated
  refine ⟨p', settings, hmerge, hvalidated, ?_⟩
  rw [← hsettings]
  refine hR.settings_congr _ _ hproper henv.1 (fun k hk => ?_) fun k hne => ?_
  · -- neither environment has other keys
    rw [List.mem_append, not_or] at hk
    have hne : k ≠ awsSecretsManagerSecretIdEnv := by
      rintro rfl
      exact hk.2 (by decide)
    rw [henv.2, hget, hb.validationEnv_get?, ← hb.bootstrap_get? hne, hb.strings_none hk.1, hb.bootstrap_none hk.2]
    exact ⟨rfl, rfl⟩
  · rw [henv.2, hget, hb.validationEnv_get?, hb.bootstrap_get? hne]

/-- **A service runs with settings that were validated**, at whatever time it starts: those of the sync
whose payload it finds. -/
theorem deployed_boots (hM : M.Documented) (hR : R.Documented) {bundle : ℕ → R.RenderedSecretBundle}
    (hrendered : ∀ i, ∃ environment baseDoc envDoc secretDoc,
      R.renderSecretBundle environment baseDoc envDoc secretDoc = .ok (bundle i))
    (hjson : ∀ i, (bundle i).ReadsBack) {s₀ : M.Store} {role region name : String}
    (hs₀ : M.current s₀ (M.resolve role region name) = none)
    (hnamed : ∀ i, Syncs.secretOf M bundle i = M.resolve role region name →
      (bundle i).aws.region = region ∧ (bundle i).aws.secretName = name)
    (es : List SyncEvent) {value : String}
    (hread : M.getSecretValue (Syncs.after M bundle s₀ es).store role region name = .ok (some value))
    {p : Process} (hp : p.deployedSecretsLoaded = false)
    (hvars : p.environ.vars.Perm [(appEnvVar, appEnvDeployed), (awsRegionEnv, region),
      (awsSecretsManagerSecretIdEnv, name)]) :
    ∃ i p' settings, Syncs.secretOf M bundle i = M.resolve role region name ∧ value = (bundle i).secretString ∧
      R.mergeDeployedSecretsIntoEnviron (M.getSecretValue (Syncs.after M bundle s₀ es).store role) none p =
        .ok p' ∧
      R.validateDeployedSettings (bundle i).appSecret region = .ok settings ∧
      R.settings p'.environ.vars = .ok settings := by
  obtain ⟨x, hx, hvalue⟩ := hM.get _ _ _ _ _ hread
  rcases (Syncs.after_sound hM es).kept (M.resolve role region name) with hold | ⟨y, hy, ⟨i, hi, hpayload⟩, _⟩
  · rw [hx, hs₀] at hold
    cases hold
  · obtain rfl : y = x := Option.some.inj (hy.symm.trans hx)
    obtain rfl : value = (bundle i).secretString := Option.some.inj (hvalue.symm.trans hpayload)
    obtain ⟨environment, baseDoc, envDoc, secretDoc, hok⟩ := hrendered i
    have hb := renderSecretBundle_ok hok
    obtain ⟨rfl, rfl⟩ := hnamed i hi
    obtain ⟨p', settings, hmerge, hvalidated, hsettings⟩ :=
      hb.starts hR (hjson i) hread hp (by rw [hb.bootstrap]; exact hvars)
    exact ⟨i, p', settings, hi, rfl, hmerge, hvalidated, hsettings⟩

/-! ## Two syncs of one secret -/

/-- A Secrets Manager of one account, with secrets under their names. -/
def namedManager : SecretsManager where
  Store := String × String → Option StoredSecret
  Secret := String × String
  resolve _ region name := (region, name)
  current s k := s k
  exec s _ region
    | .describeSecret name =>
      (s, if (s (region, name)).isSome then .ok () else .error (.clientError resourceNotFound))
    | .createSecret name secret =>
      match s (region, name) with
      | some _ => (s, .error (.clientError "ResourceExistsException"))
      | none => (Function.update s (region, name) (some secret), .ok ())
    | .putSecretValue name value =>
      match s (region, name) with
      | some x => (Function.update s (region, name) (some { x with secretString := some value }), .ok ())
      | none => (s, .error (.clientError resourceNotFound))
  getSecretValue s _ region name :=
    match s (region, name) with
    | some x => .ok x.secretString
    | none => .error resourceNotFound

theorem namedManager_documented : namedManager.Documented where
  describe _ _ _ _ := fun _ => rfl
  create s c r name x := by
    cases hs : s (r, name) with
    | none =>
      simp only [namedManager, hs]
      exact .inl ⟨trivial, trivial, Function.update_self .., fun k hk => Function.update_of_ne hk ..⟩
    | some x₀ =>
      simp only [namedManager, hs]
      exact .inr ⟨⟨_, rfl⟩, fun _ => rfl⟩
  put s c r name value := by
    cases hs : s (r, name) with
    | none =>
      simp only [namedManager, hs]
      exact .inr ⟨⟨_, rfl⟩, fun _ => rfl⟩
    | some x₀ =>
      simp only [namedManager, hs]
      exact .inl ⟨trivial, x₀, rfl, Function.update_self .., fun k hk => Function.update_of_ne hk ..⟩
  get s c r name value h := by
    cases hs : s (r, name) with
    | none =>
      simp only [namedManager, hs] at h
      cases h
    | some x =>
      simp only [namedManager, hs] at h
      exact ⟨x, hs, Except.ok.inj h⟩

/-- Two syncs overlap: both find the secret missing, the answer to the first creation is lost, and the
second creation is refused. -/
def overlapping : List SyncEvent :=
  [⟨0, .answered⟩, ⟨1, .answered⟩, ⟨0, .lost (.other "timeout")⟩, ⟨1, .answered⟩]

/-- The secret comes from them. -/
theorem overlapping_synced : ∃ x, namedManager.current
      (Syncs.after namedManager (fun _ => sampleBundle) (fun _ => none) overlapping).store
        ("ap-east-1", "prod/transcribe") = some x ∧
    Syncs.Synced (M := namedManager) (fun _ => sampleBundle) (fun _ => none) ("ap-east-1", "prod/transcribe") x := by
  refine ((Syncs.syncs_interleave (fun _ => sampleBundle) (fun _ => none) namedManager_documented overlapping).1
    _).resolve_left fun hold => ?_
  cases hold

/-- A service that starts then finds it, and runs with the settings that were validated. -/
theorem overlapping_boots :
    ∃ (p' : Process) (settings : asciiRuntime.Settings),
      asciiRuntime.mergeDeployedSecretsIntoEnviron (namedManager.getSecretValue
        (Syncs.after namedManager (fun _ => sampleBundle) (fun _ => none) overlapping).store "service") none
          sampleService = .ok p' ∧
      asciiRuntime.validateDeployedSettings sampleBundle.appSecret "ap-east-1" = .ok settings ∧
      asciiRuntime.settings p'.environ.vars = .ok settings := by
  obtain ⟨_, p', settings, _, _, hmerge, hvalidated, hsettings⟩ := @deployed_boots asciiRuntime namedManager
    namedManager_documented asciiRuntime_documented (fun _ => sampleBundle)
    (fun _ => ⟨"prod", sampleBase, sampleEnv, sampleSecrets, sample_rendered⟩) (fun _ => sample_readsBack)
    (fun _ => none) "service" "ap-east-1" "prod/transcribe" rfl (fun _ _ => ⟨rfl, rfl⟩) overlapping
    sampleBundle.secretString rfl sampleService rfl (.refl _)
  exact ⟨p', settings, hmerge, hvalidated, hsettings⟩

end Runtime

end Transcribe
