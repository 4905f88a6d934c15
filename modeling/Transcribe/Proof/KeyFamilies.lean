import Transcribe.Model.Settings
import Transcribe.Proof.Backend

/-!
# The two key families

Sequence keys and ownership keys live in one Redis. Each operation touches the one key it is
given; whether a sequence key can be an ownership key depends on the two prefixes alone.

* `families_apart`: they never are iff the prefixes are `Apart`.
* `accepted_collision`: settings that are accepted, with prefixes that are not.
-/

namespace Transcribe

/-! ## Prefixes -/

/-- The ids of sequence keys: the length a message's `conversationId` may have. -/
def maxConversationId : ℕ := 64

/-- The two prefixes are different, and neither goes on from the other at a `:` far enough for a
client to fill in the rest; an ownership key may have an id of any length. -/
structure Apart (sequencePrefix ownershipPrefix : String) : Prop where
  ne : sequencePrefix ≠ ownershipPrefix
  sequence : ∀ rest, sequencePrefix ≠ ownershipPrefix ++ ":" ++ rest
  ownership : ∀ rest : String, rest.length < maxConversationId → ownershipPrefix ≠ sequencePrefix ++ ":" ++ rest

/-- A key with the prefix `p` that is one with the prefix `q`: the shorter prefix goes on, at a
`:`, to the longer one. -/
theorem shared_key {p q c₁ c₂ : String} (h : p ++ ":" ++ c₁ = q ++ ":" ++ c₂) :
    p = q ∨ (∃ rest, p = q ++ ":" ++ rest) ∨ ∃ rest : String, q = p ++ ":" ++ rest ∧ rest.length < c₁.length := by
  have hcolon : ":".toList = [':'] := rfl
  rw [← String.toList_inj] at h
  simp only [String.toList_append, hcolon, List.append_assoc, List.singleton_append] at h
  rcases List.append_eq_append_iff.1 h with ⟨a, hq, ha⟩ | ⟨a, hp, ha⟩
  · rcases a with _ | ⟨x, a⟩
    · exact .inl (String.toList_inj.1 (by rw [hq, List.append_nil]))
    · obtain ⟨rfl, hc₁ : c₁.toList = a ++ ':' :: c₂.toList⟩ := List.cons.inj ha
      refine .inr (.inr ⟨String.ofList a, ?_, ?_⟩)
      · rw [← String.toList_inj]
        simp [hq]
      · have hlen := congrArg List.length hc₁
        rw [List.length_append, List.length_cons] at hlen
        rw [String.length_ofList, ← String.length_toList]
        omega
  · rcases a with _ | ⟨x, a⟩
    · exact .inl (String.toList_inj.1 (by rw [hp, List.append_nil]))
    · obtain ⟨rfl, -⟩ := List.cons.inj ha
      refine .inr (.inl ⟨String.ofList a, ?_⟩)
      rw [← String.toList_inj]
      simp [hp]

/-- **The key families are disjoint iff the prefixes are apart.** -/
theorem keys_ne_iff (p q : String) :
    (∀ c₁ c₂ : String, c₁.length ≤ maxConversationId → p ++ ":" ++ c₁ ≠ q ++ ":" ++ c₂) ↔ Apart p q := by
  constructor
  · intro h
    refine ⟨?_, ?_, ?_⟩
    · rintro rfl
      exact h "" "" (Nat.zero_le _) rfl
    · rintro rest rfl
      refine h "" (rest ++ ":") (Nat.zero_le _) ?_
      rw [String.append_empty, String.append_assoc]
    · rintro rest hlen rfl
      refine h (rest ++ ":") "" ?_ ?_
      · rw [String.length_append]
        exact hlen
      · rw [String.append_empty, ← String.append_assoc]
  · intro h c₁ c₂ hlen heq
    rcases shared_key heq with hne | ⟨rest, hrest⟩ | ⟨rest, hrest, hshort⟩
    · exact h.ne hne
    · exact h.sequence rest hrest
    · exact h.ownership rest (by omega) hrest

/-- **The two key families of accepted settings.** -/
theorem families_apart (s : Settings) :
    ((∀ c₁ c₂ : String, c₁.length ≤ maxConversationId →
        s.createSequenceStateMachine.key c₁ ≠ s.createOwnershipGuard.key c₂) ↔
      Apart s.redisSequenceStateKeyPrefix s.redisOwnershipGuardKeyPrefix) ∧
    (∀ c seq, TtlStore.Touches (s.createSequenceStateMachine.key c) fun db =>
      s.createSequenceStateMachine.prepare db c seq) ∧
    (∀ c seq, TtlStore.Touches (s.createSequenceStateMachine.key c) fun db =>
      (s.createSequenceStateMachine.commit db c seq, ())) ∧
    (∀ c, TtlStore.Touches (s.createSequenceStateMachine.key c) fun db =>
      (s.createSequenceStateMachine.cleanup db c, ())) ∧
    (∀ c u, TtlStore.Touches (s.createOwnershipGuard.key c) fun db =>
      s.createOwnershipGuard.claimOrRefresh db c u) ∧
    (∀ c u, TtlStore.Touches (s.createOwnershipGuard.key c) fun db =>
      (s.createOwnershipGuard.release db c u, ())) :=
  ⟨keys_ne_iff _ _, fun _ _ => luaPrepare_touches .., fun _ _ => luaCommit_touches .., fun _ => luaCleanup_touches ..,
    fun _ _ => luaClaimOrRefresh_touches .., fun _ _ => luaReleaseIfOwner_touches ..⟩

/-- A deployed service that was given one prefix for both. -/
def onePrefix : SettingsFields :=
  { appEnv := .deployed
    redisUrl := some "rediss://cache:6379/0"
    redisSequenceStateKeyPrefix := "prod:transcribe"
    redisOwnershipGuardKeyPrefix := "prod:transcribe"
    kafkaBootstrapServers := some "broker:9098"
    kafkaMode := .awsMsk
    kafkaAwsRegion := some "ap-east-1" }

/-- **It is accepted, and its sequence keys are its ownership keys.** -/
theorem accepted_collision : ∃ s, Settings.validate (fun _ => none) onePrefix = .ok s ∧
    s.createSequenceStateMachine.key "c1" = s.createOwnershipGuard.key "c1" := by
  refine ⟨⟨.deployed, some "rediss://cache:6379/0", 3600, 60, 30, "prod:transcribe", "prod:transcribe",
    some "broker:9098", .awsMsk, none, some "ap-east-1", 15, false, none, by decide, by decide, by decide⟩, ?_, rfl⟩
  rfl

end Transcribe
