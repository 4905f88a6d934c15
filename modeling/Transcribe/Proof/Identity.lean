import Transcribe.Model.Sample
import Transcribe.Proof.Conduct

/-!
# One conversation for each connection

The guard takes the first value of `conversationId` that is not blank, the endpoint the
last value.

* `one_conversation`: everything the endpoint does, it does for the conversation the guard
  claimed, iff these two values are the same.
* `two_conversations`: with two different values a session runs for a conversation that
  was not claimed.
-/

namespace Transcribe

open Resumption

variable {t : Transport} {scope : Scope} {s : Conduct} {i : ConnCall} {r : ConnReply i}

/-! ## Two readings of a query string -/

namespace Scope

/-- The values of `conversationId` in the query string, in order, as they stand there. -/
def conversationIds (unquote : String → String) (scope : Scope) : List String :=
  ((nameValues (decodeLatin1 scope.queryString)).filter fun nv =>
    decodeField unquote nv.1 = "conversationId").map Prod.snd

/-- The last value, blank or not, decodes as the first one that is not blank. -/
def Unambiguous (unquote : String → String) (scope : Scope) : Prop :=
  (scope.conversationIds unquote).getLast?.map (decodeField unquote) =
    ((scope.conversationIds unquote).find? fun v => v ≠ "").map (decodeField unquote)

instance (unquote : String → String) (scope : Scope) : Decidable (scope.Unambiguous unquote) :=
  inferInstanceAs (Decidable (_ = _))

variable (unquote : String → String)

/-- The values a parser returns, from those in the query string. -/
theorem valuesOf_parseQsl (keepBlankValues : Bool) :
    valuesOf (parseQsl unquote keepBlankValues (decodeLatin1 scope.queryString)) "conversationId" =
      ((scope.conversationIds unquote).filter fun v => keepBlankValues || decide (v ≠ "")).map
        (decodeField unquote) := by
  unfold valuesOf parseQsl conversationIds
  rw [List.filter_map, List.filter_filter, List.filter_map, List.filter_filter, List.map_map,
    List.map_map]
  congr 1
  refine List.filter_congr fun nv _ => ?_
  exact Bool.and_comm _ _

theorem extractConversationId_eq : scope.extractConversationId unquote =
    (((scope.conversationIds unquote).find? fun v => v ≠ "").map (decodeField unquote)).getD "" := by
  unfold extractConversationId
  rw [valuesOf_parseQsl, List.headD_eq_head?_getD, List.head?_map, ← List.head?_filter]
  rfl

theorem queryConversationId_eq : scope.queryConversationId unquote =
    ((scope.conversationIds unquote).getLast?.map (decodeField unquote)).getD "" := by
  unfold queryConversationId
  rw [valuesOf_parseQsl, List.getLastD_eq_getLast?, List.getLast?_map]
  simp

/-- **Both parsers read one conversation iff the query string is unambiguous.** -/
theorem ids_agree_iff (h : scope.extractConversationId unquote ≠ "") :
    scope.queryConversationId unquote = scope.extractConversationId unquote ↔
      scope.Unambiguous unquote := by
  rw [extractConversationId_eq] at h
  rw [extractConversationId_eq, queryConversationId_eq]
  unfold Unambiguous
  cases hfirst : (scope.conversationIds unquote).find? fun v => v ≠ "" with
  | none => rw [hfirst] at h; exact absurd rfl h
  | some v =>
    have hne : scope.conversationIds unquote ≠ [] := by
      intro hnil
      rw [hnil] at hfirst
      cases hfirst
    rw [List.getLast?_eq_some_getLast hne]
    simp

end Scope

/-! ## The endpoint's conversation -/

section

-- what is read off the scope is not computed here
attribute [local irreducible] Scope.extractConversationId Scope.queryConversationId
  Scope.normalizeWsPath Scope.routed Scope.authorization

/-- The conversations a call is about: the one it is made for, and the one of the body it
hands on. -/
def ConnCall.conversations : ConnCall → List String
  | .guard (.claimOrRefresh c _) | .guard (.release c _) | .registryAdd c | .registryRemove c
  | .spawnRefresh c _ => [c]
  | .handleMessage raw c => c :: raw.bodyConversationId.toList
  | _ => []

/-- A run uses a conversation in a call of its own or of the refresh task it started. -/
inductive Uses (τ : List (Σ i, ConnReply i)) (c : String) : Prop
  | call (i : ConnCall) (r : ConnReply i) (hmem : ⟨i, r⟩ ∈ τ) (hc : c ∈ i.conversations)
  | refresh (c₀ u : String) (hspawn : ⟨.spawnRefresh c₀ u, ()⟩ ∈ τ) (rounds : ℕ)
      (τ' : List (Σ i, ConnReply i)) (q : Prog ConnCall ConnReply (Except Exc Unit))
      (ht : Trace (refreshLoop c₀ u rounds).run τ' q) (i : ConnCall) (r : ConnReply i)
      (hmem : ⟨i, r⟩ ∈ τ') (hc : c ∈ i.conversations)

/-- The endpoint's calls are all about the endpoint's conversation. -/
theorem Conduct.Allows.conversation (h : s.Allows t scope i) (he : s.entered = true) {c : String}
    (hc : c ∈ i.conversations) : c = scope.queryConversationId t.unquote := by
  cases i with
  | guard g =>
    cases g with
    | claimOrRefresh c' u =>
      obtain rfl := List.mem_singleton.1 hc
      have hc' := h.2.2.2
      rwa [if_pos he] at hc'
    | release c' u =>
      obtain rfl := List.mem_singleton.1 hc
      exact h.2.2.2.1
  | registryAdd c' | registryRemove c' =>
    obtain rfl := List.mem_singleton.1 hc
    exact h.2
  | spawnRefresh c' u =>
    obtain rfl := List.mem_singleton.1 hc
    exact h.2.2.2.1
  | handleMessage raw c' =>
    obtain ⟨-, -, rfl, hbody, -⟩ := h
    rcases List.mem_cons.1 hc with rfl | hb
    · rfl
    · -- the body's conversation has been compared
      rw [Option.mem_toList] at hb
      unfold bodyMismatch at hbody
      rw [Option.mem_def.1 hb] at hbody
      simpa using hbody
  | _ => simp [ConnCall.conversations] at hc

/-- The refresh task claims for the conversation it was started with. -/
theorem refresh_conversation {c₀ u c : String} {rounds : ℕ} {τ : List (Σ i, ConnReply i)}
    {q : Prog ConnCall ConnReply (Except Exc Unit)} (ht : Trace (refreshLoop c₀ u rounds).run τ q)
    (hmem : ⟨i, r⟩ ∈ τ) (hc : c ∈ i.conversations) : c = c₀ := by
  obtain ⟨-, -, hquiet | rfl⟩ := (refreshLoop_sat c₀ u rounds).ok_of_mem (P := fun _ => True)
    (fun _ _ _ _ _ => trivial) ht trivial hmem
  · cases i <;> first | exact hquiet.elim | simp [ConnCall.conversations] at hc
  · exact List.mem_singleton.1 hc

variable {frames : ℕ} {τ τ' : List (Σ i, ConnReply i)} {q : Prog ConnCall ConnReply (Except Exc Unit)}

/-- What is used from the accept on is the endpoint's conversation. -/
theorem uses_conversation {accepted : ConnReply .accept}
    (h : Trace (t.wsGuardMiddleware scope frames).run (τ ++ ⟨.accept, accepted⟩ :: τ') q) {c : String}
    (hc : Uses τ' c) : c = scope.queryConversationId t.unquote := by
  obtain ⟨q', hτ, h'⟩ := h.split
  have hsat := (wsGuardMiddleware_sat t scope frames).trace hτ
  cases h' with
  | cons h' =>
    have hok : ∀ {i r}, ⟨i, r⟩ ∈ τ' → ∃ s, s.entered = true ∧ Conduct.Allows t scope s i :=
      fun hmem => (hsat.2 accepted).ok_of_mem (P := fun s => s.entered = true)
        (fun _ _ _ _ => Conduct.entered_next) h' rfl hmem
    cases hc with
    | call i r hmem hc =>
      obtain ⟨s, he, hallow⟩ := hok hmem
      exact hallow.conversation he hc
    | refresh c₀ u hspawn rounds τr q ht i r hmem hc =>
      obtain ⟨s, he, hallow⟩ := hok hspawn
      rw [refresh_conversation ht hmem hc]
      exact hallow.conversation he (List.mem_singleton.2 rfl)

/-- **One conversation.** -/
theorem one_conversation {accepted : ConnReply .accept} {c u : String}
    (h : Trace (t.wsGuardMiddleware scope frames).run (τ ++ ⟨.accept, accepted⟩ :: τ') q)
    (hclaim : ⟨.guard (.claimOrRefresh c u), (.ok, true)⟩ ∈ τ) {c' : String} (hc' : Uses τ' c') :
    c' = c ↔ scope.Unambiguous t.unquote := by
  have hsat := wsGuardMiddleware_sat t scope frames
  obtain ⟨q', hτ, -⟩ := h.split
  obtain ⟨he, -, hchecks⟩ := hsat.ok_at h
  have hs : ((conduct t scope).after .start τ).claim = some ((c, u), .ok, true) :=
    hsat.of_mem (P := fun s => s.claim = some ((c, u), .ok, true))
      (fun _ _ _ ha => Conduct.claim_next ha) hτ hclaim fun _ _ => rfl
  -- the claim was made in the handshake, so the checks were
  have hc : c = scope.extractConversationId t.unquote :=
    (Conduct.after_valid hτ).handshake he c u _ hs
  have hguarded : scope.normalizeWsPath = wsPath := by
    by_contra hpath
    rw [if_neg hpath, hs] at hchecks
    cases hchecks.2
  rw [if_pos hguarded] at hchecks
  rw [uses_conversation h hc', hc]
  exact Scope.ids_agree_iff t.unquote hchecks.1

end

section

open Sample

/-- Two values of `conversationId`, with a blank one before them. -/
def repeated (first last : String) : Scope :=
  Sample.scope wsPath "" ("conversationId=&conversationId=" ++ first ++ "&conversationId=" ++ last)

/-- The same value twice: the endpoint registers the conversation that was claimed, so the
query string is unambiguous. -/
theorem same_conversation : (repeated "c1" "c1").Unambiguous transport.unquote := by
  have h : Trace (transport.wsGuardMiddleware (repeated "c1" "c1") 0).run
      (handshake (repeated "c1" "c1") "c1" ++ ⟨.accept, .ok ()⟩ :: [⟨.registryAdd "c1", ()⟩]) _ :=
    .cons (.cons (.cons (.cons (.cons (.cons (.cons (.nil _)))))))
  have huses : Uses [⟨.registryAdd "c1", ()⟩] "c1" :=
    .call (.registryAdd "c1") () (List.mem_singleton.2 rfl) (List.mem_singleton.2 rfl)
  exact (one_conversation h (claim_mem_handshake _ _) huses).1 rfl

/-- **Two values: `a` is claimed, the session is for `b`.** -/
theorem two_conversations :
    ∃ q, Trace (transport.wsGuardMiddleware (repeated "a" "b") 0).run
        (handshake (repeated "a" "b") "a" ++ ⟨.accept, .ok ()⟩ :: [⟨.registryAdd "b", ()⟩]) q ∧
      ⟨.guard (.claimOrRefresh "a" "t"), (.ok, true)⟩ ∈ handshake (repeated "a" "b") "a" ∧
      ∃ c', Uses [⟨.registryAdd "b", ()⟩] c' ∧ c' ≠ "a" := by
  refine ⟨_, .cons (.cons (.cons (.cons (.cons (.cons (.cons (.nil _))))))), claim_mem_handshake _ _,
    "b", ?_, by decide⟩
  exact .call (.registryAdd "b") () (List.mem_singleton.2 rfl) (List.mem_singleton.2 rfl)

end

end Transcribe
