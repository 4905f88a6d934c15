import Transcribe.Model.Sample
import Transcribe.Proof.Conduct

/-!
# Complete mediation

The guard and the router decide separately whether a path is the session route.

* `endpoint_mediated`: on every scope that reaches the inner app, the endpoint is entered
  after all admission checks on this scope have passed, iff the router's path is not the
  session route with a newline at its end.
* `newline_unmediated`: that path is accepted without any check.
-/

namespace Transcribe

open Resumption

variable {t : Transport} {scope : Scope} {s : Conduct} {i : ConnCall} {r : ConnReply i}

/-- The admission checks were made on this scope, and all passed. -/
structure Mediated (t : Transport) (scope : Scope) (τ : List (Σ i, ConnReply i)) : Prop where
  conversationId : scope.extractConversationId t.unquote ≠ ""
  authenticated : t.authEnabled →
    ∃ subject, ⟨.authenticate scope.authorization, .principal subject⟩ ∈ τ
  serving : ⟨.draining, false⟩ ∈ τ
  room : 0 < t.maxConnections → ∃ active < t.maxConnections, ⟨.activeCount, active⟩ ∈ τ
  owner : t.ownershipGuard → ∃ token,
    ⟨.guard (.claimOrRefresh (scope.extractConversationId t.unquote) token), (.ok, true)⟩ ∈ τ

/-! ## What brings a check about -/

section

-- what is read off the scope is not computed here
attribute [local irreducible] Scope.extractConversationId Scope.queryConversationId
  Scope.normalizeWsPath Scope.routed Scope.authorization

namespace Conduct

theorem principal_of_next (h : ¬ s.principal = true) (h' : (s.next t i r).principal = true) :
    ∃ header subject, (⟨i, r⟩ : Σ i, ConnReply i) = ⟨.authenticate header, .principal subject⟩ := by
  unfold next at h'
  split at h' <;> first | exact absurd h' h | exact ⟨_, _, rfl⟩

theorem serving_of_next (h : ¬ s.serving = true) (h' : (s.next t i r).serving = true) :
    (⟨i, r⟩ : Σ i, ConnReply i) = ⟨.draining, false⟩ := by
  unfold next at h'
  split at h'
  case h_2 b =>
    cases b with
    | false => rfl
    | true => simp [h] at h'
  all_goals exact absurd h' h

theorem room_of_next (h : ¬ s.room = true) (h' : (s.next t i r).room = true) :
    ∃ active < t.maxConnections, (⟨i, r⟩ : Σ i, ConnReply i) = ⟨.activeCount, active⟩ := by
  unfold next at h'
  split at h'
  case h_3 n =>
    have hn : n < t.maxConnections := by simpa [h] using h'
    exact ⟨n, hn, rfl⟩
  all_goals exact absurd h' h

theorem serving_next (h : s.serving = true) : (s.next t i r).serving = true := by
  unfold next
  split <;> simp [h]

end Conduct

variable {frames : ℕ} {τ : List (Σ i, ConnReply i)} {q : Prog ConnCall ConnReply (Except Exc Unit)}

/-- The trace of a conduct that has passed the checks has them all. -/
theorem Conduct.Passed.mediated (ht : Trace (t.wsGuardMiddleware scope frames).run τ q)
    (he : ((conduct t scope).after .start τ).entered = false)
    (hp : ((conduct t scope).after .start τ).Passed t scope) : Mediated t scope τ := by
  have hsat := wsGuardMiddleware_sat t scope frames
  obtain ⟨hcid, hauth, hserving, hroom, howner⟩ := hp
  refine ⟨hcid, fun hon => ?_, ?_, fun hpos => ?_, fun hon => ?_⟩
  · obtain ⟨i, r, s, hmem, hok, hnot, hnext⟩ :=
      hsat.mem_of (P := fun s => s.principal = true) ht nofun (hauth hon)
    obtain ⟨header, subject, he⟩ := principal_of_next hnot hnext
    cases he
    obtain rfl : header = scope.authorization := hok
    exact ⟨subject, hmem⟩
  · obtain ⟨i, r, s, hmem, -, hnot, hnext⟩ :=
      hsat.mem_of (P := fun s => s.serving = true) ht nofun hserving
    rwa [serving_of_next hnot hnext] at hmem
  · obtain ⟨i, r, s, hmem, -, hnot, hnext⟩ :=
      hsat.mem_of (P := fun s => s.room = true) ht nofun (hroom hpos)
    obtain ⟨active, hlt, he⟩ := room_of_next hnot hnext
    exact ⟨active, hlt, he ▸ hmem⟩
  · obtain ⟨⟨c, u⟩, hlease⟩ := howner hon
    obtain ⟨i, r, s, hmem, -, hnot, hnext⟩ :=
      hsat.mem_of (P := fun s => s.lease = some (c, u)) ht nofun hlease
    have hc : c = scope.extractConversationId t.unquote :=
      (after_valid ht).handshake he c u _ (lease_eq_some.1 hlease)
    rw [lease_of_next hnot hnext, hc] at hmem
    exact ⟨u, hmem⟩

/-- **Mediation.** -/
theorem endpoint_mediated {τ' : List (Σ i, ConnReply i)} {r : ConnReply .accept}
    (hscope : scope.Reaches)
    (h : Trace (t.wsGuardMiddleware scope frames).run (τ ++ ⟨.accept, r⟩ :: τ') q) :
    Mediated t scope τ ↔ scope.getRoutePath ≠ wsPath ++ "\n" := by
  have hsat := wsGuardMiddleware_sat t scope frames
  obtain ⟨q', ht, -⟩ := h.split
  obtain ⟨he, hrouted, hchecks⟩ := hsat.ok_at h
  have hsame : scope.normalizeWsPath = scope.getRoutePath := Scope.normalize_of_reaches hscope
  constructor
  · intro hmediated hnewline
    have hpath : ¬ scope.normalizeWsPath = wsPath := by
      rw [hsame, hnewline]
      decide
    rw [if_neg hpath] at hchecks
    -- a bypassed guard has not asked whether the service drains
    have hserving : ((conduct t scope).after .start τ).serving = true :=
      hsat.of_mem (P := fun s => s.serving = true) (fun _ _ _ _ => Conduct.serving_next) ht
        hmediated.serving fun s _ => by simp [conduct, Conduct.next]
    rw [hchecks.1] at hserving
    cases hserving
  · intro hne
    have hroute : scope.getRoutePath = wsPath := (Scope.routed_iff.1 hrouted).resolve_right hne
    rw [if_pos (hsame.trans hroute)] at hchecks
    exact Conduct.Passed.mediated ht he hchecks

end

section

open Sample

/-- A session under a mount prefix. -/
def mounted : Scope := Sample.scope ("/api" ++ wsPath) "/api" "conversationId=c1"

/-- The endpoint is entered under the prefix, after all checks. -/
theorem mounted_mediated : Mediated transport mounted (handshake mounted "c1") := by
  have h : Trace (transport.wsGuardMiddleware mounted 0).run (handshake mounted "c1" ++ ⟨.accept, .ok ()⟩ :: []) _ :=
    .cons (.cons (.cons (.cons (.cons (.cons (.nil _))))))
  exact (endpoint_mediated ⟨rfl, .inr (by decide)⟩ h).2 (by decide)

/-- The session route with a newline at its end. -/
def newline : Scope := Sample.scope (wsPath ++ "\n") "" "conversationId=c1"

/-- **The newline path is accepted without a check.** -/
theorem newline_unmediated : newline.Reaches ∧
    ∃ q, Trace (transport.wsGuardMiddleware newline 0).run ([⟨.uuid4, "t"⟩] ++ ⟨.accept, .ok ()⟩ :: []) q ∧
      ¬ Mediated transport newline [⟨.uuid4, "t"⟩] := by
  refine ⟨⟨rfl, .inl rfl⟩, _, .cons (.cons (.nil _)), fun h => ?_⟩
  have hmem := List.mem_singleton.1 h.serving
  cases hmem

end

end Transcribe
