import Transcribe.Model.Sample
import Transcribe.Proof.Conduct

/-!
# Claims given back

A claim may set the guard key and yet raise, and the endpoint that gives it back may
never be called.

* `claim_given_back`: a connection that set the key has released it when it returns, iff
  the claim returned, and the endpoint was called for the same conversation.
* `long_conversation_kept`: a conversation longer than FastAPI lets through stays claimed.
-/

namespace Transcribe

open Resumption

variable {t : Transport} {scope : Scope}

/-- The call took effect. -/
def Fate.Took : Fate → Prop
  | ok | lost _ => True
  | failed _ => False

section

-- what is read off the scope is not computed here
attribute [local irreducible] Scope.extractConversationId Scope.queryConversationId
  Scope.normalizeWsPath Scope.routed Scope.authorization

/-- **Claims are given back.** -/
theorem claim_given_back {frames : ℕ} {τ : List (Σ i, ConnReply i)} {result : Except Exc Unit}
    (h : Trace (t.wsGuardMiddleware scope frames).run τ (.ret result)) {c u : String} {fate : Fate}
    {owned : Bool} (hclaim : ⟨.guard (.claimOrRefresh c u), (fate, owned)⟩ ∈ τ)
    (hset : fate.Took ∧ owned = true) :
    (∃ reply, ⟨.guard (.release c u), reply⟩ ∈ τ) ↔
      fate = .ok ∧ scope.queryConversationId t.unquote = c ∧ c.length ≤ queryMaxLength := by
  have hsat := wsGuardMiddleware_sat t scope frames
  have hvalid := Conduct.after_valid h
  have hends : ((conduct t scope).after .start τ).Ends t scope := hsat.returned h
  have hs : ((conduct t scope).after .start τ).claim = some ((c, u), fate, owned) :=
    hsat.of_mem (P := fun s => s.claim = some ((c, u), fate, owned))
      (fun _ _ _ ha => Conduct.claim_next ha) h hclaim fun _ _ => rfl
  constructor
  · rintro ⟨reply, hrelease⟩
    have hr : ((conduct t scope).after .start τ).released = some (c, u) :=
      hsat.of_mem (P := fun s => s.released = some (c, u))
        (fun _ _ _ ha => Conduct.released_next ha) h hrelease fun _ _ => rfl
    obtain ⟨hc, c', hlease⟩ := hvalid.released c u hr
    have hlen := (hends.1 (by rw [hr]; rfl)).2
    rw [Conduct.lease_eq_some, hs] at hlease
    obtain ⟨-, hreply⟩ := Prod.mk.inj (Option.some.inj hlease)
    exact ⟨(Prod.mk.inj hreply).1, hc.symm, hc ▸ hlen⟩
  · rintro ⟨rfl, hc, hlen⟩
    have hlease : ((conduct t scope).after .start τ).lease = some (c, u) := by
      rw [Conduct.lease_eq_some, hs, hset.2]
    obtain ⟨⟨c', u'⟩, hr⟩ := Option.isSome_iff_exists.1 (hends.2 ⟨by rw [hlease]; rfl, hc.symm ▸ hlen⟩)
    -- the release is for the endpoint's conversation with the token of the lease
    obtain ⟨hc', c'', hlease'⟩ := hvalid.released c' u' hr
    have hu : u' = u := by
      rw [hlease] at hlease'
      exact (Prod.mk.inj (Option.some.inj hlease')).2.symm
    rw [hc', hc, hu] at hr
    obtain ⟨i, r, s, hmem, -, hnot, hnext⟩ :=
      hsat.mem_of (P := fun s => s.released = some (c, u)) h nofun hr
    cases Conduct.released_of_next hnot hnext
    exact ⟨r, hmem⟩

end

section

open Sample

/-- A session of which the client hangs up at once. -/
def brief : List (Σ i, ConnReply i) :=
  [⟨.accept, .ok ()⟩, ⟨.registryAdd cid, ()⟩, ⟨.spawnRefresh cid "t", ()⟩,
    ⟨.hangup, .webSocketDisconnect "1000"⟩, ⟨.registryRemove cid, ()⟩, ⟨.joinRefresh, ()⟩,
    ⟨.guard (.release cid "t"), (.ok, true)⟩]

/-- The client of a brief session finds its key given back. -/
theorem brief_given_back : ∃ reply, ⟨.guard (.release cid "t"), reply⟩ ∈
    handshake (Sample.scope wsPath "" "conversationId=c1") cid ++ brief := by
  have h : Trace (transport.wsGuardMiddleware (Sample.scope wsPath "" "conversationId=c1") 0).run
      (handshake (Sample.scope wsPath "" "conversationId=c1") cid ++ brief) (.ret (.ok ())) :=
    .cons (.cons (.cons (.cons (.cons (.cons (.cons (.cons (.cons (.cons (.cons (.cons
      (.nil _))))))))))))
  exact (claim_given_back h (List.mem_append_left _ (claim_mem_handshake _ _)) ⟨trivial, rfl⟩).2
    ⟨rfl, by decide, by decide⟩

/-- A conversation of 65 letters. -/
def longCid : String := String.ofList (List.replicate 65 'a')

/-- **A long conversation stays claimed**: it is admitted, then FastAPI closes the socket
without calling the endpoint. -/
theorem long_conversation_kept :
    ∃ τ, Trace (transport.wsGuardMiddleware
        (Sample.scope wsPath "" ("conversationId=" ++ longCid)) 0).run τ (.ret (.ok ())) ∧
      ⟨.guard (.claimOrRefresh longCid "t"), (.ok, true)⟩ ∈ τ ∧
      ∀ reply, ⟨.guard (.release longCid "t"), reply⟩ ∉ τ := by
  refine ⟨handshake (Sample.scope wsPath "" ("conversationId=" ++ longCid)) longCid ++
    [⟨.closeUnaccepted .policyViolation, .ok ()⟩], ?_, ?_, ?_⟩
  · exact .cons (.cons (.cons (.cons (.cons (.cons (.nil _))))))
  · exact List.mem_append_left _ (claim_mem_handshake _ _)
  · intro reply hmem
    have hcall := List.mem_map_of_mem (f := Sigma.fst) hmem
    simp [handshake] at hcall

end

end Transcribe
