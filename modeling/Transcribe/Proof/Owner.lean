import Transcribe.Proof.Cluster
import Transcribe.Proof.Validation

/-!
# Only the owner writes

Ownership is claimed in the handshake and refreshed in the background. No message waits for
a refresh, so a connection may write after its lease has lapsed, and not before.

* `owner_writes`: who sends to Kafka has the guard key, or its lease has lapsed; of two
  connections with messages of one conversation in flight, one has a lapsed lease.
* `lapsed_owner_writes`: a connection whose refresh failed writes while another one has the
  key and a message in flight.
-/

namespace Transcribe

open Resumption EventSystem

variable {site : Site}

/-- The guard and the endpoint read the same conversation off the query string. -/
def Connection.Agrees (x : Connection site) : Prop :=
  x.scope.queryConversationId site.transport.unquote = x.scope.extractConversationId site.transport.unquote

-- what is read off a scope is not computed in this section
section

attribute [local irreducible] Scope.extractConversationId Scope.queryConversationId
  Scope.normalizeWsPath Scope.routed Scope.authorization

namespace Connection

variable (x : Connection site) (w : Cluster site) (c : String)

/-- A message of `c` that the connection handed on is in the orchestrator's hands. -/
def Handles : Prop := ∃ n ∈ x.handler, ∃ h ∈ w.world.handlers[n]?, h.For c

/-- The connection was granted the key of `c`, and every grant of it is as long ago as a
lease lasts. -/
def LeaseLapsed : Prop :=
  ∃ u, x.Claimed c u ∧ w.guard.Lapsed site.guard.guardTtlSec (site.guard.key c) u

/-- The connection was granted the key of `c`, which has its token. -/
def Owns : Prop := ∃ u, x.Claimed c u ∧ w.guard.store.get (site.guard.key c) = some u

variable {x w c}

/-- A lease is a claim that was answered `OWNED`. -/
theorem claimed_of_lease {u : String} (h : x.conduct.lease = some (c, u)) : x.Claimed c u := by
  obtain ⟨i, r, s, hmem, -, hnot, hnext⟩ :=
    (wsGuardMiddleware_sat site.transport x.scope x.frames).mem_of
      (P := fun s => s.lease = some (c, u)) x.main.thread.ok nofun h
  rw [Conduct.lease_of_next hnot hnext] at hmem
  exact hmem

/-- Who handles a message of `c` serves `c`, has a lease of it that it has not given back,
and waits for the orchestrator. -/
theorem Sane.handles (h : x.Sane w) (hguard : site.transport.ownershipGuard = true)
    (hstr : site.deps.StrFields) (hc : x.Handles w c) :
    x.scope.queryConversationId site.transport.unquote = c ∧
      (x.Agrees → ∃ u, x.Claimed c u ∧ x.conduct.token = some u ∧
        w.guard.Granted (site.guard.key c) u ∧ ∀ c', ¬ x.Leaving c' u) := by
  obtain ⟨n, hn, hd, hhd, m, hm, hmc⟩ := hc
  obtain ⟨raw, c', hpend, hs⟩ := h.handler n hn
  have hsub : hd.submission = ⟨raw, c'⟩ := by
    unfold World.submissions at hs
    rw [List.getElem?_map, hhd] at hs
    exact Option.some.inj hs
  -- the message validates from the document that the connection compared
  have hbody : raw.bodyConversationId = some c := by
    unfold Handler.message? Deps.message? at hm
    rw [hsub] at hm
    cases hv : site.deps.modelValidate raw with
    | error e => simp [hv, Except.toOption] at hm
    | ok m' =>
      obtain rfl : m' = m := by simpa [hv, Except.toOption] using hm
      rw [hstr raw m' hv, hmc]
  obtain ⟨-, hreleased, hquery, hmatch, hlease⟩ := allows hpend
  have hcc : c = c' := by
    unfold bodyMismatch at hmatch
    rw [hbody] at hmatch
    simpa using hmatch
  have hserves : x.scope.queryConversationId site.transport.unquote = c := by rw [hcc, hquery]
  refine ⟨hserves, fun hagrees => ?_⟩
  obtain ⟨⟨c₀, u⟩, hl⟩ := hlease hguard
  have hvalid := (valid : x.conduct.Valid site.transport x.scope)
  have hclaim := Conduct.lease_eq_some.1 hl
  obtain rfl : c₀ = c := by
    rcases hvalid.conversation c₀ u _ hclaim with hext | hq
    · rw [hext, ← hagrees, hserves]
    · rw [hq, hserves]
  refine ⟨u, claimed_of_lease hl, hvalid.token c₀ u _ hclaim, h.lease c₀ u hl, fun c₁ hleaving => ?_⟩
  rcases hleaving.call hpend with hi | ⟨hrel, -⟩
  · cases hi
  · rw [hreleased] at hrel; cases hrel

end Connection

namespace Cluster

variable {w : Cluster site}

/-- A lease that was not given back holds the key, or has lapsed. -/
theorem Sole.holder (hs : w.Sound) (h : w.Sole) {x : Connection site} (hx : x ∈ w.conns) {c u : String}
    (hu : x.conduct.token = some u) (hnot : ∀ c', ¬ x.Leaving c' u) :
    (site.guard.key c, u) ∉ w.guard.released := by
  intro hrel
  obtain ⟨c', b, -, hwire⟩ := hs.released _ u hrel
  obtain ⟨y, hy, hyu, hleaving⟩ := h.leaving c' u _ hwire
  obtain ⟨i, hi⟩ := List.mem_iff_getElem?.1 hx
  obtain ⟨j, hj⟩ := List.mem_iff_getElem?.1 hy
  obtain rfl : i = j := h.tokens i j x y u hi hj hu hyu
  obtain rfl : x = y := Option.some.inj (hi.symm.trans hj)
  exact hnot c' hleaving

/-- Who sends is handled by a connection, for a message of its conversation. -/
theorem Sound.sender (hs : w.Sound) {n : ℕ} {c : String} {p : KafkaPayload}
    (hp : w.world.pending n = some (.send c p)) :
    ∃ x ∈ w.conns, x.handler = some n ∧ x.Handles w c := by
  obtain ⟨h, hh, hpend⟩ := Option.bind_eq_some_iff.1 hp
  obtain ⟨x, hx, hn⟩ := hs.handlers n h hh (by rw [hpend]; nofun)
  obtain ⟨-, m, hm, rfl, -⟩ := Stage.allows_send (Handler.allows hpend)
  exact ⟨x, hx, hn, n, hn, h, hh, m, hm, rfl⟩

/-- **Only the owner writes, until its lease lapses.** -/
theorem owner_writes (hguard : site.transport.ownershipGuard = true) (hstr : site.deps.StrFields)
    {es : List ClusterEvent} (h : Along step Fresh (init : Cluster site) es) :
    (∀ n c p, (after site es).world.pending n = some (.send c p) →
      ∃ x ∈ (after site es).conns, x.handler = some n ∧
        x.scope.queryConversationId site.transport.unquote = c ∧
        (x.Agrees → x.Owns (after site es) c ∨ x.LeaseLapsed (after site es) c)) ∧
    ∀ (i j : ℕ) (x y : Connection site) (c : String), i ≠ j →
      (after site es).conns[i]? = some x → (after site es).conns[j]? = some y →
      x.Handles (after site es) c → y.Handles (after site es) c → x.Agrees → y.Agrees →
      x.LeaseLapsed (after site es) c ∨ y.LeaseLapsed (after site es) c := by
  obtain ⟨hs, hsole⟩ := run_sole h
  refine ⟨fun n c p hp => ?_, fun i j x y c hij hx hy hcx hcy hax hay => ?_⟩
  · obtain ⟨x, hx, hn, hc⟩ := hs.sender hp
    obtain ⟨hserves, howner⟩ := (hs.conns x hx).handles hguard hstr hc
    refine ⟨x, hx, hn, hserves, fun hagrees => ?_⟩
    obtain ⟨u, hclaimed, hu, hgranted, hnot⟩ := howner hagrees
    have hkept := hs.leases.holder hgranted (hsole.holder hs hx hu hnot)
    exact hkept.imp (fun hget => ⟨u, hclaimed, hget⟩) fun hlapsed => ⟨u, hclaimed, hlapsed⟩
  · have hxm := List.mem_of_getElem? hx
    have hym := List.mem_of_getElem? hy
    obtain ⟨u, hxu, hu, hgu, hnu⟩ := ((hs.conns x hxm).handles hguard hstr hcx).2 hax
    obtain ⟨v, hyv, hv, hgv, hnv⟩ := ((hs.conns y hym).handles hguard hstr hcy).2 hay
    have hne : u ≠ v := by
      rintro rfl
      exact hij (hsole.tokens i j x y u hx hy hu hv)
    have hexcl := hs.leases.exclusive hne hgu (hsole.holder hs hxm hu hnu) hgv (hsole.holder hs hym hv hnv)
    exact hexcl.imp (fun hl => ⟨u, hxu, hl⟩) fun hl => ⟨v, hyv, hl⟩

end Cluster

end

namespace Cluster

section

open Sample

/-- Connection `id` is given message `0` and hands it on; handler `id` is about to send it. -/
def sending (id : ℕ) (token : String) : List ClusterEvent :=
  [go id token, go id token, .handle id .ok ⟨0⟩, .handle id .ok ⟨0⟩]

/-- A refresh that raises in vain. -/
def raising : (i : ConnCall) → ConnReply i
  | .guard _ => (.failed (.other "down"), false)
  | i => answer "t" i

/-- The first connection's refresh raises while its message waits for Kafka. The lease
lapses, and a second connection is admitted. -/
def takeover : List ClusterEvent :=
  admitted 0 0 "t" 1 ++ sending 0 "t" ++
    [.proceed 0 .refresh (answer "t"), .proceed 0 .refresh raising] ++ List.replicate 30 .tick ++
    admitted 1 1 "u" 1 ++ sending 1 "u"

/-- A connection that is alone writes under its lease. -/
theorem alone_writes : ∃ x ∈ (after Sample.site (admitted 0 0 "t" 1 ++ sending 0 "t")).conns,
    x.handler = some 0 ∧ (x.Owns (after Sample.site (admitted 0 0 "t" 1 ++ sending 0 "t")) cid ∨
      x.LeaseLapsed (after Sample.site (admitted 0 0 "t" 1 ++ sending 0 "t")) cid) := by
  have h : Along step Fresh (init : Cluster Sample.site) (admitted 0 0 "t" 1 ++ sending 0 "t") := by
    decide +kernel
  have hp : (after Sample.site (admitted 0 0 "t" 1 ++ sending 0 "t")).world.pending 0 =
      some (.send cid (toKafkaPayload ⟨0⟩ (ongoingMessage 0))) := by
    decide +kernel
  have hagree : ∀ x ∈ (after Sample.site (admitted 0 0 "t" 1 ++ sending 0 "t")).conns,
      x.scope.queryConversationId id = x.scope.extractConversationId id := by
    decide +kernel
  obtain ⟨x, hx, hn, -, howner⟩ := (owner_writes rfl deps_strFields h).1 0 cid _ hp
  exact ⟨x, hx, hn, howner (hagree x hx)⟩

/-- **A connection without its lease writes**, while another one has the key and a message
in flight. -/
theorem lapsed_owner_writes :
    ∃ es, Along step Fresh (init : Cluster Sample.site) es ∧
      (after Sample.site es).world.pending 0 = some (.send cid (toKafkaPayload ⟨0⟩ (ongoingMessage 0))) ∧
      (after Sample.site es).world.pending 1 = some (.send cid (toKafkaPayload ⟨0⟩ (ongoingMessage 0))) ∧
      (after Sample.site es).conns.map (fun x => (x.handler, x.conduct.lease)) =
        [(some 0, some (cid, "t")), (some 1, some (cid, "u"))] ∧
      (after Sample.site es).guard.store.get (Sample.site.guard.key cid) = some "u" :=
  ⟨takeover, by decide +kernel⟩

end

end Cluster

end Transcribe
