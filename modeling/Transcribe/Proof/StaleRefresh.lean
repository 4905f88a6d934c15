import Transcribe.Model.Sample
import Transcribe.Proof.Cluster

/-!
# Releases that last

A refresh that was cancelled may still be executed, after the release.

* `released_stays`: where releases are executed last, a key that was released never has
  the token again.
* `stale_refresh_reclaims`: a refresh executed after the release takes the key back.
-/

namespace Transcribe

open Resumption EventSystem

variable {site : Site}

namespace Cluster

variable {w w' : Cluster site} {e : ClusterEvent}

/-- Keys that were released are given up: nobody has them, and no claim is on its way. -/
def GivenUp (w : Cluster site) : Prop :=
  ∀ c u b, ⟨.release c u, some b⟩ ∈ w.wire →
    w.guard.store.get (site.guard.key c) ≠ some u ∧ ⟨.claimOrRefresh c u, none⟩ ∉ w.wire

theorem init_givenUp : (init : Cluster site).GivenUp := fun _ _ _ h => absurd h List.not_mem_nil

/-- Who has released issues no claim any more. -/
theorem Sole.no_claim (h : w.Sole) (hs : w.Sound) {id : ℕ} {who : Who} {x : Connection site}
    {c u : String} {a : Option Bool} (hx : w.conns[id]? = some x)
    (hp : x.pending who = some (.guard (.claimOrRefresh c u))) : ⟨.release c u, a⟩ ∉ w.wire := by
  intro hrel
  obtain ⟨y, hy, hyu, hleaving⟩ := h.leaving c u a hrel
  obtain ⟨hxu, hnot⟩ := (hs.conns x (List.mem_of_getElem? hx)).claiming hp
  obtain ⟨j, hj⟩ := List.mem_iff_getElem?.1 hy
  -- the token is the connection's own
  obtain rfl : id = j := h.tokens id j x y u hx hj hxu hyu
  obtain rfl : x = y := Option.some.inj (hx.symm.trans hj)
  exact hnot c hleaving

/-- A command other than the claim of the key with this token does not take it. -/
theorem exec_get {s : Lease.State String String} {g : GuardCall} {c u : String}
    (hg : g ≠ .claimOrRefresh c u) (h : s.store.get (site.guard.key c) ≠ some u) :
    (g.exec site.guard s).1.store.get (site.guard.key c) ≠ some u := by
  cases g with
  | release c' u' => rw [exec_release]; exact Lease.State.get_release h
  | claimOrRefresh c' u' =>
    rw [exec_claim]
    refine Lease.State.get_claim_ne (fun heq => hg ?_) h
    obtain ⟨hkey, rfl⟩ := Prod.mk.inj heq
    rw [RedisConversationOwnershipGuard.key_inj.1 hkey]

/-- **What is given up stays so**, where releases are executed last. -/
theorem GivenUp.happens (h : w.GivenUp) (hs : w.Sound) (hsole : w.Sole) (hlast : w.ReleaseLast e)
    (hw : w.Happens e w') : w'.GivenUp := by
  cases hw with
  | idle | connected | submitted | resumed | handled => exact h
  | ticked =>
    intro c u b hrel
    obtain ⟨hget, hclaim⟩ := h c u b hrel
    exact ⟨Lease.State.get_tick hget, hclaim⟩
  | @issued id who x g hx hi hp =>
    intro c u b hrel
    rcases List.mem_append.1 hrel with hold | hnew
    · obtain ⟨hget, hclaim⟩ := h c u b hold
      -- no admission issues a claim once its release was issued
      refine ⟨hget, fun hmem => ?_⟩
      rcases List.mem_append.1 hmem with hmem | hmem
      · exact hclaim hmem
      · obtain ⟨rfl, -⟩ := Command.mk.inj (List.mem_singleton.1 hmem)
        exact hsole.no_claim hs hx hp hold
    · cases List.mem_singleton.1 hnew
  | @executed k g hk =>
    intro c u b hrel
    -- the release was executed before, or it is the command executed now
    rcases mem_wire_set hrel with hrel | ⟨rfl, -⟩
    · obtain ⟨hget, hclaim⟩ := h c u b hrel
      refine ⟨exec_get ?_ hget, fun hmem => ?_⟩
      · rintro rfl
        exact hclaim (List.mem_of_getElem? hk)
      · rcases mem_wire_set hmem with hmem | ⟨-, hnone⟩
        · exact hclaim hmem
        · cases hnone
    · -- the release itself
      refine ⟨by rw [exec_release]; exact Lease.State.get_release_self, fun hmem => ?_⟩
      rcases mem_wire_set hmem with hmem | ⟨-, hnone⟩
      · exact hlast c u hk hmem
      · cases hnone

/-- **What was released stays released.** -/
theorem released_stays {es : List ClusterEvent}
    (h : Along step (fun w e => w.Fresh e ∧ w.ReleaseLast e) (init : Cluster site) es)
    {c u : String} {b : Bool} (hrel : ⟨.release c u, some b⟩ ∈ (after site es).wire) :
    (after site es).guard.store.get (site.guard.key c) ≠ some u := by
  have hinv : ((after site es).Sound ∧ (after site es).Sole) ∧ (after site es).GivenUp := by
    refine along_inv (I := fun w => (w.Sound ∧ w.Sole) ∧ w.GivenUp) (fun w e hw hok => ?_)
      ⟨⟨init_sound, init_sole⟩, init_givenUp⟩ h
    obtain ⟨⟨hs, hsole⟩, hg⟩ := hw
    have hstep := w.step_happens e
    exact ⟨⟨hs.happens hstep, hsole.happens hs hok.1 hstep⟩, hg.happens hs hsole hok.2 hstep⟩
  exact (hinv.2 c u b hrel).1

section

open Sample

/-- A connection whose client hangs up while a refresh is on its way. -/
def leaving : List ClusterEvent :=
  admitted 0 0 "t" 0 ++ [.proceed 0 .refresh (answer "t"), .issue 0 .refresh, go 0 "t", go 0 "t",
    go 0 "t", .issue 0 .main]

/-- The refresh is executed before the release. -/
theorem refreshed_stays :
    (after Sample.site (leaving ++ [.execute 1, .execute 2])).guard.store.get (Sample.site.guard.key cid) ≠
      some "t" := by
  have h : Along step (fun w e => w.Fresh e ∧ w.ReleaseLast e) (init : Cluster Sample.site)
      (leaving ++ [.execute 1, .execute 2]) := by
    decide +kernel
  have hrel : ⟨.release cid "t", some true⟩ ∈ (after Sample.site (leaving ++ [.execute 1, .execute 2])).wire := by
    decide +kernel
  exact released_stays h hrel

/-- **A stale refresh reclaims**: it is executed after the release, for a connection that
is gone. -/
theorem stale_refresh_reclaims :
    ∃ es, Along step Fresh (init : Cluster Sample.site) es ∧
      ⟨.release cid "t", some true⟩ ∈ (after Sample.site es).wire ∧
      (after Sample.site es).guard.store.get (Sample.site.guard.key cid) = some "t" :=
  ⟨leaving ++ [.execute 2, go 0 "t", .execute 1], by decide +kernel⟩

end

end Cluster

end Transcribe
