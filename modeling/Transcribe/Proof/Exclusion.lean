import Transcribe.Proof.Backend

/-!
# Mutual exclusion of the ownership guard

Whoever claims a conversation has it until it is released with the same token or its key
expires.

* `lease_exclusive`: until then every other claim is refused and no other release counts; a
  claim with another token is granted only after that.
-/

namespace Transcribe

open EventSystem

namespace RedisConversationOwnershipGuard

variable {g : RedisConversationOwnershipGuard} {db db' : OwnershipDb} {c c' t u : String} {e : Happening}

/-- The conversation's key has the token. -/
def Owner (g : RedisConversationOwnershipGuard) (db : OwnershipDb) (c t : String) : Prop :=
  db.get (g.key c) = some t

/-- **A claim that is granted has the key.** -/
theorem owner_of_claim (h : (g.claimOrRefresh db c t).2 = true) : g.Owner (g.claimOrRefresh db c t).1 c t := by
  unfold claimOrRefresh luaClaimOrRefresh at *
  simp only at *
  split at h
  · next hfree =>
    rw [if_pos hfree]
    exact TtlStore.get_of_some (TtlStore.set_self ..)
  · cases h

namespace Owner

/-- Another token's claim is refused and writes nothing. -/
theorem refused (h : g.Owner db c t) (hu : u ≠ t) : g.claimOrRefresh db c u = (db, false) := by
  unfold claimOrRefresh luaClaimOrRefresh
  rw [Owner.eq_def] at h
  simp only [h, reduceCtorEq, Option.some.injEq, false_or]
  rw [if_neg hu.symm]

/-- Another token's release deletes nothing. -/
theorem kept (h : g.Owner db c t) (hu : u ≠ t) : g.release db c u = db := by
  unfold release luaReleaseIfOwner
  rw [if_neg]
  rw [Owner.eq_def] at h
  rw [h]
  exact fun heq => hu (Option.some.inj heq).symm

/-- Its own claim is granted again. -/
theorem renewed (h : g.Owner db c t) : (g.claimOrRefresh db c t).2 = true := by
  unfold claimOrRefresh luaClaimOrRefresh
  simp only
  rw [if_pos (.inr h)]

end Owner

/-- What happens to other conversations leaves the key alone. -/
theorem step_ne (h : e.concerns c = false) : g.step db e (g.key c) = db (g.key c) := by
  have hne : ∀ {c'}, decide (c' = c) = false → g.key c ≠ g.key c' := by
    intro c' hc' hk
    exact of_decide_eq_false hc' (key_inj.1 hk).symm
  cases e with
  | claimOrRefresh c' u => exact (luaClaimOrRefresh_touches _ u g.guardTtlSec).others _ _ (hne h)
  | release c' u => exact (luaReleaseIfOwner_touches _ u).others _ _ (hne h)
  | expire c' => exact TtlStore.del_ne (hne h)
  | tick => cases h

/-- What happens to the key depends on nothing but the key. -/
theorem step_congr (h : db (g.key c) = db' (g.key c)) : g.step db e (g.key c) = g.step db' e (g.key c) := by
  cases hc : e.concerns c with
  | false => rw [step_ne hc, step_ne hc, h]
  | true =>
    cases e with
    | claimOrRefresh c' u =>
      obtain rfl : c' = c := of_decide_eq_true hc
      exact ((luaClaimOrRefresh_touches _ u g.guardTtlSec).own _ _ h).1
    | release c' u =>
      obtain rfl : c' = c := of_decide_eq_true hc
      exact ((luaReleaseIfOwner_touches _ u).own _ _ h).1
    | expire c' =>
      obtain rfl : c' = c := of_decide_eq_true hc
      exact TtlStore.del_self.trans TtlStore.del_self.symm
    | tick =>
      unfold step TtlStore.tick
      simp only [h]

/-- **One happening.** The owner stays the owner unless its hold ends. -/
theorem Owner.step (h : g.Owner db c t) (he : ¬ g.Ends c t db e) : g.Owner (g.step db e) c t := by
  have hsame : g.step db e (g.key c) = db (g.key c) → g.Owner (g.step db e) c t := by
    intro heq
    unfold Owner TtlStore.get at *
    rwa [heq]
  cases e with
  | claimOrRefresh c' u =>
    by_cases hc : c' = c
    · subst hc
      by_cases hu : u = t
      · subst hu
        exact owner_of_claim h.renewed
      · show g.Owner (g.claimOrRefresh db c' u).1 c' t
        rw [h.refused hu]
        exact h
    · exact hsame (step_ne (decide_eq_false hc))
  | release c' u =>
    by_cases hc : c' = c
    · subst hc
      have hu : u ≠ t := fun hu => he ⟨rfl, hu⟩
      show g.Owner (g.release db c' u) c' t
      rwa [h.kept hu]
    · exact hsame (step_ne (decide_eq_false hc))
  | expire c' => exact hsame (step_ne (decide_eq_false he))
  | tick =>
    have hlast : ∀ e ∈ db (g.key c), 1 < e.ttl := fun e hmem =>
      Nat.lt_of_not_le fun hle => he ⟨e, hmem, hle⟩
    exact (TtlStore.get_tick hlast).trans h

/-- The owner stays the owner until its hold ends. -/
theorem Owner.until {es : List Happening} (h : g.Owner db c t)
    (hes : Along g.step (fun db e => ¬ g.Ends c t db e) db es) : g.Owner (run g.step db es) c t :=
  along_inv (I := fun db => g.Owner db c t) (fun _ _ howner he => howner.step he) h hes

/-- The key after a run is the key after what concerned its conversation. -/
theorem run_concerns (es : List Happening) (h : db (g.key c) = db' (g.key c)) :
    run g.step db es (g.key c) = run g.step db' (es.filter (·.concerns c)) (g.key c) := by
  induction es generalizing db db' with
  | nil => exact h
  | cons e es ih =>
    rw [run_cons]
    cases hc : e.concerns c with
    | true =>
      rw [List.filter_cons_of_pos hc, run_cons]
      exact ih (step_congr h)
    | false =>
      rw [List.filter_cons_of_neg (by rw [hc]; exact Bool.false_ne_true)]
      exact ih ((step_ne hc).trans h)

/-- What the owner `t` of a conversation can rely on. -/
structure Exclusive (g : RedisConversationOwnershipGuard) (db : OwnershipDb) (c t : String) : Prop where
  owner : g.Owner db c t
  refused : ∀ u, u ≠ t → g.claimOrRefresh db c u = (db, false)
  kept : ∀ u, u ≠ t → g.release db c u = db
  renewed : (g.claimOrRefresh db c t).2 = true

/-- **Mutual exclusion of the lease.** After a claim with `t` was granted, `t` has the
conversation to itself until its hold ends; so its hold has ended when a claim with another
token is granted. What happens to other conversations has no part in it. -/
theorem lease_exclusive (h : (g.claimOrRefresh db c t).2 = true) (es : List Happening) :
    (Along g.step (fun db e => ¬ g.Ends c t db e) (g.claimOrRefresh db c t).1 es →
      g.Exclusive (run g.step (g.claimOrRefresh db c t).1 es) c t) ∧
    (∀ u, u ≠ t → (g.claimOrRefresh (run g.step (g.claimOrRefresh db c t).1 es) c u).2 = true →
      ∃ es₁ e es₂, es = es₁ ++ e :: es₂ ∧ g.Owner (run g.step (g.claimOrRefresh db c t).1 es₁) c t ∧
        g.Ends c t (run g.step (g.claimOrRefresh db c t).1 es₁) e) ∧
    ∀ c', run g.step (g.claimOrRefresh db c t).1 es (g.key c') =
      run g.step (g.claimOrRefresh db c t).1 (es.filter (·.concerns c')) (g.key c') := by
  have hexclusive : ∀ {es}, Along g.step (fun db e => ¬ g.Ends c t db e) (g.claimOrRefresh db c t).1 es →
      g.Exclusive (run g.step (g.claimOrRefresh db c t).1 es) c t := by
    intro es hes
    have howner := (owner_of_claim h).until hes
    exact ⟨howner, fun _ => howner.refused, fun _ => howner.kept, howner.renewed⟩
  refine ⟨hexclusive, fun u hu hgranted => ?_, fun c' => run_concerns es rfl⟩
  rcases @along_or_split _ _ g.step (fun db e => ¬ g.Ends c t db e) (g.claimOrRefresh db c t).1 es with
    hes | ⟨es₁, e, es₂, rfl, hes₁, hends⟩
  · rw [(hexclusive hes).refused u hu] at hgranted
    cases hgranted
  · exact ⟨es₁, e, es₂, rfl, (hexclusive hes₁).owner, not_not.1 hends⟩

end RedisConversationOwnershipGuard

section

open RedisConversationOwnershipGuard

/-- The lease of `t`: another token is refused, its release counts for nothing, time passes. -/
def contested : List Happening := [.claimOrRefresh "c1" "u", .release "c1" "u", .tick, .release "c2" "t"]

/-- It is still the lease of `t`. -/
theorem contested_exclusive :
    default.Exclusive (run default.step (default.claimOrRefresh .empty "c1" "t").1 contested) "c1" "t" := by
  have h : (default.claimOrRefresh .empty "c1" "t").2 = true := by decide
  have hes : Along default.step (fun db e => ¬ default.Ends "c1" "t" db e)
      (default.claimOrRefresh .empty "c1" "t").1 contested := by decide +kernel
  exact (lease_exclusive h contested).1 hes

end

end Transcribe
