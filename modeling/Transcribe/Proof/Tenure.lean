import Mathlib.Data.List.Infix
import Transcribe.Model.Sample
import Transcribe.Proof.Cluster
import Transcribe.Proof.Exclusion

/-!
# Who has a conversation

What the guard answers is a matter of history: of the claims, the releases and the seconds
since.

* `owner_iff`: the owner is the last token that was granted the conversation, within the
  guard's time to live.
* `heartbeat_keeps`: a token that is renewed in time keeps the conversation throughout.
* `lockout_bounded`: a conversation that nobody claims for that long is free for everyone,
  whatever has become of the connection that had it.
-/

namespace Transcribe

open EventSystem

namespace RedisConversationOwnershipGuard

variable {g : RedisConversationOwnershipGuard} {db : OwnershipDb} {c t u : String} {e : Happening}
  {es es' : List Happening} {n : ℕ}

/-! ## One happening -/

/-- A claim writes the claimant's token where no other token is. -/
theorem claim_entry : (g.claimOrRefresh db c u).1 (g.key c) = some ⟨t, n⟩ ↔
    (u = t ∧ n = g.guardTtlSec ∧ ∀ v, v ≠ t → ¬ g.Owner db c v) ∨
      u ≠ t ∧ db (g.key c) = some ⟨t, n⟩ := by
  unfold claimOrRefresh luaClaimOrRefresh
  simp only
  -- the script sets the key if it is free or has the token
  by_cases hfree : db.get (g.key c) = none ∨ db.get (g.key c) = some u
  · rw [if_pos hfree]
    simp only [TtlStore.set_self]
    constructor
    · intro h
      obtain ⟨rfl, rfl⟩ := TtlStore.Entry.mk.inj (Option.some.inj h)
      refine .inl ⟨rfl, rfl, fun v hv howner => ?_⟩
      rw [Owner.eq_def] at howner
      rcases hfree with hnone | hsome
      · rw [hnone] at howner; cases howner
      · rw [hsome] at howner
        exact hv (Option.some.inj howner).symm
    · rintro (⟨rfl, rfl, -⟩ | ⟨hu, hentry⟩)
      · rfl
      · rw [TtlStore.get_of_some hentry] at hfree
        simp only [reduceCtorEq, Option.some.injEq, false_or] at hfree
        exact absurd hfree.symm hu
  · rw [if_neg hfree]
    constructor
    · intro h
      refine .inr ⟨?_, h⟩
      rintro rfl
      exact hfree (.inr (TtlStore.get_of_some h))
    · rintro (⟨rfl, -, hothers⟩ | ⟨-, hentry⟩)
      · cases hget : db.get (g.key c) with
        | none => exact absurd (.inl hget) hfree
        | some v =>
          by_cases hv : v = u
          · exact absurd (.inr (hv ▸ hget)) hfree
          · exact absurd hget (hothers v hv)
      · exact hentry

/-- A release deletes the entry of its own token. -/
theorem release_entry : g.release db c u (g.key c) = some ⟨t, n⟩ ↔ u ≠ t ∧ db (g.key c) = some ⟨t, n⟩ := by
  unfold release luaReleaseIfOwner
  by_cases hown : db.get (g.key c) = some u
  · rw [if_pos hown, TtlStore.del_self]
    constructor
    · intro h; cases h
    · rintro ⟨hu, hentry⟩
      rw [TtlStore.get_of_some hentry] at hown
      exact absurd (Option.some.inj hown).symm hu
  · rw [if_neg hown]
    constructor
    · intro h
      refine ⟨?_, h⟩
      rintro rfl
      exact hown (TtlStore.get_of_some h)
    · exact And.right

/-- A second shortens an entry, until it is gone. -/
theorem tick_entry : db.tick (g.key c) = some ⟨t, n⟩ ↔ 0 < n ∧ db (g.key c) = some ⟨t, n + 1⟩ := by
  unfold TtlStore.tick
  cases hentry : db (g.key c) with
  | none => simp
  | some x =>
    obtain ⟨v, k⟩ := x
    simp only [Option.bind_some, Option.some.injEq, TtlStore.Entry.mk.injEq]
    split
    · refine ⟨fun h => (by cases h), ?_⟩
      rintro ⟨hn, -, hk⟩
      omega
    · simp only [Option.some.injEq, TtlStore.Entry.mk.injEq]
      constructor
      · rintro ⟨rfl, rfl⟩
        refine ⟨by omega, rfl, by omega⟩
      · rintro ⟨hn, rfl, rfl⟩
        exact ⟨rfl, by omega⟩

/-- **Where an entry comes from**: it was claimed just now, it has become a second shorter, or
it was left alone. -/
theorem step_entry : g.step db e (g.key c) = some ⟨t, n⟩ ↔
    (e = .claimOrRefresh c t ∧ n = g.guardTtlSec ∧ ∀ v, v ≠ t → ¬ g.Owner db c v) ∨
    (e = .tick ∧ 0 < n ∧ db (g.key c) = some ⟨t, n + 1⟩) ∨
    ((e ≠ .claimOrRefresh c t ∧ e ≠ .tick ∧ e ≠ .release c t ∧ e ≠ .expire c) ∧
      db (g.key c) = some ⟨t, n⟩) := by
  -- an event of another conversation changes nothing
  cases hc : e.concerns c with
  | false =>
    rw [step_ne hc]
    cases e with
    | tick => cases hc
    | _ =>
      have hne := of_decide_eq_false hc
      simp [hne]
  | true =>
    cases e with
    | claimOrRefresh c' u =>
      obtain rfl : c' = c := of_decide_eq_true hc
      refine claim_entry.trans ?_
      simp
    | release c' u =>
      obtain rfl : c' = c := of_decide_eq_true hc
      refine release_entry.trans ?_
      simp
    | expire c' =>
      obtain rfl : c' = c := of_decide_eq_true hc
      simp [step]
    | tick =>
      refine tick_entry.trans ?_
      simp

/-! ## A run -/

/-- An entry that outlasts the seconds of a run is there after it, if its token is not released
and its key does not expire. -/
theorem entry_of_run (h : db (g.key c) = some ⟨t, n⟩) (hn : n ≤ g.guardTtlSec)
    (hrelease : .release c t ∉ es) (hexpire : .expire c ∉ es) (hlong : es.count .tick < n) :
    ∃ k, run g.step db es (g.key c) = some ⟨t, k⟩ ∧ n ≤ k + es.count .tick := by
  induction es generalizing db n with
  | nil => exact ⟨n, h, Nat.le_refl n⟩
  | cons e es ih =>
    have hrelease' : .release c t ∉ es := fun hmem => hrelease (List.mem_cons_of_mem _ hmem)
    have hexpire' : .expire c ∉ es := fun hmem => hexpire (List.mem_cons_of_mem _ hmem)
    -- while the entry is there no other token is the owner
    have howner : ∀ v, v ≠ t → ¬ g.Owner db c v := by
      intro v hv hown
      rw [Owner.eq_def, TtlStore.get_of_some h] at hown
      exact hv (Option.some.inj hown).symm
    by_cases htick : e = .tick
    · subst htick
      rw [List.count_cons_self] at hlong ⊢
      have hstep : g.step db .tick (g.key c) = some ⟨t, n - 1⟩ := by
        refine step_entry.2 (.inr (.inl ⟨rfl, by omega, ?_⟩))
        rw [show n - 1 + 1 = n by omega]
        exact h
      obtain ⟨k, hk, hle⟩ := ih hstep (by omega) hrelease' hexpire' (by omega)
      exact ⟨k, hk, by omega⟩
    · rw [List.count_cons_of_ne (Ne.symm htick).symm] at hlong ⊢
      by_cases hclaim : e = .claimOrRefresh c t
      · -- the renewal starts the time to live anew
        have hstep := step_entry.2 (.inl ⟨hclaim, rfl, howner⟩)
        obtain ⟨k, hk, hle⟩ := ih hstep (Nat.le_refl _) hrelease' hexpire' (by omega)
        exact ⟨k, hk, by omega⟩
      · have hne : e ≠ .release c t ∧ e ≠ .expire c := by
          refine ⟨?_, ?_⟩
          · rintro rfl; exact hrelease List.mem_cons_self
          · rintro rfl; exact hexpire List.mem_cons_self
        have hstep := step_entry.2 (.inr (.inr ⟨⟨hclaim, htick, hne⟩, h⟩))
        exact ih hstep hn hrelease' hexpire' hlong

/-- An entry after a run was claimed in it: so many seconds ago as its time to live is short of
the guard's. -/
theorem claimed_of_entry (h : run g.step .empty es (g.key c) = some ⟨t, n⟩) :
    0 < n ∧ ∃ es₁ es₂, es = es₁ ++ .claimOrRefresh c t :: es₂ ∧
      (∀ v, v ≠ t → ¬ g.Owner (run g.step .empty es₁) c v) ∧
      .release c t ∉ es₂ ∧ .expire c ∉ es₂ ∧ n + es₂.count .tick = g.guardTtlSec := by
  induction es using List.reverseRecOn generalizing n with
  | nil => cases h
  | append_singleton es e ih =>
    rw [run_append, run_cons, run_nil] at h
    rcases step_entry.1 h with ⟨rfl, rfl, hothers⟩ | ⟨rfl, hn, hentry⟩ | ⟨⟨-, htick, hrel, hexp⟩, hentry⟩
    · exact ⟨g.guardTtlSec_pos, es, [], rfl, hothers, by simp, by simp, by simp⟩
    · obtain ⟨-, es₁, es₂, rfl, hothers, hrel, hexp, hsum⟩ := ih hentry
      refine ⟨hn, es₁, es₂ ++ [.tick], by simp, hothers, by simpa using hrel, by simpa using hexp, ?_⟩
      rw [List.count_append, List.count_singleton_self]
      omega
    · obtain ⟨hn, es₁, es₂, rfl, hothers, hrel', hexp', hsum⟩ := ih hentry
      refine ⟨hn, es₁, es₂ ++ [e], by simp, hothers, ?_, ?_, ?_⟩
      · simpa using ⟨hrel', hrel.symm⟩
      · simpa using ⟨hexp', hexp.symm⟩
      · rw [List.count_append, List.count_singleton, if_neg (by simpa using htick)]
        omega

/-- An owner was granted the conversation, not too long ago. -/
theorem granted_of_owner {es : List Happening} (h : g.Owner (run g.step .empty es) c t) :
    ∃ es₁ es₂, es = es₁ ++ .claimOrRefresh c t :: es₂ ∧
      (∀ v, v ≠ t → ¬ g.Owner (run g.step .empty es₁) c v) ∧
      .release c t ∉ es₂ ∧ .expire c ∉ es₂ ∧ es₂.count .tick < g.guardTtlSec := by
  obtain ⟨⟨v, n⟩, hentry, hv⟩ := Option.map_eq_some_iff.1 h
  obtain rfl : v = t := hv
  obtain ⟨hn, es₁, es₂, hes, hothers, hrel, hexp, hsum⟩ := claimed_of_entry hentry
  exact ⟨es₁, es₂, hes, hothers, hrel, hexp, by omega⟩

/-- What was granted is kept until it is released, expires or the time is over. -/
theorem owner_of_granted {es₁ es₂ : List Happening} (hothers : ∀ v, v ≠ t → ¬ g.Owner (run g.step .empty es₁) c v)
    (hrel : .release c t ∉ es₂) (hexp : .expire c ∉ es₂) (hlong : es₂.count .tick < g.guardTtlSec) :
    g.Owner (run g.step .empty (es₁ ++ .claimOrRefresh c t :: es₂)) c t := by
  have hclaim := step_entry.2 (.inl ⟨rfl, rfl, hothers⟩)
  obtain ⟨k, hk, -⟩ := entry_of_run hclaim (Nat.le_refl _) hrel hexp hlong
  rw [run_append, run_cons]
  exact TtlStore.get_of_some hk

/-- **The owner of a conversation is the last token that was granted it**, fewer seconds ago than
the guard's time to live, and neither released nor expired since. -/
theorem owner_iff (es : List Happening) : g.Owner (run g.step .empty es) c t ↔
    ∃ es₁ es₂, es = es₁ ++ .claimOrRefresh c t :: es₂ ∧
      (∀ v, v ≠ t → ¬ g.Owner (run g.step .empty es₁) c v) ∧
      .release c t ∉ es₂ ∧ .expire c ∉ es₂ ∧ es₂.count .tick < g.guardTtlSec := by
  refine ⟨granted_of_owner, ?_⟩
  rintro ⟨es₁, es₂, rfl, hothers, hrel, hexp, hlong⟩
  exact owner_of_granted hothers hrel hexp hlong

/-- **A heartbeat keeps the conversation**: a token that was granted it has it throughout, if
no stretch of the guard's time to live passes without its claim. -/
theorem heartbeat_keeps (hothers : ∀ v, v ≠ t → ¬ g.Owner (run g.step .empty es) c v)
    (hrelease : .release c t ∉ es') (hexpire : .expire c ∉ es')
    (hbeat : ∀ mid, mid <:+: es' → g.guardTtlSec ≤ mid.count .tick → .claimOrRefresh c t ∈ mid) :
    ∀ p, p <+: es' → g.Owner (run g.step .empty (es ++ .claimOrRefresh c t :: p)) c t := by
  intro p hp
  -- by induction on the length: what is before the last claim is a shorter prefix
  induction hlen : p.length using Nat.strong_induction_on generalizing p with
  | _ len ih =>
    subst hlen
    have hsub : ∀ e ∈ p, e ∈ es' := fun e he => hp.subset he
    by_cases hmem : .claimOrRefresh c t ∈ p
    · -- the last claim is granted to the owner, and the rest of the run is short
      obtain ⟨b, a, hrev, hlast⟩ := List.eq_append_cons_of_mem (List.mem_reverse.2 hmem)
      have hpab : p = a.reverse ++ .claimOrRefresh c t :: b.reverse := by
        have h := congrArg List.reverse hrev
        simpa using h
      have hpre : a.reverse <+: p := ⟨_, hpab.symm⟩
      have hin : b.reverse <:+: es' := by
        have hsuffix : b.reverse <:+ p := ⟨a.reverse ++ [.claimOrRefresh c t], by simp [hpab]⟩
        exact hsuffix.isInfix.trans hp.isInfix
      have howner := ih a.reverse.length (by simp [hpab]) a.reverse (hpre.trans hp) rfl
      have hshort : b.reverse.count .tick < g.guardTtlSec := by
        by_contra hlong
        exact hlast (List.mem_reverse.1 (hbeat _ hin (by omega)))
      have hsplit : es ++ .claimOrRefresh c t :: p =
          es ++ .claimOrRefresh c t :: a.reverse ++ .claimOrRefresh c t :: b.reverse := by
        simp [hpab]
      rw [hsplit]
      refine owner_of_granted ?_ ?_ ?_ hshort
      · intro v hv hown
        exact hv (Option.some.inj (hown.symm.trans howner))
      · exact fun h => hrelease (hin.subset h)
      · exact fun h => hexpire (hin.subset h)
    · have hshort : p.count .tick < g.guardTtlSec := by
        by_contra hlong
        exact hmem (hbeat p hp.isInfix (by omega))
      exact owner_of_granted hothers (fun h => hrelease (hsub _ h)) (fun h => hexpire (hsub _ h)) hshort

/-- A conversation that nobody has claimed for the guard's time to live has no owner. -/
theorem silence_frees (hsilent : ∀ u, .claimOrRefresh c u ∉ es') (hlong : g.guardTtlSec ≤ es'.count .tick) :
    (run g.step .empty (es ++ es')).get (g.key c) = none := by
  cases hget : (run g.step .empty (es ++ es')).get (g.key c) with
  | none => rfl
  | some v =>
    obtain ⟨es₁, es₂, hes, -, -, -, hshort⟩ := granted_of_owner (hget : g.Owner _ c v)
    -- the claim is before the silence
    have hbefore : ∃ mid, es₂ = mid ++ es' := by
      rcases List.append_eq_append_iff.1 hes with ⟨l, -, hl⟩ | ⟨l, -, hl⟩
      · exact absurd (hl ▸ by simp) (hsilent v)
      · cases l with
        | nil =>
          have hmem : .claimOrRefresh c v ∈ es' := by rw [← List.nil_append es', ← hl]; simp
          exact absurd hmem (hsilent v)
        | cons x l => exact ⟨l, (List.cons.inj hl).2⟩
    obtain ⟨mid, rfl⟩ := hbefore
    rw [List.count_append] at hshort
    omega

/-- Two refreshes, twenty seconds apart, and another token's claim. -/
def beating : List Happening :=
  List.replicate 20 .tick ++ .claimOrRefresh "c1" "t" :: List.replicate 20 .tick ++ [.claimOrRefresh "c1" "u"]

/-- `t` has the conversation after them. -/
theorem beating_kept : default.Owner
    (run default.step .empty ([] ++ .claimOrRefresh "c1" "t" :: beating)) "c1" "t" := by
  have hbeat : ∀ mid, mid <:+: beating → default.guardTtlSec ≤ mid.count .tick →
      .claimOrRefresh "c1" "t" ∈ mid := by
    have hall : ∀ k ∈ List.range 43, ∀ n ∈ List.range 43,
        default.guardTtlSec ≤ ((beating.drop k).take n).count .tick →
          .claimOrRefresh "c1" "t" ∈ (beating.drop k).take n := by
      decide +kernel
    rintro mid ⟨a, b, h⟩ hlong
    have hlen : a.length + (mid.length + b.length) = 42 := by
      have hlength := congrArg List.length h
      simpa [beating] using hlength
    have hmid := hall a.length (List.mem_range.2 (by omega)) mid.length (List.mem_range.2 (by omega))
    rw [show (beating.drop a.length).take mid.length = mid by rw [← h]; simp] at hmid
    exact hmid hlong
  exact heartbeat_keeps (fun v _ h => by cases h) (by decide) (by decide) hbeat beating (List.prefix_refl _)

end RedisConversationOwnershipGuard

/-! ## Clusters -/

open RedisConversationOwnershipGuard

variable {site : Site}

/-- The execution of a command, as the guard sees it. -/
def GuardCall.happening : GuardCall → Happening
  | .claimOrRefresh c u => .claimOrRefresh c u
  | .release c u => .release c u

namespace Cluster

/-- What an event is for the guard. -/
def guardEvent (w : Cluster site) : ClusterEvent → Option Happening
  | .execute k =>
    match w.wire[k]? with
    | some ⟨g, none⟩ => some g.happening
    | _ => none
  | .tick => some .tick
  | .connect .. | .issue .. | .proceed .. | .handle .. => none

/-- What a run is for the guard: the commands in the order they are executed, and the seconds. -/
def history : Cluster site → List ClusterEvent → List Happening
  | _, [] => []
  | w, e :: es => (w.guardEvent e).toList ++ history (w.step e) es

variable {w : Cluster site} {e : ClusterEvent}

/-- What an event does to the keys. -/
theorem step_store (w : Cluster site) (e : ClusterEvent) :
    (w.step e).guard.store = run site.guard.step w.guard.store (w.guardEvent e).toList := by
  have hexec : ∀ g : GuardCall,
      (g.exec site.guard w.guard).1.store = site.guard.step w.guard.store g.happening := by
    intro g
    cases g <;> rfl
  cases e with
  | connect | handle | tick => rfl
  | issue id who =>
    simp only [step, guardEvent]
    split
    · rfl
    · unfold issue; split <;> rfl
  | execute k =>
    simp only [step, guardEvent, execute]
    rcases w.wire[k]? with _ | ⟨g, _ | b⟩
    · rfl
    · exact hexec g
    · rfl
  | proceed id who answer =>
    simp only [step, guardEvent]
    split
    · rfl
    · split
      · rfl
      · unfold proceed
        split
        · rfl
        · split <;> rfl

/-- **The keys of a cluster are those of its history.** -/
theorem run_store (w : Cluster site) (es : List ClusterEvent) :
    (run step w es).guard.store = run site.guard.step w.guard.store (w.history es) := by
  induction es generalizing w with
  | nil => rfl
  | cons e es ih => rw [run_cons, ih, step_store, history, run_append]

theorem history_append (w : Cluster site) (es es' : List ClusterEvent) :
    w.history (es ++ es') = w.history es ++ (run step w es).history es' := by
  induction es generalizing w with
  | nil => rfl
  | cons e es ih => rw [List.cons_append, history, history, ih, List.append_assoc, run_cons]

/-- **Nobody is locked out for longer than the guard's time to live**: whatever has become of the
connection that had the conversation, a claim that follows so many seconds without one is
answered `OWNED`. -/
theorem lockout_bounded {es es' : List ClusterEvent} {c : String}
    (hsilent : ∀ u, .claimOrRefresh c u ∉ (after site es).history es')
    (hlong : site.guard.guardTtlSec ≤ ((after site es).history es').count .tick) (u : String) :
    ((GuardCall.claimOrRefresh c u).exec site.guard (after site (es ++ es')).guard).2 = true := by
  have hfree : (after site (es ++ es')).guard.store.get (site.guard.key c) = none := by
    have hstore := run_store (init : Cluster site) (es ++ es')
    rw [history_append] at hstore
    rw [hstore]
    exact silence_frees hsilent hlong
  rw [exec_claim]
  exact Lease.State.free_iff.2 (.inl hfree)

section

open Sample

/-- The connection of `t` is not heard of any more. -/
theorem crashed_freed :
    ((GuardCall.claimOrRefresh cid "u").exec Sample.site.guard
      (after Sample.site (admitted 0 0 "t" 1 ++ List.replicate 30 .tick)).guard).2 = true := by
  have hhistory : (after Sample.site (admitted 0 0 "t" 1)).history (List.replicate 30 .tick) =
      List.replicate 30 .tick := by
    decide +kernel
  refine lockout_bounded (fun v hv => ?_) ?_ "u"
  · rw [hhistory, List.mem_replicate] at hv
    cases hv.2
  · rw [hhistory]
    decide

end

end Cluster

end Transcribe
