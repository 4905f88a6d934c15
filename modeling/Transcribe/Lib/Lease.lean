import Transcribe.Lib.TtlStore

/-!
# Leases in a key-value store

A holder claims a key by writing its name with a time to live, if the key is absent or
already has its name; it gives the key back by deleting it, if it still has its name.
The state keeps the store, the time and the history of what was granted and released.

* `Sound`: whoever was granted a key and has not released it still has it, or its last
  grant is at least a time to live ago. Every command and every second keeps it.
* `Sound.exclusive`: of two holders of one key, one has lost it.
-/

namespace Lease

/-- The holder was granted the key at a time. -/
structure Grant (κ V : Type) where
  key : κ
  holder : V
  time : ℕ
deriving DecidableEq

/-- `granted` and `released` are history. -/
structure State (κ V : Type) where
  store : TtlStore κ V
  clock : ℕ
  granted : List (Grant κ V)
  released : List (κ × V)

variable {κ V : Type} {ttl : ℕ} {s : State κ V} {k k' : κ} {v v' : V}

namespace State

def init : State κ V := ⟨.empty, 0, [], []⟩

/-- One second passes. -/
def tick (s : State κ V) : State κ V := { s with store := s.store.tick, clock := s.clock + 1 }

/-- The holder was granted the key at some time. -/
def Granted (s : State κ V) (k : κ) (v : V) : Prop := ∃ n, ⟨k, v, n⟩ ∈ s.granted

/-- Every grant of the key to the holder is a time to live ago. -/
def Lapsed (s : State κ V) (ttl : ℕ) (k : κ) (v : V) : Prop := ∀ n, ⟨k, v, n⟩ ∈ s.granted → n + ttl ≤ s.clock

instance [DecidableEq κ] [DecidableEq V] (s : State κ V) (ttl : ℕ) (k : κ) (v : V) :
    Decidable (s.Lapsed ttl k v) :=
  decidable_of_iff (∀ g ∈ s.granted, g.key = k → g.holder = v → g.time + ttl ≤ s.clock)
    ⟨fun h _ hn => h _ hn rfl rfl, fun h g hg hk hv => h g.time (hk ▸ hv ▸ hg)⟩

/-- The key has the holder's name, for as long as its last grant says. -/
def Kept (s : State κ V) (ttl : ℕ) (k : κ) (v : V) : Prop :=
  ∃ e, s.store k = some e ∧ e.value = v ∧ ∀ n, ⟨k, v, n⟩ ∈ s.granted → n + ttl ≤ e.ttl + s.clock

variable [DecidableEq κ] [DecidableEq V]

/-- The key is free for the holder. -/
def free (s : State κ V) (k : κ) (v : V) : Bool :=
  decide (s.store.get k = none ∨ s.store.get k = some v)

/-- The claim of a key, or its renewal. -/
def claim (s : State κ V) (ttl : ℕ) (k : κ) (v : V) : State κ V :=
  if s.free k v then
    { s with store := s.store.set k v ttl, granted := ⟨k, v, s.clock⟩ :: s.granted }
  else s

/-- The release of a key. -/
def release (s : State κ V) (k : κ) (v : V) : State κ V :=
  { s with
    store := if s.store.get k = some v then s.store.del k else s.store
    released := (k, v) :: s.released }

end State

/-- **Leases hold until they are released or lapse.** -/
structure Sound (ttl : ℕ) (s : State κ V) : Prop where
  past : ∀ g ∈ s.granted, g.time ≤ s.clock
  held : ∀ k v, s.Granted k v → (k, v) ∉ s.released → s.Kept ttl k v ∨ s.Lapsed ttl k v

theorem sound_init : Sound ttl (State.init : State κ V) :=
  ⟨fun _ h => absurd h List.not_mem_nil, fun _ _ ⟨_, h⟩ => absurd h List.not_mem_nil⟩

theorem State.Kept.get (h : s.Kept ttl k v) : s.store.get k = some v := by
  obtain ⟨e, he, rfl, -⟩ := h
  exact TtlStore.get_of_some he

/-- A lease stays, a second shorter, or lapses with the key. -/
theorem State.Kept.tick (h : s.Kept ttl k v) : s.tick.Kept ttl k v ∨ s.tick.Lapsed ttl k v := by
  obtain ⟨e, he, rfl, hn⟩ := h
  by_cases hlast : e.ttl ≤ 1
  · right
    intro n hmem
    have := hn n hmem
    show n + ttl ≤ s.clock + 1
    omega
  · left
    have hlong : ∀ e' ∈ s.store k, 1 < e'.ttl := by
      intro e' he'
      obtain rfl : e = e' := Option.some.inj (he.symm.trans he')
      omega
    refine ⟨{ e with ttl := e.ttl - 1 }, ?_, rfl, fun n hmem => ?_⟩
    · show s.store.tick k = _
      rw [TtlStore.tick_of_lt hlong, he]
      rfl
    · have := hn n hmem
      show n + ttl ≤ e.ttl - 1 + (s.clock + 1)
      omega

theorem Sound.tick (h : Sound ttl s) : Sound ttl s.tick := by
  refine ⟨fun g hg => Nat.le_succ_of_le (h.past g hg), fun k v hgranted hreleased => ?_⟩
  rcases h.held k v hgranted hreleased with hk | hl
  · exact hk.tick
  · exact .inr fun n hmem => Nat.le_succ_of_le (hl n hmem)

variable [DecidableEq κ] [DecidableEq V]

omit [DecidableEq κ] in
theorem State.free_iff : s.free k v = true ↔ s.store.get k = none ∨ s.store.get k = some v :=
  decide_eq_true_iff

omit [DecidableEq κ] in
/-- Who keeps a key is the only one it is free for. -/
theorem State.Kept.free (h : s.Kept ttl k v) (hf : s.free k v' = true) : v' = v := by
  rcases State.free_iff.1 hf with hnone | hsome
  · rw [h.get] at hnone; cases hnone
  · exact (Option.some.inj (h.get.symm.trans hsome)).symm

/-- A claim grants the key to its claimant and leaves the other leases alone. -/
theorem Sound.claim (h : Sound ttl s) (k : κ) (v : V) : Sound ttl (s.claim ttl k v) := by
  unfold State.claim
  cases hf : s.free k v with
  | false => exact h
  | true =>
    rw [if_pos rfl]
    refine ⟨?_, fun k' v' hgranted hreleased => ?_⟩
    · intro g hg
      rcases List.mem_cons.1 hg with rfl | hg
      · exact Nat.le_refl _
      · exact h.past g hg
    · by_cases hself : k' = k ∧ v' = v
      · obtain ⟨rfl, rfl⟩ := hself
        refine .inl ⟨⟨v', ttl⟩, TtlStore.set_self _ _, rfl, fun n hmem => ?_⟩
        -- every grant is in the past, and the key was written just now
        have hpast : n ≤ s.clock := by
          rcases List.mem_cons.1 hmem with heq | hmem
          · injection heq with _ _ hn; exact Nat.le_of_eq hn
          · exact h.past _ hmem
        show n + ttl ≤ ttl + s.clock
        omega
      · have hold : ∀ n, (⟨k', v', n⟩ : Grant κ V) ∈ ⟨k, v, s.clock⟩ :: s.granted → ⟨k', v', n⟩ ∈ s.granted := by
          intro n hmem
          rcases List.mem_cons.1 hmem with heq | hmem
          · injection heq with hk hv; exact absurd ⟨hk, hv⟩ hself
          · exact hmem
        obtain ⟨n, hn⟩ := hgranted
        rcases h.held k' v' ⟨n, hold n hn⟩ hreleased with hk | hl
        · have hne : k' ≠ k := by
            rintro rfl
            exact hself ⟨rfl, (hk.free hf).symm⟩
          obtain ⟨e, he, hv, hlong⟩ := hk
          refine .inl ⟨e, ?_, hv, fun n hmem => hlong n (hold n hmem)⟩
          show s.store.set k v ttl k' = some e
          rw [TtlStore.set_ne hne, he]
        · exact .inr fun n hmem => hl n (hold n hmem)

/-- A release leaves the other leases alone. -/
theorem Sound.release (h : Sound ttl s) (k : κ) (v : V) : Sound ttl (s.release k v) := by
  refine ⟨h.past, fun k' v' hgranted hreleased => ?_⟩
  have hne : (k', v') ≠ (k, v) := fun he => hreleased (List.mem_cons.2 (.inl he))
  rcases h.held k' v' hgranted fun hmem => hreleased (List.mem_cons.2 (.inr hmem)) with hk | hl
  · have hget := hk.get
    obtain ⟨e, he, hv, hlong⟩ := hk
    refine .inl ⟨e, ?_, hv, hlong⟩
    show (if s.store.get k = some v then s.store.del k else s.store) k' = some e
    split
    · next hown =>
      have hkk : k' ≠ k := by
        rintro rfl
        rw [hget] at hown
        exact hne (by rw [Option.some.inj hown])
      rw [TtlStore.del_ne hkk, he]
    · exact he
  · exact .inr hl

omit [DecidableEq κ] [DecidableEq V] in
/-- **A holder has its key, or its lease has lapsed.** -/
theorem Sound.holder (h : Sound ttl s) (hg : s.Granted k v) (hr : (k, v) ∉ s.released) :
    s.store.get k = some v ∨ s.Lapsed ttl k v :=
  (h.held k v hg hr).imp_left State.Kept.get

omit [DecidableEq κ] [DecidableEq V] in
/-- **Of two holders of one key, one has lost it.** -/
theorem Sound.exclusive (h : Sound ttl s) (hne : v ≠ v') (hg : s.Granted k v) (hr : (k, v) ∉ s.released)
    (hg' : s.Granted k v') (hr' : (k, v') ∉ s.released) : s.Lapsed ttl k v ∨ s.Lapsed ttl k v' := by
  rcases h.holder hg hr with hk | hl
  · rcases h.holder hg' hr' with hk' | hl'
    · exact absurd (Option.some.inj (hk.symm.trans hk')) hne
    · exact .inr hl'
  · exact .inl hl

/-- Released and not free for anyone else to give: a claim of another holder or key leaves
what a key has. -/
theorem State.get_claim_ne (h : (k', v') ≠ (k, v)) (hk : s.store.get k' ≠ some v') :
    (s.claim ttl k v).store.get k' ≠ some v' := by
  unfold State.claim
  split
  · by_cases hkk : k' = k
    · subst hkk
      rw [TtlStore.get_of_some (TtlStore.set_self v ttl)]
      intro he
      obtain rfl : v = v' := Option.some.inj he
      exact h rfl
    · show (s.store.set k v ttl).get k' ≠ some v'
      unfold TtlStore.get at hk ⊢
      rwa [TtlStore.set_ne hkk]
  · exact hk

/-- No release gives a key to anyone. -/
theorem State.get_release (hk : s.store.get k' ≠ some v') : (s.release k v).store.get k' ≠ some v' := by
  show (if s.store.get k = some v then s.store.del k else s.store).get k' ≠ some v'
  split
  · by_cases hkk : k' = k
    · subst hkk
      rw [TtlStore.get_of_none TtlStore.del_self]
      nofun
    · unfold TtlStore.get at hk ⊢
      rwa [TtlStore.del_ne hkk]
  · exact hk

/-- After a release the key has not the holder's name. -/
theorem State.get_release_self : (s.release k v).store.get k ≠ some v := by
  show (if s.store.get k = some v then s.store.del k else s.store).get k ≠ some v
  split
  · rw [TtlStore.get_of_none TtlStore.del_self]
    nofun
  · next h => exact h

omit [DecidableEq κ] [DecidableEq V] in
/-- Time gives a key to nobody. -/
theorem State.get_tick (hk : s.store.get k ≠ some v) : s.tick.store.get k ≠ some v := by
  show s.store.tick.get k ≠ some v
  unfold TtlStore.get TtlStore.tick at *
  cases he : s.store k with
  | none => simp
  | some e =>
    rw [he] at hk
    simp only [Option.bind_some]
    split
    · simp
    · exact hk

end Lease
