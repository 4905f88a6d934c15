import Mathlib.Data.List.Induction
import Transcribe.Model.Registry

/-!
# The registry's books

* `add_sockets`, `remove_sockets`: what a call does to the sockets of each conversation.
* `add_drift`, `remove_drift`: neither changes how far the count is from the sockets stored.
* `closeItems_spec`: what a section of `close_all` leaves, and what it has popped at its end.
* `registry_bookkeeping`: the count is right whenever no `close_all` is suspended, iff each time
  the last one ends it still has to pop every conversation that is registered.
-/

namespace Transcribe

open EventSystem

namespace ConnectionRegistry

variable {σ : Type} {reg : ConnectionRegistry σ} {c c' : String} {r : ℕ} {ws : σ} {ss : List σ}

/-! ## List objects -/

theorem store_listAt : (reg.store c ss).listAt r = if r = reg.lists.length then ss else reg.listAt r := by
  unfold listAt store
  simp only
  rcases Nat.lt_trichotomy r reg.lists.length with h | h | h
  · rw [List.getElem?_append_left h, if_neg (by omega)]
  · subst h
    rw [List.getElem?_append_right (Nat.le_refl _), Nat.sub_self, if_pos rfl]
    rfl
  · have hnone : reg.lists[r]? = none := List.getElem?_eq_none (by omega)
    have hnone' : (reg.lists ++ [ss])[r]? = none := List.getElem?_eq_none (by simp; omega)
    rw [if_neg (by omega), hnone, hnone']

theorem append_listAt {r' : ℕ} (h : r < reg.lists.length) :
    (reg.append r ws).listAt r' = if r' = r then reg.listAt r ++ [ws] else reg.listAt r' := by
  unfold listAt append
  simp only
  by_cases hr : r' = r
  · subst hr
    rw [List.getElem?_modify_eq, if_pos rfl, List.getElem?_eq_getElem h]
    rfl
  · rw [List.getElem?_modify_ne _ _ (Ne.symm hr), if_neg hr]

/-! ## Sockets of a conversation -/

theorem sockets_of_get? (h : reg.connections.get? c = some r) : reg.sockets c = reg.listAt r := by
  unfold sockets
  rw [h]
  rfl

theorem sockets_of_none (h : reg.connections.get? c = none) : reg.sockets c = [] := by
  unfold sockets
  rw [h]
  rfl

theorem store_sockets : (reg.store c ss).sockets c' = if c' = c then ss else reg.sockets c' := by
  have hget : (reg.store c ss).connections.get? c' =
      if c = c' then some reg.lists.length else reg.connections.get? c' := Dict.get?_set
  by_cases hc : c = c'
  · subst hc
    rw [if_pos rfl] at hget
    rw [sockets_of_get? hget, store_listAt, if_pos rfl, if_pos rfl]
  · rw [if_neg hc] at hget
    rw [if_neg (Ne.symm hc)]
    cases h : reg.connections.get? c' with
    | none => rw [sockets_of_none (hget.trans h), sockets_of_none h]
    | some r =>
      have hr := reg.allocated c' r h
      rw [sockets_of_get? (hget.trans h), sockets_of_get? h, store_listAt, if_neg (by omega)]

theorem drop_sockets : (reg.drop c).sockets c' = if c' = c then [] else reg.sockets c' := by
  have hget : (reg.drop c).connections.get? c' = if c = c' then none else reg.connections.get? c' := Dict.get?_pop
  unfold sockets
  by_cases hc : c = c'
  · rw [hget, if_pos hc, if_pos hc.symm]
    rfl
  · rw [hget, if_neg hc, if_neg (Ne.symm hc)]
    rfl

theorem append_sockets (h : reg.connections.get? c = some r) :
    (reg.append r ws).sockets c' = if c' = c then reg.sockets c ++ [ws] else reg.sockets c' := by
  have hr := reg.allocated c r h
  by_cases hc : c' = c
  · subst hc
    rw [if_pos rfl, sockets_of_get? h, @sockets_of_get? σ (reg.append r ws) _ _ h, append_listAt hr, if_pos rfl]
  · rw [if_neg hc]
    cases h' : reg.connections.get? c' with
    | none => rw [sockets_of_none h', @sockets_of_none σ (reg.append r ws) _ h']
    | some r' =>
      have hne : r' ≠ r := by
        rintro rfl
        exact hc (reg.unshared c' c r' h' h)
      rw [sockets_of_get? h', @sockets_of_get? σ (reg.append r ws) _ _ h', append_listAt hr, if_neg hne]

/-- **`add` appends the socket to its conversation.** -/
theorem add_sockets : (reg.add c ws).sockets c' = if c' = c then reg.sockets c ++ [ws] else reg.sockets c' := by
  unfold add
  cases h : reg.connections.get? c with
  | none =>
    rw [sockets_of_none h]
    exact store_sockets
  | some r => exact append_sockets h

/-- **`remove(cid, ws)` takes away the entries that are this socket under this conversation.** -/
theorem remove_sockets [DecidableEq σ] : (reg.remove c (some ws)).sockets c' =
    if c' = c then (reg.sockets c).filter fun registered => decide (registered ≠ ws) else reg.sockets c' := by
  unfold remove
  simp only
  cases h : reg.connections.get? c with
  | none =>
    simp only
    by_cases hc : c' = c
    · rw [if_pos hc, hc, sockets_of_none h, List.filter_nil]
    · rw [if_neg hc]
  | some r =>
    have hsockets := sockets_of_get? h
    simp only
    by_cases hempty : reg.listAt r = []
    · rw [if_pos hempty]
      by_cases hc : c' = c
      · rw [if_pos hc, hc, hsockets, hempty, List.filter_nil]
      · rw [if_neg hc]
    · rw [if_neg hempty, hsockets]
      split
      · next hremaining => exact drop_sockets.trans (by rw [hremaining]; rfl)
      · exact store_sockets

/-! ## The count -/

theorem total_eq (reg : ConnectionRegistry σ) (c : String) : reg.total = (reg.drop c).total + (reg.sockets c).length := by
  have hweight := @Dict.weight_pop _ _ _ reg.connections c (fun r => (reg.listAt r).length) reg.proper
  unfold total sockets
  rw [hweight]
  cases reg.connections.get? c <;> rfl

/-- A call for one conversation leaves the others as they are. -/
theorem drop_total_congr {reg' : ConnectionRegistry σ}
    (hpop : reg'.connections.pop c = reg.connections.pop c)
    (hlist : ∀ c' r, c' ≠ c → reg.connections.get? c' = some r → reg'.listAt r = reg.listAt r) :
    (reg'.drop c).total = (reg.drop c).total := by
  unfold total
  show Dict.weight _ (reg'.connections.pop c) = Dict.weight _ (reg.connections.pop c)
  rw [hpop]
  refine Dict.weight_congr fun e he => congrArg List.length ?_
  have hget : (reg.connections.pop c).get? e.1 = some e.2 := Dict.get?_of_mem (reg.proper.pop c) he
  rw [Dict.get?_pop] at hget
  split at hget
  · cases hget
  · next hne => exact hlist e.1 e.2 (Ne.symm hne) hget

theorem store_total : (reg.store c ss).total + (reg.sockets c).length = reg.total + ss.length := by
  have hdrop : ((reg.store c ss).drop c).total = (reg.drop c).total := by
    refine drop_total_congr (Dict.pop_set _ _ _) fun c' r _ h => ?_
    have hr := reg.allocated c' r h
    rw [store_listAt, if_neg (by omega)]
  have hnew := total_eq (reg.store c ss) c
  have hold := total_eq reg c
  rw [store_sockets, if_pos rfl] at hnew
  omega

theorem append_total (h : reg.connections.get? c = some r) : (reg.append r ws).total = reg.total + 1 := by
  have hdrop : ((reg.append r ws).drop c).total = (reg.drop c).total := by
    refine drop_total_congr rfl fun c' r' hc h' => ?_
    have hne : r' ≠ r := by
      rintro rfl
      exact hc (reg.unshared c' c r' h' h)
    rw [append_listAt (reg.allocated c r h), if_neg hne]
  have hnew := total_eq (reg.append r ws) c
  have hold := total_eq reg c
  rw [append_sockets h, if_pos rfl, List.length_append, List.length_singleton] at hnew
  omega

/-- How far the count is from the number of sockets stored. -/
def drift (reg : ConnectionRegistry σ) : ℤ := reg.activeCount - reg.total

theorem add_drift (reg : ConnectionRegistry σ) (c : String) (ws : σ) : (reg.add c ws).drift = reg.drift := by
  unfold add
  cases h : reg.connections.get? c with
  | none =>
    have htotal := @store_total σ reg c [ws]
    rw [sockets_of_none h, List.length_nil, List.length_singleton] at htotal
    show reg.activeCount + 1 - ((reg.store c [ws]).total : ℤ) = reg.activeCount - reg.total
    omega
  | some r =>
    have htotal := @append_total σ reg c r ws h
    show reg.activeCount + 1 - ((reg.append r ws).total : ℤ) = reg.activeCount - reg.total
    omega

theorem remove_drift [DecidableEq σ] (reg : ConnectionRegistry σ) (c : String) (ws : Option σ) :
    (reg.remove c ws).drift = reg.drift := by
  have htotal := total_eq reg c
  cases ws with
  | none =>
    unfold remove
    cases h : reg.connections.get? c with
    | none => rfl
    | some r =>
      rw [sockets_of_get? h] at htotal
      show reg.activeCount - ((reg.listAt r).length : ℤ) - ((reg.drop c).total : ℤ) = reg.activeCount - reg.total
      omega
  | some ws =>
    unfold remove
    cases h : reg.connections.get? c with
    | none => rfl
    | some r =>
      rw [sockets_of_get? h] at htotal
      simp only
      -- an empty list is left in place; a list that becomes empty goes with its key
      by_cases hempty : reg.listAt r = []
      · rw [if_pos hempty]
      · rw [if_neg hempty]
        have hle := List.length_filter_le (fun registered => decide (registered ≠ ws)) (reg.listAt r)
        generalize hrem : (reg.listAt r).filter (fun registered => decide (registered ≠ ws)) = remaining at hle ⊢
        by_cases hnone : remaining = []
        · rw [if_pos hnone]
          subst hnone
          rw [List.length_nil] at hle ⊢
          show reg.activeCount - (((reg.listAt r).length - 0 : ℕ) : ℤ) - ((reg.drop c).total : ℤ) =
            reg.activeCount - reg.total
          omega
        · rw [if_neg hnone]
          have hstore := @store_total σ reg c remaining
          rw [sockets_of_get? h] at hstore
          show reg.activeCount - (((reg.listAt r).length - remaining.length : ℕ) : ℤ) -
            ((reg.store c remaining).total : ℤ) = reg.activeCount - reg.total
          omega

theorem add_count : (reg.add c ws).activeCount = reg.activeCount + 1 := by
  unfold add
  cases reg.connections.get? c <;> rfl

theorem remove_count [DecidableEq σ] : (reg.remove c (some ws)).activeCount ≤ reg.activeCount := by
  unfold remove
  cases reg.connections.get? c with
  | none => exact Int.le_refl _
  | some r =>
    generalize hgone : (reg.listAt r).length -
      ((reg.listAt r).filter fun registered => decide (registered ≠ ws)).length = gone
    have hle : reg.activeCount - (gone : ℤ) ≤ reg.activeCount := by omega
    simp only [hgone]
    split
    · exact Int.le_refl _
    · split
      · exact hle
      · exact hle

/-! ## No empty lists -/

/-- No conversation is mapped to an empty list. -/
def NoEmpty (reg : ConnectionRegistry σ) : Prop :=
  ∀ c r, reg.connections.get? c = some r → reg.listAt r ≠ []

theorem NoEmpty.store (h : reg.NoEmpty) (hss : ss ≠ []) : (reg.store c ss).NoEmpty := by
  intro c' r hget
  rw [store_listAt]
  have hget' : (if c = c' then some reg.lists.length else reg.connections.get? c') = some r :=
    Dict.get?_set.symm.trans hget
  split
  · exact hss
  · next hr =>
    split at hget'
    · exact absurd (Option.some.inj hget').symm hr
    · exact h c' r hget'

theorem NoEmpty.drop (h : reg.NoEmpty) (c : String) : (reg.drop c).NoEmpty := by
  intro c' r hget
  have hget' : (if c = c' then none else reg.connections.get? c') = some r := Dict.get?_pop.symm.trans hget
  split at hget'
  · cases hget'
  · exact h c' r hget'

theorem NoEmpty.add (h : reg.NoEmpty) (c : String) (ws : σ) : (reg.add c ws).NoEmpty := by
  unfold ConnectionRegistry.add
  cases hget : reg.connections.get? c with
  | none => exact h.store (List.cons_ne_nil _ _)
  | some r =>
    intro c' r' hget'
    show (reg.append r ws).listAt r' ≠ []
    rw [append_listAt (reg.allocated c r hget)]
    split
    · simp
    · exact h c' r' hget'

theorem NoEmpty.remove [DecidableEq σ] (h : reg.NoEmpty) (c : String) (ws : Option σ) :
    (reg.remove c ws).NoEmpty := by
  unfold ConnectionRegistry.remove
  cases ws with
  | none =>
    cases reg.connections.get? c with
    | none => exact h
    | some r => exact h.drop c
  | some ws =>
    cases reg.connections.get? c with
    | none => exact h
    | some r =>
      simp only
      split
      · exact h
      · split
        · exact @NoEmpty.drop σ (reg.recount _) h c
        · next hremaining => exact @NoEmpty.store σ (reg.recount _) c _ h hremaining

/-! ## `close_all` -/

variable {connected : σ → Bool}

/-- A section of `close_all` keeps the count or sets it to zero. -/
theorem closeItems_count (connected : σ → Bool) (items : List (String × ℕ)) (reg : ConnectionRegistry σ) :
    (reg.closeItems connected items).1.activeCount = reg.activeCount ∨
      (reg.closeItems connected items).1.activeCount = 0 := by
  induction items generalizing reg with
  | nil => exact .inr rfl
  | cons item items ih =>
    unfold closeItems
    cases nextConnected connected (reg.listAt item.2) with
    | some next => exact .inl rfl
    | none => exact ih (reg.drop item.1)

theorem goOn_count (connected : σ → Bool) (f : Closing σ) (reg : ConnectionRegistry σ) :
    (reg.goOn connected f).1.activeCount = reg.activeCount ∨ (reg.goOn connected f).1.activeCount = 0 := by
  unfold goOn
  cases nextConnected connected f.sockets with
  | some next => exact .inl rfl
  | none => exact closeItems_count connected f.items (reg.drop f.conversationId)

/-- What a section of the outer loop leaves: list objects stay as they are, conversations only
go. At the end the items are popped and the count is zero. -/
theorem closeItems_spec (connected : σ → Bool) (items : List (String × ℕ)) (reg : ConnectionRegistry σ) :
    (reg.closeItems connected items).1.lists = reg.lists ∧
    (∀ c r, (reg.closeItems connected items).1.connections.get? c = some r → reg.connections.get? c = some r) ∧
    ((reg.closeItems connected items).2 = none → (reg.closeItems connected items).1.activeCount = 0 ∧
      ∀ c, (reg.closeItems connected items).1.connections.get? c =
        if c ∈ items.map Prod.fst then none else reg.connections.get? c) := by
  induction items generalizing reg with
  | nil => exact ⟨rfl, fun _ _ h => h, fun _ => ⟨rfl, fun _ => rfl⟩⟩
  | cons item items ih =>
    obtain ⟨cid, r⟩ := item
    unfold closeItems
    cases nextConnected connected (reg.listAt r) with
    | some next => exact ⟨rfl, fun _ _ h => h, nofun⟩
    | none =>
      obtain ⟨hlists, hsub, hend⟩ := ih (reg.drop cid)
      have hget : ∀ c, (reg.drop cid).connections.get? c = if cid = c then none else reg.connections.get? c :=
        fun c => Dict.get?_pop
      refine ⟨hlists, fun c r h => ?_, fun h => ⟨(hend h).1, fun c => ?_⟩⟩
      · have h' := hsub c r h
        rw [hget] at h'
        split at h'
        · cases h'
        · exact h'
      · simp only
        rw [(hend h).2 c, hget, List.map_cons]
        -- the key of this item is gone, also if it comes again later
        by_cases hc : cid = c
        · subst hc
          rw [if_pos rfl, ite_self, if_pos List.mem_cons_self]
        · have hmem : c ∈ cid :: items.map Prod.fst ↔ c ∈ items.map Prod.fst := by simp [Ne.symm hc]
          simp only [hc, if_false, hmem]

theorem NoEmpty.closeItems (h : reg.NoEmpty) (items : List (String × ℕ)) :
    (reg.closeItems connected items).1.NoEmpty := by
  obtain ⟨hlists, hsub, -⟩ := closeItems_spec connected items reg
  intro c r hget
  unfold listAt
  rw [hlists]
  exact h c r (hsub c r hget)

/-- The end of a `close_all` that goes on: what it had to pop is gone and the count is zero. -/
theorem goOn_end {f : Closing σ} (h : (reg.goOn connected f).2 = none) :
    (reg.goOn connected f).1.activeCount = 0 ∧
      ∀ c, (reg.goOn connected f).1.connections.get? c =
        if c = f.conversationId ∨ c ∈ f.items.map Prod.fst then none else reg.connections.get? c := by
  unfold goOn at h ⊢
  cases hnext : nextConnected connected f.sockets with
  | some next =>
    rw [hnext] at h
    cases h
  | none =>
    rw [hnext] at h
    obtain ⟨-, -, hend⟩ := closeItems_spec connected f.items (reg.drop f.conversationId)
    refine ⟨(hend h).1, fun c => ?_⟩
    have hget : (reg.drop f.conversationId).connections.get? c =
        if f.conversationId = c then none else reg.connections.get? c := Dict.get?_pop
    simp only
    rw [(hend h).2 c, hget]
    by_cases hc : f.conversationId = c
    · subst hc
      rw [if_pos rfl, ite_self, if_pos (Or.inl rfl)]
    · have hmem : (c = f.conversationId ∨ c ∈ f.items.map Prod.fst) ↔ c ∈ f.items.map Prod.fst := by
        simp [Ne.symm hc]
      simp only [hc, if_false, hmem]

theorem NoEmpty.goOn (h : reg.NoEmpty) (f : Closing σ) : (reg.goOn connected f).1.NoEmpty := by
  unfold ConnectionRegistry.goOn
  cases nextConnected connected f.sockets with
  | some next => exact h
  | none => exact (h.drop _).closeItems _

theorem total_of_empty (h : ∀ c, reg.connections.get? c = none) : reg.total = 0 := by
  have hnil : reg.connections = [] := by
    by_contra hne
    obtain ⟨e, he⟩ := List.exists_mem_of_ne_nil _ hne
    have hsome := Dict.get?_of_mem reg.proper he
    rw [h] at hsome
    cases hsome
  unfold total
  rw [hnil]
  rfl

theorem total_pos (h : reg.NoEmpty) (hc : reg.connections.get? c = some r) : 0 < reg.total := by
  have htotal := total_eq reg c
  have hlen := List.length_pos_iff.2 (h c r hc)
  rw [sockets_of_get? hc] at htotal
  omega

end ConnectionRegistry

/-! ## Every interleaving -/

namespace RegistryState

variable {σ : Type} [DecidableEq σ] {w : RegistryState σ} {e : RegistryEvent σ}

/-- If this ends the last `close_all` that is suspended, that still has to pop every
conversation that is registered. -/
def Settled (w : RegistryState σ) : RegistryEvent σ → Prop
  | .goOn k connected => (w.step (.goOn k connected)).closing = [] →
    ∀ f ∈ w.closing[k]?, ∀ c r, w.registry.connections.get? c = some r →
      c = f.conversationId ∨ c ∈ f.items.map Prod.fst
  | _ => True

/-- The books are right. -/
structure Booked (reg : ConnectionRegistry σ) : Prop where
  count : reg.activeCount = reg.total
  nonneg : 0 ≤ reg.activeCount
  noEmpty : reg.NoEmpty

omit [DecidableEq σ] in
theorem booked_iff {reg : ConnectionRegistry σ} : Booked reg ↔ reg.NoEmpty ∧ reg.drift = 0 := by
  unfold ConnectionRegistry.drift
  constructor
  · rintro ⟨hcount, -, hno⟩
    exact ⟨hno, by omega⟩
  · rintro ⟨hno, hdrift⟩
    exact ⟨by omega, by omega, hno⟩

theorem step_goOn_none {k : ℕ} {connected : σ → Bool} (hk : w.closing[k]? = none) :
    w.step (.goOn k connected) = w := by
  simp only [step, hk]

theorem step_goOn {k : ℕ} {connected : σ → Bool} {f : Closing σ} (hk : w.closing[k]? = some f) :
    w.step (.goOn k connected) = ⟨(w.registry.goOn connected f).1,
      w.closing.take k ++ (w.registry.goOn connected f).2.toList ++ w.closing.drop (k + 1)⟩ := by
  simp only [step, hk]

theorem step_noEmpty (h : w.registry.NoEmpty) : (w.step e).registry.NoEmpty := by
  cases e with
  | add cid ws => exact h.add cid ws
  | remove cid ws => exact h.remove cid ws
  | closeAll connected => exact h.closeItems _
  | goOn k connected =>
    cases hk : w.closing[k]? with
    | none =>
      rw [step_goOn_none hk]
      exact h
    | some f =>
      rw [step_goOn hk]
      exact h.goOn f

/-- **What one step does to the books**: they stay right iff the step is settled. -/
theorem step_drift (h : w.registry.NoEmpty) (hw : w.closing = [] → w.registry.drift = 0) :
    ((w.step e).closing = [] → (w.step e).registry.drift = 0) ↔ w.Settled e := by
  cases e with
  | add cid ws => exact iff_of_true (fun hc => (ConnectionRegistry.add_drift ..).trans (hw hc)) trivial
  | remove cid ws => exact iff_of_true (fun hc => (ConnectionRegistry.remove_drift ..).trans (hw hc)) trivial
  | closeAll connected =>
    refine iff_of_true (fun hc => ?_) trivial
    -- a `close_all` that is not suspended has popped its whole snapshot
    have hnone : (w.registry.closeAll connected).2 = none := by
      cases hr : (w.registry.closeAll connected).2 with
      | none => rfl
      | some f => simp [step, hr] at hc
    obtain ⟨-, -, hend⟩ := ConnectionRegistry.closeItems_spec connected w.registry.connections w.registry
    obtain ⟨hcount, hget⟩ := hend hnone
    have htotal : (w.registry.closeAll connected).1.total = 0 := by
      refine ConnectionRegistry.total_of_empty fun c => (hget c).trans ?_
      split
      · rfl
      · next hmem => exact Dict.get?_eq_none.2 hmem
    show (w.registry.closeAll connected).1.activeCount - ((w.registry.closeAll connected).1.total : ℤ) = 0
    have hcount' : (w.registry.closeAll connected).1.activeCount = 0 := hcount
    omega
  | goOn k connected =>
    cases hk : w.closing[k]? with
    | none =>
      simp only [Settled, step_goOn_none hk, hk]
      exact iff_of_true hw fun _ _ => nofun
    | some f =>
      simp only [Settled, step_goOn hk, hk, Option.mem_some_iff, forall_eq']
      cases hr : (w.registry.goOn connected f).2 with
      | some f' => simp
      | none =>
        obtain ⟨hcount, hget⟩ := ConnectionRegistry.goOn_end hr
        refine forall_congr' fun _ => ⟨fun hdrift c r hc => ?_, fun hpopped => ?_⟩
        · -- a conversation that stays still has its sockets, and the count is zero
          by_contra hnot
          have hstays : (w.registry.goOn connected f).1.connections.get? c = some r := by
            rw [hget, if_neg hnot]
            exact hc
          have hpos := ConnectionRegistry.total_pos (h.goOn f) hstays
          unfold ConnectionRegistry.drift at hdrift
          omega
        · have htotal : (w.registry.goOn connected f).1.total = 0 := by
            refine ConnectionRegistry.total_of_empty fun c => (hget c).trans ?_
            split
            · rfl
            · next hnot =>
              cases hc : w.registry.connections.get? c with
              | none => rfl
              | some r => exact absurd (hpopped c r hc) hnot
          unfold ConnectionRegistry.drift
          omega

theorem after_noEmpty (es : List (RegistryEvent σ)) : (after es).registry.NoEmpty :=
  run_inv (I := fun w : RegistryState σ => w.registry.NoEmpty) (fun _ _ => step_noEmpty)
    fun c r h => absurd h (by simp [init, ConnectionRegistry.empty])

theorem after_snoc (es : List (RegistryEvent σ)) (e : RegistryEvent σ) : after (es ++ [e]) = (after es).step e :=
  run_append es [e]

/-- The books are right in every state up to here in which no `close_all` is suspended. -/
def BookedUpTo (es : List (RegistryEvent σ)) : Prop :=
  ∀ es₁ es₂, es = es₁ ++ es₂ → (after es₁).closing = [] → Booked (after es₁).registry

theorem BookedUpTo.now {es : List (RegistryEvent σ)} (h : BookedUpTo es) (hc : (after es).closing = []) :
    (after es).registry.drift = 0 :=
  (booked_iff.1 (h es [] (List.append_nil es).symm hc)).2

theorem bookedUpTo_snoc (es : List (RegistryEvent σ)) (e : RegistryEvent σ) :
    BookedUpTo (es ++ [e]) ↔ BookedUpTo es ∧ (after es).Settled e := by
  constructor
  · intro h
    have hes : BookedUpTo es := fun es₁ es₂ heq => h es₁ (es₂ ++ [e]) (by rw [heq, List.append_assoc])
    refine ⟨hes, (step_drift (after_noEmpty es) hes.now).1 ?_⟩
    rw [← after_snoc]
    exact h.now
  · rintro ⟨hes, hsettled⟩ es₁ es₂ heq hc
    rcases List.eq_nil_or_concat es₂ with rfl | ⟨es₂, e', rfl⟩
    · rw [List.append_nil] at heq
      subst heq
      refine booked_iff.2 ⟨after_noEmpty _, ?_⟩
      rw [after_snoc] at hc ⊢
      exact (step_drift (after_noEmpty es) hes.now).2 hsettled hc
    · rw [List.concat_eq_append, ← List.append_assoc] at heq
      exact hes es₁ es₂ (List.append_inj_left' heq rfl) hc

/-- **Registry bookkeeping.** -/
theorem registry_bookkeeping (es : List (RegistryEvent σ)) :
    (BookedUpTo es ↔ Along step Settled init es) ∧
    ∀ es₁ es₂ cid ws, es = es₁ ++ .remove cid (some ws) :: es₂ → ∀ c,
      (after (es₁ ++ [.remove cid (some ws)])).registry.sockets c =
        if c = cid then ((after es₁).registry.sockets cid).filter fun registered => decide (registered ≠ ws)
        else (after es₁).registry.sockets c := by
  refine ⟨?_, fun es₁ _ cid ws _ c => ?_⟩
  · induction es using List.reverseRecOn with
    | nil =>
      refine iff_of_true (fun es₁ es₂ heq _ => ?_) trivial
      obtain ⟨rfl, -⟩ := List.append_eq_nil_iff.1 heq.symm
      exact booked_iff.2 ⟨after_noEmpty [], rfl⟩
    | append_singleton es e ih =>
      rw [bookedUpTo_snoc, ih, along_append]
      exact and_congr_right fun _ => (iff_of_eq (and_true _)).symm
  · rw [after_snoc]
    exact ConnectionRegistry.remove_sockets

/-- Two conversations; the second is added while `close_all` closes the first. -/
def addedBehind : List (RegistryEvent ℕ) :=
  [.add "c1" 0, .closeAll fun _ => true, .add "c2" 1, .goOn 0 fun _ => true]

/-- **A socket added behind `close_all` stays and is not counted**; when its session removes
it, the count is negative. -/
theorem added_behind : ¬ BookedUpTo addedBehind ∧
    (after addedBehind).closing = [] ∧ (after addedBehind).registry.sockets "c2" = [1] ∧
    (after addedBehind).registry.activeCount = 0 ∧
    (after (addedBehind ++ [.remove "c2" (some 1)])).closing = [] ∧
    (after (addedBehind ++ [.remove "c2" (some 1)])).registry.activeCount = -1 := by
  have hclosing : (after addedBehind).closing = [] := by rfl
  have hcount : (after addedBehind).registry.activeCount ≠ (after addedBehind).registry.total := by decide
  exact ⟨fun h => hcount (h _ [] rfl hclosing).count, hclosing, by decide, by decide, by rfl, by decide⟩

end RegistryState

end Transcribe
