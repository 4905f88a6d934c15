import Transcribe.Model.Sample
import Transcribe.Proof.Instance

/-!
# The drain

Draining turns new handshakes away; the ones that are past the check go on and register.
`close_all` works on the conversations that are registered when it starts.

* `closeItems_meets`, `goOn_meets`: `close_all` goes on until it has come to every connected
  socket of its snapshot.
* `step_covers`: a registered socket is in the snapshot or has been sent a close, if no
  handshake is underway when `close_all` starts.
* `drain_misses_nobody`: what holds from then on once `close_all` has returned.
* `drain_misses`: a handshake that waits for its accept through the drain registers after it.
-/

namespace Transcribe

open Resumption EventSystem Relation

variable {t : Transport} {w : Instance t}

/-! ## What `close_all` comes to -/

section

variable {σ : Type} {connected : σ → Bool} {reg : ConnectionRegistry σ} {c : String} {ws : σ} {r : ℕ}

/-- `close_all` is at the socket, or still comes to it. -/
def Closing.Meets (f : Closing σ) (reg : ConnectionRegistry σ) (ws : σ) : Prop :=
  ws = f.ws ∨ ws ∈ f.sockets ∨ ∃ item ∈ f.items, ws ∈ reg.listAt item.2

theorem nextConnected_meets {sockets : List σ} (hc : connected ws = true) (h : ws ∈ sockets) :
    ∃ next, nextConnected connected sockets = some next ∧ (ws = next.1 ∨ ws ∈ next.2) := by
  induction sockets with
  | nil => cases h
  | cons a sockets ih =>
    unfold nextConnected
    rcases List.mem_cons.1 h with rfl | h
    · exact ⟨(ws, sockets), by rw [if_pos hc], .inl rfl⟩
    · cases ha : connected a with
      | true => exact ⟨(a, sockets), by rw [if_pos rfl], .inr h⟩
      | false =>
        rw [if_neg (by simp)]
        exact ih h

namespace ConnectionRegistry

/-- **The outer loop comes to a connected socket of its items** before it ends. -/
theorem closeItems_meets (hc : connected ws = true) (items : List (String × ℕ)) (reg : ConnectionRegistry σ)
    (h : ∃ item ∈ items, ws ∈ reg.listAt item.2) : ∃ f, (reg.closeItems connected items).2 = some f ∧
      f.Meets (reg.closeItems connected items).1 ws := by
  induction items generalizing reg with
  | nil =>
    obtain ⟨item, hmem, -⟩ := h
    cases hmem
  | cons item items ih =>
    obtain ⟨item', hmem, hws⟩ := h
    unfold closeItems
    -- the list of this item has a connected socket, at which the walk stops, or none
    cases hnext : nextConnected connected (reg.listAt item.2) with
    | some next =>
      refine ⟨_, rfl, ?_⟩
      rcases List.mem_cons.1 hmem with rfl | hmem
      · obtain ⟨next', hnext', hmeets⟩ := nextConnected_meets hc hws
        rw [hnext] at hnext'
        obtain rfl := Option.some.inj hnext'
        exact hmeets.imp_right .inl
      · exact .inr (.inr ⟨item', hmem, hws⟩)
    | none =>
      rcases List.mem_cons.1 hmem with rfl | hmem
      · obtain ⟨next, hnext', -⟩ := nextConnected_meets hc hws
        rw [hnext] at hnext'
        cases hnext'
      · exact ih (reg.drop item.1) ⟨item', hmem, hws⟩

theorem goOn_meets (hc : connected ws = true) {f : Closing σ} (h : f.Meets reg ws) (hne : ws ≠ f.ws) :
    ∃ f', (reg.goOn connected f).2 = some f' ∧ f'.Meets (reg.goOn connected f).1 ws := by
  have hmeets := h.resolve_left hne
  unfold goOn
  cases hnext : nextConnected connected f.sockets with
  | some next =>
    refine ⟨_, rfl, ?_⟩
    rcases hmeets with hws | hitems
    · obtain ⟨next', hnext', hmeets⟩ := nextConnected_meets hc hws
      rw [hnext] at hnext'
      obtain rfl := Option.some.inj hnext'
      exact hmeets.imp_right .inl
    · exact .inr (.inr hitems)
  | none =>
    rcases hmeets with hws | hitems
    · obtain ⟨next, hnext', -⟩ := nextConnected_meets hc hws
      rw [hnext] at hnext'
      cases hnext'
    · exact closeItems_meets hc f.items (reg.drop f.conversationId) hitems

/-- A socket that is removed stays in the list objects of a snapshot. -/
theorem remove_listAt [DecidableEq σ] {ws' : σ} (h : ws ∈ reg.listAt r) :
    ws ∈ (reg.remove c (some ws')).listAt r := by
  have hlt : r < reg.lists.length := by
    by_contra hge
    have hnone : reg.lists[r]? = none := List.getElem?_eq_none (Nat.not_lt.1 hge)
    unfold listAt at h
    rw [hnone] at h
    cases h
  unfold remove
  cases reg.connections.get? c with
  | none => exact h
  | some r' =>
    simp only
    split
    · exact h
    · split
      · exact h
      · rw [store_listAt]
        split
        · next heq => exact absurd heq (Nat.ne_of_lt hlt)
        · exact h

end ConnectionRegistry

end

/-! ## A section -/

/-- Before `close_all`: a registered socket is stored under its conversation. -/
structure Stored (id : ℕ) (reg₀ : ConnectionRegistry ℕ) (v : Scene) : Prop where
  own : ∀ c, v.1.1.Registered c → id ∈ v.2.sockets c
  others : ∀ id' c, id' ≠ id → id' ∈ reg₀.sockets c → id' ∈ v.2.sockets c

theorem Stored.beat {draining : Bool} {id : ℕ} {reg₀ : ConnectionRegistry ℕ} {v v' : Scene}
    (h : Stored id reg₀ v) (hbeat : Beat t draining id v v') : Stored id reg₀ v' := by
  -- a beat of a handshake leaves the registry as it is
  have hstay : ∀ {s b reg}, v.2 = reg → (∀ c, ¬ s.Registered c) → Stored id reg₀ ((s, b), reg) := by
    rintro s b reg rfl hs
    exact ⟨fun c hc => absurd hc (hs c), h.others⟩
  cases hbeat with
  | turnedAway => exact hstay rfl (by simp [Seat.Registered])
  | unlimited => exact hstay rfl (by simp [Seat.Registered])
  | admitted => exact hstay rfl (by simp [Seat.Registered])
  | full => exact hstay rfl (by simp [Seat.Registered])
  | room => exact hstay rfl (by simp [Seat.Registered])
  | @add c reg =>
    refine ⟨fun c' hc' => ?_, fun id' c' hne hin => ?_⟩
    · obtain ⟨inLoop, hc'⟩ := hc'
      obtain ⟨rfl, -⟩ := Seat.here.inj hc'
      show id ∈ (reg.add c id).sockets c
      rw [ConnectionRegistry.add_sockets, if_pos rfl]
      exact List.mem_append_right _ (List.mem_singleton.2 rfl)
    · have hold : id' ∈ reg.sockets c' := h.others id' c' hne hin
      show id' ∈ (reg.add c id).sockets c'
      rw [ConnectionRegistry.add_sockets]
      split
      · next heq =>
        subst heq
        exact List.mem_append_left _ hold
      · exact hold
  | @remove c b reg =>
    refine ⟨fun c' hc' => ?_, fun id' c' hne hin => ?_⟩
    · obtain ⟨inLoop, hc'⟩ := hc'
      cases hc'
    · have hold : id' ∈ reg.sockets c' := h.others id' c' hne hin
      show id' ∈ (reg.remove c (some id)).sockets c'
      rw [ConnectionRegistry.remove_sockets]
      split
      · next heq =>
        subst heq
        exact List.mem_filter.2 ⟨hold, decide_eq_true hne⟩
      · exact hold

theorem Stored.beats {draining : Bool} {id : ℕ} {reg₀ : ConnectionRegistry ℕ} {v v' : Scene}
    (h : Stored id reg₀ v) (hbeats : ReflTransGen (Beat t draining id) v v') : Stored id reg₀ v' := by
  induction hbeats with
  | refl => exact h
  | tail _ hbeat ih => exact ih.beat hbeat

/-- Once draining is set and the connection is not underway: it is not registered, and the list
objects of the snapshot keep their sockets. -/
structure Receding (reg₀ : ConnectionRegistry ℕ) (s₀ : Seat) (v : Scene) : Prop where
  not_admitted : v.1.1 ≠ .admitted
  not_underway : v.1.1 ≠ .underway
  registered : ∀ c, v.1.1.Registered c → s₀.Registered c
  been : ∀ c, v.1.1.In c → s₀.In c
  lists : ∀ id r, id ∈ reg₀.listAt r → id ∈ v.2.listAt r

theorem Receding.beat {id : ℕ} {reg₀ : ConnectionRegistry ℕ} {s₀ : Seat} {v v' : Scene}
    (h : Receding reg₀ s₀ v) (hbeat : Beat t true id v v') : Receding reg₀ s₀ v' := by
  cases hbeat with
  | turnedAway =>
    refine ⟨?_, ?_, by simp [Seat.Registered], by simp [Seat.In, Seat.Registered], h.lists⟩
    · exact Seat.noConfusion
    · exact Seat.noConfusion
  | unlimited hd => cases hd
  | admitted hd => cases hd
  | full => exact absurd rfl h.not_admitted
  | room => exact absurd rfl h.not_admitted
  | add => exact absurd rfl h.not_underway
  | @remove c b reg =>
    refine ⟨?_, ?_, by simp [Seat.Registered], fun c' hc' => ?_, fun id' r hin => ?_⟩
    · exact Seat.noConfusion
    · exact Seat.noConfusion
    · rcases hc' with ⟨inLoop, hc'⟩ | hc'
      · cases hc'
      · obtain rfl := Seat.left.inj hc'
        exact .inl (h.registered c ⟨true, rfl⟩)
    · exact ConnectionRegistry.remove_listAt (h.lists id' r hin)

theorem Receding.beats {id : ℕ} {reg₀ : ConnectionRegistry ℕ} {s₀ : Seat} {v v' : Scene}
    (h : Receding reg₀ s₀ v) (hbeats : ReflTransGen (Beat t true id) v v') : Receding reg₀ s₀ v' := by
  induction hbeats with
  | refl => exact h
  | tail _ hbeat ih => exact ih.beat hbeat

/-! ## Steps -/

/-- `close_all` has been called. -/
def Drain.Begun : Drain → Prop
  | closing _ | closed => True
  | _ => False

theorem Drain.Begun.isDraining {d : Drain} (h : d.Begun) : d.isDraining = true := by
  cases d with
  | serving => exact h.elim
  | _ => rfl

namespace Instance

/-- When `close_all` starts, no handshake is between the checks and its registration. -/
def Quiet (w : Instance t) : InstanceEvent → Prop
  | .connect scope _ _ => scope.Guarded
  | .closeAll => w.drain = .draining → w.underway = 0
  | _ => True

/-- Where `close_all` meets a socket that is registered for the conversation. -/
def Covered (w : Instance t) (id : ℕ) (c : String) : Prop :=
  match w.drain with
  | .serving | .draining => id ∈ w.registry.sockets c
  | .closing f => id ∈ w.closed ∨ f.Meets w.registry id
  | .closed => id ∈ w.closed

/-- What holds of an instance that was quiet. -/
structure Covers (w : Instance t) : Prop where
  atRest : w.AtRest
  still : w.drain.Begun → ∀ x ∈ w.links, x.underway = false
  covered : ∀ id x c, w.links[id]? = some x → x.seat.Registered c → w.Covered id c
  sent : ∀ f, w.drain = .closing f → f.ws ∈ w.closed

theorem Quiet.guarded {e : InstanceEvent} (h : w.Quiet e) : e.Guarded := by
  cases e with
  | connect scope frames answer => exact h
  | _ => exact trivial

theorem covered_open (h : ¬ w.drain.Begun) {id : ℕ} {c : String} : w.Covered id c ↔ id ∈ w.registry.sockets c := by
  unfold Covered
  cases hd : w.drain with
  | serving => exact Iff.rfl
  | draining => exact Iff.rfl
  | closing f => exact absurd (hd ▸ trivial) h
  | closed => exact absurd (hd ▸ trivial) h

/-- Once `close_all` has been called, what it meets stays while the list objects keep their sockets. -/
theorem covered_begun (h : w.drain.Begun) {w' : Instance t} (hd : w'.drain = w.drain) (hc : w'.closed = w.closed)
    (hlists : ∀ id r, id ∈ w.registry.listAt r → id ∈ w'.registry.listAt r) {id : ℕ} {c : String}
    (hcov : w.Covered id c) : w'.Covered id c := by
  unfold Covered at hcov ⊢
  rw [hd, hc]
  cases hdrain : w.drain with
  | serving => exact absurd h (by simp [hdrain, Drain.Begun])
  | draining => exact absurd h (by simp [hdrain, Drain.Begun])
  | closed =>
    rw [hdrain] at hcov
    exact hcov
  | closing f =>
    rw [hdrain] at hcov
    rcases hcov with hclosed | hws | hin | ⟨item, hitem, hin⟩
    · exact .inl hclosed
    · exact .inr (.inl hws)
    · exact .inr (.inr (.inl hin))
    · exact .inr (.inr (.inr ⟨item, hitem, hlists _ _ hin⟩))

/-- The sockets of the registered sessions are connected. -/
theorem Covers.connected (h : w.Covers) {id : ℕ} {x : Link t} {c : String} (hx : w.links[id]? = some x)
    (hc : x.seat.Registered c) : w.connected id = true := by
  obtain ⟨inLoop, hs⟩ := hc
  unfold Instance.connected
  rw [hx]
  exact ((h.atRest x (List.mem_of_getElem? hx)).here hs).1

/-- Connection `id` has run a section that started at `v` and is `x'` now. -/
structure Ran (w : Instance t) (id : ℕ) (v : Seat × Bool) (x' : Link t) (w' : Instance t) : Prop where
  drain : w'.drain = w.drain
  closed : w'.closed = w.closed
  here : w'.links[id]? = some x'
  others : ∀ id', id' ≠ id → w'.links[id']? = w.links[id']?
  atRest : x'.AtRest
  beats : ReflTransGen (Beat t w.drain.isDraining id) (v, w.registry) (x'.standing, w'.registry)
  not_admitted : v.1 ≠ .admitted
  underway : v.1 = .underway → ∃ x ∈ w.links, x.underway = true
  registered : ∀ c, v.1.Registered c → ∃ x, w.links[id]? = some x ∧ x.seat.Registered c
  been : ∀ c, v.1.In c → ∃ x, w.links[id]? = some x ∧ x.seat.In c

/-- A step is a section, or a step of the shutdown. -/
theorem step_ran {e : InstanceEvent} (h : w.AtRest) (he : e.Guarded) :
    (∃ id v x', w.Ran id v x' (w.step e)) ∨ w.step e = w ∨
    w.drain = .serving ∧ w.step e = { w with drain := .draining } ∨
    e = .closeAll ∧ w.drain = .draining ∧ w.step e = w.closing (w.registry.closeAll w.connected) ∨
    ∃ f, w.drain = .closing f ∧ w.step e = w.closing (w.registry.goOn w.connected f) := by
  have hstepped := step_stepped h he
  generalize w.step e = w' at hstepped
  cases hstepped with
  | idle => exact .inr (.inl rfl)
  | @arrived scope frames answer reg' x' hbeats hrest =>
    refine .inl ⟨w.links.length, (.arriving, false), x', rfl, rfl, ?_, fun id' hne => ?_, hrest, hbeats, nofun, nofun,
      by simp [Seat.Registered], by simp [Seat.In, Seat.Registered]⟩
    · exact List.getElem?_concat_length
    · rcases Nat.lt_or_ge id' w.links.length with hlt | hge
      · exact List.getElem?_append_left hlt
      · -- behind the new link there is none
        have hnone : w.links[id']? = none := List.getElem?_eq_none hge
        have hnone' : (w.links ++ [x'])[id']? = none :=
          List.getElem?_eq_none (by rw [List.length_append, List.length_singleton]; omega)
        exact hnone'.trans hnone.symm
  | @moved id answer reg' i x x' hx hp hbeats hrest =>
    have hmem := List.mem_of_getElem? hx
    obtain ⟨-, hne, hunderway, hkeep⟩ := (h x hmem).answered hp answer
    rw [Link.standing_eq] at hbeats
    refine .inl ⟨id, _, x', rfl, rfl, ?_, fun id' hid => ?_, hrest, hbeats, hne, fun hs => ⟨x, hmem, hunderway hs⟩,
      fun c hc => ⟨x, hx, (hkeep c).1.1 hc⟩, fun c hc => ⟨x, hx, ?_⟩⟩
    · exact List.getElem?_set_self (List.getElem?_eq_some_iff.1 hx).1
    · exact List.getElem?_set_ne (Ne.symm hid)
    · exact hc.imp (hkeep c).1.1 (hkeep c).2.1
  | signalled hd => exact .inr (.inr (.inl ⟨hd, rfl⟩))
  | began hd => exact .inr (.inr (.inr (.inl ⟨rfl, hd, rfl⟩)))
  | @wentOn f hd => exact .inr (.inr (.inr (.inr ⟨f, hd, rfl⟩)))

namespace Ran

variable {id : ℕ} {v : Seat × Bool} {x' : Link t} {w' : Instance t}

/-- A section before `close_all`. -/
theorem stored (h : w.Ran id v x' w') (hw : w.Covers) (hopen : ¬ w.drain.Begun) :
    Stored id w.registry (x'.standing, w'.registry) := by
  have hstart : Stored id w.registry (v, w.registry) := by
    refine ⟨fun c hc => ?_, fun _ _ _ hin => hin⟩
    obtain ⟨x, hx, hreg⟩ := h.registered c hc
    exact (covered_open hopen).1 (hw.covered id x c hx hreg)
  exact hstart.beats h.beats

/-- A section after `close_all` has been called. -/
theorem receding (h : w.Ran id v x' w') (hw : w.Covers) (hbegun : w.drain.Begun) :
    Receding w.registry v.1 (x'.standing, w'.registry) := by
  have hbeats := h.beats
  rw [hbegun.isDraining] at hbeats
  have hunder : v.1 ≠ .underway := by
    intro hs
    obtain ⟨x, hx, hu⟩ := h.underway hs
    rw [hw.still hbegun x hx] at hu
    cases hu
  have hstart : Receding w.registry v.1 (v, w.registry) :=
    ⟨h.not_admitted, hunder, fun _ hc => hc, fun _ hc => hc, fun _ _ hin => hin⟩
  exact hstart.beats hbeats

/-- **A section keeps the registered sockets covered.** -/
theorem covers (h : w.Ran id v x' w') (hw : w.Covers) : w'.Covers := by
  -- every link is the one that ran, or one from before
  have hmem : ∀ y ∈ w'.links, y = x' ∨ y ∈ w.links := by
    intro y hy
    obtain ⟨id', hlt, hget⟩ := List.getElem_of_mem hy
    have hget' : w'.links[id']? = some y := List.getElem?_eq_some_iff.2 ⟨hlt, hget⟩
    by_cases hid : id' = id
    · subst hid
      exact .inl (Option.some.inj (hget'.symm.trans h.here))
    · exact .inr (List.mem_of_getElem? ((h.others id' hid).symm.trans hget'))
  refine ⟨fun y hy => ?_, fun hbegun y hy => ?_, fun id' y c hy hc => ?_, fun f hf => ?_⟩
  · rcases hmem y hy with rfl | hy
    · exact h.atRest
    · exact hw.atRest y hy
  · rw [h.drain] at hbegun
    rcases hmem y hy with rfl | hy
    · have hnot := (h.receding hw hbegun).not_underway
      rw [Link.standing_eq] at hnot
      exact Bool.eq_false_iff.2 fun hu => hnot (Link.underway_iff.1 hu).1
    · exact hw.still hbegun y hy
  · by_cases hbegun : w.drain.Begun
    · -- the registry is being closed: it only loses sockets
      have hrec := h.receding hw hbegun
      refine covered_begun hbegun h.drain h.closed hrec.lists ?_
      by_cases hid : id' = id
      · subst hid
        obtain rfl := Option.some.inj (hy.symm.trans h.here)
        rw [Link.standing_eq] at hrec
        obtain ⟨x, hx, hreg⟩ := h.registered c (hrec.registered c hc)
        exact hw.covered id' x c hx hreg
      · exact hw.covered id' y c ((h.others id' hid).symm.trans hy) hc
    · -- the registry is open: the sockets of those registered are in it
      have hst := h.stored hw hbegun
      refine (covered_open (h.drain ▸ hbegun)).2 ?_
      by_cases hid : id' = id
      · subst hid
        obtain rfl := Option.some.inj (hy.symm.trans h.here)
        rw [Link.standing_eq] at hst
        exact hst.own c hc
      · have hold := hw.covered id' y c ((h.others id' hid).symm.trans hy) hc
        exact hst.others id' c hid ((covered_open hbegun).1 hold)
  · rw [h.closed]
    exact hw.sent f (h.drain ▸ hf)

/-- Once `close_all` has been called nobody is registered any more. -/
theorem recedes (h : w.Ran id v x' w') (hw : w.Covers) (hbegun : w.drain.Begun) {id' : ℕ} {y : Link t} {c : String}
    (hy : w'.links[id']? = some y) (hc : y.seat.In c) : ∃ x, w.links[id']? = some x ∧ x.seat.In c := by
  by_cases hid : id' = id
  · subst hid
    obtain rfl := Option.some.inj (hy.symm.trans h.here)
    have hrec := h.receding hw hbegun
    rw [Link.standing_eq] at hrec
    exact h.been c (hrec.been c hc)
  · exact ⟨y, (h.others id' hid).symm.trans hy, hc⟩

end Ran

/-- `close_all` has come to a close or to its end. -/
theorem Covers.closing (h : w.Covers) (hstill : ∀ x ∈ w.links, x.underway = false)
    {r : ConnectionRegistry ℕ × Option (Closing ℕ)}
    (hmeets : ∀ id x c, w.links[id]? = some x → x.seat.Registered c →
      id ∈ w.closed ∨ ∃ f, r.2 = some f ∧ f.Meets r.1 id) : (w.closing r).Covers := by
  obtain ⟨reg, f | f⟩ := r
  · refine ⟨h.atRest, fun _ => hstill, fun id x c hx hc => ?_, nofun⟩
    rcases hmeets id x c hx hc with hclosed | ⟨f, hf, -⟩
    · exact hclosed
    · cases hf
  · refine ⟨h.atRest, fun _ => hstill, fun id x c hx hc => ?_, fun f' hf => ?_⟩
    · rcases hmeets id x c hx hc with hclosed | ⟨f', hf, hmeet⟩
      · exact .inl (List.mem_cons_of_mem _ hclosed)
      · obtain rfl := Option.some.inj hf
        exact .inr hmeet
    · obtain rfl := Drain.closing.inj hf
      exact List.mem_cons_self

/-- **A step keeps the registered sockets covered**, if no handshake is underway when
`close_all` starts. -/
theorem step_covers {e : InstanceEvent} (h : w.Covers) (he : w.Quiet e) : (w.step e).Covers := by
  rcases step_ran h.atRest he.guarded with ⟨id, v, x', hran⟩ | hsame | ⟨hd, hstep⟩ | ⟨rfl, hd, hstep⟩ | ⟨f, hd, hstep⟩
  · exact hran.covers h
  · rw [hsame]
    exact h
  · rw [hstep]
    have hopen : ¬ w.drain.Begun := by rw [hd]; exact id
    exact ⟨h.atRest, fun hbegun => hbegun.elim, fun id x c hx hc => (covered_open hopen).1 (h.covered id x c hx hc), nofun⟩
  · rw [hstep]
    have hopen : ¬ w.drain.Begun := by rw [hd]; exact id
    have hstill : ∀ x ∈ w.links, x.underway = false := by
      intro x hx
      exact Bool.eq_false_iff.2 (List.countP_eq_zero.1 (he hd) x hx)
    refine h.closing hstill fun id x c hx hc => .inr ?_
    have hin := (covered_open hopen).1 (h.covered id x c hx hc)
    -- the conversation is in the snapshot
    cases hget : w.registry.connections.get? c with
    | none =>
      rw [ConnectionRegistry.sockets_of_none hget] at hin
      cases hin
    | some r =>
      rw [ConnectionRegistry.sockets_of_get? hget] at hin
      exact ConnectionRegistry.closeItems_meets (h.connected hx hc) _ _ ⟨(c, r), Dict.mem_of_get? hget, hin⟩
  · rw [hstep]
    have hbegun : w.drain.Begun := by rw [hd]; exact trivial
    refine h.closing (h.still hbegun) fun id x c hx hc => ?_
    have hcov := h.covered id x c hx hc
    unfold Covered at hcov
    rw [hd] at hcov
    rcases hcov with hclosed | hmeets
    · exact .inl hclosed
    · by_cases hws : id = f.ws
      · exact .inl (hws ▸ h.sent f hd)
      · exact .inr (ConnectionRegistry.goOn_meets (h.connected hx hc) hmeets hws)

theorem init_covers : (init : Instance t).Covers := ⟨nofun, nofun, nofun, nofun⟩

/-- Once `close_all` has returned it stays so, and nobody is registered any more. -/
def Recedes (w w' : Instance t) : Prop := w.drain = .closed → w'.drain = .closed ∧
  ∀ (id : ℕ) (y : Link t) (c : String), w'.links[id]? = some y → y.seat.In c →
    ∃ x, w.links[id]? = some x ∧ x.seat.In c

theorem Recedes.refl (w : Instance t) : w.Recedes w := fun hclosed => ⟨hclosed, fun _ y _ hy hc => ⟨y, hy, hc⟩⟩

theorem Recedes.trans {w₁ w₂ w₃ : Instance t} (h : w₁.Recedes w₂) (h' : w₂.Recedes w₃) : w₁.Recedes w₃ := by
  intro hclosed
  obtain ⟨hclosed', hback⟩ := h hclosed
  obtain ⟨hclosed'', hback'⟩ := h' hclosed'
  refine ⟨hclosed'', fun id y c hy hc => ?_⟩
  obtain ⟨x, hx, hin⟩ := hback' id y c hy hc
  exact hback id x c hx hin

theorem step_recedes {e : InstanceEvent} (h : w.Covers) (he : w.Quiet e) : w.Recedes (w.step e) := by
  intro hclosed
  have hbegun : w.drain.Begun := by rw [hclosed]; exact trivial
  rcases step_ran h.atRest he.guarded with ⟨id, v, x', hran⟩ | hsame | ⟨hd, -⟩ | ⟨-, hd, -⟩ | ⟨f, hd, -⟩
  · exact ⟨hran.drain.trans hclosed, fun id' y c hy hc => hran.recedes h hbegun hy hc⟩
  · rw [hsame]
    exact Recedes.refl w hclosed
  · rw [hclosed] at hd
    cases hd
  · rw [hclosed] at hd
    cases hd
  · rw [hclosed] at hd
    cases hd

/-- **Drain misses nobody** in a run in which no handshake is underway when `close_all` starts:
once it has returned, whoever was registered has been removed or sent a close, and no session is
registered or enters its message loop. -/
theorem drain_misses_nobody {es₁ es₂ : List InstanceEvent} (h : Along step Quiet (init : Instance t) (es₁ ++ es₂))
    (hclosed : (after t es₁).drain = .closed) {id : ℕ} {x : Link t}
    (hx : (after t (es₁ ++ es₂)).links[id]? = some x) :
    (∀ c, x.Called (.registryAdd c) →
      (x.Called (.registryRemove c) ∨ id ∈ (after t (es₁ ++ es₂)).closed) ∧
      ∃ x₁, (after t es₁).links[id]? = some x₁ ∧ x₁.Called (.registryAdd c)) ∧
    (x.Entered → ∃ x₁, (after t es₁).links[id]? = some x₁ ∧ x₁.Entered) := by
  obtain ⟨h₁, h₂⟩ := (along_append es₁ es₂).1 h
  have hcovers : (after t es₁).Covers := along_inv (fun _ _ => step_covers) init_covers h₁
  have hcovers' : (after t (es₁ ++ es₂)).Covers := along_inv (fun _ _ => step_covers) init_covers h
  -- after the end of the drain there are only fewer registered
  have hrun : (after t es₁).Recedes (after t (es₁ ++ es₂)) := by
    have happend : after t (es₁ ++ es₂) = run step (after t es₁) es₂ := run_append es₁ es₂
    rw [happend]
    exact along_rel Recedes.refl (fun _ _ _ => Recedes.trans) (fun _ _ => step_covers)
      (fun _ _ => step_recedes) hcovers h₂
  obtain ⟨hclosed', hback⟩ := hrun hclosed
  have hrest := hcovers'.atRest x (List.mem_of_getElem? hx)
  -- so who is registered, or has been, was so when the drain ended
  have hbefore : ∀ c, x.seat.In c → ∃ x₁, (after t es₁).links[id]? = some x₁ ∧ x₁.AtRest ∧ x₁.seat.In c := by
    intro c hc
    obtain ⟨x₁, hx₁, hin⟩ := hback id x c hx hc
    exact ⟨x₁, hx₁, hcovers.atRest x₁ (List.mem_of_getElem? hx₁), hin⟩
  refine ⟨fun c hadd => ⟨?_, ?_⟩, fun hentered => ?_⟩
  · rcases hrest.registered_iff.1 hadd with hreg | hleft
    · have hcov := hcovers'.covered id x c hx hreg
      unfold Covered at hcov
      rw [hclosed'] at hcov
      exact .inr hcov
    · exact .inl (hrest.removed_iff.2 hleft)
  · obtain ⟨x₁, hx₁, hrest₁, hin⟩ := hbefore c (hrest.registered_iff.1 hadd)
    exact ⟨x₁, hx₁, hrest₁.registered_iff.2 hin⟩
  · obtain ⟨c, hc⟩ := hrest.entered_iff.1 hentered
    obtain ⟨x₁, hx₁, hrest₁, hin⟩ := hbefore c hc
    exact ⟨x₁, hx₁, hrest₁.entered_iff.2 ⟨c, hin⟩⟩

/-! ## Two drains -/

section

open Sample

def unguarded : Transport := { Sample.transport with authEnabled := false, ownershipGuard := false }

/-- A handshake for `c1`. -/
def caller : InstanceEvent := .connect (scope wsPath "" "conversationId=c1") 1 (answer "t")

/-- A session is registered, and `close_all` closes it. -/
def drained : List InstanceEvent := [caller, .proceed 0 (answer "t"), .signal, .closeAll, .goOn]

/-- The handshake waits in its accept while the registry is drained. -/
def latecomer : List InstanceEvent := [caller, .signal, .closeAll]

theorem caller_guarded : caller.Guarded := fun _ _ => by decide +kernel

/-- The session that was closed goes on afterwards. -/
theorem session_closed : (after unguarded drained).drain = .closed ∧
    ∃ x, (after unguarded (drained ++ [.proceed 0 (answer "t")])).links[0]? = some x ∧ x.seat = .here "c1" true ∧
      ((∀ c, x.Called (.registryAdd c) →
        (x.Called (.registryRemove c) ∨ 0 ∈ (after unguarded (drained ++ [.proceed 0 (answer "t")])).closed) ∧
        ∃ x₁, (after unguarded drained).links[0]? = some x₁ ∧ x₁.Called (.registryAdd c)) ∧
      (x.Entered → ∃ x₁, (after unguarded drained).links[0]? = some x₁ ∧ x₁.Entered)) := by
  have hclosed : (after unguarded drained).drain = .closed := by decide +kernel
  have hquiet : Along step Quiet (init : Instance unguarded) (drained ++ [.proceed 0 (answer "t")]) :=
    ⟨caller_guarded, trivial, trivial, fun _ => by decide +kernel, trivial, trivial, trivial⟩
  have hseat : ((after unguarded (drained ++ [.proceed 0 (answer "t")])).links[0]?).map Link.seat =
      some (.here "c1" true) := by
    decide +kernel
  obtain ⟨x, hx, hs⟩ := Option.map_eq_some_iff.1 hseat
  exact ⟨hclosed, x, hx, hs, drain_misses_nobody hquiet hclosed hx⟩

/-- **A handshake that waits for its accept is missed**: it registers and enters its message loop
after `close_all` has returned, and is not sent a close. -/
theorem drain_misses : (after unguarded latecomer).drain = .closed ∧
    (∀ x₁, (after unguarded latecomer).links[0]? = some x₁ → ∀ c, ¬ x₁.Called (.registryAdd c)) ∧
    ∃ x, (after unguarded (latecomer ++ [.proceed 0 (answer "t")])).links[0]? = some x ∧
      x.Called (.registryAdd "c1") ∧ x.Entered ∧ ¬ x.Called (.registryRemove "c1") ∧
      0 ∉ (after unguarded (latecomer ++ [.proceed 0 (answer "t")])).closed := by
  have hrest : ∀ es, Along step (fun _ e => e.Guarded) (init : Instance unguarded) es → (after unguarded es).AtRest :=
    fun es h => along_inv (I := AtRest) (fun _ _ => step_atRest) nofun h
  have hbefore := hrest latecomer ⟨caller_guarded, trivial, trivial, trivial⟩
  have hguarded : Along step (fun _ e => e.Guarded) (init : Instance unguarded)
      (latecomer ++ [.proceed 0 (answer "t")]) :=
    ⟨caller_guarded, trivial, trivial, trivial, trivial⟩
  have hafter := hrest _ hguarded
  have hseat₁ : ((after unguarded latecomer).links[0]?).map Link.seat = some .underway := by decide +kernel
  have hseat : ((after unguarded (latecomer ++ [.proceed 0 (answer "t")])).links[0]?).map Link.seat =
      some (.here "c1" false) := by
    decide +kernel
  refine ⟨by decide +kernel, fun x₁ hx₁ c hadd => ?_, ?_⟩
  · rw [hx₁] at hseat₁
    have hin := (hbefore x₁ (List.mem_of_getElem? hx₁)).registered_iff.1 hadd
    rw [Option.some.inj hseat₁] at hin
    rcases hin with ⟨_, hs⟩ | hs <;> cases hs
  · obtain ⟨x, hx, hs⟩ := Option.map_eq_some_iff.1 hseat
    have hx' := hafter x (List.mem_of_getElem? hx)
    have hin : x.seat.In "c1" := .inl ⟨false, hs⟩
    refine ⟨x, hx, hx'.registered_iff.2 hin, hx'.entered_iff.2 ⟨"c1", hin⟩, fun hremoved => ?_, by decide +kernel⟩
    have hleft := hx'.removed_iff.1 hremoved
    rw [hs] at hleft
    cases hleft

end

end Instance

end Transcribe
