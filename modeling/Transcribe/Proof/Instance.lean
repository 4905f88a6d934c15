import Mathlib.Logic.Relation
import Transcribe.Proof.Registry
import Transcribe.Proof.Seats

/-!
# The sections of an instance

* `Beat`: what a call that does not suspend does to the place of its connection and to the
  registry. `settle_beats`: a section is a run of beats.
* `Link.AtRest`: what holds of a connection wherever it waits. Its client is connected if it is
  registered, and it is then in its message loop.
* `registered_iff`, `removed_iff`, `entered_iff`: what a connection has been through, by its place.
* `step_stepped`: what an event does to an instance whose connections are at rest.
-/

namespace Transcribe

open Resumption EventSystem Relation

variable {t : Transport} {x : Link t} {w : Instance t} {s : Seat} {b : Bool} {c : String} {i : ConnCall}

/-! ## Calls that suspend -/

def ConnCall.Suspends : ConnCall → Prop
  | .authenticate _ | .draining | .activeCount | .uuid4 | .registryAdd _ | .registryRemove _
  | .spawnRefresh .. | .clientConnected | .utcNow => False
  | _ => True

theorem serve_none {drain : Drain} {id : ℕ} {connected : Bool} {answer : (i : ConnCall) → ConnReply i}
    {registry : ConnectionRegistry ℕ} (h : Instance.serve drain id connected answer registry i = none) :
    i.Suspends := by
  cases i <;> first | exact trivial | cases h

namespace Seat

/-- The connection is registered for the conversation. -/
def Registered (s : Seat) (c : String) : Prop := ∃ inLoop, s = .here c inLoop

/-- The connection has been registered for the conversation. -/
def In (s : Seat) (c : String) : Prop := s.Registered c ∨ s = .left c

end Seat

/-- **An await answered**: the checks are over, and nobody is registered or removed by it. -/
theorem Seat.Allows.awaited (h : s.Allows b i) (hi : i.Suspends) (r : ConnReply i) :
    s.next t i r ≠ .arriving ∧ s.next t i r ≠ .admitted ∧
    (s.next t i r = .underway → s = .underway ∧ ∀ code, i ≠ .closeUnaccepted code) ∧
    ∀ c, ((s.next t i r).Registered c ↔ s.Registered c) ∧ (s.next t i r = .left c ↔ s = .left c) := by
  -- most calls that suspend leave the seat as it is
  have hwaits : s.Waits b → s ≠ .arriving ∧ s ≠ .admitted ∧
      ∀ c, (s.Registered c ↔ s.Registered c) ∧ (s = .left c ↔ s = .left c) :=
    fun h => ⟨h.1, h.2.1, fun _ => ⟨Iff.rfl, Iff.rfl⟩⟩
  cases i with
  | guard g =>
    cases g with
    | claimOrRefresh c' u =>
      obtain rfl : s = .underway := h
      obtain ⟨_ | _ | _, _ | _⟩ := r <;> simp [Seat.next, Seat.Registered]
    | release c' u => simpa [Seat.next] using hwaits h
  | receive => rcases (h : s = .arriving ∨ s = .refused) with rfl | rfl <;> simp [Seat.next, Seat.Registered]
  | closeUnaccepted code =>
    rcases (h : s = .arriving ∨ s = .underway) with rfl | rfl <;> simp [Seat.next, Seat.Registered]
  | accept =>
    obtain rfl : s = .underway := h
    cases r <;> simp [Seat.next, Seat.Registered]
  | receiveText =>
    obtain ⟨c', l, rfl, -⟩ := h
    simp [Seat.next, Seat.Registered]
  | hangup =>
    obtain ⟨c', l, rfl, -⟩ := h
    simp [Seat.next, Seat.Registered]
  | denialStart status headers => simpa [Seat.next] using hwaits h
  | denialBody body => simpa [Seat.next] using hwaits h
  | joinRefresh => simpa [Seat.next] using hwaits h
  | handleMessage raw c' => simpa [Seat.next] using hwaits h
  | sendText frame => simpa [Seat.next] using hwaits h
  | close code => simpa [Seat.next] using hwaits h
  | sleep => simpa [Seat.next] using hwaits h
  | _ => exact hi.elim

/-- Where a call that suspends is allowed. -/
theorem Seat.Allows.suspended (h : s.Allows b i) (hi : i.Suspends) :
    s ≠ .admitted ∧ ∀ c inLoop, s = .here c inLoop → b = true ∧ (inLoop = true ∨ i = .receiveText ∨ i = .hangup) := by
  have hwaits : s.Waits b → s ≠ .admitted ∧ ∀ c inLoop, s = .here c inLoop →
      b = true ∧ (inLoop = true ∨ i = .receiveText ∨ i = .hangup) :=
    fun h => ⟨h.2.1, fun c l hs => ⟨(h.2.2 c l hs).1, .inl (h.2.2 c l hs).2⟩⟩
  cases i with
  | guard g =>
    cases g with
    | claimOrRefresh c' u =>
      obtain rfl : s = .underway := h
      exact ⟨nofun, nofun⟩
    | release c' u => exact hwaits h
  | receive => rcases (h : s = .arriving ∨ s = .refused) with rfl | rfl <;> exact ⟨nofun, nofun⟩
  | closeUnaccepted code => rcases (h : s = .arriving ∨ s = .underway) with rfl | rfl <;> exact ⟨nofun, nofun⟩
  | accept =>
    obtain rfl : s = .underway := h
    exact ⟨nofun, nofun⟩
  | receiveText =>
    obtain ⟨c', l, rfl, hb⟩ := h
    exact ⟨nofun, fun _ _ _ => ⟨hb, .inr (.inl rfl)⟩⟩
  | hangup =>
    obtain ⟨c', l, rfl, hb⟩ := h
    exact ⟨nofun, fun _ _ _ => ⟨hb, .inr (.inr rfl)⟩⟩
  | _ => first | exact hi.elim | exact hwaits h

/-! ## What a call brings about -/

/-- A call registers the connection iff it is `registryAdd`. -/
theorem Seat.Allows.in_next (h : s.Allows b i) (r : ConnReply i) :
    (s.next t i r).In c ↔ s.In c ∨ i = .registryAdd c := by
  unfold Seat.In
  -- a call that suspends changes nothing, of the others only `registryAdd` does
  by_cases hi : i.Suspends
  · obtain ⟨-, -, -, hkeep⟩ := h.awaited (t := t) hi r
    have hne : i ≠ .registryAdd c := by
      rintro rfl
      exact hi
    rw [(hkeep c).1, (hkeep c).2, or_iff_left hne]
  · cases i with
    | draining =>
      obtain rfl : s = .arriving := h
      cases r with
      | true => simp [Seat.next, Seat.Registered]
      | false =>
        simp only [Seat.next]
        split <;> simp [Seat.Registered]
    | activeCount =>
      obtain rfl : s = .admitted := h
      simp only [Seat.next]
      split <;> simp [Seat.Registered]
    | registryAdd c' =>
      obtain ⟨rfl, -⟩ := h
      simp [Seat.next, Seat.Registered]
    | registryRemove c' =>
      obtain rfl : s = .here c' true := h
      simp [Seat.next, Seat.Registered]
    | authenticate header => simp [Seat.next]
    | uuid4 => simp [Seat.next]
    | spawnRefresh c' u => simp [Seat.next]
    | clientConnected => simp [Seat.next]
    | utcNow => simp [Seat.next]
    | _ => exact absurd trivial hi

/-- A call removes the connection iff it is `registryRemove`. -/
theorem Seat.Allows.left_next (h : s.Allows b i) (r : ConnReply i) :
    s.next t i r = .left c ↔ s = .left c ∨ i = .registryRemove c := by
  -- likewise with `registryRemove`
  by_cases hi : i.Suspends
  · obtain ⟨-, -, -, hkeep⟩ := h.awaited (t := t) hi r
    have hne : i ≠ .registryRemove c := by
      rintro rfl
      exact hi
    rw [(hkeep c).2, or_iff_left hne]
  · cases i with
    | draining =>
      obtain rfl : s = .arriving := h
      cases r with
      | true => simp [Seat.next]
      | false =>
        simp only [Seat.next]
        split <;> simp
    | activeCount =>
      obtain rfl : s = .admitted := h
      simp only [Seat.next]
      split <;> simp
    | registryAdd c' =>
      obtain ⟨rfl, -⟩ := h
      simp [Seat.next]
    | registryRemove c' =>
      obtain rfl : s = .here c' true := h
      simp [Seat.next]
    | authenticate header => simp [Seat.next]
    | uuid4 => simp [Seat.next]
    | spawnRefresh c' u => simp [Seat.next]
    | clientConnected => simp [Seat.next]
    | utcNow => simp [Seat.next]
    | _ => exact absurd trivial hi

/-- The session has entered its message loop. -/
def Seat.Looped (s : Seat) : Prop := ∃ c, s = .here c true ∨ s = .left c

/-- A call brings the session into its message loop iff it asks for a message. -/
theorem Seat.Allows.looped_next (h : s.Allows b i) (r : ConnReply i) :
    (s.next t i r).Looped ↔ s.Looped ∨ (i = .receiveText ∨ i = .hangup) := by
  unfold Seat.Looped
  cases i with
  | draining =>
    obtain rfl : s = .arriving := h
    cases r with
    | true => simp [Seat.next]
    | false =>
      simp only [Seat.next]
      split <;> simp
  | activeCount =>
    obtain rfl : s = .admitted := h
    simp only [Seat.next]
    split <;> simp
  | registryAdd c' =>
    obtain ⟨rfl, -⟩ := h
    simp [Seat.next]
  | registryRemove c' =>
    obtain rfl : s = .here c' true := h
    simp [Seat.next]
  | guard g =>
    cases g with
    | claimOrRefresh c' u =>
      obtain rfl : s = .underway := h
      obtain ⟨_ | _ | _, _ | _⟩ := r <;> simp [Seat.next]
    | release c' u => simp [Seat.next]
  | receive => rcases (h : s = .arriving ∨ s = .refused) with rfl | rfl <;> simp [Seat.next]
  | closeUnaccepted code => rcases (h : s = .arriving ∨ s = .underway) with rfl | rfl <;> simp [Seat.next]
  | accept =>
    obtain rfl : s = .underway := h
    cases r <;> simp [Seat.next]
  | receiveText =>
    obtain ⟨c', l, rfl, -⟩ := h
    simp [Seat.next]
  | hangup =>
    obtain ⟨c', l, rfl, -⟩ := h
    simp [Seat.next]
  | _ => simp [Seat.next]

/-! ## Standing -/

namespace Link

/-- The place of the connection and whether its client is connected. -/
def standing (x : Link t) : Seat × Bool := x.thread.state (sitting t) (.arriving, false)

theorem sitting_after (s : Seat) (b : Bool) (τ : List (Σ i, ConnReply i)) : (sitting t).after (s, b) τ =
    ((seating t).after s τ, clientWatch.after b τ) := by
  induction τ generalizing s b with
  | nil => rfl
  | cons e τ ih => exact ih _ _

theorem standing_eq (x : Link t) : x.standing = (x.seat, x.connected) := sitting_after _ _ _

theorem sits (x : Link t) (h : x.scope.Guarded) :
    (sitting t).Sat (t.wsGuardMiddleware x.scope x.frames).run (.arriving, false) fun z _ => z.1.Ended :=
  wsGuardMiddleware_sits t h x.frames

/-- A connection that waits, or has returned. -/
structure AtRest (x : Link t) : Prop where
  guarded : x.scope.Guarded
  waits : ∀ i, x.pending = some i → i.Suspends ∧ x.seat.Allows x.connected i
  ended : x.pending = none → x.seat.Ended

/-- **A registered socket is connected wherever its session waits**, which is in its message
loop. -/
theorem AtRest.here {inLoop : Bool} (h : x.AtRest) (hs : x.seat = .here c inLoop) :
    x.connected = true ∧ (inLoop = true ∨ x.pending = some .receiveText ∨ x.pending = some .hangup) := by
  cases hp : x.pending with
  | none => rcases h.ended hp with h | h | ⟨c, h⟩ <;> rw [h] at hs <;> cases hs
  | some i =>
    obtain ⟨hb, hl⟩ := ((h.waits i hp).2.suspended (h.waits i hp).1).2 c inLoop hs
    exact ⟨hb, hl.imp_right (Or.imp (congrArg some) (congrArg some))⟩

/-- What a connection has been through, read off its trace. -/
theorem AtRest.called {P : Seat → Prop} {K : ConnCall → Prop}
    (hP : ∀ s b i r, Seat.Allows s b i → (P (s.next t i r) ↔ P s ∨ K i)) (hstart : ¬ P .arriving)
    (h : x.AtRest) : P x.seat ↔ ∃ e ∈ x.thread.trace, K e.1 := by
  have hmem : P x.standing.1 ↔ P .arriving ∨ ∃ e ∈ x.thread.trace, K e.1 :=
    (x.sits h.guarded).iff_mem (P := fun z => P z.1) (fun z i r hok => hP z.1 z.2 i r hok) x.thread.ok
  rw [standing_eq, or_iff_right hstart] at hmem
  exact hmem

theorem called_of_mem {e : Σ i, ConnReply i} (he : e ∈ x.thread.trace) : x.Called e.1 := .inl ⟨e.2, he⟩

/-- **A connection has been registered iff it is registered or has been removed.** -/
theorem AtRest.registered_iff (h : x.AtRest) : x.Called (.registryAdd c) ↔ x.seat.In c := by
  have hstart : ¬ Seat.arriving.In c := by simp [Seat.In, Seat.Registered]
  have hin := h.called (P := (·.In c)) (K := (· = .registryAdd c)) (fun _ _ _ r hok => hok.in_next r) hstart
  rw [hin]
  constructor
  · rintro (⟨r, hr⟩ | hp)
    · exact ⟨_, hr, rfl⟩
    · exact (h.waits _ hp).1.elim
  · rintro ⟨e, he, hcall⟩
    exact hcall ▸ called_of_mem he

theorem AtRest.removed_iff (h : x.AtRest) : x.Called (.registryRemove c) ↔ x.seat = .left c := by
  have hleft := h.called (P := (· = .left c)) (K := (· = .registryRemove c))
    (fun _ _ _ r hok => hok.left_next r) nofun
  rw [hleft]
  constructor
  · rintro (⟨r, hr⟩ | hp)
    · exact ⟨_, hr, rfl⟩
    · exact (h.waits _ hp).1.elim
  · rintro ⟨e, he, hcall⟩
    exact hcall ▸ called_of_mem he

/-- **A session has entered its message loop iff it has been registered.** -/
theorem AtRest.entered_iff (h : x.AtRest) : x.Entered ↔ ∃ c, x.seat.In c := by
  have hstart : ¬ Seat.arriving.Looped := by simp [Seat.Looped]
  -- a call of the loop has been made iff the seat has been in the loop, by induction on the trace
  have hlooped := h.called (P := Seat.Looped) (K := fun i => i = .receiveText ∨ i = .hangup)
    (fun _ _ _ r hok => hok.looped_next r) hstart
  have hin : x.seat.Looped → ∃ c, x.seat.In c := by
    rintro ⟨c, hs | hs⟩
    · exact ⟨c, .inl ⟨true, hs⟩⟩
    · exact ⟨c, .inr hs⟩
  have hpending : ∀ i, i = .receiveText ∨ i = .hangup → x.pending = some i → ∃ c, x.seat.In c := by
    rintro i (rfl | rfl) hp
    · obtain ⟨c, l, hs, -⟩ := (h.waits _ hp).2
      exact ⟨c, .inl ⟨l, hs⟩⟩
    · obtain ⟨c, l, hs, -⟩ := (h.waits _ hp).2
      exact ⟨c, .inl ⟨l, hs⟩⟩
  constructor
  · rintro ((⟨r, hr⟩ | hp) | ⟨r, hr⟩ | hp)
    · exact hin (hlooped.2 ⟨_, hr, .inl rfl⟩)
    · exact hpending _ (.inl rfl) hp
    · exact hin (hlooped.2 ⟨_, hr, .inr rfl⟩)
    · exact hpending _ (.inr rfl) hp
  · have hcalled : x.seat.Looped → x.Entered := by
      intro hl
      obtain ⟨e, he, hcall⟩ := hlooped.1 hl
      have hmade := called_of_mem he
      rcases hcall with hcall | hcall
      · exact .inl (hcall ▸ hmade)
      · exact .inr (hcall ▸ hmade)
    rintro ⟨c, ⟨l, hs⟩ | hs⟩
    · rcases (h.here hs).2 with rfl | hp | hp
      · exact hcalled ⟨c, .inl hs⟩
      · exact .inl (.inr hp)
      · exact .inr (.inr hp)
    · exact hcalled ⟨c, .inr hs⟩

theorem underway_iff : x.underway = true ↔ x.seat = .underway ∧ ∀ code, x.pending ≠ some (.closeUnaccepted code) := by
  unfold Link.underway
  split
  · next code hp =>
    rw [hp]
    simp
  · next hne => simpa using fun _ code hp => hne code hp

/-- The connection with its await answered. -/
def answered (x : Link t) (answer : (i : ConnCall) → ConnReply i) : Link t :=
  { x with thread := x.thread.advance answer }

theorem AtRest.answered (h : x.AtRest) (hp : x.pending = some i) (answer : (i : ConnCall) → ConnReply i) :
    (x.answered answer).seat ≠ .arriving ∧ (x.answered answer).seat ≠ .admitted ∧
    ((x.answered answer).seat = .underway → x.underway = true) ∧
    ∀ c, ((x.answered answer).seat.Registered c ↔ x.seat.Registered c) ∧
      ((x.answered answer).seat = .left c ↔ x.seat = .left c) := by
  have hseat : (x.answered answer).seat = x.seat.next t i (answer i) := Thread.state_advance hp
  obtain ⟨hsusp, hallows⟩ := h.waits i hp
  obtain ⟨hne, hne', hunderway, hkeep⟩ := hallows.awaited (t := t) hsusp (answer i)
  rw [hseat]
  refine ⟨hne, hne', fun hs => ?_, hkeep⟩
  obtain ⟨hs', hcode⟩ := hunderway hs
  refine underway_iff.2 ⟨hs', fun code hp' => ?_⟩
  rw [hp] at hp'
  exact hcode code (Option.some.inj hp')

end Link

/-! ## Beats -/

/-- The place of a connection and its client, and the registry. -/
abbrev Scene : Type := (Seat × Bool) × ConnectionRegistry ℕ

/-- What a call of connection `id` that does not suspend does, if it does anything. -/
inductive Beat (t : Transport) (draining : Bool) (id : ℕ) : Scene → Scene → Prop
  | turnedAway {b reg} (h : draining = true) : Beat t draining id ((.arriving, b), reg) ((.refused, b), reg)
  | unlimited {b reg} (h : draining = false) (hl : t.maxConnections = 0) :
    Beat t draining id ((.arriving, b), reg) ((.underway, b), reg)
  | admitted {b reg} (h : draining = false) (hl : 0 < t.maxConnections) :
    Beat t draining id ((.arriving, b), reg) ((.admitted, b), reg)
  | full {b reg} (h : t.maxConnections ≤ reg.activeCount.toNat) :
    Beat t draining id ((.admitted, b), reg) ((.refused, b), reg)
  | room {b reg} (h : reg.activeCount.toNat < t.maxConnections) :
    Beat t draining id ((.admitted, b), reg) ((.underway, b), reg)
  | add {c reg} : Beat t draining id ((.underway, true), reg) ((.here c false, true), reg.add c id)
  | remove {c b reg} : Beat t draining id ((.here c true, b), reg) ((.left c, b), reg.remove c (some id))

theorem serve_beats {drain : Drain} {id : ℕ} {connected : Bool} {answer : (i : ConnCall) → ConnReply i}
    {z : Seat × Bool} {reg reg' : ConnectionRegistry ℕ} {r : ConnReply i} (hok : z.1.Allows z.2 i)
    (h : Instance.serve drain id connected answer reg i = some (reg', r)) :
    ReflTransGen (Beat t drain.isDraining id) (z, reg) ((z.1.next t i r, clientNext z.2 i r), reg') := by
  obtain ⟨s, b⟩ := z
  -- the calls that are served at once: a beat each, or none
  cases i with
  | draining =>
    obtain rfl : s = .arriving := hok
    cases h
    cases hd : drain.isDraining with
    | true => exact .single (.turnedAway rfl)
    | false =>
      show ReflTransGen _ _ ((if t.maxConnections = 0 then Seat.underway else .admitted, b), reg)
      split
      · next hl => exact .single (.unlimited rfl hl)
      · next hl => exact .single (.admitted rfl (by omega))
  | activeCount =>
    obtain rfl : s = .admitted := hok
    cases h
    show ReflTransGen _ _ ((if reg.activeCount.toNat < t.maxConnections then Seat.underway else .refused, b), reg)
    split
    · next hroom => exact .single (.room hroom)
    · next hfull => exact .single (.full (by omega))
  | registryAdd c =>
    obtain ⟨rfl, rfl⟩ : s = .underway ∧ b = true := hok
    cases h
    exact .single .add
  | registryRemove c =>
    obtain rfl : s = .here c true := hok
    cases h
    exact .single .remove
  | authenticate header => cases h; exact .refl
  | uuid4 => cases h; exact .refl
  | spawnRefresh c u => cases h; exact .refl
  | clientConnected => cases h; exact .refl
  | utcNow => cases h; exact .refl
  | _ => cases h

/-! ## Sections -/

section

variable {id : ℕ} {answer : (i : ConnCall) → ConnReply i}

/-- **A section is a run of beats**, and ends where the connection waits or has returned. -/
theorem settle_beats (h : x.scope.Guarded) :
    ReflTransGen (Beat t w.drain.isDraining id) (x.standing, w.registry)
      ((w.settle id answer x).2.standing, (w.settle id answer x).1) ∧ (w.settle id answer x).2.AtRest := by
  have hinv : ∀ z reg i reg' r, ReflTransGen (Beat t w.drain.isDraining id) (x.standing, w.registry) (z, reg) →
      (sitting t).ok z i → Instance.serve w.drain id x.connected answer reg i = some (reg', r) →
      ReflTransGen (Beat t w.drain.isDraining id) (x.standing, w.registry) ((sitting t).next z i r, reg') :=
    fun z reg i reg' r hbeats hok hserve => hbeats.trans (serve_beats hok hserve)
  have hsits := (w.settle id answer x).2.sits h
  have hstanding := (w.settle id answer x).2.standing_eq
  refine ⟨(Thread.settle_inv (x.sits h) hinv .refl : _), h, fun i hp => ⟨?_, ?_⟩, fun hp => ?_⟩
  · exact serve_none (x.thread.serve_settle hp)
  · have hok : ((w.settle id answer x).2.standing).1.Allows ((w.settle id answer x).2.standing).2 i :=
      (w.settle id answer x).2.thread.ok_of_pending hsits hp
    rwa [hstanding] at hok
  · obtain ⟨a, ha⟩ := Prog.result_of_pending hp
    have hended : ((w.settle id answer x).2.standing).1.Ended :=
      (w.settle id answer x).2.thread.post_of_result hsits ha
    rwa [hstanding] at hended

end

/-! ## Steps -/

/-- The guard takes a new scope for the session route if the router does. -/
def InstanceEvent.Guarded : InstanceEvent → Prop
  | .connect scope _ _ => scope.Guarded
  | _ => True

/-- What an event does to an instance whose connections are at rest. -/
inductive Stepped (w : Instance t) : InstanceEvent → Instance t → Prop
  | idle {e} : Stepped w e w
  | arrived {scope frames answer reg'} {x' : Link t}
    (hbeats : ReflTransGen (Beat t w.drain.isDraining w.links.length) ((.arriving, false), w.registry)
      (x'.standing, reg')) (hrest : x'.AtRest) :
    Stepped w (.connect scope frames answer) { w with registry := reg', links := w.links ++ [x'] }
  | moved {id answer reg' i} {x x' : Link t} (hx : w.links[id]? = some x) (hp : x.pending = some i)
    (hbeats : ReflTransGen (Beat t w.drain.isDraining id) ((x.answered answer).standing, w.registry)
      (x'.standing, reg')) (hrest : x'.AtRest) :
    Stepped w (.proceed id answer) { w with registry := reg', links := w.links.set id x' }
  | signalled (h : w.drain = .serving) : Stepped w .signal { w with drain := .draining }
  | began (h : w.drain = .draining) : Stepped w .closeAll (w.closing (w.registry.closeAll w.connected))
  | wentOn {f} (h : w.drain = .closing f) : Stepped w .goOn (w.closing (w.registry.goOn w.connected f))

namespace Instance

/-- Every connection waits or has returned. -/
def AtRest (w : Instance t) : Prop := ∀ x ∈ w.links, x.AtRest

/-- A connection that has returned stays as it is. -/
theorem step_returned {id : ℕ} {answer : (i : ConnCall) → ConnReply i} (hx : w.links[id]? = some x)
    (hp : x.pending = none) : w.step (.proceed id answer) = w := by
  obtain ⟨scope, frames, trace, rest, ok⟩ := x
  cases rest with
  | call i k => cases hp
  | ret a =>
    have hsame : w.settle id answer ⟨scope, frames, Thread.advance ⟨trace, .ret a, ok⟩ answer⟩ =
        (w.registry, ⟨scope, frames, trace, .ret a, ok⟩) := by
      simp [settle, Thread.settle, Thread.advance, Prog.settle, Prog.emit, Prog.resume]
    obtain ⟨hlt, hget⟩ := List.getElem?_eq_some_iff.1 hx
    simp only [step, hx, hsame]
    rw [← hget, List.set_getElem_self]

/-- **What a step does.** -/
theorem step_stepped {e : InstanceEvent} (h : w.AtRest) (he : e.Guarded) : Stepped w e (w.step e) := by
  cases e with
  | connect scope frames answer =>
    obtain ⟨hbeats, hrest⟩ := @settle_beats t (.start scope frames) w w.links.length answer he
    exact .arrived hbeats hrest
  | proceed id answer =>
    cases hx : w.links[id]? with
    | none =>
      have hstep : w.step (.proceed id answer) = w := by simp only [step, hx]
      rw [hstep]
      exact .idle
    | some x =>
      have hguarded := (h x (List.mem_of_getElem? hx)).guarded
      cases hp : x.pending with
      | none =>
        rw [step_returned hx hp]
        exact .idle
      | some i =>
        have hstep : w.step (.proceed id answer) =
            { w with
              registry := (w.settle id answer (x.answered answer)).1
              links := w.links.set id (w.settle id answer (x.answered answer)).2 } := by
          simp only [step, hx]
          rfl
        obtain ⟨hbeats, hrest⟩ := @settle_beats t (x.answered answer) w id answer hguarded
        rw [hstep]
        exact .moved hx hp hbeats hrest
  | signal =>
    cases hd : w.drain with
    | serving =>
      simp only [step, hd]
      exact .signalled hd
    | _ =>
      simp only [step, hd]
      exact .idle
  | closeAll =>
    cases hd : w.drain with
    | draining =>
      simp only [step, hd]
      exact .began hd
    | _ =>
      simp only [step, hd]
      exact .idle
  | goOn =>
    cases hd : w.drain with
    | closing f =>
      simp only [step, hd]
      exact .wentOn hd
    | _ =>
      simp only [step, hd]
      exact .idle

theorem step_atRest {e : InstanceEvent} (h : w.AtRest) (he : e.Guarded) : (w.step e).AtRest := by
  have hstepped := step_stepped h he
  generalize w.step e = w' at hstepped
  cases hstepped with
  | arrived _ hrest =>
    intro x hx
    rcases List.mem_append.1 hx with hx | hx
    · exact h x hx
    · exact List.mem_singleton.1 hx ▸ hrest
  | moved _ _ _ hrest =>
    intro x hx
    rcases List.mem_or_eq_of_mem_set hx with hx | rfl
    · exact h x hx
    · exact hrest
  | _ => exact h

end Instance

end Transcribe
