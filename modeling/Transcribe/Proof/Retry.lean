import Transcribe.Model.Sample
import Transcribe.Proof.Healthy
import Transcribe.Proof.Ordered

/-!
# A conforming client is never wedged

The client composed with the service, over every run: replies lost, handlers cut off,
backend calls failing with or without effect.

* `Tracks`: the invariant between the client's index, the counter and the handlers.
* `never_wedged`: in every reachable state the counter is the index or one more, no
  pre-check has answered OUT_OF_ORDER, a healthy submission gets its ACK, and the log
  without repetitions is the client's messages.
-/

namespace Transcribe

open Resumption EventSystem CountingLog

variable {d : Deps} {c : Client d}

/-! ## Handlers that nothing fails -/

/-- The call returned. -/
def Returned : (Σ c : Call, Reply c) → Prop
  | ⟨.utcNow, _⟩ => True
  | ⟨.prepare .., r⟩ => ∃ o, r = Except.ok o
  | ⟨.send .., r⟩ | ⟨.commit .., r⟩ | ⟨.cleanup _, r⟩ => r = Except.ok ()

theorem next_returned {s : Stage} {call : Call} {r : Reply call} (hr : Returned ⟨call, r⟩)
    (hs : ∀ p, s = .failed p → p = .sequenceOutOfOrder) (p : ProtocolErrorScenario)
    (h : s.next call r = .failed p) : p = .sequenceOutOfOrder := by
  cases call with
  | utcNow => exact hs p h
  | cleanup cid => exact hs p h
  | prepare cid seq =>
    obtain ⟨⟨status, expected⟩, rfl⟩ := hr
    cases status <;> simp [Stage.next] at h
    exact h.symm
  | send cid payload => obtain rfl : r = _ := hr; simp [Stage.next] at h
  | commit cid seq => obtain rfl : r = _ := hr; simp [Stage.next] at h

namespace Handler

/-- No call of the handler has raised. -/
def Untroubled (h : Handler d) : Prop := ∀ x ∈ h.thread.trace, Returned x

/-- Only an OUT_OF_ORDER answer fails a handler whose calls return. -/
theorem Untroubled.stage {h : Handler d} (hu : h.Untroubled) {p : ProtocolErrorScenario}
    (hs : h.stage = .failed p) : p = .sequenceOutOfOrder := by
  have key : ∀ (τ : List (Σ c : Call, Reply c)) (s : Stage), (∀ x ∈ τ, Returned x) →
      (∀ p, s = .failed p → p = .sequenceOutOfOrder) →
      ∀ p, (protocol h.message?).after s τ = .failed p → p = .sequenceOutOfOrder := by
    intro τ
    induction τ with
    | nil => intro s _ hs p hp; exact hs p hp
    | cons x τ ih =>
      intro s hτ hs p hp
      refine ih _ (fun y hy => hτ y (List.mem_cons_of_mem _ hy)) ?_ p hp
      exact next_returned (hτ x List.mem_cons_self) hs
  exact key _ _ hu (by simp) p hs

end Handler

/-- A number that is not ahead of the expected one is not rejected. -/
theorem Moves.accepted {sm : RedisSequenceStateMachine} {m : InboundMessage} {b b' : Backend}
    {s s' : Stage} (h : Moves sm m b s s' b') (hne : s ≠ .failed .sequenceOutOfOrder)
    (hle : tonumber m.sequenceNumber ≤ b.stored sm m.conversationId) :
    s' ≠ .failed .sequenceOutOfOrder := by
  cases h with
  | reject hlt => exact absurd hle (not_le.2 hlt)
  | sendRaised t hs => rcases hs with rfl | rfl <;> simp
  | _ => simp

/-! ## The invariant -/

namespace Client

theorem message?_submission (c : Client d) (i : ℕ) : d.message? (c.submission i) = some (c.msgs i) := by
  simp [Deps.message?, submission, c.valid, Except.toOption]

/-- What the client takes for an ACK acknowledges its message. -/
theorem acks_of_isAck {i : ℕ} {a : Option OrchestratorResult} (h : c.isAck i a = true) :
    ∃ r, a = some r ∧ r.response.Acks c.conversationId i := by
  unfold isAck at h
  split at h
  · simp only [Bool.and_eq_true, decide_eq_true_eq] at h
    obtain ⟨rfl, rfl⟩ := h
    exact ⟨_, rfl, _, _, rfl⟩
  · cases h

/-- The client's index between the expected sequence and what was submitted. -/
structure Tracks (c : Client d) (s : ClientWorld d) : Prop where
  complete : s.world.Complete
  ordered : s.world.Ordered c.conversationId
  provenance : s.world.Provenance
  safe : Sequencer.Safe Record.number (s.world.sequencer c.conversationId)
  lower : s.index ≤ s.world.stored c.conversationId
  upper : s.world.stored c.conversationId ≤ s.index + 1
  submitted : ∀ sub ∈ s.world.submissions, (∃ m ∈ d.message? sub, m.conversationId = c.conversationId) →
    ∃ i ≤ s.index, sub = c.submission i
  accepted : ∀ h ∈ s.world.handlers, h.For c.conversationId →
    h.stage ≠ .failed .sequenceOutOfOrder

variable {s : ClientWorld d}

theorem init_tracks : c.Tracks (init : ClientWorld d) where
  complete := World.init_complete
  ordered := World.init_ordered
  provenance := World.run_provenance []
  safe := World.init_sequencer ▸ Sequencer.safe_init
  lower := Nat.zero_le _
  upper := Nat.zero_le _
  submitted := by simp [init, World.init, World.submissions]
  accepted := by simp [init, World.init]

/-- A submitted message of the conversation is the client's, up to its index. -/
theorem Tracks.message (hs : c.Tracks s) {sub : Submission} (hsub : sub ∈ s.world.submissions)
    {m : InboundMessage} (hm : m ∈ d.message? sub) (hmc : m.conversationId = c.conversationId) :
    m = c.msgs m.sequenceNumber ∧ m.sequenceNumber ≤ s.index := by
  obtain ⟨i, hi, rfl⟩ := hs.submitted sub hsub ⟨m, hm, hmc⟩
  rw [message?_submission] at hm
  obtain rfl := Option.some.inj hm
  rw [c.number]
  exact ⟨rfl, hi⟩

/-- The service's step under a client: everything but a growing index. -/
theorem Tracks.world_step (hs : c.Tracks s) {e : Event}
    (hok : s.world.OneAtATime c.conversationId e)
    (hsub : ∀ sub, e = .submit sub → (∃ m ∈ d.message? sub, m.conversationId = c.conversationId) →
      sub = c.submission s.index) : c.Tracks { s with world := s.world.step e } where
  complete := World.step_complete hs.complete e
  ordered := World.step_ordered hs.ordered hs.complete hok.1 hok.2.1 hok.2.2
  provenance := World.step_provenance hs.provenance e
  safe := hs.safe.steps
    (World.step_refines hs.ordered hs.complete hok.1 hok.2.1 hok.2.2)
  lower := by
    rcases hs.ordered.step_stored hok.2.1 with h | ⟨m, -, -, -, h⟩
    · exact hs.lower.trans h.ge
    · exact hs.lower.trans (by rw [h]; exact Nat.le_succ _)
  upper := by
    rcases hs.ordered.step_stored hok.2.1 with h | ⟨m, ⟨sub, hsub, hm⟩, hmc, hn, h⟩
    · exact h.le.trans hs.upper
    · rw [h, ← hn]
      exact Nat.succ_le_succ (hs.message hsub hm hmc).2
  submitted := by
    intro sub hmem hmc
    rw [World.step_submissions] at hmem
    rcases List.mem_append.1 hmem with h | h
    · exact hs.submitted sub h hmc
    · cases e with
      | submit sub' =>
        rw [List.mem_singleton] at h
        exact ⟨s.index, le_rfl, hsub sub (by rw [h]) hmc⟩
      | _ => cases h
  accepted := by
    refine World.step_handlers
      (P := fun _ h => h.For c.conversationId → h.stage ≠ .failed .sequenceOutOfOrder)
      hs.accepted ?_ ?_ ?_ ?_
    · intro sub _ _; simp
    · intro h hh hfor; exact hh hfor
    · intro _ h _ hh hfor; exact hh hfor
    · intro id h call fate now _ hh hp
      have hmem := List.mem_of_getElem? hh
      refine ⟨fun hfor => ?_, fun j x _ hx => hs.accepted x (List.mem_of_getElem? hx)⟩
      rcases Handler.serve_moves hp s.world.backend fate now with ⟨-, hst⟩ | ⟨m, hm, hmv⟩
      · rw [hst]; exact hs.accepted h hmem hfor
      obtain ⟨m', hm', hmc⟩ := hfor
      obtain rfl := Option.mem_unique hm hm'
      refine hmv.accepted (hs.accepted h hmem ⟨m, hm, hmc⟩) ?_
      -- the number is at most the index, so not ahead of the expected one
      have hle := (hs.message (List.mem_map_of_mem hmem) hm hmc).2.trans hs.lower
      rw [hmc, tonumber_of_le (hle.trans (hs.complete.below c.conversationId).1)]
      exact hle

theorem step_tracks (hs : c.Tracks s) {e : ClientEvent} (hok : c.Composed s e)
    (hrange : s.InRange e) : c.Tracks (c.step s e) := by
  cases e with
  | submit =>
    refine hs.world_step ⟨hok, trivial, fun m hm _ => .inl ?_⟩ fun sub h _ => ?_
    -- the client submits the message at its index
    · rw [message?_submission] at hm
      obtain rfl := Option.some.inj hm
      rw [c.number]; exact hrange
    · cases h; rfl
  | service e =>
    cases e with
    | submit sub =>
      -- somebody else submits, and no message of this conversation
      refine hs.world_step ⟨?_, trivial, fun m hm hmc => absurd hmc (hok m hm)⟩ ?_
      · rintro ⟨m, hm, hmc⟩
        exact absurd hmc (hok m hm)
      · rintro _ h ⟨m, hm, hmc⟩
        cases h
        exact absurd hmc (hok m hm)
    | exec id fate now => exact hs.world_step ⟨trivial, trivial, trivial⟩ (by simp)
    | stop id => exact hs.world_step ⟨trivial, trivial, trivial⟩ (by simp)
    | tick => exact hs.world_step ⟨trivial, hok, trivial⟩ (by simp)
  | deliver id =>
    unfold step
    simp only
    split
    · next hack =>
      -- the client reads the ACK: the counter is past its index, so it moves on
      obtain ⟨r, hr, hacks⟩ := acks_of_isAck hack
      obtain ⟨h, hh, hans⟩ := Option.bind_eq_some_iff.1 hr
      have hlt : s.index < s.world.stored c.conversationId :=
        hs.ordered.acked_lt ⟨h, List.mem_of_getElem? hh, r, hans, hacks⟩
      exact { hs with
        lower := hlt
        upper := hs.upper.trans (Nat.le_succ _)
        submitted := fun sub hsub hm => (hs.submitted sub hsub hm).imp fun i hi =>
          ⟨hi.1.trans (Nat.le_succ _), hi.2⟩ }
    · exact hs

/-! ## What the client sees -/

/-- The log without repetitions is the client's messages up to its index, or one more. -/
theorem Tracks.log (hs : c.Tracks s) :
    ∃ k, (k = s.index ∨ k = s.index + 1) ∧
      (collapse Record.number (s.world.records c.conversationId)).map
          (fun r => (r.key, r.value.metaData, r.value.payload)) =
        (List.range k).map fun i => (c.conversationId, (c.msgs i).metaData, (c.msgs i).payload) := by
  -- each record is the message of the client with its number
  have hrec : ∀ r ∈ s.world.records c.conversationId, r.number ≤ s.index ∧
      (r.key, r.value.metaData, r.value.payload) =
        (c.conversationId, (c.msgs r.number).metaData, (c.msgs r.number).payload) := by
    intro r hr
    obtain ⟨hlog, hkey⟩ := Backend.mem_records.1 hr
    obtain ⟨m, ⟨sub, hsub, hm⟩, t, rfl⟩ := hs.provenance r hlog
    obtain ⟨hmsg, hle⟩ := hs.message hsub hm hkey
    have hdata := congrArg (fun m => (m.metaData, m.payload)) hmsg
    exact ⟨hle, Prod.ext hkey hdata⟩
  -- so the records are known from their numbers
  have hmap : ∀ k, (collapse Record.number (s.world.records c.conversationId)).map Record.number =
      List.range k → (collapse Record.number (s.world.records c.conversationId)).map
          (fun r => (r.key, r.value.metaData, r.value.payload)) =
        (List.range k).map fun i => (c.conversationId, (c.msgs i).metaData, (c.msgs i).payload) := by
    intro k hk
    rw [← hk, List.map_map]
    exact List.map_congr_left fun r hr => (hrec r (mem_of_mem_collapse hr)).2
  have hlow := hs.lower
  have hup := hs.upper
  have hcounts : Counts Record.number (s.world.stored c.conversationId)
      (s.world.records c.conversationId) := hs.safe.counts
  rcases hcounts.map_collapse with hk | hk
  · exact ⟨s.world.stored c.conversationId, by omega, hmap _ hk⟩
  · -- the last record is numbered `e`, and no number above the index was submitted
    have hmem : s.world.stored c.conversationId ∈
        (collapse Record.number (s.world.records c.conversationId)).map Record.number := by
      rw [hk]; exact List.mem_range.2 (Nat.lt_succ_self _)
    obtain ⟨r, hr, hrn⟩ := List.mem_map.1 hmem
    have hle := (hrec r (mem_of_mem_collapse hr)).1
    exact ⟨s.world.stored c.conversationId + 1, by omega, hmap _ hk⟩

/-- A handler of the conversation whose calls all return answers with its ACK. -/
theorem Tracks.untroubled (hs : c.Tracks s) {h : Handler d} (hh : h ∈ s.world.handlers)
    {m : InboundMessage} (hm : m ∈ h.message?) (hmc : m.conversationId = c.conversationId)
    (hu : h.Untroubled) {r : OrchestratorResult} (hr : h.answer? = some r) : IsAck m r := by
  have hans := h.answers hr
  have hdict : h.submission.raw.isDict = true := by
    obtain ⟨i, -, hi⟩ := hs.submitted h.submission (List.mem_map_of_mem hh) ⟨m, hm, hmc⟩
    rw [hi]; rfl
  cases hst : h.stage with
  | replayed =>
    rw [hst] at hans
    obtain ⟨m', hm', hack⟩ := hans
    obtain rfl := Option.mem_unique hm hm'; exact hack
  | committed =>
    rw [hst] at hans
    obtain ⟨m', hm', hack⟩ := hans
    obtain rfl := Option.mem_unique hm hm'; exact hack
  | start => rw [hst] at hans; rw [hans.1] at hm; cases hm
  | ready => rw [hst] at hans; exact absurd hdict (by rw [hans.1]; simp)
  | persisted => rw [hst] at hans; exact hans.elim
  | failed p =>
    obtain rfl := hu.stage hst
    exact absurd hst (hs.accepted h hh ⟨m, hm, hmc⟩)

/-- **A conforming client is never wedged.** With the client at index `n`: the expected
sequence is `n` or `n + 1`; no submission was found out of order; a submission that the
backends let through is answered with its ACK, whatever runs between its calls, and
after finitely many calls when nothing does; the log without repetitions is
`m_0 … m_{n-1}` or `m_0 … m_n`. -/
theorem never_wedged {es : List ClientEvent}
    (h : Along c.step (fun s e => c.Composed s e ∧ s.InRange e) init es) :
    ((c.after es).world.stored c.conversationId = (c.after es).index ∨
      (c.after es).world.stored c.conversationId = (c.after es).index + 1) ∧
    (∀ h ∈ (c.after es).world.handlers, h.For c.conversationId →
      h.stage ≠ .failed .sequenceOutOfOrder) ∧
    (∀ h ∈ (c.after es).world.handlers, ∀ m ∈ h.message?, m.conversationId = c.conversationId →
      h.Untroubled → ∀ r, h.answer? = some r → IsAck m r) ∧
    (∀ clock, ∃ k h r,
      (run World.step ((c.after es).world.step (.submit (c.submission (c.after es).index)))
        (execs (c.after es).world.handlers.length clock k)).handlers =
          (c.after es).world.handlers ++ [h] ∧
      h.answer? = some r ∧ IsAck (c.msgs (c.after es).index) r) ∧
    ∃ k, (k = (c.after es).index ∨ k = (c.after es).index + 1) ∧
      (collapse Record.number ((c.after es).world.records c.conversationId)).map
          (fun r => (r.key, r.value.metaData, r.value.payload)) =
        (List.range k).map fun i => (c.conversationId, (c.msgs i).metaData, (c.msgs i).payload) := by
  have hs : c.Tracks (c.after es) :=
    along_inv (I := c.Tracks) (fun s e hs hok => step_tracks hs hok.1 hok.2) init_tracks h
  have hlow := hs.lower
  have hup := hs.upper
  have htop := (hs.complete.below c.conversationId).1
  refine ⟨by omega, hs.accepted, fun h hh m hm hmc hu r hr => hs.untroubled hh hm hmc hu hr,
    fun clock => ?_, hs.log⟩
  have hle : tonumber (c.msgs (c.after es).index).sequenceNumber ≤
      (c.after es).world.stored (c.msgs (c.after es).index).conversationId := by
    rw [c.number, c.conversation, tonumber_of_le (hlow.trans htop)]
    exact hlow
  obtain ⟨k, h, r, hrun, -, hr, hack, -⟩ := World.healthy_round (c.after es).world
    (message?_submission c (c.after es).index) rfl hle clock
  exact ⟨k, h, r, hrun, hr, hack⟩

section

open Sample

/-- Message `0`: the commit's reply is lost, the resubmission is a replay. -/
def resubmitted : List ClientEvent :=
  [.submit, .service (ok 0), .service (ok 0), .service (ok 0),
    .service (.exec 0 (.lost (.other "connection reset")) ⟨0⟩), .service (ok 0), .deliver 0,
    .submit, .service (ok 1), .service (ok 1), .deliver 1, .submit]

theorem resubmitted_not_wedged :
    (client.after resubmitted).world.stored cid = (client.after resubmitted).index ∨
      (client.after resubmitted).world.stored cid = (client.after resubmitted).index + 1 :=
  (never_wedged (c := client) (by decide)).1

example : (client.after resubmitted).index = 1 := by decide

end

end Client

end Transcribe
