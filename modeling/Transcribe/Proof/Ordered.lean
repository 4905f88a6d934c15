import Transcribe.Lib.Sequencer
import Transcribe.Proof.Acks

/-!
# One handler at a time: an ordered, loss-free log

With one handler of a conversation in flight, no expiry, and numbers that Lua reads
exactly, the service refines the sequencer: a send appends at the next number, a commit
moves on, an ACK is of a number below it.

* `Ordered`: the invariant, what the handler in flight and the ACKs rely on.
* `run_refines`: the run of a conversation is a run of its sequencer.
* `ordered_lossless_log`: the log of the conversation, and the numbers acknowledged.
-/

namespace Transcribe

open Resumption EventSystem CountingLog

variable {d : Deps}

/-! ## Stages -/

/-- What the handler in flight relies on: `e` is the expected sequence, `l` the records
of its conversation. -/
def Stage.InOrder (e : ℕ) (l : List Record) (m : InboundMessage) : Stage → Prop
  | start => m.sequenceNumber < 2 ^ 53 ∨ tonumber m.sequenceNumber ≠ e
  | ready => m.sequenceNumber = e ∧ e < 2 ^ 53
  | persisted => m.sequenceNumber = e ∧ e < 2 ^ 53 ∧ ∃ r ∈ l.getLast?, r.number = e
  | _ => True

/-- The number is done with: it is below the expected sequence. -/
def Stage.Settled (e : ℕ) (m : InboundMessage) : Stage → Prop
  | replayed | committed => m.sequenceNumber < e
  | _ => True

theorem Stage.Settled.mono {e e' : ℕ} {m : InboundMessage} {s : Stage} (h : s.Settled e m)
    (he : e ≤ e') : s.Settled e' m := by
  cases s with
  | replayed => exact lt_of_lt_of_le h he
  | committed => exact lt_of_lt_of_le h he
  | _ => trivial

namespace Moves

variable {sm : RedisSequenceStateMachine} {m : InboundMessage} {b b' : Backend} {s s' : Stage}

theorem ordered (h : Moves sm m b s s' b') (he : b.stored sm m.conversationId ≤ 2 ^ 53)
    (hs : s.InOrder (b.stored sm m.conversationId) (b.records m.conversationId) m)
    (hset : s.Settled (b.stored sm m.conversationId) m) :
    s'.InOrder (b'.stored sm m.conversationId) (b'.records m.conversationId) m ∧
      s'.Settled (b'.stored sm m.conversationId) m := by
  cases h with
  | preChecked h =>
    refine ⟨?_, trivial⟩
    -- the pre-check found the number to be the expected one
    have hlt : m.sequenceNumber < 2 ^ 53 := hs.resolve_right fun hne => hne h
    rw [tonumber_of_le hlt.le] at h
    rw [Backend.stored_apply]
    exact ⟨h, h ▸ hlt⟩
  | replay h =>
    refine ⟨trivial, ?_⟩
    -- a number behind the expected one has been committed
    have hlt : m.sequenceNumber < 2 ^ 53 := tonumber_lt.1 (lt_of_lt_of_le h he)
    rw [tonumber_of_le hlt.le] at h
    rw [Backend.stored_apply]
    exact h
  | sent t =>
    refine ⟨?_, trivial⟩
    rw [Backend.stored_apply, Backend.records_apply]
    exact ⟨hs.1, hs.2, ⟨m.conversationId, toKafkaPayload t m⟩, by simp, hs.1⟩
  | committed =>
    refine ⟨trivial, ?_⟩
    rw [Backend.stored_apply]
    have hlt : m.sequenceNumber < 2 ^ 53 := hs.1 ▸ hs.2.1
    simp only [if_true, luaSucc_of_lt hlt]
    exact Nat.lt_succ_self _
  | cleanup hm h =>
    refine ⟨trivial, ?_⟩
    rcases h with rfl | rfl
    · exact hset
    · rw [Backend.stored_apply]; exact hset
  | _ => exact ⟨trivial, trivial⟩

/-- The expected sequence does not fall. -/
theorem stored_le (h : Moves sm m b s s' b') {cid : String}
    (hs : m.conversationId = cid → s.InOrder (b.stored sm cid) (b.records cid) m) :
    b.stored sm cid ≤ b'.stored sm cid := by
  rcases h.stored cid with hst | ⟨rfl, rfl, hst⟩
  · exact hst.ge
  · obtain ⟨hm, hlt, -⟩ := hs rfl
    rw [hst, luaSucc_of_lt (hm ▸ hlt), hm]
    exact Nat.le_succ _

/-- A served call is at most one step of the sequencer. -/
theorem sequencer (h : Moves sm m b s s' b') (A : Set ℕ) (cid : String)
    (hs : m.conversationId = cid → s.InOrder (b.stored sm cid) (b.records cid) m) :
    Relation.ReflTransGen (Sequencer.Step Record.number) ⟨b.stored sm cid, b.records cid, A⟩
      ⟨b'.stored sm cid, b'.records cid, A⟩ := by
  rcases h.stored cid with hst | ⟨rfl, rfl, hst⟩
  · rcases h.records cid with hr | ⟨rfl, rfl, t, hr⟩
    · rw [hst, hr]
    · rw [hst, hr]
      exact .single (.append _ (hs rfl).1)
  · rcases h.records m.conversationId with hr | ⟨hs', -⟩
    · obtain ⟨hm, hlt, hl⟩ := hs rfl
      rw [hst, hr, luaSucc_of_lt (hm ▸ hlt), hm]
      exact .single (.advance hl)
    · cases hs'

end Moves

/-! ## The invariant -/

namespace World

/-- The numbers acknowledged for a conversation. -/
def Acked (w : World d) (cid : String) : Set ℕ :=
  {n | ∃ h ∈ w.handlers, ∃ r, h.answer? = some r ∧ r.response.Acks cid n}

/-- Handler `j` of the conversation is in flight. -/
def Busy (w : World d) (cid : String) (j : ℕ) : Prop :=
  ∃ h, w.handlers[j]? = some h ∧ h.For cid ∧ h.pending ≠ none

/-- No message numbered `2 ^ 53` or more starts that Lua reads as the expected one. -/
def InRange (cid : String) (w : World d) : Event → Prop
  | .submit s => ∀ m ∈ d.message? s, m.conversationId = cid →
    m.sequenceNumber < 2 ^ 53 ∨ tonumber m.sequenceNumber ≠ w.stored cid
  | _ => True

instance (cid : String) (w : World d) : DecidablePred (w.InRange cid)
  | .submit s => inferInstanceAs (Decidable (∀ m ∈ d.message? s, m.conversationId = cid →
      m.sequenceNumber < 2 ^ 53 ∨ tonumber m.sequenceNumber ≠ w.stored cid))
  | .tick | .exec .. | .stop _ => .isTrue trivial

/-- A handler is done with its number, or in flight and relying on the order: `e` is the
expected sequence, `l` the records of the conversation. -/
structure OrderedHandler (cid : String) (e : ℕ) (l : List Record) (h : Handler d) : Prop where
  settled : ∀ m ∈ h.message?, m.conversationId = cid → h.stage.Settled e m
  inOrder : h.pending ≠ none → ∀ m ∈ h.message?, m.conversationId = cid → h.stage.InOrder e l m

structure Ordered (cid : String) (w : World d) : Prop where
  one : ∀ i j, w.Busy cid i → w.Busy cid j → i = j
  handlers : ∀ h ∈ w.handlers, OrderedHandler cid (w.stored cid) (w.records cid) h

variable {w : World d} {e : Event} {cid : String}

theorem init_ordered : (init : World d).Ordered cid :=
  ⟨fun i j hi => by obtain ⟨h, hh, -⟩ := hi; simp [init] at hh, by simp [init]⟩

/-- A handler gets in flight only by a submission. -/
theorem busy_step {j : ℕ} (hj : (w.step e).Busy cid j) : w.Busy cid j ∨
    ∃ s, e = .submit s ∧ j = w.handlers.length ∧ ∃ m ∈ d.message? s, m.conversationId = cid := by
  obtain ⟨x, hx, hfor, hp⟩ := hj
  rcases step_getElem? hx with hx | ⟨s, rfl, hlen, rfl⟩ | ⟨h, rfl, hh, rfl⟩ | ⟨h, c, _, _, rfl, hh, hc, rfl⟩
  · exact .inl ⟨x, hx, hfor, hp⟩
  · exact .inr ⟨s, rfl, hlen, hfor⟩
  · exact absurd rfl hp
  · exact .inl ⟨h, hh, hfor, by rw [hc]; simp⟩

/-- A served call of the handler in flight keeps it ordered; the others are done. -/
theorem serve_ordered (hw : w.Ordered cid) (hc : w.Complete) {id : ℕ} {h : Handler d} {c : Call}
    (hh : w.handlers[id]? = some h) (hp : h.pending = some c) (fate : Fate) (now : Datetime) :
    OrderedHandler cid ((w.backend.exec d.sm fate now c).1.stored d.sm cid)
        ((w.backend.exec d.sm fate now c).1.records cid)
        (h.advance fun c => (w.backend.exec d.sm fate now c).2) ∧
      ∀ j x, j ≠ id → w.handlers[j]? = some x →
        OrderedHandler cid ((w.backend.exec d.sm fate now c).1.stored d.sm cid)
          ((w.backend.exec d.sm fate now c).1.records cid) x := by
  have hme := hw.handlers h (List.mem_of_getElem? hh)
  have hlive : h.pending ≠ none := by rw [hp]; simp
  rcases Handler.serve_moves hp w.backend fate now with ⟨hb, hs⟩ | ⟨m, hm, hmv⟩
  · rw [hb]
    refine ⟨⟨fun m hm hmc => ?_, fun _ m hm hmc => ?_⟩, fun j x _ hx =>
      hw.handlers x (List.mem_of_getElem? hx)⟩
    · rw [hs]; exact hme.settled m hm hmc
    · rw [hs]; exact hme.inOrder hlive m hm hmc
  have hin : m.conversationId = cid → h.stage.InOrder (w.stored cid) (w.records cid) m :=
    hme.inOrder hlive m hm
  by_cases hmc : m.conversationId = cid
  · subst hmc
    have hord := hmv.ordered (hc.below _).1 (hin rfl) (hme.settled m hm rfl)
    refine ⟨⟨fun m' hm' _ => ?_, fun _ m' hm' _ => ?_⟩, fun j x hj hx => ?_⟩
    · obtain rfl := Option.mem_unique hm hm'; exact hord.2
    · obtain rfl := Option.mem_unique hm hm'; exact hord.1
    · have hx' := hw.handlers x (List.mem_of_getElem? hx)
      refine ⟨fun m' hm' hmc' => (hx'.settled m' hm' hmc').mono (hmv.stored_le hin),
        fun hp' m' hm' hmc' => ?_⟩
      -- it would be a second handler in flight
      exact absurd (hw.one j id ⟨x, hx, ⟨m', hm', hmc'⟩, hp'⟩ ⟨h, hh, ⟨m, hm, rfl⟩, hlive⟩) hj
  · have hst := (hmv.stored cid).resolve_right fun h => hmc h.2.1.symm
    have hrec := (hmv.records cid).resolve_right fun h => hmc h.2.1.symm
    rw [hst, hrec]
    refine ⟨⟨fun m' hm' hmc' => ?_, fun _ m' hm' hmc' => ?_⟩, fun j x _ hx =>
      hw.handlers x (List.mem_of_getElem? hx)⟩
    · exact absurd (Option.mem_unique hm hm' ▸ hmc') hmc
    · exact absurd (Option.mem_unique hm hm' ▸ hmc') hmc

theorem step_ordered (hw : w.Ordered cid) (hc : w.Complete) (hseq : w.Sequential cid e)
    (hexp : w.NoExpiry cid e) (hrange : w.InRange cid e) : (w.step e).Ordered cid := by
  refine ⟨fun i j hi hj => ?_, step_handlers
    (P := fun b h => OrderedHandler cid (b.stored d.sm cid) (b.records cid) h)
    hw.handlers ?_ ?_ ?_ ?_⟩
  · have hnew : ∀ i s, e = .submit s → (∃ m ∈ d.message? s, m.conversationId = cid) →
        ¬ w.Busy cid i := by
      rintro i s rfl hm ⟨h, hh, hfor, hp⟩
      exact hp (hseq hm h (List.mem_of_getElem? hh) hfor)
    rcases busy_step hi with hi | ⟨s, hs, hi, hm⟩
    · rcases busy_step hj with hj | ⟨s, hs, -, hm⟩
      · exact hw.one i j hi hj
      · exact absurd hi (hnew i s hs hm)
    · rcases busy_step hj with hj | ⟨s', -, hj, -⟩
      · exact absurd hj (hnew j s hs hm)
      · rw [hi, hj]
  · rintro s rfl
    exact ⟨fun m _ _ => trivial, fun _ m hm hmc => hrange m hm hmc⟩
  · intro h hh
    exact ⟨hh.settled, fun hp => absurd rfl hp⟩
  · rintro rfl h - hh
    rw [Backend.stored_tick hexp]
    exact hh
  · intro id h c fate now _ hh hp
    exact serve_ordered hw hc hh hp fate now

/-- The expected sequence stays, or passes the number of a submitted message. -/
theorem Ordered.step_stored (hw : w.Ordered cid) (hexp : w.NoExpiry cid e) :
    (w.step e).stored cid = w.stored cid ∨
      ∃ m, w.Submitted m ∧ m.conversationId = cid ∧ m.sequenceNumber = w.stored cid ∧
        (w.step e).stored cid = w.stored cid + 1 := by
  cases e with
  | submit s => exact .inl rfl
  | stop id => exact .inl rfl
  | tick => exact .inl (Backend.stored_tick hexp)
  | exec id fate now =>
    rcases step_exec w id fate now with he | ⟨h, c, hh, hp, he⟩
    · rw [he]; exact .inl rfl
    rw [he]
    have hmem := List.mem_of_getElem? hh
    rcases Handler.serve_moves hp w.backend fate now with ⟨hb, -⟩ | ⟨m, hm, hmv⟩
    · exact .inl (by simp only [serve, stored, hb])
    rcases hmv.stored cid with hst | ⟨hs, rfl, hst⟩
    · exact .inl hst
    · have hin := (hw.handlers h hmem).inOrder (by rw [hp]; simp) m hm rfl
      rw [hs] at hin
      refine .inr ⟨m, ⟨_, List.mem_map_of_mem hmem, hm⟩, rfl, hin.1, hst.trans ?_⟩
      rw [luaSucc_of_lt (hin.1 ▸ hin.2.1), hin.1]

/-! ## Refinement -/

/-- The sequencer of a conversation. -/
def sequencer (w : World d) (cid : String) : Sequencer Record :=
  ⟨w.stored cid, w.records cid, w.Acked cid⟩

/-- Only numbers below the expected sequence are acknowledged. -/
theorem Ordered.acked_lt (hw : w.Ordered cid) {n : ℕ} (hn : n ∈ w.Acked cid) : n < w.stored cid := by
  obtain ⟨h, hh, r, hr, hacks⟩ := hn
  obtain ⟨hs, m, hm, hack⟩ := h.acked hr fun s he => he.not_acks hacks
  obtain ⟨hmc, rfl⟩ := hack.acks hacks
  have hset := (hw.handlers h hh).settled m hm hmc
  rcases hs with hs | hs
  · rw [hs] at hset; exact hset
  · rw [hs] at hset; exact hset

/-- ACKs stay. -/
theorem acked_step (w : World d) (e : Event) (cid : String) : w.Acked cid ⊆ (w.step e).Acked cid := by
  rintro n ⟨h, hh, r, hr, hacks⟩
  cases e with
  | submit s => exact ⟨h, List.mem_append_left _ hh, r, hr, hacks⟩
  | tick => exact ⟨h, hh, r, hr, hacks⟩
  | stop id =>
    obtain ⟨j, hj⟩ := List.mem_iff_getElem?.1 hh
    by_cases hij : id = j
    · refine ⟨{ h with stopped := true }, List.mem_iff_getElem?.2 ⟨j, ?_⟩, r, hr, hacks⟩
      simp [step, hij, hj]
    · refine ⟨h, List.mem_iff_getElem?.2 ⟨j, ?_⟩, r, hr, hacks⟩
      simp [step, hij, hj]
  | exec id fate now =>
    rcases step_exec w id fate now with he | ⟨x, c, hx, hc, he⟩
    · rw [he]; exact ⟨h, hh, r, hr, hacks⟩
    rw [he]
    obtain ⟨j, hj⟩ := List.mem_iff_getElem?.1 hh
    refine ⟨h, List.mem_iff_getElem?.2 ⟨j, ?_⟩, r, hr, hacks⟩
    have hij : id ≠ j := by
      -- a handler that has answered waits in no call
      rintro rfl
      obtain rfl := Option.some.inj (hx.symm.trans hj)
      rw [Handler.pending_of_answer hr] at hc
      cases hc
    simp [serve, hij, hj]

/-- **A step is at most two steps of the sequencer**: what the backends do, then the ACK. -/
theorem step_refines (hw : w.Ordered cid) (hc : w.Complete) (hseq : w.Sequential cid e)
    (hexp : w.NoExpiry cid e) (hrange : w.InRange cid e) :
    Relation.ReflTransGen (Sequencer.Step Record.number) (w.sequencer cid)
      ((w.step e).sequencer cid) := by
  have hw' := step_ordered hw hc hseq hexp hrange
  have hback : Relation.ReflTransGen (Sequencer.Step Record.number) (w.sequencer cid)
      ⟨(w.step e).stored cid, (w.step e).records cid, w.Acked cid⟩ := by
    cases e with
    | submit s => exact .refl
    | stop id => exact .refl
    | tick =>
      have hst : (w.step .tick).stored cid = w.stored cid := Backend.stored_tick hexp
      rw [hst]
      exact .refl
    | exec id fate now =>
      rcases step_exec w id fate now with he | ⟨h, c, hh, hp, he⟩
      · rw [he]; exact .refl
      rw [he]
      have hlive : h.pending ≠ none := by rw [hp]; simp
      rcases Handler.serve_moves hp w.backend fate now with ⟨hb, -⟩ | ⟨m, hm, hmv⟩
      · simp only [serve, stored, records, hb]; exact .refl
      · exact hmv.sequencer _ _ ((hw.handlers h (List.mem_of_getElem? hh)).inOrder hlive m hm)
  exact hback.tail (.ack (acked_step w e cid) fun n hn => hw'.acked_lt hn)

theorem init_sequencer : (init : World d).sequencer cid = Sequencer.init := by
  simp [sequencer, Sequencer.init, init, stored, records, Acked, Backend.stored, Backend.records,
    Backend.init, TtlStore.empty, TtlStore.get]

/-- The conditions on a run under which the sequencer is refined. -/
def OneAtATime (cid : String) (w : World d) (e : Event) : Prop :=
  w.Sequential cid e ∧ w.NoExpiry cid e ∧ w.InRange cid e

instance (cid : String) (w : World d) : DecidablePred (w.OneAtATime cid) := fun e =>
  inferInstanceAs (Decidable (w.Sequential cid e ∧ w.NoExpiry cid e ∧ w.InRange cid e))

/-- **The run of a conversation is a run of its sequencer.** -/
theorem run_refines {es : List Event} (h : Along step (OneAtATime cid) (init : World d) es) :
    (after d es).Ordered cid ∧
      Relation.ReflTransGen (Sequencer.Step Record.number) Sequencer.init
        ((after d es).sequencer cid) := by
  have hinv : ∀ (w : World d) e, w.Complete ∧ w.Ordered cid → w.OneAtATime cid e →
      (w.step e).Complete ∧ (w.step e).Ordered cid := fun w e hw hok =>
    ⟨step_complete hw.1 e, step_ordered hw.2 hw.1 hok.1 hok.2.1 hok.2.2⟩
  refine ⟨(along_inv hinv ⟨init_complete, init_ordered⟩ h).2, ?_⟩
  rw [← @init_sequencer d cid]
  exact along_refines (f := fun w => sequencer w cid) hinv
    (fun w e hw hok => step_refines hw.2 hw.1 hok.1 hok.2.1 hok.2.2) ⟨init_complete, init_ordered⟩ h

/-- **The log of the conversation is ordered, without gaps and without losses**: its
numbers start at `0`, each is its predecessor's or one more, the last is `e - 1` or `e`
for the expected sequence `e`, and every acknowledged number is below `e` and in it. -/
theorem ordered_lossless_log {es : List Event}
    (h : Along step (OneAtATime cid) (init : World d) es) :
    (∀ r ∈ ((after d es).records cid).head?, r.number = 0) ∧
    ((after d es).records cid).IsChain (fun r r' => r'.number = r.number ∨ r'.number = r.number + 1) ∧
    (∀ r ∈ ((after d es).records cid).getLast?,
      r.number = (after d es).stored cid ∨ r.number + 1 = (after d es).stored cid) ∧
    ((after d es).records cid = [] → (after d es).stored cid = 0) ∧
    ∀ n ∈ (after d es).Acked cid, n < (after d es).stored cid ∧
      ∃ r ∈ (after d es).records cid, r.number = n := by
  have hsafe := Sequencer.safe_init.steps (run_refines h).2
  exact ⟨hsafe.counts.head, hsafe.counts.chain, hsafe.counts.last, hsafe.counts.empty,
    fun n hn => ⟨hsafe.acked n hn, hsafe.mem_log hn⟩⟩

section

open Sample

/-- A send that times out after its append, the retry, and a commit whose reply is lost. -/
def lossy : List Event :=
  [.submit (message 0), ok 0, ok 0, .exec 0 (.lost (.timeoutError "")) ⟨0⟩, ok 0,
    .submit (message 0), ok 1, ok 1, ok 1, ok 1, ok 1,
    .submit (message 1), ok 2, ok 2, ok 2, .exec 2 (.lost (.other "connection reset")) ⟨0⟩, ok 2]

/-- Message `0` is acknowledged on the retry, and in the log. -/
theorem lossy_ordered : ((after deps lossy).records Sample.cid).IsChain
      (fun r r' => r'.number = r.number ∨ r'.number = r.number + 1) ∧
    0 < (after deps lossy).stored Sample.cid ∧
    ∃ r ∈ (after deps lossy).records Sample.cid, r.number = 0 := by
  obtain ⟨-, hchain, -, -, hack⟩ :=
    ordered_lossless_log
      (show Along step (OneAtATime Sample.cid) (init : World deps) lossy by decide)
  obtain ⟨h, hh, hr⟩ : ∃ h ∈ (after deps lossy).handlers,
      h.answer? = some ⟨buildTranscriptAck ⟨0⟩ Sample.cid 0, false, .normal⟩ := by decide
  exact ⟨hchain, hack 0 ⟨h, hh, _, hr, _, _, rfl⟩⟩

example : ((after deps lossy).records Sample.cid).map Record.number = [0, 0, 1] := by decide

end

end World

end Transcribe
