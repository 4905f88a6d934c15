import Transcribe.Proof.Steps

/-!
# The log is complete below the expected sequence

Whatever fails, expires or interleaves, every number below the stored expected
sequence has a record (`run_complete`): a commit follows the handler's own send, and
its pre-check saw the numbers below. Records come from submitted messages
(`run_provenance`). Together they say what stands behind an ACK (`ack_backed`).
-/

namespace Transcribe

open Resumption EventSystem

variable {d : Deps}

/-! ## Records -/

namespace Backend

/-- The log has a record numbered `n` of the conversation. -/
def Has (b : Backend) (cid : String) (n : ℕ) : Prop := ∃ r ∈ b.records cid, r.number = n

/-- The log has a record of the message. -/
def Holds (b : Backend) (m : InboundMessage) : Prop :=
  ∃ t, ⟨m.conversationId, toKafkaPayload t m⟩ ∈ b.log

/-- The number `n`, as Lua reads it, is in range and the log is complete below it. -/
def CompleteBelow (b : Backend) (cid : String) (n : ℕ) : Prop := n ≤ 2 ^ 53 ∧ ∀ k < n, b.Has cid k

variable {sm : RedisSequenceStateMachine} {b b' : Backend} {c : Call} {cid : String}
  {m : InboundMessage} {n : ℕ}

theorem mem_records {r : Record} : r ∈ b.records cid ↔ r ∈ b.log ∧ r.key = cid := by
  simp [records]

theorem Holds.has (h : b.Holds m) : b.Has m.conversationId m.sequenceNumber := by
  obtain ⟨t, ht⟩ := h
  exact ⟨_, mem_records.2 ⟨ht, rfl⟩, rfl⟩

/-- The log only grows. -/
theorem log_sub_exec (fate : Fate) (now : Datetime) : b.log ⊆ (b.exec sm fate now c).1.log := by
  rcases @exec_fst sm b c fate now with h | h
  · rw [h]; exact fun _ hr => hr
  · rw [h]
    cases c with
    | send cid p => exact List.subset_append_left ..
    | _ => exact fun _ hr => hr

theorem Has.mono (hb : b.log ⊆ b'.log) (h : b.Has cid n) : b'.Has cid n := by
  obtain ⟨r, hr, hn⟩ := h
  exact ⟨r, mem_records.2 ⟨hb (mem_records.1 hr).1, (mem_records.1 hr).2⟩, hn⟩

theorem Holds.mono (hb : b.log ⊆ b'.log) (h : b.Holds m) : b'.Holds m :=
  h.imp fun _ ht => hb ht

theorem CompleteBelow.mono (hb : b.log ⊆ b'.log) (h : b.CompleteBelow cid n) :
    b'.CompleteBelow cid n := ⟨h.1, fun k hk => (h.2 k hk).mono hb⟩

/-- With the record of its message the log is complete below what a commit writes. -/
theorem CompleteBelow.succ (h : b.CompleteBelow m.conversationId (tonumber m.sequenceNumber))
    (hm : b.Holds m) : b.CompleteBelow m.conversationId (luaSucc m.sequenceNumber) := by
  rw [luaSucc_eq_min h.1]
  refine ⟨min_le_right .., fun k hk => ?_⟩
  rcases Nat.lt_or_ge k (tonumber m.sequenceNumber) with hlt | hge
  · exact h.2 k hlt
  · -- then the number is in range, so it is its own double
    have hk' : k = tonumber m.sequenceNumber := by omega
    have hlt : tonumber m.sequenceNumber < 2 ^ 53 := by omega
    rw [hk', tonumber_of_le (tonumber_lt.1 hlt).le]
    exact hm.has

theorem stored_tick_or : b.tick.stored sm cid = b.stored sm cid ∨ b.tick.stored sm cid = 0 := by
  unfold stored tick TtlStore.get TtlStore.tick
  rcases hk : b.redis (sm.key cid) with _ | e
  · exact .inl (by simp [hk])
  · by_cases he : e.ttl ≤ 1
    · exact .inr (by simp [hk, he])
    · exact .inl (by simp [hk, he])

end Backend

/-! ## The invariant -/

/-- What the log has for the message of a handler in a stage. -/
def Stage.Backed (b : Backend) (m : InboundMessage) : Stage → Prop
  | ready => b.CompleteBelow m.conversationId (tonumber m.sequenceNumber)
  | replayed => b.Has m.conversationId m.sequenceNumber
  | persisted => b.CompleteBelow m.conversationId (tonumber m.sequenceNumber) ∧ b.Holds m
  | committed => b.Holds m
  | _ => True

section

variable {b b' : Backend} {m : InboundMessage} {s s' : Stage} {sm : RedisSequenceStateMachine}

theorem Stage.Backed.mono (hb : b.log ⊆ b'.log) (h : s.Backed b m) : s.Backed b' m := by
  cases s with
  | ready => exact Backend.CompleteBelow.mono hb h
  | replayed => exact Backend.Has.mono hb h
  | persisted => exact ⟨h.1.mono hb, h.2.mono hb⟩
  | committed => exact Backend.Holds.mono hb h
  | _ => exact h

/-- The next stage is backed as well. -/
theorem Moves.backed (h : Moves sm m b s s' b') (hs : s.Backed b m) (hsub : b.log ⊆ b'.log)
    (hbelow : b.CompleteBelow m.conversationId (b.stored sm m.conversationId)) : s'.Backed b' m := by
  cases h with
  | preChecked h => exact Backend.CompleteBelow.mono hsub (h ▸ hbelow)
  | replay h =>
    -- the number is in range, so it is its own double
    have hlt : tonumber m.sequenceNumber < 2 ^ 53 := lt_of_lt_of_le h hbelow.1
    rw [tonumber_of_le (tonumber_lt.1 hlt).le] at h
    exact (hbelow.2 _ h).mono hsub
  | sent t => exact ⟨Backend.CompleteBelow.mono hsub hs, t, by simp [Backend.apply]⟩
  | committed => exact hs.2.mono hsub
  | cleanup hm h => exact Backend.Holds.mono hsub hs
  | _ => trivial

/-- The log stays complete below every expected sequence. -/
theorem Moves.below (h : Moves sm m b s s' b') (hs : s.Backed b m) (hsub : b.log ⊆ b'.log)
    (hbelow : ∀ cid, b.CompleteBelow cid (b.stored sm cid)) (cid : String) :
    b'.CompleteBelow cid (b'.stored sm cid) := by
  rcases h.stored cid with h | ⟨rfl, rfl, h⟩
  · rw [h]; exact (hbelow cid).mono hsub
  · rw [h]; exact (hs.1.succ hs.2).mono hsub

end

namespace World

/-- The log is complete below every expected sequence, and backs every handler. -/
structure Complete (w : World d) : Prop where
  below : ∀ cid, w.backend.CompleteBelow cid (w.stored cid)
  backed : ∀ h ∈ w.handlers, ∀ m ∈ h.message?, h.stage.Backed w.backend m

theorem init_complete : (init : World d).Complete :=
  ⟨fun _ => ⟨Nat.zero_le _, fun _ hk => absurd hk (Nat.not_lt_zero _)⟩, by simp [init]⟩

theorem step_complete {w : World d} (hw : w.Complete) (e : Event) : (w.step e).Complete := by
  have hsub : ∀ c fate now, w.backend.log ⊆ (w.backend.exec d.sm fate now c).1.log :=
    fun c fate now => Backend.log_sub_exec fate now
  refine ⟨fun cid => ?_, step_handlers
    (P := fun b h => ∀ m ∈ h.message?, h.stage.Backed b m) hw.backed ?_ ?_ ?_ ?_⟩
  · cases e with
    | submit s => exact hw.below cid
    | stop id => exact hw.below cid
    | tick =>
      have h : (w.step .tick).stored cid = w.stored cid ∨ (w.step .tick).stored cid = 0 :=
        Backend.stored_tick_or
      rcases h with h | h
      · rw [h]; exact hw.below cid
      · rw [h]; exact ⟨Nat.zero_le _, fun _ hk => absurd hk (Nat.not_lt_zero _)⟩
    | exec id fate now =>
      rcases step_exec w id fate now with h | ⟨h, c, hh, hc, h⟩
      · rw [h]; exact hw.below cid
      rw [h]
      rcases Handler.serve_moves hc w.backend fate now with ⟨hb, -⟩ | ⟨m, hm, hmv⟩
      · simp only [serve, stored, hb]; exact hw.below cid
      · exact hmv.below (hw.backed _ (List.mem_of_getElem? hh) m hm) (hsub ..) hw.below cid
  · intro s _ m _; trivial
  · intro h hh; exact hh
  · intro _ h _ hh; exact hh
  · intro id h c fate now _ hh hc
    refine ⟨fun m hm => ?_, fun j x _ hx m hm =>
      (hw.backed x (List.mem_of_getElem? hx) m hm).mono (hsub ..)⟩
    have hm' := hw.backed h (List.mem_of_getElem? hh) m hm
    rcases Handler.serve_moves hc w.backend fate now with ⟨hb, hs⟩ | ⟨m', hmm, hmv⟩
    · rw [hb, hs]; exact hm'
    · obtain rfl := Option.mem_unique hm hmm
      exact hmv.backed hm' (hsub ..) (hw.below _)

/-- **In every reachable state the log is complete below the expected sequence.** -/
theorem run_complete (es : List Event) : (after d es).Complete :=
  run_inv (I := Complete) (fun _ e hw => step_complete hw e) init_complete

/-! ## Where records come from -/

/-- A handler was given the message. -/
def Submitted (w : World d) (m : InboundMessage) : Prop := ∃ s ∈ w.submissions, d.message? s = some m

/-- Messages stay submitted. -/
theorem submitted_step {w : World d} {m : InboundMessage} (hm : w.Submitted m) (e : Event) :
    (w.step e).Submitted m := by
  obtain ⟨s, hs, hm⟩ := hm
  exact ⟨s, by rw [step_submissions]; exact List.mem_append_left _ hs, hm⟩

/-- Every record is the Kafka value of a submitted message. -/
def Provenance (w : World d) : Prop :=
  ∀ r ∈ w.backend.log, ∃ m, w.Submitted m ∧ ∃ t, r = ⟨m.conversationId, toKafkaPayload t m⟩

theorem step_provenance {w : World d} (hw : w.Provenance) (e : Event) : (w.step e).Provenance := by
  have hold : ∀ r ∈ w.backend.log, ∃ m, (w.step e).Submitted m ∧
      ∃ t, r = ⟨m.conversationId, toKafkaPayload t m⟩ := fun r hr =>
    (hw r hr).imp fun m hm => ⟨submitted_step hm.1 e, hm.2⟩
  intro r hr
  cases e with
  | submit s => exact hold r hr
  | stop id => exact hold r hr
  | tick => exact hold r hr
  | exec id fate now =>
    rcases step_exec w id fate now with he | ⟨h, c, hh, hc, he⟩
    · rw [he] at hr; exact hold r hr
    have hsub : h.submission ∈ w.submissions := List.mem_map_of_mem (List.mem_of_getElem? hh)
    rw [he] at hr
    rcases Handler.serve_moves hc w.backend fate now with ⟨hb, -⟩ | ⟨m, hm, hmv⟩
    · simp only [serve, hb] at hr; exact hold r hr
    rcases hmv.log with hl | ⟨-, t, hl⟩
    · simp only [serve, hl] at hr; exact hold r hr
    · simp only [serve, hl, List.mem_append, List.mem_singleton] at hr
      rcases hr with hr | hr
      · exact hold r hr
      · exact ⟨m, submitted_step ⟨_, hsub, hm⟩ _, t, hr⟩

theorem run_provenance (es : List Event) : (after d es).Provenance :=
  run_inv (I := Provenance) (fun _ e hw => step_provenance hw e) (by simp [Provenance, init, Backend.init])

end World

end Transcribe
