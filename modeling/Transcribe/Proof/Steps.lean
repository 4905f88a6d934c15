import Transcribe.Proof.Backend
import Transcribe.Proof.Protocol

/-!
# One step of the service

* `step_exec`: an `exec` event does nothing or serves a handler's pending call.
* `step_handlers`: the rule for a property of every handler beside the backends.
* `Handler.allows`, `Handler.stage_advance`, `Handler.answers`: handlers keep to the
  protocol, wherever they stand.
-/

namespace Transcribe

open Resumption

variable {d : Deps}

/-! ## Handlers and the protocol -/

namespace Handler

/-- Where the handler stands. -/
def stage (h : Handler d) : Stage := h.thread.state (protocol h.message?) .start

variable {h : Handler d} {c : Call}

@[simp] theorem stage_start (s : Submission) : (start s : Handler d).stage = .start := rfl

@[simp] theorem message?_advance (answer : ∀ c, Reply c) : (h.advance answer).message? = h.message? := rfl

theorem rest_pending (hp : h.pending = some c) : h.thread.rest.pending = some c := by
  unfold pending at hp
  split at hp
  · cases hp
  · exact hp

theorem not_stopped (hp : h.pending = some c) : h.stopped = false := by
  unfold pending at hp
  split at hp
  · cases hp
  · next hs => exact Bool.eq_false_iff.2 hs

/-- A handler that has returned waits in no call. -/
theorem pending_of_result {a : Except Exc OrchestratorResult} (ha : h.thread.rest.result = some a) :
    h.pending = none := by
  unfold pending
  cases hrest : h.thread.rest with
  | ret b => split <;> rfl
  | call c k => simp [hrest, Prog.result] at ha

theorem pending_of_answer {r : OrchestratorResult} (hr : h.answer? = some r) : h.pending = none := by
  unfold answer? at hr
  obtain ⟨x, hx, -⟩ := Option.bind_eq_some_iff.1 hr
  exact pending_of_result hx

theorem stage_advance (hp : h.pending = some c) (answer : ∀ c, Reply c) :
    (h.advance answer).stage = h.stage.next c (answer c) :=
  Thread.state_advance (rest_pending hp)

/-- **A pending call is one the handler's stage allows.** -/
theorem allows (hp : h.pending = some c) : h.stage.Allows h.message? c :=
  h.thread.ok_of_pending (handleMessage_sat _) (rest_pending hp)

/-- A handler at its start reads the clock or waits in its pre-check. -/
theorem start_pending (hs : h.stage = .start) (hp : h.pending = some c) :
    c = .utcNow ∨ ∃ m ∈ h.message?, c = .prepare m.conversationId m.sequenceNumber := by
  have hallow := allows hp
  rw [hs] at hallow
  cases c with
  | utcNow => exact .inl rfl
  | prepare cid seq =>
    obtain ⟨-, m, hm, rfl, rfl⟩ := Stage.allows_prepare hallow
    exact .inr ⟨m, hm, rfl⟩
  | _ => exact hallow.elim

/-- **An answer is the one of the stage.** -/
theorem answers {r : OrchestratorResult} (hr : h.answer? = some r) :
    h.stage.Answers h.message? h.submission.raw (.ok r) := by
  unfold answer? at hr
  obtain ⟨x, hx, hxr⟩ := Option.bind_eq_some_iff.1 hr
  cases x with
  | error e => cases hxr
  | ok r' =>
    obtain rfl : r' = r := by simpa [Except.toOption] using hxr
    exact h.thread.post_of_result (handleMessage_sat _) hx

end Handler

/-! ## What a served call does -/

/-- A served call of the handler of `m`: how the stage moves, and the backends. -/
inductive Moves (sm : RedisSequenceStateMachine) (m : InboundMessage) (b : Backend) :
    Stage → Stage → Backend → Prop
  | preChecked (h : tonumber m.sequenceNumber = b.stored sm m.conversationId) :
    Moves sm m b .start .ready (b.apply sm (.prepare m.conversationId m.sequenceNumber))
  | replay (h : tonumber m.sequenceNumber < b.stored sm m.conversationId) :
    Moves sm m b .start .replayed (b.apply sm (.prepare m.conversationId m.sequenceNumber))
  | reject (h : b.stored sm m.conversationId < tonumber m.sequenceNumber) :
    Moves sm m b .start (.failed .sequenceOutOfOrder)
      (b.apply sm (.prepare m.conversationId m.sequenceNumber))
  | prepareRaised {b' : Backend}
      (h : b' = b ∨ b' = b.apply sm (.prepare m.conversationId m.sequenceNumber)) :
    Moves sm m b .start (.failed .orchestratorInternalException) b'
  | sent (t : Datetime) :
    Moves sm m b .ready .persisted (b.apply sm (.send m.conversationId (toKafkaPayload t m)))
  | sendRaised {b' : Backend} (t : Datetime) {s : ProtocolErrorScenario}
      (hs : s = .downstreamTimeout ∨ s = .downstreamUnavailable)
      (h : b' = b ∨ b' = b.apply sm (.send m.conversationId (toKafkaPayload t m))) :
    Moves sm m b .ready (.failed s) b'
  | committed :
    Moves sm m b .persisted .committed (b.apply sm (.commit m.conversationId m.sequenceNumber))
  | commitRaised {b' : Backend}
      (h : b' = b ∨ b' = b.apply sm (.commit m.conversationId m.sequenceNumber)) :
    Moves sm m b .persisted (.failed .orchestratorInternalException) b'
  | cleanup {b' : Backend} (hm : m.eventType = .sessionComplete)
      (h : b' = b ∨ b' = b.apply sm (.cleanup m.conversationId)) :
    Moves sm m b .committed .committed b'

namespace Moves

variable {sm : RedisSequenceStateMachine} {m : InboundMessage} {b b' : Backend} {s s' : Stage}

/-- The backends move by the effect of an allowed call, or not at all. -/
theorem eq_or_apply (h : Moves sm m b s s' b') :
    b' = b ∨ ∃ c, b' = b.apply sm c ∧ s.Allows (some m) c := by
  cases h with
  | preChecked | replay | reject => exact .inr ⟨_, rfl, m, rfl, rfl, rfl⟩
  | prepareRaised h => exact h.imp id fun h => ⟨.prepare _ _, h, m, rfl, rfl, rfl⟩
  | sent t => exact .inr ⟨_, rfl, m, rfl, rfl, t, rfl⟩
  | sendRaised t _ h => exact h.imp id fun h => ⟨.send _ _, h, m, rfl, rfl, t, rfl⟩
  | committed => exact .inr ⟨_, rfl, m, rfl, rfl, rfl⟩
  | commitRaised h => exact h.imp id fun h => ⟨.commit _ _, h, m, rfl, rfl, rfl⟩
  | cleanup hm h => exact h.imp id fun h => ⟨.cleanup _, h, m, rfl, rfl, hm⟩

/-- The expected sequence of a conversation stays, or the message is committed. -/
theorem stored (h : Moves sm m b s s' b') (cid : String) : b'.stored sm cid = b.stored sm cid ∨
    s = .persisted ∧ cid = m.conversationId ∧ b'.stored sm cid = luaSucc m.sequenceNumber := by
  rcases h.eq_or_apply with rfl | ⟨c, rfl, hc⟩
  · exact .inl rfl
  rw [Backend.stored_apply]
  cases c with
  | commit cid' seq =>
    obtain ⟨hs, m', hm', rfl, rfl⟩ := Stage.allows_commit hc
    obtain rfl := Option.some.inj hm'
    by_cases h : m.conversationId = cid
    · exact .inr ⟨hs, h.symm, if_pos h⟩
    · exact .inl (if_neg h)
  | _ => exact .inl rfl

/-- The log stays, or the message is appended. -/
theorem log (h : Moves sm m b s s' b') : b'.log = b.log ∨
    s = .ready ∧ ∃ t, b'.log = b.log ++ [⟨m.conversationId, toKafkaPayload t m⟩] := by
  rcases h.eq_or_apply with rfl | ⟨c, rfl, hc⟩
  · exact .inl rfl
  cases c with
  | send cid p =>
    obtain ⟨hs, m', hm', rfl, t, rfl⟩ := Stage.allows_send hc
    obtain rfl := Option.some.inj hm'
    exact .inr ⟨hs, t, rfl⟩
  | _ => exact .inl rfl

/-- The records of a conversation stay, or the message is appended. -/
theorem records (h : Moves sm m b s s' b') (cid : String) : b'.records cid = b.records cid ∨
    s = .ready ∧ cid = m.conversationId ∧
      ∃ t, b'.records cid = b.records cid ++ [⟨cid, toKafkaPayload t m⟩] := by
  rcases h.log with h | ⟨hs, t, h⟩
  · exact .inl (by unfold Backend.records; rw [h])
  · by_cases hc : m.conversationId = cid
    · subst hc; exact .inr ⟨hs, rfl, t, by unfold Backend.records; rw [h]; simp⟩
    · exact .inl (by unfold Backend.records; rw [h]; simp [hc])

end Moves

/-- **What a served call does**: it reads the clock, or moves the handler of a valid
message one stage on. -/
theorem Handler.serve_moves {h : Handler d} {c : Call} (hc : h.pending = some c) (b : Backend)
    (fate : Fate) (now : Datetime) :
    ((b.exec d.sm fate now c).1 = b ∧
      (h.advance fun c => (b.exec d.sm fate now c).2).stage = h.stage) ∨
    ∃ m ∈ h.message?, Moves d.sm m b h.stage
      (h.advance fun c => (b.exec d.sm fate now c).2).stage (b.exec d.sm fate now c).1 := by
  have hallow := allows hc
  rw [stage_advance hc]
  cases c with
  | utcNow => exact .inl ⟨rfl, rfl⟩
  | prepare cid seq =>
    obtain ⟨hs, m, hm, rfl, rfl⟩ := Stage.allows_prepare hallow
    refine .inr ⟨m, hm, ?_⟩
    rw [hs]
    rcases hr : (b.exec d.sm fate now (.prepare m.conversationId m.sequenceNumber)).2 with e | o
    · exact .prepareRaised (Backend.exec_fst fate now)
    · obtain ⟨hb, ho⟩ := Backend.exec_prepare_ok hr
      rw [Backend.prepare_snd] at ho
      rw [hb, ho]
      simp only [Stage.next]
      -- expected, below, above
      split_ifs with h1 h2
      · exact .preChecked h1
      · exact .replay h2
      · exact .reject (lt_of_le_of_ne (not_lt.1 h2) (Ne.symm h1))
  | send cid p =>
    obtain ⟨hs, m, hm, rfl, t, rfl⟩ := Stage.allows_send hallow
    refine .inr ⟨m, hm, ?_⟩
    rw [hs]
    rcases hr : (b.exec d.sm fate now (.send m.conversationId (toKafkaPayload t m))).2 with e | o
    · rcases e with _ | _ | _
      · exact .sendRaised t (.inl rfl) (Backend.exec_fst fate now)
      · exact .sendRaised t (.inr rfl) (Backend.exec_fst fate now)
      · exact .sendRaised t (.inr rfl) (Backend.exec_fst fate now)
    · rw [Backend.exec_send_ok hr]
      exact .sent t
  | commit cid seq =>
    obtain ⟨hs, m, hm, rfl, rfl⟩ := Stage.allows_commit hallow
    refine .inr ⟨m, hm, ?_⟩
    rw [hs]
    rcases hr : (b.exec d.sm fate now (.commit m.conversationId m.sequenceNumber)).2 with e | o
    · exact .commitRaised (Backend.exec_fst fate now)
    · rw [Backend.exec_commit_ok hr]
      exact .committed
  | cleanup cid =>
    obtain ⟨hs, m, hm, rfl, ht⟩ := Stage.allows_cleanup hallow
    refine .inr ⟨m, hm, ?_⟩
    rw [hs]
    exact .cleanup ht (Backend.exec_fst fate now)

/-! ## Steps -/

namespace World

variable {w : World d}

theorem step_exec (w : World d) (id : ℕ) (fate : Fate) (now : Datetime) :
    w.step (.exec id fate now) = w ∨ ∃ h c, w.handlers[id]? = some h ∧ h.pending = some c ∧
      w.step (.exec id fate now) = w.serve id h c fate now := by
  simp only [step]
  cases hh : w.handlers[id]? with
  | none => exact .inl rfl
  | some h =>
    cases hc : h.pending with
    | none => exact .inl (by simp only [hc])
    | some c => exact .inr ⟨h, c, rfl, hc, by simp only [hc]⟩

theorem serve_handlers {id : ℕ} {h : Handler d} {c : Call} {fate : Fate} {now : Datetime}
    {j : ℕ} {x : Handler d} (hx : (w.serve id h c fate now).handlers[j]? = some x) :
    (j = id ∧ x = h.advance fun c => (w.backend.exec d.sm fate now c).2) ∨
      (j ≠ id ∧ w.handlers[j]? = some x) := by
  simp only [serve, List.getElem?_set] at hx
  split at hx
  · next hj =>
    split at hx
    · exact .inl ⟨hj.symm, (Option.some.inj hx).symm⟩
    · cases hx
  · next hj => exact .inr ⟨Ne.symm hj, hx⟩

/-- **Where a handler comes from**: it was there, was just submitted, was cut off, or
was served. -/
theorem step_getElem? {e : Event} {j : ℕ} {x : Handler d} (hx : (w.step e).handlers[j]? = some x) :
    w.handlers[j]? = some x ∨ (∃ s, e = .submit s ∧ j = w.handlers.length ∧ x = .start s) ∨
      (∃ h, e = .stop j ∧ w.handlers[j]? = some h ∧ x = { h with stopped := true }) ∨
      ∃ h c fate now, e = .exec j fate now ∧ w.handlers[j]? = some h ∧ h.pending = some c ∧
        x = h.advance fun c => (w.backend.exec d.sm fate now c).2 := by
  cases e with
  | tick => exact .inl hx
  | submit s =>
    simp only [step, List.getElem?_append, List.getElem?_singleton] at hx
    split_ifs at hx with h1 h2
    · exact .inl hx
    · exact .inr (.inl ⟨s, rfl, by omega, (Option.some.inj hx).symm⟩)
  | stop id =>
    simp only [step, List.getElem?_modify] at hx
    obtain ⟨y, hy, hyx⟩ := Option.map_eq_some_iff.1 hx
    split at hyx
    · next hid => subst hid; exact .inr (.inr (.inl ⟨y, rfl, hy, hyx.symm⟩))
    · exact .inl (hyx ▸ hy)
  | exec id fate now =>
    rcases step_exec w id fate now with he | ⟨h, c, hh, hc, he⟩
    · rw [he] at hx; exact .inl hx
    rw [he] at hx
    rcases serve_handlers hx with ⟨rfl, hx'⟩ | ⟨-, hx'⟩
    · exact .inr (.inr (.inr ⟨h, c, fate, now, rfl, hh, hc, hx'⟩))
    · exact .inl hx'

/-- What was submitted, in order. -/
def submissions (w : World d) : List Submission := w.handlers.map Handler.submission

/-- Only a submission adds a handler, and no handler changes what it works on. -/
theorem step_submissions (w : World d) (e : Event) : (w.step e).submissions =
    w.submissions ++ (match e with | .submit s => [s] | _ => []) := by
  cases e with
  | submit s => simp [submissions, step, Handler.start]
  | tick => simp [submissions, step]
  | stop id =>
    refine List.ext_getElem? fun j => ?_
    simp only [submissions, step, List.getElem?_map, List.getElem?_modify, List.append_nil]
    cases w.handlers[j]? with
    | none => rfl
    | some h => simp only [Option.map_some]; split_ifs <;> rfl
  | exec id fate now =>
    rcases step_exec w id fate now with he | ⟨h, c, hh, -, he⟩
    · rw [he, List.append_nil]
    rw [he, List.append_nil]
    refine List.ext_getElem? fun j => ?_
    simp only [submissions, serve, List.getElem?_map, List.getElem?_set]
    split_ifs with hj hlt
    · subst hj; rw [hh]; rfl
    · subst hj; rw [hh] ; exact absurd (List.getElem?_eq_some_iff.1 hh).1 hlt
    · rfl

theorem length_step (w : World d) (e : Event) : (w.step e).handlers.length =
    w.handlers.length + (match e with | .submit _ => 1 | _ => 0) := by
  have h := congrArg List.length (step_submissions w e)
  cases e <;> simpa [submissions] using h

/-- **Rule for handlers.** A property of a handler beside the backends holds of every
handler after a step, if it holds of a fresh one, does not mind a cut-off or a tick,
and after a served call holds of the handler served and of the others. -/
theorem step_handlers {P : Backend → Handler d → Prop} {w : World d} {e : Event}
    (hP : ∀ h ∈ w.handlers, P w.backend h)
    (hstart : ∀ s, e = .submit s → P w.backend (.start s))
    (hstop : ∀ h, P w.backend h → P w.backend { h with stopped := true })
    (htick : e = .tick → ∀ h ∈ w.handlers, P w.backend h → P w.backend.tick h)
    (hserve : ∀ id h c fate now, e = .exec id fate now → w.handlers[id]? = some h →
      h.pending = some c →
      P (w.backend.exec d.sm fate now c).1 (h.advance fun c => (w.backend.exec d.sm fate now c).2) ∧
      ∀ j x, j ≠ id → w.handlers[j]? = some x → P (w.backend.exec d.sm fate now c).1 x) :
    ∀ h ∈ (w.step e).handlers, P (w.step e).backend h := by
  intro x hx
  cases e with
  | submit s =>
    rcases List.mem_append.1 hx with hx | hx
    · exact hP x hx
    · rw [List.mem_singleton] at hx; subst hx; exact hstart s rfl
  | stop id =>
    obtain ⟨j, hj⟩ := List.mem_iff_getElem?.1 hx
    simp only [step, List.getElem?_modify] at hj
    obtain ⟨y, hy, hyx⟩ := Option.map_eq_some_iff.1 hj
    have hPy := hP y (List.mem_of_getElem? hy)
    split at hyx
    · subst hyx; exact hstop y hPy
    · subst hyx; exact hPy
  | tick => exact htick rfl x hx (hP x hx)
  | exec id fate now =>
    rcases step_exec w id fate now with he | ⟨h, c, hh, hc, he⟩
    · rw [he] at hx ⊢; exact hP x hx
    · rw [he] at hx ⊢
      obtain ⟨hs, ho⟩ := hserve id h c fate now rfl hh hc
      obtain ⟨j, hj⟩ := List.mem_iff_getElem?.1 hx
      rcases serve_handlers hj with ⟨rfl, rfl⟩ | ⟨hne, hx'⟩
      · exact hs
      · exact ho j x hne hx'

end World

end Transcribe
