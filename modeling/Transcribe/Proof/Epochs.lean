import Transcribe.Proof.Ordered

/-!
# Epochs of a conversation

A sequence key that expires sets its conversation back to `0`. Where it does so only
between two messages, the log is a row of epochs, each one ordered and loss-free.

* `Moves.epoch`: what a served call does to the current epoch.
* `epochs_of_run`: the log of the conversation in every run with one handler at a time.
-/

namespace Transcribe

open Resumption EventSystem CountingLog

variable {d : Deps} {cid : String}

namespace Moves

variable {sm : RedisSequenceStateMachine} {m : InboundMessage} {b b' : Backend} {s s' : Stage}

/-- A conversation that the message is not of stays as it is. -/
theorem elsewhere (h : Moves sm m b s s' b') (hc : m.conversationId ≠ cid) :
    b'.stored sm cid = b.stored sm cid ∧ b'.records cid = b.records cid := by
  refine ⟨(h.stored cid).resolve_right ?_, (h.records cid).resolve_right ?_⟩
  · rintro ⟨-, rfl, -⟩; exact hc rfl
  · rintro ⟨-, rfl, -⟩; exact hc rfl

/-- A send that may have been appended. -/
theorem epoch_append {past : List (List Record)} {cur : List Record} {t : Datetime}
    (hl : Epochs Record.number (b.stored sm m.conversationId) (b.records m.conversationId) past cur)
    (hs : m.sequenceNumber = b.stored sm m.conversationId) :
    Epochs Record.number
      ((b.apply sm (.send m.conversationId (toKafkaPayload t m))).stored sm m.conversationId)
      ((b.apply sm (.send m.conversationId (toKafkaPayload t m))).records m.conversationId) past
      (cur ++ [⟨m.conversationId, toKafkaPayload t m⟩]) := by
  have hrec := @Backend.records_apply sm b (.send m.conversationId (toKafkaPayload t m))
    m.conversationId
  rw [Backend.stored_apply, hrec]
  simp only [if_true]
  exact hl.append hs

/-- A commit that may have taken effect. -/
theorem epoch_advance {past : List (List Record)} {cur : List Record}
    (hl : Epochs Record.number (b.stored sm m.conversationId) (b.records m.conversationId) past cur)
    (hs : Stage.persisted.InOrder (b.stored sm m.conversationId) cur m) :
    Epochs Record.number
      ((b.apply sm (.commit m.conversationId m.sequenceNumber)).stored sm m.conversationId)
      ((b.apply sm (.commit m.conversationId m.sequenceNumber)).records m.conversationId) past cur := by
  obtain ⟨hm, hlt, hlast⟩ := hs
  have hsucc : luaSucc m.sequenceNumber = b.stored sm m.conversationId + 1 := by
    rw [luaSucc_of_lt (hm ▸ hlt), hm]
  rw [Backend.stored_apply, Backend.records_apply]
  simp only [if_true, hsucc]
  exact hl.advance hlast

/-- **What a served call does to the current epoch** of the message's conversation. -/
theorem epoch (h : Moves sm m b s s' b') {past : List (List Record)} {cur : List Record}
    (hl : Epochs Record.number (b.stored sm m.conversationId) (b.records m.conversationId) past cur)
    (hs : s.InOrder (b.stored sm m.conversationId) cur m) :
    ∃ cur', Epochs Record.number (b'.stored sm m.conversationId) (b'.records m.conversationId) past cur' ∧
      s'.InOrder (b'.stored sm m.conversationId) cur' m := by
  -- a pre-check moves neither the counter nor the log
  have hprepare : Epochs Record.number
      ((b.apply sm (.prepare m.conversationId m.sequenceNumber)).stored sm m.conversationId)
      ((b.apply sm (.prepare m.conversationId m.sequenceNumber)).records m.conversationId) past cur := by
    rw [Backend.stored_apply]
    exact hl
  cases h with
  | preChecked h =>
    refine ⟨cur, hprepare, ?_⟩
    have hlt : m.sequenceNumber < 2 ^ 53 := hs.resolve_right fun hne => hne h
    rw [tonumber_of_le hlt.le] at h
    rw [Backend.stored_apply]
    exact ⟨h, h ▸ hlt⟩
  | replay => exact ⟨cur, hprepare, trivial⟩
  | reject => exact ⟨cur, hprepare, trivial⟩
  | prepareRaised h =>
    rcases h with rfl | rfl
    · exact ⟨cur, hl, trivial⟩
    · exact ⟨cur, hprepare, trivial⟩
  | sent t =>
    refine ⟨_, epoch_append hl hs.1, ?_⟩
    rw [Backend.stored_apply]
    exact ⟨hs.1, hs.2, ⟨m.conversationId, toKafkaPayload t m⟩, by simp, hs.1⟩
  | sendRaised t _ h =>
    rcases h with rfl | rfl
    · exact ⟨cur, hl, trivial⟩
    · exact ⟨_, epoch_append hl hs.1, trivial⟩
  | committed => exact ⟨cur, epoch_advance hl hs, trivial⟩
  | commitRaised h =>
    rcases h with rfl | rfl
    · exact ⟨cur, hl, trivial⟩
    · exact ⟨cur, epoch_advance hl hs, trivial⟩
  | cleanup _ h =>
    rcases h with rfl | rfl
    · exact ⟨cur, hl, trivial⟩
    · refine ⟨cur, ?_, trivial⟩
      rw [Backend.stored_apply]
      exact hl

end Moves

namespace World

/-- The sequence key of `cid` expires only when no handler of the conversation is in flight. -/
def QuietExpiry (cid : String) (w : World d) (e : Event) : Prop :=
  w.NoExpiry cid e ∨ ∀ h ∈ w.handlers, h.For cid → h.pending = none

instance (cid : String) (w : World d) : DecidablePred (w.QuietExpiry cid) := fun e =>
  inferInstanceAs (Decidable (w.NoExpiry cid e ∨ ∀ h ∈ w.handlers, h.For cid → h.pending = none))

/-- The conditions on a run under which the log is a row of epochs. -/
def OneInAnEpoch (cid : String) (w : World d) (e : Event) : Prop :=
  w.Sequential cid e ∧ w.QuietExpiry cid e ∧ w.InRange cid e

instance (cid : String) (w : World d) : DecidablePred (w.OneInAnEpoch cid) := fun e =>
  inferInstanceAs (Decidable (w.Sequential cid e ∧ w.QuietExpiry cid e ∧ w.InRange cid e))

/-- The log is a row of epochs, and the handler in flight relies on the current one. -/
structure InEpochs (cid : String) (past : List (List Record)) (cur : List Record) (w : World d) :
    Prop where
  one : ∀ i j, w.Busy cid i → w.Busy cid j → i = j
  log : Epochs Record.number (w.stored cid) (w.records cid) past cur
  handlers : ∀ h ∈ w.handlers, h.pending ≠ none → ∀ m ∈ h.message?, m.conversationId = cid →
    h.stage.InOrder (w.stored cid) cur m

variable {w : World d} {e : Event} {past : List (List Record)} {cur : List Record}

theorem init_inEpochs : (init : World d).InEpochs cid [] [] := by
  have hst : (init : World d).stored cid = 0 := congrArg Sequencer.next (@init_sequencer d cid)
  refine ⟨init_ordered.one, ?_, by simp [init]⟩
  rw [hst]
  exact Epochs.nil

/-- One handler at a time. -/
theorem one_step (hone : ∀ i j, w.Busy cid i → w.Busy cid j → i = j) (hseq : w.Sequential cid e) :
    ∀ i j, (w.step e).Busy cid i → (w.step e).Busy cid j → i = j := by
  intro i j hi hj
  have hnew : ∀ i s, e = .submit s → (∃ m ∈ d.message? s, m.conversationId = cid) → ¬ w.Busy cid i := by
    rintro i s rfl hm ⟨h, hh, hfor, hp⟩
    exact hp (hseq hm h (List.mem_of_getElem? hh) hfor)
  rcases busy_step hi with hi | ⟨s, hs, hi, hm⟩
  · rcases busy_step hj with hj | ⟨s, hs, -, hm⟩
    · exact hone i j hi hj
    · exact absurd hi (hnew i s hs hm)
  · rcases busy_step hj with hj | ⟨s', -, hj, -⟩
    · exact absurd hj (hnew j s hs hm)
    · rw [hi, hj]

/-- A second passes: the epoch goes on, or it is closed while no handler is in flight. -/
theorem InEpochs.tick (hw : w.InEpochs cid past cur) (hexp : w.QuietExpiry cid .tick)
    (hone : ∀ i j, (w.step .tick).Busy cid i → (w.step .tick).Busy cid j → i = j) :
    ∃ past' cur', (w.step .tick).InEpochs cid past' cur' := by
  by_cases hno : w.NoExpiry cid .tick
  · have hst : (w.step .tick).stored cid = w.stored cid := Backend.stored_tick hno
    refine ⟨past, cur, hone, ?_, ?_⟩
    · rw [hst]; exact hw.log
    · rw [hst]; exact hw.handlers
  · have hquiet := hexp.resolve_left hno
    have hst : (w.step .tick).stored cid = 0 := by
      obtain ⟨entry, hentry, hlast⟩ :
          ∃ entry, w.backend.redis (d.sm.key cid) = some entry ∧ entry.ttl ≤ 1 := by
        by_contra hnone
        refine hno fun entry hentry => ?_
        by_contra hle
        exact hnone ⟨entry, hentry, by omega⟩
      simp [step, stored, Backend.tick, Backend.stored, TtlStore.get, TtlStore.tick, hentry, hlast]
    refine ⟨past ++ [cur], [], hone, ?_, fun h hh hp m hm hmc => ?_⟩
    · rw [hst]; exact hw.log.restart
    · exact absurd (hquiet h hh ⟨m, hm, hmc⟩) hp

/-- A call is served: the epoch grows or moves on. -/
theorem InEpochs.serve (hw : w.InEpochs cid past cur) {id : ℕ} {h : Handler d} {c : Call}
    (hh : w.handlers[id]? = some h) (hp : h.pending = some c) (fate : Fate) (now : Datetime)
    (hone : ∀ i j, (w.serve id h c fate now).Busy cid i → (w.serve id h c fate now).Busy cid j → i = j) :
    ∃ cur', (w.serve id h c fate now).InEpochs cid past cur' := by
  have hlive : h.pending ≠ none := by rw [hp]; simp
  have hmem := List.mem_of_getElem? hh
  rcases Handler.serve_moves hp w.backend fate now with ⟨hb, hs⟩ | ⟨m, hm, hmv⟩
  · have hst : (w.serve id h c fate now).stored cid = w.stored cid := by
      simp only [World.serve, World.stored, hb]
    have hrec : (w.serve id h c fate now).records cid = w.records cid := by
      simp only [World.serve, World.records, hb]
    refine ⟨cur, hone, ?_, fun x hx hxp m hm hmc => ?_⟩
    · rw [hst, hrec]; exact hw.log
    · rw [hst]
      obtain ⟨j, hj⟩ := List.mem_iff_getElem?.1 hx
      rcases serve_handlers hj with ⟨rfl, rfl⟩ | ⟨-, hx'⟩
      · rw [hs]; exact hw.handlers h hmem hlive m hm hmc
      · exact hw.handlers x (List.mem_of_getElem? hx') hxp m hm hmc
  -- the message is one of the conversation, or of another one
  by_cases hmc : m.conversationId = cid
  · subst hmc
    obtain ⟨cur', hlog, horder⟩ := hmv.epoch hw.log (hw.handlers h hmem hlive m hm rfl)
    refine ⟨cur', hone, hlog, fun x hx hxp m' hm' hmc' => ?_⟩
    obtain ⟨j, hj⟩ := List.mem_iff_getElem?.1 hx
    rcases serve_handlers hj with ⟨rfl, rfl⟩ | ⟨hne, hx'⟩
    · obtain rfl : m' = m := Option.mem_unique hm' hm
      exact horder
    · -- the handler served is the one in flight
      exact absurd (hw.one j id ⟨x, hx', ⟨m', hm', hmc'⟩, hxp⟩ ⟨h, hh, ⟨m, hm, rfl⟩, hlive⟩) hne
  · obtain ⟨hst, hrec⟩ := hmv.elsewhere hmc
    refine ⟨cur, hone, ?_, fun x hx hxp m' hm' hmc' => ?_⟩
    · have hlog := hw.log
      unfold stored records at hlog ⊢
      rwa [← hst, ← hrec] at hlog
    · have hst' : (w.serve id h c fate now).stored cid = w.stored cid := hst
      rw [hst']
      obtain ⟨j, hj⟩ := List.mem_iff_getElem?.1 hx
      rcases serve_handlers hj with ⟨rfl, rfl⟩ | ⟨-, hx'⟩
      · obtain rfl : m' = m := Option.mem_unique hm' hm
        exact absurd hmc' hmc
      · exact hw.handlers x (List.mem_of_getElem? hx') hxp m' hm' hmc'

theorem step_inEpochs (hw : ∃ past cur, w.InEpochs cid past cur) (hok : w.OneInAnEpoch cid e) :
    ∃ past cur, (w.step e).InEpochs cid past cur := by
  obtain ⟨past, cur, hw⟩ := hw
  obtain ⟨hseq, hexp, hrange⟩ := hok
  have hone := one_step hw.one hseq
  cases e with
  | tick => exact hw.tick hexp hone
  | submit s =>
    refine ⟨past, cur, hone, hw.log, fun h hh hp m hm hmc => ?_⟩
    rcases List.mem_append.1 hh with hh | hh
    · exact hw.handlers h hh hp m hm hmc
    · obtain rfl := List.mem_singleton.1 hh
      exact hrange m hm hmc
  | stop id =>
    refine ⟨past, cur, hone, hw.log, fun h hh hp m hm hmc => ?_⟩
    obtain ⟨j, hj⟩ := List.mem_iff_getElem?.1 hh
    -- a handler that is stopped has nothing in flight
    rcases step_getElem? hj with hj | ⟨s, he, -⟩ | ⟨h', -, -, rfl⟩ | ⟨h', c, _, _, he, -⟩
    · exact hw.handlers h (List.mem_of_getElem? hj) hp m hm hmc
    · cases he
    · exact absurd rfl hp
    · cases he
  | exec id fate now =>
    rcases step_exec w id fate now with he | ⟨h, c, hh, hp, he⟩
    · rw [he]; exact ⟨past, cur, hw⟩
    · rw [he] at hone ⊢
      obtain ⟨cur', hw'⟩ := hw.serve hh hp fate now hone
      exact ⟨past, cur', hw'⟩

/-- **The log of a conversation is a row of epochs**: each one starts at `0`, goes up in steps
of at most one, and the current one has reached the expected sequence. -/
theorem epochs_of_run {es : List Event} (h : Along step (OneInAnEpoch cid) (init : World d) es) :
    ∃ (past : List (List Record)) (cur : List Record),
      (after d es).records cid = past.flatten ++ cur ∧
      (∀ p ∈ past, ∃ n, Counts Record.number n p) ∧
      Counts Record.number ((after d es).stored cid) cur := by
  have hrun : ∃ past cur, (after d es).InEpochs cid past cur :=
    along_inv (I := fun w : World d => ∃ past cur, w.InEpochs cid past cur)
      (fun w e hw hok => step_inEpochs hw hok) ⟨[], [], init_inEpochs⟩ h
  obtain ⟨past, cur, hw⟩ := hrun
  exact ⟨past, cur, hw.log.split, hw.log.closed, hw.log.current⟩

section

open Sample

/-- The plain service with keys that live for two seconds. -/
def forgetful : Deps := ⟨sampleLax.modelValidate, ⟨"seq", 2, 1, by decide, by decide⟩⟩

/-- Messages `0` and `1`, two seconds, and message `0` again. -/
def forgotten : List Event :=
  [.submit (message 0), ok 0, ok 0, ok 0, ok 0, ok 0, .submit (message 1), ok 1, ok 1, ok 1, ok 1, ok 1,
    .tick, .tick, .submit (message 0), ok 2, ok 2, ok 2, ok 2, ok 2]

theorem forgotten_epochs : ∃ (past : List (List Record)) (cur : List Record),
    (after forgetful forgotten).records Sample.cid = past.flatten ++ cur ∧
      (∀ p ∈ past, ∃ n, Counts Record.number n p) ∧
      Counts Record.number ((after forgetful forgotten).stored Sample.cid) cur :=
  epochs_of_run
    (show Along step (OneInAnEpoch Sample.cid) (init : World forgetful) forgotten by decide)

example : ((after forgetful forgotten).records Sample.cid).map Record.number = [0, 1, 0] := by decide

end

end World

end Transcribe
