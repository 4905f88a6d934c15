import Transcribe.Proof.Epochs

/-!
# Exactly once

A record is doubled when a retry meets a record whose commit is missing. Where no send is
lost and every send is followed by its commit, a conversation's log is `0, 1, 2, …`.

* `Exact`: the invariant, the log in numbers, before and after the commit.
* `exactly_once`: the log of a conversation, and every acknowledged number in it once.
-/

namespace Transcribe

open Resumption EventSystem

variable {d : Deps} {cid : String}

/-- The call does not leave open whether its record is in the log and committed: no send of
`cid` raises although it took effect, no commit of it raises without. -/
def Fate.Clear (cid : String) : Fate → Call → Prop
  | .lost _, .send c _ => c ≠ cid
  | .failed _, .commit c _ => c ≠ cid
  | _, _ => True

instance (cid : String) : ∀ (fate : Fate) (c : Call), Decidable (fate.Clear cid c)
  | .lost _, .send c _ => inferInstanceAs (Decidable (c ≠ cid))
  | .failed _, .commit c _ => inferInstanceAs (Decidable (c ≠ cid))
  | .ok, _ => .isTrue (by unfold Fate.Clear; trivial)
  | .lost _, .prepare .. | .lost _, .commit .. | .lost _, .cleanup _ | .lost _, .utcNow => .isTrue trivial
  | .failed _, .prepare .. | .failed _, .send .. | .failed _, .cleanup _ | .failed _, .utcNow =>
    .isTrue trivial

deriving instance DecidableEq for Stage

/-- A handler between its send and its commit waits in a call. -/
theorem Handler.persisted_pending {h : Handler d} (hs : h.stage = .persisted) (hstop : h.stopped = false) :
    h.pending ≠ none := by
  unfold Handler.pending
  rw [if_neg (by simp [hstop])]
  cases hrest : h.thread.rest with
  | call c k => simp [Prog.pending]
  | ret a =>
    -- no answer is given at this stage
    have hpost : h.stage.Answers h.message? h.submission.raw a :=
      h.thread.post_of_result (handleMessage_sat _) (by rw [hrest]; rfl)
    rw [hs] at hpost
    cases a <;> exact hpost.elim

namespace World

/-- Every call of the conversation is clear, and no handler is cut off between its send and its
commit. -/
def Clear (cid : String) (w : World d) : Event → Prop
  | .exec id fate _ => ∀ c ∈ w.pending id, fate.Clear cid c
  | .stop id => ∀ h ∈ w.handlers[id]?, h.For cid → h.stage ≠ .persisted
  | _ => True

/-- A record of the conversation waits for its commit. -/
def Uncommitted (cid : String) (w : World d) : Prop :=
  ∃ h ∈ w.handlers, h.For cid ∧ h.stage = .persisted

/-- The numbers of the log. -/
def numbers (w : World d) (cid : String) : List ℕ := (w.records cid).map Record.number

/-- The log in numbers: complete, and without repetition. -/
structure Exact (cid : String) (w : World d) : Prop where
  live : ∀ h ∈ w.handlers, h.For cid → h.stage = .persisted → h.stopped = false
  sent : w.Uncommitted cid → w.numbers cid = List.range (w.stored cid + 1)
  done : ¬ w.Uncommitted cid → w.numbers cid = List.range (w.stored cid)

instance (cid : String) (w : World d) : DecidablePred (w.Clear cid)
  | .exec id fate _ => inferInstanceAs (Decidable (∀ c ∈ w.pending id, fate.Clear cid c))
  | .stop id => inferInstanceAs (Decidable (∀ h ∈ w.handlers[id]?, h.For cid → h.stage ≠ .persisted))
  | .submit _ | .tick => .isTrue trivial

variable {w : World d} {e : Event}

theorem init_exact : (init : World d).Exact cid := by
  have hst : (init : World d).stored cid = 0 := congrArg Sequencer.next (@init_sequencer d cid)
  refine ⟨by simp [init], fun ⟨h, hh, _⟩ => absurd hh List.not_mem_nil, fun _ => ?_⟩
  rw [hst]
  rfl

/-- What stays exact: the log and the expected sequence are the same, and so are the handlers
that wait for a commit. -/
theorem Exact.congr {w' : World d} (hw : w.Exact cid)
    (hlive : ∀ h ∈ w'.handlers, h.For cid → h.stage = .persisted → h.stopped = false)
    (hst : w'.stored cid = w.stored cid) (hrec : w'.records cid = w.records cid)
    (hun : w'.Uncommitted cid ↔ w.Uncommitted cid) : w'.Exact cid := by
  have hnum : w'.numbers cid = w.numbers cid := congrArg (List.map Record.number) hrec
  refine ⟨hlive, fun h => ?_, fun h => ?_⟩
  · rw [hnum, hst]; exact hw.sent (hun.1 h)
  · rw [hnum, hst]; exact hw.done fun h' => h (hun.2 h')

/-- The handler in flight is the only one that may wait for its commit. -/
theorem Exact.alone (hw : w.Exact cid) (hone : ∀ i j, w.Busy cid i → w.Busy cid j → i = j) {id j : ℕ}
    {h x : Handler d} (hh : w.handlers[id]? = some h) (hfor : h.For cid) (hp : h.pending ≠ none)
    (hx : w.handlers[j]? = some x) (hxfor : x.For cid) (hxs : x.stage = .persisted) : j = id := by
  have hstop := hw.live x (List.mem_of_getElem? hx) hxfor hxs
  exact hone j id ⟨x, hx, hxfor, Handler.persisted_pending hxs hstop⟩ ⟨h, hh, hfor, hp⟩

/-- A handler for another conversation, or one before and after its commit, is served. -/
theorem Exact.serve_other (hw : w.Exact cid) {id : ℕ} {h : Handler d} {c : Call}
    (hh : w.handlers[id]? = some h) (fate : Fate) (now : Datetime)
    (hst : (w.serve id h c fate now).stored cid = w.stored cid)
    (hrec : (w.serve id h c fate now).records cid = w.records cid)
    (hstage : h.For cid → (h.stage = .persisted ↔
      (h.advance fun c => (w.backend.exec d.sm fate now c).2).stage = .persisted)) :
    (w.serve id h c fate now).Exact cid := by
  have hmem := List.mem_of_getElem? hh
  have hlt := (List.getElem?_eq_some_iff.1 hh).1
  refine hw.congr (fun x hx hfor hxs => ?_) hst hrec ⟨?_, ?_⟩
  · -- the handler itself, or another one, which stays as it is
    obtain ⟨j, hj⟩ := List.mem_iff_getElem?.1 hx
    rcases serve_handlers hj with ⟨rfl, rfl⟩ | ⟨-, hx'⟩
    · exact hw.live h hmem hfor ((hstage hfor).2 hxs)
    · exact hw.live x (List.mem_of_getElem? hx') hfor hxs
  · rintro ⟨x, hx, hfor, hxs⟩
    obtain ⟨j, hj⟩ := List.mem_iff_getElem?.1 hx
    rcases serve_handlers hj with ⟨rfl, rfl⟩ | ⟨-, hx'⟩
    · exact ⟨h, hmem, hfor, (hstage hfor).2 hxs⟩
    · exact ⟨x, List.mem_of_getElem? hx', hfor, hxs⟩
  · rintro ⟨x, hx, hfor, hxs⟩
    obtain ⟨j, hj⟩ := List.mem_iff_getElem?.1 hx
    by_cases hij : id = j
    · subst hij
      obtain rfl : h = x := Option.some.inj (hh.symm.trans hj)
      exact ⟨_, List.mem_of_getElem? (List.getElem?_set_self hlt), hfor, (hstage hfor).1 hxs⟩
    · exact ⟨x, List.mem_of_getElem? ((List.getElem?_set_ne hij).trans hj), hfor, hxs⟩

/-- The send of the message in flight is appended. -/
theorem Exact.serve_sent (hw : w.Exact cid) (hone : ∀ i j, w.Busy cid i → w.Busy cid j → i = j) {id : ℕ}
    {h : Handler d} {p : KafkaPayload} (hh : w.handlers[id]? = some h) (hfor : h.For cid)
    (hp : h.pending = some (.send cid p)) (hs : h.stage = .ready)
    (hnum : p.payload.sequenceNumber = w.stored cid) (now : Datetime) :
    (w.serve id h (.send cid p) .ok now).Exact cid := by
  have hlive : h.pending ≠ none := by rw [hp]; simp
  have hst : (w.serve id h (.send cid p) .ok now).stored cid = w.stored cid := rfl
  have hrec : (w.serve id h (.send cid p) .ok now).records cid = w.records cid ++ [⟨cid, p⟩] := by
    have hrecords := @Backend.records_apply d.sm w.backend (.send cid p) cid
    simp only [if_true] at hrecords
    exact hrecords
  have hstage := Handler.stage_advance hp fun c => (w.backend.exec d.sm .ok now c).2
  -- nobody else waits for a commit, for nobody else is busy
  have hnone : ¬ w.Uncommitted cid := by
    rintro ⟨x, hx, hxfor, hxs⟩
    obtain ⟨j, hj⟩ := List.mem_iff_getElem?.1 hx
    obtain rfl := hw.alone hone hh hfor hlive hj hxfor hxs
    obtain rfl : h = x := Option.some.inj (hh.symm.trans hj)
    rw [hs] at hxs
    cases hxs
  have hun : (w.serve id h (.send cid p) .ok now).Uncommitted cid := by
    refine ⟨_, List.mem_of_getElem? (List.getElem?_set_self (List.getElem?_eq_some_iff.1 hh).1), hfor, ?_⟩
    rw [hstage, hs]
    rfl
  refine ⟨fun x hx hxfor hxs => ?_, fun _ => ?_, fun h => absurd hun h⟩
  · obtain ⟨j, hj⟩ := List.mem_iff_getElem?.1 hx
    rcases serve_handlers hj with ⟨rfl, rfl⟩ | ⟨-, hx'⟩
    · exact (Handler.not_stopped hp : h.stopped = false)
    · exact absurd ⟨x, List.mem_of_getElem? hx', hxfor, hxs⟩ hnone
  · have hold := hw.done hnone
    unfold numbers at hold ⊢
    rw [hrec, List.map_append, hold, hst, List.range_succ]
    simp [Record.number, hnum]

/-- The commit of the message in flight takes effect. -/
theorem Exact.serve_committed (hw : w.Exact cid) (hone : ∀ i j, w.Busy cid i → w.Busy cid j → i = j)
    {id : ℕ} {h : Handler d} {seq : ℕ} (hh : w.handlers[id]? = some h) (hfor : h.For cid)
    (hp : h.pending = some (.commit cid seq)) (hs : h.stage = .persisted) (hseq : seq = w.stored cid)
    (hlt : seq < 2 ^ 53) {fate : Fate} (hfate : ∀ e, fate ≠ .failed e) (now : Datetime) :
    (w.serve id h (.commit cid seq) fate now).Exact cid := by
  have hlive : h.pending ≠ none := by rw [hp]; simp
  have hb : (w.backend.exec d.sm fate now (.commit cid seq)).1 = w.backend.apply d.sm (.commit cid seq) := by
    cases fate with
    | failed e => exact absurd rfl (hfate e)
    | ok | lost => rfl
  have hst : (w.serve id h (.commit cid seq) fate now).stored cid = w.stored cid + 1 := by
    rw [← hseq, ← luaSucc_of_lt hlt]
    simp only [World.serve, World.stored, hb, Backend.stored_apply, if_true]
  have hrec : (w.serve id h (.commit cid seq) fate now).records cid = w.records cid := by
    simp only [World.serve, World.records, hb, Backend.records_apply]
  have hstage := Handler.stage_advance hp fun c => (w.backend.exec d.sm fate now c).2
  -- the record that waited was this one
  have hnone : ¬ (w.serve id h (.commit cid seq) fate now).Uncommitted cid := by
    rintro ⟨x, hx, hxfor, hxs⟩
    obtain ⟨j, hj⟩ := List.mem_iff_getElem?.1 hx
    rcases serve_handlers hj with ⟨rfl, rfl⟩ | ⟨hne, hx'⟩
    · rw [hstage, hs] at hxs
      cases fate <;> cases hxs
    · exact hne (hw.alone hone hh hfor hlive hx' hxfor hxs)
  refine ⟨fun x hx hxfor hxs => absurd ⟨x, hx, hxfor, hxs⟩ hnone, fun h => absurd h hnone, fun _ => ?_⟩
  have hold := hw.sent ⟨h, List.mem_of_getElem? hh, hfor, hs⟩
  unfold numbers at hold ⊢
  rw [hrec, hst, hold]

/-- **A clear call keeps the log exact.** -/
theorem Exact.serve (hw : w.Exact cid) (hord : w.Ordered cid) {id : ℕ} {h : Handler d} {c : Call}
    (hh : w.handlers[id]? = some h) (hp : h.pending = some c) (fate : Fate) (now : Datetime)
    (hclear : fate.Clear cid c) : (w.serve id h c fate now).Exact cid := by
  have hlive : h.pending ≠ none := by rw [hp]; simp
  have hallow := Handler.allows hp
  have hstage := Handler.stage_advance hp fun c => (w.backend.exec d.sm fate now c).2
  have horder := (hord.handlers h (List.mem_of_getElem? hh)).inOrder hlive
  cases c with
  | utcNow => exact hw.serve_other hh fate now rfl rfl fun _ => by rw [hstage]; rfl
  | prepare c' seq =>
    obtain ⟨hs, m, hm, rfl, rfl⟩ := Stage.allows_prepare hallow
    have hb := @Backend.exec_fst d.sm w.backend (.prepare m.conversationId m.sequenceNumber) fate now
    refine hw.serve_other hh fate now ?_ ?_ fun _ => ?_
    · rcases hb with hb | hb <;> simp only [World.serve, World.stored, hb, Backend.stored_apply]
    · rcases hb with hb | hb <;> simp only [World.serve, World.records, hb, Backend.records_apply]
    · -- the pre-check leads to no commit
      rw [hstage, hs]
      refine ⟨fun h => (by cases h), fun hnext => ?_⟩
      rcases hr : (w.backend.exec d.sm fate now (.prepare m.conversationId m.sequenceNumber)).2 with e | o
      · rw [hr] at hnext; cases hnext
      · rw [hr] at hnext
        rcases o with ⟨status, expected⟩
        cases status <;> cases hnext
  | send c' p =>
    obtain ⟨hs, m, hm, rfl, t, rfl⟩ := Stage.allows_send hallow
    -- a send appends, unless it fails without effect
    by_cases hc : m.conversationId = cid
    · subst hc
      cases fate with
      | lost e => exact absurd rfl hclear
      | failed e =>
        refine hw.serve_other hh _ now rfl rfl fun _ => ?_
        rw [hstage, hs]
        cases e <;> exact ⟨fun h => (by cases h), fun h => (by cases h)⟩
      | ok =>
        have hin := horder m hm rfl
        rw [hs] at hin
        exact hw.serve_sent hord.one hh ⟨m, hm, rfl⟩ hp hs hin.1 now
    · have hb := @Backend.exec_fst d.sm w.backend (.send m.conversationId (toKafkaPayload t m)) fate now
      refine hw.serve_other hh fate now ?_ ?_ ?_
      · rcases hb with hb | hb <;> simp only [World.serve, World.stored, hb, Backend.stored_apply]
      · rcases hb with hb | hb <;>
          simp only [World.serve, World.records, hb, Backend.records_apply, hc, if_false]
      · rintro ⟨m', hm', hmc⟩
        exact absurd (Option.mem_unique hm' hm ▸ hmc) hc
  | commit c' seq =>
    obtain ⟨hs, m, hm, rfl, rfl⟩ := Stage.allows_commit hallow
    -- a commit counts the record that waits for it
    by_cases hc : m.conversationId = cid
    · subst hc
      have hin := horder m hm rfl
      rw [hs] at hin
      obtain ⟨hseq, hlt, -⟩ := hin
      refine hw.serve_committed hord.one hh ⟨m, hm, rfl⟩ hp hs hseq (hseq ▸ hlt) ?_ now
      rintro e rfl
      exact hclear rfl
    · have hb := @Backend.exec_fst d.sm w.backend (.commit m.conversationId m.sequenceNumber) fate now
      refine hw.serve_other hh fate now ?_ ?_ ?_
      · rcases hb with hb | hb <;>
          simp only [World.serve, World.stored, hb, Backend.stored_apply, hc, if_false]
      · rcases hb with hb | hb <;> simp only [World.serve, World.records, hb, Backend.records_apply]
      · rintro ⟨m', hm', hmc⟩
        exact absurd (Option.mem_unique hm' hm ▸ hmc) hc
  | cleanup c' =>
    have hb := @Backend.exec_fst d.sm w.backend (.cleanup c') fate now
    refine hw.serve_other hh fate now ?_ ?_ fun _ => by rw [hstage]; rfl
    · rcases hb with hb | hb <;> simp only [World.serve, World.stored, hb, Backend.stored_apply]
    · rcases hb with hb | hb <;> simp only [World.serve, World.records, hb, Backend.records_apply]

/-- **Every step keeps the log exact**, one handler at a time and with clear calls. -/
theorem step_exact (hw : w.Exact cid) (hord : w.Ordered cid) (hexp : w.NoExpiry cid e)
    (hclear : w.Clear cid e) : (w.step e).Exact cid := by
  cases e with
  | tick =>
    have hst : (w.step .tick).stored cid = w.stored cid := Backend.stored_tick hexp
    exact hw.congr hw.live hst rfl Iff.rfl
  | submit s =>
    have hun : (w.step (.submit s)).Uncommitted cid ↔ w.Uncommitted cid := by
      refine ⟨fun ⟨x, hx, hfor, hxs⟩ => ?_, fun ⟨x, hx, hfor, hxs⟩ =>
        ⟨x, List.mem_append_left _ hx, hfor, hxs⟩⟩
      rcases List.mem_append.1 hx with hx | hx
      · exact ⟨x, hx, hfor, hxs⟩
      · obtain rfl := List.mem_singleton.1 hx
        cases hxs
    refine hw.congr (fun x hx hfor hxs => ?_) rfl rfl hun
    rcases List.mem_append.1 hx with hx | hx
    · exact hw.live x hx hfor hxs
    · obtain rfl := List.mem_singleton.1 hx
      rfl
  | stop id =>
    -- what is cut off waits for no commit
    have hold : ∀ x ∈ (w.step (.stop id)).handlers, x.For cid → x.stage = .persisted → x ∈ w.handlers := by
      intro x hx hfor hxs
      obtain ⟨j, hj⟩ := List.mem_iff_getElem?.1 hx
      rcases step_getElem? hj with hj | ⟨s, he, -⟩ | ⟨h, he, hh, rfl⟩ | ⟨h, c, _, _, he, -⟩
      · exact List.mem_of_getElem? hj
      · cases he
      · obtain rfl := Event.stop.inj he
        exact absurd hxs (hclear h hh hfor)
      · cases he
    refine hw.congr (fun x hx hfor hxs => hw.live x (hold x hx hfor hxs) hfor hxs) rfl rfl
      ⟨fun ⟨x, hx, hfor, hxs⟩ => ⟨x, hold x hx hfor hxs, hfor, hxs⟩, fun ⟨x, hx, hfor, hxs⟩ => ?_⟩
    obtain ⟨j, hj⟩ := List.mem_iff_getElem?.1 hx
    by_cases hij : id = j
    · subst hij
      exact absurd hxs (hclear x hj hfor)
    · refine ⟨x, List.mem_iff_getElem?.2 ⟨j, ?_⟩, hfor, hxs⟩
      simp [step, hij, hj]
  | exec id fate now =>
    rcases step_exec w id fate now with he | ⟨h, c, hh, hp, he⟩
    · rw [he]; exact hw
    · rw [he]
      have hpend : w.pending id = some c := by simp [pending, hh, hp]
      exact hw.serve hord hh hp fate now (hclear c hpend)

/-- The conditions on a run under which every message is sent once. -/
def OnceEach (cid : String) (w : World d) (e : Event) : Prop := w.OneAtATime cid e ∧ w.Clear cid e

instance (cid : String) (w : World d) : DecidablePred (w.OnceEach cid) := fun e =>
  inferInstanceAs (Decidable (w.OneAtATime cid e ∧ w.Clear cid e))

/-- **Exactly once**: the log of the conversation is `0, 1, 2, …` up to the number before the
expected one, or up to that while its record waits for the commit; every acknowledged number
is in it once. -/
theorem exactly_once {es : List Event} (h : Along step (OnceEach cid) (init : World d) es) :
    ((after d es).numbers cid = List.range ((after d es).stored cid) ∨
      (after d es).Uncommitted cid ∧
        (after d es).numbers cid = List.range ((after d es).stored cid + 1)) ∧
    ∀ n ∈ (after d es).Acked cid, ((after d es).numbers cid).count n = 1 := by
  have hrun : ((after d es).Complete ∧ (after d es).Ordered cid) ∧ (after d es).Exact cid := by
    refine along_inv (I := fun w : World d => (w.Complete ∧ w.Ordered cid) ∧ w.Exact cid)
      (fun w e hw hok => ?_) ⟨⟨init_complete, init_ordered⟩, init_exact⟩ h
    obtain ⟨⟨hc, hord⟩, hex⟩ := hw
    obtain ⟨⟨hseq, hexp, hrange⟩, hclear⟩ := hok
    exact ⟨⟨step_complete hc e, step_ordered hord hc hseq hexp hrange⟩, step_exact hex hord hexp hclear⟩
  obtain ⟨⟨-, hord⟩, hex⟩ := hrun
  have hlog : (after d es).numbers cid = List.range ((after d es).stored cid) ∨
      (after d es).Uncommitted cid ∧
        (after d es).numbers cid = List.range ((after d es).stored cid + 1) := by
    by_cases hun : (after d es).Uncommitted cid
    · exact .inr ⟨hun, hex.sent hun⟩
    · exact .inl (hex.done hun)
  refine ⟨hlog, fun n hn => ?_⟩
  -- an acknowledged number is below the counter, and below it every number is there once
  have hlt := hord.acked_lt hn
  rcases hlog with hnum | ⟨-, hnum⟩
  · rw [hnum]
    exact List.count_eq_one_of_mem List.nodup_range (List.mem_range.2 hlt)
  · rw [hnum]
    exact List.count_eq_one_of_mem List.nodup_range (List.mem_range.2 (by omega))

section

open Sample

/-- A send that fails, the retry, and a commit whose reply is lost. -/
def retried : List Event :=
  [.submit (message 0), ok 0, ok 0, .exec 0 (.failed (.timeoutError "")) ⟨0⟩, ok 0,
    .submit (message 0), ok 1, ok 1, ok 1, ok 1, ok 1,
    .submit (message 1), ok 2, ok 2, ok 2, .exec 2 (.lost (.other "connection reset")) ⟨0⟩, ok 2]

/-- Message `0` is acknowledged on the retry, and in the log once. -/
theorem retried_once : ((after deps retried).numbers Sample.cid).count 0 = 1 := by
  have hacked : ∃ h ∈ (after deps retried).handlers,
      h.answer? = some ⟨buildTranscriptAck ⟨0⟩ Sample.cid 0, false, .normal⟩ := by decide
  obtain ⟨h, hh, hr⟩ := hacked
  have hrun : Along step (OnceEach Sample.cid) (init : World deps) retried := by decide
  exact (exactly_once hrun).2 0 ⟨h, hh, _, hr, _, _, rfl⟩

example : (after deps retried).numbers Sample.cid = [0, 1] := by decide

end

end World

end Transcribe
