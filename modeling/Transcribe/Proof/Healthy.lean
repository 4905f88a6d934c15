import Transcribe.Proof.Acks

/-!
# A submission handled while the backends are healthy

`healthy_round`: when no call fails, a handler whose number is not ahead of the
expected one answers after finitely many calls, with the ACK of its message, and the
expected sequence moves on if it was the expected number.
-/

namespace Transcribe

open Resumption EventSystem

variable {d : Deps}

/-- `k` calls of handler `id`, none of which fails, at the times of `clock`. -/
def execs (id : ℕ) (clock : ℕ → Datetime) (k : ℕ) : List Event :=
  (List.range k).map fun i => .exec id .ok (clock i)

theorem execs_succ (id : ℕ) (clock : ℕ → Datetime) (k : ℕ) :
    execs id clock (k + 1) = .exec id .ok (clock 0) :: execs id (fun i => clock (i + 1)) k := by
  simp [execs, List.range_succ_eq_map, Function.comp_def]

/-- The healthy backends as an environment, with the clock readings to come. -/
def healthyExec (sm : RedisSequenceStateMachine) (x : Backend × (ℕ → Datetime)) (c : Call) :
    (Backend × (ℕ → Datetime)) × Reply c :=
  (((x.1.exec sm .ok (x.2 0) c).1, fun i => x.2 (i + 1)), (x.1.exec sm .ok (x.2 0) c).2)

namespace World

/-- The `exec` events of the last handler run its program to the end. -/
theorem run_execs (l : List (Handler d)) (p : Prog Call Reply (Except Exc OrchestratorResult)) :
    ∀ {b : Backend} {h : Handler d} (clock : ℕ → Datetime), h.stopped = false → h.thread.rest = p →
      ∃ k h', run step ⟨b, l ++ [h]⟩ (execs l.length clock k) =
          ⟨(p.run (healthyExec d.sm) (b, clock)).1.1, l ++ [h']⟩ ∧
        h'.submission = h.submission ∧ h'.stopped = false ∧
        h'.thread.rest = .ret (p.run (healthyExec d.sm) (b, clock)).2 := by
  induction p with
  | ret a => intro b h clock hs hrest; exact ⟨0, h, rfl, rfl, hs, hrest⟩
  | call c k ih =>
    intro b h clock hs hrest
    have hp : h.pending = some c := by simp [Handler.pending, hs, hrest, Prog.pending]
    set h₁ := h.advance fun c => (b.exec d.sm .ok (clock 0) c).2 with hh₁
    have hstep : step ⟨b, l ++ [h]⟩ (.exec l.length .ok (clock 0)) =
        ⟨(b.exec d.sm .ok (clock 0) c).1, l ++ [h₁]⟩ := by
      simp [step, hp, serve, hh₁]
    have hrest₁ : h₁.thread.rest = k (b.exec d.sm .ok (clock 0) c).2 := by
      rw [hh₁]
      change h.thread.rest.resume _ = _
      rw [hrest]; rfl
    obtain ⟨n, h', hrun, hsub, hs', hres⟩ := ih _ (b := (b.exec d.sm .ok (clock 0) c).1)
      (fun i => clock (i + 1)) (show h₁.stopped = false from hs) hrest₁
    exact ⟨n + 1, h', by rw [execs_succ, run_cons, hstep, hrun]; rfl, hsub, hs', hres⟩

/-- How the backends stand to a handler that nothing fails, by its stage; `e` is the
expected sequence it met. -/
def Met (sm : RedisSequenceStateMachine) (m : InboundMessage) (e : ℕ) (s : Stage) (b : Backend) :
    Prop :=
  match s with
  | .start => b.stored sm m.conversationId = e
  | .ready | .persisted => b.stored sm m.conversationId = e ∧ tonumber m.sequenceNumber = e
  | .replayed => b.stored sm m.conversationId = e ∧ tonumber m.sequenceNumber < e
  | .committed =>
    b.stored sm m.conversationId = luaSucc m.sequenceNumber ∧ tonumber m.sequenceNumber = e
  | .failed _ => False

/-- A call that does not fail keeps the handler of a number not ahead on its way. -/
theorem met_step {sm : RedisSequenceStateMachine} {m : InboundMessage} {e : ℕ}
    (hle : tonumber m.sequenceNumber ≤ e) {s : Stage} {x : Backend × (ℕ → Datetime)} {c : Call}
    (hs : Met sm m e s x.1) (hc : s.Allows (some m) c) :
    Met sm m e (s.next c (healthyExec sm x c).2) (healthyExec sm x c).1.1 := by
  cases c with
  | utcNow => exact hs
  | prepare cid seq =>
    obtain ⟨rfl, m', hm', rfl, rfl⟩ := Stage.allows_prepare hc
    obtain rfl := Option.some.inj hm'
    have he : x.1.stored sm m.conversationId = e := hs
    change Met sm m e (Stage.next .start (.prepare _ _) (.ok (sm.prepare x.1.redis _ _).2))
      (x.1.apply sm (.prepare _ _))
    have hst : (x.1.apply sm (.prepare m.conversationId m.sequenceNumber)).stored sm
        m.conversationId = e := by rw [Backend.stored_apply]; exact he
    rw [Backend.prepare_snd]
    simp only [Stage.next]
    rcases Nat.eq_or_lt_of_le hle with heq | hlt
    · rw [if_pos (heq.trans he.symm)]; exact ⟨hst, heq⟩
    · rw [if_neg (by omega), if_pos (hlt.trans_eq he.symm)]; exact ⟨hst, hlt⟩
  | send cid p =>
    obtain ⟨rfl, m', hm', rfl, t, rfl⟩ := Stage.allows_send hc
    exact ⟨by rw [← hs.1]; exact Backend.stored_apply, hs.2⟩
  | commit cid seq =>
    obtain ⟨rfl, m', hm', rfl, rfl⟩ := Stage.allows_commit hc
    obtain rfl := Option.some.inj hm'
    exact ⟨Backend.stored_apply.trans (if_pos rfl), hs.2⟩
  | cleanup cid =>
    obtain ⟨rfl, m', hm', rfl, -⟩ := Stage.allows_cleanup hc
    exact ⟨by rw [← hs.1]; exact Backend.stored_apply, hs.2⟩

/-- **While the backends are healthy a submission is answered with its ACK**, if its
number is not ahead of the expected one. -/
theorem healthy_round (w : World d) {s : Submission} {m : InboundMessage}
    (hm : d.message? s = some m) (hdict : s.raw.isDict = true)
    (hle : tonumber m.sequenceNumber ≤ w.stored m.conversationId) (clock : ℕ → Datetime) :
    ∃ k h r, (run step (w.step (.submit s)) (execs w.handlers.length clock k)).handlers =
        w.handlers ++ [h] ∧ h.submission = s ∧ h.answer? = some r ∧ IsAck m r ∧
      (run step (w.step (.submit s)) (execs w.handlers.length clock k)).stored m.conversationId =
        if tonumber m.sequenceNumber = w.stored m.conversationId then luaSucc m.sequenceNumber
        else w.stored m.conversationId := by
  have hsat : (protocol (some m)).Sat (d.program s) .start (Stage.Answers (some m) s.raw) := by
    rw [← hm]; exact handleMessage_sat _
  obtain ⟨s', hmet, hans⟩ := Monitor.run_sat
    (J := fun s (x : Backend × (ℕ → Datetime)) => Met d.sm m (w.stored m.conversationId) s x.1)
    (fun s x c hs hc => met_step hle hs hc) hsat (w := (w.backend, clock)) rfl
  obtain ⟨k, h, hrun, hsub, -, hrest⟩ := run_execs w.handlers (d.program s) (b := w.backend)
    (h := .start s) clock rfl rfl
  set out := (d.program s).run (healthyExec d.sm) (w.backend, clock) with hout
  obtain ⟨r, hr, hack, hst⟩ : ∃ r, out.2 = .ok r ∧ IsAck m r ∧
      out.1.1.stored d.sm m.conversationId =
        if tonumber m.sequenceNumber = w.stored m.conversationId then luaSucc m.sequenceNumber
        else w.stored m.conversationId := by
    -- a handler that nothing fails stops in no other stage
    cases s' with
    | replayed =>
      obtain ⟨hst, hlt⟩ := hmet
      cases hr : out.2 with
      | error e => rw [hr] at hans; exact hans.elim
      | ok r =>
        rw [hr] at hans
        obtain ⟨m', hm', hack⟩ := hans
        obtain rfl := Option.some.inj hm'
        exact ⟨r, rfl, hack, by rw [if_neg (by omega)]; exact hst⟩
    | committed =>
      obtain ⟨hst, heq⟩ := hmet
      cases hr : out.2 with
      | error e => rw [hr] at hans; exact hans.elim
      | ok r =>
        rw [hr] at hans
        obtain ⟨m', hm', hack⟩ := hans
        obtain rfl := Option.some.inj hm'
        exact ⟨r, rfl, hack, by rw [if_pos heq]; exact hst⟩
    | start => cases hr : out.2 <;> rw [hr] at hans <;> simp [Stage.Answers] at hans
    | ready => cases hr : out.2 <;> rw [hr] at hans <;> simp [Stage.Answers, hdict] at hans
    | persisted => cases hr : out.2 <;> rw [hr] at hans <;> exact hans.elim
    | failed s => exact hmet.elim
  refine ⟨k, h, r, by rw [World.step, hrun], hsub, ?_, hack, by rw [World.step, hrun]; exact hst⟩
  simp [Handler.answer?, hrest, hr, Prog.result, Except.toOption]

end World

end Transcribe
