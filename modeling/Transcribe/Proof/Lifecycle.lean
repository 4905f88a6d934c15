import Transcribe.Proof.Process

/-!
# The life of the process

* `Process.Sound`: how `run` stands to its tasks, after any events.
* `startup_gated`: the server starts only after both checks have passed; a check that fails keeps
  it from starting and ends the process with status 1.
* `orderly_release`: what was made is closed, in order, once each, and not under a running server
  unless the shutdown itself has failed.
* `never_stuck`: from every state reached there is a way to the end.
-/

namespace Transcribe

open Resumption EventSystem

/-- What the checks raise: a `RuntimeError`, or they have been cancelled. -/
def ProcessExc.Reported (e : ProcessExc) : Prop := (∃ t, e = .runtimeError t) ∨ e = .cancelledError

/-- The checks, whose calls are not watched. -/
def unwatched : Monitor CheckCall CheckReply Unit := .only fun _ => True

theorem checkRedis_sat (c : Startup) :
    unwatched.Sat c.checkRedis.run () fun _ x => ∀ e, x = .error e → e.Reported := by
  refine Monitor.sat_attempt_bind.2 ⟨trivial, fun (x : Except ProcessExc Unit) => ?_⟩
  rcases x with (t | t | _ | t) | _ <;> intro e he <;> cases he
  · exact .inl ⟨_, rfl⟩
  · exact .inl ⟨_, rfl⟩
  · exact .inr rfl
  · exact .inl ⟨_, rfl⟩

theorem checkKafka_sat (c : Startup) :
    unwatched.Sat c.checkKafka.run () fun _ x => ∀ e, x = .error e → e.Reported := by
  refine Monitor.sat_attempt_bind.2 ⟨trivial, fun (x : Except ProcessExc Unit) => ?_⟩
  rcases x with (t | t | _ | t) | _
  · intro e he; cases he; exact .inl ⟨_, rfl⟩
  · refine Monitor.sat_attempt_bind.2 ⟨trivial, fun (x : Except ProcessExc Unit) => ?_⟩
    rcases x with (t | t | _ | t) | _ <;> intro e he <;> cases he
    · exact .inl ⟨_, rfl⟩
    · exact .inl ⟨_, rfl⟩
    · exact .inr rfl
    · exact .inl ⟨_, rfl⟩
    · exact .inl ⟨_, rfl⟩
  · intro e he; cases he; exact .inr rfl
  · intro e he; cases he; exact .inl ⟨_, rfl⟩
  · intro e he; cases he

namespace Process

variable {c : Startup} {w : Process c}

/-- What `run` has done. -/
def progress (w : Process c) : Progress := w.main.state life .start

/-- A check that has ended stays so. -/
theorem result_advance {p : Prog CheckCall CheckReply (Except ProcessExc Unit)} {x : Thread p}
    {a : Except ProcessExc Unit} (h : x.rest.result = some a) (answer : (i : CheckCall) → CheckReply i) :
    (x.advance answer).rest.result = some a := by
  show (x.rest.resume answer).result = some a
  cases hrest : x.rest with
  | ret b => rw [hrest] at h; exact h
  | call i k => rw [hrest] at h; cases h

theorem passed_advance {p : Prog CheckCall CheckReply (Except ProcessExc Unit)} {x : Thread p}
    (h : passed (some x) = true) (answer : (i : CheckCall) → CheckReply i) :
    passed (some (x.advance answer)) = true := by
  have hres : x.rest.result = some (.ok ()) := by
    unfold passed at h
    split at h
    · next heq => exact heq
    · cases h
  unfold passed
  rw [Option.bind_some, result_advance hres]

theorem raisedBy_advance {p : Prog CheckCall CheckReply (Except ProcessExc Unit)} {x : Thread p}
    (h : raisedBy x ≠ none) (answer : (i : CheckCall) → CheckReply i) : raisedBy (x.advance answer) ≠ none := by
  cases hres : x.rest.result with
  | none => exact absurd (by unfold raisedBy; rw [hres]) h
  | some r =>
    unfold raisedBy at h ⊢
    rw [hres] at h
    rwa [result_advance hres]

/-- A check that has returned has raised nothing. -/
theorem raisedBy_of_passed {p : Prog CheckCall CheckReply (Except ProcessExc Unit)} {x : Thread p}
    (h : passed (some x) = true) : raisedBy x = none := by
  unfold raisedBy
  split
  · next e heq =>
    unfold passed at h
    rw [Option.bind_some, heq] at h
    cases h
  · rfl

theorem reported_of_raisedBy {p : Prog CheckCall CheckReply (Except ProcessExc Unit)} {x : Thread p}
    (hp : unwatched.Sat p () fun _ x => ∀ e, x = .error e → e.Reported) {e : ProcessExc}
    (h : raisedBy x = some e) : e.Reported := by
  unfold raisedBy at h
  split at h
  · next e' heq =>
    obtain rfl := Option.some.inj h
    exact x.post_of_result hp heq e' rfl
  · cases h

/-- How `run` stands to its tasks. -/
structure Sound (w : Process c) : Prop where
  created : w.server.created = w.progress.serving
  ended : w.progress.ended = true → w.server.outcome ≠ none
  checked : w.progress.checked = true → passed w.redisCheck = true ∧ passed w.kafkaCheck = true
  failed : ∀ e, w.progress.failed = some e → w.failure = some e
  failure : ∀ e, w.failure = some e → e.Reported
  started : w.redisCheck.isSome = w.progress.gathered ∧ w.kafkaCheck.isSome = w.progress.gathered
  failing : w.failure ≠ none ↔ w.redisCheck.bind raisedBy ≠ none ∨ w.kafkaCheck.bind raisedBy ≠ none
  gated : w.progress.serving = true → w.progress.checked = true ∧ w.progress.failed = none
  closed : w.progress.closed <+: w.progress.owned
  idle : w.progress.closed ≠ [] → w.progress.serving = true →
    w.progress.ended = true ∨ w.progress.broken = true

theorem init_sound : (init : Process c).Sound := by
  exact ⟨rfl, nofun, nofun, nofun, nofun, ⟨rfl, rfl⟩, by simp [init], nofun, List.nil_prefix,
    fun h => absurd rfl h⟩

/-- The end of the server is seen when it is there. -/
theorem ready_ended {i : MainCall} {r r' : MainReply i} (hr : w.ready i r = some r') {s : Progress}
    (h : (s.next i r').ended = true) : s.ended = true ∨ w.server.outcome ≠ none := by
  have hsome : w.server.outcome.isSome = true → w.server.outcome ≠ none := by
    intro hs hn
    rw [hn] at hs
    cases hs
  cases i with
  | assemble a => cases r' <;> exact .inl h
  | awaitChecks => cases r' <;> exact .inl h
  | waitFirst =>
    by_cases hcond : (w.server.outcome.isSome || w.signalled) = true
    · obtain rfl : w.server.outcome.isSome = r' := Option.some.inj ((if_pos hcond).symm.trans hr)
      exact .inr (hsome h)
    · cases (if_neg hcond).symm.trans hr
  | serverResult =>
    have hout : w.server.outcome = some r' := hr
    exact .inr (by rw [hout]; nofun)
  | awaitServerTask =>
    have hout : w.server.outcome = some r' := hr
    exact .inr (by rw [hout]; nofun)
  | serverTaskDone =>
    obtain rfl : w.server.outcome.isSome = r' := Option.some.inj hr
    rcases Bool.or_eq_true_iff.1 (h : (s.ended || w.server.outcome.isSome) = true) with hs | hs
    · exact .inl hs
    · exact .inr (hsome hs)
  | _ => exact .inl h

/-- The checks' end is seen when it is there. -/
theorem ready_passed {r : MainReply .awaitChecks} (hr : w.ready .awaitChecks r = some (.ok ())) :
    passed w.redisCheck = true ∧ passed w.kafkaCheck = true := by
  unfold ready at hr
  cases hfailure : w.failure with
  | some e =>
    rw [hfailure] at hr
    cases Option.some.inj hr
  | none =>
    rw [hfailure] at hr
    by_cases hboth : (passed w.redisCheck && passed w.kafkaCheck) = true
    · exact Bool.and_eq_true_iff.1 hboth
    · cases (if_neg hboth).symm.trans hr

theorem ready_failed {r : MainReply .awaitChecks} {e : ProcessExc}
    (hr : w.ready .awaitChecks r = some (.error e)) : w.failure = some e := by
  unfold ready at hr
  cases hfailure : w.failure with
  | some e' =>
    rw [hfailure] at hr
    rw [Except.error.inj (Option.some.inj hr)]
  | none =>
    rw [hfailure] at hr
    by_cases hboth : (passed w.redisCheck && passed w.kafkaCheck) = true
    · cases Option.some.inj ((if_pos hboth).symm.trans hr)
    · cases (if_neg hboth).symm.trans hr

/-- **`run` goes on.** -/
theorem Sound.main (h : w.Sound) {i : MainCall} {r₀ r : MainReply i} (hp : w.pending = some i)
    (hr : w.ready i r₀ = some r) {answer : (i : MainCall) → MainReply i} (ha : answer i = r) :
    Sound { w.effect i with main := w.main.advance answer } := by
  have hok : w.progress.Allows i := w.main.ok_of_pending run_sat hp
  have hnext : Process.progress { w.effect i with main := w.main.advance answer } = w.progress.next i r := by
    rw [← ha]
    exact Thread.state_advance hp
  have hserver : (w.effect i).server.created = (w.server.created || decide (i = .createTasks)) ∧
      (w.effect i).server.outcome = w.server.outcome ∧ (w.effect i).failure = w.failure := by
    cases i <;> simp [effect]
  have hchecks : i ≠ .gather → (w.effect i).redisCheck = w.redisCheck ∧ (w.effect i).kafkaCheck = w.kafkaCheck := by
    intro hi
    cases i <;> first | exact ⟨rfl, rfl⟩ | exact absurd rfl hi
  -- the fields of `Sound` in order: the server, the checks, what has failed, and the progress
  refine ⟨?_, ?_, ?_, ?_, ?_, ?_, ?_, ?_, ?_, ?_⟩
  · rw [hnext, Progress.next_serving, ← h.created]
    exact hserver.1
  · intro hended
    rw [hnext] at hended
    show (w.effect i).server.outcome ≠ none
    rw [hserver.2.1]
    exact (ready_ended hr hended).elim h.ended id
  · intro hchecked
    rw [hnext] at hchecked
    show passed (w.effect i).redisCheck = true ∧ passed (w.effect i).kafkaCheck = true
    -- checks that have passed are not started again
    have hi : i ≠ .gather := by
      rintro rfl
      have hfalse : w.progress.checked = true := hchecked
      rw [hok.2.2.1] at hfalse
      cases hfalse
    rw [(hchecks hi).1, (hchecks hi).2]
    rcases Progress.next_checked hchecked with hold | hnew
    · exact h.checked hold
    · obtain ⟨rfl, hx⟩ := Sigma.mk.inj hnew
      obtain rfl := eq_of_heq hx
      exact ready_passed hr
  · intro e he
    rw [hnext] at he
    show (w.effect i).failure = some e
    rw [hserver.2.2]
    rcases Progress.next_failed he with hold | hnew
    · exact h.failed e hold
    · obtain ⟨rfl, hx⟩ := Sigma.mk.inj hnew
      obtain rfl := eq_of_heq hx
      exact ready_failed hr
  · intro e he
    have hold : (w.effect i).failure = some e := he
    rw [hserver.2.2] at hold
    exact h.failure e hold
  · rw [hnext, Progress.next_gathered]
    by_cases hi : i = .gather
    · subst hi
      simp [effect]
    · show (w.effect i).redisCheck.isSome = _ ∧ (w.effect i).kafkaCheck.isSome = _
      rw [(hchecks hi).1, (hchecks hi).2, h.started.1, h.started.2]
      simp [hi]
  · show (w.effect i).failure ≠ none ↔
      (w.effect i).redisCheck.bind raisedBy ≠ none ∨ (w.effect i).kafkaCheck.bind raisedBy ≠ none
    rw [hserver.2.2, h.failing]
    by_cases hi : i = .gather
    · -- the checks are not there yet, so that nothing has failed
      subst hi
      have hnone := h.started
      rw [hok.2.1, Option.isSome_eq_false_iff, Option.isSome_eq_false_iff, Option.isNone_iff_eq_none,
        Option.isNone_iff_eq_none] at hnone
      have hredis : raisedBy (Thread.start c.checkRedis.run) = none := rfl
      have hkafka : raisedBy (Thread.start c.checkKafka.run) = none := rfl
      rw [hnone.1, hnone.2]
      simp [effect, hredis, hkafka]
    · rw [(hchecks hi).1, (hchecks hi).2]
  · intro hserving
    rw [hnext] at hserving ⊢
    exact Progress.next_gated hok h.gated hserving
  · rw [hnext]
    exact Progress.next_closed hok h.closed
  · rw [hnext]
    exact Progress.next_idle hok

/-- The first failure stays. -/
theorem orElse_eq_some {o o' : Option ProcessExc} {e : ProcessExc} :
    (o <|> o') = some e ↔ o = some e ∨ o = none ∧ o' = some e := by
  cases o with
  | some a => simp
  | none => simp

theorem failure_raised {o o' : Option ProcessExc} : (o <|> o') ≠ none ↔ o ≠ none ∨ o' ≠ none := by
  cases o with
  | some a => simp
  | none => simp

/-- What a check raises in a step counts from then on. -/
theorem raised_advance_or {p : Prog CheckCall CheckReply (Except ProcessExc Unit)} {x : Thread p}
    {P : Prop} (answer : (i : CheckCall) → CheckReply i) :
    ((some x).bind raisedBy ≠ none ∨ P) ∨ raisedBy (x.advance answer) ≠ none ↔
      (some (x.advance answer)).bind raisedBy ≠ none ∨ P := by
  constructor
  · rintro ((hx | hP) | hx)
    · exact .inl (raisedBy_advance hx answer)
    · exact .inr hP
    · exact .inl hx
  · rintro (hx | hP)
    · exact .inr hx
    · exact .inl (.inr hP)

/-- A check goes on. What it has raised is reported as it is. -/
theorem Sound.redisCheck (h : w.Sound) {x : Thread c.checkRedis.run} (hx : w.redisCheck = some x)
    (answer : (i : CheckCall) → CheckReply i) :
    Sound { w with redisCheck := some (x.advance answer), failure := w.failure <|> raisedBy (x.advance answer) } := by
  refine ⟨h.created, h.ended, fun hc => ⟨?_, (h.checked hc).2⟩, fun e he => ?_, fun e he => ?_, ⟨?_, ?_⟩,
    ?_, h.gated, h.closed, h.idle⟩
  · have hpassed : passed w.redisCheck = true := (h.checked hc).1
    rw [hx] at hpassed
    exact passed_advance hpassed answer
  · exact orElse_eq_some.2 (.inl (h.failed e he))
  · rcases orElse_eq_some.1 he with hold | ⟨_, hnew⟩
    · exact h.failure e hold
    · exact reported_of_raisedBy (checkRedis_sat c) hnew
  · have hstarted := h.started.1
    rwa [hx] at hstarted
  · exact h.started.2
  · show (w.failure <|> raisedBy (x.advance answer)) ≠ none ↔ _ ∨ w.kafkaCheck.bind raisedBy ≠ none
    rw [failure_raised, h.failing, hx]
    exact raised_advance_or answer

theorem Sound.kafkaCheck (h : w.Sound) {x : Thread c.checkKafka.run} (hx : w.kafkaCheck = some x)
    (answer : (i : CheckCall) → CheckReply i) :
    Sound { w with kafkaCheck := some (x.advance answer), failure := w.failure <|> raisedBy (x.advance answer) } := by
  refine ⟨h.created, h.ended, fun hc => ⟨(h.checked hc).1, ?_⟩, fun e he => ?_, fun e he => ?_, ⟨?_, ?_⟩,
    ?_, h.gated, h.closed, h.idle⟩
  · have hpassed : passed w.kafkaCheck = true := (h.checked hc).2
    rw [hx] at hpassed
    exact passed_advance hpassed answer
  · exact orElse_eq_some.2 (.inl (h.failed e he))
  · rcases orElse_eq_some.1 he with hold | ⟨_, hnew⟩
    · exact h.failure e hold
    · exact reported_of_raisedBy (checkKafka_sat c) hnew
  · exact h.started.1
  · have hstarted := h.started.2
    rwa [hx] at hstarted
  · show (w.failure <|> raisedBy (x.advance answer)) ≠ none ↔ w.redisCheck.bind raisedBy ≠ none ∨ _
    rw [failure_raised, h.failing, hx, or_comm (a := w.redisCheck.bind raisedBy ≠ none)]
    exact (raised_advance_or answer).trans or_comm

/-- Checks that have passed have not failed. -/
theorem Sound.unchecked (h : w.Sound) (hf : w.failure ≠ none) : w.progress.checked = false := by
  rw [← Bool.not_eq_true]
  intro hchecked
  obtain ⟨hredis, hkafka⟩ := h.checked hchecked
  rcases h.failing.1 hf with hraised | hraised
  · cases hx : w.redisCheck with
    | none => rw [hx] at hraised; exact hraised rfl
    | some x => rw [hx] at hredis hraised; exact hraised (raisedBy_of_passed hredis)
  · cases hx : w.kafkaCheck with
    | none => rw [hx] at hraised; exact hraised rfl
    | some x => rw [hx] at hkafka hraised; exact hraised (raisedBy_of_passed hkafka)

/-- The tasks and `run` fit together after every event. -/
theorem step_sound (h : w.Sound) (e : ProcessEvent) : (w.step e).Sound := by
  cases e with
  | main answer =>
    cases hp : w.pending with
    | none => simpa [step, hp] using h
    | some i =>
      cases hr : w.ready i (answer i) with
      | none => simpa [step, hp, hr] using h
      | some r =>
        simpa [step, hp, hr] using h.main hp hr (Function.update_self i r answer)
  | redisCheck answer =>
    cases hx : w.redisCheck with
    | none => simpa [step, hx] using h
    | some x => simpa [step, hx] using h.redisCheck hx answer
  | kafkaCheck answer =>
    cases hx : w.kafkaCheck with
    | none => simpa [step, hx] using h
    | some x => simpa [step, hx] using h.kafkaCheck hx answer
  | serve served =>
    simp only [step]
    split
    · exact ⟨h.created, fun _ => nofun, h.checked, h.failed, h.failure, h.started, h.failing,
      h.gated, h.closed, h.idle⟩
    · exact h
  | stopTimeout =>
    simp only [step]
    split
    · exact ⟨h.created, h.ended, h.checked, h.failed, h.failure, h.started, h.failing,
      h.gated, h.closed, h.idle⟩
    · exact h
  | signal => exact ⟨h.created, h.ended, h.checked, h.failed, h.failure, h.started, h.failing,
      h.gated, h.closed, h.idle⟩

theorem Sound.after_run (h : w.Sound) (es : List ProcessEvent) : (run step w es).Sound :=
  @run_inv _ _ step Sound (fun _ e h => step_sound h e) es w h

theorem run_sound (es : List ProcessEvent) : (after c es).Sound := init_sound.after_run es

theorem over_of_result {es : List ProcessEvent} {x : Except ProcessExc Unit}
    (h : (after c es).result = some x) : Over (after c es).progress x :=
  (after c es).main.post_of_result run_sat h

/-- **The server is started after both checks have passed.** Where one fails, no server is ever
started, and `run` ends with the first failure unless a close raises; the process exits with
status 1 unless the check was cancelled. -/
theorem startup_gated (es : List ProcessEvent) :
    ((after c es).server.created = true →
      passed (after c es).redisCheck = true ∧ passed (after c es).kafkaCheck = true) ∧
    ∀ e, (after c es).failure = some e → (after c es).server.created = false ∧
      ∀ x, (after c es).result = some x → (after c es).progress.unclosed = false →
        x = .error e ∧ (e ≠ .cancelledError → exitOf x = .status 1) := by
  have h := run_sound (c := c) es
  refine ⟨fun hcreated => ?_, fun e he => ?_⟩
  · rw [h.created] at hcreated
    exact h.checked (h.gated hcreated).1
  have hne : (after c es).failure ≠ none := by rw [he]; nofun
  have hunchecked := h.unchecked hne
  refine ⟨?_, fun x hx hun => ?_⟩
  · rw [h.created, ← Bool.not_eq_true]
    intro hserving
    rw [(h.gated hserving).1] at hunchecked
    cases hunchecked
  -- `run` is over: the checks were started, and what the first of them raised was kept
  have hover := over_of_result hx
  have hgathered : (after c es).progress.gathered = true := by
    by_contra hnot
    have hnone := h.started
    rw [Bool.not_eq_true _ |>.mp hnot, Option.isSome_eq_false_iff, Option.isSome_eq_false_iff,
      Option.isNone_iff_eq_none, Option.isNone_iff_eq_none] at hnone
    have hraised := h.failing.1 hne
    rw [hnone.1, hnone.2] at hraised
    exact hraised.elim (absurd rfl) (absurd rfl)
  have hfailed : (after c es).progress.failed ≠ none := by
    refine (hover.settled hgathered).resolve_left ?_
    rw [hunchecked]
    exact Bool.false_ne_true
  obtain ⟨e', he'⟩ := Option.ne_none_iff_exists'.1 hfailed
  obtain rfl : e' = e := Option.some.inj ((h.failed e' he').symm.trans he)
  obtain rfl := hover.failed e' he' hun
  refine ⟨rfl, fun hcancelled => ?_⟩
  obtain ⟨t, rfl⟩ := (h.failure e' he).resolve_right hcancelled
  rfl

/-- **What was made is closed in order and once, and all of it when `run` ends** unless a close
raises. Nothing is closed under a running server unless the shutdown itself has raised. -/
theorem orderly_release (es : List ProcessEvent) :
    (after c es).progress.closed <+: (after c es).progress.owned ∧
    ((after c es).progress.closed ≠ [] → (after c es).server.created = true →
      (after c es).server.outcome ≠ none ∨ (after c es).progress.broken = true) ∧
    ∀ x, (after c es).result = some x → (after c es).progress.unclosed = false →
      (after c es).progress.closed = (after c es).progress.owned ∧
      (x = .ok () → (after c es).progress.closed = releaseOrder ∧ (after c es).server.outcome ≠ none) := by
  have h := run_sound (c := c) es
  refine ⟨h.closed, fun hclosed hcreated => ?_, fun x hx hun => ?_⟩
  · rw [h.created] at hcreated
    exact (h.idle hclosed hcreated).imp_left h.ended
  · have hover := over_of_result hx
    exact ⟨hover.closed hun, fun hok => ⟨(hover.returned hok).2, h.ended (hover.returned hok).1⟩⟩

/-! ## The way to the end -/

/-- A check comes to its end when its calls return. -/
theorem redisCheck_ends {q : Prog CheckCall CheckReply (Except ProcessExc Unit)} :
    ∀ {w : Process c} {x : Thread c.checkRedis.run}, w.redisCheck = some x → x.rest = q →
      ∃ es, (run step w es).main = w.main ∧ (run step w es).kafkaCheck = w.kafkaCheck ∧
        ∃ x', (run step w es).redisCheck = some x' ∧ x'.rest.result ≠ none := by
  -- every call of the check is answered
  induction q with
  | ret a =>
    intro w x hx hq
    refine ⟨[], rfl, rfl, x, hx, ?_⟩
    rw [hq]
    nofun
  | call i k ih =>
    intro w x hx hq
    have hstep : w.step (.redisCheck fun _ => .ok ()) = { w with
        redisCheck := some (x.advance fun _ => .ok ()),
        failure := w.failure <|> raisedBy (x.advance fun _ => .ok ()) } := by
      simp [step, hx]
    have hrest : (x.advance fun _ => .ok ()).rest = k (.ok ()) := by
      show x.rest.resume (fun _ => .ok ()) = _
      rw [hq]
      rfl
    obtain ⟨es, hes⟩ := ih (.ok ()) (w := w.step (.redisCheck fun _ => .ok ())) (by rw [hstep]) hrest
    refine ⟨.redisCheck (fun _ => .ok ()) :: es, ?_⟩
    rw [hstep] at hes
    rwa [run_cons, hstep]

theorem kafkaCheck_ends {q : Prog CheckCall CheckReply (Except ProcessExc Unit)} :
    ∀ {w : Process c} {x : Thread c.checkKafka.run}, w.kafkaCheck = some x → x.rest = q →
      ∃ es, (run step w es).main = w.main ∧ (run step w es).redisCheck = w.redisCheck ∧
        ∃ x', (run step w es).kafkaCheck = some x' ∧ x'.rest.result ≠ none := by
  induction q with
  | ret a =>
    intro w x hx hq
    refine ⟨[], rfl, rfl, x, hx, ?_⟩
    rw [hq]
    nofun
  | call i k ih =>
    intro w x hx hq
    have hstep : w.step (.kafkaCheck fun _ => .ok ()) = { w with
        kafkaCheck := some (x.advance fun _ => .ok ()),
        failure := w.failure <|> raisedBy (x.advance fun _ => .ok ()) } := by
      simp [step, hx]
    have hrest : (x.advance fun _ => .ok ()).rest = k (.ok ()) := by
      show x.rest.resume (fun _ => .ok ()) = _
      rw [hq]
      rfl
    obtain ⟨es, hes⟩ := ih (.ok ()) (w := w.step (.kafkaCheck fun _ => .ok ())) (by rw [hstep]) hrest
    refine ⟨.kafkaCheck (fun _ => .ok ()) :: es, ?_⟩
    rw [hstep] at hes
    rwa [run_cons, hstep]

/-- A check that has ended has passed or raised. -/
theorem passed_or_raised {p : Prog CheckCall CheckReply (Except ProcessExc Unit)} {x : Thread p}
    (h : x.rest.result ≠ none) : passed (some x) = true ∨ raisedBy x ≠ none := by
  unfold passed raisedBy
  rw [Option.bind_some]
  cases hres : x.rest.result with
  | none => exact absurd hres h
  | some r =>
    cases r with
    | ok _ => exact .inl rfl
    | error e => exact .inr nofun

/-- Replies that raise nothing. -/
def returns : (i : MainCall) → MainReply i
  | .assemble _ | .awaitChecks | .serverResult | .closeAll | .flush | .awaitServerTask | .close _ => .ok ()
  | .waitFirst | .serverTaskDone => true
  | .gather | .createTasks | .setShouldExit | .cancelServerTask => ()

theorem ready_of_failed {e : ProcessExc} (hf : w.failure = some e) :
    w.ready .awaitChecks (returns .awaitChecks) = some (.error e) := by
  unfold ready
  rw [hf]

theorem ready_of_passed (hf : w.failure = none) (hredis : passed w.redisCheck = true)
    (hkafka : passed w.kafkaCheck = true) : w.ready .awaitChecks (returns .awaitChecks) = some (.ok ()) := by
  unfold ready
  rw [hf, hredis, hkafka]
  rfl

/-- The checks can be brought to their ends, one after the other, and then `run` goes on. -/
theorem Sound.checks_end (h : w.Sound) (hgathered : w.progress.gathered = true) :
    ∃ es, (run step w es).main = w.main ∧
      ∃ r, (run step w es).ready .awaitChecks (returns .awaitChecks) = some r := by
  obtain ⟨hredis, hkafka⟩ := h.started
  rw [hgathered, Option.isSome_iff_exists] at hredis hkafka
  obtain ⟨x, hx⟩ := hredis
  obtain ⟨y, hy⟩ := hkafka
  obtain ⟨es₁, hmain₁, hkafka₁, x', hx', hxres⟩ := redisCheck_ends hx rfl
  obtain ⟨es₂, hmain₂, hredis₂, y', hy', hyres⟩ := kafkaCheck_ends (hkafka₁.trans hy) rfl
  refine ⟨es₁ ++ es₂, by rw [run_append, hmain₂, hmain₁], ?_⟩
  rw [run_append]
  have hsound := (h.after_run es₁).after_run es₂
  by_cases hf : (run step (run step w es₁) es₂).failure = none
  · have hnone := mt hsound.failing.2 (not_not.2 hf)
    rw [hredis₂, hx', hy', not_or, not_not, not_not] at hnone
    refine ⟨.ok (), ready_of_passed hf ?_ ?_⟩
    · rw [hredis₂, hx']
      exact (passed_or_raised hxres).resolve_right (not_not.2 hnone.1)
    · rw [hy']
      exact (passed_or_raised hyres).resolve_right (not_not.2 hnone.2)
  · obtain ⟨e, he⟩ := Option.ne_none_iff_exists'.1 hf
    exact ⟨.error e, ready_of_failed he⟩

/-- What `run` waits for comes, when the tasks go on. -/
theorem Sound.can_be_ready (h : w.Sound) {i : MainCall} (hp : w.pending = some i) :
    ∃ es, (run step w es).main = w.main ∧ ∃ r r', (run step w es).ready i r = some r' := by
  have hok : w.progress.Allows i := w.main.ok_of_pending run_sat hp
  have hready : (∃ r r', w.ready i r = some r') →
      ∃ es, (run step w es).main = w.main ∧ ∃ r r', (run step w es).ready i r = some r' :=
    fun hr => ⟨[], rfl, hr⟩
  cases i with
  | awaitChecks =>
    obtain ⟨es, hmain, r, hr⟩ := h.checks_end hok.2.2.2
    exact ⟨es, hmain, _, r, hr⟩
  | waitFirst =>
    -- a signal ends the wait for the server or the signal
    exact ⟨[.signal], rfl, true, _, if_pos (Bool.or_true _)⟩
  | serverResult =>
    obtain ⟨r, hr⟩ := Option.ne_none_iff_exists'.1 (h.ended hok.2.1)
    exact hready ⟨.ok (), r, hr⟩
  | awaitServerTask =>
    -- the server returns, if it has not yet
    by_cases hout : w.server.outcome = none
    · have hcreated : w.server.created = true := h.created.trans hok.1
      have hstep : w.step (.serve .returned) =
          { w with server := { w.server with outcome := some (.ok ()) } } := by
        simp [step, hcreated, hout, safeServe]
      refine ⟨[.serve .returned], ?_, .ok (), .ok (), ?_⟩ <;> rw [run_cons, run_nil, hstep]
      rfl
    · obtain ⟨r, hr⟩ := Option.ne_none_iff_exists'.1 hout
      exact hready ⟨.ok (), r, hr⟩
  | serverTaskDone => exact hready ⟨true, _, rfl⟩
  | _ => exact hready ⟨returns _, _, rfl⟩

/-- **From every state reached there is a way to the end**: `run` is never left waiting for what cannot
come. -/
theorem never_stuck (es : List ProcessEvent) : ∃ es', (after c (es ++ es')).result ≠ none := by
  -- by induction on what is left of `run`
  suffices h : ∀ {q : Prog MainCall MainReply (Except ProcessExc Unit)} {w : Process c}, w.Sound →
      w.main.rest = q → ∃ es', (run step w es').result ≠ none by
    obtain ⟨es', hes'⟩ := h (run_sound es) rfl
    refine ⟨es', ?_⟩
    rwa [after, run_append]
  intro q
  induction q with
  | ret a =>
    intro w _ hq
    refine ⟨[], ?_⟩
    show w.main.rest.result ≠ none
    rw [hq]
    nofun
  | call i k ih =>
    intro w h hq
    have hp : w.pending = some i := by
      show w.main.rest.pending = some i
      rw [hq]
      rfl
    -- first the outcome it waits for comes about, then it goes on
    obtain ⟨es₁, hmain, r, r', hr⟩ := h.can_be_ready hp
    have hsound := h.after_run es₁
    have hrest : ((run step w es₁).step (.main (Function.update returns i r))).main.rest = k r' := by
      have hp' : (run step w es₁).pending = some i := by
        rw [← hp]
        exact congrArg (fun x : Thread Main.run.run => x.rest.pending) hmain
      simp only [step, hp', Function.update_self, hr]
      show (run step w es₁).main.rest.resume _ = _
      rw [hmain, hq]
      exact congrArg k (Function.update_self ..)
    obtain ⟨es₂, hes₂⟩ := ih r' (step_sound hsound _) hrest
    refine ⟨es₁ ++ .main (Function.update returns i r) :: es₂, ?_⟩
    rwa [run_append, run_cons]

end Process

end Transcribe
