import Transcribe.Proof.Ordered

/-!
# After a completion

The key left by a SESSION_COMPLETE is an integer with a shortened TTL, no mark that the
conversation is over.

* `completion_spent`: until it expires, a later message appends to the log or lengthens
  the TTL only if its pre-check meets its own number as the expected one.
* `continued_after_completion`: the next number is such a message.
-/

namespace Transcribe

open Resumption EventSystem

variable {d : Deps} {cid : String}

/-- The seconds the sequence key has left, `0` when it is absent. -/
def Backend.ttl (sm : RedisSequenceStateMachine) (b : Backend) (cid : String) : ℕ :=
  ((b.redis (sm.key cid)).map TtlStore.Entry.ttl).getD 0

theorem Backend.ttl_tick_le {sm : RedisSequenceStateMachine} {b : Backend} :
    b.tick.ttl sm cid ≤ b.ttl sm cid := by
  unfold ttl tick TtlStore.tick
  rcases hk : b.redis (sm.key cid) with _ | e
  · simp [hk]
  · by_cases he : e.ttl ≤ 1
    · simp [hk, he]
    · simp [hk, he]

/-- A cleanup leaves the final TTL. -/
theorem Backend.ttl_cleanup_le {sm : RedisSequenceStateMachine} {b : Backend} :
    (b.apply sm (.cleanup cid)).ttl sm cid ≤ sm.finalTtl := by
  change ((sm.cleanup b.redis cid (sm.key cid)).map TtlStore.Entry.ttl).getD 0 ≤ _
  rw [sm.cleanup_entry]
  cases b.redis (sm.key cid) <;> simp

/-- The handler has not passed its pre-check. -/
def Stage.Barred : Stage → Prop
  | ready | persisted | committed => False
  | _ => True

/-- The handler has its send and its commit behind it, or will not make them. -/
def Stage.Past : Stage → Prop
  | start | ready | persisted => False
  | _ => True

namespace Moves

variable {sm : RedisSequenceStateMachine} {m : InboundMessage} {b b' : Backend} {s s' : Stage}

/-- The key of another conversation stays. -/
theorem entry_ne (h : Moves sm m b s s' b') (hm : m.conversationId ≠ cid) :
    b'.redis (sm.key cid) = b.redis (sm.key cid) := by
  rcases h.eq_or_apply with rfl | ⟨c, rfl, hc⟩
  · rfl
  refine Backend.entry_apply_ne fun cid' seq hcid => ?_
  rcases hcid with rfl | rfl | rfl
  · obtain ⟨-, m', hm', rfl, -⟩ := Stage.allows_prepare hc
    obtain rfl := Option.some.inj hm'; exact hm
  · obtain ⟨-, m', hm', rfl, -⟩ := Stage.allows_commit hc
    obtain rfl := Option.some.inj hm'; exact hm
  · obtain ⟨-, m', hm', rfl, -⟩ := Stage.allows_cleanup hc
    obtain rfl := Option.some.inj hm'; exact hm

/-- A barred handler whose number is not the expected one stays barred, and leaves the
key and the records alone. -/
theorem barred (h : Moves sm m b s s' b') (hs : s.Barred)
    (hne : s = .start → tonumber m.sequenceNumber ≠ b.stored sm m.conversationId) :
    s'.Barred ∧ b'.redis (sm.key m.conversationId) = b.redis (sm.key m.conversationId) := by
  have hkeep : s = .start → (b.apply sm (.prepare m.conversationId m.sequenceNumber)).redis
      (sm.key m.conversationId) = b.redis (sm.key m.conversationId) := by
    intro hst
    rcases @RedisSequenceStateMachine.prepare_entry sm b.redis m.conversationId m.sequenceNumber with
      h | ⟨h, -⟩
    · exact h
    · exact absurd h (hne hst)
  cases h with
  | preChecked h => exact absurd h (hne rfl)
  | replay h => exact ⟨trivial, hkeep rfl⟩
  | reject h => exact ⟨trivial, hkeep rfl⟩
  | prepareRaised h =>
    rcases h with rfl | rfl
    · exact ⟨trivial, rfl⟩
    · exact ⟨trivial, hkeep rfl⟩
  | _ => exact hs.elim

/-- A handler past its commit can only clean up. -/
theorem past (h : Moves sm m b s s' b') (hs : s.Past) : s'.Past ∧
    b'.records m.conversationId = b.records m.conversationId ∧
      (b'.ttl sm m.conversationId ≤ b.ttl sm m.conversationId ∨
        b'.ttl sm m.conversationId ≤ sm.finalTtl) := by
  cases h with
  | cleanup hm h =>
    rcases h with rfl | rfl
    · exact ⟨trivial, rfl, .inl le_rfl⟩
    · exact ⟨trivial, rfl, .inr Backend.ttl_cleanup_le⟩
  | _ => exact hs.elim

end Moves

namespace World

/-- Handler `j`, if there is one for the conversation, has not passed its pre-check. -/
def BarredAt (cid : String) (j : ℕ) (w : World d) : Prop :=
  ∀ h, w.handlers[j]? = some h → h.For cid → h.stage.Barred

variable {w : World d} {e : Event} {j : ℕ} {P : ℕ → Prop}

/-- A handler of no message of the conversation leaves its key and records alone. -/
theorem serve_other {h : Handler d} {c : Call} {fate : Fate} {now : Datetime}
    (hc : h.pending = some c) (hfor : ¬ h.For cid) :
    (w.backend.exec d.sm fate now c).1.redis (d.sm.key cid) = w.backend.redis (d.sm.key cid) ∧
      (w.backend.exec d.sm fate now c).1.records cid = w.backend.records cid := by
  rcases Handler.serve_moves hc w.backend fate now with ⟨hb, -⟩ | ⟨m, hm, hmv⟩
  · rw [hb]; exact ⟨rfl, rfl⟩
  · have hmc : m.conversationId ≠ cid := fun hmc => hfor ⟨m, hm, hmc⟩
    exact ⟨hmv.entry_ne hmc, (hmv.records cid).resolve_right fun hr => hmc hr.2.1.symm⟩

/-- **A handler that does not pre-check the expected number is barred for good**, and its
steps leave the key and the records of the conversation alone. -/
theorem serve_barred {h : Handler d} {c : Call} {fate : Fate} {now : Datetime}
    (hh : w.handlers[j]? = some h) (hc : h.pending = some c) (hw : w.BarredAt cid j)
    (hj : P j) (he : w.Unexpected cid P (.exec j fate now)) :
    (h.For cid → (h.advance fun c => (w.backend.exec d.sm fate now c).2).stage.Barred) ∧
      (w.backend.exec d.sm fate now c).1.redis (d.sm.key cid) = w.backend.redis (d.sm.key cid) ∧
      (w.backend.exec d.sm fate now c).1.records cid = w.backend.records cid := by
  by_cases hclock : c = .utcNow
  · subst hclock
    rw [Handler.stage_advance hc]
    exact ⟨hw h hh, rfl, rfl⟩
  rcases Handler.serve_moves hc w.backend fate now with ⟨hb, hst⟩ | ⟨m, hm, hmv⟩
  · rw [hb, hst]; exact ⟨hw h hh, rfl, rfl⟩
  by_cases hfor : h.For cid
  · obtain ⟨m', hm', rfl⟩ := hfor
    obtain rfl := Option.mem_unique hm hm'
    have hs := hw h hh ⟨m, hm, rfl⟩
    have hne : h.stage = .start → tonumber m.sequenceNumber ≠ w.stored m.conversationId := by
      intro hstart
      obtain ⟨m', hm', hcm⟩ := (Handler.start_pending hstart hc).resolve_left hclock
      obtain rfl := Option.mem_unique hm hm'
      exact he hj m.sequenceNumber (by simp [pending, hh, hc, hcm, Call.prepareOf])
    obtain ⟨hbar, hkey⟩ := hmv.barred hs hne
    exact ⟨fun _ => hbar, hkey, (hmv.records _).resolve_right fun hr => by
      rw [hr.1] at hs; exact hs⟩
  · exact ⟨fun hfor' => absurd hfor' hfor, serve_other hc hfor⟩

theorem step_barredAt (hw : w.BarredAt cid j) (hj : P j) (he : w.Unexpected cid P e) :
    (w.step e).BarredAt cid j := by
  intro x hx hfor
  rcases step_getElem? hx with hx | ⟨s, rfl, -, rfl⟩ | ⟨h, rfl, hh, rfl⟩ | ⟨h, c, fate, now, rfl, hh, hc, rfl⟩
  · exact hw x hx hfor
  · trivial
  · exact hw h hh hfor
  · exact (serve_barred hh hc hw hj he).1 hfor

/-! ## The completion -/

/-- What a later step must not do for the conversation: append, or lengthen the TTL. -/
def Untouched (cid : String) (w w' : World d) : Prop :=
  w'.records cid = w.records cid ∧ w'.backend.ttl d.sm cid ≤ w.backend.ttl d.sm cid

/-- A handler that never pre-checks the expected number touches nothing. -/
theorem run_untouched {es : List Event} {fate : Fate} {now : Datetime}
    (hj : w.handlers.length ≤ j)
    (hes : Along step (Unexpected cid (· = j)) w (es ++ [.exec j fate now])) :
    Untouched cid (run step w es) (run step w (es ++ [.exec j fate now])) := by
  rw [along_append] at hes
  have hbar : (run step w es).BarredAt cid j := by
    refine along_inv (fun _ _ hw he => step_barredAt (P := (· = j)) hw rfl he) (fun h hh => ?_) hes.1
    rw [List.getElem?_eq_none hj] at hh; cases hh
  rw [run_append, run_cons, run_nil]
  rcases step_exec (run step w es) j fate now with he | ⟨h, c, hh, hc, he⟩
  · rw [he]; exact ⟨rfl, le_rfl⟩
  · rw [he]
    obtain ⟨-, hkey, hrec⟩ := serve_barred hh hc hbar rfl hes.2.1
    exact ⟨hrec, by unfold Backend.ttl serve; rw [hkey]⟩

/-- The conversation is at rest: its handlers below `n` in flight are past their commit,
those above have not passed their pre-check, its log is `l` and its key has at most the
final TTL left. -/
structure AtRest (cid : String) (n : ℕ) (l : List Record) (w : World d) : Prop where
  past : ∀ j < n, ∀ h, w.handlers[j]? = some h → h.For cid → h.pending ≠ none → h.stage.Past
  length : n ≤ w.handlers.length
  barred : ∀ j, n ≤ j → w.BarredAt cid j
  records : w.records cid = l
  ttl : w.backend.ttl d.sm cid ≤ d.sm.finalTtl

/-- A served call at rest. -/
theorem AtRest.serve {n : ℕ} {l : List Record} (hw : w.AtRest cid n l) {h : Handler d} {c : Call}
    {fate : Fate} {now : Datetime} (hh : w.handlers[j]? = some h) (hc : h.pending = some c)
    (hun : w.Unexpected cid (n ≤ ·) (.exec j fate now)) :
    (j < n → h.For cid →
      (h.advance fun c => (w.backend.exec d.sm fate now c).2).stage.Past) ∧
    (w.backend.exec d.sm fate now c).1.records cid = w.backend.records cid ∧
      (w.backend.exec d.sm fate now c).1.ttl d.sm cid ≤ d.sm.finalTtl := by
  by_cases hfor : h.For cid
  · rcases Nat.lt_or_ge j n with hj | hj
    · have hp := hw.past j hj h hh hfor (by rw [hc]; simp)
      rcases Handler.serve_moves hc w.backend fate now with ⟨hb, hst⟩ | ⟨m, hm, hmv⟩
      · rw [hb, hst]; exact ⟨fun _ _ => hp, rfl, hw.ttl⟩
      · obtain ⟨m', hm', rfl⟩ := hfor
        obtain rfl := Option.mem_unique hm hm'
        obtain ⟨hp', hrec, httl⟩ := hmv.past hp
        exact ⟨fun _ _ => hp', hrec, httl.elim (fun h => h.trans hw.ttl) id⟩
    · obtain ⟨-, hkey, hrec⟩ := serve_barred hh hc (hw.barred j hj) hj hun
      exact ⟨fun hlt => absurd hj (by omega), hrec, by
        unfold Backend.ttl; rw [hkey]; exact hw.ttl⟩
  · obtain ⟨hkey, hrec⟩ := @serve_other d cid w h c fate now hc hfor
    exact ⟨fun _ hfor' => absurd hfor' hfor, hrec, by unfold Backend.ttl; rw [hkey]; exact hw.ttl⟩

theorem step_atRest {n : ℕ} {l : List Record} (hw : w.AtRest cid n l)
    (hun : w.Unexpected cid (n ≤ ·) e) : (w.step e).AtRest cid n l := by
  have hlen : w.handlers.length ≤ (w.step e).handlers.length := by rw [length_step]; omega
  have hback : (w.step e).records cid = w.records cid ∧
      (w.step e).backend.ttl d.sm cid ≤ d.sm.finalTtl := by
    cases e with
    | submit s => exact ⟨rfl, hw.ttl⟩
    | stop id => exact ⟨rfl, hw.ttl⟩
    | tick => exact ⟨rfl, Backend.ttl_tick_le.trans hw.ttl⟩
    | exec id fate now =>
      rcases step_exec w id fate now with he | ⟨h, c, hh, hc, he⟩
      · rw [he]; exact ⟨rfl, hw.ttl⟩
      · rw [he]; exact (hw.serve hh hc hun).2
  refine ⟨fun j hj x hx hfor hp => ?_, hw.length.trans hlen, fun j hj =>
    step_barredAt (hw.barred j hj) hj hun, hback.1.trans hw.records, hback.2⟩
  rcases step_getElem? hx with hx | ⟨s, rfl, hjl, rfl⟩ | ⟨h, rfl, hh, rfl⟩ | ⟨h, c, fate, now, rfl, hh, hc, rfl⟩
  · exact hw.past j hj x hx hfor hp
  · have := hw.length; omega
  · exact absurd rfl hp
  · exact (hw.serve hh hc hun).1 hj hfor

/-- The state in which a completion has just been cleaned up. -/
theorem cleaned_atRest {id : ℕ} {now : Datetime} (hc : w.pending id = some (.cleanup cid))
    (hidle : ∀ j, j ≠ id → ¬ w.Busy cid j) :
    (w.step (.exec id .ok now)).AtRest cid w.handlers.length (w.records cid) := by
  obtain ⟨h, hh, hp⟩ := Option.bind_eq_some_iff.1 hc
  have hst : h.stage = .committed := (Stage.allows_cleanup (Handler.allows hp)).1
  have hstep : w.step (.exec id .ok now) = w.serve id h (.cleanup cid) .ok now := by
    simp [step, hh, hp]
  rw [hstep]
  refine ⟨fun j _ x hx hfor hpx => ?_, by simp [serve], fun j hj x hx => ?_, rfl,
    Backend.ttl_cleanup_le⟩
  · rcases serve_handlers hx with ⟨rfl, rfl⟩ | ⟨hne, hx⟩
    · rw [Handler.stage_advance hp, hst]; trivial
    · exact absurd ⟨x, hx, hfor, hpx⟩ (hidle j hne)
  · rcases serve_handlers hx with ⟨rfl, rfl⟩ | ⟨-, hx⟩
    · have := (List.getElem?_eq_some_iff.1 hh).1; omega
    · rw [List.getElem?_eq_none hj] at hx; cases hx

/-- **After a completion was cleaned up, a later message touches the conversation only by
pre-checking the expected number.** Handler `id` waits in its cleanup, so its
SESSION_COMPLETE has been sent and committed; the handlers started from then on are
later. The second part is about all of them, with no earlier one in flight. -/
theorem completion_spent {es : List Event} {id : ℕ} (now : Datetime)
    (hc : (after d es).pending id = some (.cleanup cid)) :
    (∀ j ≥ (after d es).handlers.length, ∀ es' fate t,
      Along step (Unexpected cid (· = j)) ((after d es).step (.exec id .ok now)) (es' ++ [.exec j fate t]) →
        Untouched cid (run step ((after d es).step (.exec id .ok now)) es')
          (run step ((after d es).step (.exec id .ok now)) (es' ++ [.exec j fate t]))) ∧
    ((∀ j, j ≠ id → ¬ (after d es).Busy cid j) → ∀ es',
      Along step (Unexpected cid ((after d es).handlers.length ≤ ·))
        ((after d es).step (.exec id .ok now)) es' →
      (run step ((after d es).step (.exec id .ok now)) es').records cid = (after d es).records cid ∧
        (run step ((after d es).step (.exec id .ok now)) es').backend.ttl d.sm cid ≤
          d.sm.finalTtl) := by
  constructor
  · intro j hj es' fate t hes
    exact run_untouched (by rw [length_step]; exact hj) hes
  · intro hidle es' hes
    have hrest := along_inv (I := AtRest cid _ _) (fun _ _ hw he => step_atRest hw he) (cleaned_atRest hc hidle) hes
    exact ⟨hrest.records, hrest.ttl⟩

section

open Sample

/-- A completion up to its cleanup. -/
def completing : List Event := [.submit (completion 0), ok 0, ok 0, ok 0, ok 0]

/-- The completion replayed by a later connection touches nothing. -/
theorem completing_spent :
    (run step ((after deps completing).step (.exec 0 .ok ⟨0⟩))
        [ok 0, .submit (completion 0), ok 1, ok 1]).records Sample.cid =
      (after deps completing).records Sample.cid ∧
    (run step ((after deps completing).step (.exec 0 .ok ⟨0⟩))
        [ok 0, .submit (completion 0), ok 1, ok 1]).backend.ttl deps.sm Sample.cid ≤
      deps.sm.finalTtl := by
  refine (@completion_spent deps Sample.cid completing 0 ⟨0⟩ (by decide)).2 ?_ _ (by decide)
  rintro j hj ⟨h, hh, -⟩
  have hlt := (List.getElem?_eq_some_iff.1 hh).1
  have hlen : (after deps completing).handlers.length = 1 := by decide
  omega

/-- **The next number continues a completed conversation**: message `1`, submitted after
the cleanup, gets the active TTL back and is appended. -/
theorem continued_after_completion :
    (after deps completing).pending 0 = some (.cleanup Sample.cid) ∧
      ((after deps completing).step (ok 0)).backend.ttl deps.sm Sample.cid = 60 ∧
      (run step ((after deps completing).step (ok 0)) [ok 0, .submit (message 1), ok 1]).backend.ttl
        deps.sm Sample.cid = 3600 ∧
      ((run step ((after deps completing).step (ok 0))
        [ok 0, .submit (message 1), ok 1, ok 1, ok 1]).records Sample.cid).map Record.number =
          [0, 1] := by
  decide

end

end World

end Transcribe
