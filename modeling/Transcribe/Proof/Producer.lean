import Transcribe.Model.Producer

/-!
# The life of the producer

The field is set before `start()` is awaited and emptied only after a `stop()` that returned. A
call that finds it set takes the producer as it is; so the order of calls and of what happens to
their awaits decides whether that is a working one.

* `Calm`: nobody is called while another call waits in `start()`; a `send` or `ensure_ready` not
  while one waits in `stop()` either, and not before a `stop()` of every producer whose `start()` was
  cancelled, or a `stop()` of which failed, has returned. A `start()` that raised asks for nothing:
  the call itself closes the producer then.
* `Phase`, `Stance.Allows`: how far a call is with the producer it makes or stops, and what it may
  do there.
* `producer_lifecycle`: **in a run of calm events every producer handed out has been started and
  is not being stopped, at most one lives, and a call after a failed start makes a new one.**
-/

namespace Transcribe

open Resumption EventSystem

namespace Underlying

/-- It has been started and no `stop()` of it has begun. -/
def Sound (u : Underlying) : Prop := u.start = some .returned ∧ u.stopBegun = false

/-- It has been started and not stopped. -/
def Live (u : Underlying) : Prop := u.start = some .returned ∧ u.stopped = false

/-- Its `start()` raised or was cancelled. -/
def StartFailed (u : Underlying) : Prop := u.start = some .raised ∨ u.start = some .cancelled

end Underlying

/-! ## The condition -/

/-- The call waits in `start()`. -/
def ProducerTask.Starting (x : ProducerTask) (p : ℕ) : Prop := x.pending = some (.start p)

/-- The call waits in `stop()`. -/
def ProducerTask.Stopping (x : ProducerTask) (p : ℕ) : Prop := x.pending = some (.awaitStop p)

def ProducerCall.isStart : ProducerCall → Bool
  | .start _ => true
  | _ => false

def ProducerCall.isStop : ProducerCall → Bool
  | .awaitStop _ => true
  | _ => false

/-- Its `start()` was cancelled, or a `stop()` of it raised or was cancelled. -/
def Underlying.Abandoned (u : Underlying) : Prop := u.start = some .cancelled ∨ u.stopFailed = true

instance : DecidablePred Underlying.Abandoned := fun _ => inferInstanceAs (Decidable (_ ∨ _))

/-- No call begins while another waits in `start()`; a call that wants a producer begins only while
none waits in `stop()`, and after a `stop()` of each abandoned producer has returned. The condition
is on the calls, and on how `start()` and `stop()` ended: what the field holds does not enter. -/
def ProducerInstance.Calm (w : ProducerInstance) : ProducerEvent → Prop
  | .call m => (∀ x ∈ w.tasks, ∀ i ∈ x.pending, i.isStart = false) ∧
      (m ≠ .close → (∀ x ∈ w.tasks, ∀ i ∈ x.pending, i.isStop = false) ∧
        ∀ u ∈ w.state.producers, u.Abandoned → u.stopped = true)
  | .proceed .. => True

instance (w : ProducerInstance) : DecidablePred w.Calm
  | .call _ => inferInstanceAs (Decidable (_ ∧ _))
  | .proceed .. => .isTrue trivial

/-! ## A call by itself -/

/-- How far a call is: before its first await, it has made a producer, set the field to it,
started it, seen its start raise, it is through with it, has begun to stop one, has stopped it, or
has sent. -/
inductive Phase
  | early
  | made (p : ℕ)
  | starting (p : ℕ)
  | ready (p : ℕ)
  | failed (p : ℕ)
  | late
  | stopping (p : ℕ)
  | stopped (p : ℕ)
  | finished

/-- The call is not about to start or to stop a producer. -/
def Phase.Loose : Phase → Prop
  | early | ready _ | failed _ | late => True
  | _ => False

/-- How far a call is, and what it has read in the field since its last await. -/
structure Stance where
  phase : Phase
  seen : Option (Option ℕ)

namespace Stance

def next (z : Stance) : (i : ProducerCall) → ProducerReply i → Stance
  | .getField, field => { z with seen := some field }
  | .create, p => ⟨.made p, none⟩
  | .setField (some p), _ => ⟨.starting p, none⟩
  | .setField none, _ => ⟨.late, none⟩
  | .start p, .returned => ⟨.ready p, none⟩
  | .start p, .raised => ⟨.failed p, none⟩
  | .start _, .cancelled => ⟨.late, none⟩
  | .handOver _, _ => ⟨.late, none⟩
  | .beginStop p, _ => ⟨.stopping p, none⟩
  | .awaitStop p, .returned => ⟨.stopped p, none⟩
  | .awaitStop _, _ => ⟨.late, none⟩
  | .sendAndWait _, _ => ⟨.finished, none⟩

/-- What a call may do. -/
def Allows (m : ProducerMethod) (z : Stance) : ProducerCall → Prop
  | .getField => z.phase.Loose
  | .create => m ≠ .close ∧ z = ⟨.early, some none⟩
  | .setField (some p) => z.phase = .made p
  | .setField none => ∃ p, z.phase = .stopped p
  | .start p => z.phase = .starting p
  | .handOver p => m ≠ .close ∧ z.seen = some (some p) ∧ (z.phase = .early ∨ ∃ q, z.phase = .ready q)
  | .beginStop p => z.seen = some (some p) ∧ z.phase.Loose
  | .awaitStop p => z.phase = .stopping p
  | .sendAndWait _ => z.phase = .late

/-- It has nothing to close: after a start that raised it has found the field empty. -/
def Clear (z : Stance) : Prop := z.phase.Loose ∧ ∀ p, z.phase = .failed p → z.seen = some none

/-- A call that has returned is not amidst a start or a stop. -/
def Ended (z : Stance) : Prop := z.Clear ∨ z.phase = .finished

end Stance

def standing (m : ProducerMethod) : Monitor ProducerCall ProducerReply Stance := ⟨Stance.Allows m, Stance.next⟩

section Program

variable {m : ProducerMethod} {z : Stance}

/-- Whatever is in the field is stopped, or the stop fails. -/
theorem close_stands (hz : z.phase.Loose) :
    (standing m).Sat KafkaProducer.close.run z fun z' _ => z'.Clear := by
  have hlate : (⟨.late, none⟩ : Stance).Clear := ⟨trivial, nofun⟩
  refine Monitor.sat_lift_bind.2 ⟨hz, fun (field : Option ℕ) => ?_⟩
  cases field with
  | none => exact ⟨hz, fun _ _ => rfl⟩
  | some p =>
    refine Monitor.sat_lift_bind.2 ⟨⟨rfl, hz⟩, fun _ => ?_⟩
    refine Monitor.sat_lift_bind.2 ⟨rfl, fun (outcome : Awaited) => ?_⟩
    cases outcome with
    | returned => exact ⟨⟨p, rfl⟩, fun _ => hlate⟩
    | raised => exact hlate
    | cancelled => exact hlate

/-- A producer is handed out by a call that has just begun, or that has just started it. -/
theorem handOver_stands (hm : m ≠ .close) (hz : z.phase = .early ∨ ∃ q, z.phase = .ready q) :
    (standing m).Sat (do
      match ← ProducerCoro.getField with
      | none => throw .exception
      | some producer =>
        ProducerCoro.handOver producer
        return producer : ProducerCoro ℕ).run z
      fun z' out => z'.Clear ∧ ∀ p, out = .ok p → z'.phase = .late := by
  have hloose : z.phase.Loose := by
    rcases hz with hz | ⟨q, hz⟩
    · rw [hz]; trivial
    · rw [hz]; trivial
  refine Monitor.sat_lift_bind.2 ⟨hloose, fun (field : Option ℕ) => ?_⟩
  cases field with
  | none => exact ⟨⟨hloose, fun _ _ => rfl⟩, nofun⟩
  | some p => exact ⟨⟨hm, rfl, hz⟩, fun _ => ⟨⟨trivial, nofun⟩, fun _ _ => rfl⟩⟩

theorem getProducer_stands (hm : m ≠ .close) : (standing m).Sat KafkaProducer.getProducer.run ⟨.early, none⟩
    fun z' out => z'.Clear ∧ ∀ p, out = .ok p → z'.phase = .late := by
  unfold KafkaProducer.getProducer
  refine Monitor.sat_lift_bind.2 ⟨trivial, fun (field : Option ℕ) => ?_⟩
  cases field with
  | some p => exact handOver_stands hm (.inl rfl)
  | none =>
    refine Monitor.sat_exceptT_bind.2 ?_
    refine Monitor.sat_lift_bind.2 ⟨⟨hm, rfl⟩, fun (p : ℕ) => ?_⟩
    refine Monitor.sat_lift_bind.2 ⟨rfl, fun _ => ?_⟩
    refine Monitor.sat_lift_bind.2 ⟨rfl, fun (outcome : Awaited) => ?_⟩
    cases outcome with
    | returned => exact handOver_stands hm (.inr ⟨p, rfl⟩)
    | raised =>
      refine Monitor.sat_exceptT_bind.2 (Monitor.sat_mono (fun z' out hz' => ?_) (close_stands trivial))
      cases out with
      | ok _ => exact ⟨hz', nofun⟩
      | error e => exact ⟨hz', nofun⟩
    | cancelled => exact ⟨⟨trivial, nofun⟩, nofun⟩

/-- **A call by itself.** -/
theorem program_stands (m : ProducerMethod) :
    (standing m).Sat m.program ⟨.early, none⟩ fun z' _ => z'.Ended := by
  cases m with
  | close => exact Monitor.sat_mono (fun _ _ h => .inl h) (close_stands trivial)
  | send =>
    refine Monitor.sat_exceptT_bind.2 (Monitor.sat_mono (fun z' out hz' => ?_) (getProducer_stands nofun))
    cases out with
    | error e => exact .inl hz'.1
    | ok p =>
      refine Monitor.sat_lift_bind.2 ⟨hz'.2 p rfl, fun (outcome : Awaited) => ?_⟩
      cases outcome <;> exact .inr rfl
  | ensureReady =>
    refine Monitor.sat_attempt_bind.2 (Monitor.sat_mono (fun z' out hz' => ?_) (getProducer_stands nofun))
    cases out with
    | ok p => exact .inl hz'.1
    | error e =>
      cases e with
      | cancelledError => exact .inl hz'.1
      | exception =>
        refine Monitor.sat_exceptT_bind.2 (Monitor.sat_mono (fun z'' out hz'' => ?_) (close_stands hz'.1.1))
        cases out with
        | ok _ => exact .inl hz''
        | error e => exact .inl hz''

end Program

/-! ## In a section -/

/-- The field holds the newest producer, none but it lives, and those handed out were sound. -/
structure ProducerState.Tidy (s : ProducerState) : Prop where
  newest : ∀ p, s.field = some p → p + 1 = s.producers.length
  live : ∀ p u, s.producers[p]? = some u → u.Live → s.field = some p
  handed : ∀ u ∈ s.handed, u.Sound

/-- What the phase of a call says of the field and its producer; `stops` are the producers that
other calls wait for in `stop()`. -/
def Phase.Fits (m : ProducerMethod) (stops : ℕ → Prop) (s : ProducerState) : Phase → Prop
  | early => m ≠ .close → (∀ p, ¬ stops p) ∧ ∀ p u, s.field = some p → s.producers[p]? = some u → u.Sound
  | made p => (∀ p, ¬ stops p) ∧ s.field = none ∧ p + 1 = s.producers.length ∧ s.producers[p]? = some .fresh
  | starting p => (∀ p, ¬ stops p) ∧ s.field = some p ∧
      ∃ u, s.producers[p]? = some u ∧ u.start = none ∧ u.stopBegun = false
  | ready p => s.field = some p ∧ ∃ u, s.producers[p]? = some u ∧ u.Sound
  | stopping p => s.field = some p ∨ s.field = none
  | stopped p => (s.field = some p ∨ s.field = none) ∧
      ∀ u, s.field = some p → s.producers[p]? = some u → u.stopped = true
  | failed _ | late | finished => True

/-- A producer that has to be stopped, or is being stopped: its `start()` raised, or a `stop()` of it
has begun. -/
def Underlying.Leaving (u : Underlying) : Prop := u.start = some .raised ∨ u.stopBegun = true

/-- What holds within a section. -/
structure Amidst (m : ProducerMethod) (stops : ℕ → Prop) (z : Stance) (s : ProducerState) : Prop where
  tidy : s.Tidy
  seen : ∀ field, z.seen = some field → s.field = field
  unstarted : ∀ p u, s.field = some p → s.producers[p]? = some u → u.start = none → z.phase = .starting p
  kept : ∀ p u, s.field = some p → s.producers[p]? = some u → u.stopped = true → z.phase = .stopped p
  leaving : ∀ p u, s.field = some p → s.producers[p]? = some u → u.Leaving →
    u.stopFailed = true ∨ z.phase = .failed p ∨ z.phase = .stopping p ∨ z.phase = .stopped p ∨ stops p
  others : ∀ p, stops p → s.field = some p ∨ s.field = none
  fits : z.phase.Fits m stops s

theorem ProducerState.get_modify {s : ProducerState} {p q : ℕ} {f : Underlying → Underlying} {u' : Underlying}
    (h : (s.modify p f).producers[q]? = some u') :
    ∃ u, s.producers[q]? = some u ∧ u' = if p = q then f u else u := by
  unfold ProducerState.modify at h
  rw [List.getElem?_modify] at h
  obtain ⟨u, hu, rfl⟩ := Option.map_eq_some_iff.1 h
  refine ⟨u, hu, ?_⟩
  split <;> rfl

/-- A producer that is changed otherwise than by its start lives no more than before. -/
theorem ProducerState.Tidy.modify {s : ProducerState} (h : s.Tidy) (p : ℕ) {f : Underlying → Underlying}
    (hf : ∀ u, (f u).Live → u.Live) : (s.modify p f).Tidy := by
  refine ⟨fun q hq => ?_, fun q u' hu' hlive => ?_, h.handed⟩
  · unfold ProducerState.modify
    rw [List.length_modify]
    exact h.newest q hq
  · obtain ⟨u, hu, rfl⟩ := ProducerState.get_modify hu'
    refine h.live q u hu ?_
    split at hlive
    · exact hf u hlive
    · exact hlive

section Section

variable {m : ProducerMethod} {stops : ℕ → Prop} {z : Stance} {s s' : ProducerState}

/-- **What a call that does not suspend keeps.** -/
theorem Amidst.serve (h : Amidst m stops z s) {i : ProducerCall} {r : ProducerReply i} (hok : z.Allows m i)
    (hi : s.serve i = some (s', r)) : Amidst m stops (z.next i r) s' := by
  cases i with
  | getField =>
    cases hi
    exact ⟨h.tidy, fun field heq => Option.some.inj heq, h.unstarted, h.kept, h.leaving, h.others, h.fits⟩
  | setField field =>
    cases hi
    cases field with
    | some p =>
      have hphase : z.phase = .made p := hok
      have hfits := h.fits
      rw [hphase] at hfits
      obtain ⟨hstops, hfield, hlast, hnew⟩ := hfits
      refine ⟨⟨?_, ?_, h.tidy.handed⟩, nofun, ?_, ?_, ?_, fun q hq => absurd hq (hstops q), hstops, rfl, _, hnew,
        rfl, rfl⟩
      · rintro q ⟨⟩
        exact hlast
      · intro q u hu hlive
        cases hfield.symm.trans (h.tidy.live q u hu hlive)
      · rintro q u ⟨⟩ - -
        rfl
      · rintro q u ⟨⟩ hu hstopped
        cases hnew.symm.trans hu
        cases hstopped
      · rintro q u ⟨⟩ hu hleaving
        cases hnew.symm.trans hu
        rcases hleaving with hraised | hbegun
        · cases hraised
        · cases hbegun
    | none =>
      obtain ⟨p, hphase⟩ : ∃ p, z.phase = .stopped p := hok
      have hfits := h.fits
      rw [hphase] at hfits
      refine ⟨⟨nofun, fun q u hu hlive => ?_, h.tidy.handed⟩, nofun, nofun, nofun, nofun, fun _ _ => .inr rfl, trivial⟩
      -- the producer that has been stopped was the one in the field
      have hq := h.tidy.live q u hu hlive
      rcases hfits.1 with hp | hnone
      · obtain rfl : p = q := Option.some.inj (hp.symm.trans hq)
        exact absurd (hfits.2 u hp hu) (by rw [hlive.2]; exact nofun)
      · cases hnone.symm.trans hq
  | create =>
    cases hi
    obtain ⟨hm, rfl⟩ := hok
    have hfield : s.field = none := h.seen none rfl
    have hstops := (h.fits hm).1
    refine ⟨⟨?_, fun q u hu hlive => ?_, h.tidy.handed⟩, nofun, ?_, ?_, ?_, fun q hq => absurd hq (hstops q),
      hstops, hfield, ?_, ?_⟩
    · intro q hq
      cases hfield.symm.trans hq
    · rcases List.mem_append.1 (List.mem_of_getElem? hu) with hold | hnew
      · obtain ⟨j, hj⟩ := List.getElem?_of_mem hold
        cases hfield.symm.trans (h.tidy.live j u hj hlive)
      · rw [List.mem_singleton.1 hnew] at hlive
        cases hlive.1
    · intro q u hq
      cases hfield.symm.trans hq
    · intro q u hq
      cases hfield.symm.trans hq
    · intro q u hq
      cases hfield.symm.trans hq
    · show s.producers.length + 1 = (s.producers ++ [_]).length
      rw [List.length_append, List.length_singleton]
    · exact List.getElem?_concat_length
  | handOver p =>
    cases hi
    obtain ⟨hm, hseen, hphase⟩ := hok
    have hfield : s.field = some p := h.seen _ hseen
    have hsound : ∀ u, s.producers[p]? = some u → u.Sound := by
      have hfits := h.fits
      rcases hphase with hphase | ⟨q, hphase⟩
      · rw [hphase] at hfits
        exact fun u hu => (hfits hm).2 p u hfield hu
      · rw [hphase] at hfits
        obtain ⟨hq, u', hu', hsound⟩ := hfits
        obtain rfl : p = q := Option.some.inj (hfield.symm.trans hq)
        intro u hu
        rwa [← Option.some.inj (hu'.symm.trans hu)]
    refine ⟨⟨h.tidy.newest, h.tidy.live, fun u hu => ?_⟩, nofun, fun q u hq hu hnone => ?_,
      fun q u hq hu hstopped => ?_, fun q u hq hu hleaving => ?_, h.others, trivial⟩
    · rcases List.mem_append.1 hu with hu | hu
      · exact hsound u (Option.mem_toList.1 hu)
      · exact h.tidy.handed u hu
    · have := h.unstarted q u hq hu hnone
      rcases hphase with hphase | ⟨q', hphase⟩ <;> cases hphase.symm.trans this
    · have := h.kept q u hq hu hstopped
      rcases hphase with hphase | ⟨q', hphase⟩ <;> cases hphase.symm.trans this
    · rcases h.leaving q u hq hu hleaving with hfailed | hstop | hstop | hstop | hstop
      · exact .inl hfailed
      all_goals first
        | exact .inr (.inr (.inr (.inr hstop)))
        | rcases hphase with hphase | ⟨q', hphase⟩ <;> cases hphase.symm.trans hstop
  | beginStop p =>
    cases hi
    have hfield : s.field = some p := h.seen _ hok.1
    refine ⟨h.tidy.modify p fun u hlive => hlive, nofun, fun q u' hq hu' hnone => ?_, fun q u' hq hu' hstopped => ?_,
      fun q u' hq _ _ => ?_, h.others, .inl hfield⟩
    · obtain ⟨u, hu, rfl⟩ := ProducerState.get_modify hu'
      have hphase := h.unstarted q u hq hu (by split at hnone <;> exact hnone)
      have hloose := hok.2
      rw [hphase] at hloose
      exact hloose.elim
    · obtain ⟨u, hu, rfl⟩ := ProducerState.get_modify hu'
      have hphase := h.kept q u hq hu (by split at hstopped <;> exact hstopped)
      have hloose := hok.2
      rw [hphase] at hloose
      exact hloose.elim
    · obtain rfl : p = q := Option.some.inj (hfield.symm.trans hq)
      exact .inr (.inr (.inl rfl))
  | start p => cases hi
  | awaitStop p => cases hi
  | sendAndWait p => cases hi

end Section

/-! ## At rest -/

namespace ProducerTask

variable (x : ProducerTask)

/-- How far the call is. -/
def stance : Stance := x.thread.state (standing x.method) ⟨.early, none⟩

/-- The call has returned, or waits in a call that suspends. -/
def Settled : Prop := ∀ i, x.pending = some i → ∀ s : ProducerState, s.serve i = none

variable {x}

theorem allows {i : ProducerCall} (h : x.pending = some i) : x.stance.Allows x.method i :=
  x.thread.ok_of_pending (program_stands x.method) h

/-- **Where a call stands when it waits.** -/
theorem Settled.phase (h : x.Settled) : (∀ p, x.stance.phase = .starting p ↔ x.Starting p) ∧
    (∀ p, x.stance.phase = .stopping p ↔ x.Stopping p) ∧ (∀ p, x.stance.phase ≠ .stopped p) ∧
    ∀ p, x.stance.phase = .failed p → x.stance.seen = some none := by
  unfold Starting Stopping
  cases hi : x.pending with
  | none =>
    obtain ⟨out, hout⟩ := Prog.result_of_pending hi
    -- the call is over: the state of its producer is settled
    have hended : x.stance.Ended := x.thread.post_of_result (program_stands x.method) hout
    have hnot : ∀ phase, x.stance.phase = phase → phase ≠ .finished → phase.Loose := by
      rintro _ rfl hne
      exact hended.elim (fun hclear => hclear.1) fun hover => absurd hover hne
    refine ⟨fun p => iff_of_false (fun heq => ?_) nofun, fun p => iff_of_false (fun heq => ?_) nofun, fun p heq => ?_,
      fun p heq => ?_⟩
    · exact hnot _ heq nofun
    · exact hnot _ heq nofun
    · exact hnot _ heq nofun
    · rcases hended with hclear | hover
      · exact hclear.2 p heq
      · cases heq.symm.trans hover
  | some i =>
    -- the call waits: of all its calls only these three are awaits
    have hok := allows hi
    have hserve := h i hi .init
    cases i with
    | start q =>
      have hphase : x.stance.phase = .starting q := hok
      rw [hphase]
      exact ⟨fun p => by simp, fun p => by simp, nofun, nofun⟩
    | awaitStop q =>
      have hphase : x.stance.phase = .stopping q := hok
      rw [hphase]
      exact ⟨fun p => by simp, fun p => by simp, nofun, nofun⟩
    | sendAndWait q =>
      have hphase : x.stance.phase = .late := hok
      rw [hphase]
      exact ⟨fun p => by simp, fun p => by simp, nofun, nofun⟩
    | getField => cases hserve
    | setField field => cases hserve
    | create => cases hserve
    | handOver q => cases hserve
    | beginStop q => cases hserve

end ProducerTask

/-- What holds when every call waits. -/
structure ProducerInstance.AtRest (w : ProducerInstance) : Prop where
  tidy : w.state.Tidy
  settled : ∀ x ∈ w.tasks, x.Settled
  unstarted : ∀ p u, w.state.field = some p → w.state.producers[p]? = some u → u.start = none →
    ∃ x ∈ w.tasks, x.Starting p
  kept : ∀ p u, w.state.field = some p → w.state.producers[p]? = some u → u.stopped = false
  leaving : ∀ p u, w.state.field = some p → w.state.producers[p]? = some u → u.Leaving →
    u.stopFailed = true ∨ ∃ x ∈ w.tasks, x.Stopping p
  starting : ∀ (id : ℕ) (x : ProducerTask) (p : ℕ), w.tasks[id]? = some x → x.Starting p →
    (w.state.field = some p ∧ ∃ u, w.state.producers[p]? = some u ∧ u.start = none ∧ u.stopBegun = false) ∧
      ∀ (id' : ℕ) (y : ProducerTask), w.tasks[id']? = some y → id' ≠ id → ∀ q, ¬ y.Starting q ∧ ¬ y.Stopping q
  stopping : ∀ x ∈ w.tasks, ∀ p, x.Stopping p → w.state.field = some p ∨ w.state.field = none

theorem ProducerInstance.atRest_init : ProducerInstance.init.AtRest :=
  ⟨⟨nofun, nofun, nofun⟩, nofun, nofun, nofun, nofun, nofun, nofun⟩

/-- **The end of a section.** -/
theorem Amidst.atRest {tasks : List ProducerTask} {s : ProducerState} {stops : ℕ → Prop} {id : ℕ} {x : ProducerTask}
    (h : Amidst x.method stops x.stance s) (hid : tasks[id]? = some x) (hsettled : ∀ y ∈ tasks, y.Settled)
    (hothers : ∀ (id' : ℕ) (y : ProducerTask), tasks[id']? = some y → id' ≠ id → ∀ q, ¬ y.Starting q ∧ (y.Stopping q → stops q))
    (hstops : ∀ q, stops q → ∃ y ∈ tasks, y.Stopping q) : ProducerInstance.AtRest ⟨s, tasks⟩ := by
  have hmem : x ∈ tasks := List.mem_of_getElem? hid
  obtain ⟨hstart, hstop, hstopped, hclear⟩ := (hsettled x hmem).phase
  have hfits := h.fits
  refine ⟨h.tidy, hsettled, fun p u hp hu hnone => ?_, fun p u hp hu => ?_, fun p u hp hu hleaving => ?_,
    fun j y p hj hy => ?_, fun y hy p hp => ?_⟩
  · exact ⟨x, hmem, (hstart p).1 (h.unstarted p u hp hu hnone)⟩
  · rw [← Bool.not_eq_true]
    exact fun h' => hstopped p (h.kept p u hp hu h')
  · rcases h.leaving p u hp hu hleaving with hfailed | hphase | hphase | hphase | hother
    · exact .inl hfailed
    · -- a call whose start raised goes no further than its `close()`, which empties the field or waits
      cases hp.symm.trans (h.seen none (hclear p hphase))
    · exact .inr ⟨x, hmem, (hstop p).1 hphase⟩
    · exact absurd hphase (hstopped p)
    · exact .inr (hstops p hother)
  · by_cases hne : j = id
    · subst hne
      cases hid.symm.trans hj
      rw [(hstart p).2 hy] at hfits
      refine ⟨hfits.2, fun k z hk hne q => ?_⟩
      have hother := hothers k z hk hne q
      exact ⟨hother.1, fun hq => hfits.1 q (hother.2 hq)⟩
    · exact absurd hy (hothers j y hj hne p).1
  · obtain ⟨j, hj⟩ := List.getElem?_of_mem hy
    by_cases hne : j = id
    · subst hne
      cases hid.symm.trans hj
      rw [(hstop p).2 hp] at hfits
      exact hfits
    · exact h.others p ((hothers j y hj hne p).2 hp)

/-! ## Events -/

theorem settle_settled (x : ProducerTask) (s : ProducerState) : (ProducerInstance.settle x s).2.Settled := by
  intro i hi s'
  have hnone : (ProducerInstance.settle x s).1.serve i = none := x.thread.serve_settle hi
  cases i <;> first | rfl | cases hnone

/-- **A section** of a call. -/
theorem Amidst.settle {stops : ℕ → Prop} {x : ProducerTask} {s : ProducerState} (h : Amidst x.method stops x.stance s) :
    Amidst x.method stops (ProducerInstance.settle x s).2.stance (ProducerInstance.settle x s).1 :=
  Thread.settle_inv (program_stands x.method) (fun _ _ _ _ _ h hok hi => h.serve hok hi) h

namespace ProducerInstance

variable {w : ProducerInstance}

/-- What has been abandoned is no longer in the field once it has been stopped. -/
theorem AtRest.not_abandoned (hw : w.AtRest) (hcalm : ∀ u ∈ w.state.producers, u.Abandoned → u.stopped = true) {p : ℕ}
    {u : Underlying} (hp : w.state.field = some p) (hu : w.state.producers[p]? = some u) : ¬ u.Abandoned := by
  intro h
  have hstopped := hcalm u (List.mem_of_getElem? hu) h
  cases (hw.kept p u hp hu).symm.trans hstopped

/-- Nor is a producer whose start raised: the call that made it has stopped it, or has failed to. -/
theorem AtRest.not_leaving (hw : w.AtRest) (hstops : ∀ x ∈ w.tasks, ∀ i ∈ x.pending, i.isStop = false)
    (hcalm : ∀ u ∈ w.state.producers, u.Abandoned → u.stopped = true) {p : ℕ} {u : Underlying}
    (hp : w.state.field = some p) (hu : w.state.producers[p]? = some u) : ¬ u.Leaving := by
  intro h
  rcases hw.leaving p u hp hu h with hfailed | ⟨y, hy, hstopping⟩
  · exact hw.not_abandoned hcalm hp hu (.inr hfailed)
  · cases hstops y hy _ hstopping

/-- A call begins where events are calm. -/
theorem AtRest.amidst_call (hw : w.AtRest) {m : ProducerMethod} (hcalm : w.Calm (.call m)) :
    Amidst m (fun p => ∃ y ∈ w.tasks, y.Stopping p) ⟨.early, none⟩ w.state := by
  obtain ⟨hstarts, hmake⟩ := hcalm
  have hunstarted : ∀ p u, w.state.field = some p → w.state.producers[p]? = some u → u.start ≠ none := by
    intro p u hp hu hnone
    obtain ⟨x, hx, hstart⟩ := hw.unstarted p u hp hu hnone
    cases hstarts x hx _ hstart
  refine ⟨hw.tidy, nofun, fun p u hp hu hnone => absurd hnone (hunstarted p u hp hu), fun p u hp hu hstopped => ?_,
    fun p u hp hu hleaving => ?_, ?_, ?_⟩
  · cases (hw.kept p u hp hu).symm.trans hstopped
  · exact (hw.leaving p u hp hu hleaving).imp_right fun h => .inr (.inr (.inr h))
  · rintro p ⟨y, hy, hstop⟩
    exact hw.stopping y hy p hstop
  · intro hm
    replace hmake := hmake hm
    refine ⟨fun p ⟨y, hy, hstop⟩ => absurd (hmake.1 y hy _ hstop) nofun, fun p u hp hu => ?_⟩
    have habandoned := hw.not_abandoned hmake.2 hp hu
    have hleaving : ¬ u.Leaving := fun h => hw.not_leaving hmake.1 hmake.2 hp hu h
    constructor
    · -- the start has ended, and has not failed
      obtain ⟨outcome, houtcome⟩ := Option.ne_none_iff_exists'.1 (hunstarted p u hp hu)
      cases outcome with
      | returned => exact houtcome
      | raised => exact absurd (.inl houtcome) hleaving
      | cancelled => exact absurd (.inl houtcome) habandoned
    · rw [← Bool.not_eq_true]
      exact fun hbegun => hleaving (.inr hbegun)

/-- The awaits of the other calls. -/
def Others (w : ProducerInstance) (id : ℕ) (p : ℕ) : Prop :=
  ∃ (id' : ℕ) (y : ProducerTask), w.tasks[id']? = some y ∧ id' ≠ id ∧ y.Stopping p

/-- A `start()` ends. -/
theorem AtRest.amidst_start (hw : w.AtRest) {id p : ℕ} {x : ProducerTask} (hx : w.tasks[id]? = some x)
    (hstart : x.Starting p) (outcome : Awaited) :
    Amidst x.method (w.Others id) (x.stance.next (.start p) outcome) (w.state.ended outcome (.start p)) := by
  obtain ⟨⟨hfield, u, hu, hnone, hbegun⟩, halone⟩ := hw.starting id x p hx hstart
  -- nobody is called while a `start()` runs, so no other call waits in a `stop()`
  have hstops : ∀ q, ¬ w.Others id q := fun q ⟨id', y, hy, hne, hstop⟩ => (halone id' y hy hne q).2 hstop
  have hafter : ∀ u', (w.state.ended outcome (.start p)).producers[p]? = some u' →
      u' = { u with start := some outcome } := by
    intro u' hu'
    obtain ⟨v, hv, rfl⟩ := ProducerState.get_modify hu'
    rw [if_pos rfl, Option.some.inj (hv.symm.trans hu)]
  -- the producer whose start ended is there, with the outcome
  have hget : (w.state.ended outcome (.start p)).producers[p]? = some { u with start := some outcome } := by
    have hlt := (List.getElem?_eq_some_iff.1 hu).1
    have hlen : p < (w.state.ended outcome (.start p)).producers.length := by
      show p < (w.state.producers.modify p _).length
      rwa [List.length_modify]
    rw [List.getElem?_eq_getElem hlen]
    exact congrArg some (hafter _ (List.getElem?_eq_getElem hlen))
  have htidy : (w.state.ended outcome (.start p)).Tidy := by
    refine ⟨fun q hq => ?_, fun q u' hu' hlive => ?_, hw.tidy.handed⟩
    · show q + 1 = (w.state.producers.modify p _).length
      rw [List.length_modify]
      exact hw.tidy.newest q hq
    · by_cases hne : p = q
      · rw [← hne]
        exact hfield
      · obtain ⟨v, hv, rfl⟩ := ProducerState.get_modify hu'
        rw [if_neg hne] at hlive
        exact hw.tidy.live q v hv hlive
  -- a call behind its await knows nothing of the field
  have hseen : ∀ f, (x.stance.next (.start p) outcome).seen ≠ some f := by
    cases outcome <;> exact nofun
  -- the field holds this producer and no other
  refine ⟨htidy, fun f hf => absurd hf (hseen f), fun q u' hq hu' h => ?_, fun q u' hq hu' h => ?_,
    fun q u' hq hu' h => ?_, fun q hq => absurd hq (hstops q), ?_⟩
  · obtain rfl : p = q := Option.some.inj (hfield.symm.trans hq)
    rw [hafter u' hu'] at h
    cases h
  · obtain rfl : p = q := Option.some.inj (hfield.symm.trans hq)
    rw [hafter u' hu'] at h
    cases (hw.kept p u hfield hu).symm.trans h
  · obtain rfl : p = q := Option.some.inj (hfield.symm.trans hq)
    rw [hafter u' hu'] at h
    rcases h with hraised | h
    · cases hraised
      exact .inr (.inl rfl)
    · cases hbegun.symm.trans h
  · cases outcome with
    | returned => exact ⟨hfield, _, hget, rfl, hbegun⟩
    | raised => trivial
    | cancelled => trivial

/-- A `stop()` ends. -/
theorem AtRest.amidst_stop (hw : w.AtRest) {id p : ℕ} {x : ProducerTask} (hx : w.tasks[id]? = some x)
    (hstop : x.Stopping p) (outcome : Awaited) :
    Amidst x.method (w.Others id) (x.stance.next (.awaitStop p) outcome) (w.state.ended outcome (.awaitStop p)) := by
  have hmem := List.mem_of_getElem? hx
  have hfield := hw.stopping x hmem p hstop
  -- a producer behind the step and before it: the start is as it was, the stop may have ended
  have hget : ∀ q u', (w.state.ended outcome (.awaitStop p)).producers[q]? = some u' →
      ∃ u, w.state.producers[q]? = some u ∧ u'.start = u.start ∧ (u'.Leaving → u.Leaving) ∧
        (u.stopFailed = true → u'.stopFailed = true) ∧
        (u'.stopped = true → u.stopped = true ∨ outcome = .returned ∧ p = q) ∧
        (p = q → outcome = .returned ∧ u'.stopped = true ∨ outcome ≠ .returned ∧ u'.stopFailed = true) := by
    intro q u' hu'
    obtain ⟨u, hu, rfl⟩ := ProducerState.get_modify hu'
    refine ⟨u, hu, ?_⟩
    split
    · next heq => cases outcome <;> simp [Underlying.Leaving, heq]
    · next hne => exact ⟨rfl, fun h => h, fun h => h, .inl, fun heq => absurd heq hne⟩
  have htidy : (w.state.ended outcome (.awaitStop p)).Tidy := by
    refine hw.tidy.modify p fun u hlive => ?_
    cases outcome with
    | returned => cases hlive.2
    | raised => exact hlive
    | cancelled => exact hlive
  have hseen : ∀ f, (x.stance.next (.awaitStop p) outcome).seen ≠ some f := by
    cases outcome <;> exact nofun
  refine ⟨htidy, fun f hf => absurd hf (hseen f), fun q u' hq hu' h => ?_, fun q u' hq hu' h => ?_,
    fun q u' hq hu' h => ?_, ?_, ?_⟩
  · -- nobody waits in a start while this call waits in a stop
    obtain ⟨u, hu, hstart, -⟩ := hget q u' hu'
    obtain ⟨y, hy, hystart⟩ := hw.unstarted q u hq hu (hstart ▸ h)
    obtain ⟨j, hj⟩ := List.getElem?_of_mem hy
    have hne : id ≠ j := by
      rintro rfl
      cases hx.symm.trans hj
      cases hstop.symm.trans hystart
    exact absurd hstop ((hw.starting j y q hj hystart).2 id x hx hne p).2
  · obtain ⟨u, hu, -, -, -, hstopped, -⟩ := hget q u' hu'
    rcases hstopped h with h | ⟨rfl, rfl⟩
    · cases (hw.kept q u hq hu).symm.trans h
    · rfl
  · obtain ⟨u, hu, -, hleaving, hfailed, -, hp⟩ := hget q u' hu'
    rcases hw.leaving q u hq hu (hleaving h) with hold | ⟨y, hy, hystop⟩
    · exact .inl (hfailed hold)
    · obtain ⟨j, hj⟩ := List.getElem?_of_mem hy
      by_cases hne : j = id
      · subst hne
        cases hx.symm.trans hj
        obtain rfl : p = q := by
          cases hstop.symm.trans hystop
          rfl
        rcases hp rfl with ⟨rfl, -⟩ | ⟨-, hnew⟩
        · exact .inr (.inr (.inr (.inl rfl)))
        · exact .inl hnew
      · exact .inr (.inr (.inr (.inr ⟨j, y, hj, hne, hystop⟩)))
  · rintro q ⟨j, y, hj, -, hystop⟩
    exact hw.stopping y (List.mem_of_getElem? hj) q hystop
  · cases outcome with
    | returned =>
      refine ⟨hfield, fun u' _ hu' => ?_⟩
      obtain ⟨u, -, -, -, -, -, hp⟩ := hget p u' hu'
      rcases hp rfl with ⟨-, hstopped⟩ | ⟨hne, -⟩
      · exact hstopped
      · exact absurd rfl hne
    | raised => trivial
    | cancelled => trivial

/-- **A call goes on**, if there is one that waits. -/
theorem proceed_cases (w : ProducerInstance) (id : ℕ) (outcome : Awaited) :
    w.step (.proceed id outcome) = w ∨ ∃ (x y : ProducerTask) (i : ProducerCall), w.tasks[id]? = some x ∧
      x.pending = some i ∧ y.method = x.method ∧ y.thread.rest = x.thread.rest.resume (reply outcome) ∧
      y.stance = x.stance.next i (reply outcome i) ∧
      w.step (.proceed id outcome) =
        ⟨(settle y (w.state.ended outcome i)).1, w.tasks.set id (settle y (w.state.ended outcome i)).2⟩ := by
  simp only [step]
  cases hx : w.tasks[id]? with
  | none => exact .inl rfl
  | some x =>
    cases hi : x.pending with
    | none => exact .inl (by simp only [hi])
    | some i =>
      refine .inr ⟨x, { x with thread := x.thread.advance (reply outcome) }, i, rfl, hi, rfl, rfl, ?_, ?_⟩
      · exact Thread.state_advance hi
      · simp only [hi]

/-- The other calls are where they were. -/
theorem others_of_set {tasks : List ProducerTask} {id id' : ℕ} {x y : ProducerTask} (h : (tasks.set id x)[id']? = some y)
    (hne : id' ≠ id) : tasks[id']? = some y := by
  rwa [List.getElem?_set_ne (Ne.symm hne)] at h

/-- A call goes on that waited in a start or a stop. -/
theorem AtRest.section_rest (hw : w.AtRest) {id : ℕ} {x y : ProducerTask} {s : ProducerState}
    (hx : w.tasks[id]? = some x) (h : Amidst y.method (w.Others id) y.stance s)
    (hstart : ∀ (id' : ℕ) (z : ProducerTask), w.tasks[id']? = some z → id' ≠ id → ∀ q, ¬ z.Starting q) :
    AtRest ⟨(settle y s).1, w.tasks.set id (settle y s).2⟩ := by
  refine (h.settle).atRest (List.getElem?_set_self (List.getElem?_eq_some_iff.1 hx).1) (fun z hz => ?_)
    (fun id' z hz hne q => ?_) ?_
  · rcases List.mem_or_eq_of_mem_set hz with hz | rfl
    · exact hw.settled z hz
    · exact settle_settled y s
  · have hz' := others_of_set hz hne
    exact ⟨hstart id' z hz' hne q, fun hstop => ⟨id', z, hz', hne, hstop⟩⟩
  · rintro q ⟨id', z, hz, hne, hstop⟩
    refine ⟨z, List.mem_of_getElem? (i := id') ?_, hstop⟩
    rw [List.getElem?_set_ne (Ne.symm hne), hz]

/-- A call that has sent returns, and nothing else changes. -/
theorem AtRest.sent (hw : w.AtRest) {id p : ℕ} {x y : ProducerTask} (hx : w.tasks[id]? = some x)
    (hsend : x.pending = some (.sendAndWait p)) (hy : y.pending = none) : AtRest ⟨w.state, w.tasks.set id y⟩ := by
  -- every other call is still there
  have hkeep : ∀ z ∈ w.tasks, z ≠ x → z ∈ w.tasks.set id y := by
    intro z hz hne
    obtain ⟨j, hj⟩ := List.getElem?_of_mem hz
    have hid : j ≠ id := by
      rintro rfl
      exact hne (Option.some.inj (hj.symm.trans hx))
    refine List.mem_of_getElem? (i := j) ?_
    rw [List.getElem?_set_ne (Ne.symm hid), hj]
  -- a call that still waits is one from before
  have hback : ∀ (j : ℕ) (z : ProducerTask), (w.tasks.set id y)[j]? = some z → z.pending ≠ none →
      w.tasks[j]? = some z := by
    intro j z hz hpending
    by_cases hne : j = id
    · subst hne
      rw [List.getElem?_set_self (List.getElem?_eq_some_iff.1 hx).1] at hz
      cases hz
      exact absurd hy hpending
    · exact others_of_set hz hne
  have hother : ∀ (z : ProducerTask) (i : ProducerCall), z.pending = some i → i ≠ .sendAndWait p →
      z.pending ≠ none ∧ z ≠ x := by
    intro z i hz hne
    refine ⟨fun hnone => absurd (hz.symm.trans hnone) nofun, ?_⟩
    rintro rfl
    exact hne (Option.some.inj (hz.symm.trans hsend))
  have hstart : ∀ (z : ProducerTask) q, z.Starting q → z.pending ≠ none ∧ z ≠ x := fun z q hz => hother z _ hz nofun
  have hstop : ∀ (z : ProducerTask) q, z.Stopping q → z.pending ≠ none ∧ z ≠ x := fun z q hz => hother z _ hz nofun
  refine ⟨hw.tidy, fun z hz => ?_, fun q u hq hu h => ?_, hw.kept, fun q u hq hu h => ?_, fun j z q hj hz => ?_,
    fun z hz q hq => ?_⟩
  · rcases List.mem_or_eq_of_mem_set hz with hz | rfl
    · exact hw.settled z hz
    · intro i hi
      cases hy.symm.trans hi
  · obtain ⟨z, hz, hzstart⟩ := hw.unstarted q u hq hu h
    exact ⟨z, hkeep z hz (hstart z q hzstart).2, hzstart⟩
  · rcases hw.leaving q u hq hu h with hfailed | ⟨z, hz, hzstop⟩
    · exact .inl hfailed
    · exact .inr ⟨z, hkeep z hz (hstop z q hzstop).2, hzstop⟩
  · obtain ⟨hstate, halone⟩ := hw.starting j z q (hback j z hj (hstart z q hz).1) hz
    refine ⟨hstate, fun k v hk hne q' => ⟨fun hv => ?_, fun hv => ?_⟩⟩
    · exact (halone k v (hback k v hk (hstart v q' hv).1) hne q').1 hv
    · exact (halone k v (hback k v hk (hstop v q' hv).1) hne q').2 hv
  · obtain ⟨j, hj⟩ := List.getElem?_of_mem hz
    exact hw.stopping z (List.mem_of_getElem? (hback j z hj (hstop z q hq).1)) q hq

theorem finished_allows (m : ProducerMethod) (i : ProducerCall) : ¬ (⟨.finished, none⟩ : Stance).Allows m i := by
  intro h
  cases i with
  | getField => exact h
  | setField field =>
    cases field with
    | none =>
      obtain ⟨p, hphase⟩ : ∃ p, Phase.finished = .stopped p := h
      cases hphase
    | some p => cases h
  | create => cases h.2
  | start p => cases h
  | handOver p => cases h.2.1
  | beginStop p => exact h.2
  | awaitStop p => cases h
  | sendAndWait p => cases h

/-- **Calm events keep the rest.** -/
theorem AtRest.step (hw : w.AtRest) {e : ProducerEvent} (hcalm : w.Calm e) : (w.step e).AtRest := by
  cases e with
  | call m =>
    have hamidst : Amidst m _ (ProducerTask.stance ⟨m, .start _⟩) w.state := hw.amidst_call hcalm
    have hend := @Amidst.settle _ ⟨m, .start _⟩ _ hamidst
    refine hend.atRest List.getElem?_concat_length (fun y hy => ?_) (fun id' y hy hne q => ?_) ?_
    · rcases List.mem_append.1 hy with hy | hy
      · exact hw.settled y hy
      · rw [List.mem_singleton.1 hy]
        exact settle_settled _ _
    · have hlt : id' < w.tasks.length := by
        have hlen := (List.getElem?_eq_some_iff.1 hy).1
        rw [List.length_append, List.length_singleton] at hlen
        omega
      rw [List.getElem?_append_left hlt] at hy
      have hmem := List.mem_of_getElem? hy
      exact ⟨fun hstart => absurd (hcalm.1 y hmem _ hstart) nofun, fun hstop => ⟨y, hmem, hstop⟩⟩
    · rintro q ⟨y, hy, hstop⟩
      exact ⟨y, List.mem_append_left _ hy, hstop⟩
  | proceed id outcome =>
    rcases proceed_cases w id outcome with heq | ⟨x, y, i, hx, hi, hmethod, hrest, hstance, heq⟩
    · rwa [heq]
    · have hmem := List.mem_of_getElem? hx
      have hserve := hw.settled x hmem i hi .init
      rw [heq]
      cases i with
      | start p =>
        have hamidst := hw.amidst_start hx hi outcome
        have hamidst : Amidst y.method (w.Others id) y.stance (w.state.ended outcome (.start p)) := by
          rw [hmethod, hstance]
          exact hamidst
        exact hw.section_rest hx hamidst fun id' z hz hne q => ((hw.starting id x p hx hi).2 id' z hz hne q).1
      | awaitStop p =>
        have hamidst := hw.amidst_stop hx hi outcome
        have hamidst : Amidst y.method (w.Others id) y.stance (w.state.ended outcome (.awaitStop p)) := by
          rw [hmethod, hstance]
          exact hamidst
        refine hw.section_rest hx hamidst fun id' z hz hne q hstart => ?_
        exact ((hw.starting id' z q hz hstart).2 id x hx (Ne.symm hne) p).2 hi
      | sendAndWait p =>
        -- after the answer of the broker a call does nothing more
        have hsat : (standing y.method).Sat y.thread.rest y.stance fun z' _ => z'.Ended :=
          y.thread.sat (program_stands y.method)
        rw [hstance] at hsat
        cases hret : y.thread.rest with
        | call j k =>
          rw [hret] at hsat
          exact absurd hsat.1 (finished_allows y.method j)
        | ret out =>
          have hstate : (settle y (w.state.ended outcome (.sendAndWait p))).1 = w.state := by
            show (y.thread.rest.settle _ _).1 = w.state
            rw [hret]
            rfl
          have hreturned : (settle y (w.state.ended outcome (.sendAndWait p))).2.pending = none := by
            show (y.thread.rest.settle _ _).2.2.pending = none
            rw [hret]
            rfl
          rw [hstate]
          exact hw.sent hx hi hreturned
      | getField => cases hserve
      | setField field => cases hserve
      | create => cases hserve
      | handOver q => cases hserve
      | beginStop q => cases hserve

/-- A call that finds the field empty makes a producer and waits in its start. -/
theorem call_fresh {m : ProducerMethod} (hm : m ≠ .close) (hfield : w.state.field = none) :
    (w.step (.call m)).state.producers = w.state.producers ++ [.fresh] ∧
      ∃ x ∈ (w.step (.call m)).tasks, x.Starting w.state.producers.length := by
  obtain ⟨⟨field, producers, handed⟩, tasks⟩ := w
  obtain rfl : field = none := hfield
  cases m with
  | close => exact absurd rfl hm
  | send => exact ⟨rfl, _, List.mem_append_right _ (List.mem_singleton_self _), rfl⟩
  | ensureReady => exact ⟨rfl, _, List.mem_append_right _ (List.mem_singleton_self _), rfl⟩

/-- After a start that failed the field is empty where the next call may begin. -/
theorem AtRest.field_empty (hw : w.AtRest) {m : ProducerMethod} (hm : m ≠ .close) (hcalm : w.Calm (.call m))
    {u : Underlying} (hlast : w.state.producers.getLast? = some u) (hfailed : u.StartFailed) :
    w.state.field = none := by
  cases hfield : w.state.field with
  | none => rfl
  | some p =>
    have hnewest := hw.tidy.newest p hfield
    rw [List.getLast?_eq_getElem?, ← hnewest, Nat.add_sub_cancel] at hlast
    obtain ⟨-, hmake⟩ := hcalm
    obtain ⟨hstops, hstopped⟩ := hmake hm
    rcases hfailed with hraised | hcancelled
    · exact absurd (.inl hraised) (hw.not_leaving hstops hstopped hfield hlast)
    · exact absurd (.inl hcancelled) (hw.not_abandoned hstopped hfield hlast)

end ProducerInstance

open ProducerInstance

/-- **The life of the producer.** In a run of calm events every producer handed to a caller had been
started and was not being stopped, at most one that was started has not been stopped, and a call
that begins after a start that raised or was cancelled makes a new producer and starts that. -/
theorem producer_lifecycle {es : List ProducerEvent} (h : Along step Calm init es) :
    (∀ u ∈ (after es).state.handed, u.Sound) ∧
    (∀ (p q : ℕ) (u v : Underlying), (after es).state.producers[p]? = some u →
      (after es).state.producers[q]? = some v → u.Live → v.Live → p = q) ∧
    ∀ m ≠ ProducerMethod.close, (after es).Calm (.call m) → ∀ u, (after es).state.producers.getLast? = some u →
      u.StartFailed → ((after es).step (.call m)).state.producers = (after es).state.producers ++ [.fresh] ∧
        ∃ x ∈ ((after es).step (.call m)).tasks, x.Starting (after es).state.producers.length := by
  have hw : (after es).AtRest := along_inv (fun _ _ hw hcalm => hw.step hcalm) atRest_init h
  refine ⟨hw.tidy.handed, fun p q u v hu hv hlu hlv => ?_, fun m hm hcalm u hlast hfailed => ?_⟩
  · exact Option.some.inj ((hw.tidy.live p u hu hlu).symm.trans (hw.tidy.live q v hv hlv))
  · exact call_fresh hm (hw.field_empty hm hcalm hlast hfailed)

/-- A start that raises, so that the call closes the producer; one that is cancelled, and a close;
and a message. -/
def calmRun : List ProducerEvent :=
  [.call .send, .proceed 0 .raised, .proceed 0 .returned, .call .ensureReady, .proceed 1 .cancelled, .call .close,
    .proceed 2 .returned, .call .send, .proceed 3 .returned]

/-- The message goes to a producer that has been started, the third that was made. -/
theorem calm_sends : (after calmRun).state.producers.length = 3 ∧
    (after calmRun).state.handed = [{ start := some .returned }] ∧ ∀ u ∈ (after calmRun).state.handed, u.Sound := by
  exact ⟨rfl, rfl, (producer_lifecycle (by decide)).1⟩

/-- **Two messages at once, or a start that timed out**, and a producer is handed out that was never
started. -/
theorem unstarted_handed_out :
    (∃ u ∈ (after [.call .send, .call .send]).state.handed, u.start = none) ∧
    ∃ u ∈ (after [.call .ensureReady, .proceed 0 .cancelled, .call .send]).state.handed, u.start = some .cancelled :=
  ⟨⟨_, List.mem_singleton_self _, rfl⟩, _, List.mem_singleton_self _, rfl⟩

end Transcribe
