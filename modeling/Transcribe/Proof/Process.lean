import Transcribe.Model.Process

/-!
# What `run` does in which order

* `Progress`: what `run` has done so far, read off its calls and their replies.
* `assembleFrom_sat`: the bundle is made, or what has been made of it is closed.
* `release_sat`: what has been made is closed, in order.
* `run_sat`: the order of everything `run` does, whatever its calls are answered.
-/

namespace Transcribe

open Resumption EventSystem

/-- What `run` has done. `failed` is what the await of the checks has raised, `broken` tells that `close_all`
or `flush` has raised, `late` that one of them was cut off or the server cancelled, `ended` that
the server was seen to have ended, `unclosed` that a close has raised. -/
structure Progress where
  made : List Resource
  gathered : Bool
  checked : Bool
  failed : Option ProcessExc
  serving : Bool
  drained : Bool
  flushed : Bool
  late : Bool
  broken : Bool
  ended : Bool
  closed : List Resource
  unclosed : Bool

/-- The order of the closes. -/
def releaseOrder : List Resource := [.producer, .sequenceStateMachine, .ownershipGuard, .redisClient]

namespace Progress

def start : Progress := ⟨[], false, false, none, false, false, false, false, false, false, [], false⟩

/-- Of an await in the shutdown: it was cut off, or raised `TimeoutError`. -/
def isLate : Except ProcessExc Unit → Bool
  | .error .cancelledError | .error (.timeoutError _) => true
  | _ => false

/-- Of an await in the shutdown: it raised something else. -/
def isBroken : Except ProcessExc Unit → Bool
  | .error .cancelledError | .error (.timeoutError _) | .ok () => false
  | .error _ => true

/-- It returned. -/
def isOk : Except ProcessExc Unit → Bool
  | .ok () => true
  | .error _ => false

def next (s : Progress) : (i : MainCall) → MainReply i → Progress
  | .assemble a, .ok () => { s with made := s.made ++ a.made }
  | .gather, _ => { s with gathered := true }
  | .awaitChecks, .ok () => { s with checked := true }
  | .awaitChecks, .error e => { s with failed := some e }
  | .createTasks, _ => { s with serving := true }
  | .waitFirst, b => { s with ended := b }
  | .serverResult, _ => { s with ended := true }
  | .awaitServerTask, r => { s with ended := true, late := s.late || isLate r }
  | .serverTaskDone, b => { s with ended := s.ended || b }
  | .closeAll, r =>
    { s with drained := isOk r, late := s.late || isLate r, broken := isBroken r }
  | .flush, r => { s with flushed := isOk r, late := s.late || isLate r, broken := isBroken r }
  | .close r, x => { s with closed := s.closed ++ [r], unclosed := s.unclosed || !isOk x }
  | _, _ => s

/-- What the process owns, in the order in which it is closed. -/
def owned (s : Progress) : List Resource := releaseOrder.filter (· ∈ s.made)

/-- What `run` may do. -/
def Allows (s : Progress) : MainCall → Prop
  | .assemble _ => s.serving = false ∧ s.closed = []
  | .gather => s.serving = false ∧ s.gathered = false ∧ s.checked = false ∧ s.closed = []
  | .awaitChecks => s.serving = false ∧ s.failed = none ∧ s.closed = [] ∧ s.gathered = true
  | .createTasks => s.checked = true ∧ s.failed = none ∧ s.closed = []
  | .waitFirst | .closeAll => s.serving = true ∧ s.closed = []
  | .serverResult => s.serving = true ∧ s.ended = true ∧ s.closed = []
  | .flush => s.drained = true ∧ s.closed = []
  | .setShouldExit => (s.flushed = true ∨ s.late = true) ∧ s.closed = []
  | .serverTaskDone => s.late = true ∧ s.closed = []
  | .cancelServerTask => s.late = true ∧ s.closed = []
  | .awaitServerTask => s.serving = true ∧ s.closed = []
  | .close r => s.closed ++ [r] <+: s.owned ∧ s.unclosed = false ∧
      (s.serving = true → s.ended = true ∨ s.broken = true)

end Progress

namespace Progress

variable {s : Progress} {i : MainCall} {r : MainReply i}

theorem next_serving : (s.next i r).serving = (s.serving || decide (i = .createTasks)) := by
  cases i with
  | assemble a => cases r <;> simp [next]
  | awaitChecks => cases r <;> simp [next]
  | _ => simp [next]

theorem next_gathered : (s.next i r).gathered = (s.gathered || decide (i = .gather)) := by
  cases i with
  | assemble a => cases r <;> simp [next]
  | awaitChecks => cases r <;> simp [next]
  | _ => simp [next]

/-- Only the checks' return counts as such. -/
theorem next_checked (h : (s.next i r).checked = true) :
    s.checked = true ∨ (⟨i, r⟩ : Σ i, MainReply i) = ⟨.awaitChecks, .ok ()⟩ := by
  cases i with
  | assemble a => cases r <;> exact .inl h
  | awaitChecks =>
    cases r with
    | ok _ => exact .inr rfl
    | error e => exact .inl h
  | _ => exact .inl h

theorem next_failed {e : ProcessExc} (h : (s.next i r).failed = some e) :
    s.failed = some e ∨ (⟨i, r⟩ : Σ i, MainReply i) = ⟨.awaitChecks, .error e⟩ := by
  cases i with
  | assemble a => cases r <;> exact .inl h
  | awaitChecks =>
    cases r with
    | ok _ => exact .inl h
    | error e' => exact .inr (by rw [Option.some.inj h])
  | _ => exact .inl h

/-- The server is started after the checks, and nothing of them changes then. -/
theorem next_gated (hok : s.Allows i) (h : s.serving = true → s.checked = true ∧ s.failed = none)
    (hserving : (s.next i r).serving = true) : (s.next i r).checked = true ∧ (s.next i r).failed = none := by
  have hnever : s.serving = false → s.serving = true → False := fun hf ht => by rw [hf] at ht; cases ht
  cases i with
  | assemble a => cases r <;> exact absurd hserving (hnever hok.1)
  | awaitChecks => cases r <;> exact absurd hserving (hnever hok.1)
  | createTasks => exact ⟨hok.1, hok.2.1⟩
  | _ => exact h hserving

/-- What has been closed is the beginning of what is owned. -/
theorem next_closed (hok : s.Allows i) (h : s.closed <+: s.owned) :
    (s.next i r).closed <+: (s.next i r).owned := by
  cases i with
  | assemble a =>
    cases r with
    | ok _ =>
      show s.closed <+: _
      rw [hok.2]
      exact List.nil_prefix
    | error e => exact h
  | awaitChecks => cases r <;> exact h
  | close r' => exact hok.1
  | _ => exact h

/-- A server that runs on while something is closed is one whose shutdown has raised. -/
theorem next_idle (hok : s.Allows i) : (s.next i r).closed ≠ [] → (s.next i r).serving = true →
    (s.next i r).ended = true ∨ (s.next i r).broken = true := by
  have hnone : s.closed = [] → (s.next i r).closed = s.closed → (s.next i r).closed ≠ [] →
      (s.next i r).serving = true → (s.next i r).ended = true ∨ (s.next i r).broken = true :=
    fun hc hn hne => absurd (hn.trans hc) hne
  cases i with
  | assemble a => cases r <;> exact hnone hok.2 rfl
  | awaitChecks => cases r <;> exact hnone hok.2.2.1 rfl
  | gather => exact hnone hok.2.2.2 rfl
  | createTasks => exact hnone hok.2.2 rfl
  | serverResult => exact hnone hok.2.2 rfl
  | close r' => exact fun _ => hok.2.2
  | _ => exact hnone hok.2 rfl

end Progress

/-- The calls of `run`, watched. -/
def life : Monitor MainCall MainReply Progress := ⟨Progress.Allows, Progress.next⟩

/-! ## What is closed -/

/-- How the release of what has been made ends: everything is closed, or a close has raised. -/
def Released (s s' : Progress) : Prop :=
  ∃ closed unclosed, s' = { s with closed := closed, unclosed := unclosed } ∧ closed <+: s.owned ∧
    (unclosed = false → closed = s.owned)

/-- How a coroutine that releases ends. -/
def Releases (s s' : Progress) (x : Except ProcessExc Unit) : Prop :=
  Released s s' ∧ (s'.unclosed = true ↔ ∃ e, x = .error e)

section

open Main MainCoro

variable {s : Progress} {Q : Progress → Except ProcessExc Unit → Prop}

/-- One close: what is left to be closed is closed after it. -/
theorem close_sat (hidle : s.serving = true → s.ended = true ∨ s.broken = true) (hun : s.unclosed = false)
    {r : Resource} {closed rest : List Resource} (h : closed ++ r :: rest = s.owned) {f : Unit → MainCoro Unit}
    (hf : life.Sat (f ()).run { s with closed := closed ++ [r] } Q)
    (hraise : ∀ e s', Released s s' → s'.unclosed = true → Q s' (.error e)) :
    life.Sat (close r >>= f).run { s with closed := closed } Q := by
  have hpre : closed ++ [r] <+: s.owned := ⟨rest, by rw [← h, List.append_assoc]; rfl⟩
  refine Monitor.sat_exceptT_bind.2 ⟨⟨hpre, hun, hidle⟩, fun (x : Except ProcessExc Unit) => ?_⟩
  cases x with
  | ok _ =>
    have hnext : life.next { s with closed := closed } (.close r) (.ok ()) = { s with closed := closed ++ [r] } := by
      simp [life, Progress.next, Progress.isOk]
    show life.Sat (f ()).run (life.next { s with closed := closed } (.close r) (.ok ())) Q
    rw [hnext]
    exact hf
  | error e =>
    refine hraise e _ ⟨closed ++ [r], true, ?_, hpre, nofun⟩ ?_
    · simp [life, Progress.next, Progress.isOk]
    · simp [life, Progress.next, Progress.isOk]

/-- A close of what may not have been made. -/
theorem closeMade_sat (hidle : s.serving = true → s.ended = true ∨ s.broken = true) (hun : s.unclosed = false)
    {r : Resource} {closed : List Resource} (l : List Resource)
    (h : closed ++ (r :: l).filter (· ∈ s.made) = s.owned) {f : Unit → MainCoro Unit}
    (hf : ∀ closed, closed ++ l.filter (· ∈ s.made) = s.owned →
      life.Sat (f ()).run { s with closed := closed } Q)
    (hraise : ∀ e s', Released s s' → s'.unclosed = true → Q s' (.error e)) :
    life.Sat (if r ∈ s.made then close r >>= f else f ()).run { s with closed := closed } Q := by
  refine Monitor.sat_ite (fun hr => ?_) fun hr => ?_
  · rw [List.filter_cons_of_pos (by simpa using hr)] at h
    exact close_sat hidle hun h (hf _ (by rw [← h, List.append_assoc]; rfl)) hraise
  · rw [List.filter_cons_of_neg (by simpa using hr)] at h
    exact hf _ h

/-- **What has been made is closed, in order.** -/
theorem release_sat (hclosed : s.closed = []) (hun : s.unclosed = false)
    (hidle : s.serving = true → s.ended = true ∨ s.broken = true) :
    life.Sat (release s.made).run s (Releases s) := by
  have hraise : ∀ e s', Released s s' → s'.unclosed = true → Releases s s' (.error e) :=
    fun e s' hr hraised => ⟨hr, fun _ => ⟨e, rfl⟩, fun _ => hraised⟩
  have hs : s = { s with closed := [] } := by rw [← hclosed]
  suffices h : life.Sat (release s.made).run { s with closed := [] } (Releases s) by
    rwa [← hs] at h
  unfold release closeRedisRuntime
  refine closeMade_sat hidle hun [.sequenceStateMachine, .ownershipGuard, .redisClient] rfl
    (fun _ h => ?_) hraise
  refine closeMade_sat hidle hun [.ownershipGuard, .redisClient] h (fun _ h => ?_) hraise
  refine closeMade_sat hidle hun [.redisClient] h (fun _ h => ?_) hraise
  have hdone : ∀ closed, closed = s.owned → Releases s { s with closed := closed } (.ok ()) := by
    intro closed hc
    refine ⟨⟨closed, s.unclosed, rfl, hc ▸ List.prefix_refl _, fun _ => hc⟩, fun h => ?_, nofun⟩
    have hfalse : s.unclosed = true := h
    rw [hun] at hfalse
    cases hfalse
  -- the last close returns what the release does
  refine Monitor.sat_ite (fun hr => ?_) fun hr => ?_
  · rw [List.filter_cons_of_pos (by simpa using hr)] at h
    have hlast := close_sat (Q := Releases s) (f := pure) hidle hun h (hdone _ (by rw [← h]; rfl)) hraise
    refine Monitor.sat_mono (fun s' x hx => ?_) (Monitor.sat_exceptT_bind.1 hlast)
    cases x <;> exact hx
  · rw [List.filter_cons_of_neg (by simpa using hr)] at h
    exact hdone _ (by simpa using h)

/-- How the assembly of the rest ends. -/
def Assembled (s : Progress) (rest : List Assembly) (s' : Progress) : Except ProcessExc Unit → Prop
  | .ok () => s' = { s with made := s.made ++ rest.flatMap Assembly.made }
  | .error _ => ∃ made, Released { s with made := made } s'

/-- **The bundle is made, or what has been made of it is closed.** -/
theorem assembleFrom_sat (rest : List Assembly) : ∀ {s : Progress}, s.serving = false → s.closed = [] →
    s.unclosed = false → life.Sat (assembleFrom rest s.made).run s (Assembled s rest) := by
  induction rest with
  | nil =>
    intro s _ _ _
    show s = { s with made := s.made ++ [] }
    rw [List.append_nil]
  | cons a rest ih =>
    intro s hserving hclosed hun
    refine Monitor.sat_attempt_bind.2
      ⟨⟨hserving, hclosed⟩, fun (x : Except { e : ProcessExc // e ≠ .cancelledError } Unit) => ?_⟩
    cases x with
    | ok _ =>
      show life.Sat (assembleFrom rest (s.made ++ a.made)).run { s with made := s.made ++ a.made } _
      refine Monitor.sat_mono (fun s' x hx => ?_) (@ih { s with made := s.made ++ a.made } hserving hclosed hun)
      cases x with
      | ok _ =>
        have hmade : s' = { s with made := s.made ++ a.made ++ rest.flatMap Assembly.made } := hx
        show s' = { s with made := s.made ++ (a :: rest).flatMap Assembly.made }
        rw [hmade, List.flatMap_cons, List.append_assoc]
      | error e => exact hx
    | error e =>
      have hidle : s.serving = true → s.ended = true ∨ s.broken = true := fun h => by rw [hserving] at h; cases h
      -- what has been made is closed, and the error raised again
      have hrelease : ∀ e : ProcessExc, life.Sat (release s.made >>= fun _ => throw e : MainCoro Unit).run s
          (Assembled s (a :: rest)) := by
        intro e
        refine Monitor.sat_exceptT_bind.2 (Monitor.sat_mono (fun s' x hx => ?_) (release_sat hclosed hun hidle))
        cases x with
        | ok _ => exact ⟨s.made, hx.1⟩
        | error e => exact ⟨s.made, hx.1⟩
      obtain ⟨t | t | _ | t, he⟩ := e
      · exact hrelease (.runtimeError t)
      · exact hrelease (.timeoutError t)
      · exact absurd rfl he
      · exact hrelease (.other t)

/-! ## The shutdown -/

/-- What the shutdown leaves as it is. -/
def Same (s s' : Progress) : Prop :=
  s'.made = s.made ∧ s'.checked = s.checked ∧ s'.failed = s.failed ∧ s'.serving = s.serving ∧
    s'.closed = s.closed ∧ s'.unclosed = s.unclosed

/-- How `_graceful_stop` ends: with the server, or cut off, or it has raised. -/
def Stopped (s : Progress) : Except ProcessExc Unit → Prop
  | .ok () => s.ended = true
  | .error .cancelledError | .error (.timeoutError _) => s.late = true
  | .error _ => s.ended = true ∨ s.broken = true

theorem stopped_of_raised {s' : Progress} {e : ProcessExc}
    (hlate : Progress.isLate (.error e) = true → s'.late = true)
    (hbroken : Progress.isBroken (.error e) = true → s'.ended = true ∨ s'.broken = true) :
    Stopped s' (.error e) := by
  cases e with
  | cancelledError => exact hlate rfl
  | timeoutError t => exact hlate rfl
  | runtimeError t => exact hbroken rfl
  | other t => exact hbroken rfl

theorem gracefulStop_sat (hserving : s.serving = true) (hclosed : s.closed = []) :
    life.Sat gracefulStop.run s fun s' x => Same s s' ∧ Stopped s' x := by
  refine Monitor.sat_exceptT_bind.2 ⟨⟨hserving, hclosed⟩, fun (x : Except ProcessExc Unit) => ?_⟩
  cases x with
  | error e =>
    refine ⟨⟨rfl, rfl, rfl, rfl, rfl, rfl⟩, stopped_of_raised (fun h => ?_) fun h => .inr h⟩
    simp [life, Progress.next, h]
  | ok _ =>
  refine Monitor.sat_exceptT_bind.2 ⟨⟨rfl, hclosed⟩, fun (x : Except ProcessExc Unit) => ?_⟩
  cases x with
  | error e =>
    refine ⟨⟨rfl, rfl, rfl, rfl, rfl, rfl⟩, stopped_of_raised (fun h => ?_) fun h => .inr h⟩
    simp [life, Progress.next, h]
  | ok _ =>
  refine Monitor.sat_lift_bind.2 ⟨⟨.inl rfl, hclosed⟩, fun _ => ?_⟩
  refine ⟨⟨hserving, hclosed⟩, fun (x : Except ProcessExc Unit) => ⟨⟨rfl, rfl, rfl, rfl, rfl, rfl⟩, ?_⟩⟩
  cases x with
  | ok _ => rfl
  | error e =>
    refine stopped_of_raised (fun h => ?_) fun _ => .inl rfl
    simp [life, Progress.next, h]

/-- What holds when the shutdown is over: the server has ended, or the shutdown has raised. -/
def Settled (s s' : Progress) : Prop := Same s s' ∧ (s'.ended = true ∨ s'.broken = true)

/-- Cut off: the server is told to exit, and cancelled unless it is done. -/
theorem forceCleanup_sat (hserving : s.serving = true) (hclosed : s.closed = []) (hlate : s.late = true) :
    life.Sat forceCleanup.run s fun s' _ => Same s s' ∧ s'.ended = true := by
  refine Monitor.sat_lift_bind.2 ⟨⟨.inr hlate, hclosed⟩, fun _ => ?_⟩
  refine Monitor.sat_lift_bind.2 ⟨⟨hlate, hclosed⟩, fun (b : Bool) => ?_⟩
  cases b with
  | true => exact ⟨⟨rfl, rfl, rfl, rfl, rfl, rfl⟩, Bool.or_true _⟩
  | false =>
    refine Monitor.sat_lift_bind.2 ⟨⟨hlate, hclosed⟩, fun _ => ?_⟩
    refine Monitor.sat_attempt_bind.2 ⟨⟨hserving, hclosed⟩, fun (x : Except ProcessExc Unit) => ?_⟩
    rcases x with (t | t | _ | t) | _ <;> exact ⟨⟨rfl, rfl, rfl, rfl, rfl, rfl⟩, rfl⟩

theorem Same.trans {s₁ s₂ s₃ : Progress} (h : Same s₁ s₂) (h' : Same s₂ s₃) : Same s₁ s₃ := by
  obtain ⟨hmade, hchecked, hfailed, hserving, hclosed, hun⟩ := h
  obtain ⟨hmade', hchecked', hfailed', hserving', hclosed', hun'⟩ := h'
  exact ⟨hmade'.trans hmade, hchecked'.trans hchecked, hfailed'.trans hfailed, hserving'.trans hserving,
    hclosed'.trans hclosed, hun'.trans hun⟩

theorem shutDown_sat (hserving : s.serving = true) (hclosed : s.closed = []) :
    life.Sat shutDown.run s fun s' x => Settled s s' ∧ (x = .ok () → s'.ended = true) := by
  have hwithin : life.Sat gracefulStopWithin.run s fun s' x =>
      Same s s' ∧ Stopped s' x ∧ x ≠ .error .cancelledError := by
    refine Monitor.sat_attempt_bind.2 (Monitor.sat_mono (fun s' x hx => ?_) (gracefulStop_sat hserving hclosed))
    obtain ⟨hsame, hstop⟩ := hx
    rcases x with (t | t | _ | t) | _ <;> exact ⟨hsame, hstop, nofun⟩
  refine Monitor.sat_attempt_bind.2 (Monitor.sat_mono (fun s' x hx => ?_) hwithin)
  obtain ⟨hsame, hstop, hcancelled⟩ := hx
  have hforced : s'.late = true →
      life.Sat forceCleanup.run s' fun s'' x => Settled s s'' ∧ (x = .ok () → s''.ended = true) := by
    intro hlate
    have hserving' : s'.serving = s.serving := hsame.2.2.2.1
    have hclosed' : s'.closed = s.closed := hsame.2.2.2.2.1
    refine Monitor.sat_mono (fun s'' _ hx => ?_)
      (forceCleanup_sat (hserving'.trans hserving) (hclosed'.trans hclosed) hlate)
    exact ⟨⟨hsame.trans hx.1, .inl hx.2⟩, fun _ => hx.2⟩
  rcases x with (t | t | _ | t) | _
  · exact ⟨⟨hsame, hstop⟩, nofun⟩
  · exact hforced hstop
  · exact absurd rfl hcancelled
  · exact ⟨⟨hsame, hstop⟩, nofun⟩
  · exact ⟨⟨hsame, .inl hstop⟩, fun _ => hstop⟩

/-! ## `run` -/

/-- How serving ends: nothing is closed yet, and the server is not left running unless the
shutdown has raised. -/
structure Serves (s s' : Progress) (x : Except ProcessExc Unit) : Prop where
  made : s'.made = s.made
  closed : s'.closed = []
  unclosed : s'.unclosed = false
  idle : s'.serving = true → s'.ended = true ∨ s'.broken = true
  returned : x = .ok () → s'.serving = true ∧ s'.ended = true
  failed : ∀ e, s'.failed = some e → x = .error e
  settled : s'.checked = true ∨ s'.failed ≠ none

theorem serve_sat (hserving : s.serving = false) (hclosed : s.closed = []) (hun : s.unclosed = false)
    (hgathered : s.gathered = false) (hchecked : s.checked = false) (hfailed : s.failed = none) :
    life.Sat serve.run s (Serves s) := by
  refine Monitor.sat_lift_bind.2 ⟨⟨hserving, hgathered, hchecked, hclosed⟩, fun _ => ?_⟩
  refine Monitor.sat_exceptT_bind.2 ⟨⟨hserving, hfailed, hclosed, rfl⟩, fun (x : Except ProcessExc Unit) => ?_⟩
  cases x with
  | error e =>
    refine ⟨rfl, hclosed, hun, fun h => ?_, nofun, fun e' he => ?_, .inr nofun⟩
    · have hfalse : s.serving = true := h
      rw [hserving] at hfalse
      cases hfalse
    · rw [Option.some.inj he]
  | ok _ =>
  refine Monitor.sat_lift_bind.2 ⟨⟨rfl, hfailed, hclosed⟩, fun _ => ?_⟩
  refine Monitor.sat_lift_bind.2 ⟨⟨rfl, hclosed⟩, fun (b : Bool) => ?_⟩
  -- from here on the checks are in the past
  have hshut : ∀ s' : Progress, s'.made = s.made → s'.checked = true → s'.failed = none → s'.serving = true →
      s'.closed = [] → s'.unclosed = false → life.Sat shutDown.run s' (Serves s) := by
    intro s' hmade hpast hnone hrun hcl hunc
    refine Monitor.sat_mono (fun s'' x hx => ?_) (shutDown_sat hrun hcl)
    obtain ⟨⟨⟨hm, hch, hf, hs, hc, hu⟩, hdone⟩, hok⟩ := hx
    refine ⟨hm.trans hmade, hc.trans hcl, hu.trans hunc, fun _ => hdone, fun h => ⟨hs.trans hrun, hok h⟩, ?_,
      .inl (hch.trans hpast)⟩
    intro e he
    rw [hf, hnone] at he
    cases he
  cases b with
  | false => exact hshut _ rfl rfl hfailed rfl hclosed hun
  | true =>
    show life.Sat (serverResult >>= fun _ => shutDown).run _ _
    refine Monitor.sat_exceptT_bind.2 ⟨⟨rfl, rfl, hclosed⟩, fun (x : Except ProcessExc Unit) => ?_⟩
    cases x with
    | ok _ => exact hshut _ rfl rfl hfailed rfl hclosed hun
    | error e =>
      refine ⟨rfl, hclosed, hun, fun _ => .inl rfl, nofun, fun e' he => ?_, .inl rfl⟩
      have hnone : s.failed = some e' := he
      rw [hfailed] at hnone
      cases hnone

/-- How `run` ends. -/
structure Over (s : Progress) (x : Except ProcessExc Unit) : Prop where
  closed : s.unclosed = false → s.closed = s.owned
  returned : x = .ok () → s.ended = true ∧ s.closed = releaseOrder
  failed : ∀ e, s.failed = some e → s.unclosed = false → x = .error e
  settled : s.gathered = true → s.checked = true ∨ s.failed ≠ none

/-- **What `run` does in which order**, whatever its calls are answered. -/
theorem run_sat : life.Sat run.run .start Over := by
  refine Monitor.sat_exceptT_bind.2 (Monitor.sat_mono (fun s x hx => ?_)
    (@assembleFrom_sat assembly .start rfl rfl rfl))
  cases x with
  | error e =>
    -- the assembly raised, and has closed what it had made
    obtain ⟨made, closed, unclosed, rfl, hpre, hall⟩ := hx
    exact ⟨hall, nofun, nofun, fun h => absurd h Bool.false_ne_true⟩
  | ok _ =>
  have hs : s = { Progress.start with made := bundle } := hx
  subst hs
  show life.Sat (attempt serve >>= fun outcome => closeRuntimeBundle >>= fun _ => ofExcept outcome).run _ _
  -- the service runs, whatever it ends with, and is closed
  refine Monitor.sat_attempt_bind.2 (Monitor.sat_mono (fun s outcome hserves => ?_)
    (serve_sat rfl rfl rfl rfl rfl rfl))
  have hmade : bundle = s.made := hserves.made.symm
  have howned : s.owned = releaseOrder := by
    unfold Progress.owned
    rw [← hmade]
    decide
  show life.Sat (release bundle >>= fun _ => ofExcept outcome).run _ _
  rw [hmade]
  refine Monitor.sat_exceptT_bind.2 (Monitor.sat_mono (fun s' x hx => ?_)
    (release_sat hserves.closed hserves.unclosed hserves.idle))
  obtain ⟨⟨closed, unclosed, rfl, hpre, hall⟩, hraised⟩ := hx
  cases x with
  | error e =>
    have hun : unclosed = true := hraised.2 ⟨e, rfl⟩
    refine ⟨hall, nofun, fun e' _ hfalse => ?_, fun _ => hserves.settled⟩
    rw [hun] at hfalse
    cases hfalse
  | ok _ =>
    have hun : unclosed = false := by
      cases unclosed with
      | false => rfl
      | true => obtain ⟨e, he⟩ := hraised.1 rfl; cases he
    -- everything is closed, and the outcome of the service is that of `run`
    have hover : ∀ x, x = outcome → Over { s with closed := closed, unclosed := unclosed } x := by
      rintro x rfl
      refine ⟨hall, fun h => ⟨(hserves.returned h).2, ?_⟩, fun e he _ => hserves.failed e he,
        fun _ => hserves.settled⟩
      exact (hall hun).trans howned
    cases outcome with
    | ok _ => exact hover _ rfl
    | error e => exact hover _ rfl

end

end Transcribe
