import Transcribe.Proof.Ordered
import Transcribe.Proof.Owner

/-!
# The log under leases

The ownership guard is what keeps a conversation to one handler at a time.

* `InLease.alone`: while no lease of a connection that waits for the orchestrator has
  lapsed, one connection at most waits with a message of the conversation.
* `leased_log_lossless`: in such a run of a cluster, of any number of instances and
  connections, the log of the conversation is ordered and loss-free.
-/

namespace Transcribe

open Resumption EventSystem CountingLog

variable {site : Site}

-- what is read off a scope is not computed in this section
section

attribute [local irreducible] Scope.extractConversationId Scope.queryConversationId
  Scope.normalizeWsPath Scope.routed Scope.authorization

namespace Cluster

/-- What an event is for the service. -/
def worldEvent (w : Cluster site) : ClusterEvent → Option Event
  | .proceed id who _ =>
    match w.conns[id]? with
    | none => none
    | some x =>
      match x.pending who, x.handler with
      | some (.handleMessage raw c), none => some (.submit ⟨raw, c⟩)
      | _, _ => none
  | .handle h fate now => some (.exec h fate now)
  | .tick => some .tick
  | .connect .. | .issue .. | .execute _ => none

/-- Every connection that waits for the orchestrator with a message of `c` has a token whose
lease of `c` has not lapsed. -/
def InLease (c : String) (w : Cluster site) : Prop :=
  ∀ x ∈ w.conns, x.Handles w c → x.Agrees ∧
    ∀ u ∈ x.conduct.token, ¬ w.guard.Lapsed site.guard.guardTtlSec (site.guard.key c) u

/-- The conditions on a run of the cluster: tokens are drawn once, leases are kept while a
message is on its way, the sequence key does not expire, and Lua reads the numbers exactly. -/
def UnderLease (c : String) (w : Cluster site) (e : ClusterEvent) : Prop :=
  w.Fresh e ∧ (w.step e).InLease c ∧
    ∀ e' ∈ w.worldEvent e, w.world.NoExpiry c e' ∧ w.world.InRange c e'

variable {w : Cluster site} {e : ClusterEvent} {c : String}

/-- What an event does to the service. -/
theorem step_world (w : Cluster site) (e : ClusterEvent) :
    (w.step e).world = run World.step w.world (w.worldEvent e).toList := by
  cases e with
  | connect | handle | tick => rfl
  | issue id who =>
    simp only [step, worldEvent]
    split
    · rfl
    · unfold issue; split <;> rfl
  | execute k =>
    simp only [step, worldEvent, execute]
    split <;> rfl
  | proceed id who answer =>
    simp only [step, worldEvent]
    cases hx : w.conns[id]? with
    | none => rfl
    | some x =>
      cases hp : x.pending who with
      | none => simp [hp]
      | some i =>
        simp only [hp, proceed]
        cases i with
        | handleMessage raw c =>
          cases hh : x.handler with
          | none => rfl
          | some n => simp only; split <;> rfl
        | _ => simp only; split <;> rfl

/-- Who submits: a connection that waits for the orchestrator and has no handler yet. -/
theorem worldEvent_submit {s : Submission} (h : w.worldEvent e = some (.submit s)) :
    ∃ id who answer x, e = .proceed id who answer ∧ w.conns[id]? = some x ∧ x.handler = none ∧
      x.pending who = some (.handleMessage s.raw s.conversationId) ∧
      w.step e = w.submit id x s.raw s.conversationId := by
  cases e with
  | proceed id who answer =>
    simp only [worldEvent] at h
    split at h
    · cases h
    · next x hx =>
      split at h
      · next raw c hp hh =>
        obtain rfl : Submission.mk raw c = s := Event.submit.inj (Option.some.inj h)
        refine ⟨id, who, answer, x, rfl, hx, hh, hp, ?_⟩
        simp only [step, hx, hp, proceed, hh]
      · cases h
  | handle => cases h
  | tick => cases h
  | connect | issue | execute => cases h

/-! ## One at a time -/

/-- **Under leases one connection at most waits with a message of the conversation.** -/
theorem InLease.alone (h : w.InLease c) (hs : w.Sound) (hsole : w.Sole)
    (hguard : site.transport.ownershipGuard = true) (hstr : site.deps.StrFields) {i j : ℕ}
    {x y : Connection site} (hx : w.conns[i]? = some x) (hy : w.conns[j]? = some y)
    (hcx : x.Handles w c) (hcy : y.Handles w c) : i = j := by
  have hxm := List.mem_of_getElem? hx
  have hym := List.mem_of_getElem? hy
  obtain ⟨hax, hlx⟩ := h x hxm hcx
  obtain ⟨hay, hly⟩ := h y hym hcy
  obtain ⟨u, -, hu, hgu, hnu⟩ := ((hs.conns x hxm).handles hguard hstr hcx).2 hax
  obtain ⟨v, -, hv, hgv, hnv⟩ := ((hs.conns y hym).handles hguard hstr hcy).2 hay
  by_cases huv : u = v
  · subst huv
    exact hsole.tokens i j x y u hx hy hu hv
  · have hru := hsole.holder (c := c) hs hxm hu hnu
    have hrv := hsole.holder (c := c) hs hym hv hnv
    rcases hs.leases.exclusive huv hgu hru hgv hrv with hlapsed | hlapsed
    · exact absurd hlapsed (hlx u hu)
    · exact absurd hlapsed (hly v hv)

/-- A message is handed on when no handler of its conversation is in flight. -/
theorem sequential_of_inLease (hs : w.Sound) (hs' : (w.step e).Sound) (hsole' : (w.step e).Sole)
    (hguard : site.transport.ownershipGuard = true) (hstr : site.deps.StrFields)
    (hlease : (w.step e).InLease c) {s : Submission} (he : w.worldEvent e = some (.submit s)) :
    w.world.Sequential c (.submit s) := by
  intro hm h hh hfor
  obtain ⟨id, who, answer, x, -, hx, hxn, -, hstep⟩ := worldEvent_submit he
  by_contra hp
  obtain ⟨n, hn⟩ := List.mem_iff_getElem?.1 hh
  obtain ⟨y, hy, hyn⟩ := hs.handlers n h hn hp
  obtain ⟨j, hj⟩ := List.mem_iff_getElem?.1 hy
  have hij : id ≠ j := by
    rintro rfl
    obtain rfl : x = y := Option.some.inj (hx.symm.trans hj)
    rw [hxn] at hyn
    cases hyn
  rw [hstep] at hs' hsole' hlease
  have hlt := (List.getElem?_eq_some_iff.1 hx).1
  -- both wait for the orchestrator once the message is handed on
  refine hij (hlease.alone hs' hsole' hguard hstr (List.getElem?_set_self hlt)
    ((List.getElem?_set_ne hij).trans hj) ?_ ?_)
  · refine ⟨w.world.handlers.length, rfl, Handler.start s, ?_, hm⟩
    simp [submit, World.step]
  · refine ⟨n, hyn, h, ?_, hfor⟩
    simp only [submit, World.step]
    rw [List.getElem?_append_left (List.getElem?_eq_some_iff.1 hn).1, hn]
    rfl

/-! ## The log -/

/-- **A cluster under leases runs the service one message at a time.** -/
theorem run_world (hguard : site.transport.ownershipGuard = true) (hstr : site.deps.StrFields)
    {es : List ClusterEvent} (h : Along step (UnderLease c) (init : Cluster site) es) :
    ∃ es', (after site es).world = World.after site.deps es' ∧
      Along World.step (World.OneAtATime c) (World.init : World site.deps) es' := by
  refine along_project (f := Cluster.world) (I := fun w => w.Sound ∧ w.Sole)
    (fun w e hw hok => ?_) (fun w e hw hok => ?_) ⟨init_sound, init_sole⟩ h
  · exact ⟨hw.1.happens (w.step_happens e), hw.2.happens hw.1 hok.1 (w.step_happens e)⟩
  · obtain ⟨hfresh, hlease, hworld⟩ := hok
    have hs' := hw.1.happens (w.step_happens e)
    have hsole' := hw.2.happens hw.1 hfresh (w.step_happens e)
    refine ⟨_, step_world w e, ?_⟩
    cases he : w.worldEvent e with
    | none => trivial
    | some e' =>
      obtain ⟨hexp, hrange⟩ := hworld e' he
      refine ⟨⟨?_, hexp, hrange⟩, trivial⟩
      cases e' with
      | submit s => exact sequential_of_inLease hw.1 hs' hsole' hguard hstr hlease he
      | exec | stop | tick => trivial

/-- **The log of a conversation under leases is ordered, without gaps and without losses**,
over any number of instances and connections. -/
theorem leased_log_lossless (hguard : site.transport.ownershipGuard = true)
    (hstr : site.deps.StrFields) {es : List ClusterEvent}
    (h : Along step (UnderLease c) (init : Cluster site) es) :
    Counts Record.number ((after site es).world.stored c) ((after site es).world.records c) ∧
      ∀ n ∈ (after site es).world.Acked c, n < (after site es).world.stored c ∧
        ∃ r ∈ (after site es).world.records c, r.number = n := by
  obtain ⟨es', hworld, hone⟩ := run_world hguard hstr h
  rw [hworld]
  have hsafe := Sequencer.safe_init.steps (World.run_refines hone).2
  exact ⟨hsafe.counts, fun n hn => ⟨hsafe.acked n hn, hsafe.mem_log hn⟩⟩

end Cluster

end

namespace Connection

variable (x : Connection site) (w : Cluster site) (c : String)

instance : Decidable (x.Handles w c) :=
  decidable_of_iff ((x.handler.bind fun n => w.world.handlers[n]?).any fun h => decide (h.For c)) <| by
    unfold Handles
    cases x.handler with
    | none => simp
    | some n => cases hn : w.world.handlers[n]? <;> simp [hn]

instance : Decidable x.Agrees := inferInstanceAs (Decidable (_ = _))

end Connection

namespace Cluster

instance (c : String) (w : Cluster site) : Decidable (w.InLease c) :=
  inferInstanceAs (Decidable (∀ x ∈ w.conns, x.Handles w c → x.Agrees ∧
    ∀ u ∈ x.conduct.token, ¬ w.guard.Lapsed site.guard.guardTtlSec (site.guard.key c) u))

instance (c : String) (w : Cluster site) : DecidablePred (w.UnderLease c) := fun e =>
  inferInstanceAs (Decidable (w.Fresh e ∧ (w.step e).InLease c ∧
    ∀ e' ∈ w.worldEvent e, w.world.NoExpiry c e' ∧ w.world.InRange c e'))

section

open Sample

/-- A connection has its message acknowledged and gives the key back; after it a second one
takes the key and sends the message again. -/
def relayed : List ClusterEvent :=
  admitted 0 0 "t" 1 ++ [go 0 "t", go 0 "t"] ++ List.replicate 5 (.handle 0 .ok ⟨0⟩) ++
    List.replicate 7 .tick ++ List.replicate 6 (go 0 "t") ++ [.issue 0 .main, .execute 1, go 0 "t"] ++
    admitted 1 2 "u" 1 ++ [go 1 "u", go 1 "u"] ++ List.replicate 5 (.handle 1 .ok ⟨0⟩)

/-- Message `0` is acknowledged to both, and in the log. -/
theorem relayed_lossless :
    Counts Record.number ((after Sample.site relayed).world.stored cid)
        ((after Sample.site relayed).world.records cid) ∧
      ∃ r ∈ (after Sample.site relayed).world.records cid, r.number = 0 := by
  have h : Along step (UnderLease cid) (init : Cluster Sample.site) relayed := by decide +kernel
  obtain ⟨hcounts, hacked⟩ := leased_log_lossless rfl deps_strFields h
  have hack : ∃ x ∈ (after Sample.site relayed).world.handlers,
      x.answer? = some ⟨buildTranscriptAck ⟨0⟩ cid 0, false, .normal⟩ := by
    decide +kernel
  obtain ⟨x, hx, hr⟩ := hack
  exact ⟨hcounts, (hacked 0 ⟨x, hx, _, hr, _, _, rfl⟩).2⟩

end

end Cluster

end Transcribe
