import Mathlib.Algebra.GroupWithZero.Nat
import Mathlib.Algebra.Order.Ring.Rat
import Mathlib.Data.List.Induction
import Transcribe.Model.SlowMessages

/-!
# The slow-message log loses nothing

* `log_cases`: what a call does to the globals and what it logs.
* `step_accounts`: a warning opens its window, every earlier one is a window away, and the books
  of slow calls stay right.
* `slow_messages_accounted`: the same after any calls with clock readings in order.
-/

namespace Transcribe

open EventSystem

namespace SlowMessageLog

variable {T : Type} [LinearOrder T] [Zero T] {P : PerfCounter T} {s : SlowMessageLog T}
  {call : SlowMessageCall T} {h : History T} {calls : List (SlowMessageCall T)}

/-- A new window starts with this call. -/
def Opens (P : PerfCounter T) (s : SlowMessageLog T) (now : T) : Prop :=
  s.windowStartedAt = 0 ∨ P.slowMessageLogWindowSec ≤ P.sub now s.windowStartedAt

/-- **What a call does.** -/
theorem log_cases (P : PerfCounter T) (s : SlowMessageLog T) (call : SlowMessageCall T) :
    ¬ call.Slow ∧ s.maybeLogSlowMessage P call = (s, none) ∨
    call.Slow ∧ s.Opens P call.now ∧ s.maybeLogSlowMessage P call =
      (⟨call.now, 1, 0⟩, some ⟨call.thresholdMs, call.totalMs, s.suppressed, call.now⟩) ∨
    call.Slow ∧ ¬ s.Opens P call.now ∧ 0 < s.emittedInWindow ∧
      s.maybeLogSlowMessage P call = ({ s with suppressed := s.suppressed + 1 }, none) ∨
    call.Slow ∧ ¬ s.Opens P call.now ∧ s.emittedInWindow = 0 ∧ s.maybeLogSlowMessage P call =
      ({ s with emittedInWindow := s.emittedInWindow + 1 },
        some ⟨call.thresholdMs, call.totalMs, 0, call.now⟩) := by
  unfold maybeLogSlowMessage
  by_cases hpos : call.thresholdMs ≤ 0
  · rw [if_pos hpos]
    exact .inl ⟨fun hslow => absurd hslow.1 (not_lt.2 hpos), rfl⟩
  rw [if_neg hpos]
  by_cases hfast : call.totalMs < call.thresholdMs
  · rw [if_pos hfast]
    exact .inl ⟨fun hslow => absurd hfast (not_lt.2 hslow.2), rfl⟩
  rw [if_neg hfast]
  have hslow : call.Slow := ⟨not_le.1 hpos, not_lt.1 hfast⟩
  refine .inr ?_
  by_cases hopens : s.Opens P call.now
  · have hopen : s.openWindow P call.now = (⟨call.now, 0, 0⟩, s.suppressed) := if_pos hopens
    rw [hopen]
    exact .inl ⟨hslow, hopens, rfl⟩
  have hopen : s.openWindow P call.now = (s, 0) := if_neg hopens
  rw [hopen]
  refine .inr ?_
  by_cases hemitted : slowMessageLogMaxPerWindow ≤ s.emittedInWindow
  · exact .inl ⟨hslow, hopens, hemitted, if_pos hemitted⟩
  · refine .inr ⟨hslow, hopens, ?_, if_neg hemitted⟩
    unfold slowMessageLogMaxPerWindow at hemitted
    omega

/-! ## Books -/

/-- The globals and the warnings after `calls`. -/
structure Accounts (P : PerfCounter T) (calls : List (SlowMessageCall T)) (h : History T) : Prop where
  count : calls.countP (fun call => decide call.Slow) =
    h.2.length + (h.2.map SlowMessageWarning.suppressedSinceLastEmit).sum + h.1.suppressed
  spaced : h.2.Pairwise fun w w' => P.slowMessageLogWindowSec ≤ P.sub w'.emittedAt w.emittedAt
  /-- the last warning opened the window -/
  opened : h.1.windowStartedAt = 0 ∧ h.2 = [] ∨
    ∃ ws w, h.2 = ws ++ [w] ∧ h.1.windowStartedAt = w.emittedAt ∧ 0 < h.1.emittedInWindow ∧ 0 < w.emittedAt
  read : ∀ w ∈ h.2, ∃ call ∈ calls, w.emittedAt = call.now

/-- **A step keeps the books.** -/
theorem step_accounts (hh : Accounts P calls h) (hpos : 0 < call.now) (hlast : ∀ call' ∈ calls, call'.now ≤ call.now) :
    Accounts P (calls ++ [call]) (step P h call) := by
  have hread : ∀ w ∈ h.2, ∃ call' ∈ calls ++ [call], w.emittedAt = call'.now := by
    intro w hw
    obtain ⟨call', hcall', hnow⟩ := hh.read w hw
    exact ⟨call', List.mem_append_left _ hcall', hnow⟩
  unfold step
  -- the call is not slow, opens a window, is suppressed, or is the first of an open window
  rcases log_cases P h.1 call with ⟨hslow, hlog⟩ | ⟨hslow, hopens, hlog⟩ | ⟨hslow, -, -, hlog⟩ |
    ⟨hslow, hopens, hnone, hlog⟩
  · rw [hlog]
    refine ⟨?_, by simpa using hh.spaced, by simpa using hh.opened, by simpa using hread⟩
    simpa [List.countP_append, hslow] using hh.count
  · rw [hlog]
    refine ⟨?_, ?_, .inr ⟨h.2, _, rfl, rfl, Nat.one_pos, hpos⟩, ?_⟩
    · have hcount := hh.count
      simp only [List.countP_append, List.countP_singleton, hslow, decide_true, if_true, Option.toList_some,
        List.length_append, List.length_singleton, List.map_append, List.map_cons, List.map_nil, List.sum_append,
        List.sum_singleton]
      omega
    · refine List.pairwise_append.2 ⟨hh.spaced, List.pairwise_singleton _ _, fun w hw w' hw' => ?_⟩
      obtain rfl := List.mem_singleton.1 hw'
      rcases hh.opened with ⟨-, hnil⟩ | ⟨ws, last, hlastw, hstart, -, hlastpos⟩
      · rw [hnil] at hw
        cases hw
      · -- the last warning is a window away, and the earlier ones were from it
        obtain ⟨call', hcall', hnow⟩ := hh.read last (hlastw ▸ List.mem_append_right _ (List.mem_singleton.2 rfl))
        have hle : last.emittedAt ≤ call.now := hnow ▸ hlast call' hcall'
        have hfar : P.slowMessageLogWindowSec ≤ P.sub call.now last.emittedAt := by
          rw [← hstart]
          refine hopens.resolve_left fun hzero => ?_
          rw [hstart] at hzero
          exact absurd hzero (ne_of_gt hlastpos)
        rw [hlastw] at hw
        rcases List.mem_append.1 hw with hw | hw
        · have hspaced := hh.spaced
          rw [hlastw] at hspaced
          have hbefore := (List.pairwise_append.1 hspaced).2.2 w hw last (List.mem_singleton.2 rfl)
          exact le_trans hbefore (P.sub_le_sub _ _ _ hle)
        · obtain rfl := List.mem_singleton.1 hw
          exact hfar
    · intro w hw
      rcases List.mem_append.1 hw with hw | hw
      · exact hread w hw
      · obtain rfl := List.mem_singleton.1 hw
        exact ⟨call, List.mem_append_right _ (List.mem_singleton.2 rfl), rfl⟩
  · rw [hlog]
    refine ⟨?_, by simpa using hh.spaced, by simpa using hh.opened, by simpa using hread⟩
    have hcount := hh.count
    simp only [List.countP_append, List.countP_singleton, hslow, decide_true, if_true, Option.toList_none,
      List.append_nil]
    omega
  · -- no window is open with nothing emitted in it
    rcases hh.opened with ⟨hzero, -⟩ | ⟨_, _, _, _, hemitted, _⟩
    · exact absurd (.inl hzero) hopens
    · omega

theorem after_snoc (calls : List (SlowMessageCall T)) (call : SlowMessageCall T) :
    after P (calls ++ [call]) = step P (after P calls) call := run_append calls [call]

/-- Clock readings in order, all positive. -/
def Ticking (calls : List (SlowMessageCall T)) : Prop :=
  (∀ call ∈ calls, 0 < call.now) ∧ calls.Pairwise fun call call' => call.now ≤ call'.now

theorem after_accounts (h : Ticking calls) : Accounts P calls (after P calls) := by
  induction calls using List.reverseRecOn with
  | nil => exact ⟨rfl, .nil, .inl ⟨rfl, rfl⟩, fun _ hw => absurd hw List.not_mem_nil⟩
  | append_singleton calls call ih =>
    obtain ⟨hpos, hmono⟩ := h
    obtain ⟨hmono', -, hlast⟩ := List.pairwise_append.1 hmono
    rw [after_snoc]
    refine step_accounts (ih ⟨fun c hc => hpos c (List.mem_append_left _ hc), hmono'⟩) ?_ fun c hc => ?_
    · exact hpos call (List.mem_append_right _ (List.mem_singleton.2 rfl))
    · exact hlast c hc call (List.mem_singleton.2 rfl)

/-- A slow call is logged, with what was pending reported or kept, or it is counted. -/
theorem slow_call (hslow : call.Slow) :
    (∃ w, (after P (calls ++ [call])).2 = (after P calls).2 ++ [w] ∧ w.emittedAt = call.now ∧
      w.totalMs = call.totalMs ∧
      w.suppressedSinceLastEmit + (after P (calls ++ [call])).1.suppressed = (after P calls).1.suppressed) ∨
    (after P (calls ++ [call])).2 = (after P calls).2 ∧
      (after P (calls ++ [call])).1.suppressed = (after P calls).1.suppressed + 1 := by
  rw [after_snoc]
  unfold step
  rcases log_cases P (after P calls).1 call with ⟨hnot, -⟩ | ⟨-, -, hlog⟩ | ⟨-, -, -, hlog⟩ | ⟨-, -, -, hlog⟩
  · exact absurd hslow hnot
  · rw [hlog]
    exact .inl ⟨_, rfl, rfl, rfl, Nat.add_zero _⟩
  · rw [hlog]
    exact .inr ⟨List.append_nil _, rfl⟩
  · rw [hlog]
    exact .inl ⟨_, rfl, rfl, rfl, Nat.zero_add _⟩

/-- **The slow-message log loses nothing**: its warnings are a window apart, every slow call is
logged or counted, and at every point the books are right. -/
theorem slow_messages_accounted (h : Ticking calls) :
    (after P calls).2.Pairwise (fun w w' => P.slowMessageLogWindowSec ≤ P.sub w'.emittedAt w.emittedAt) ∧
    ∀ cs cs', calls = cs ++ cs' →
      cs.countP (fun call => decide call.Slow) = (after P cs).2.length +
        ((after P cs).2.map SlowMessageWarning.suppressedSinceLastEmit).sum + (after P cs).1.suppressed ∧
      ∀ call cs'', cs' = call :: cs'' → call.Slow →
        (∃ w, (after P (cs ++ [call])).2 = (after P cs).2 ++ [w] ∧ w.emittedAt = call.now ∧
          w.totalMs = call.totalMs ∧
          w.suppressedSinceLastEmit + (after P (cs ++ [call])).1.suppressed = (after P cs).1.suppressed) ∨
        (after P (cs ++ [call])).2 = (after P cs).2 ∧
          (after P (cs ++ [call])).1.suppressed = (after P cs).1.suppressed + 1 := by
  refine ⟨(after_accounts h).spaced, fun cs cs' heq => ⟨?_, fun call cs'' _ hslow => slow_call hslow⟩⟩
  have hpre : Ticking cs := by
    rw [heq] at h
    exact ⟨fun c hc => h.1 c (List.mem_append_left _ hc), (List.pairwise_append.1 h.2).1⟩
  exact (after_accounts hpre).count

/-- Exact times, and a window of one second. -/
def exactClock : PerfCounter ℚ := ⟨fun a b => a - b, fun _ _ c h => sub_le_sub_right h c, 1⟩

/-- Three slow calls, the second within the window of the first. -/
def threeCalls : List (SlowMessageCall ℚ) := [⟨10, 120, 1⟩, ⟨10, 120, 6 / 5⟩, ⟨10, 120, 5 / 2⟩]

theorem threeCalls_accounted : Ticking threeCalls ∧
    threeCalls.countP (fun call => decide call.Slow) = (after exactClock threeCalls).2.length +
      ((after exactClock threeCalls).2.map SlowMessageWarning.suppressedSinceLastEmit).sum +
      (after exactClock threeCalls).1.suppressed ∧
    (after exactClock threeCalls).2.map (fun w => (w.emittedAt, w.suppressedSinceLastEmit)) = [(1, 0), (5 / 2, 1)] := by
  have hticking : Ticking threeCalls := by
    refine ⟨?_, ?_⟩
    · decide +kernel
    · decide +kernel
  exact ⟨hticking, ((slow_messages_accounted hticking).2 threeCalls [] (List.append_nil _).symm).1, by decide +kernel⟩

end SlowMessageLog

end Transcribe
