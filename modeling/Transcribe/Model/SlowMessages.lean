import Mathlib.Order.Lattice
import Transcribe.Lib.EventSystem

/-!
# The slow-message log

`_maybe_log_slow_message` of `transport/session.py` with its three module globals. What a warning
says about the message is left out but for its measured time.

Clock readings and times are floats: a linear order with a subtraction that rounds.
-/

namespace Transcribe

open EventSystem

/-- The subtraction of floats, and `SLOW_MESSAGE_LOG_WINDOW_SEC`. -/
structure PerfCounter (T : Type) [LinearOrder T] where
  sub : T → T → T
  sub_le_sub : ∀ a b c, a ≤ b → sub a c ≤ sub b c
  slowMessageLogWindowSec : T

def slowMessageLogMaxPerWindow : ℕ := 1

/-- `_slow_message_log_window_started_at`, `_slow_message_log_emitted_in_window` and
`_slow_message_log_suppressed`. -/
structure SlowMessageLog (T : Type) where
  windowStartedAt : T
  emittedInWindow : ℕ
  suppressed : ℕ

/-- A call: its threshold, the time it measures and the clock reading after that. -/
structure SlowMessageCall (T : Type) where
  thresholdMs : T
  totalMs : T
  now : T

/-- A warning that is logged; `emittedAt` is history. -/
structure SlowMessageWarning (T : Type) where
  thresholdMs : T
  totalMs : T
  suppressedSinceLastEmit : ℕ
  emittedAt : T

variable {T : Type} [LinearOrder T] [Zero T] (P : PerfCounter T)

namespace SlowMessageLog

def init : SlowMessageLog T := ⟨0, 0, 0⟩

/-- The start of a new window, if there is one, with what it reports. -/
def openWindow (s : SlowMessageLog T) (now : T) : SlowMessageLog T × ℕ :=
  if s.windowStartedAt = 0 ∨ P.slowMessageLogWindowSec ≤ P.sub now s.windowStartedAt then
    (⟨now, 0, 0⟩, s.suppressed)
  else (s, 0)

/-- `_maybe_log_slow_message`, with the warning it logs. -/
def maybeLogSlowMessage (s : SlowMessageLog T) (call : SlowMessageCall T) :
    SlowMessageLog T × Option (SlowMessageWarning T) :=
  if call.thresholdMs ≤ 0 then (s, none)
  else if call.totalMs < call.thresholdMs then (s, none)
  else
    let (s, suppressedSinceLastEmit) := s.openWindow P call.now
    if slowMessageLogMaxPerWindow ≤ s.emittedInWindow then ({ s with suppressed := s.suppressed + 1 }, none)
    else ({ s with emittedInWindow := s.emittedInWindow + 1 },
      some ⟨call.thresholdMs, call.totalMs, suppressedSinceLastEmit, call.now⟩)

/-- The globals and the warnings logged so far. -/
abbrev History (T : Type) : Type := SlowMessageLog T × List (SlowMessageWarning T)

def step (h : History T) (call : SlowMessageCall T) : History T :=
  let r := h.1.maybeLogSlowMessage P call
  (r.1, h.2 ++ r.2.toList)

/-- After the calls `calls`, from the initial module state. -/
abbrev after (calls : List (SlowMessageCall T)) : History T := run (step P) (init, []) calls

end SlowMessageLog

/-- The call measures its threshold at least. -/
def SlowMessageCall.Slow (call : SlowMessageCall T) : Prop :=
  0 < call.thresholdMs ∧ call.thresholdMs ≤ call.totalMs

instance (call : SlowMessageCall T) : Decidable call.Slow := inferInstanceAs (Decidable (_ ∧ _))

end Transcribe
