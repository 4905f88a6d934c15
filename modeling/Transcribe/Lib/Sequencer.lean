import Mathlib.Data.Set.Basic
import Mathlib.Logic.Relation
import Transcribe.Lib.CountingLog

/-!
# The sequencer

What an ordered, loss-free log is for: entries are appended at the next number, any
number of times, the number moves on only past an entry in the log, and only numbers
below it are acknowledged.

* `Safe.steps`: in every reachable state the log counts upwards, and every
  acknowledged number is below the next one.
* `Safe.mem_log`: every acknowledged number is in the log.
-/

open CountingLog

structure Sequencer (α : Type) where
  next : ℕ
  log : List α
  acked : Set ℕ

namespace Sequencer

variable {α : Type} (num : α → ℕ)

def init : Sequencer α := ⟨0, [], ∅⟩

inductive Step : Sequencer α → Sequencer α → Prop
  | append {s} (a : α) (h : num a = s.next) : Step s { s with log := s.log ++ [a] }
  | advance {s} (h : ∃ a ∈ s.log.getLast?, num a = s.next) : Step s { s with next := s.next + 1 }
  | ack {s} {A : Set ℕ} (hsub : s.acked ⊆ A) (h : ∀ n ∈ A, n < s.next) :
    Step s { s with acked := A }

structure Safe (s : Sequencer α) : Prop where
  counts : Counts num s.next s.log
  acked : ∀ n ∈ s.acked, n < s.next

variable {num} {s s' : Sequencer α}

theorem safe_init : Safe num (init : Sequencer α) := ⟨counts_nil, by simp [init]⟩

theorem Safe.step (hs : Safe num s) (h : Step num s s') : Safe num s' := by
  cases h with
  | append a h => exact ⟨hs.counts.append h, hs.acked⟩
  | advance h => exact ⟨hs.counts.advance h, fun n hn => Nat.lt_succ_of_lt (hs.acked n hn)⟩
  | ack hsub h => exact ⟨hs.counts, h⟩

/-- **Every reachable state is safe.** -/
theorem Safe.steps (hs : Safe num s) (h : Relation.ReflTransGen (Step num) s s') : Safe num s' := by
  induction h with
  | refl => exact hs
  | tail _ h ih => exact ih.step h

theorem Safe.mem_log (hs : Safe num s) {n : ℕ} (hn : n ∈ s.acked) : ∃ a ∈ s.log, num a = n :=
  hs.counts.exists_of_lt (hs.acked n hn)

end Sequencer
