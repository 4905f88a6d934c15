import Transcribe.Lib.Resumption

/-!
# Sections of a coroutine

A coroutine runs from one suspension to the next without a break. `serve` answers the calls that
do not suspend, and `settle` is the program at its next suspension, with the state it leaves and
the calls it has made. `Monitor.Sat.settle` is the invariant rule for a section: what the calls
of a section keep holds when it ends.
-/

namespace Resumption

variable {ι : Type} {ρ : ι → Type} {α σ S : Type}

open Prog

/-- The section of a program; `serve` answers the calls that do not suspend. -/
def Prog.settle (serve : σ → (i : ι) → Option (σ × ρ i)) : Prog ι ρ α → σ → σ × List (Σ i, ρ i) × Prog ι ρ α
  | ret a, s => (s, [], ret a)
  | call i k, s =>
    match serve s i with
    | none => (s, [], call i k)
    | some (s', r) => (((k r).settle serve s').1, ⟨i, r⟩ :: ((k r).settle serve s').2.1, ((k r).settle serve s').2.2)

variable {serve : σ → (i : ι) → Option (σ × ρ i)} {M : Monitor ι ρ S} {Q : S → α → Prop}

theorem Trace.append {p q q' : Prog ι ρ α} {τ τ' : List (Σ i, ρ i)} (h : Trace p τ q) (h' : Trace q τ' q') :
    Trace p (τ ++ τ') q' := by
  induction h with
  | nil p => exact h'
  | cons _ ih => exact .cons (ih h')

theorem Trace.settle (p : Prog ι ρ α) (s : σ) : Trace p (p.settle serve s).2.1 (p.settle serve s).2.2 := by
  induction p generalizing s with
  | ret a => exact .nil _
  | call i k ih =>
    unfold Prog.settle
    cases serve s i with
    | none => exact .nil _
    | some next => exact .cons (ih next.2 next.1)

/-- A program that has settled waits in a call that suspends. -/
theorem Prog.serve_settle (p : Prog ι ρ α) (s : σ) {i : ι} (h : (p.settle serve s).2.2.pending = some i) :
    serve (p.settle serve s).1 i = none := by
  induction p generalizing s with
  | ret a => cases h
  | call j k ih =>
    unfold Prog.settle at h ⊢
    cases hj : serve s j with
    | none =>
      rw [hj] at h
      obtain rfl : j = i := Option.some.inj h
      exact hj
    | some next =>
      rw [hj] at h
      exact ih next.2 next.1 h

/-- **Section rule**: what the calls of a section keep holds when it ends. -/
theorem Monitor.Sat.settle {I : S → σ → Prop}
    (hI : ∀ z s i s' r, I z s → M.ok z i → serve s i = some (s', r) → I (M.next z i r) s')
    {p : Prog ι ρ α} : ∀ {z s}, M.Sat p z Q → I z s →
      I (M.after z (p.settle serve s).2.1) (p.settle serve s).1 := by
  induction p with
  | ret a => intro z s _ h; exact h
  | call i k ih =>
    intro z s hsat h
    unfold Prog.settle
    cases hi : serve s i with
    | none => exact h
    | some next => exact ih next.2 (hsat.2 _) (hI z s i next.1 next.2 h hsat.1 hi)

namespace Thread

variable {p : Prog ι ρ α} {x : Thread p} {z : S} {s : σ}

/-- The thread at its next suspension. -/
def settle (x : Thread p) (serve : σ → (i : ι) → Option (σ × ρ i)) (s : σ) : σ × Thread p :=
  ((x.rest.settle serve s).1, ⟨x.trace ++ (x.rest.settle serve s).2.1, (x.rest.settle serve s).2.2,
    x.ok.append (.settle _ _)⟩)

theorem state_settle : (x.settle serve s).2.state M z = M.after (x.state M z) (x.rest.settle serve s).2.1 :=
  Monitor.after_append _ _

/-- **Section rule** for a thread. -/
theorem settle_inv {I : S → σ → Prop} (h : M.Sat p z Q)
    (hI : ∀ z s i s' r, I z s → M.ok z i → serve s i = some (s', r) → I (M.next z i r) s')
    (hx : I (x.state M z) s) : I ((x.settle serve s).2.state M z) (x.settle serve s).1 := by
  rw [state_settle]
  exact (x.sat h).settle hI hx

/-- A thread that has settled waits in a call that suspends. -/
theorem serve_settle {i : ι} (h : (x.settle serve s).2.rest.pending = some i) :
    serve (x.settle serve s).1 i = none := x.rest.serve_settle s h

end Thread

end Resumption
