import Mathlib.Logic.Basic
import Mathlib.Tactic.Common

/-!
# Programs that call their environment

A `Prog` is a sequential program seen from outside: it returns, or it makes a call
and goes on with the reply. A coroutine that may raise is an `ExceptT` over it.

* `Monitor.Sat`: an automaton watches the calls and their replies, and every call
  the program makes is allowed in the automaton's state. `sat_bind` and
  `sat_exceptT_bind` are the sequencing rules, for a program and for a coroutine;
  `sat_interp` is the rule for calls that are programs themselves.
* `Assures`: a coroutine makes calls of a kind as long as the replies are of a kind; its rules, one for
  each construct.
* `Trace`: the calls and replies of a run, in order; `Sat.trace` reads `Sat` off a run.
* `Thread`: a program under way, with its trace; `Thread.sat` is what is left to do.
* `run`: the run in an environment that answers from a state; `run_sat` is the
  invariant rule for it.
-/

namespace Resumption

/-- A program that makes calls in `ι`, call `i` answered in `ρ i`, and returns an `α`. -/
inductive Prog (ι : Type) (ρ : ι → Type) (α : Type) : Type
  | ret (a : α)
  | call (i : ι) (k : ρ i → Prog ι ρ α)

variable {ι κ : Type} {ρ : ι → Type} {ρ' : κ → Type} {α β ε σ S : Type}

namespace Prog

/-- Sequencing: run `p`, then `f` on its value. -/
def bind : Prog ι ρ α → (α → Prog ι ρ β) → Prog ι ρ β
  | ret a, f => f a
  | call i k, f => call i fun r => (k r).bind f

instance : Monad (Prog ι ρ) where
  pure := ret
  bind := bind

/-- The single call `i`. -/
def perform (i : ι) : Prog ι ρ (ρ i) := call i ret

/-- Every call `i` is made by the program `f i`, over calls of another kind. -/
def interp (f : (i : ι) → Prog κ ρ' (ρ i)) : Prog ι ρ α → Prog κ ρ' α
  | ret a => ret a
  | call i k => (f i).bind fun r => (k r).interp f

/-- The call a program waits in. -/
def pending : Prog ι ρ α → Option ι
  | ret _ => none
  | call i _ => some i

/-- The value of a program that has returned. -/
def result : Prog ι ρ α → Option α
  | ret a => some a
  | call _ _ => none

theorem result_of_pending {p : Prog ι ρ α} (h : p.pending = none) : ∃ a, p.result = some a := by
  cases p with
  | ret a => exact ⟨a, rfl⟩
  | call i k => cases h

/-- What is left when the pending call is answered. -/
def resume (answer : ∀ i, ρ i) : Prog ι ρ α → Prog ι ρ α
  | ret a => ret a
  | call i k => k (answer i)

/-- The pending call with its answer. -/
def emit (answer : ∀ i, ρ i) : Prog ι ρ α → List (Σ i, ρ i)
  | ret _ => []
  | call i _ => [⟨i, answer i⟩]

/-- The run of a program in an environment with state `σ` that answers every call. -/
def run (exec : σ → (i : ι) → σ × ρ i) : Prog ι ρ α → σ → σ × α
  | ret a, s => (s, a)
  | call i k, s => (k (exec s i).2).run exec (exec s i).1

end Prog

open Prog

/-- `try: x` with the exception, if any, as a value. -/
def attempt (x : ExceptT ε (Prog ι ρ) α) : ExceptT ε (Prog ι ρ) (Except ε α) := ExceptT.lift x.run

/-! ## Monitors -/

/-- An automaton over calls and replies: `ok s i` allows call `i` in state `s`. -/
structure Monitor (ι : Type) (ρ : ι → Type) (S : Type) where
  ok : S → ι → Prop
  next : S → (i : ι) → ρ i → S

variable {M : Monitor ι ρ S} {s : S}

/-- Watched from state `s`, every call of the program is allowed, whatever the
replies, and it returns only in states and with values that satisfy `Q`. -/
def Monitor.Sat (M : Monitor ι ρ S) : Prog ι ρ α → S → (S → α → Prop) → Prop
  | ret a, s, Q => Q s a
  | call i k, s, Q => M.ok s i ∧ ∀ r, M.Sat (k r) (M.next s i r) Q

theorem Monitor.sat_mono {Q Q' : S → α → Prop} (hQ : ∀ s a, Q s a → Q' s a) {p : Prog ι ρ α} :
    ∀ {s}, M.Sat p s Q → M.Sat p s Q' := by
  induction p with
  | ret a => intro s h; exact hQ s a h
  | call i k ih => intro s h; exact ⟨h.1, fun r => ih r (h.2 r)⟩

/-- **Sequencing rule.** -/
theorem Monitor.sat_bind {p : Prog ι ρ α} {f : α → Prog ι ρ β} {Q : S → β → Prop} :
    ∀ {s}, M.Sat (p.bind f) s Q ↔ M.Sat p s fun s' a => M.Sat (f a) s' Q := by
  induction p with
  | ret a => intro s; exact Iff.rfl
  | call i k ih =>
    intro s
    simp only [Prog.bind, Monitor.Sat]
    exact and_congr_right fun _ => forall_congr' fun r => ih r

/-- What a coroutine's continuation must satisfy after `r`: go on with a value,
pass an exception through. -/
def Monitor.After (M : Monitor ι ρ S) (f : α → ExceptT ε (Prog ι ρ) β)
    (Q : S → Except ε β → Prop) (s : S) : Except ε α → Prop
  | .ok a => M.Sat (f a).run s Q
  | .error e => Q s (.error e)

/-- **Sequencing rule for coroutines**: an exception skips the continuation. -/
theorem Monitor.sat_exceptT_bind {x : ExceptT ε (Prog ι ρ) α} {f : α → ExceptT ε (Prog ι ρ) β}
    {Q : S → Except ε β → Prop} :
    M.Sat (x >>= f).run s Q ↔ M.Sat x.run s (M.After f Q) := by
  refine (sat_bind (M := M) (p := x.run) (f := ExceptT.bindCont f)).trans ?_
  have h : (fun s' a => M.Sat (ExceptT.bindCont f a) s' Q) = M.After f Q := by
    funext s' a
    cases a <;> rfl
  rw [h]

/-- **Rule for a call that raises nothing.** -/
theorem Monitor.sat_lift_bind {i : ι} {f : ρ i → ExceptT ε (Prog ι ρ) β} {Q : S → Except ε β → Prop} :
    M.Sat (ExceptT.lift (perform i) >>= f).run s Q ↔
      M.ok s i ∧ ∀ r, M.Sat (f r).run (M.next s i r) Q :=
  sat_exceptT_bind

/-- **Rule for a conditional.** -/
theorem Monitor.sat_ite {P : Prop} [Decidable P] {x y : ExceptT ε (Prog ι ρ) α}
    {Q : S → Except ε α → Prop} (hx : P → M.Sat x.run s Q) (hy : ¬ P → M.Sat y.run s Q) :
    M.Sat (if P then x else y).run s Q := by
  split
  · next h => exact hx h
  · next h => exact hy h

theorem Monitor.sat_attempt {x : ExceptT ε (Prog ι ρ) α} {Q : S → Except ε (Except ε α) → Prop} :
    M.Sat (attempt x).run s Q ↔ M.Sat x.run s fun s' r => Q s' (.ok r) :=
  sat_bind (M := M) (p := x.run) (f := fun r => ret (Except.ok r))

/-- **Rule for `try`**: the continuation gets a value or an exception. -/
theorem Monitor.sat_attempt_bind {x : ExceptT ε (Prog ι ρ) α}
    {f : Except ε α → ExceptT ε (Prog ι ρ) β} {Q : S → Except ε β → Prop} :
    M.Sat (attempt x >>= f).run s Q ↔ M.Sat x.run s fun s' r => M.Sat (f r).run s' Q :=
  sat_exceptT_bind.trans sat_attempt

/-- **Rule for calls made by programs.** Where every call the monitor `M` allows is made by a
program that `N` allows and that answers as `M` goes on, `N` allows what `M` does. -/
theorem Monitor.sat_interp {N : Monitor κ ρ' σ} {R : S → σ → Prop} {f : (i : ι) → Prog κ ρ' (ρ i)}
    (hf : ∀ s t i, R s t → M.ok s i → N.Sat (f i) t fun t' r => R (M.next s i r) t')
    {Q : S → α → Prop} {p : Prog ι ρ α} : ∀ {s t}, M.Sat p s Q → R s t →
      N.Sat (p.interp f) t fun t' a => ∃ s', R s' t' ∧ Q s' a := by
  induction p with
  | ret a => intro s t h hR; exact ⟨s, hR, h⟩
  | call i k ih =>
    intro s t h hR
    exact sat_bind.2 (sat_mono (fun t' r hR' => ih r (h.2 r) hR') (hf s t i hR h.1))

/-! ## Traces -/

/-- `Trace p τ q`: the program `p` can make the calls of `τ`, answered as there, and
then is `q`. -/
inductive Trace : Prog ι ρ α → List (Σ i, ρ i) → Prog ι ρ α → Prop
  | nil (p) : Trace p [] p
  | cons {i k r τ q} : Trace (k r) τ q → Trace (call i k) (⟨i, r⟩ :: τ) q

/-- The monitor's state after a trace. -/
def Monitor.after (M : Monitor ι ρ S) (s : S) (τ : List (Σ i, ρ i)) : S :=
  τ.foldl (fun s e => M.next s e.1 e.2) s

/-- Along a run the residual program satisfies what the program did. -/
theorem Monitor.Sat.trace {p q : Prog ι ρ α} {τ : List (Σ i, ρ i)} {Q : S → α → Prop}
    (ht : Trace p τ q) : ∀ {s}, M.Sat p s Q → M.Sat q (M.after s τ) Q := by
  induction ht with
  | nil p => intro s h; exact h
  | cons _ ih => intro s h; exact ih (h.2 _)

theorem Trace.snoc {p q : Prog ι ρ α} {τ : List (Σ i, ρ i)} (answer : ∀ i, ρ i) (ht : Trace p τ q) :
    Trace p (τ ++ q.emit answer) (q.resume answer) := by
  induction ht with
  | nil p =>
    cases p with
    | ret a => exact .nil _
    | call i k => exact .cons (.nil _)
  | cons _ ih => exact .cons ih

/-- **A program returns**, whatever its calls are answered. -/
theorem Trace.answered (answer : ∀ i, ρ i) (p : Prog ι ρ α) :
    ∃ τ a, Trace p τ (ret a) ∧ ∀ e ∈ τ, e.2 = answer e.1 := by
  induction p with
  | ret a => exact ⟨[], a, .nil _, fun _ h => absurd h List.not_mem_nil⟩
  | call i k ih =>
    obtain ⟨τ, a, h, hτ⟩ := ih (answer i)
    refine ⟨⟨i, answer i⟩ :: τ, a, .cons h, fun e he => ?_⟩
    rcases List.mem_cons.1 he with rfl | he
    · rfl
    · exact hτ e he

theorem Monitor.after_append (τ τ' : List (Σ i, ρ i)) :
    M.after s (τ ++ τ') = M.after (M.after s τ) τ' := by simp [after, List.foldl_append]

/-- A run splits where its trace does. -/
theorem Trace.split {p q : Prog ι ρ α} {τ τ' : List (Σ i, ρ i)} (h : Trace p (τ ++ τ') q) :
    ∃ p', Trace p τ p' ∧ Trace p' τ' q := by
  induction τ generalizing p with
  | nil => exact ⟨p, .nil p, h⟩
  | cons e τ ih =>
    cases h with
    | cons h =>
      obtain ⟨p', h₁, h₂⟩ := ih h
      exact ⟨p', .cons h₁, h₂⟩

/-- Every call of a run was allowed where it was made. -/
theorem Monitor.Sat.ok_at {p q : Prog ι ρ α} {τ τ' : List (Σ i, ρ i)} {i : ι} {r : ρ i}
    {Q : S → α → Prop} (h : M.Sat p s Q) (ht : Trace p (τ ++ ⟨i, r⟩ :: τ') q) :
    M.ok (M.after s τ) i := by
  obtain ⟨p', h₁, h₂⟩ := ht.split
  have hs := h.trace h₁
  cases h₂ with
  | cons _ => exact hs.1

/-- The value a run returned satisfies the postcondition. -/
theorem Monitor.Sat.returned {p : Prog ι ρ α} {τ : List (Σ i, ρ i)} {a : α} {Q : S → α → Prop}
    (h : M.Sat p s Q) (ht : Trace p τ (ret a)) : Q (M.after s τ) a := h.trace ht

/-- **What allowed calls keep holds along a run.** -/
theorem Monitor.Sat.keeps {P : S → Prop} {p q : Prog ι ρ α} {τ : List (Σ i, ρ i)}
    {Q : S → α → Prop} (hP : ∀ s i r, M.ok s i → P s → P (M.next s i r)) (ht : Trace p τ q) :
    ∀ {s}, M.Sat p s Q → P s → P (M.after s τ) := by
  induction ht with
  | nil p => intro s _ h; exact h
  | cons _ ih => intro s hs h; exact ih (hs.2 _) (hP _ _ _ hs.1 h)

/-- Every call of a run was allowed in a state with what allowed calls keep. -/
theorem Monitor.Sat.ok_of_mem {P : S → Prop} {p q : Prog ι ρ α} {τ : List (Σ i, ρ i)} {i : ι}
    {r : ρ i} {Q : S → α → Prop} (hP : ∀ s i r, M.ok s i → P s → P (M.next s i r))
    (h : M.Sat p s Q) (ht : Trace p τ q) (hs : P s) (hmem : ⟨i, r⟩ ∈ τ) : ∃ s', P s' ∧ M.ok s' i := by
  obtain ⟨τ₁, τ₂, rfl⟩ := List.append_of_mem hmem
  obtain ⟨p', h₁, -⟩ := ht.split
  exact ⟨M.after s τ₁, h.keeps hP h₁ hs, h.ok_at ht⟩

/-- **What a call brings about and allowed calls keep holds after the run.** -/
theorem Monitor.Sat.of_mem {P : S → Prop} {p q : Prog ι ρ α} {τ : List (Σ i, ρ i)} {i : ι} {r : ρ i}
    {Q : S → α → Prop} (hP : ∀ s i r, M.ok s i → P s → P (M.next s i r)) (h : M.Sat p s Q)
    (ht : Trace p τ q) (hmem : ⟨i, r⟩ ∈ τ) (hnew : ∀ s, M.ok s i → P (M.next s i r)) :
    P (M.after s τ) := by
  obtain ⟨τ₁, τ₂, rfl⟩ := List.append_of_mem hmem
  have hok := h.ok_at ht
  obtain ⟨p', h₁, h₂⟩ := ht.split
  have hs := h.trace h₁
  rw [Monitor.after_append]
  cases h₂ with
  | cons h₂ => exact Monitor.Sat.keeps hP h₂ (hs.2 _) (hnew _ hok)

/-- **What holds after a run and did not before, some allowed call brought about.** -/
theorem Monitor.Sat.mem_of {P : S → Prop} {p q : Prog ι ρ α} {τ : List (Σ i, ρ i)}
    {Q : S → α → Prop} (ht : Trace p τ q) : ∀ {s}, M.Sat p s Q → ¬ P s → P (M.after s τ) →
      ∃ i r s', ⟨i, r⟩ ∈ τ ∧ M.ok s' i ∧ ¬ P s' ∧ P (M.next s' i r) := by
  induction ht with
  | nil p => intro s _ h h'; exact absurd h' h
  | @cons i k r τ q _ ih =>
    intro s hs h h'
    by_cases hn : P (M.next s i r)
    · exact ⟨i, r, s, List.mem_cons_self, hs.1, h, hn⟩
    · obtain ⟨j, r', s', hmem, hrest⟩ := ih (hs.2 r) hn h'
      exact ⟨j, r', s', List.mem_cons_of_mem _ hmem, hrest⟩

/-- **What the calls of `K` bring about, and nothing undoes, holds after a run that made one.** -/
theorem Monitor.Sat.iff_mem {P : S → Prop} {K : ι → Prop} {p q : Prog ι ρ α} {τ : List (Σ i, ρ i)}
    {Q : S → α → Prop} (hP : ∀ s i r, M.ok s i → (P (M.next s i r) ↔ P s ∨ K i)) (ht : Trace p τ q) :
    ∀ {s}, M.Sat p s Q → (P (M.after s τ) ↔ P s ∨ ∃ e ∈ τ, K e.1) := by
  induction ht with
  | nil p => intro s _; simp [Monitor.after]
  | @cons i k r τ q _ ih =>
    intro s hs
    have hnext := hP s i r hs.1
    have hrest : P (M.after (M.next s i r) τ) ↔ P (M.next s i r) ∨ ∃ e ∈ τ, K e.1 := ih (hs.2 r)
    simp only [List.mem_cons, exists_eq_or_imp]
    rw [← or_assoc, ← hnext]
    exact hrest

/-- In state `s` the monitor allows the calls of `K` and forgets them. -/
def Monitor.IgnoresAt (M : Monitor ι ρ S) (s : S) (K : ι → Prop) : Prop :=
  ∀ i, K i → M.ok s i ∧ ∀ r, M.next s i r = s

namespace Monitor.IgnoresAt

variable {K : ι → Prop} {Q : S → Except ε β → Prop}

/-- An ignored call that raises nothing. -/
theorem lift_bind (hM : M.IgnoresAt s K) (i : ι) (hi : K i) {f : ρ i → ExceptT ε (Prog ι ρ) β}
    (h : ∀ r, M.Sat (f r).run s Q) : M.Sat (ExceptT.lift (perform i) >>= f).run s Q := by
  refine sat_lift_bind.2 ⟨(hM i hi).1, fun r => ?_⟩
  rw [(hM i hi).2]
  exact h r

/-- An ignored call whose reply is read by `k`. -/
theorem call_bind (hM : M.IgnoresAt s K) (i : ι) (hi : K i) {k : ρ i → Prog ι ρ (Except ε α)}
    {f : α → ExceptT ε (Prog ι ρ) β} (h : ∀ r, M.Sat (k r) s (M.After f Q)) :
    M.Sat (ExceptT.mk (call i k) >>= f).run s Q := by
  refine sat_exceptT_bind.2 ⟨(hM i hi).1, fun r => ?_⟩
  rw [(hM i hi).2]
  exact h r

end Monitor.IgnoresAt

/-- The monitor allows the calls of `K` and forgets them. -/
def Monitor.Ignores (M : Monitor ι ρ S) (K : ι → Prop) : Prop :=
  ∀ s i, K i → M.ok s i ∧ ∀ r, M.next s i r = s

namespace Monitor.Ignores

variable {K : ι → Prop} {Q : S → Except ε β → Prop}

/-- A state ignores what every state does. -/
theorem at_ (hM : M.Ignores K) (s : S) : M.IgnoresAt s K := hM s

theorem lift_bind (hM : M.Ignores K) (i : ι) (hi : K i) {f : ρ i → ExceptT ε (Prog ι ρ) β}
    (h : ∀ r, M.Sat (f r).run s Q) : M.Sat (ExceptT.lift (perform i) >>= f).run s Q :=
  (hM.at_ s).lift_bind i hi h

theorem call_bind (hM : M.Ignores K) (i : ι) (hi : K i) {k : ρ i → Prog ι ρ (Except ε α)}
    {f : α → ExceptT ε (Prog ι ρ) β} (h : ∀ r, M.Sat (k r) s (M.After f Q)) :
    M.Sat (ExceptT.mk (call i k) >>= f).run s Q :=
  (hM.at_ s).call_bind i hi h

end Monitor.Ignores

/-- In a state of `L` the monitor allows everything, and there it stays. -/
def Monitor.Absorbs (M : Monitor ι ρ S) (L : S → Prop) : Prop :=
  ∀ s, L s → (∀ i, M.ok s i) ∧ ∀ i r, L (M.next s i r)

namespace Monitor.Absorbs

variable {L : S → Prop}

theorem sat (hM : M.Absorbs L) {p : Prog ι ρ α} {Q : S → α → Prop} (hQ : ∀ s a, L s → Q s a) :
    ∀ {s}, L s → M.Sat p s Q := by
  induction p with
  | ret a => intro s h; exact hQ s a h
  | call i k ih => intro s h; exact ⟨(hM s h).1 i, fun r => ih r ((hM s h).2 i r)⟩

variable {i : ι} {P : ρ i → Prop} {Q : S → Except ε β → Prop}

/-- A call after which the monitor goes on if `P` holds of the reply, and allows everything if not. -/
theorem lift_bind (hM : M.Absorbs L) (hQ : ∀ s out, L s → Q s out) {f : ρ i → ExceptT ε (Prog ι ρ) β}
    (hi : M.ok s i) (hbad : ∀ r, ¬ P r → L (M.next s i r))
    (h : ∀ r, P r → M.Sat (f r).run (M.next s i r) Q) :
    M.Sat (ExceptT.lift (perform i) >>= f).run s Q := by
  refine sat_lift_bind.2 ⟨hi, fun r => ?_⟩
  by_cases hr : P r
  · exact h r hr
  · exact hM.sat hQ (hbad r hr)

/-- The same for a call whose reply is read by `k`. -/
theorem call_bind (hM : M.Absorbs L) (hQ : ∀ s out, L s → Q s out) {k : ρ i → Prog ι ρ (Except ε α)}
    {f : α → ExceptT ε (Prog ι ρ) β} (hi : M.ok s i) (hbad : ∀ r, ¬ P r → L (M.next s i r))
    (h : ∀ r, P r → M.Sat (k r) (M.next s i r) (M.After f Q)) :
    M.Sat (ExceptT.mk (call i k) >>= f).run s Q := by
  refine sat_exceptT_bind.2 ⟨hi, fun r => ?_⟩
  by_cases hr : P r
  · exact h r hr
  · refine hM.sat (fun s' out hs' => ?_) (hbad r hr)
    cases out with
    | error e => exact hQ s' _ hs'
    | ok a => exact hM.sat hQ hs'

end Monitor.Absorbs

/-! ## Assumptions on the replies -/

/-- Calls of `K` as long as every reply is in `A`; the state tells that one was not. -/
def Monitor.assuming (K : ι → Prop) (A : (i : ι) → ρ i → Prop) : Monitor ι ρ Prop :=
  ⟨fun off i => off ∨ K i, fun off i r => off ∨ ¬ A i r⟩

variable {K : ι → Prop} {A : (i : ι) → ρ i → Prop}

theorem Monitor.assuming_absorbs : (assuming K A).Absorbs id :=
  fun _ h => ⟨fun _ => Or.inl h, fun _ _ => Or.inl h⟩

theorem Monitor.assuming_after (τ : List (Σ i, ρ i)) : ∀ {off : Prop},
    (assuming K A).after off τ ↔ off ∨ ∃ e ∈ τ, ¬ A e.1 e.2 := by
  induction τ with
  | nil => intro off; simp [after]
  | cons e τ ih =>
    intro off
    have hrest : (assuming K A).after (off ∨ ¬ A e.1 e.2) τ ↔ (off ∨ ¬ A e.1 e.2) ∨ ∃ e ∈ τ, ¬ A e.1 e.2 := ih
    simp only [List.mem_cons, exists_eq_or_imp]
    rw [← or_assoc]
    exact hrest

/-- **A run whose replies are all in `A`** makes calls of `K` only. -/
theorem Monitor.Sat.calls {p q : Prog ι ρ α} {τ : List (Σ i, ρ i)} {Q : Prop → α → Prop}
    (h : (Monitor.assuming K A).Sat p False Q) (ht : Trace p τ q) (hA : ∀ e ∈ τ, A e.1 e.2) :
    ∀ e ∈ τ, K e.1 := by
  rintro ⟨i, r⟩ hmem
  obtain ⟨τ₁, τ₂, rfl⟩ := List.append_of_mem hmem
  refine (h.ok_at ht).resolve_left fun hoff => ?_
  obtain ⟨e, he, hbad⟩ := ((Monitor.assuming_after τ₁).1 hoff).resolve_left id
  exact hbad (hA e (List.mem_append_left _ he))

/-- The coroutine makes calls of `K` as long as every reply is in `A`. -/
def Assures (K : ι → Prop) (A : (i : ι) → ρ i → Prop) (x : ExceptT ε (Prog ι ρ) α) : Prop :=
  ∀ off, (Monitor.assuming K A).Sat x.run off fun _ _ => True

namespace Assures

theorem of_pure (a : α) : Assures K A (pure a : ExceptT ε (Prog ι ρ) α) := fun _ => trivial

theorem of_except (r : Except ε α) : Assures K A (ofExcept r : ExceptT ε (Prog ι ρ) α) := by
  cases r <;> exact fun _ => trivial

theorem call (i : ι) (hi : K i) {f : ρ i → Except ε α} :
    Assures K A (ExceptT.mk (Prog.call i fun r => ret (f r))) := fun _ => ⟨Or.inr hi, fun _ => trivial⟩

theorem ask (i : ι) (hi : K i) : Assures K A (ExceptT.lift (perform i) : ExceptT ε (Prog ι ρ) (ρ i)) :=
  fun _ => ⟨Or.inr hi, fun _ => trivial⟩

theorem bind {x : ExceptT ε (Prog ι ρ) α} {f : α → ExceptT ε (Prog ι ρ) β} (hx : Assures K A x)
    (hf : ∀ a, Assures K A (f a)) : Assures K A (x >>= f) := by
  intro off
  refine Monitor.sat_exceptT_bind.2 (Monitor.sat_mono (fun off' out _ => ?_) (hx off))
  cases out with
  | error e => trivial
  | ok a => exact hf a off'

/-- What follows a call may rely on its reply. -/
theorem call_bind (i : ι) (hi : K i) {g : ρ i → Except ε α} {f : α → ExceptT ε (Prog ι ρ) β}
    (hf : ∀ r a, A i r → g r = .ok a → Assures K A (f a)) :
    Assures K A (ExceptT.mk (Prog.call i fun r => ret (g r)) >>= f) := by
  intro off
  refine Monitor.assuming_absorbs.call_bind (fun _ _ _ => trivial) (Or.inr hi) (fun r hr => Or.inr hr)
    fun r hr => ?_
  cases hg : g r with
  | error e => trivial
  | ok a => exact hf r a hr hg _

theorem ask_bind (i : ι) (hi : K i) {f : ρ i → ExceptT ε (Prog ι ρ) β} (hf : ∀ r, A i r → Assures K A (f r)) :
    Assures K A (ExceptT.lift (perform i) >>= f) := fun _ =>
  Monitor.assuming_absorbs.lift_bind (fun _ _ _ => trivial) (Or.inr hi) (fun _ hr => Or.inr hr)
    fun r hr => hf r hr _

theorem attempt {x : ExceptT ε (Prog ι ρ) α} (hx : Assures K A x) : Assures K A (Resumption.attempt x) :=
  fun off => Monitor.sat_attempt.2 (hx off)

theorem ite {P : Prop} [Decidable P] {x y : ExceptT ε (Prog ι ρ) α} (hx : P → Assures K A x)
    (hy : ¬ P → Assures K A y) : Assures K A (if P then x else y) := by
  split
  · next h => exact hx h
  · next h => exact hy h

/-- **Rule for calls made by programs**: each is made by calls of `K'`, and answered in `A` as long as those
are answered in `A'`. -/
theorem interp {K' : κ → Prop} {A' : (i : κ) → ρ' i → Prop} {f : (i : ι) → Prog κ ρ' (ρ i)}
    {x : ExceptT ε (Prog ι ρ) α} (hx : Assures K A x)
    (hf : ∀ i, K i → ∀ off, (Monitor.assuming K' A').Sat (f i) off fun off' r => off' ∨ A i r) :
    (Monitor.assuming K' A').Sat (x.run.interp f) False fun _ _ => True := by
  refine Monitor.sat_mono (fun _ _ _ => trivial)
    (Monitor.sat_interp (R := fun (off off' : Prop) => off → off') ?_ (hx False) id)
  intro off off' i hR hok
  by_cases hoff : off
  · have hlost : (Monitor.assuming K' A').Sat (f i) off' fun off'' _ => off'' :=
      Monitor.assuming_absorbs.sat (fun _ _ h => h) (hR hoff)
    exact Monitor.sat_mono (fun _ r h (_ : (Monitor.assuming K A).next off i r) => h) hlost
  · refine Monitor.sat_mono (fun off'' r hr hbad => ?_) (hf i (hok.resolve_left hoff) off')
    exact hr.resolve_right (hbad.resolve_left hoff)

end Assures

/-- Two monitors side by side. -/
def Monitor.prod {T : Type} (M : Monitor ι ρ S) (N : Monitor ι ρ T) : Monitor ι ρ (S × T) :=
  ⟨fun s i => M.ok s.1 i ∧ N.ok s.2 i, fun s i r => (M.next s.1 i r, N.next s.2 i r)⟩

theorem Monitor.sat_prod {T : Type} {N : Monitor ι ρ T} {Q : S → α → Prop} {Q' : T → α → Prop}
    {p : Prog ι ρ α} : ∀ {s t}, M.Sat p s Q → N.Sat p t Q' →
      (M.prod N).Sat p (s, t) fun st a => Q st.1 a ∧ Q' st.2 a := by
  induction p with
  | ret a => intro s t h h'; exact ⟨h, h'⟩
  | call i k ih => intro s t h h'; exact ⟨⟨h.1, h'.1⟩, fun r => ih r (h.2 r) (h'.2 r)⟩

/-- The monitor that only says which calls may be made at all. -/
def Monitor.only (K : ι → Prop) : Monitor ι ρ Unit := ⟨fun _ i => K i, fun _ _ _ => ()⟩

/-- The monitor that allows everything and notes the calls of `K` with their replies. -/
def Monitor.record (K : ι → Bool) : Monitor ι ρ (List (Σ i, ρ i)) :=
  ⟨fun _ _ => True, fun s i r => if K i then s ++ [⟨i, r⟩] else s⟩

theorem Monitor.record_after (K : ι → Bool) (s τ : List (Σ i, ρ i)) :
    (record K).after s τ = s ++ τ.filter fun e => K e.1 := by
  induction τ generalizing s with
  | nil => simp [Monitor.after]
  | cons e τ ih =>
    have hcons : (record K).after s (e :: τ) = (record K).after ((record K).next s e.1 e.2) τ := rfl
    rw [hcons, ih]
    by_cases he : K e.1 = true
    · simp [record, he]
    · simp [record, he]

/-- A program under way: its calls and replies so far, and what is left of it. -/
structure Thread (p : Prog ι ρ α) where
  trace : List (Σ i, ρ i)
  rest : Prog ι ρ α
  ok : Trace p trace rest

namespace Thread

variable {p : Prog ι ρ α}

/-- The program before its first call. -/
def start (p : Prog ι ρ α) : Thread p := ⟨[], p, .nil p⟩

/-- The pending call is answered. -/
def advance (x : Thread p) (answer : ∀ i, ρ i) : Thread p :=
  ⟨x.trace ++ x.rest.emit answer, x.rest.resume answer, x.ok.snoc answer⟩

/-- Only the answer to the pending call counts. -/
theorem advance_congr {x : Thread p} {answer answer' : ∀ i, ρ i}
    (h : ∀ i, x.rest.pending = some i → answer i = answer' i) : x.advance answer = x.advance answer' := by
  have hemit : x.rest.emit answer = x.rest.emit answer' := by
    cases hr : x.rest with
    | ret a => rfl
    | call i k => simp only [emit, h i (by rw [hr]; rfl)]
  have hresume : x.rest.resume answer = x.rest.resume answer' := by
    cases hr : x.rest with
    | ret a => rfl
    | call i k => simp only [resume, h i (by rw [hr]; rfl)]
  unfold advance
  congr 1
  rw [hemit]

/-- The state of the monitor `M`, started in `s`, that has watched the thread. -/
def state (M : Monitor ι ρ S) (s : S) (x : Thread p) : S := M.after s x.trace

theorem state_advance {x : Thread p} {answer : ∀ i, ρ i} {i : ι} (h : x.rest.pending = some i) :
    (x.advance answer).state M s = M.next (x.state M s) i (answer i) := by
  cases hr : x.rest with
  | ret a => simp [hr, pending] at h
  | call j k =>
    obtain rfl : j = i := by simpa [hr, pending] using h
    simp [state, advance, Monitor.after, hr, emit]

/-- What is left of a program satisfies what the program did. -/
theorem sat (x : Thread p) {Q : S → α → Prop} (h : M.Sat p s Q) :
    M.Sat x.rest (x.state M s) Q := h.trace x.ok

/-- A pending call is allowed. -/
theorem ok_of_pending (x : Thread p) {Q : S → α → Prop} (h : M.Sat p s Q) {i : ι}
    (hi : x.rest.pending = some i) : M.ok (x.state M s) i := by
  have hs := x.sat h
  cases hr : x.rest with
  | ret a => simp [hr, pending] at hi
  | call j k =>
    obtain rfl : j = i := by simpa [hr, pending] using hi
    rw [hr] at hs; exact hs.1

/-- A returned value satisfies the postcondition. -/
theorem post_of_result (x : Thread p) {Q : S → α → Prop} (h : M.Sat p s Q) {a : α}
    (ha : x.rest.result = some a) : Q (x.state M s) a := by
  have hs := x.sat h
  cases hr : x.rest with
  | call j k => simp [hr, result] at ha
  | ret b =>
    obtain rfl : b = a := by simpa [hr, result] using ha
    rw [hr] at hs; exact hs

end Thread

/-! ## Running against a state -/

/-- **Invariant rule for a run**: a link between the monitor's state and the
environment's that every allowed call keeps holds when the program returns. -/
theorem Monitor.run_sat {exec : σ → (i : ι) → σ × ρ i} {J : S → σ → Prop} {Q : S → α → Prop}
    (hstep : ∀ s w i, J s w → M.ok s i → J (M.next s i (exec w i).2) (exec w i).1)
    {p : Prog ι ρ α} : ∀ {s w}, M.Sat p s Q → J s w →
      ∃ s', J s' (p.run exec w).1 ∧ Q s' (p.run exec w).2 := by
  induction p with
  | ret a => intro s w h hJ; exact ⟨s, hJ, h⟩
  | call i k ih =>
    intro s w h hJ
    exact ih (exec w i).2 (h.2 _) (hstep s w i hJ h.1)

end Resumption
