import Mathlib.Logic.Function.Basic
import Transcribe.Lib.EventSystem
import Transcribe.Lib.Resumption

/-!
# Threads around a lock

Threads share a memory and a lock. An event lets one thread make its pending call; the calls of
different threads interleave in any order, and a thread that wants the lock waits while another
has it. What an operation does to the memory, and what it returns, is given by `exec`; the
environment has its part in the answer.

* `Keeps`: what a thread has to keep to, as a program on its own. It changes the memory only
  while it holds the lock, finds the invariant `J` when it gets it, and leaves it when it lets it
  go; `R` is what may happen to the memory meanwhile. `keeps_bind`, `keeps_exceptT_bind` and
  `keeps_attempt_bind` are the sequencing rules.
* `sound_run`: **resource invariant rule**. If every thread keeps to that, then in every run the
  memory is as `J` says while nobody holds the lock, and as the holder left it otherwise.
* `can_return`: no thread waits for ever.
-/

namespace Lock

open Resumption EventSystem

variable {ι : Type} {ρ : ι → Type} {M α β ε : Type}

/-- What a thread does. -/
inductive Call (ι : Type)
  | acquire
  | release
  | op (i : ι)

abbrev Reply (ρ : ι → Type) : Call ι → Type
  | .acquire | .release => Unit
  | .op i => ρ i

/-- The program of a thread. -/
abbrev Code (ι : Type) (ρ : ι → Type) (α : Type) := Prog (Call ι) (Reply ρ) α

/-- `code t` is what is left of thread `t`. -/
structure State (ι : Type) (ρ : ι → Type) (M α : Type) where
  mem : M
  holder : Option ℕ
  code : ℕ → Code ι ρ α

/-- Thread `thread` goes on; an operation is answered with the help of `answer`. -/
structure Event (ι : Type) (ρ : ι → Type) where
  thread : ℕ
  answer : (i : ι) → ρ i

variable (exec : ℕ → M → (i : ι) → ρ i → M × ρ i)

def step (w : State ι ρ M α) (e : Event ι ρ) : State ι ρ M α :=
  match w.code e.thread with
  | .ret _ => w
  | .call .acquire k =>
    if w.holder = none then ⟨w.mem, some e.thread, Function.update w.code e.thread (k ())⟩ else w
  | .call .release k =>
    if w.holder = some e.thread then ⟨w.mem, none, Function.update w.code e.thread (k ())⟩ else w
  | .call (.op i) k =>
    ⟨(exec e.thread w.mem i (e.answer i)).1, w.holder,
      Function.update w.code e.thread (k (exec e.thread w.mem i (e.answer i)).2)⟩

/-- What a thread knows of the memory: what it was when the thread last saw it, or what it is. -/
inductive View (M : Type)
  | free (m : M)
  | held (m : M)

/-- Thread `t` keeps to the lock. -/
def Keeps (R : M → M → Prop) (J : M → Prop) (t : ℕ) : Code ι ρ α → View M → (View M → α → Prop) → Prop
  | .ret a, v, Q => Q v a
  | .call .acquire k, .free m, Q => ∀ m', R m m' → J m' → Keeps R J t (k ()) (.held m') Q
  | .call .acquire _, .held _, _ => False
  | .call .release _, .free _, _ => False
  | .call .release k, .held m, Q => J m ∧ Keeps R J t (k ()) (.free m) Q
  | .call (.op i) k, .free m, Q => ∀ m' r, R m m' →
      (exec t m' i r).1 = m' ∧ Keeps R J t (k (exec t m' i r).2) (.free m') Q
  | .call (.op i) k, .held m, Q => ∀ r,
      R m (exec t m i r).1 ∧ Keeps R J t (k (exec t m i r).2) (.held (exec t m i r).1) Q

variable {exec} {R : M → M → Prop} {J : M → Prop} {t : ℕ}

/-! ## Rules for one thread -/

theorem keeps_mono {Q Q' : View M → α → Prop} (hQ : ∀ v a, Q v a → Q' v a) {p : Code ι ρ α} :
    ∀ {v}, Keeps exec R J t p v Q → Keeps exec R J t p v Q' := by
  induction p with
  | ret a => intro v h; exact hQ v a h
  | call c k ih =>
    intro v h
    rcases c with _ | _ | i <;> cases v with
    | free m => first | exact fun m' hR hJ => ih () (h m' hR hJ) | exact h |
        exact fun m' r hR => ⟨(h m' r hR).1, ih _ (h m' r hR).2⟩
    | held m => first | exact h | exact ⟨h.1, ih () h.2⟩ | exact fun r => ⟨(h r).1, ih _ (h r).2⟩

/-- **Sequencing rule.** -/
theorem keeps_bind {p : Code ι ρ α} {f : α → Code ι ρ β} {Q : View M → β → Prop} :
    ∀ {v}, Keeps exec R J t p v (fun v' a => Keeps exec R J t (f a) v' Q) →
      Keeps exec R J t (p.bind f) v Q := by
  induction p with
  | ret a => intro v h; exact h
  | call c k ih =>
    intro v h
    rcases c with _ | _ | i <;> cases v with
    | free m => first | exact fun m' hR hJ => ih () (h m' hR hJ) | exact h |
        exact fun m' r hR => ⟨(h m' r hR).1, ih _ (h m' r hR).2⟩
    | held m => first | exact h | exact ⟨h.1, ih () h.2⟩ | exact fun r => ⟨(h r).1, ih _ (h r).2⟩

/-- What is to be kept after `r`: go on with a value, pass an exception through. -/
def After (exec : ℕ → M → (i : ι) → ρ i → M × ρ i) (R : M → M → Prop) (J : M → Prop) (t : ℕ)
    (f : α → ExceptT ε (Prog (Call ι) (Reply ρ)) β) (Q : View M → Except ε β → Prop) (v : View M) :
    Except ε α → Prop
  | .ok a => Keeps exec R J t (f a).run v Q
  | .error e => Q v (.error e)

/-- **Sequencing rule** for programs that may raise. -/
theorem keeps_exceptT_bind {x : ExceptT ε (Prog (Call ι) (Reply ρ)) α}
    {f : α → ExceptT ε (Prog (Call ι) (Reply ρ)) β} {Q : View M → Except ε β → Prop} {v : View M}
    (h : Keeps exec R J t x.run v (After exec R J t f Q)) : Keeps exec R J t (x >>= f).run v Q := by
  refine keeps_bind (f := ExceptT.bindCont f) (keeps_mono (fun v' a ha => ?_) h)
  cases a <;> exact ha

/-- **Rule for `try`.** -/
theorem keeps_attempt_bind {x : ExceptT ε (Prog (Call ι) (Reply ρ)) α}
    {f : Except ε α → ExceptT ε (Prog (Call ι) (Reply ρ)) β} {Q : View M → Except ε β → Prop} {v : View M}
    (h : Keeps exec R J t x.run v fun v' r => Keeps exec R J t (f r).run v' Q) :
    Keeps exec R J t (attempt x >>= f).run v Q :=
  keeps_exceptT_bind (keeps_bind h)

/-! ## The resource invariant -/

/-- Every thread has kept to the lock so far. -/
structure Sound (exec : ℕ → M → (i : ι) → ρ i → M × ρ i) (R : M → M → Prop) (J : M → Prop)
    (Q : ℕ → View M → α → Prop) (w : State ι ρ M α) : Prop where
  free : w.holder = none → J w.mem
  held : ∀ t, w.holder = some t → Keeps exec R J t (w.code t) (.held w.mem) (Q t)
  outside : ∀ t, w.holder ≠ some t → ∃ m, R m w.mem ∧ Keeps exec R J t (w.code t) (.free m) (Q t)

variable {Q : ℕ → View M → α → Prop} {w : State ι ρ M α}

/-- One call of one thread. -/
theorem step_sound (hrefl : ∀ m, R m m) (htrans : ∀ a b c, R a b → R b c → R a c) (h : Sound exec R J Q w)
    (e : Event ι ρ) : Sound exec R J Q (step exec w e) := by
  have hself : ∀ {q : Code ι ρ α} {v : View M}, Keeps exec R J e.thread q v (Q e.thread) →
      Keeps exec R J e.thread (Function.update w.code e.thread q e.thread) v (Q e.thread) := by
    intro q v hq
    rwa [Function.update_self]
  have hother : ∀ {t : ℕ} (q : Code ι ρ α) {v : View M}, t ≠ e.thread → Keeps exec R J t (w.code t) v (Q t) →
      Keeps exec R J t (Function.update w.code e.thread q t) v (Q t) := by
    intro t q v hne hq
    rwa [Function.update_of_ne hne]
  cases hc : w.code e.thread with
  | ret a => simpa [step, hc] using h
  | call c k =>
    by_cases hmine : w.holder = some e.thread
    · have hk := h.held _ hmine
      rw [hc] at hk
      rcases c with _ | _ | i
      · exact hk.elim
      · -- the lock is let go
        simp only [step, hc, if_pos hmine]
        refine ⟨fun _ => hk.1, nofun, fun t _ => ?_⟩
        by_cases ht : t = e.thread
        · subst ht
          exact ⟨w.mem, hrefl _, hself hk.2⟩
        · obtain ⟨m, hm, hkeeps⟩ := h.outside t fun h' => ht (Option.some.inj (h'.symm.trans hmine))
          exact ⟨m, hm, hother _ ht hkeeps⟩
      · -- the holder works on the memory
        obtain ⟨hR, hkeeps⟩ := hk (e.answer i)
        simp only [step, hc]
        refine ⟨fun hnone => ?_, fun t ht => ?_, fun t ht => ?_⟩
        · exact absurd (hnone.symm.trans hmine) nofun
        · obtain rfl : e.thread = t := Option.some.inj (hmine.symm.trans ht)
          exact hself hkeeps
        · obtain ⟨m, hm, hkeeps⟩ := h.outside t ht
          have hne : t ≠ e.thread := by
            rintro rfl
            exact ht hmine
          exact ⟨m, htrans _ _ _ hm hR, hother _ hne hkeeps⟩
    · obtain ⟨m, hm, hk⟩ := h.outside _ hmine
      rw [hc] at hk
      rcases c with _ | _ | i
      · simp only [step, hc]
        split
        · next hnone =>
          -- the lock is free, and so the memory is as the invariant says
          refine ⟨nofun, fun t ht => ?_, fun t ht => ?_⟩
          · obtain rfl : e.thread = t := Option.some.inj ht
            exact hself (hk _ hm (h.free hnone))
          · have hne : t ≠ e.thread := fun h' => ht (congrArg some h'.symm)
            obtain ⟨m', hm', hkeeps⟩ := h.outside t (by rw [hnone]; nofun)
            exact ⟨m', hm', hother _ hne hkeeps⟩
        · exact h
      · exact hk.elim
      · obtain ⟨hsame, hkeeps⟩ := hk w.mem (e.answer i) hm
        simp only [step, hc, hsame]
        refine ⟨h.free, fun t ht => ?_, fun t ht => ?_⟩
        · have hne : t ≠ e.thread := by
            rintro rfl
            exact hmine ht
          exact hother _ hne (h.held t ht)
        · by_cases hte : t = e.thread
          · subst hte
            exact ⟨w.mem, hrefl _, hself hkeeps⟩
          · obtain ⟨m', hm', hkeeps'⟩ := h.outside t ht
            exact ⟨m', hm', hother _ hte hkeeps'⟩

/-- **Resource invariant rule.** -/
theorem sound_run (hrefl : ∀ m, R m m) (htrans : ∀ a b c, R a b → R b c → R a c) (h : Sound exec R J Q w)
    (es : List (Event ι ρ)) : Sound exec R J Q (run (step exec) w es) :=
  @run_inv _ _ (step exec) (Sound exec R J Q) (fun _ e h => step_sound hrefl htrans h e) es w h

/-! ## Nobody waits for ever -/

/-- A thread that has the lock, or can have it, comes to its end and leaves the lock free. -/
theorem returns_alone (hrefl : ∀ m, R m m) (htrans : ∀ a b c, R a b → R b c → R a c)
    (hQ : ∀ t m a, ¬ Q t (.held m) a) (answer : (i : ι) → ρ i) {p : Code ι ρ α} :
    ∀ {w : State ι ρ M α}, Sound exec R J Q w → w.code t = p → (w.holder = none ∨ w.holder = some t) →
      ∃ es, (∃ a, (run (step exec) w es).code t = .ret a) ∧ (run (step exec) w es).holder = none := by
  induction p with
  | ret a =>
    intro w h hp hholder
    refine ⟨[], ⟨a, hp⟩, hholder.resolve_right fun hmine => ?_⟩
    have hk := h.held t hmine
    rw [hp] at hk
    exact hQ t _ a hk
  | call c k ih =>
    intro w h hp hholder
    -- the first event lets the thread make its call
    have hnext : ∀ {r}, (step exec w ⟨t, answer⟩).code t = k r →
        ((step exec w ⟨t, answer⟩).holder = none ∨ (step exec w ⟨t, answer⟩).holder = some t) →
        ∃ es, (∃ a, (run (step exec) w es).code t = .ret a) ∧ (run (step exec) w es).holder = none := by
      intro r hcode hfree
      obtain ⟨es, hes⟩ := ih r (step_sound hrefl htrans h ⟨t, answer⟩) hcode hfree
      exact ⟨⟨t, answer⟩ :: es, hes⟩
    rcases hholder with hnone | hmine
    · obtain ⟨m, _, hk⟩ := h.outside t (by rw [hnone]; nofun)
      rw [hp] at hk
      rcases c with _ | _ | i
      · exact hnext (r := ()) (by simp [step, hp, hnone]) (by simp [step, hp, hnone])
      · exact hk.elim
      · exact hnext (r := (exec t w.mem i (answer i)).2) (by simp [step, hp]) (by simp [step, hp, hnone])
    · have hk := h.held t hmine
      rw [hp] at hk
      rcases c with _ | _ | i
      · exact hk.elim
      · exact hnext (r := ()) (by simp [step, hp, hmine]) (by simp [step, hp, hmine])
      · exact hnext (r := (exec t w.mem i (answer i)).2) (by simp [step, hp]) (by simp [step, hp, hmine])

/-- **Every thread can return**, from every state in which all have kept to the lock. -/
theorem can_return (hrefl : ∀ m, R m m) (htrans : ∀ a b c, R a b → R b c → R a c)
    (hQ : ∀ t m a, ¬ Q t (.held m) a) (answer : (i : ι) → ρ i) (h : Sound exec R J Q w) (t : ℕ) :
    ∃ es a, (run (step exec) w es).code t = .ret a := by
  -- first whoever has the lock
  obtain ⟨es₁, hfree⟩ : ∃ es, (run (step exec) w es).holder = none := by
    cases hh : w.holder with
    | none => exact ⟨[], hh⟩
    | some s =>
      obtain ⟨es, _, hnone⟩ := returns_alone hrefl htrans hQ answer h rfl (.inr hh)
      exact ⟨es, hnone⟩
  obtain ⟨es₂, ⟨a, ha⟩, _⟩ :=
    returns_alone hrefl htrans hQ answer (sound_run hrefl htrans h es₁) (t := t) rfl (.inl hfree)
  refine ⟨es₁ ++ es₂, a, ?_⟩
  rw [run_append, ha]

end Lock
