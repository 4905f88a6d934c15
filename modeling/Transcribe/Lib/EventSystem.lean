import Mathlib.Logic.Relation
import Mathlib.Tactic.Common

/-!
# Runs of an event-driven system

A system is a total step function on events. `run` is the state after a list of
events; `Along ok` says that every event of the list is admissible (`ok`) in the
state it meets. `along_inv` and `along_rel` are the two induction rules: an invariant
of admissible steps holds in every state reached, and a transitive relation between
neighbouring states relates any earlier state to any later one. `along_refines` is the
refinement rule: a run whose steps are each simulated by abstract steps is an abstract
run. `along_project` is the projection rule: a part of the system whose steps are
admissible steps of another system runs as that does.
-/

namespace EventSystem

variable {σ ε : Type} (step : σ → ε → σ)

/-- The state after the events `es`. -/
def run (s : σ) (es : List ε) : σ := es.foldl step s

/-- Every event is admissible where it happens. -/
def Along (ok : σ → ε → Prop) : σ → List ε → Prop
  | _, [] => True
  | s, e :: es => ok s e ∧ Along ok (step s e) es

instance Along.decidable (ok : σ → ε → Prop) [∀ s e, Decidable (ok s e)] :
    ∀ s es, Decidable (Along step ok s es)
  | _, [] => .isTrue trivial
  | s, e :: es =>
    have := Along.decidable ok (step s e) es
    inferInstanceAs (Decidable (ok s e ∧ Along step ok (step s e) es))

variable {step} {ok : σ → ε → Prop} {s : σ}

@[simp] theorem run_nil : run step s [] = s := rfl

@[simp] theorem run_cons (e : ε) (es : List ε) : run step s (e :: es) = run step (step s e) es := rfl

theorem run_append (es es' : List ε) : run step s (es ++ es') = run step (run step s es) es' := by
  simp [run, List.foldl_append]

theorem along_append (es es' : List ε) :
    Along step ok s (es ++ es') ↔ Along step ok s es ∧ Along step ok (run step s es) es' := by
  induction es generalizing s with
  | nil => simp [Along]
  | cons e es ih => simp [Along, ih, and_assoc]

/-- **Until rule**: the events are admissible, or there is a first one that is not. -/
theorem along_or_split (es : List ε) : Along step ok s es ∨
    ∃ es₁ e es₂, es = es₁ ++ e :: es₂ ∧ Along step ok s es₁ ∧ ¬ ok (run step s es₁) e := by
  induction es generalizing s with
  | nil => exact .inl trivial
  | cons e es ih =>
    by_cases he : ok s e
    · rcases @ih (step s e) with h | ⟨es₁, e', es₂, rfl, h, hbad⟩
      · exact .inl ⟨he, h⟩
      · exact .inr ⟨e :: es₁, e', es₂, rfl, ⟨he, h⟩, hbad⟩
    · exact .inr ⟨[], e, es, rfl, trivial, he⟩

/-- **Invariant rule** without a condition on events. -/
theorem run_inv {I : σ → Prop} (hstep : ∀ s e, I s → I (step s e)) :
    ∀ {es : List ε} {s}, I s → I (run step s es) := by
  intro es
  induction es with
  | nil => intro s h; exact h
  | cons e es ih => intro s h; exact ih (hstep s e h)

/-- **Invariant rule.** -/
theorem along_inv {I : σ → Prop} (hstep : ∀ s e, I s → ok s e → I (step s e)) :
    ∀ {es : List ε} {s}, I s → Along step ok s es → I (run step s es) := by
  intro es
  induction es with
  | nil => intro s h _; exact h
  | cons e es ih => intro s h ha; exact ih (hstep s e h ha.1) ha.2

/-- **Relation rule**, under an invariant. -/
theorem along_rel {I : σ → Prop} {R : σ → σ → Prop} (hrefl : ∀ s, R s s)
    (htrans : ∀ a b c, R a b → R b c → R a c) (hinv : ∀ s e, I s → ok s e → I (step s e))
    (hstep : ∀ s e, I s → ok s e → R s (step s e)) :
    ∀ {es : List ε} {s}, I s → Along step ok s es → R s (run step s es) := by
  intro es
  induction es with
  | nil => intro s _ _; exact hrefl s
  | cons e es ih =>
    intro s h ha
    exact htrans _ _ _ (hstep s e h ha.1) (ih (hinv s e h ha.1) ha.2)

/-- **Refinement rule.** -/
theorem along_refines {τ : Type} {R : τ → τ → Prop} {I : σ → Prop} {f : σ → τ}
    (hinv : ∀ s e, I s → ok s e → I (step s e))
    (hsim : ∀ s e, I s → ok s e → Relation.ReflTransGen R (f s) (f (step s e)))
    {es : List ε} {s : σ} (hs : I s) (h : Along step ok s es) :
    Relation.ReflTransGen R (f s) (f (run step s es)) :=
  along_rel (R := fun s s' => Relation.ReflTransGen R (f s) (f s')) (fun _ => .refl)
    (fun _ _ _ => .trans) hinv hsim hs h

/-- **Refinement rule** without a condition on events. -/
theorem run_refines {τ : Type} {R : τ → τ → Prop} {I : σ → Prop} {f : σ → τ}
    (hinv : ∀ s e, I s → I (step s e))
    (hsim : ∀ s e, I s → Relation.ReflTransGen R (f s) (f (step s e))) :
    ∀ {es : List ε} {s : σ}, I s → Relation.ReflTransGen R (f s) (f (run step s es)) := by
  intro es
  induction es with
  | nil => intro s _; exact .refl
  | cons e es ih => intro s h; exact (hsim s e h).trans (ih (hinv s e h))

/-- **Projection rule.** -/
theorem along_project {τ ε' : Type} {step' : τ → ε' → τ} {ok' : τ → ε' → Prop} {f : σ → τ}
    {I : σ → Prop} (hinv : ∀ s e, I s → ok s e → I (step s e))
    (hsim : ∀ s e, I s → ok s e →
      ∃ es', f (step s e) = run step' (f s) es' ∧ Along step' ok' (f s) es') :
    ∀ {es : List ε} {s : σ}, I s → Along step ok s es →
      ∃ es', f (run step s es) = run step' (f s) es' ∧ Along step' ok' (f s) es' := by
  intro es
  induction es with
  | nil => intro s _ _; exact ⟨[], rfl, trivial⟩
  | cons e es ih =>
    intro s hs h
    obtain ⟨es₁, hrun₁, hok₁⟩ := hsim s e hs h.1
    obtain ⟨es₂, hrun₂, hok₂⟩ := ih (hinv s e hs h.1) h.2
    refine ⟨es₁ ++ es₂, ?_, (along_append es₁ es₂).2 ⟨hok₁, ?_⟩⟩
    · rw [run_append, ← hrun₁]; exact hrun₂
    · rw [← hrun₁]; exact hok₂

end EventSystem
