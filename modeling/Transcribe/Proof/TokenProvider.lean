import Mathlib.Data.List.Chain
import Transcribe.Model.TokenProvider

/-!
# Tokens are fresh, and made one at a time

* `refreshToken_keeps`: what one call does with the lock.
* `tokens_fresh`: whatever the order of the calls and whatever the signer answers, a token handed
  out was made in the call or is good for a minute after its clock reading; the signer works for
  one call at a time and only when the last token is about to expire; no call waits for ever.
-/

namespace Transcribe

namespace MSKTokenProvider

open Resumption EventSystem Lock

variable (clock : ℕ → ℤ)

/-- A token is replaced by a call that finds it about to expire. -/
def Due (g g' : SignedToken) : Prop := g.expiryMs - 60000 ≤ clock g'.call

/-- The provider while nobody has the lock: it holds the last token made. -/
structure Current (p : MSKTokenProvider) : Prop where
  last : p.token = none ∧ p.signed = [] ∨
    ∃ signed g, p.signed = signed ++ [g] ∧ p.token = some g.token ∧ p.expiryMs = g.expiryMs
  due : p.signed.IsChain (Due clock)

/-- What may happen to the provider while a call has not the lock. -/
def Grows (p p' : MSKTokenProvider) : Prop := p.signed <+: p'.signed

theorem Grows.refl (p : MSKTokenProvider) : Grows p p := List.prefix_refl _

theorem Grows.trans (a b c : MSKTokenProvider) (h : Grows a b) (h' : Grows b c) : Grows a c :=
  List.IsPrefix.trans h h'

/-- What a call hands out. -/
def Fresh (call : ℕ) (p : MSKTokenProvider) (x : Option String) : Prop :=
  ∃ g ∈ p.signed, x = some g.token ∧ (g.call = call ∨ clock call < g.expiryMs - 60000)

/-- How a call ends. -/
def Ends (call : ℕ) : View MSKTokenProvider → Except String (Option String) → Prop
  | .free p, r => ∀ x, r = .ok x → Fresh clock call p x
  | .held _, _ => False

variable {clock}

theorem exec_grows (call : ℕ) (p : MSKTokenProvider) (i : Access) (r : Answer i) :
    Grows p (exec clock call p i r).1 := by
  rcases i with _ | _ | _ | _ | token | expiryMs
  · exact List.prefix_refl _
  · exact List.prefix_refl _
  · exact List.prefix_refl _
  · rcases r with text | ⟨token, expiryMs⟩
    · exact List.prefix_refl _
    · exact List.prefix_append _ _
  · exact List.prefix_refl _
  · exact List.prefix_refl _

theorem isFresh_keeps (call : ℕ) (p : MSKTokenProvider) (nowMs : ℤ) :
    Keeps (exec clock) Grows (Current clock) call (isFresh nowMs).run (.held p)
      fun v r => v = .held p ∧ r = .ok (decide (p.token ≠ none ∧ nowMs < p.expiryMs - 60000)) := by
  refine keeps_exceptT_bind fun _ => ⟨Grows.refl _, ?_⟩
  rcases p with ⟨_ | token, expiryMs, signed⟩
  · exact ⟨rfl, by simp⟩
  · refine keeps_exceptT_bind fun _ => ⟨Grows.refl _, rfl, congrArg Except.ok (decide_eq_decide.2 ?_)⟩
    exact ⟨fun h => ⟨nofun, h⟩, And.right⟩

/-- With the lock: the provider is left as it should be, and what comes out is fresh. -/
theorem refreshLocked_keeps (call : ℕ) {p : MSKTokenProvider} (hp : Current clock p) :
    Keeps (exec clock) Grows (Current clock) call (refreshLocked (clock call)).run (.held p)
      fun v r => ∃ p', v = .held p' ∧ Current clock p' ∧ ∀ x, r = .ok x → Fresh clock call p' x := by
  refine keeps_exceptT_bind (keeps_mono ?_ (isFresh_keeps call p (clock call)))
  rintro v r ⟨rfl, rfl⟩
  show Keeps _ _ _ _ (if decide (p.token ≠ none ∧ clock call < p.expiryMs - 60000) = true then
    access .readToken else _ : TokenCoro (Option String)).run (.held p) _
  by_cases hfresh : p.token ≠ none ∧ clock call < p.expiryMs - 60000
  · -- the token that is there is handed out
    rw [if_pos (decide_eq_true hfresh)]
    refine fun _ => ⟨Grows.refl _, p, rfl, hp, fun x hx => ?_⟩
    obtain rfl : p.token = x := Except.ok.inj hx
    rcases hp.last with ⟨hnone, _⟩ | ⟨signed, g, hsigned, htoken, hexpiry⟩
    · exact absurd hnone hfresh.1
    · refine ⟨g, ?_, htoken, .inr ?_⟩
      · rw [hsigned]
        exact List.mem_append_right _ (List.mem_singleton_self _)
      · rw [← hexpiry]
        exact hfresh.2
  · rw [if_neg (by simpa using hfresh)]
    refine keeps_exceptT_bind fun r => ⟨exec_grows call p .generate r, ?_⟩
    rcases r with text | ⟨token, expiryMs⟩
    · exact ⟨p, rfl, hp, nofun⟩
    refine keeps_exceptT_bind fun _ => ⟨Grows.refl _, ?_⟩
    refine keeps_exceptT_bind fun _ => ⟨Grows.refl _, ?_⟩
    refine ⟨⟨some token, expiryMs, p.signed ++ [⟨call, token, expiryMs⟩]⟩, rfl,
      ⟨.inr ⟨p.signed, ⟨call, token, expiryMs⟩, rfl, rfl, rfl⟩, ?_⟩, fun x hx => ?_⟩
    · -- the token before is about to expire
      refine hp.due.append (List.isChain_singleton _) fun g hg g' hg' => ?_
      obtain rfl : (⟨call, token, expiryMs⟩ : SignedToken) = g' := Option.some.inj hg'
      rcases hp.last with ⟨_, hempty⟩ | ⟨signed, last, hsigned, htoken, hexpiry⟩
      · rw [hempty] at hg
        cases hg
      · rw [hsigned, List.getLast?_append_of_ne_nil _ (List.cons_ne_nil _ _)] at hg
        obtain rfl : last = g := Option.some.inj hg
        have hlate : ¬ clock call < p.expiryMs - 60000 := fun hlt => hfresh ⟨by rw [htoken]; nofun, hlt⟩
        rw [hexpiry] at hlate
        show last.expiryMs - 60000 ≤ clock call
        omega
    · obtain rfl := Except.ok.inj hx
      exact ⟨⟨call, token, expiryMs⟩, List.mem_append_right _ (List.mem_singleton_self _), rfl, .inl rfl⟩

/-- **One call** keeps to the lock and ends as it should. -/
theorem refreshToken_keeps (call : ℕ) (p : MSKTokenProvider) :
    Keeps (exec clock) Grows (Current clock) call refreshToken.run (.free p) (Ends clock call) := by
  refine keeps_exceptT_bind fun p₁ _ h₁ => ⟨rfl, ?_⟩
  refine keeps_exceptT_bind fun p₂ h₂ hp₂ => ?_
  refine keeps_attempt_bind (keeps_mono ?_ (refreshLocked_keeps call hp₂))
  rintro v r ⟨p₃, rfl, hp₃, hfresh⟩
  refine keeps_exceptT_bind ⟨hp₃, ?_⟩
  cases r with
  | ok x => exact hfresh
  | error text => exact hfresh

theorem init_sound : Sound (exec clock) Grows (Current clock) (Ends clock)
    (⟨init, none, fun _ => refreshToken.run⟩ : Calls) :=
  ⟨fun _ => ⟨.inl ⟨rfl, rfl⟩, List.IsChain.nil⟩, nofun,
    fun t _ => ⟨init, Grows.refl _, refreshToken_keeps t init⟩⟩

theorem after_sound (es : List (Lock.Event Access Answer)) :
    Sound (exec clock) Grows (Current clock) (Ends clock) (after clock es) :=
  sound_run Grows.refl Grows.trans init_sound es

/-- The record of the signer grows. -/
theorem signed_grows (w : Calls) (es : List (Lock.Event Access Answer)) :
    w.mem.signed <+: (run (step (exec clock)) w es).mem.signed := by
  refine run_inv (I := fun w' : Calls => w.mem.signed <+: w'.mem.signed) (fun w' e h => ?_) (List.prefix_refl _)
  cases hc : w'.code e.thread with
  | ret a => simpa [step, hc] using h
  | call c k =>
    rcases c with _ | _ | i
    · simp only [step, hc]
      split <;> exact h
    · simp only [step, hc]
      split <;> exact h
    · simp only [step, hc]
      exact h.trans (exec_grows e.thread w'.mem i (e.answer i))

/-- A call that waits for the signer has the lock. -/
theorem holder_of_generating {w : Calls} (h : Sound (exec clock) Grows (Current clock) (Ends clock) w) {t : ℕ}
    (ht : (w.code t).pending = some (.op .generate)) : w.holder = some t := by
  by_contra hfree
  obtain ⟨p, hp, hk⟩ := h.outside t hfree
  cases hc : w.code t with
  | ret a => rw [hc] at ht; cases ht
  | call c k =>
    rw [hc] at ht hk
    obtain rfl : c = .op .generate := Option.some.inj ht
    -- without the lock the answer would change the record
    have hsame : (exec clock t w.mem .generate (.ok ("", 0))).1 = w.mem := (hk w.mem (.ok ("", 0)) hp).1
    have hlen := congrArg (fun p : MSKTokenProvider => p.signed.length) hsame
    simp [exec] at hlen

/-- Answers with which every call can go on. -/
def answers : (i : Access) → Answer i
  | .time | .readExpiryMs => 0
  | .readToken => none
  | .generate => .error ""
  | .writeToken _ | .writeExpiryMs _ => ()

theorem calls_return (es : List (Lock.Event Access Answer)) (t : ℕ) :
    ∃ es' r, (after clock (es ++ es')).code t = .ret r := by
  obtain ⟨es', r, hr⟩ := can_return Grows.refl Grows.trans (fun _ _ _ h => h) answers
    (after_sound es) t
  exact ⟨es', r, by rw [after, run_append]; exact hr⟩

/-- The tokens were made when they were due, also while a call is at it. -/
theorem signed_due (es : List (Lock.Event Access Answer)) :
    (after clock es).mem.signed.IsChain (Due clock) := by
  -- the lock is free again some time later, and the record has only grown
  obtain ⟨es', hfree⟩ : ∃ es', (run (step (exec clock)) (after clock es) es').holder = none := by
    cases hh : (after clock es).holder with
    | none => exact ⟨[], hh⟩
    | some s =>
      obtain ⟨es', _, hnone⟩ := returns_alone Grows.refl Grows.trans (fun _ _ _ h => h) answers
        (after_sound es) rfl (.inr hh)
      exact ⟨es', hnone⟩
  have hlater := (sound_run Grows.refl Grows.trans (after_sound es) es').free hfree
  obtain ⟨l, hl⟩ := @signed_grows clock (after clock es) es'
  have hdue := hlater.due
  rw [← hl] at hdue
  exact hdue.left_of_append

variable (clock) in
/-- **Tokens are fresh and made one at a time.** Whatever the order of the calls and whatever the
signer answers: a token handed out was made in the call or lasts for more than a minute after
the call's reading of the clock; the signer is at work for at most one call, and makes a token
only for a call that finds the last one about to expire; no call waits for ever. -/
theorem tokens_fresh (es : List (Lock.Event Access Answer)) :
    (∀ t x, (after clock es).code t = .ret (.ok x) → Fresh clock t (after clock es).mem x) ∧
    (after clock es).mem.signed.IsChain (Due clock) ∧
    (∀ t t', ((after clock es).code t).pending = some (.op .generate) →
      ((after clock es).code t').pending = some (.op .generate) → t = t') ∧
    ∀ t, ∃ es' r, (after clock (es ++ es')).code t = .ret r := by
  have h := @after_sound clock es
  refine ⟨fun t x ht => ?_, signed_due es, fun t t' ht ht' => ?_, calls_return es⟩
  · by_cases hmine : (after clock es).holder = some t
    · have hk := h.held t hmine
      rw [ht] at hk
      exact hk.elim
    · obtain ⟨p, hp, hk⟩ := h.outside t hmine
      rw [ht] at hk
      obtain ⟨g, hg, hx⟩ := hk x rfl
      exact ⟨g, hp.subset hg, hx⟩
  · have hboth := (holder_of_generating h ht).symm.trans (holder_of_generating h ht')
    exact Option.some.inj hboth

end MSKTokenProvider

end Transcribe
