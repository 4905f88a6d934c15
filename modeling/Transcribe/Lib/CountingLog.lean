import Mathlib.Data.List.Chain
import Mathlib.Data.List.Destutter
import Mathlib.Data.List.Range
import Mathlib.Tactic.Common

/-!
# Logs that count upwards

An append-only log whose entries carry a number. `Counts num e l`: the numbers start
at `0`, each is its predecessor's or one more, and the last is `e` or `e - 1`, so the
log is a sequence `0, 1, 2, …` with repetitions, complete below `e`.

* `Counts.append`, `Counts.advance`: appending an entry numbered `e`, and moving `e`
  past a last entry numbered `e`, keep it.
* `Counts.exists_of_lt`: every number below `e` is in the log.
* `Counts.map_collapse`: without its adjacent repetitions the log is `0, 1, …` up to
  `e - 1` or up to `e`.

A log that starts anew from time to time is a row of such logs, its epochs (`Epochs`).
-/

namespace CountingLog

variable {α : Type} (num : α → ℕ)

/-- An entry's number is its predecessor's or one more. -/
def Next (a b : α) : Prop := num b = num a ∨ num b = num a + 1

structure Counts (e : ℕ) (l : List α) : Prop where
  head : ∀ a ∈ l.head?, num a = 0
  chain : l.IsChain (Next num)
  last : ∀ a ∈ l.getLast?, num a = e ∨ num a + 1 = e
  empty : l = [] → e = 0

/-- The log without adjacent repetitions of a number. -/
def collapse (l : List α) : List α := l.destutter (fun a b => num a ≠ num b)

variable {num} {e : ℕ} {l : List α}

theorem counts_nil : Counts num 0 ([] : List α) :=
  ⟨by simp, List.IsChain.nil, by simp, fun _ => rfl⟩

/-- Appending the entry numbered `e`. -/
theorem Counts.append (h : Counts num e l) {a : α} (ha : num a = e) : Counts num e (l ++ [a]) := by
  refine ⟨?_, ?_, by simp [ha], by simp⟩
  · intro b hb
    rcases List.eq_nil_or_concat l with rfl | ⟨l', c, rfl⟩
    · simp only [List.nil_append, List.head?_cons, Option.mem_def, Option.some.injEq] at hb
      rw [← hb, ha]; exact h.empty rfl
    · refine h.head b ?_
      rwa [List.head?_append_of_ne_nil _ (by simp)] at hb
  · refine h.chain.append (List.IsChain.singleton a) ?_
    intro b hb c hc
    have hc' : num c = e := by
      simp only [List.head?_cons, Option.mem_def, Option.some.injEq] at hc
      rw [← hc, ha]
    rcases h.last b hb with hb' | hb'
    · left; rw [hc', hb']
    · right; rw [hc', hb']

/-- Moving on past a last entry numbered `e`. -/
theorem Counts.advance (h : Counts num e l) (hl : ∃ a ∈ l.getLast?, num a = e) :
    Counts num (e + 1) l := by
  obtain ⟨a, ha, hae⟩ := hl
  refine ⟨h.head, h.chain, ?_, ?_⟩
  · intro b hb
    obtain rfl : a = b := Option.some.inj (ha.symm.trans hb)
    omega
  · rintro rfl; simp at ha

/-- From an entry numbered `k` on, a counting list reaches every number up to its last. -/
theorem exists_of_chain {k : ℕ} : ∀ {l : List α} {a : α}, (a :: l).IsChain (Next num) →
    num a ≤ k → k ≤ num ((a :: l).getLast (by simp)) → ∃ b ∈ a :: l, num b = k := by
  intro l
  induction l with
  | nil =>
    intro a _ h1 h2
    simp only [List.getLast_singleton] at h2
    exact ⟨a, by simp, by omega⟩
  | cons b l ih =>
    intro a hc h1 h2
    rcases Nat.eq_or_lt_of_le h1 with h | h
    · exact ⟨a, by simp, h⟩
    · rw [List.isChain_cons_cons] at hc
      have hb : num b ≤ k := by rcases hc.1 with h' | h' <;> omega
      rw [List.getLast_cons_cons] at h2
      obtain ⟨c, hcm, hck⟩ := ih hc.2 hb h2
      exact ⟨c, List.mem_cons_of_mem _ hcm, hck⟩

/-- **Complete below `e`.** -/
theorem Counts.exists_of_lt (h : Counts num e l) {k : ℕ} (hk : k < e) : ∃ a ∈ l, num a = k := by
  cases l with
  | nil => have := h.empty rfl; omega
  | cons a l =>
    have h0 := h.head a (by simp)
    have hl := h.last _ (List.getLast?_eq_some_getLast (l := a :: l) (by simp))
    exact exists_of_chain h.chain (by omega) (by omega)

theorem le_getLast : ∀ {l : List α} {a : α}, (a :: l).IsChain (Next num) →
    num a ≤ num ((a :: l).getLast (by simp)) := by
  intro l
  induction l with
  | nil => intro a _; simp
  | cons b l ih =>
    intro a hc
    rw [List.isChain_cons_cons] at hc
    rw [List.getLast_cons_cons]
    refine le_trans ?_ (ih hc.2)
    rcases hc.1 with h | h <;> omega

theorem map_destutter' : ∀ {l : List α} {a : α}, (a :: l).IsChain (Next num) →
    (List.destutter' (fun a b => num a ≠ num b) a l).map num =
      List.range' (num a) (num ((a :: l).getLast (by simp)) + 1 - num a) := by
  intro l
  induction l with
  | nil => intro a _; simp
  | cons b l ih =>
    intro a hc
    rw [List.isChain_cons_cons] at hc
    have hlast := le_getLast hc.2
    rw [List.destutter'_cons, List.getLast_cons_cons]
    rcases hc.1 with h | h
    · -- a repetition is dropped: go on from `a`, numbered like `b`
      rw [if_neg (by simp [h])]
      cases l with
      | nil => simp [h]
      | cons c l =>
        have hc' : (a :: c :: l).IsChain (Next num) := by
          rw [List.isChain_cons_cons]
          have h2 := List.isChain_cons_cons.1 hc.2
          exact ⟨by unfold Next; rw [← h]; exact h2.1, h2.2⟩
        rw [ih hc', List.getLast_cons_cons, List.getLast_cons_cons]
    · rw [if_pos (by omega), List.map_cons, ih hc.2, h,
        show num ((b :: l).getLast (by simp)) + 1 - num a =
          (num ((b :: l).getLast (by simp)) + 1 - (num a + 1)) + 1 by omega,
        List.range'_succ]

/-- **Without repetitions the log is `0, 1, …`**, up to `e - 1` or up to `e`. -/
theorem Counts.map_collapse (h : Counts num e l) :
    (collapse num l).map num = List.range e ∨ (collapse num l).map num = List.range (e + 1) := by
  cases l with
  | nil => left; simp [collapse, h.empty rfl]
  | cons a l =>
    have h0 := h.head a (by simp)
    have hl := h.last _ (List.getLast?_eq_some_getLast (l := a :: l) (by simp))
    unfold collapse
    rw [List.destutter_cons', map_destutter' h.chain, h0, ← List.range_eq_range', Nat.sub_zero]
    rcases hl with hl | hl
    · right; rw [hl]
    · left; rw [hl]

theorem mem_of_mem_collapse {a : α} (ha : a ∈ collapse num l) : a ∈ l :=
  (List.destutter_sublist (R := fun a b => num a ≠ num b) l).subset ha

/-! ## Epochs -/

/-- The log consists of the closed epochs `past` and the current one, that counts up to `e`. -/
structure Epochs (num : α → ℕ) (e : ℕ) (l : List α) (past : List (List α)) (cur : List α) : Prop where
  split : l = past.flatten ++ cur
  closed : ∀ p ∈ past, ∃ n, Counts num n p
  current : Counts num e cur

namespace Epochs

variable {past : List (List α)} {cur : List α}

theorem nil : Epochs num 0 [] [] [] := ⟨rfl, by simp, counts_nil⟩

theorem append (h : Epochs num e l past cur) {a : α} (ha : num a = e) :
    Epochs num e (l ++ [a]) past (cur ++ [a]) :=
  ⟨by rw [h.split, List.append_assoc], h.closed, h.current.append ha⟩

theorem advance (h : Epochs num e l past cur) (hl : ∃ a ∈ cur.getLast?, num a = e) :
    Epochs num (e + 1) l past cur :=
  ⟨h.split, h.closed, h.current.advance hl⟩

/-- The current epoch is closed. -/
theorem restart (h : Epochs num e l past cur) : Epochs num 0 l (past ++ [cur]) [] := by
  refine ⟨by simp [h.split], fun p hp => ?_, counts_nil⟩
  rcases List.mem_append.1 hp with hp | hp
  · exact h.closed p hp
  · obtain rfl := List.mem_singleton.1 hp
    exact ⟨e, h.current⟩

end Epochs

end CountingLog
