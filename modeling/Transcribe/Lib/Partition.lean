import Mathlib.Tactic.Common

/-!
# Cutting a list at a separator

`partition` cuts a list at the first occurrence of a separator, `rpartition` at the last. Each is
determined by the piece that the separator is not in: `partition_append`, `rpartition_append`; so
the pieces of two equal lists are equal (`cut_inj`, `rcut_inj`).
-/

namespace Partition

variable {α : Type} [DecidableEq α] (c : α)

/-- What stands before the first `c`, and what stands behind it if there is one. -/
def partition : List α → List α × Option (List α)
  | [] => ([], none)
  | x :: l => if x = c then ([], some l) else (x :: (partition l).1, (partition l).2)

/-- What stands before the last `c` if there is one, and what stands behind it. -/
def rpartition : List α → Option (List α) × List α
  | [] => (none, [])
  | x :: l =>
    match rpartition l with
    | (some before, behind) => (some (x :: before), behind)
    | (none, behind) => if x = c then (some [], behind) else (none, x :: behind)

variable {c} {l l' x y x' y' : List α}

theorem partition_of_not_mem (h : c ∉ l) : partition c l = (l, none) := by
  induction l with
  | nil => rfl
  | cons a l ih =>
    rw [List.mem_cons, not_or] at h
    unfold partition
    rw [if_neg (Ne.symm h.1), ih h.2]

theorem partition_append (h : c ∉ x) (y : List α) : partition c (x ++ c :: y) = (x, some y) := by
  induction x with
  | nil => exact if_pos rfl
  | cons a x ih =>
    rw [List.mem_cons, not_or] at h
    rw [List.cons_append]
    unfold partition
    rw [if_neg (Ne.symm h.1), ih h.2]

theorem rpartition_of_not_mem (h : c ∉ l) : rpartition c l = (none, l) := by
  induction l with
  | nil => rfl
  | cons a l ih =>
    rw [List.mem_cons, not_or] at h
    unfold rpartition
    rw [ih h.2]
    exact if_neg (Ne.symm h.1)

theorem rpartition_append (x : List α) (h : c ∉ y) : rpartition c (x ++ c :: y) = (some x, y) := by
  induction x with
  | nil =>
    rw [List.nil_append]
    unfold rpartition
    rw [rpartition_of_not_mem h]
    exact if_pos rfl
  | cons a x ih =>
    rw [List.cons_append]
    unfold rpartition
    rw [ih]

/-- A list is cut where a separator stands last. -/
theorem exists_rcut (h : c ∈ l) : ∃ x y, l = x ++ c :: y ∧ c ∉ y := by
  induction l with
  | nil => cases h
  | cons a l ih =>
    by_cases hl : c ∈ l
    · obtain ⟨x, y, rfl, hy⟩ := ih hl
      exact ⟨a :: x, y, rfl, hy⟩
    · rcases List.mem_cons.1 h with rfl | hmem
      · exact ⟨[], l, rfl, hl⟩
      · exact absurd hmem hl

/-- **Cut at the first separator**, equal lists have equal pieces. -/
theorem cut_inj (h : c ∉ x) (h' : c ∉ x') (heq : x ++ c :: y = x' ++ c :: y') : x = x' ∧ y = y' := by
  have hcut := partition_append h y
  rw [heq, partition_append h' y'] at hcut
  obtain ⟨hx, hy⟩ := Prod.mk.inj hcut
  exact ⟨hx.symm, (Option.some.inj hy).symm⟩

/-- **Cut at the last separator**, equal lists have equal pieces. -/
theorem rcut_inj (h : c ∉ y) (h' : c ∉ y') (heq : x ++ c :: y = x' ++ c :: y') : x = x' ∧ y = y' := by
  have hcut := rpartition_append x h
  rw [heq, rpartition_append x' h'] at hcut
  obtain ⟨hx, hy⟩ := Prod.mk.inj hcut
  exact ⟨(Option.some.inj hx).symm, hy.symm⟩

/-- A piece consists of elements of the list. -/
theorem mem_of_partition {a : α} (h : a ∈ (partition c l).1) : a ∈ l := by
  induction l with
  | nil => exact h
  | cons b l ih =>
    unfold partition at h
    split at h
    · cases h
    · rcases List.mem_cons.1 h with rfl | h
      · exact List.mem_cons_self
      · exact List.mem_cons_of_mem _ (ih h)

theorem mem_of_partition_snd {a : α} (h : (partition c l).2 = some l') (ha : a ∈ l') : a ∈ l := by
  induction l with
  | nil => cases h
  | cons b l ih =>
    unfold partition at h
    split at h
    · cases h
      exact List.mem_cons_of_mem _ ha
    · exact List.mem_cons_of_mem _ (ih h)

/-! ## At a class of separators -/

omit [DecidableEq α] in
/-- What stands before the first element that `p` does not take, and from there on. -/
theorem takeWhile_cut {p : α → Bool} (hx : ∀ a ∈ x, p a = true) (hc : p c = false) (y : List α) :
    (x ++ c :: y).takeWhile p = x ∧ (x ++ c :: y).dropWhile p = c :: y := by
  constructor
  · rw [List.takeWhile_append_of_pos hx, List.takeWhile_cons_of_neg (by simp [hc]), List.append_nil]
  · rw [List.dropWhile_append_of_pos hx, List.dropWhile_cons_of_neg (by simp [hc])]

omit [DecidableEq α] in
/-- A list that `p` does not take whole is cut where it first refuses. -/
theorem exists_cut {p : α → Bool} (h : ¬ ∀ a ∈ l, p a = true) :
    ∃ x c y, l = x ++ c :: y ∧ (∀ a ∈ x, p a = true) ∧ p c = false := by
  induction l with
  | nil => exact absurd (fun _ ha => absurd ha List.not_mem_nil) h
  | cons b l ih =>
    by_cases hb : p b = true
    · have hl : ¬ ∀ a ∈ l, p a = true := fun hall => h fun a ha => by
        rcases List.mem_cons.1 ha with rfl | ha
        · exact hb
        · exact hall a ha
      obtain ⟨x, c, y, rfl, hx, hc⟩ := ih hl
      refine ⟨b :: x, c, y, rfl, fun a ha => ?_, hc⟩
      rcases List.mem_cons.1 ha with rfl | ha
      · exact hb
      · exact hx a ha
    · exact ⟨[], b, l, rfl, fun _ ha => absurd ha List.not_mem_nil, Bool.not_eq_true _ ▸ hb⟩

end Partition
