import Mathlib.Data.List.Infix

/-!
# Replacing parts of a list

A list is read from the left. Where `find` says that a match of so many elements begins, `f` of the
match takes its place and reading goes on behind it. The empty list is no match.

* `sub_split`: at an element that no match looks past, both sides are read on their own.
* `replace p r`: every occurrence of `p` is replaced by `r`. `not_infix_replace`: if `r` shares no
  element with `p`, and is not empty, then none is left.
-/

namespace Replace

variable {α : Type} (find : List α → ℕ) (f : List α → List α)

/-- `k` is what is left of the match that has been read last. -/
def subFrom : ℕ → List α → List α
  | _, [] => []
  | k + 1, _ :: l => subFrom k l
  | 0, a :: l =>
    match find (a :: l) with
    | 0 => a :: subFrom 0 l
    | n + 1 => f ((a :: l).take (n + 1)) ++ subFrom n l

def sub (l : List α) : List α := subFrom find f 0 l

variable {find f}

theorem subFrom_drop (k : ℕ) (l : List α) : subFrom find f k l = sub find f (l.drop k) := by
  induction l generalizing k with
  | nil => rw [List.drop_nil]; cases k <;> rfl
  | cons a l ih =>
    cases k with
    | zero => rfl
    | succ k => exact ih k

theorem sub_cons_of_no_match {a : α} {l : List α} (h : find (a :: l) = 0) :
    sub find f (a :: l) = a :: sub find f l := by
  show subFrom find f 0 (a :: l) = _
  unfold subFrom
  rw [h]
  rfl

theorem sub_of_match {l : List α} {n : ℕ} (h : find l = n + 1) (hl : l ≠ []) :
    sub find f l = f (l.take (n + 1)) ++ sub find f (l.drop (n + 1)) := by
  cases l with
  | nil => exact absurd rfl hl
  | cons a l =>
    show subFrom find f 0 (a :: l) = _
    unfold subFrom
    rw [h]
    show _ ++ subFrom find f n l = _
    rw [subFrom_drop]
    rfl

/-- **Splitting rule**: no match begins at `c`, and none that begins before looks at it or past it. -/
theorem sub_split {c : α} (hc : ∀ y, find (c :: y) = 0) (hpast : ∀ a x y, find (a :: x ++ c :: y) = find (a :: x))
    (hlen : ∀ x, find x ≤ x.length) (x y : List α) :
    sub find f (x ++ c :: y) = sub find f x ++ c :: sub find f y := by
  suffices h : ∀ k, k ≤ x.length →
      subFrom find f k (x ++ c :: y) = subFrom find f k x ++ c :: sub find f y by
    exact h 0 (Nat.zero_le _)
  induction x with
  | nil =>
    intro k hk
    obtain rfl : k = 0 := Nat.le_zero.1 hk
    exact sub_cons_of_no_match (hc y)
  | cons a x ih =>
    intro k hk
    cases k with
    | succ k => exact ih k (Nat.le_of_succ_le_succ hk)
    | zero =>
      have hsame := hpast a x y
      have hle := hlen (a :: x)
      cases hfind : find (a :: x) with
      | zero =>
        rw [hfind] at hsame
        have hx : subFrom find f 0 (a :: x) = a :: subFrom find f 0 x := sub_cons_of_no_match hfind
        rw [hx, List.cons_append, List.cons_append, ← ih 0 (Nat.zero_le _)]
        exact sub_cons_of_no_match hsame
      | succ n =>
        rw [hfind] at hsame hle
        have hx : subFrom find f 0 (a :: x) = f ((a :: x).take (n + 1)) ++ subFrom find f n x := by
          rw [subFrom_drop n]
          exact sub_of_match hfind (List.cons_ne_nil _ _)
        have htake : (a :: x ++ c :: y).take (n + 1) = (a :: x).take (n + 1) := List.take_append_of_le_length hle
        rw [hx, List.append_assoc, ← ih n (Nat.le_of_succ_le_succ hle), ← htake, subFrom_drop n (x ++ c :: y)]
        exact sub_of_match hsame (List.cons_ne_nil _ _)

/-! ## Occurrences of one list -/

variable [DecidableEq α] {p r : List α}

/-- The length of `p` where `p` begins. -/
def occurs (p l : List α) : ℕ := if p <+: l then p.length else 0

/-- `l.replace(p, r)`, for a `p` that is not empty. -/
def replace (p r : List α) : List α → List α := sub (occurs p) fun _ => r

/-- What a result begins with, without an element of `r`, has been copied. -/
theorem prefix_of_prefix_replace (hr : r ≠ []) {q : List α} (hq : ∀ a ∈ r, a ∉ q) :
    ∀ {l : List α}, q <+: replace p r l → q <+: l := by
  induction q with
  | nil => intro l _; exact List.nil_prefix
  | cons b q ih =>
    intro l h
    cases l with
    | nil => exact h
    | cons a l =>
      cases hfind : occurs p (a :: l) with
      | zero =>
        rw [replace, sub_cons_of_no_match hfind] at h
        obtain ⟨rfl, hprefix⟩ := List.cons_prefix_cons.1 h
        exact List.cons_prefix_cons.2 ⟨rfl, ih (fun x hx hmem => hq x hx (List.mem_cons_of_mem _ hmem)) hprefix⟩
      | succ n =>
        -- the result begins with `r`
        rw [replace, sub_of_match hfind (List.cons_ne_nil _ _)] at h
        obtain ⟨x, r', rfl⟩ := List.exists_cons_of_ne_nil hr
        obtain ⟨rfl, _⟩ := List.cons_prefix_cons.1 h
        exact absurd List.mem_cons_self (hq b List.mem_cons_self)

omit [DecidableEq α] in
/-- An occurrence in `r ++ l` of what shares nothing with `r` is one in `l`. -/
theorem infix_of_infix_append {l : List α} (hp : p ≠ []) :
    ∀ {r : List α}, (∀ a ∈ r, a ∉ p) → p <:+: r ++ l → p <:+: l := by
  intro r
  induction r with
  | nil => intro _ h; exact h
  | cons a r ih =>
    intro hr h
    rw [List.cons_append, List.infix_cons_iff] at h
    rcases h with hprefix | hinfix
    · obtain ⟨b, p', rfl⟩ := List.exists_cons_of_ne_nil hp
      obtain ⟨rfl, _⟩ := List.cons_prefix_cons.1 hprefix
      exact absurd List.mem_cons_self (hr b List.mem_cons_self)
    · exact ih (fun x hx => hr x (List.mem_cons_of_mem _ hx)) hinfix

/-- **No occurrence is left.** -/
theorem not_infix_replace (hp : p ≠ []) (hr : r ≠ []) (h : ∀ a ∈ r, a ∉ p) (l : List α) :
    ¬ p <:+: replace p r l := by
  suffices hall : ∀ k, ¬ p <:+: subFrom (occurs p) (fun _ => r) k l from hall 0
  induction l with
  | nil =>
    intro k hinfix
    have hnil : subFrom (occurs p) (fun _ => r) k [] = [] := by cases k <;> rfl
    rw [hnil] at hinfix
    exact hp (List.infix_nil.1 hinfix)
  | cons a l ih =>
    intro k
    cases k with
    | succ k => exact ih k
    | zero =>
      intro hinfix
      cases hfind : occurs p (a :: l) with
      | zero =>
        have hx : subFrom (occurs p) (fun _ => r) 0 (a :: l) = a :: replace p r l := sub_cons_of_no_match hfind
        rw [hx, List.infix_cons_iff] at hinfix
        rcases hinfix with hprefix | hinfix
        · -- then `p` stood there before
          obtain ⟨b, p', rfl⟩ := List.exists_cons_of_ne_nil hp
          obtain ⟨rfl, hrest⟩ := List.cons_prefix_cons.1 hprefix
          have hthere : b :: p' <+: b :: l := List.cons_prefix_cons.2
            ⟨rfl, prefix_of_prefix_replace hr (fun x hx hmem => h x hx (List.mem_cons_of_mem _ hmem)) hrest⟩
          rw [occurs, if_pos hthere] at hfind
          cases hfind
        · exact ih 0 hinfix
      | succ n =>
        have hx : subFrom (occurs p) (fun _ => r) 0 (a :: l) = r ++ subFrom (occurs p) (fun _ => r) n l := by
          rw [subFrom_drop n]
          exact sub_of_match hfind (List.cons_ne_nil _ _)
        rw [hx] at hinfix
        exact ih n (infix_of_infix_append hp h hinfix)

end Replace
