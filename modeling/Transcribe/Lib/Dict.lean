import Mathlib.Algebra.GroupWithZero.Nat
import Mathlib.Data.List.Nodup
import Mathlib.Tactic.Common

/-!
# Dictionaries in insertion order

A dictionary is the list of its items, each key once; setting a key that is there keeps its
place. `get?_set`, `get?_pop` and `get?_update` say what a key has afterwards, and `get?_edits`
what a run of edits leaves; `Proper.set` and its likes that each key still occurs once.
`get?_perm`: the order does not matter. `keys_update`: new keys stand behind those that are there.
`reading_eq`: where keys are read up to a normal form, the spelling that stands last decides.
-/

/-- A dictionary with keys `κ` and values `α`. -/
abbrev Dict (κ α : Type) : Type := List (κ × α)

namespace Dict

variable {κ α β : Type} [DecidableEq κ]

/-- `d.get(key)`. -/
def get? : Dict κ α → κ → Option α
  | [], _ => none
  | e :: d, k => if e.1 = k then some e.2 else get? d k

/-- `d[key] = value`. -/
def set : Dict κ α → κ → α → Dict κ α
  | [], k, v => [(k, v)]
  | e :: d, k, v => if e.1 = k then (k, v) :: d else e :: set d k v

/-- `d.pop(key, None)`. -/
def pop (d : Dict κ α) (k : κ) : Dict κ α := d.filter fun e => decide (e.1 ≠ k)

/-- `d.update(items)`. -/
def update (d items : Dict κ α) : Dict κ α := items.foldl (fun d e => d.set e.1 e.2) d

omit [DecidableEq κ] in
/-- Each key occurs once. -/
def Proper (d : Dict κ α) : Prop := (d.map Prod.fst).Nodup

variable {d d' : Dict κ α} {k k' : κ} {v : α}

@[simp] theorem get?_nil : get? ([] : Dict κ α) k = none := rfl

theorem get?_cons (e : κ × α) : get? (e :: d) k = if e.1 = k then some e.2 else get? d k := rfl

theorem get?_set : (d.set k v).get? k' = if k = k' then some v else d.get? k' := by
  induction d with
  | nil => rfl
  | cons e d ih =>
    unfold set
    by_cases he : e.1 = k
    · rw [if_pos he, get?_cons, get?_cons]
      by_cases hk : k = k'
      · rw [if_pos hk, if_pos hk]
      · rw [if_neg hk, if_neg hk, if_neg (he ▸ hk)]
    · rw [if_neg he, get?_cons, get?_cons, ih]
      by_cases hk : k = k'
      · rw [if_pos hk, if_pos hk, if_neg (hk ▸ he)]
      · rw [if_neg hk, if_neg hk]

theorem get?_pop : (d.pop k).get? k' = if k = k' then none else d.get? k' := by
  induction d with
  | nil => split <;> rfl
  | cons e d ih =>
    unfold pop at ih ⊢
    by_cases he : e.1 = k
    · rw [List.filter_cons_of_neg (by simpa using he), ih, get?_cons]
      by_cases hk : k = k'
      · rw [if_pos hk, if_pos hk]
      · rw [if_neg hk, if_neg hk, if_neg (he ▸ hk)]
    · rw [List.filter_cons_of_pos (by simpa using he), get?_cons, get?_cons, ih]
      by_cases hk : k = k'
      · rw [if_pos hk, if_pos hk, if_neg (hk ▸ he)]
      · rw [if_neg hk, if_neg hk]

/-! ## Items and keys -/

theorem get?_eq_none : d.get? k = none ↔ k ∉ d.map Prod.fst := by
  induction d with
  | nil => simp
  | cons e d ih =>
    rw [get?_cons, List.map_cons, List.mem_cons, not_or, ← ih]
    by_cases he : e.1 = k
    · rw [if_pos he]
      exact iff_of_false nofun fun h => h.1 he.symm
    · rw [if_neg he]
      exact (and_iff_right (Ne.symm he)).symm

theorem mem_of_get? (h : d.get? k = some v) : (k, v) ∈ d := by
  induction d with
  | nil => cases h
  | cons e d ih =>
    rw [get?_cons] at h
    by_cases he : e.1 = k
    · rw [if_pos he] at h
      rw [← he, ← Option.some.inj h]
      exact List.mem_cons_self
    · rw [if_neg he] at h
      exact List.mem_cons_of_mem _ (ih h)

theorem get?_of_mem (hd : d.Proper) (h : (k, v) ∈ d) : d.get? k = some v := by
  induction d with
  | nil => cases h
  | cons e d ih =>
    unfold Proper at hd
    rw [List.map_cons, List.nodup_cons] at hd
    rw [get?_cons]
    rcases List.mem_cons.1 h with rfl | hmem
    · exact if_pos rfl
    · have hne : e.1 ≠ k := by
        rintro rfl
        exact hd.1 (List.mem_map.2 ⟨_, hmem, rfl⟩)
      rw [if_neg hne]
      exact ih hd.2 hmem

/-- **The order of the items does not matter.** -/
theorem get?_perm (hd : d.Proper) (h : d.Perm d') : d'.get? k = d.get? k := by
  have hd' : d'.Proper := (h.map _).nodup_iff.1 hd
  cases hv : d.get? k with
  | some v => exact get?_of_mem hd' (h.subset (mem_of_get? hv))
  | none =>
    rw [get?_eq_none] at hv ⊢
    exact fun hmem => hv ((h.map _).symm.subset hmem)

omit [DecidableEq κ] in
theorem Proper.nil : Proper ([] : Dict κ α) := List.nodup_nil

theorem mem_keys_set : k' ∈ (d.set k v).map Prod.fst ↔ k' = k ∨ k' ∈ d.map Prod.fst := by
  rw [← not_iff_not, ← get?_eq_none, get?_set, not_or, ← get?_eq_none]
  by_cases hk : k = k'
  · rw [if_pos hk]
    exact iff_of_false nofun fun h => h.1 hk.symm
  · rw [if_neg hk]
    exact (and_iff_right (Ne.symm hk)).symm

theorem Proper.set (hd : d.Proper) (k : κ) (v : α) : (d.set k v).Proper := by
  induction d with
  | nil => exact List.nodup_singleton _
  | cons e d ih =>
    unfold Proper at hd ih ⊢
    rw [List.map_cons, List.nodup_cons] at hd
    unfold Dict.set
    by_cases he : e.1 = k
    · rw [if_pos he, List.map_cons, List.nodup_cons, ← he]
      exact hd
    · rw [if_neg he, List.map_cons, List.nodup_cons, mem_keys_set, not_or]
      exact ⟨⟨he, hd.1⟩, ih hd.2⟩

theorem Proper.pop (hd : d.Proper) (k : κ) : (d.pop k).Proper := hd.sublist (List.filter_sublist.map _)

/-! ## Updates -/

/-- After an update a key has what the new items say, or what it had. -/
theorem get?_update {items : Dict κ α} (hi : items.Proper) :
    (d.update items).get? k = (items.get? k).or (d.get? k) := by
  induction items generalizing d with
  | nil => rfl
  | cons e items ih =>
    unfold Proper at hi
    rw [List.map_cons, List.nodup_cons] at hi
    have hcons : d.update (e :: items) = (d.set e.1 e.2).update items := rfl
    rw [hcons, ih hi.2, get?_set, get?_cons]
    by_cases he : e.1 = k
    · rw [if_pos he, if_pos he, get?_eq_none.2 (he ▸ hi.1)]
      rfl
    · rw [if_neg he, if_neg he]

theorem Proper.update {items : Dict κ α} (hd : d.Proper) : (d.update items).Proper := by
  induction items generalizing d with
  | nil => exact hd
  | cons e items ih => exact ih (hd.set _ _)

theorem keys_set : (d.set k v).map Prod.fst = d.map Prod.fst ++ if k ∈ d.map Prod.fst then [] else [k] := by
  induction d with
  | nil => rfl
  | cons e d ih =>
    unfold set
    rw [List.map_cons]
    by_cases he : e.1 = k
    · rw [if_pos he, if_pos (he ▸ List.mem_cons_self), List.append_nil, List.map_cons, he]
    · have hmem : k ∈ e.1 :: d.map Prod.fst ↔ k ∈ d.map Prod.fst := by simp [Ne.symm he]
      rw [if_neg he, List.map_cons, ih]
      simp only [hmem, List.cons_append]

/-- **An update keeps the keys in their places and puts the new ones behind.** -/
theorem keys_update {items : Dict κ α} (hi : items.Proper) :
    (d.update items).map Prod.fst =
      d.map Prod.fst ++ (items.map Prod.fst).filter fun k => decide (k ∉ d.map Prod.fst) := by
  induction items generalizing d with
  | nil => exact (List.append_nil _).symm
  | cons e items ih =>
    unfold Proper at hi
    rw [List.map_cons, List.nodup_cons] at hi
    have hcons : d.update (e :: items) = (d.set e.1 e.2).update items := rfl
    rw [hcons, ih hi.2, List.map_cons, keys_set]
    by_cases he : e.1 ∈ d.map Prod.fst
    · rw [if_pos he, List.append_nil, List.filter_cons_of_neg (by simpa using he)]
    · have hrest : ((items.map Prod.fst).filter fun k => decide (k ∉ d.map Prod.fst ++ [e.1])) =
          (items.map Prod.fst).filter fun k => decide (k ∉ d.map Prod.fst) := by
        refine List.filter_congr fun k hk => ?_
        have hne : k ≠ e.1 := fun heq => hi.1 (heq ▸ hk)
        simp [hne]
      rw [if_neg he, hrest, List.filter_cons_of_pos (by simpa using he), List.append_assoc]
      rfl

/-! ## Weights -/

/-- The weights of the values, added up. -/
def weight (f : α → ℕ) (d : Dict κ α) : ℕ := (d.map fun e => f e.2).sum

variable {f g : α → ℕ}

omit [DecidableEq κ] in
theorem weight_cons (e : κ × α) : weight f (e :: d) = f e.2 + weight f d := by simp [weight]

omit [DecidableEq κ] in
theorem weight_congr (h : ∀ e ∈ d, f e.2 = g e.2) : weight f d = weight g d :=
  congrArg List.sum (List.map_congr_left h)

theorem pop_of_not_mem (h : k ∉ d.map Prod.fst) : d.pop k = d :=
  List.filter_eq_self.2 fun _ he => decide_eq_true fun heq => h (heq ▸ List.mem_map_of_mem he)

/-- What a key weighs is what its removal takes away. -/
theorem weight_pop (hd : d.Proper) : weight f d = weight f (d.pop k) + ((d.get? k).elim 0 f) := by
  induction d with
  | nil => rfl
  | cons e d ih =>
    unfold Proper at hd ih
    rw [List.map_cons, List.nodup_cons] at hd
    rw [get?_cons, weight_cons]
    by_cases he : e.1 = k
    · have hpop : pop (e :: d) k = d := by
        unfold pop
        rw [List.filter_cons_of_neg (by simpa using he)]
        exact pop_of_not_mem (he ▸ hd.1)
      rw [if_pos he, hpop, Option.elim_some, Nat.add_comm]
    · have hpop : pop (e :: d) k = e :: pop d k := List.filter_cons_of_pos (by simpa using he)
      rw [if_neg he, hpop, weight_cons, ih hd.2, Nat.add_assoc]

theorem pop_set (d : Dict κ α) (k : κ) (v : α) : (d.set k v).pop k = d.pop k := by
  induction d with
  | nil => simp [set, pop]
  | cons e d ih =>
    unfold pop at ih ⊢
    unfold set
    by_cases he : e.1 = k
    · rw [if_pos he, List.filter_cons_of_neg (by simp), List.filter_cons_of_neg (by simpa using he)]
    · rw [if_neg he, List.filter_cons_of_pos (by simpa using he), List.filter_cons_of_pos (by simpa using he), ih]

/-! ## Edits -/

/-- Sets a key, or removes it. -/
def edit (d : Dict κ α) (e : κ × Option α) : Dict κ α :=
  match e.2 with
  | some v => d.set e.1 v
  | none => d.pop e.1

/-- What the last item with the key says. -/
def last? : List (κ × β) → κ → Option β
  | [], _ => none
  | e :: es, k => (last? es k).or (if e.1 = k then some e.2 else none)

theorem last?_cons (e : κ × β) (es : List (κ × β)) :
    last? (e :: es) k = (last? es k).or (if e.1 = k then some e.2 else none) := rfl

theorem get?_edit (e : κ × Option α) : (d.edit e).get? k = if e.1 = k then e.2 else d.get? k := by
  unfold edit
  cases e.2 with
  | some v => exact get?_set
  | none => exact get?_pop

/-- **After a run of edits a key is as the last edit of it left it.** -/
theorem get?_edits (edits : List (κ × Option α)) :
    (edits.foldl edit d).get? k = (last? edits k).getD (d.get? k) := by
  induction edits generalizing d with
  | nil => rfl
  | cons e edits ih =>
    rw [List.foldl_cons, ih, get?_edit, last?_cons]
    cases last? edits k with
    | some o => rfl
    | none => split <;> rfl

theorem last?_map (f : α → β) (items : List (κ × α)) :
    last? (items.map fun e => (e.1, f e.2)) k = (last? items k).map f := by
  induction items with
  | nil => rfl
  | cons e items ih =>
    rw [List.map_cons, last?_cons, last?_cons, ih]
    cases last? items k with
    | some v => rfl
    | none => split <;> rfl

theorem mem_of_last? {items : List (κ × α)} (h : last? items k = some v) : (k, v) ∈ items := by
  induction items with
  | nil => cases h
  | cons e items ih =>
    rw [last?_cons] at h
    rcases Option.or_eq_some_iff.1 h with hlast | ⟨-, hhead⟩
    · exact List.mem_cons_of_mem _ (ih hlast)
    · split at hhead
      next he =>
        rw [← he, ← Option.some.inj hhead]
        exact List.mem_cons_self
      next => cases hhead

theorem Proper.edits (hd : d.Proper) (edits : List (κ × Option α)) : (edits.foldl edit d).Proper := by
  induction edits generalizing d with
  | nil => exact hd
  | cons e edits ih =>
    refine ih ?_
    unfold edit
    cases e.2 with
    | some v => exact hd.set _ _
    | none => exact hd.pop _

/-! ## Keys up to a normal form -/

section Reading

variable {ν : Type} [DecidableEq ν] (f : κ → ν) (d : Dict κ α) (n : ν)

/-- What is read under the name `n` where keys are compared by their normal form; of several
the last counts. -/
def reading : Option α := last? (d.map fun e => (f e.1, e.2)) n

omit [DecidableEq κ] in
/-- The last of the keys with normal form `n`. -/
def spelling (keys : List κ) : Option κ := (keys.filter fun k => decide (f k = n)).getLast?

variable {f d n}

omit [DecidableEq κ] in
theorem spelling_append (keys keys' : List κ) :
    spelling f n (keys ++ keys') = (spelling f n keys').or (spelling f n keys) := by
  unfold spelling
  rw [List.filter_append, List.getLast?_append]

omit [DecidableEq κ] in
theorem spelling_eq_none {keys : List κ} : spelling f n keys = none ↔ ∀ k ∈ keys, f k ≠ n := by
  unfold spelling
  rw [List.getLast?_eq_none_iff, List.filter_eq_nil_iff]
  simp

omit [DecidableEq κ] in
theorem mem_of_spelling {keys : List κ} {k : κ} (h : spelling f n keys = some k) : k ∈ keys ∧ f k = n := by
  have hmem := List.mem_filter.1 (List.mem_of_getLast? h)
  exact ⟨hmem.1, of_decide_eq_true hmem.2⟩

/-- **The spelling that stands last decides.** -/
theorem reading_eq (hd : d.Proper) : reading f d n = (spelling f n (d.map Prod.fst)).bind d.get? := by
  induction d with
  | nil => rfl
  | cons e d ih =>
    unfold Proper at hd ih
    rw [List.map_cons, List.nodup_cons] at hd
    have hread : reading f (e :: d) n = (reading f d n).or (if f e.1 = n then some e.2 else none) := rfl
    have hhead : spelling f n [e.1] = if f e.1 = n then some e.1 else none := by
      unfold spelling
      split <;> simp [*]
    rw [hread, ih hd.2, List.map_cons, ← List.singleton_append, spelling_append, hhead]
    cases hlast : spelling f n (d.map Prod.fst) with
    | none =>
      rw [Option.bind_none, Option.none_or, Option.none_or]
      split
      · rw [Option.bind_some, get?_cons, if_pos rfl]
      · rfl
    | some k =>
      have hk := (mem_of_spelling hlast).1
      have hne : e.1 ≠ k := by
        rintro rfl
        exact hd.1 hk
      obtain ⟨v, hv⟩ := Option.ne_none_iff_exists'.1 fun hnone => get?_eq_none.1 hnone hk
      rw [Option.some_or, Option.bind_some, Option.bind_some, get?_cons, if_neg hne, hv, Option.some_or]

end Reading

/-! ## Values -/

theorem get?_map (f : α → β) : get? (d.map fun e => (e.1, f e.2)) k = (d.get? k).map f := by
  induction d with
  | nil => rfl
  | cons e d ih =>
    rw [List.map_cons, get?_cons, get?_cons, ih]
    split <;> rfl

omit [DecidableEq κ] in
theorem Proper.map (hd : d.Proper) (f : α → β) : Proper (d.map fun e => (e.1, f e.2)) := by
  unfold Proper at hd ⊢
  rwa [List.map_map, show (Prod.fst ∘ fun e : κ × α => (e.1, f e.2)) = Prod.fst from rfl]

end Dict
