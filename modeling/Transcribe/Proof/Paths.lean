import Transcribe.Model.Scope

/-!
# Two readings of a path

The guard and the router strip the mount prefix each in its own way, then test for the
session route: the guard by equality, the router by a regular expression.

* `getRoutePath_of_guarded`: a path the guard takes for the route is one for the router.
* `routed_iff`: the router takes one path more, the route with a newline at the end.
* `normalize_of_reaches`: on a path that reaches the inner app both strip the same.
-/

namespace Transcribe

/-- A match ends at the end or just before a newline at the end. -/
theorem matchesExactly_iff {lit s : String} :
    matchesExactly lit s = true ↔ s = lit ∨ s = lit ++ "\n" := by
  unfold matchesExactly startsWith
  rw [Bool.and_eq_true, List.isPrefixOf_iff_prefix, Bool.or_eq_true, decide_eq_true_iff,
    decide_eq_true_iff, ← String.toList_inj, ← String.toList_inj, String.toList_append]
  constructor
  · rintro ⟨⟨rest, hrest⟩, h⟩
    rw [← hrest, ← String.length_toList, List.drop_left] at h
    rcases h with rfl | rfl
    · exact .inl (by rw [← hrest, List.append_nil])
    · exact .inr hrest.symm
  · rintro (h | h)
    · rw [h, ← String.length_toList]
      exact ⟨List.prefix_refl _, .inl (List.drop_length)⟩
    · rw [h, ← String.length_toList, List.drop_left]
      exact ⟨List.prefix_append _ _, .inr rfl⟩

theorem toList_sliceFrom (s : String) (n : ℕ) : (sliceFrom s n).toList = s.toList.drop n :=
  String.toList_ofList

namespace Scope

variable {s : Scope}

/-- **The router takes the route, and the route with a newline at the end.** -/
theorem routed_iff : s.routed = true ↔ s.getRoutePath = wsPath ∨ s.getRoutePath = wsPath ++ "\n" :=
  matchesExactly_iff

/-- The router strips the prefix as the guard does where a slash follows it. -/
theorem getRoutePath_of_slash {rest : List Char} (hroot : s.rootPath ≠ "")
    (hpath : s.path.toList = s.rootPath.toList ++ '/' :: rest) :
    s.getRoutePath = String.ofList ('/' :: rest) := by
  have hstart : startsWith s.path s.rootPath = true := by
    unfold startsWith
    rw [List.isPrefixOf_iff_prefix, hpath]
    exact List.prefix_append _ _
  have hne : s.path ≠ s.rootPath := by
    intro h
    have hlen := congrArg List.length hpath
    rw [h] at hlen
    simp at hlen
  have hslash : s.path.toList[s.rootPath.length]? = some '/' := by
    rw [hpath, ← String.length_toList]
    simp
  unfold getRoutePath
  rw [if_neg hroot, if_neg (not_not.2 hstart), if_neg hne, if_pos hslash, ← String.toList_inj,
    toList_sliceFrom, String.toList_ofList, hpath, ← String.length_toList, List.drop_left]

/-- **A path the guard takes for the session route is one for the router.** -/
theorem getRoutePath_of_guarded (h : s.normalizeWsPath = wsPath) : s.getRoutePath = wsPath := by
  unfold normalizeWsPath at h
  split at h
  · next hroot =>
    obtain ⟨hroot, hstart⟩ := hroot
    have htrim : sliceFrom s.path s.rootPath.length = wsPath := by
      simp only at h
      split at h
      · exact absurd h (by decide)
      · exact h
    unfold startsWith at hstart
    rw [List.isPrefixOf_iff_prefix] at hstart
    obtain ⟨rest, hrest⟩ := hstart
    have hdrop : rest = wsPath.toList := by
      rw [← htrim, toList_sliceFrom, ← hrest, ← String.length_toList, List.drop_left]
    have hws : wsPath.toList = '/' :: wsPath.toList.tail := by decide
    rw [hdrop, hws] at hrest
    rw [getRoutePath_of_slash hroot hrest.symm, ← hws, String.ofList_toList]
  · next hroot =>
    have hp : s.getRoutePath = s.path := by
      unfold getRoutePath
      by_cases hr : s.rootPath = ""
      · rw [if_pos hr]
      · have hstart : ¬ startsWith s.path s.rootPath = true := fun hs => hroot ⟨hr, hs⟩
        rw [if_neg hr, if_pos hstart]
    rw [hp, h]

/-- **On a path that reaches the inner app the guard and the router strip the same.** -/
theorem normalize_of_reaches (h : s.Reaches) : s.normalizeWsPath = s.getRoutePath := by
  obtain ⟨-, hroot | hslash⟩ := h
  · unfold normalizeWsPath getRoutePath
    simp [hroot]
  · by_cases hroot : s.rootPath = ""
    · unfold normalizeWsPath getRoutePath
      simp [hroot]
    · unfold startsWith at hslash
      rw [List.isPrefixOf_iff_prefix, String.toList_append] at hslash
      obtain ⟨rest, hrest⟩ := hslash
      have hpath : s.path.toList = s.rootPath.toList ++ '/' :: rest := by
        rw [← hrest, List.append_assoc]; rfl
      have htrim : sliceFrom s.path s.rootPath.length = String.ofList ('/' :: rest) := by
        rw [← String.toList_inj, toList_sliceFrom, hpath, ← String.length_toList, List.drop_left,
          String.toList_ofList]
      have hstart : startsWith s.path s.rootPath = true := by
        unfold startsWith
        rw [List.isPrefixOf_iff_prefix, hpath]
        exact List.prefix_append _ _
      have hne : String.ofList ('/' :: rest) ≠ "" := by
        intro he
        have := congrArg String.toList he
        simp at this
      rw [getRoutePath_of_slash hroot hpath]
      unfold normalizeWsPath
      rw [if_pos ⟨hroot, hstart⟩, htrim]
      simp only [if_neg hne]

end Scope

end Transcribe
