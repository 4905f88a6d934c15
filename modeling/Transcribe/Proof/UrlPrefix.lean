import Transcribe.Model.UrlPrefix

/-!
# The normal form of a URL path prefix

* `Squeezes`: what the collapse loop keeps, and `collapseSlashes_squeezes`, by induction on its
  rounds.
* `prefix_normal_form`: the result is in normal form, and is its own normal form, iff the last
  character of the trimmed prefix that is not a slash is not a space.
* `space_exposed`: a space before the last slash is left at the end.
-/

namespace Transcribe

/-! ## The loop -/

/-- `l'` is `l` with fewer slashes, and none of its runs of slashes is gone. -/
structure Squeezes (l l' : List Char) : Prop where
  others : (l'.filter fun c => decide (c ≠ '/')) = l.filter fun c => decide (c ≠ '/')
  head : l'.head? = l.head?
  dots : ['.', '.'] <:+: l' → ['.', '.'] <:+: l

theorem Squeezes.trans {l l' l'' : List Char} (h : Squeezes l l') (h' : Squeezes l' l'') : Squeezes l l'' :=
  ⟨h'.others.trans h.others, h'.head.trans h.head, fun hd => h.dots (h'.dots hd)⟩

theorem replaceSlashes_squeezes (l : List Char) : Squeezes l (replaceSlashes l) := by
  fun_induction replaceSlashes l with
  | case1 cs ih =>
    refine ⟨by simpa using ih.others, rfl, fun h => ?_⟩
    have hfirst : ¬ ['.', '.'] <+: '/' :: replaceSlashes cs := by
      rintro ⟨_, hpre⟩
      exact absurd (List.cons.inj hpre).1 (by decide)
    have hin := (List.infix_cons_iff.1 h).resolve_left hfirst
    exact List.infix_cons (List.infix_cons (ih.dots hin))
  | case2 c cs _ ih =>
    refine ⟨?_, rfl, fun h => ?_⟩
    · simp only [List.filter_cons, ih.others]
    · rcases List.infix_cons_iff.1 h with ⟨rest, hpre⟩ | hin
      · -- the second dot was the next character before
        obtain ⟨rfl, hrest⟩ := List.cons.inj hpre
        have hhead := ih.head
        rw [← hrest] at hhead
        cases cs with
        | nil => cases hhead
        | cons c' cs =>
          obtain rfl := Option.some.inj hhead
          exact ⟨[], cs, rfl⟩
      · exact List.infix_cons (ih.dots hin)
  | case3 => exact ⟨rfl, rfl, id⟩

theorem collapseSlashes_squeezes (l : List Char) :
    Squeezes l (collapseSlashes l) ∧ ¬ ['/', '/'] <:+: collapseSlashes l := by
  fun_induction collapseSlashes l with
  | case1 l hin ih => exact ⟨(replaceSlashes_squeezes l).trans ih.1, ih.2⟩
  | case2 l hnot => exact ⟨⟨rfl, rfl, id⟩, hnot⟩

theorem collapseSlashes_eq_self {l : List Char} (h : ¬ ['/', '/'] <:+: l) : collapseSlashes l = l := by
  unfold collapseSlashes
  exact if_neg h

/-! ## Trimming -/

/-- The last character that is not a slash. -/
def lastChar (l : List Char) : Option Char := (l.filter fun c => decide (c ≠ '/')).getLast?

theorem rstripSlashes_getLast? (l : List Char) : (rstripSlashes l).getLast? = lastChar l := by
  unfold rstripSlashes lastChar
  induction l using List.reverseRecOn with
  | nil => rfl
  | append_singleton l c ih =>
    by_cases hc : c = '/'
    · rw [List.rdropWhile_concat_pos _ _ _ (by simpa using hc), ih]
      simp [hc]
    · rw [List.rdropWhile_concat_neg _ _ _ (by simpa using hc)]
      simp [hc]

theorem strip_eq_self {l : List Char} (hhead : ∀ c, l.head? = some c → isSpace c = false)
    (hlast : ∀ c, l.getLast? = some c → isSpace c = false) : strip (String.ofList l) = String.ofList l := by
  have hdrop : l.dropWhile isSpace = l := by
    cases l with
    | nil => rfl
    | cons c l => exact List.dropWhile_cons_of_neg (by rw [hhead c rfl]; nofun)
  have hrdrop : (l.reverse.dropWhile isSpace).reverse = l := by
    refine List.rdropWhile_eq_self_iff.2 fun hne => ?_
    rw [hlast _ (List.getLast?_eq_getLast_of_ne_nil hne)]
    nofun
  unfold strip
  rw [String.toList_ofList, hdrop, hrdrop]

/-- A trimmed string does not end in a space. -/
theorem getLast?_of_strip {l : List Char} {c : Char} (h : strip (String.ofList l) = String.ofList l)
    (hc : l.getLast? = some c) : isSpace c = false := by
  have hl : ((l.dropWhile isSpace).reverse.dropWhile isSpace).reverse = l := by
    have hlist := congrArg String.toList h
    unfold strip at hlist
    simpa using hlist
  have hne : ((l.dropWhile isSpace).rdropWhile isSpace) ≠ [] := by
    intro hnil
    have hnil' : l = [] := hl.symm.trans hnil
    rw [hnil'] at hc
    cases hc
  have hlast := List.rdropWhile_last_not isSpace (l.dropWhile isSpace) hne
  have hget : ((l.dropWhile isSpace).rdropWhile isSpace).getLast? = some c := by
    have hsame : (l.dropWhile isSpace).rdropWhile isSpace = l := hl
    rw [hsame]
    exact hc
  rw [List.getLast?_eq_getLast_of_ne_nil hne] at hget
  rw [← Option.some.inj hget]
  exact Bool.eq_false_iff.2 hlast

/-! ## What is not rejected -/

/-- Neither a newline nor `..` occurs. -/
structure Clean (l : List Char) : Prop where
  newline : '\n' ∉ l
  carriageReturn : '\r' ∉ l
  dots : ¬ ['.', '.'] <:+: l

theorem clean_iff (s : String) :
    ¬ (contains s "\n" || contains s "\r" || contains s "..") = true ↔ Clean s.toList := by
  have hpat : "\n".toList = ['\n'] ∧ "\r".toList = ['\r'] ∧ "..".toList = ['.', '.'] := ⟨rfl, rfl, rfl⟩
  unfold contains
  rw [hpat.1, hpat.2.1, hpat.2.2]
  simp only [Bool.or_eq_true, decide_eq_true_eq, List.singleton_infix_iff, not_or]
  exact ⟨fun h => ⟨h.1.1, h.1.2, h.2⟩, fun h => ⟨⟨h.newline, h.carriageReturn⟩, h.dots⟩⟩

theorem Clean.of_squeezes {l l' : List Char} (h : Clean l) (hs : Squeezes l l') : Clean l' := by
  have hback : ∀ c, c ≠ '/' → c ∈ l' → c ∈ l := by
    intro c hc hmem
    have hfilter : c ∈ l'.filter fun c => decide (c ≠ '/') := List.mem_filter.2 ⟨hmem, decide_eq_true hc⟩
    rw [hs.others] at hfilter
    exact (List.mem_filter.1 hfilter).1
  exact ⟨fun hm => h.newline (hback _ (by decide) hm), fun hm => h.carriageReturn (hback _ (by decide) hm),
    fun hd => h.dots (hs.dots hd)⟩

theorem Clean.part {l l' : List Char} (h : Clean l) (hin : l' <:+: l) : Clean l' :=
  ⟨fun hm => h.newline (hin.subset hm), fun hm => h.carriageReturn (hin.subset hm), fun hd => h.dots (hd.trans hin)⟩

/-! ## The normal form -/

/-- A prefix that can be mounted: it starts with one slash and does not end in one, it has no two
slashes in a row and no space around it. -/
structure Mountable (p : String) : Prop where
  slash : p.toList.head? = some '/'
  one : p.toList[1]? ≠ some '/'
  single : contains p "//" = false
  last : p.toList.getLast? ≠ some '/'
  trimmed : strip p = p

/-- The last character of the trimmed prefix that is not a slash is not a space. -/
def Tidy (raw : String) : Prop := ∀ c, lastChar (strip raw).toList = some c → isSpace c = false

/-- What the loop works on: the trimmed string, with a slash in front. -/
def slashed (s : String) : List Char := (if startsWith s "/" then s else "/" ++ s).toList

theorem normalize_eq {raw : String} (hne : strip raw ≠ "") (hclean : Clean (strip raw).toList) :
    normalizeUrlPathPrefixStr raw = .ok (String.ofList (rstripSlashes (collapseSlashes (slashed (strip raw))))) := by
  unfold normalizeUrlPathPrefixStr
  simp only [hne, if_false]
  rw [if_neg ((clean_iff _).2 hclean)]
  rfl

theorem slashed_spec (s : String) : (slashed s).head? = some '/' ∧ lastChar (slashed s) = lastChar s.toList ∧
    (Clean s.toList → Clean (slashed s)) := by
  unfold slashed startsWith
  have hpat : "/".toList = ['/'] := rfl
  rw [hpat]
  cases hs : s.toList with
  | nil =>
    have hne : ¬ (['/'].isPrefixOf [] = true) := by simp
    rw [if_neg hne, String.toList_append, hs, hpat]
    exact ⟨rfl, rfl, fun _ => ⟨by decide, by decide, by decide⟩⟩
  | cons c cs =>
    by_cases hc : c = '/'
    · subst hc
      rw [if_pos (by simp [List.isPrefixOf]), hs]
      exact ⟨rfl, rfl, id⟩
    · have hne : ¬ (['/'].isPrefixOf (c :: cs) = true) := by simp [List.isPrefixOf, Ne.symm hc]
      rw [if_neg hne, String.toList_append, hs, hpat]
      refine ⟨rfl, ?_, fun h => ⟨?_, ?_, fun hd => ?_⟩⟩
      · unfold lastChar
        simp
      · simpa using h.newline
      · simpa using h.carriageReturn
      · rcases List.infix_cons_iff.1 hd with ⟨_, hpre⟩ | hin
        · exact absurd (List.cons.inj hpre).1 (by decide)
        · exact h.dots hin

theorem normalize_empty : normalizeUrlPathPrefixStr "" = .ok "" := by
  have hempty : strip "" = "" := by decide
  unfold normalizeUrlPathPrefixStr
  simp only [hempty, if_true]

/-- A mountable prefix is what it is normalised to. -/
theorem Mountable.normalize {p : String} (h : Mountable p) (hclean : Clean p.toList) :
    normalizeUrlPathPrefixStr p = .ok p := by
  have hne : p ≠ "" := by
    rintro rfl
    cases h.slash
  have hsingle : ¬ ['/', '/'] <:+: p.toList := by
    have hs := h.single
    unfold contains at hs
    exact of_decide_eq_false hs
  have hslashed : slashed p = p.toList := by
    unfold slashed startsWith
    have hpat : "/".toList = ['/'] := rfl
    obtain ⟨cs, hcs⟩ := List.head?_eq_some_iff.1 h.slash
    rw [hpat, if_pos (by rw [hcs]; simp)]
  have hend : rstripSlashes p.toList = p.toList := by
    refine List.rdropWhile_eq_self_iff.2 fun hne hslash => h.last ?_
    rw [List.getLast?_eq_getLast_of_ne_nil hne, of_decide_eq_true hslash]
  rw [normalize_eq (by rw [h.trimmed]; exact hne) (by rw [h.trimmed]; exact hclean), h.trimmed, hslashed,
    collapseSlashes_eq_self hsingle, hend, String.ofList_toList]

theorem normalize_inv {raw p : String} (h : normalizeUrlPathPrefixStr raw = .ok p) :
    strip raw = "" ∧ p = "" ∨ strip raw ≠ "" ∧ Clean (strip raw).toList ∧
      p = String.ofList (rstripSlashes (collapseSlashes (slashed (strip raw)))) := by
  by_cases hne : strip raw = ""
  · unfold normalizeUrlPathPrefixStr at h
    simp only [hne, if_true] at h
    exact .inl ⟨hne, (Except.ok.inj h).symm⟩
  · have hclean : Clean (strip raw).toList := by
      refine (clean_iff _).1 fun hbad => ?_
      unfold normalizeUrlPathPrefixStr at h
      simp only [hne, if_false, hbad, if_true] at h
      cases h
    rw [normalize_eq hne hclean] at h
    exact .inr ⟨hne, hclean, (Except.ok.inj h).symm⟩

/-- What is not rejected. -/
theorem normalize_ok_iff {raw : String} :
    (∃ p, normalizeUrlPathPrefixStr raw = .ok p) ↔ strip raw = "" ∨ Clean (strip raw).toList := by
  constructor
  · rintro ⟨p, h⟩
    exact (normalize_inv h).imp (fun hp => hp.1) fun hp => hp.2.1
  · intro h
    by_cases hne : strip raw = ""
    · refine ⟨"", ?_⟩
      unfold normalizeUrlPathPrefixStr
      simp only [hne, if_true]
    · exact ⟨_, normalize_eq hne (h.resolve_left hne)⟩

/-- A result that is not empty: it starts with a slash, has no two in a row, and ends in the last
character of the trimmed prefix that is not a slash. -/
theorem normalize_spec {raw p : String} (h : normalizeUrlPathPrefixStr raw = .ok p) (hp : p ≠ "") :
    p.toList.head? = some '/' ∧ p.toList.getLast? = lastChar (strip raw).toList ∧
      ¬ ['/', '/'] <:+: p.toList ∧ Clean p.toList := by
  obtain ⟨-, hclean, rfl⟩ := (normalize_inv h).resolve_left fun hempty => hp hempty.2
  obtain ⟨hhead, hlast, hcleans⟩ := slashed_spec (strip raw)
  obtain ⟨hsqueezes, hsingle⟩ := collapseSlashes_squeezes (slashed (strip raw))
  generalize hr : rstripSlashes (collapseSlashes (slashed (strip raw))) = r at hp ⊢
  have hpre : r <+: collapseSlashes (slashed (strip raw)) := hr ▸ List.rdropWhile_prefix _ _
  rw [String.toList_ofList]
  refine ⟨?_, ?_, fun hin => hsingle (hin.trans hpre.isInfix), ((hcleans hclean).of_squeezes hsqueezes).part hpre.isInfix⟩
  · cases r with
    | nil => exact absurd rfl hp
    | cons c cs =>
      obtain ⟨rest, hrest⟩ := hpre
      rw [hsqueezes.head.symm, ← hrest] at hhead
      exact hhead
  · rw [← hr, rstripSlashes_getLast?, ← hlast]
    unfold lastChar
    rw [hsqueezes.others]

/-- A result that is its own normal form has no space at its end. -/
theorem tidy_of_fixed {raw p : String} (h : normalizeUrlPathPrefixStr raw = .ok p)
    (hfixed : normalizeUrlPathPrefixStr p = .ok p) : Tidy raw := by
  intro c hc
  by_cases hp : p = ""
  · rcases normalize_inv h with ⟨hempty, -⟩ | ⟨-, -, hr⟩
    · rw [hempty] at hc
      cases hc
    · -- only slashes are left of an empty result
      have hnil : rstripSlashes (collapseSlashes (slashed (strip raw))) = [] := by
        rw [← String.toList_ofList (l := rstripSlashes _), ← hr, hp]
        rfl
      obtain ⟨-, hlast, -⟩ := slashed_spec (strip raw)
      have hsame := rstripSlashes_getLast? (collapseSlashes (slashed (strip raw)))
      unfold lastChar at hsame hlast hc
      rw [hnil, (collapseSlashes_squeezes (slashed (strip raw))).1.others, hlast, hc] at hsame
      cases hsame
  obtain ⟨hhead, hlast, hsingle, -⟩ := normalize_spec h hp
  obtain ⟨-, -, hagain⟩ := (normalize_inv hfixed).resolve_left fun hempty => hp hempty.2
  -- the result starts with a slash, so trimming it can only take from its end
  have hdrop : p.toList.dropWhile isSpace = p.toList := by
    obtain ⟨cs, hcs⟩ := List.head?_eq_some_iff.1 hhead
    rw [hcs]
    exact List.dropWhile_cons_of_neg (by decide)
  have hpre : (strip p).toList <+: p.toList := by
    unfold strip
    rw [hdrop, String.toList_ofList]
    exact List.rdropWhile_prefix _ _
  have hslashed : slashed (strip p) = (strip p).toList := by
    unfold slashed startsWith
    have hpat : "/".toList = ['/'] := rfl
    have hne : (strip p).toList ≠ [] := by
      intro hnil
      have hempty : strip p = "" := String.toList_eq_nil_iff.1 hnil
      rcases normalize_inv hfixed with ⟨-, hp'⟩ | ⟨hne, -⟩
      · exact hp hp'
      · exact hne hempty
    obtain ⟨d, ds, hds⟩ := List.exists_cons_of_ne_nil hne
    obtain ⟨rest, hrest⟩ := hpre
    rw [← hrest, hds] at hhead
    obtain rfl := Option.some.inj hhead
    rw [hpat, if_pos (by rw [hds]; simp)]
  have hback : p.toList <+: (strip p).toList := by
    rw [hslashed, collapseSlashes_eq_self fun hin => hsingle (hin.trans hpre.isInfix)] at hagain
    have hlist := congrArg String.toList hagain
    rw [String.toList_ofList] at hlist
    rw [hlist]
    exact List.rdropWhile_prefix _ _
  have htrimmed : strip p = p := String.toList_inj.1 (hpre.eq_of_length (Nat.le_antisymm hpre.length_le hback.length_le))
  rw [← hlast] at hc
  have hofList : strip (String.ofList p.toList) = String.ofList p.toList := by
    rw [String.ofList_toList, htrimmed]
  exact getLast?_of_strip hofList hc

/-- Where no space is left the result can be mounted, and is its own normal form. -/
theorem mountable_of_tidy {raw p : String} (h : normalizeUrlPathPrefixStr raw = .ok p) (htidy : Tidy raw) :
    (p = "" ∨ Mountable p) ∧ normalizeUrlPathPrefixStr p = .ok p := by
  by_cases hp : p = ""
  · subst hp
    exact ⟨.inl rfl, normalize_empty⟩
  obtain ⟨hhead, hlast, hsingle, hclean⟩ := normalize_spec h hp
  have htrimmed : strip p = p := by
    have hstrip : strip (String.ofList p.toList) = String.ofList p.toList := by
      refine strip_eq_self (fun d hd => ?_) fun d hd => htidy d (hlast.symm.trans hd)
      obtain rfl := Option.some.inj (hhead.symm.trans hd)
      rfl
    rwa [String.ofList_toList] at hstrip
  have hmount : Mountable p := by
    refine ⟨hhead, fun hone => ?_, ?_, fun hend => ?_, htrimmed⟩
    · obtain ⟨cs, hcs⟩ := List.head?_eq_some_iff.1 hhead
      rw [hcs] at hone hsingle
      cases cs with
      | nil => cases hone
      | cons d ds =>
        obtain rfl := Option.some.inj hone
        exact hsingle ⟨[], ds, rfl⟩
    · exact decide_eq_false hsingle
    · rw [hlast] at hend
      have hmem := List.mem_of_getLast? hend
      exact absurd rfl (of_decide_eq_true (List.mem_filter.1 hmem).2)
  exact ⟨.inr hmount, hmount.normalize hclean⟩

/-- **The normal form of a prefix**: what is not rejected is empty or can be mounted, and is its
own normal form, iff no space is left where the trailing slashes were. -/
theorem prefix_normal_form {raw p : String} (h : normalizeUrlPathPrefixStr raw = .ok p) :
    ((p = "" ∨ Mountable p) ∧ normalizeUrlPathPrefixStr p = .ok p) ↔ Tidy raw :=
  ⟨fun hp => tidy_of_fixed h hp.2, mountable_of_tidy h⟩

/-- `abc` is mounted as `/abc`. -/
theorem abc_mounted : ("/abc" = "" ∨ Mountable "/abc") ∧ normalizeUrlPathPrefixStr "/abc" = .ok "/abc" := by
  have hclean : Clean (strip "abc").toList := (clean_iff _).1 (by decide)
  have hsingle : ¬ ['/', '/'] <:+: slashed (strip "abc") := by decide
  have hnormal : normalizeUrlPathPrefixStr "abc" = .ok "/abc" := by
    rw [normalize_eq (by decide) hclean, collapseSlashes_eq_self hsingle]
    rfl
  refine (prefix_normal_form hnormal).2 fun c hc => ?_
  have hlast : lastChar (strip "abc").toList = some 'c' := by decide
  obtain rfl := Option.some.inj (hlast.symm.trans hc)
  rfl

/-- **A space before the last slash is left at the end**: `Settings` stores `/abc` with a space, and
`create_app` mounts `/abc`. -/
theorem space_exposed : normalizeUrlPathPrefixStr "/abc /" = .ok "/abc " ∧
    normalizeUrlPathPrefixStr "/abc " = .ok "/abc" ∧
    ¬ (("/abc " = "" ∨ Mountable "/abc ") ∧ normalizeUrlPathPrefixStr "/abc " = .ok "/abc ") := by
  have hclean : Clean (strip "/abc /").toList := (clean_iff _).1 (by decide)
  have hsingle : ¬ ['/', '/'] <:+: slashed (strip "/abc /") := by decide
  have hclean' : Clean (strip "/abc ").toList := (clean_iff _).1 (by decide)
  have hsingle' : ¬ ['/', '/'] <:+: slashed (strip "/abc ") := by decide
  have hfirst : normalizeUrlPathPrefixStr "/abc /" = .ok "/abc " := by
    rw [normalize_eq (by decide) hclean, collapseSlashes_eq_self hsingle]
    rfl
  have hsecond : normalizeUrlPathPrefixStr "/abc " = .ok "/abc" := by
    rw [normalize_eq (by decide) hclean', collapseSlashes_eq_self hsingle']
    rfl
  refine ⟨hfirst, hsecond, fun ⟨_, hsame⟩ => ?_⟩
  rw [hsecond] at hsame
  exact absurd (Except.ok.inj hsame) (by decide)

end Transcribe
