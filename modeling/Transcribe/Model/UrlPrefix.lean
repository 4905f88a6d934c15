import Mathlib.Data.List.DropRight
import Transcribe.Model.Scope
import Transcribe.Model.Settings

/-!
# The URL path prefix

`normalize_url_path_prefix_str` of `config/settings.py`. `Settings` stores what it returns, and
`create_app` mounts what it returns for the stored prefix.
-/

namespace Transcribe

/-- `s.replace("//", "/")`. -/
def replaceSlashes : List Char → List Char
  | '/' :: '/' :: cs => '/' :: replaceSlashes cs
  | c :: cs => c :: replaceSlashes cs
  | [] => []

theorem replaceSlashes_length (l : List Char) : (replaceSlashes l).length ≤ l.length := by
  fun_induction replaceSlashes l with
  | case1 cs ih =>
    simp only [List.length_cons]
    omega
  | case2 c cs _ ih =>
    simp only [List.length_cons]
    omega
  | case3 => exact Nat.le_refl _

/-- A round of the loop shortens the string. -/
theorem replaceSlashes_shorter {l : List Char} (h : ['/', '/'] <:+: l) : (replaceSlashes l).length < l.length := by
  fun_induction replaceSlashes l with
  | case1 cs ih =>
    have hle := replaceSlashes_length cs
    simp only [List.length_cons]
    omega
  | case2 c cs hne ih =>
    rcases List.infix_cons_iff.1 h with ⟨rest, hpre⟩ | hin
    · obtain ⟨rfl, rfl⟩ := List.cons.inj hpre
      exact absurd rfl (hne rest rfl)
    · have hlt := ih hin
      simp only [List.length_cons]
      omega
  | case3 =>
    have hnil := List.infix_nil.1 h
    cases hnil

/-- `while "//" in s: s = s.replace("//", "/")`. -/
def collapseSlashes (l : List Char) : List Char :=
  if ['/', '/'] <:+: l then collapseSlashes (replaceSlashes l) else l
termination_by l.length
decreasing_by exact replaceSlashes_shorter ‹_›

/-- `s.rstrip("/")`. -/
def rstripSlashes (l : List Char) : List Char := l.rdropWhile fun c => decide (c = '/')

/-- `normalize_url_path_prefix_str`. -/
def normalizeUrlPathPrefixStr (raw : String) : Except String String :=
  let s := strip raw
  if s = "" then .ok ""
  else if contains s "\n" || contains s "\r" || contains s ".." then
    .error "URL_PATH_PREFIX must not contain '..' or newline characters"
  else
    let s := if startsWith s "/" then s else "/" ++ s
    .ok (String.ofList (rstripSlashes (collapseSlashes s.toList)))

end Transcribe
