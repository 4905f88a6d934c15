import Transcribe.Model.RedactText
import Transcribe.Proof.Lifecycle
import Transcribe.Proof.RedisUrl

/-!
# What a redacted text shows

* `redact_split`: a text is redacted word by word.
* `redact_url`: a URL that is a word is replaced by what `_mask_redis_url` makes of it.
* `text_redaction`: so the redacted URL stands there iff the password stays inside the network location.
* `secret_gone`: a secret without asterisks does not stand in the result, whatever the text.
* `redis_error_redacted`: so the text of the error that the check of Redis raises does not have the
  password from the client's error.
-/

namespace Transcribe

open Replace

/-! ## Words -/

/-- A character that ends a URL stands in none of the letters before. -/
theorem sameLetter_stop {a c : Char} (ha : a ∈ "redis://".toList) (hc : inUrl c = false) : sameLetter a c = false := by
  rw [← Bool.not_eq_true]
  intro h
  have hcases : c = a ∨ c = a.toUpper ∨ c.toNat = 0x130 ∨ c.toNat = 0x131 ∨ c.toNat = 0x17F := by
    simp only [sameLetter, Bool.or_eq_true, Bool.and_eq_true, decide_eq_true_eq] at h
    tauto
  have hall : ("redis://".toList.all fun a => inUrl a && inUrl a.toUpper) = true := by decide
  have hletters : ∀ a ∈ "redis://".toList, inUrl a = true ∧ inUrl a.toUpper = true :=
    fun a ha => Bool.and_eq_true_iff.1 (List.all_eq_true.1 hall a ha)
  rcases hcases with rfl | rfl | hn | hn | hn
  · rw [(hletters _ ha).1] at hc
    cases hc
  · rw [(hletters _ ha).2] at hc
    cases hc
  all_goals
    have hne : c ≠ ']' := by
      rintro rfl
      exact absurd hn (by decide)
    simp [inUrl, isSpace, hn, hne] at hc

theorem literal_length {pattern : List Char} : ∀ {t rest : Text}, literal pattern t = some rest →
    t.length = pattern.length + rest.length := by
  induction pattern with
  | nil =>
    intro t rest h
    cases h
    exact (Nat.zero_add _).symm
  | cons a pattern ih =>
    intro t rest h
    cases t with
    | nil => cases h
    | cons c t =>
      unfold literal at h
      split at h
      · have hlen := ih h
        simp only [List.length_cons]
        omega
      · cases h

/-- A pattern does not look past a character that none of its letters matches. -/
theorem literal_append {pattern : List Char} {c : Char} (hc : ∀ a ∈ pattern, sameLetter a c = false) (y : Text) :
    ∀ t : Text, literal pattern (t ++ c :: y) = (literal pattern t).map (· ++ c :: y) := by
  induction pattern with
  | nil => intro t; cases t <;> rfl
  | cons a pattern ih =>
    intro t
    cases t with
    | nil =>
      show (if sameLetter a c then literal pattern y else none) = none
      rw [hc a List.mem_cons_self]
      rfl
    | cons b t =>
      show (if sameLetter a b then literal pattern (t ++ c :: y) else none) =
        (if sameLetter a b then literal pattern t else none).map (· ++ c :: y)
      rw [ih fun x hx => hc x (List.mem_cons_of_mem _ hx)]
      split <;> rfl

theorem takeWhile_stop {c : Char} (hc : inUrl c = false) (t y : Text) :
    (t ++ c :: y).takeWhile inUrl = t.takeWhile inUrl := by
  induction t with
  | nil => simp [List.takeWhile, hc]
  | cons a t ih =>
    rw [List.cons_append, List.takeWhile_cons, List.takeWhile_cons, ih]

theorem redisUrlInText_stop {c : Char} (hc : inUrl c = false) (y : Text) : redisUrlInText (c :: y) = 0 := by
  have hr : literal "redis".toList (c :: y) = none := by
    show (if sameLetter 'r' c then _ else none) = none
    rw [sameLetter_stop (by decide) hc]
    rfl
  unfold redisUrlInText
  rw [hr]

theorem redisUrlInText_append {c : Char} (hc : inUrl c = false) (x y : Text) :
    redisUrlInText (x ++ c :: y) = redisUrlInText x := by
  have hletters : ∀ {pattern : List Char}, pattern ⊆ "redis://".toList → ∀ t,
      literal pattern (t ++ c :: y) = (literal pattern t).map (· ++ c :: y) :=
    fun hsub => literal_append (fun a ha => sameLetter_stop (hsub ha) hc) y
  unfold redisUrlInText
  rw [hletters (by decide)]
  cases literal "redis".toList x with
  | none => rfl
  | some behind =>
    simp only [Option.map_some]
    rw [hletters (by decide)]
    cases literal "s".toList behind with
    | none =>
      simp only [Option.map_none]
      rw [hletters (by decide)]
      cases literal "://".toList behind with
      | none => rfl
      | some behind => simp only [Option.map_some, takeWhile_stop hc]
    | some behind =>
      simp only [Option.map_some]
      rw [hletters (by decide)]
      cases literal "://".toList behind with
      | none => rfl
      | some behind => simp only [Option.map_some, takeWhile_stop hc]

theorem redisUrlInText_le (t : Text) : redisUrlInText t ≤ t.length := by
  have htake : ∀ t : Text, (t.takeWhile inUrl).length ≤ t.length := fun t => (List.takeWhile_prefix _).length_le
  unfold redisUrlInText
  cases h₁ : literal "redis".toList t with
  | none => exact Nat.zero_le _
  | some t₁ =>
    have hlen₁ : t.length = 5 + t₁.length := literal_length h₁
    simp only
    cases h₂ : literal "s".toList t₁ with
    | none =>
      simp only
      cases h₃ : literal "://".toList t₁ with
      | none => exact Nat.zero_le _
      | some t₃ =>
        have hlen₃ : t₁.length = 3 + t₃.length := literal_length h₃
        have hle := htake t₃
        simp only
        split <;> omega
    | some t₂ =>
      have hlen₂ : t₁.length = 1 + t₂.length := literal_length h₂
      simp only
      cases h₃ : literal "://".toList t₂ with
      | none => exact Nat.zero_le _
      | some t₃ =>
        have hlen₃ : t₂.length = 3 + t₃.length := literal_length h₃
        have hle := htake t₃
        simp only
        split <;> omega

variable {L : UrlLibrary} {e : Endpoint} {p q : Text}

/-- The URLs of a text, masked. -/
abbrev UrlLibrary.redact (L : UrlLibrary) (text : Text) : Text := L.redactTextForLogs text none

/-- **A text is redacted word by word.** -/
theorem redact_split {c : Char} (hc : inUrl c = false) (x y : Text) :
    L.redact (x ++ c :: y) = L.redact x ++ c :: L.redact y :=
  sub_split (redisUrlInText_stop hc) (fun a x y => redisUrlInText_append hc (a :: x) y) redisUrlInText_le x y

theorem literal_self (t pattern : Text) : literal pattern (pattern ++ t) = some t := by
  induction pattern with
  | nil => cases t <;> rfl
  | cons a pattern ih =>
    have hsame : sameLetter a a = true := by simp [sameLetter]
    show (if sameLetter a a then literal pattern (pattern ++ t) else none) = some t
    rw [hsame]
    exact ih

/-- **A URL that is a word is masked.** -/
theorem redact_word {t : Text} (ht : ∀ c ∈ t, inUrl c = true) (hne : t ≠ []) :
    L.redact ("redis://".toList ++ t) = L.maskRedisUrl ("redis://".toList ++ t) := by
  have hrun : t.takeWhile inUrl = t := List.takeWhile_eq_self_iff.2 ht
  have hredis : literal "redis".toList ("redis://".toList ++ t) = some ("://".toList ++ t) :=
    literal_self ("://".toList ++ t) "redis".toList
  have hs : literal "s".toList ("://".toList ++ t) = none := rfl
  have hsigns : literal "://".toList ("://".toList ++ t) = some t := literal_self t "://".toList
  have hfind : redisUrlInText ("redis://".toList ++ t) = 7 + t.length + 1 := by
    unfold redisUrlInText
    simp only [hredis, hs, hsigns, hrun, if_neg hne]
    omega
  have hlen : ("redis://".toList ++ t).length ≤ 7 + t.length + 1 := by
    rw [List.length_append]
    have height : "redis://".toList.length = 8 := rfl
    omega
  show sub redisUrlInText L.maskRedisUrl _ = _
  rw [sub_of_match hfind (by simp), List.take_of_length_le hlen, List.drop_of_length_le hlen]
  exact List.append_nil _

/-- What stands before a word: nothing, or it ends where a URL would. -/
def Before (t : Text) : Prop := t = [] ∨ ∃ x c, t = x ++ [c] ∧ inUrl c = false

/-- What stands behind a word. -/
def Behind (t : Text) : Prop := t = [] ∨ ∃ c y, t = c :: y ∧ inUrl c = false

theorem redact_before {x : Text} (hx : Before x) (y : Text) : L.redact (x ++ y) = L.redact x ++ L.redact y := by
  rcases hx with rfl | ⟨x, c, rfl, hc⟩
  · rfl
  · have hnil : L.redact [] = [] := rfl
    rw [List.append_assoc, List.singleton_append, redact_split hc, redact_split hc, hnil, List.append_assoc,
      List.singleton_append]

theorem redact_behind {y : Text} (hy : Behind y) (x : Text) : L.redact (x ++ y) = L.redact x ++ L.redact y := by
  rcases hy with rfl | ⟨c, y, rfl, hc⟩
  · have hnil : L.redact [] = [] := rfl
    rw [List.append_nil, hnil, List.append_nil]
  · have hcut : L.redact (c :: y) = c :: L.redact y := redact_split hc [] y
    rw [redact_split hc, hcut]

theorem url_eq (e : Endpoint) (p : Text) : e.url p = "redis://".toList ++
    (e.user ++ (':' :: p ++ ('@' :: e.host ++ (':' :: decimal e.port ++ '/' :: decimal e.db)))) := by
  unfold Endpoint.url
  rw [List.append_assoc, List.append_assoc, List.append_assoc, List.append_assoc]

/-- **A URL in a text.** -/
theorem redact_url {before behind : Text} (hbefore : Before before) (hbehind : Behind behind)
    (hp : ∀ c ∈ e.url p, inUrl c = true) :
    L.redact (before ++ e.url p ++ behind) = L.redact before ++ L.maskRedisUrl (e.url p) ++ L.redact behind := by
  have hword : L.redact (e.url p) = L.maskRedisUrl (e.url p) := by
    rw [url_eq] at hp ⊢
    refine redact_word (fun c hc => hp c (List.mem_append_right _ hc)) fun hnil => ?_
    exact List.cons_ne_nil _ _ (List.append_eq_nil_iff.1 hnil).2
  rw [redact_behind hbehind, redact_before hbefore, hword]

/-- In place of the URL the text has the redacted one, or `redis://***` if the URL does not parse. -/
def RedactsInText (L : UrlLibrary) (e : Endpoint) (before behind p : Text) : Prop :=
  L.redact (before ++ e.url p ++ behind) = L.redact before ++ e.redacted L ++ L.redact behind ∨
    (Unparsed L e p ∧ L.redact (before ++ e.url p ++ behind) = L.redact before ++ fullyMasked ++ L.redact behind)

theorem redactsInText_iff (hL : L.Lawful) {before behind : Text} (hbefore : Before before) (hbehind : Behind behind)
    (hp : ∀ c ∈ e.url p, inUrl c = true) : RedactsInText L e before behind p ↔ StaysInside L e p := by
  rw [← hides_iff hL]
  unfold RedactsInText HidesPassword
  rw [redact_url hbefore hbehind hp, List.append_left_inj, List.append_right_inj, List.append_left_inj,
    List.append_right_inj]

/-- **A URL in a text.** The text is redacted word by word, and whatever stands around the URL, it is
replaced by what `_mask_redis_url` makes of it. This is the redacted URL, or `redis://***` if it does not
parse, iff the password stays inside the network location (or the URL does not parse, or by coincidence). -/
theorem text_redaction (hL : L.Lawful) (e : Endpoint) {p before behind : Text} (hbefore : Before before)
    (hbehind : Behind behind) (hp : ∀ c ∈ e.url p, inUrl c = true) :
    (∀ x y c, inUrl c = false → L.redact (x ++ c :: y) = L.redact x ++ c :: L.redact y) ∧
    L.redact (before ++ e.url p ++ behind) = L.redact before ++ L.maskRedisUrl (e.url p) ++ L.redact behind ∧
    (RedactsInText L e before behind p ↔ StaysInside L e p) :=
  ⟨fun x y _ hc => redact_split hc x y, redact_url hbefore hbehind hp, redactsInText_iff hL hbefore hbehind hp⟩

/-- The text of an error that names the URL. -/
def namesUrl (p : Text) : Text :=
  "Error 111 connecting to ".toList ++ sampleEndpoint.url p ++ " (refused)".toList

/-- A plain password is masked, and what stands around the URL stays. -/
theorem error_text_redacted :
    asciiUrls.redact (namesUrl "hunter2".toList) =
        asciiUrls.redact "Error 111 connecting to ".toList ++ asciiUrls.maskRedisUrl (sampleEndpoint.url "hunter2".toList) ++
          asciiUrls.redact " (refused)".toList ∧
    RedactsInText asciiUrls sampleEndpoint "Error 111 connecting to ".toList " (refused)".toList "hunter2".toList := by
  have hbefore : Before "Error 111 connecting to ".toList :=
    .inr ⟨"Error 111 connecting to".toList, ' ', by decide, by decide⟩
  have hbehind : Behind " (refused)".toList := .inr ⟨' ', "(refused)".toList, by decide, by decide⟩
  have hinside : StaysInside asciiUrls sampleEndpoint "hunter2".toList :=
    .inr (.inl ⟨List.all_eq_true.1 (by decide), .inl (by decide)⟩)
  obtain ⟨-, hreplaced, hiff⟩ := text_redaction asciiUrls_lawful sampleEndpoint hbefore hbehind
    (p := "hunter2".toList) (List.all_eq_true.1 (by decide))
  exact ⟨hreplaced, hiff.2 hinside⟩

/-! ## A secret -/

/-- **The secret is gone**, whatever the text. -/
theorem secret_gone {secret : Text} (hne : secret ≠ []) (hstar : '*' ∉ secret) (text : Text) :
    ¬ secret <:+: L.redactTextForLogs text (some secret) := by
  have hall : ∀ a ∈ "***".toList, a ∉ secret := by
    intro a ha
    have hstars : "***".toList = List.replicate 3 '*' := rfl
    rw [hstars] at ha
    rw [List.eq_of_mem_replicate ha]
    exact hstar
  by_cases hin : secret <:+: Replace.sub redisUrlInText L.maskRedisUrl text
  · have hout : L.redactTextForLogs text (some secret) =
        replace secret "***".toList (Replace.sub redisUrlInText L.maskRedisUrl text) := if_pos ⟨hne, hin⟩
    rw [hout]
    exact not_infix_replace hne (by decide) hall _
  · have hout : L.redactTextForLogs text (some secret) = Replace.sub redisUrlInText L.maskRedisUrl text :=
      if_neg fun h => hin h.2
    rwa [hout]

/-! ## The error of the Redis check -/

open Resumption

/-- What the check of Redis raises. -/
def RedisError (c : Startup) (e : ProcessExc) : Prop :=
  e = .cancelledError ∨
    ∃ text, e = .runtimeError ("Redis unavailable: " ++ c.redactedUrl ++ " - " ++ c.redactText text)

theorem checkRedis_raises (c : Startup) :
    unwatched.Sat c.checkRedis.run () fun _ x => ∀ e, x = .error e → RedisError c e := by
  refine Monitor.sat_attempt_bind.2 ⟨trivial, fun (x : Except ProcessExc Unit) => ?_⟩
  rcases x with (t | t | _ | t) | _ <;> intro e he <;> cases he
  · exact .inr ⟨_, rfl⟩
  · exact .inr ⟨_, rfl⟩
  · exact .inl rfl
  · exact .inr ⟨_, rfl⟩

/-- **The text of the error when Redis cannot be reached** does not have the password from the error of the
client, in any run: it is the masked URL and a text that the password does not stand in. (The error of the
client is its cause, and a traceback of it is not redacted.) -/
theorem redis_error_redacted (L : UrlLibrary) (redisUrl : Text) {secret : Text} (hne : secret ≠ [])
    (hstar : '*' ∉ secret) (kafkaTimeout : String) (es : List ProcessEvent) {e : ProcessExc}
    (he : (Process.after (Startup.withRedis L redisUrl (some secret) kafkaTimeout) es).redisCheck.bind
      (·.rest.result) = some (.error e)) :
    e = .cancelledError ∨ ∃ shown : Text, ¬ secret <:+: shown ∧
      e = .runtimeError ("Redis unavailable: " ++ String.ofList (L.maskRedisUrl redisUrl) ++ " - " ++
        String.ofList shown) := by
  obtain ⟨x, _, hresult⟩ := Option.bind_eq_some_iff.1 he
  rcases x.post_of_result (checkRedis_raises _) hresult e rfl with hcancelled | ⟨text, htext⟩
  · exact .inl hcancelled
  · exact .inr ⟨_, secret_gone hne hstar text.toList, htext⟩

/-- The bundle is made and the checks are started; then the client refuses the password, and says it. -/
def refused : List ProcessEvent :=
  List.replicate 9 (.main Process.returns) ++ [.redisCheck fun _ => .error (.other "WRONGPASS hunter2")]

/-- What the client has said. -/
def refusal : Startup := .withRedis asciiUrls (sampleEndpoint.url []) (some "hunter2".toList) "30"

theorem refusal_redacted :
    (Process.after refusal refused).redisCheck.bind (·.rest.result) =
      some (.error (.runtimeError ("Redis unavailable: " ++ refusal.redactedUrl ++ " - " ++
        refusal.redactText "WRONGPASS hunter2"))) ∧
    (ProcessExc.runtimeError ("Redis unavailable: " ++ refusal.redactedUrl ++ " - " ++
        refusal.redactText "WRONGPASS hunter2") = .cancelledError ∨
      ∃ shown : Text, ¬ "hunter2".toList <:+: shown ∧
        ProcessExc.runtimeError ("Redis unavailable: " ++ refusal.redactedUrl ++ " - " ++
          refusal.redactText "WRONGPASS hunter2") =
        .runtimeError ("Redis unavailable: " ++ String.ofList (asciiUrls.maskRedisUrl (sampleEndpoint.url [])) ++
          " - " ++ String.ofList shown)) := by
  have hrun : (Process.after refusal refused).redisCheck.bind (·.rest.result) =
      some (.error (.runtimeError ("Redis unavailable: " ++ refusal.redactedUrl ++ " - " ++
        refusal.redactText "WRONGPASS hunter2"))) := rfl
  exact ⟨hrun, redis_error_redacted asciiUrls (sampleEndpoint.url []) (by decide) (by decide) "30" refused hrun⟩

end Transcribe
