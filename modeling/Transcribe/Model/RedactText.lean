import Transcribe.Lib.Replace
import Transcribe.Model.Process
import Transcribe.Model.RedisUrl
import Transcribe.Model.Settings

/-!
# Redacted texts

`redact_text_for_logs` (`config/logging_config.py`), for the texts of errors: the Redis URLs in a
text are masked, and a secret is replaced wherever it stands.
-/

namespace Transcribe

/-- `[^\s\]]`. -/
def inUrl (c : Char) : Bool := !isSpace c && c ≠ ']'

/-- The characters that the small letter or sign `a` of the pattern matches, case ignored. -/
def sameLetter (a c : Char) : Bool :=
  c = a || c = a.toUpper || (a = 'i' && (c.toNat = 0x130 || c.toNat = 0x131)) || (a = 's' && c.toNat = 0x17F)

/-- What follows the letters of a pattern. -/
def literal : List Char → Text → Option Text
  | [], t => some t
  | _ :: _, [] => none
  | a :: pattern, c :: t => if sameLetter a c then literal pattern t else none

/-- The length of a match of `_REDIS_URL_IN_TEXT` that begins here, 0 if there is none. -/
def redisUrlInText (t : Text) : ℕ :=
  match literal "redis".toList t with
  | none => 0
  | some behind =>
    let (scheme, behind) := match literal "s".toList behind with
      | some behind' => (6, behind')
      | none => (5, behind)
    match literal "://".toList behind with
    | none => 0
    | some behind => if behind.takeWhile inUrl = [] then 0 else scheme + 3 + (behind.takeWhile inUrl).length

/-- `redact_text_for_logs`. -/
def UrlLibrary.redactTextForLogs (L : UrlLibrary) (text : Text) (extraSecret : Option Text) : Text :=
  let out := Replace.sub redisUrlInText L.maskRedisUrl text
  match extraSecret with
  | none => out
  | some secret => if secret ≠ [] ∧ secret <:+: out then Replace.replace secret "***".toList out else out

/-- What `run` gives the checks, with the settings of Redis. -/
def Startup.withRedis (L : UrlLibrary) (redisUrl : Text) (redisPassword : Option Text) (kafkaTimeout : String) :
    Startup :=
  ⟨String.ofList (L.maskRedisUrl redisUrl), fun t => String.ofList (L.redactTextForLogs t.toList redisPassword),
    kafkaTimeout⟩

end Transcribe
