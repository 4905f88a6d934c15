import Mathlib.Data.List.DropRight
import Mathlib.Data.List.Infix
import Transcribe.Lib.Partition

/-!
# Redis URLs in logs

`_mask_redis_url` of `config/logging_config.py`, over `urllib.parse`. A string is the list of its
characters. `UrlLibrary` is what depends on Unicode tables or on the syntax of IP addresses: lower
case, and which network locations `urlsplit` does not take (brackets that do not match or hold no
address, characters whose normal form has a delimiter).
-/

namespace Transcribe

open Partition

abbrev Text : Type := List Char

/-- `str` of a natural number. -/
def decimal (n : ℕ) : Text := Nat.toDigits 10 n

structure UrlLibrary where
  lower : Text → Text
  rejects : Text → Bool

/-- `SplitResult`, as far as it is used. -/
structure SplitResult where
  scheme : Text
  netloc : Text
  path : Text

/-- `_UNSAFE_URL_BYTES_TO_REMOVE`. -/
def removed (c : Char) : Bool := c = '\t' || c = '\r' || c = '\n'

/-- The network location goes on. -/
def inNetloc (c : Char) : Bool := c ≠ '/' && c ≠ '?' && c ≠ '#'

/-- The path goes on. -/
def inPath (c : Char) : Bool := c ≠ '?' && c ≠ '#'

/-- `scheme_chars`. -/
def schemeChar (c : Char) : Bool := c.isAlphanum || c = '+' || c = '-' || c = '.'

/-- `uses_params`. -/
def usesParams : List Text :=
  ["", "ftp", "hdl", "prospero", "http", "https", "shttp", "rtsp", "rtsps", "sip", "sips", "mms", "sftp",
    "tel"].map String.toList

/-- `_splitparams`: the path without the parameters of its last segment. -/
def splitParams (path : Text) : Text :=
  match rpartition '/' path with
  | (some before, segment) => before ++ '/' :: (partition ';' segment).1
  | (none, segment) => (partition ';' segment).1

/-- A value of Python that is neither `None` nor empty. -/
def isSet : Option Text → Bool
  | some (_ :: _) => true
  | _ => false

namespace SplitResult

variable (p : SplitResult)

def username : Option Text := (rpartition '@' p.netloc).1.map fun userinfo => (partition ':' userinfo).1

def password : Option Text := (rpartition '@' p.netloc).1.bind fun userinfo => (partition ':' userinfo).2

/-- `_hostinfo` of what stands behind the user info: the host and the port, empty if there is none. -/
def hostinfo (t : Text) : Text × Text :=
  match partition '[' t with
  | (_, some bracketed) =>
    let r := partition ']' bracketed
    (r.1, (partition ':' (r.2.getD [])).2.getD [])
  | (_, none) => ((partition ':' t).1, (partition ':' t).2.getD [])

/-- What stands behind the user info. -/
def location : Text := (rpartition '@' p.netloc).2

/-- The port behind the user info; `none` if it raises. -/
def portOf (t : Text) : Option (Option ℕ) :=
  let port := (hostinfo t).2
  if port = [] then some none
  else if port.all Char.isDigit ∧ Nat.ofDigitChars 10 port 0 ≤ 65535 then some (some (Nat.ofDigitChars 10 port 0))
  else none

def port : Option (Option ℕ) := portOf p.location

end SplitResult

namespace UrlLibrary

variable (L : UrlLibrary)

/-- The host behind the user info; the zone of an address is not lower-cased. -/
def hostnameOf (t : Text) : Option Text :=
  let host := (SplitResult.hostinfo t).1
  if host = [] then none
  else
    match partition '%' host with
    | (name, some zone) => some (L.lower name ++ '%' :: zone)
    | (name, none) => some (L.lower name)

def hostname (p : SplitResult) : Option Text := L.hostnameOf p.location

/-- The scheme of a URL, and what follows. -/
def splitScheme (url : Text) : Text × Text :=
  match partition ':' url with
  | (scheme, some rest) =>
    if scheme.head?.any Char.isAlpha ∧ scheme.all schemeChar then (L.lower scheme, rest) else ([], url)
  | (_, none) => ([], url)

/-- `urlsplit`, which raises if the result is `none`. -/
def urlsplit (url : Text) : Option SplitResult :=
  let url := (url.dropWhile fun c => decide (c.toNat ≤ 32)).filter fun c => !removed c
  match L.splitScheme url with
  | (scheme, '/' :: '/' :: rest) =>
    let netloc := rest.takeWhile inNetloc
    if L.rejects netloc then none else some ⟨scheme, netloc, (rest.dropWhile inNetloc).takeWhile inPath⟩
  | (scheme, rest) => some ⟨scheme, [], rest.takeWhile inPath⟩

/-- `urlparse`. -/
def urlparse (url : Text) : Option SplitResult :=
  (L.urlsplit url).map fun p => if p.scheme ∈ usesParams then { p with path := splitParams p.path } else p

end UrlLibrary

/-- `urlunparse((scheme, netloc, path, "", "", ""))`, with a network location. -/
def urlunparse (scheme netloc path : Text) : Text :=
  let path := if path ≠ [] ∧ path.head? ≠ some '/' then '/' :: path else path
  let url := '/' :: '/' :: netloc ++ path
  if scheme = [] then url else scheme ++ ':' :: url

/-- `p.port or 6379`. -/
def portOr : Option ℕ → ℕ
  | some (n + 1) => n + 1
  | _ => 6379

/-- `"redis://***"`. -/
def fullyMasked : Text := "redis://***".toList

/-- `_mask_redis_url`. -/
def UrlLibrary.maskRedisUrl (L : UrlLibrary) (url : Text) : Text :=
  if url = [] ∨ ¬ "redis".toList <:+: L.lower url then url
  else
    match L.urlparse url with
    | none => fullyMasked
    | some p =>
      let unparse (before : Text) (port : Option ℕ) : Text :=
        urlunparse p.scheme ((before ++ ':' :: decimal (portOr port)).rdropWhile fun c => decide (c = ':')) p.path
      if isSet p.password ∨ (isSet p.username ∧ '@' ∈ url) then
        match p.port with
        | none => fullyMasked
        | some port => unparse (p.username.getD [] ++ ":***@".toList ++ (L.hostname p).getD []) port
      else
        match L.hostname p with
        | none => fullyMasked
        | some hostname =>
          match p.port with
          | none => fullyMasked
          | some port => unparse hostname port

end Transcribe
