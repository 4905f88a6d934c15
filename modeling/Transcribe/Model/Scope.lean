import Transcribe.Model.Schemas

/-!
# Connection scopes

What the guard, the router and the endpoint read off an ASGI scope: the path (each with
its own way of stripping the mount prefix), the `conversationId` in the query string
(each with its own parser) and the headers.

`unquote` is `urllib.parse.unquote`, which both parsers call.
-/

namespace Transcribe

inductive ScopeType | http | websocket | lifespan
deriving DecidableEq

abbrev Bytes := List UInt8

/-- An ASCII literal `b"..."`. -/
def asciiBytes (s : String) : Bytes := s.toList.map fun c => UInt8.ofNat c.toNat

/-- `bytes.lower`. -/
def lowerBytes (b : Bytes) : Bytes := b.map fun x => if 65 ≤ x ∧ x ≤ 90 then x + 32 else x

/-- `bytes.decode("latin-1")`. -/
def decodeLatin1 (b : Bytes) : String := String.ofList (b.map fun x => Char.ofNat x.toNat)

/-- `path` is the percent-decoded path of the request, `rootPath` the prefix the app is
mounted under. -/
structure Scope where
  type : ScopeType
  path : String
  rootPath : String
  queryString : Bytes
  headers : List (Bytes × Bytes)

/-! ## Paths -/

/-- `s.startswith(p)`. -/
def startsWith (s p : String) : Bool := p.toList.isPrefixOf s.toList

/-- `s[n:]`. -/
def sliceFrom (s : String) (n : ℕ) : String := String.ofList (s.toList.drop n)

/-- `re.match("^" + re.escape(lit) + "$", s)`: `$` matches at the end and just before
a newline at the end. -/
def matchesExactly (lit s : String) : Bool :=
  startsWith s lit && (s.toList.drop lit.length = [] || s.toList.drop lit.length = ['\n'])

namespace Scope

variable (s : Scope)

/-- `_normalize_ws_path`. -/
def normalizeWsPath : String :=
  if s.rootPath ≠ "" ∧ startsWith s.path s.rootPath then
    let trimmed := sliceFrom s.path s.rootPath.length
    if trimmed = "" then "/" else trimmed
  else s.path

/-- Starlette's `get_route_path`. -/
def getRoutePath : String :=
  if s.rootPath = "" then s.path
  else if ¬ startsWith s.path s.rootPath then s.path
  else if s.path = s.rootPath then ""
  else if s.path.toList[s.rootPath.length]? = some '/' then sliceFrom s.path s.rootPath.length
  else s.path

/-- The router's test for the session route. -/
def routed : Bool := matchesExactly wsPath s.getRoutePath

/-- The scope is one the inner app gets: it is mounted nowhere, or the path goes on after
the mount prefix with a slash. -/
def Reaches : Prop :=
  s.type = .websocket ∧ (s.rootPath = "" ∨ startsWith s.path (s.rootPath ++ "/"))

/-! ## Headers -/

/-- `_extract_header`. -/
def extractHeader (headerName : Bytes) : Option String :=
  (s.headers.find? fun h => lowerBytes h.1 = headerName).map fun h => decodeLatin1 h.2

/-- The value of the `Authorization` header. -/
def authorization : Option String := s.extractHeader (asciiBytes "authorization")

end Scope

/-! ## Query strings -/

/-- The fields between `&`, empty ones left out, split at the first `=`. A field without
`=` has a blank value. -/
def nameValues (qs : String) : List (String × String) :=
  ((qs.toList.splitOn '&').filter (· ≠ [])).map fun field =>
    (String.ofList (field.takeWhile (· ≠ '=')), String.ofList ((field.dropWhile (· ≠ '=')).drop 1))

/-- `replace("+", " ")`. -/
def plusToSpace (s : String) : String :=
  String.ofList (s.toList.map fun c => if c = '+' then ' ' else c)

variable (unquote : String → String)

/-- A name or a value as the parsers decode it. -/
def decodeField (s : String) : String := unquote (plusToSpace s)

/-- `parse_qsl(qs, keep_blank_values)`. -/
def parseQsl (keepBlankValues : Bool) (qs : String) : List (String × String) :=
  ((nameValues qs).filter fun nv => keepBlankValues || decide (nv.2 ≠ "")).map fun nv =>
    (decodeField unquote nv.1, decodeField unquote nv.2)

/-- The values of a key, in order. -/
def valuesOf (pairs : List (String × String)) (key : String) : List String :=
  (pairs.filter fun p => p.1 = key).map Prod.snd

namespace Scope

variable (s : Scope)

/-- `_extract_conversation_id`: the first value, of those that are not blank. -/
def extractConversationId : String :=
  (valuesOf (parseQsl unquote false (decodeLatin1 s.queryString)) "conversationId").headD ""

/-- The endpoint's `conversationId: str = Query("")`: the last value. -/
def queryConversationId : String :=
  (valuesOf (parseQsl unquote true (decodeLatin1 s.queryString)) "conversationId").getLastD ""

end Scope

end Transcribe
