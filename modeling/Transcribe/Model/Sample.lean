import Transcribe.Model.Client
import Transcribe.Model.Cluster
import Transcribe.Model.Validation

/-!
# Sample documents

`sampleLax` is what pydantic makes of single values, as far as the samples need it: of timestamps it
reads the epoch. `ongoing` and `complete` are plain documents of the contract, for every sequence
number.

`transport` has every check switched on; of JSON texts it reads those of the first messages of
`c1` and `c2`. `admitted` opens a connection on it.
-/

namespace Transcribe

namespace Sample

def epoch : String := "1970-01-01T00:00:00Z"

/-- pydantic on integers, the words for booleans, and the epoch. -/
def sampleLax : Lax where
  strAsInt s :=
    if s ≠ "" ∧ s.toList.all Char.isDigit ∧ s.length ≤ 4300 then some (Nat.ofDigitChars 10 s.toList 0) else none
  tooManyDigits s := decide (4300 < s.length)
  strAsBool s := if s ∈ ["1", "on", "t", "true", "y", "yes"] then some true
    else if s ∈ ["0", "off", "f", "false", "n", "no"] then some false else none
  strAsDatetime s := if s = epoch then .ok ⟨⟨0⟩, some 0⟩ else .error .fromDateParsing
  intAsDatetime n := .ok ⟨n * 1000000⟩
  floatAsDatetime q := .ok ⟨(q * 1000000).floor⟩
  encodeDatetime _ := epoch
  formatUtcTimestamp _ := epoch
  errorText _ := "1 validation error for InboundMessage"

def cid : String := "c1"

/-- The fields of the plain message `n` of `c`. -/
def plainFields (c : String) (n : ℕ) : List (String × Json) :=
  [("metaData", .obj [("conversationId", .str c), ("callStartTimeStamp", .str epoch),
      ("callEndTimeStamp", .null), ("eventType", .str "SESSION_ONGOING")]),
    ("payload", .obj [("sequenceNumber", .int n), ("speaker", .str "Agent"),
      ("transcript", .str "Hello"), ("engineProvider", .str "EngineA"), ("dialect", .str "en-US"),
      ("isFinal", .bool true), ("speakTimeStamp", .str epoch),
      ("transcriptGenerateTimeStamp", .str epoch)])]

def ongoingFields (n : ℕ) : List (String × Json) := plainFields cid n

def ongoing (n : ℕ) : Json := .obj (ongoingFields n)

def complete (n : ℕ) : Json := .obj
  [("metaData", .obj [("conversationId", .str cid), ("callStartTimeStamp", .str epoch),
      ("callEndTimeStamp", .str epoch), ("eventType", .str "SESSION_COMPLETE")]),
    ("payload", .obj [("sequenceNumber", .int n), ("speaker", .str "System"),
      ("transcript", .str "EOL"), ("engineProvider", .str "EngineA"), ("dialect", .str "en-US"),
      ("isFinal", .bool true)])]

def ongoingMessage (n : ℕ) : InboundMessage :=
  ⟨⟨cid, ⟨0⟩, none, .sessionOngoing, by decide⟩,
    ⟨n, .agent, "Hello", "EngineA", "en-US", true, some ⟨0⟩, some ⟨0⟩,
      ["sequenceNumber", "speaker", "transcript", "engineProvider", "dialect", "isFinal",
        "speakTimeStamp", "transcriptGenerateTimeStamp"], by decide, by decide, by decide⟩,
    by simp [checkBusinessRules]⟩

/-- The default service on the plain documents. -/
def deps : Deps := ⟨sampleLax.modelValidate, .default⟩

/-- The plain message `n`, from a connection of its conversation. -/
def message (n : ℕ) : Submission := ⟨ongoing n, cid⟩

def completion (n : ℕ) : Submission := ⟨complete n, cid⟩

/-- Handler `id` goes on by one call, and nothing fails. -/
def ok (id : ℕ) : Event := .exec id .ok ⟨0⟩

theorem validate_ongoing (n : ℕ) : sampleLax.modelValidate (ongoing n) = .ok (ongoingMessage n) := rfl

/-- The client of the plain messages. -/
def client : Client deps := ⟨cid, ongoingFields, ongoingMessage, validate_ongoing, fun _ => rfl, fun _ => rfl⟩

/-! ## Connections -/

/-- The text of the plain message `0` of `c`. -/
def plainText (c : String) : String :=
  "\x7b\"metaData\":\x7b\"conversationId\":\"" ++ c ++ "\",\"callStartTimeStamp\":\"1970-01-01T00:00:00Z\"," ++
  "\"callEndTimeStamp\":null,\"eventType\":\"SESSION_ONGOING\"\x7d," ++
  "\"payload\":\x7b\"sequenceNumber\":0,\"speaker\":\"Agent\",\"transcript\":\"Hello\"," ++
  "\"engineProvider\":\"EngineA\",\"dialect\":\"en-US\",\"isFinal\":true," ++
  "\"speakTimeStamp\":\"1970-01-01T00:00:00Z\"," ++
  "\"transcriptGenerateTimeStamp\":\"1970-01-01T00:00:00Z\"\x7d\x7d"

def ongoingText : String := plainText cid

def loads (text : String) : Except String Json :=
  if text = ongoingText then .ok (ongoing 0)
  else if text = plainText "c2" then .ok (.obj (plainFields "c2" 0))
  else .error "unexpected character: line 1 column 1 (char 0)"

/-- The strings of the samples have neither `%` nor quotes: `unquote` leaves them alone,
`repr` puts them in quotes. -/
def transport : Transport := ⟨true, 100, true, id, loads, fun s => "'" ++ s ++ "'"⟩

/-- A websocket scope with a bearer token. -/
def scope (path rootPath query : String) : Scope :=
  ⟨.websocket, path, rootPath, asciiBytes query, [(asciiBytes "Authorization", asciiBytes "Bearer t")]⟩

/-- Everything answers well: the principal is known, `token` is drawn, no call fails, and
the client sends `ongoing 0`. -/
def answer (token : String) : (i : ConnCall) → ConnReply i
  | .authenticate _ => .principal (some "s")
  | .draining => false
  | .clientConnected => true
  | .activeCount => (0 : ℕ)
  | .uuid4 => token
  | .guard _ => (.ok, true)
  | .receive | .denialStart .. | .denialBody _ | .closeUnaccepted _ | .accept | .sendText _
  | .close _ => .ok ()
  | .registryAdd _ | .registryRemove _ | .spawnRefresh .. | .joinRefresh | .sleep => ()
  | .receiveText => .ok ongoingText
  | .hangup => .webSocketDisconnect "1000"
  | .handleMessage .. => .ok ⟨buildTranscriptAck ⟨0⟩ cid 0, false, .normal⟩
  | .utcNow => ⟨0⟩

/-- The calls of an admitted handshake: `c` is claimed with the token `t`. -/
def handshake (scope : Scope) (c : String) : List (Σ i, ConnReply i) :=
  [⟨.authenticate scope.authorization, .principal (some "s")⟩, ⟨.draining, false⟩,
    ⟨.activeCount, (0 : ℕ)⟩, ⟨.uuid4, "t"⟩, ⟨.guard (.claimOrRefresh c "t"), (.ok, true)⟩]

theorem claim_mem_handshake (scope : Scope) (c : String) :
    ⟨.guard (.claimOrRefresh c "t"), (.ok, true)⟩ ∈ handshake scope c :=
  .tail _ (.tail _ (.tail _ (.tail _ (.head _))))

/-! ## A cluster -/

def site : Site := ⟨deps, transport, .default⟩

/-- Connection `id` goes on, and everything answers well. -/
def go (id : ℕ) (token : String) : ClusterEvent := .proceed id .main (answer token)

/-- A new connection `id` claims the key of `c1` with command `k`, is accepted, registers
and starts its refresh task. -/
def admitted (id k : ℕ) (token : String) (frames : ℕ) : List ClusterEvent :=
  [.connect (scope wsPath "" "conversationId=c1") frames 1, go id token, go id token, go id token,
    go id token, .issue id .main, .execute k, go id token, go id token, go id token, go id token]

end Sample

end Transcribe
