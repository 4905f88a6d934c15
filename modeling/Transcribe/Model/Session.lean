import Transcribe.Model.Scope
import Transcribe.Model.Service

/-!
# WebSocket sessions

The endpoint of `transport/session.py` as a program over the calls it makes: the socket,
the registry, the orchestrator, the ownership guard and its refresh task. The refresh
task is a program of its own.

A client sends finitely many frames and a task goes through finitely many rounds in any
finite time: both loops take a bound on their rounds, which may be any.
-/

namespace Transcribe

open Resumption

/-- The transport's settings, and what it takes from libraries. -/
structure Transport where
  authEnabled : Bool
  maxConnections : ℕ
  ownershipGuard : Bool
  /-- `urllib.parse.unquote` -/
  unquote : String → String
  /-- `orjson.loads`, with the text of its error -/
  loads : String → Except String Json
  /-- `repr` of a string -/
  repr : String → String

/-! ## Calls -/

/-- A call of the ownership guard. -/
inductive GuardCall
  | claimOrRefresh (conversationId token : String)
  | release (conversationId token : String)
deriving DecidableEq

/-- What `authenticate` does: it returns a principal, raises `AuthenticationError` with
its details, or raises something else. -/
inductive AuthOutcome
  | principal (subject : Option String)
  | authenticationError (details : String)
  | raised (e : Exc)

/-- What a connection asks of its environment. `hangup` is the `receive_text` after the
client's last frame: it raises. -/
inductive ConnCall
  | authenticate (authorizationHeader : Option String)
  | draining
  | activeCount
  | uuid4
  | guard (g : GuardCall)
  | receive
  | denialStart (status : ℕ) (headers : List (String × String))
  | denialBody (body : Response)
  | closeUnaccepted (code : WsCloseCode)
  | accept
  | registryAdd (conversationId : String)
  | registryRemove (conversationId : String)
  | spawnRefresh (conversationId token : String)
  | joinRefresh
  | receiveText
  | hangup
  | handleMessage (raw : Json) (conversationId : String)
  | clientConnected
  | sendText (frame : Response)
  | close (code : WsCloseCode)
  | sleep
  | utcNow

/-- A guard call is answered with its fate and with what the script answers: `OWNED` for
a claim, `1` for a release. The refresh task raises nothing when it is joined
(`refreshLoop_sat`). -/
def ConnReply : ConnCall → Type
  | .authenticate _ => AuthOutcome
  | .draining | .clientConnected => Bool
  | .activeCount => ℕ
  | .uuid4 => String
  | .guard _ => Fate × Bool
  | .receive | .denialStart .. | .denialBody _ | .closeUnaccepted _ | .accept | .sendText _
  | .close _ => Except Exc Unit
  | .registryAdd _ | .registryRemove _ | .spawnRefresh .. | .joinRefresh | .sleep => Unit
  | .receiveText => Except Exc String
  | .hangup => Exc
  | .handleMessage .. => Except Exc OrchestratorResult
  | .utcNow => Datetime

/-- What the caller sees of a call with this fate. -/
def Fate.seen {α : Type} (a : α) : Fate → Except Exc α
  | ok => .ok a
  | failed e | lost e => .error e

/-- A coroutine of the transport. -/
abbrev Conn := ExceptT Exc (Prog ConnCall ConnReply)

namespace Conn

/-- A call that raises nothing. -/
def ask (c : ConnCall) : Conn (ConnReply c) := ExceptT.lift (.perform c)

def guard (g : GuardCall) : Conn Bool :=
  ExceptT.mk (.call (ConnCall.guard g) fun r => .ret (r.1.seen r.2))

def claimOrRefresh (conversationId token : String) : Conn Bool :=
  guard (.claimOrRefresh conversationId token)

def release (conversationId token : String) : Conn Bool := guard (.release conversationId token)

def receive : Conn Unit := ExceptT.mk (.perform ConnCall.receive)

def denialStart (status : ℕ) (headers : List (String × String)) : Conn Unit :=
  ExceptT.mk (.perform (ConnCall.denialStart status headers))

def denialBody (body : Response) : Conn Unit := ExceptT.mk (.perform (ConnCall.denialBody body))

def closeUnaccepted (code : WsCloseCode) : Conn Unit :=
  ExceptT.mk (.perform (ConnCall.closeUnaccepted code))

def accept : Conn Unit := ExceptT.mk (.perform ConnCall.accept)

def receiveText : Conn String := ExceptT.mk (.perform ConnCall.receiveText)

def handleMessage (raw : Json) (conversationId : String) : Conn OrchestratorResult :=
  ExceptT.mk (.perform (ConnCall.handleMessage raw conversationId))

def clientConnected : Conn Bool := ask .clientConnected

def draining : Conn Bool := ask .draining

def activeCount : Conn ℕ := ask .activeCount

def uuid4 : Conn String := ask .uuid4

def utcNow : Conn Datetime := ask .utcNow

def sendText (frame : Response) : Conn Unit := ExceptT.mk (.perform (ConnCall.sendText frame))

def close (code : WsCloseCode) : Conn Unit := ExceptT.mk (.perform (ConnCall.close code))

end Conn

/-! ## Closing a socket -/

/-- `_send_error_and_close`; an exception on the way is swallowed. -/
def sendErrorAndClose (conversationId : String) (scenario : ProtocolErrorScenario)
    (details : Option String) : Conn Unit := do
  let _ ← attempt (do
    if ← Conn.clientConnected then
      let closeCode ← ofExcept scenario.requireWsCloseCode
      let now ← Conn.utcNow
      Conn.sendText (scenario.buildResponse now conversationId details)
      Conn.close closeCode)

/-- `_close_for_ownership_guard_unavailable`. -/
def closeForOwnershipGuardUnavailable (conversationId : String) : Conn Unit :=
  sendErrorAndClose conversationId .downstreamUnavailable
    (some "Conversation ownership guard store unavailable")

/-- `_close_for_active_sender_conflict`. -/
def closeForActiveSenderConflict (conversationId : String) : Conn Unit :=
  sendErrorAndClose conversationId .activeSenderConflict none

/-- The body names another conversation than the connection. -/
def bodyMismatch (raw : Json) (conversationId : String) : Bool :=
  raw.bodyConversationId.any fun b => decide (b ≠ conversationId)

/-! ## Ownership -/

/-- `_ownership_refresh_loop`, `rounds` times. -/
def refreshLoop (conversationId token : String) : ℕ → Conn Unit
  | 0 => pure ()
  | rounds + 1 => do
    Conn.ask .sleep
    match ← attempt (Conn.claimOrRefresh conversationId token) with
    | .error _ => closeForOwnershipGuardUnavailable conversationId
    | .ok false => closeForActiveSenderConflict conversationId
    | .ok true => refreshLoop conversationId token rounds

/-- `_claim_runtime_ownership_or_close`. -/
def claimRuntimeOwnershipOrClose (conversationId token : String) : Conn Bool := do
  match ← attempt (Conn.claimOrRefresh conversationId token) with
  | .error _ =>
    closeForOwnershipGuardUnavailable conversationId
    return false
  | .ok true => return true
  | .ok false =>
    closeForActiveSenderConflict conversationId
    return false

namespace Transport

variable (t : Transport)

/-- `_release_ownership_guard`; an exception is only logged. -/
def releaseOwnershipGuard (conversationId token : String) (acquired : Bool) : Conn Unit :=
  if t.ownershipGuard && acquired then do
    let _ ← attempt (Conn.release conversationId token)
  else pure ()

/-! ## The session -/

/-- `_run_ws_message_loop`, for a client that sends `frames` frames at most. The `serverProcessingMs`
that the loop writes into an acknowledgement before it sends it, a reading of its clock, is left out:
the frame sent is what `handle_message` returned. -/
def runWsMessageLoop (conversationId : String) : ℕ → Conn Unit
  | 0 => do throw (← Conn.ask .hangup)
  | frames + 1 => do
    let rawText ← Conn.receiveText
    match t.loads rawText with
    | .error text =>
      sendErrorAndClose conversationId .invalidJson (some (prefixOf text maxErrorDetailsLen))
    | .ok raw =>
      if bodyMismatch raw conversationId then
        sendErrorAndClose conversationId .conversationIdMismatch
          (some (ProtocolErrorScenario.mismatchDetails t.repr conversationId))
      else do
        let result ← Conn.handleMessage raw conversationId
        if ← Conn.clientConnected then Conn.sendText result.response
        if result.disconnect then
          if ← Conn.clientConnected then Conn.close result.closeCode
        else runWsMessageLoop conversationId frames

/-- The `try` and `except` clauses around the message loop. -/
def guardedMessageLoop (conversationId : String) (frames : ℕ) : Conn Unit := do
  match ← attempt (t.runWsMessageLoop conversationId frames) with
  | .ok () => pure ()
  | .error (.webSocketDisconnect _) => pure ()
  | .error _ => sendErrorAndClose conversationId .transportInternalException none

/-- `ws_endpoint` from the registration on, with its `finally`. -/
def runSession (conversationId token : String) (acquired : Bool) (frames : ℕ) : Conn Unit := do
  Conn.ask (.registryAdd conversationId)
  let refreshing := t.ownershipGuard && acquired
  if refreshing then Conn.ask (.spawnRefresh conversationId token)
  let outcome ← attempt (t.guardedMessageLoop conversationId frames)
  Conn.ask (.registryRemove conversationId)
  if refreshing then Conn.ask .joinRefresh
  t.releaseOwnershipGuard conversationId token acquired
  ofExcept outcome

/-- `ws_endpoint` from its `accept` on. -/
def acceptSession (conversationId token : String) (acquired : Bool) (frames : ℕ) : Conn Unit := do
  match ← attempt Conn.accept with
  | .error _ => t.releaseOwnershipGuard conversationId token acquired
  | .ok () =>
    if t.ownershipGuard && !acquired then
      if ← claimRuntimeOwnershipOrClose conversationId token then
        t.runSession conversationId token true frames
    else t.runSession conversationId token acquired frames

/-- What the guard left on the scope: the token of its claim, which was granted. -/
abbrev Admission := Option String

/-- `ws_endpoint`. -/
def wsEndpoint (admission : Admission) (conversationId : String) (frames : ℕ) : Conn Unit := do
  let token ← match admission with
    | some token => pure token
    | none => Conn.uuid4
  t.acceptSession conversationId token admission.isSome frames

variable {t} {conversationId token : String} {frames : ℕ}

theorem wsEndpoint_some :
    t.wsEndpoint (some token) conversationId frames = t.acceptSession conversationId token true frames := rfl

theorem wsEndpoint_none : t.wsEndpoint none conversationId frames = (do
    let token ← Conn.uuid4
    t.acceptSession conversationId token false frames) := rfl

end Transport

end Transcribe
