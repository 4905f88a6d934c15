import Transcribe.Model.Session

/-!
# The handshake

The app of `transport/app.py` around the endpoint: the admission checks of
`_WsGuardMiddleware`, and behind them the router with FastAPI's check of the query
parameter. A rejected handshake is answered with an HTTP status and a JSON ERROR.
-/

namespace Transcribe

open Resumption

/-! ## Denials -/

/-- The headers of a denial. -/
def denialHeaders : List (String × String) :=
  [("content-type", "application/json"), ("retry-after", "5")]

/-- `_deny_websocket`. -/
def denyWebsocket (statusCode : ℕ) (errorResponse : Response) : Conn Unit := do
  Conn.receive
  Conn.denialStart statusCode denialHeaders
  Conn.denialBody errorResponse

/-- `_reject`. -/
def reject (scenario : ProtocolErrorScenario) (conversationId : String) (details : Option String) :
    Conn Unit := do
  let statusCode ← ofExcept scenario.requireHttpStatus
  let now ← Conn.utcNow
  denyWebsocket statusCode (scenario.buildResponse now conversationId details)

/-- The draining check of `__call__`, then `next`. -/
def checkDraining (cid : String) (next : Conn Unit) : Conn Unit := do
  if ← Conn.draining then reject .serviceDraining cid none else next

/-! ## The inner app -/

/-- `conversationId: str = Query("", max_length=64)`. -/
def queryMaxLength : ℕ := 64

namespace Transport

variable (t : Transport)

/-- The inner app for a websocket scope: a path that is not the session route is closed
by the router, a query parameter that is too long by FastAPI. -/
def innerApp (scope : Scope) (admission : Admission) (frames : ℕ) : Conn Unit :=
  if scope.type ≠ .websocket then pure ()
  else if ¬ scope.routed then Conn.closeUnaccepted .normal
  else if queryMaxLength < (scope.queryConversationId t.unquote).length then
    Conn.closeUnaccepted .policyViolation
  else t.wsEndpoint admission (scope.queryConversationId t.unquote) frames

/-! ## Admission -/

/-- The authentication check of `__call__`, then `next`. -/
def checkAuthentication (scope : Scope) (cid : String) (next : Conn Unit) : Conn Unit :=
  if t.authEnabled then do
    match ← Conn.ask (.authenticate scope.authorization) with
    | .principal _ => next
    | .authenticationError details => reject .authenticationFailed cid (some details)
    | .raised e => throw e
  else next

/-- The connection limit check of `__call__`, then `next`. -/
def checkLimit (cid : String) (next : Conn Unit) : Conn Unit :=
  if 0 < t.maxConnections then do
    let active ← Conn.activeCount
    if t.maxConnections ≤ active then
      reject .connectionLimitExceeded cid
        (some (ProtocolErrorScenario.activeDetails active t.maxConnections))
    else next
  else next

/-- The ownership check of `__call__`; what is left on the scope goes to `next`. -/
def checkOwnership (cid : String) (next : Admission → Conn Unit) : Conn Unit :=
  if t.ownershipGuard then do
    let ownershipToken ← Conn.uuid4
    match ← attempt (Conn.claimOrRefresh cid ownershipToken) with
    | .error _ =>
      reject .downstreamUnavailable cid (some "Conversation ownership guard store unavailable")
    | .ok false => reject .activeSenderConflict cid none
    | .ok true => next (some ownershipToken)
  else next none

/-- `_WsGuardMiddleware.__call__`. -/
def wsGuardMiddleware (scope : Scope) (frames : ℕ) : Conn Unit :=
  if scope.type ≠ .websocket then t.innerApp scope none frames
  else if scope.normalizeWsPath ≠ wsPath then t.innerApp scope none frames
  else
    let cid := scope.extractConversationId t.unquote
    if cid = "" then reject .missingQueryConversationId "" none
    else
      t.checkAuthentication scope cid
        (checkDraining cid
          (t.checkLimit cid
            (t.checkOwnership cid fun admission => t.innerApp scope admission frames)))

end Transport

end Transcribe
