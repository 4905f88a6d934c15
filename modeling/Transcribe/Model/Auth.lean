import Transcribe.Lib.Partition
import Transcribe.Model.Session
import Transcribe.Model.Settings

/-!
# Bearer tokens

`JwtBearerAuthBackend` of `auth/jwt_bearer.py`. What `jwt.decode` makes of a token, and lower case,
are parameters.
-/

namespace Transcribe

/-- What `jwt.decode` does: it returns the claims, or raises. -/
inductive JwtOutcome
  | claims (claims : Json)
  | expiredSignature
  | invalidToken
  | raised (e : Exc)

structure JwtBearerAuthBackend where
  lower : String → String
  decode : String → JwtOutcome

namespace JwtBearerAuthBackend

variable (B : JwtBearerAuthBackend)

/-- `_extract_bearer_token`. -/
def extractBearerToken (authorizationHeader : Option String) : Except String String :=
  let header := strip (authorizationHeader.getD "")
  if header = "" then .error "Authorization header with Bearer token is required"
  else
    let parts := Partition.partition ' ' header.toList
    let token := strip (String.ofList (parts.2.getD []))
    if B.lower (String.ofList parts.1) ≠ "bearer" ∨ token = "" then
      .error "Authorization header must use the Bearer scheme"
    else .ok token

def authenticate (authorizationHeader : Option String) : AuthOutcome :=
  match B.extractBearerToken authorizationHeader with
  | .error details => .authenticationError details
  | .ok token =>
    match B.decode token with
    | .claims claims =>
      match claims.get? "sub" with
      | some (.str subject) => .principal (some subject)
      | _ => .principal none
    | .expiredSignature => .authenticationError "Bearer token has expired"
    | .invalidToken => .authenticationError "Bearer token is invalid"
    | .raised e => .raised e

end JwtBearerAuthBackend

end Transcribe
