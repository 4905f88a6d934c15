import Mathlib.Data.Int.Notation
import Transcribe.Lib.Lock

/-!
# The MSK token provider

`MSKTokenProvider` (`producer/kafka_connection.py`) keeps the last token the signer has made.
`token` runs `_refresh_token` in a thread of the executor, and so calls overlap: each reads the
clock and waits for the lock, and with the lock it looks at the token and has a new one made
when that one is about to expire.

A call is known by its number. `clock` is the time in milliseconds that each call reads, which need not
go up with the order the calls get the lock in.
-/

namespace Transcribe

open Resumption

/-- A token of the signer, with the call it was made in. -/
structure SignedToken where
  call : ℕ
  token : String
  expiryMs : ℤ

/-- The provider; `signed` is the record of what the signer has made, in order. -/
structure MSKTokenProvider where
  token : Option String
  expiryMs : ℤ
  signed : List SignedToken

namespace MSKTokenProvider

def init : MSKTokenProvider := ⟨none, 0, []⟩

/-- What `_refresh_token` asks of the provider, the clock and the signer. -/
inductive Access
  | time
  | readToken
  | readExpiryMs
  | generate
  | writeToken (token : String)
  | writeExpiryMs (expiryMs : ℤ)

abbrev Answer : Access → Type
  | .time | .readExpiryMs => ℤ
  | .readToken => Option String
  | .generate => Except String (String × ℤ)
  | .writeToken _ | .writeExpiryMs _ => Unit

/-- The signer answers as it likes; what it makes goes on the record. -/
def exec (clock : ℕ → ℤ) (call : ℕ) (p : MSKTokenProvider) : (i : Access) → Answer i → MSKTokenProvider × Answer i
  | .time, _ => (p, clock call)
  | .readToken, _ => (p, p.token)
  | .readExpiryMs, _ => (p, p.expiryMs)
  | .generate, .ok (token, expiryMs) =>
    ({ p with signed := p.signed ++ [⟨call, token, expiryMs⟩] }, .ok (token, expiryMs))
  | .generate, .error text => (p, .error text)
  | .writeToken token, _ => ({ p with token := some token }, ())
  | .writeExpiryMs expiryMs, _ => ({ p with expiryMs := expiryMs }, ())

abbrev TokenCoro := ExceptT String (Prog (Lock.Call Access) (Lock.Reply Answer))

def acquire : TokenCoro Unit := ExceptT.lift (.perform Lock.Call.acquire)

def release : TokenCoro Unit := ExceptT.lift (.perform Lock.Call.release)

def access (i : Access) : TokenCoro (Answer i) := ExceptT.lift (.perform (Lock.Call.op i))

/-- `_generate_msk_auth_token`. -/
def generateMskAuthToken : TokenCoro (String × ℤ) := ExceptT.mk (.call (.op .generate) .ret)

/-- The token is there, and it lasts for more than a minute. -/
def isFresh (nowMs : ℤ) : TokenCoro Bool := do
  match ← access .readToken with
  | none => return false
  | some _ => return decide (nowMs < (← access .readExpiryMs) - 60000)

/-- What happens with the lock. -/
def refreshLocked (nowMs : ℤ) : TokenCoro (Option String) := do
  if ← isFresh nowMs then access .readToken
  else
    let (token, expiryMs) ← generateMskAuthToken
    access (.writeToken token)
    access (.writeExpiryMs expiryMs)
    return some token

/-- `_refresh_token`. The lock is let go when the signer raises, too. -/
def refreshToken : TokenCoro (Option String) := do
  let nowMs ← access .time
  acquire
  let outcome ← attempt (refreshLocked nowMs)
  release
  ofExcept outcome

/-- The provider with its calls under way. -/
abbrev Calls := Lock.State Access Answer MSKTokenProvider (Except String (Option String))

/-- The state after the events `es`. -/
abbrev after (clock : ℕ → ℤ) (es : List (Lock.Event Access Answer)) : Calls :=
  EventSystem.run (Lock.step (exec clock)) ⟨init, none, fun _ => refreshToken.run⟩ es

end MSKTokenProvider

end Transcribe
