import Transcribe.Lib.Sections
import Transcribe.Model.Handshake
import Transcribe.Model.Registry

/-!
# One instance

Every connection of an instance over its registry and its shutdown: the guard's check of
`draining` and of the limit, the session, the signal handler of `shutdown/graceful.py` and the
`close_all` of `main.py`. The event loop runs one coroutine at a time, and a coroutine is
suspended only at an await: an event is one section of a connection, or of `close_all`.

The refresh task of a session touches neither the registry nor the client's state and is left
out. A socket is the number of its connection.
-/

namespace Transcribe

open Resumption EventSystem

/-- A connection: the ASGI call under way. -/
structure Link (t : Transport) where
  scope : Scope
  frames : ℕ
  thread : Thread (t.wsGuardMiddleware scope frames).run

/-- Whether `client_state` is `CONNECTED` after a reply: `receive` leaves it on a disconnect. -/
def clientNext (connected : Bool) : (i : ConnCall) → ConnReply i → Bool
  | .accept, .ok () => true
  | .receiveText, .error (.webSocketDisconnect _) => false
  | .hangup, .webSocketDisconnect _ => false
  | _, _ => connected

def clientWatch : Monitor ConnCall ConnReply Bool := ⟨fun _ _ => True, clientNext⟩

namespace Link

variable {t : Transport}

def start (scope : Scope) (frames : ℕ) : Link t := ⟨scope, frames, .start _⟩

variable (x : Link t)

/-- The call the connection waits in. -/
def pending : Option ConnCall := x.thread.rest.pending

/-- `ws.client_state == WebSocketState.CONNECTED`. -/
def connected : Bool := x.thread.state clientWatch false

end Link

/-- How far the shutdown is: the signal has come, `close_all` waits in a close, it has returned. -/
inductive Drain
  | serving
  | draining
  | closing (f : Closing ℕ)
  | closed
deriving DecidableEq

/-- `draining` of `GracefulShutdown`. -/
def Drain.isDraining : Drain → Bool
  | serving => false
  | _ => true

/-- `closed` is history: the sockets that `close_all` has sent a close. -/
structure Instance (t : Transport) where
  registry : ConnectionRegistry ℕ
  links : List (Link t)
  drain : Drain
  closed : List ℕ

/-- A connection arrives and runs its first section; a connection, or `close_all`, goes on from
its await; the signal comes; `main` starts `close_all`. -/
inductive InstanceEvent
  | connect (scope : Scope) (frames : ℕ) (answer : (i : ConnCall) → ConnReply i)
  | proceed (id : ℕ) (answer : (i : ConnCall) → ConnReply i)
  | signal
  | closeAll
  | goOn

namespace Instance

variable {t : Transport} (w : Instance t)

def init : Instance t := ⟨.empty, [], .serving, []⟩

/-- The calls of connection `id` that do not suspend; no section asks twice for what `answer`
leaves open. -/
def serve (drain : Drain) (id : ℕ) (connected : Bool) (answer : (i : ConnCall) → ConnReply i)
    (registry : ConnectionRegistry ℕ) : (i : ConnCall) → Option (ConnectionRegistry ℕ × ConnReply i)
  | .authenticate header => some (registry, answer (.authenticate header))
  | .draining => some (registry, drain.isDraining)
  | .activeCount => some (registry, registry.activeCount.toNat)
  | .uuid4 => some (registry, answer .uuid4)
  | .registryAdd c => some (registry.add c id, ())
  | .registryRemove c => some (registry.remove c (some id), ())
  | .spawnRefresh _ _ => some (registry, ())
  | .clientConnected => some (registry, connected)
  | .utcNow => some (registry, answer .utcNow)
  | _ => none

/-- The section of connection `id` that starts where `x` is. -/
def settle (id : ℕ) (answer : (i : ConnCall) → ConnReply i) (x : Link t) : ConnectionRegistry ℕ × Link t :=
  let r := x.thread.settle (serve w.drain id x.connected answer) w.registry
  (r.1, { x with thread := r.2 })

/-- `client_state` of every socket. -/
def connected (id : ℕ) : Bool := w.links[id]?.any Link.connected

/-- `close_all` has come to its next close, or has returned. -/
def closing (r : ConnectionRegistry ℕ × Option (Closing ℕ)) : Instance t :=
  { w with
    registry := r.1
    drain := r.2.elim .closed .closing
    closed := (r.2.map Closing.ws).toList ++ w.closed }

def step : InstanceEvent → Instance t
  | .connect scope frames answer =>
    let r := w.settle w.links.length answer (.start scope frames)
    { w with registry := r.1, links := w.links ++ [r.2] }
  | .proceed id answer =>
    match w.links[id]? with
    | none => w
    | some x =>
      let r := w.settle id answer { x with thread := x.thread.advance answer }
      { w with registry := r.1, links := w.links.set id r.2 }
  | .signal =>
    match w.drain with
    | .serving => { w with drain := .draining }
    | _ => w
  | .closeAll =>
    match w.drain with
    | .draining => w.closing (w.registry.closeAll w.connected)
    | _ => w
  | .goOn =>
    match w.drain with
    | .closing f => w.closing (w.registry.goOn w.connected f)
    | _ => w

/-- The state after the events `es`. -/
abbrev after (t : Transport) (es : List InstanceEvent) : Instance t := run step init es

end Instance

/-! ## Where a connection stands -/

/-- Where a connection stands: before the draining check, between that and the limit check,
past both and not yet registered, registered for a conversation and then in its message loop,
removed again, or refused. -/
inductive Seat
  | arriving
  | admitted
  | underway
  | here (conversationId : String) (inLoop : Bool)
  | left (conversationId : String)
  | refused
deriving DecidableEq

/-- Where a connection stands after a reply. -/
def Seat.next (t : Transport) : Seat → (i : ConnCall) → ConnReply i → Seat
  | _, .draining, false => if t.maxConnections = 0 then .underway else .admitted
  | _, .draining, true => .refused
  | _, .activeCount, (n : ℕ) => if n < t.maxConnections then .underway else .refused
  | s, .guard (.claimOrRefresh _ _), (.ok, true) => s
  | _, .guard (.claimOrRefresh _ _), _ => .refused
  | _, .accept, .error _ => .refused
  | _, .closeUnaccepted _, _ => .refused
  | _, .receive, _ => .refused
  | _, .registryAdd c, _ => .here c false
  | .here c _, .receiveText, _ => .here c true
  | .here c _, .hangup, _ => .here c true
  | _, .registryRemove c, _ => .left c
  | s, _, _ => s

def seating (t : Transport) : Monitor ConnCall ConnReply Seat := ⟨fun _ _ => True, Seat.next t⟩

/-- Where the connection stands. -/
def Link.seat {t : Transport} (x : Link t) : Seat := x.thread.state (seating t) .arriving

/-- The connection has passed the checks and waits for its claim or its accept. -/
def Link.underway {t : Transport} (x : Link t) : Bool :=
  match x.pending with
  | some (.closeUnaccepted _) => false
  | _ => decide (x.seat = .underway)

/-- The connection has made the call. -/
def Link.Called {t : Transport} (x : Link t) (i : ConnCall) : Prop :=
  (∃ r, ⟨i, r⟩ ∈ x.thread.trace) ∨ x.pending = some i

/-- The session has entered its message loop: it has asked for a message. -/
def Link.Entered {t : Transport} (x : Link t) : Prop := x.Called .receiveText ∨ x.Called .hangup

/-- The number of handshakes between the checks and the registration. -/
def Instance.underway {t : Transport} (w : Instance t) : ℕ := w.links.countP Link.underway

end Transcribe
