import Transcribe.Model.Service

/-!
# A conforming client

A client with an infinite list of messages of one conversation submits the lowest
unacknowledged one, again and again, and moves on when an ACK for it arrives. An answer
may be lost, late or repeated. Everything else is the service's own events.
-/

namespace Transcribe

open EventSystem

/-- The client's messages; `docs i` is the JSON object it sends for `msgs i`. -/
structure Client (d : Deps) where
  conversationId : String
  docs : ℕ → List (String × Json)
  msgs : ℕ → InboundMessage
  valid : ∀ i, d.modelValidate (.obj (docs i)) = .ok (msgs i)
  conversation : ∀ i, (msgs i).conversationId = conversationId
  number : ∀ i, (msgs i).sequenceNumber = i

/-- `index` is the lowest message not yet acknowledged. -/
structure ClientWorld (d : Deps) where
  world : World d
  index : ℕ

inductive ClientEvent
  | submit
  | deliver (id : ℕ)
  | service (e : Event)

namespace Client

variable {d : Deps} (c : Client d)

/-- Message `i` over a connection of its conversation. -/
def submission (i : ℕ) : Submission := ⟨.obj (c.docs i), c.conversationId⟩

/-- An answer is the ACK for message `i`. -/
def isAck (i : ℕ) : Option OrchestratorResult → Bool
  | some ⟨.ack cid _ n _, _, _⟩ => decide (cid = c.conversationId) && decide (n = i)
  | _ => false

def init : ClientWorld d := ⟨.init, 0⟩

def step (s : ClientWorld d) : ClientEvent → ClientWorld d
  | .submit => { s with world := s.world.step (.submit (c.submission s.index)) }
  | .deliver id =>
    if c.isAck s.index (s.world.handlers[id]?.bind Handler.answer?) then
      { s with index := s.index + 1 }
    else s
  | .service e => { s with world := s.world.step e }

/-- The state after the events `es`. -/
abbrev after (es : List ClientEvent) : ClientWorld d := run c.step init es

/-- Handlers of the conversation are sequential and start from this client only, and its
key does not expire. -/
def Composed (s : ClientWorld d) : ClientEvent → Prop
  | .submit => s.world.Sequential c.conversationId (.submit (c.submission s.index))
  | .deliver _ => True
  | .service (.submit sub) => ∀ m ∈ d.message? sub, m.conversationId ≠ c.conversationId
  | .service e => s.world.NoExpiry c.conversationId e

instance (s : ClientWorld d) : DecidablePred (c.Composed s)
  | .submit => inferInstanceAs
      (Decidable (s.world.Sequential c.conversationId (.submit (c.submission s.index))))
  | .service (.submit sub) =>
    inferInstanceAs (Decidable (∀ m ∈ d.message? sub, m.conversationId ≠ c.conversationId))
  | .service (.exec id fate now) =>
    inferInstanceAs (Decidable (s.world.NoExpiry c.conversationId (.exec id fate now)))
  | .service (.stop id) => inferInstanceAs (Decidable (s.world.NoExpiry c.conversationId (.stop id)))
  | .service .tick => inferInstanceAs (Decidable (s.world.NoExpiry c.conversationId .tick))
  | .deliver _ => .isTrue trivial

end Client

/-- The client submits no number that Lua does not count past. -/
def ClientWorld.InRange {d : Deps} (s : ClientWorld d) : ClientEvent → Prop
  | .submit => s.index < 2 ^ 53
  | _ => True

instance {d : Deps} (s : ClientWorld d) : DecidablePred s.InRange
  | .submit => inferInstanceAs (Decidable (s.index < 2 ^ 53))
  | .service _ | .deliver _ => .isTrue trivial

end Transcribe
