import Mathlib.Data.List.Basic
import Transcribe.Lib.EventSystem
import Transcribe.Model.Orchestrator

/-!
# The service: message handlers over Redis and Kafka

A `World` is the backends and every message handler ever started, over any number of
connections and instances. An event starts a handler, lets a handler's pending call
run with a given fate, cuts a handler off, or lets a second pass. Calls are atomic;
nothing else is ordered.

A call may fail before it takes effect (`failed`) or after (`lost`): the handler sees
the same exception.
-/

namespace Transcribe

open Resumption EventSystem

/-! ## Backends -/

/-- A record of the Kafka topic. -/
structure Record where
  key : String
  value : KafkaPayload
deriving DecidableEq

namespace Record

abbrev number (r : Record) : ℕ := r.value.payload.sequenceNumber

abbrev eventType (r : Record) : EventType := r.value.metaData.eventType

end Record

/-- `log` holds the records in the order of their appends. `commits` is history: the
arguments of the `LUA_COMMIT` runs so far. -/
structure Backend where
  redis : SequenceDb
  log : List Record
  commits : List (String × ℕ)

/-- What becomes of a call: it returns, it raises without effect, or it raises
although it took effect. -/
inductive Fate
  | ok
  | failed (e : Exc)
  | lost (e : Exc)

def Fate.deliver {σ α : Type} (before after : σ) (a : α) : Fate → σ × Except Exc α
  | ok => (after, .ok a)
  | failed e => (before, .error e)
  | lost e => (after, .error e)

namespace Backend

def init : Backend := ⟨.empty, [], []⟩

/-- The records of a conversation. -/
def records (b : Backend) (cid : String) : List Record := b.log.filter fun r => decide (r.key = cid)

/-- The sequence numbers committed for a conversation, in order. -/
def commitsOf (b : Backend) (cid : String) : List ℕ :=
  (b.commits.filter fun c => decide (c.1 = cid)).map Prod.snd

def tick (b : Backend) : Backend := { b with redis := b.redis.tick }

variable (sm : RedisSequenceStateMachine)

/-- The stored expected sequence of a conversation, `0` when the key is absent. -/
def stored (b : Backend) (cid : String) : ℕ := (b.redis.get (sm.key cid)).getD 0

/-- The effect of a call. -/
def apply (b : Backend) : Call → Backend
  | .prepare cid seq => { b with redis := (sm.prepare b.redis cid seq).1 }
  | .send cid payload => { b with log := b.log ++ [⟨cid, payload⟩] }
  | .commit cid seq =>
    { b with redis := sm.commit b.redis cid seq, commits := b.commits ++ [(cid, seq)] }
  | .cleanup cid => { b with redis := sm.cleanup b.redis cid }
  | .utcNow => b

/-- A call with its fate; `now` is the clock. -/
def exec (b : Backend) (fate : Fate) (now : Datetime) : (c : Call) → Backend × Reply c
  | .prepare cid seq =>
    fate.deliver b (b.apply sm (.prepare cid seq)) (sm.prepare b.redis cid seq).2
  | .send cid payload => fate.deliver b (b.apply sm (.send cid payload)) ()
  | .commit cid seq => fate.deliver b (b.apply sm (.commit cid seq)) ()
  | .cleanup cid => fate.deliver b (b.apply sm (.cleanup cid)) ()
  | .utcNow => (b, now)

end Backend

/-- The number a call pre-checks for `cid`. -/
def Call.prepareOf (cid : String) : Call → Option ℕ
  | .prepare c seq => if c = cid then some seq else none
  | _ => none

/-- The number a call commits for `cid`. -/
def Call.commitOf (cid : String) : Call → Option ℕ
  | .commit c seq => if c = cid then some seq else none
  | _ => none

/-! ## Handlers -/

/-- The service's pydantic model and its sequence state machine. -/
structure Deps where
  modelValidate : Json → Except ValidationError InboundMessage
  sm : RedisSequenceStateMachine

/-- What a connection hands to `handle_message`. -/
structure Submission where
  raw : Json
  conversationId : String

namespace Deps

variable (d : Deps)

/-- What pydantic does with a `str` field: it takes JSON strings only, and leaves them as they
are. -/
def StrFields : Prop :=
  ∀ raw m, d.modelValidate raw = .ok m → raw.bodyConversationId = some m.conversationId

/-- The message a submission validates to. -/
def message? (s : Submission) : Option InboundMessage := (d.modelValidate s.raw).toOption

def program (s : Submission) : Prog Call Reply (Except Exc OrchestratorResult) :=
  (TwoPhaseOrchestrator.handleMessage d.modelValidate s.raw s.conversationId).run

end Deps

variable {d : Deps}

/-- A message handler; `stopped` when it was cut off. -/
structure Handler (d : Deps) where
  submission : Submission
  thread : Thread (d.program submission)
  stopped : Bool

namespace Handler

def start (s : Submission) : Handler d := ⟨s, .start _, false⟩

def message? (h : Handler d) : Option InboundMessage := d.message? h.submission

/-- The call the handler waits in. -/
def pending (h : Handler d) : Option Call := if h.stopped then none else h.thread.rest.pending

/-- The handler's answer, once it has returned one. -/
def answer? (h : Handler d) : Option OrchestratorResult := h.thread.rest.result.bind Except.toOption

def advance (h : Handler d) (answer : ∀ c, Reply c) : Handler d :=
  { h with thread := h.thread.advance answer }

/-- The handler works for the conversation: its message is valid and names it. -/
def For (h : Handler d) (cid : String) : Prop := ∃ m ∈ h.message?, m.conversationId = cid

instance (h : Handler d) (cid : String) : Decidable (h.For cid) :=
  match hm : h.message? with
  | none => .isFalse (by rintro ⟨m, hm', -⟩; simp [hm] at hm')
  | some m => decidable_of_iff (m.conversationId = cid) (by simp [For, hm])

end Handler

/-! ## The system -/

structure World (d : Deps) where
  backend : Backend
  handlers : List (Handler d)

inductive Event
  | submit (s : Submission)
  | exec (id : ℕ) (fate : Fate) (now : Datetime)
  | stop (id : ℕ)
  | tick

namespace World

def init : World d := ⟨.init, []⟩

/-- The expected sequence of a conversation. -/
def stored (w : World d) (cid : String) : ℕ := w.backend.stored d.sm cid

def records (w : World d) (cid : String) : List Record := w.backend.records cid

/-- The call handler `id` waits in. -/
def pending (w : World d) (id : ℕ) : Option Call := w.handlers[id]?.bind Handler.pending

/-- The pending call `c` of handler `id` runs. -/
def serve (w : World d) (id : ℕ) (h : Handler d) (c : Call) (fate : Fate) (now : Datetime) :
    World d :=
  ⟨(w.backend.exec d.sm fate now c).1,
    w.handlers.set id (h.advance fun c => (w.backend.exec d.sm fate now c).2)⟩

def step (w : World d) : Event → World d
  | .submit s => { w with handlers := w.handlers ++ [.start s] }
  | .exec id fate now =>
    match w.handlers[id]? with
    | none => w
    | some h =>
      match h.pending with
      | none => w
      | some c => w.serve id h c fate now
  | .stop id => { w with handlers := w.handlers.modify id fun h => { h with stopped := true } }
  | .tick => { w with backend := w.backend.tick }

/-- The state after the events `es`. -/
abbrev after (d : Deps) (es : List Event) : World d := run step init es

/-- The sequence key of `cid` does not expire in this step. -/
def NoExpiry (cid : String) (w : World d) : Event → Prop
  | .tick => ∀ e ∈ w.backend.redis (d.sm.key cid), 1 < e.ttl
  | _ => True

instance (cid : String) (w : World d) : DecidablePred (w.NoExpiry cid)
  | .tick => inferInstanceAs (Decidable (∀ e ∈ w.backend.redis (d.sm.key cid), 1 < e.ttl))
  | .submit _ | .exec .. | .stop _ => .isTrue trivial

/-- A handler for `cid` starts only when no other one is in flight. -/
def Sequential (cid : String) (w : World d) : Event → Prop
  | .submit s =>
    (∃ m ∈ d.message? s, m.conversationId = cid) → ∀ h ∈ w.handlers, h.For cid → h.pending = none
  | _ => True

instance (cid : String) (w : World d) : DecidablePred (w.Sequential cid)
  | .submit s =>
    have : Decidable (∃ m ∈ d.message? s, m.conversationId = cid) :=
      inferInstanceAs (Decidable ((Handler.start s : Handler d).For cid))
    inferInstanceAs (Decidable (_ → ∀ h ∈ w.handlers, h.For cid → h.pending = none))
  | .tick | .exec .. | .stop _ => .isTrue trivial

/-- The handlers of `P` pre-check only numbers of `cid` that Lua does not read as the
expected one. -/
def Unexpected (cid : String) (P : ℕ → Prop) (w : World d) : Event → Prop
  | .exec id _ _ => P id →
    ∀ seq ∈ (w.pending id).bind (Call.prepareOf cid), tonumber seq ≠ w.stored cid
  | _ => True

instance (cid : String) (P : ℕ → Prop) [DecidablePred P] (w : World d) :
    DecidablePred (w.Unexpected cid P)
  | .exec id _ _ => inferInstanceAs (Decidable (P id →
      ∀ seq ∈ (w.pending id).bind (Call.prepareOf cid), tonumber seq ≠ w.stored cid))
  | .tick | .submit _ | .stop _ => .isTrue trivial

/-- The commits of `cid` come in non-decreasing order of their numbers. -/
def CommitsInOrder (cid : String) (w : World d) : Event → Prop
  | .exec _ (.failed _) _ => True
  | .exec id _ _ =>
    ∀ seq ∈ (w.pending id).bind (Call.commitOf cid), ∀ n ∈ w.backend.commitsOf cid, n ≤ seq
  | _ => True

instance (cid : String) (w : World d) : DecidablePred (w.CommitsInOrder cid)
  | .exec _ (.failed _) _ => .isTrue trivial
  | .exec id .ok _ | .exec id (.lost _) _ =>
    inferInstanceAs (Decidable (∀ seq ∈ (w.pending id).bind (Call.commitOf cid),
      ∀ n ∈ w.backend.commitsOf cid, n ≤ seq))
  | .tick | .submit _ | .stop _ => .isTrue trivial

end World

end Transcribe
