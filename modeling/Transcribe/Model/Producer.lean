import Transcribe.Lib.EventSystem
import Transcribe.Lib.Sections

/-!
# The Kafka producer

`KafkaProducer` (`producer/kafka_producer.py`) makes an `AIOKafkaProducer` at the first call and
keeps it in a field that all its callers share. A coroutine is suspended only in `start()`,
`stop()` and `send_and_wait()`, each of which returns, raises, or is cancelled: an event is one
section of a call.
-/

namespace Transcribe

open Resumption EventSystem

/-- How an await ends. -/
inductive Awaited | returned | raised | cancelled
deriving DecidableEq

/-- An `AIOKafkaProducer`: how its `start()` ended, if it has, whether a `stop()` of it has begun,
has returned, has raised or been cancelled. -/
structure Underlying where
  start : Option Awaited := none
  stopBegun : Bool := false
  stopped : Bool := false
  stopFailed : Bool := false
deriving DecidableEq

/-- An `AIOKafkaProducer` that has been made. -/
def Underlying.fresh : Underlying := {}

/-- What a call asks of its environment. `getField` and `setField` access `self._producer`,
`handOver` is where `_get_producer` returns a producer to its caller, `beginStop` and `awaitStop`
are `stop()` up to its await and the await. -/
inductive ProducerCall
  | getField
  | setField (field : Option ℕ)
  | create
  | start (p : ℕ)
  | handOver (p : ℕ)
  | beginStop (p : ℕ)
  | awaitStop (p : ℕ)
  | sendAndWait (p : ℕ)

def ProducerReply : ProducerCall → Type
  | .getField => Option ℕ
  | .create => ℕ
  | .start _ | .awaitStop _ | .sendAndWait _ => Awaited
  | .setField _ | .handOver _ | .beginStop _ => Unit

/-- An `Exception`, or `CancelledError`, which is none. -/
inductive ProducerExc | exception | cancelledError
deriving DecidableEq

abbrev ProducerCoro := ExceptT ProducerExc (Prog ProducerCall ProducerReply)

namespace ProducerCoro

def getField : ProducerCoro (Option ℕ) := ExceptT.lift (.perform ProducerCall.getField)

def setField (field : Option ℕ) : ProducerCoro Unit := ExceptT.lift (.perform (ProducerCall.setField field))

def create : ProducerCoro ℕ := ExceptT.lift (.perform ProducerCall.create)

def handOver (p : ℕ) : ProducerCoro Unit := ExceptT.lift (.perform (ProducerCall.handOver p))

def beginStop (p : ℕ) : ProducerCoro Unit := ExceptT.lift (.perform (ProducerCall.beginStop p))

def start (p : ℕ) : ProducerCoro Awaited := ExceptT.lift (.perform (ProducerCall.start p))

def awaitStop (p : ℕ) : ProducerCoro Awaited := ExceptT.lift (.perform (ProducerCall.awaitStop p))

def sendAndWait (p : ℕ) : ProducerCoro Awaited := ExceptT.lift (.perform (ProducerCall.sendAndWait p))

/-- An await raises what it ended with. -/
def settled : Awaited → ProducerCoro Unit
  | .returned => return ()
  | .raised => throw .exception
  | .cancelled => throw .cancelledError

end ProducerCoro

open ProducerCoro

/-! ## `KafkaProducer` -/

namespace KafkaProducer

def close : ProducerCoro Unit := do
  match ← getField with
  | none => return ()
  | some p =>
    beginStop p
    settled (← awaitStop p)
    setField none

/-- `_get_producer`. -/
def getProducer : ProducerCoro ℕ := do
  if (← getField).isNone then
    let producer ← create
    setField (some producer)
    match ← start producer with
    | .returned => pure ()
    | .raised =>
      close
      throw .exception
    | .cancelled => throw .cancelledError
  match ← getField with
  | none => throw .exception
  | some producer =>
    handOver producer
    return producer

def ensureReady : ProducerCoro Unit := do
  match ← attempt getProducer with
  | .ok _ => return ()
  | .error .exception =>
    close
    throw .exception
  | .error .cancelledError => throw .cancelledError

/-- The key and the value are encoded before the first await. -/
def send : ProducerCoro Unit := do
  let producer ← getProducer
  settled (← sendAndWait producer)

end KafkaProducer

inductive ProducerMethod | send | ensureReady | close
deriving DecidableEq

def ProducerMethod.program : ProducerMethod → Prog ProducerCall ProducerReply (Except ProducerExc Unit)
  | .send => KafkaProducer.send.run
  | .ensureReady => KafkaProducer.ensureReady.run
  | .close => KafkaProducer.close.run

/-! ## One instance -/

/-- A call under way. -/
structure ProducerTask where
  method : ProducerMethod
  thread : Thread method.program

/-- The call it waits in. -/
def ProducerTask.pending (x : ProducerTask) : Option ProducerCall := x.thread.rest.pending

/-- What the calls share: the field, and every underlying producer made. `handed` is history: the
producers handed to callers, as they were then. -/
structure ProducerState where
  field : Option ℕ
  producers : List Underlying
  handed : List Underlying

structure ProducerInstance where
  state : ProducerState
  tasks : List ProducerTask

/-- A method is called and runs its first section; a call goes on from its await, which has
ended. -/
inductive ProducerEvent
  | call (m : ProducerMethod)
  | proceed (id : ℕ) (outcome : Awaited)

namespace ProducerState

variable (s : ProducerState)

def init : ProducerState := ⟨none, [], []⟩

/-- Underlying producer `p` changes. -/
def modify (p : ℕ) (f : Underlying → Underlying) : ProducerState :=
  { s with producers := s.producers.modify p f }

/-- The calls that do not suspend. -/
def serve : (i : ProducerCall) → Option (ProducerState × ProducerReply i)
  | .getField => some (s, s.field)
  | .setField field => some ({ s with field := field }, ())
  | .create => some ({ s with producers := s.producers ++ [.fresh] }, s.producers.length)
  | .handOver p => some ({ s with handed := s.producers[p]?.toList ++ s.handed }, ())
  | .beginStop p => some (s.modify p fun u => { u with stopBegun := true }, ())
  | .start _ | .awaitStop _ | .sendAndWait _ => none

/-- An await ends. -/
def ended (outcome : Awaited) : ProducerCall → ProducerState
  | .start p => s.modify p fun u => { u with start := some outcome }
  | .awaitStop p => s.modify p fun u =>
    match outcome with
    | .returned => { u with stopped := true }
    | _ => { u with stopFailed := true }
  | _ => s

end ProducerState

namespace ProducerInstance

variable (w : ProducerInstance)

def init : ProducerInstance := ⟨.init, []⟩

/-- The reply that ends an await. -/
def reply (outcome : Awaited) : (i : ProducerCall) → ProducerReply i
  | .start _ | .awaitStop _ | .sendAndWait _ => outcome
  | .getField => none
  | .create => (0 : ℕ)
  | .setField _ | .handOver _ | .beginStop _ => ()

/-- The section that starts where `x` is. -/
def settle (x : ProducerTask) (s : ProducerState) : ProducerState × ProducerTask :=
  let r := x.thread.settle ProducerState.serve s
  (r.1, { x with thread := r.2 })

def step : ProducerEvent → ProducerInstance
  | .call m =>
    let r := settle ⟨m, .start _⟩ w.state
    ⟨r.1, w.tasks ++ [r.2]⟩
  | .proceed id outcome =>
    match w.tasks[id]? with
    | none => w
    | some x =>
      match x.pending with
      | none => w
      | some i =>
        let r := settle { x with thread := x.thread.advance (reply outcome) } (w.state.ended outcome i)
        ⟨r.1, w.tasks.set id r.2⟩

/-- The state after the events `es`. -/
abbrev after (es : List ProducerEvent) : ProducerInstance := run step init es

end ProducerInstance

end Transcribe
