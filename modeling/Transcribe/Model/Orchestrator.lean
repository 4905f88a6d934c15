import Transcribe.Lib.Resumption
import Transcribe.Model.Redis
import Transcribe.Model.Schemas

/-!
# The two-phase-commit orchestrator

`TwoPhaseOrchestrator.handle_message` (`orchestrator/two_phase.py`) as a program over
its backend calls. A call returns or raises; the reply is the environment's. The
sections of `_process` are `process` (validation and prepare), `persist` (Kafka) and
`advance` (commit, cleanup, ACK).
-/

namespace Transcribe

open Resumption

/-- A Kafka value: the validated message and `enrich.eventProduceTimestamp`. -/
structure KafkaPayload where
  metaData : MetaData
  payload : Payload
  eventProduceTimestamp : Datetime
deriving DecidableEq

/-- `KafkaMessageConverter.to_kafka_payload`, at the time `producedAt`. -/
def toKafkaPayload (producedAt : Datetime) (msg : InboundMessage) : KafkaPayload :=
  ⟨msg.metaData, msg.payload, producedAt⟩

/-- What a message handler asks of its environment. -/
inductive Call
  | prepare (conversationId : String) (seq : ℕ)
  | send (conversationId : String) (payload : KafkaPayload)
  | commit (conversationId : String) (seq : ℕ)
  | cleanup (conversationId : String)
  | utcNow
deriving DecidableEq

/-- A backend call returns or raises. -/
def Reply : Call → Type
  | .prepare .. => Except Exc PrepareOutcome
  | .send .. | .commit .. | .cleanup .. => Except Exc Unit
  | .utcNow => Datetime

/-- A coroutine of the orchestrator. -/
abbrev Coro := ExceptT Exc (Prog Call Reply)

namespace Coro

def prepare (conversationId : String) (seq : ℕ) : Coro PrepareOutcome :=
  ExceptT.mk (.perform (Call.prepare conversationId seq))

def send (conversationId : String) (payload : KafkaPayload) : Coro Unit :=
  ExceptT.mk (.perform (Call.send conversationId payload))

def commit (conversationId : String) (seq : ℕ) : Coro Unit :=
  ExceptT.mk (.perform (Call.commit conversationId seq))

def cleanup (conversationId : String) : Coro Unit :=
  ExceptT.mk (.perform (Call.cleanup conversationId))

def utcNow : Coro Datetime := ExceptT.lift (.perform Call.utcNow)

end Coro

/-- The orchestrator's answer to the transport. -/
structure OrchestratorResult where
  response : Response
  disconnect : Bool
  closeCode : WsCloseCode
deriving DecidableEq

namespace TwoPhaseOrchestrator

/-- `_build_success_ack`. -/
def buildSuccessAck (conversationId : String) (sequenceNumber : ℕ) (eventType : EventType) :
    Coro Response := do
  let now ← Coro.utcNow
  match eventType with
  | .sessionComplete => return buildEolAck now conversationId sequenceNumber
  | .sessionOngoing => return buildTranscriptAck now conversationId sequenceNumber

/-- `_disconnect_after_success`. -/
def disconnectAfterSuccess (eventType : EventType) : Bool := decide (eventType = .sessionComplete)

/-- An ERROR answer of a scenario; it always disconnects. -/
def failure (scenario : ProtocolErrorScenario) (conversationId : String) (details : Option String) :
    Coro OrchestratorResult := do
  let now ← Coro.utcNow
  let closeCode ← ofExcept scenario.requireWsCloseCode
  return ⟨scenario.buildResponse now conversationId details, true, closeCode⟩

/-- A success answer: it disconnects, normally, after a completion. -/
def success (msg : InboundMessage) : Coro OrchestratorResult := do
  let ack ← buildSuccessAck msg.conversationId msg.sequenceNumber msg.eventType
  return ⟨ack, disconnectAfterSuccess msg.eventType, .normal⟩

/-- Sections 4 and 5 of `_process`: commit; for a completion, cleanup, whose failure
is only logged; then the ACK. -/
def advance (msg : InboundMessage) : Coro OrchestratorResult := do
  Coro.commit msg.conversationId msg.sequenceNumber
  match msg.eventType with
  | .sessionComplete =>
    let _ ← attempt (Coro.cleanup msg.conversationId)
    success msg
  | .sessionOngoing => success msg

/-- Section 3 of `_process`: assemble the Kafka value, send it, and advance if it was
persisted. -/
def persist (msg : InboundMessage) : Coro OrchestratorResult := do
  let producedAt ← Coro.utcNow
  match ← attempt (Coro.send msg.conversationId (toKafkaPayload producedAt msg)) with
  | .error (.timeoutError _) => failure .downstreamTimeout msg.conversationId none
  | .error e =>
    failure .downstreamUnavailable msg.conversationId (some (prefixOf e.str maxErrorMessageLen))
  | .ok () => advance msg

/-- Section 2 of `_process`: the atomic pre-check. The `assert` before section 3 raises
with an empty text. -/
def precheck (raw : Json) (msg : InboundMessage) : Coro OrchestratorResult := do
  let outcome ← Coro.prepare msg.conversationId msg.sequenceNumber
  match outcome.status with
  | .idempotent => success msg
  | .outOfOrder =>
    failure .sequenceOutOfOrder msg.conversationId
      (some (ProtocolErrorScenario.sequenceDetails msg.sequenceNumber))
  | .preCheckOk => if raw.isDict then persist msg else throw (.other "")

/-- `_process`; `modelValidate` is `InboundMessage.model_validate`. -/
def process (modelValidate : Json → Except ValidationError InboundMessage) (raw : Json)
    (conversationId : String) : Coro OrchestratorResult :=
  match modelValidate raw with
  | .error e =>
    failure (classifyValidationError e) conversationId (some (prefixOf e.str maxErrorDetailsLen))
  | .ok msg => precheck raw msg

/-- `handle_message`. -/
def handleMessage (modelValidate : Json → Except ValidationError InboundMessage) (raw : Json)
    (conversationId : String) : Coro OrchestratorResult := do
  let conversationId := raw.bodyConversationId.getD conversationId
  match ← attempt (process modelValidate raw conversationId) with
  | .ok result => return result
  | .error e =>
    failure .orchestratorInternalException conversationId
      (some (prefixOf e.str maxErrorMessageLen))

end TwoPhaseOrchestrator

end Transcribe
