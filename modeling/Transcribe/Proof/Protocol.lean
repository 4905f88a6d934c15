import Transcribe.Model.Orchestrator

/-!
# What a message handler does

The calls of `handle_message` follow a protocol: `Stage` is where a handler stands,
read off its calls and their replies, `protocol` says which call each stage allows.

* `handleMessage_sat`: the handler keeps to the protocol whatever the replies, and
  its answer is the one of the stage it stops in.
-/

namespace Transcribe

open Resumption TwoPhaseOrchestrator

/-- Where a handler stands. `failed s` is the stage in which the error scenario `s` is
answered. -/
inductive Stage
  | start
  | ready
  | replayed
  | persisted
  | committed
  | failed (s : ProtocolErrorScenario)

namespace Stage

/-- The call a stage allows to the handler of `m?`; `utcNow` is always allowed. -/
def Allows (m? : Option InboundMessage) : Stage → Call → Prop
  | _, .utcNow => True
  | start, .prepare cid seq => ∃ m ∈ m?, cid = m.conversationId ∧ seq = m.sequenceNumber
  | ready, .send cid p =>
    ∃ m ∈ m?, cid = m.conversationId ∧ ∃ producedAt, p = toKafkaPayload producedAt m
  | persisted, .commit cid seq => ∃ m ∈ m?, cid = m.conversationId ∧ seq = m.sequenceNumber
  | committed, .cleanup cid => ∃ m ∈ m?, cid = m.conversationId ∧ m.eventType = .sessionComplete
  | _, _ => False

/-- The stage after a reply. -/
def next : Stage → (c : Call) → Reply c → Stage
  | _, .prepare .., .ok o =>
    match o.status with
    | .preCheckOk => ready
    | .idempotent => replayed
    | .outOfOrder => failed .sequenceOutOfOrder
  | _, .prepare .., .error _ => failed .orchestratorInternalException
  | _, .send .., .ok _ => persisted
  | _, .send .., .error (.timeoutError _) => failed .downstreamTimeout
  | _, .send .., .error _ => failed .downstreamUnavailable
  | _, .commit .., .ok _ => committed
  | _, .commit .., .error _ => failed .orchestratorInternalException
  | s, .cleanup _, _ => s
  | s, .utcNow, _ => s

variable {m? : Option InboundMessage} {s : Stage} {cid : String} {seq : ℕ}

theorem allows_prepare (h : s.Allows m? (.prepare cid seq)) :
    s = start ∧ ∃ m ∈ m?, cid = m.conversationId ∧ seq = m.sequenceNumber := by
  cases s with
  | start => exact ⟨rfl, h⟩
  | _ => exact h.elim

theorem allows_send {p : KafkaPayload} (h : s.Allows m? (.send cid p)) :
    s = ready ∧ ∃ m ∈ m?, cid = m.conversationId ∧ ∃ t, p = toKafkaPayload t m := by
  cases s with
  | ready => exact ⟨rfl, h⟩
  | _ => exact h.elim

theorem allows_commit (h : s.Allows m? (.commit cid seq)) :
    s = persisted ∧ ∃ m ∈ m?, cid = m.conversationId ∧ seq = m.sequenceNumber := by
  cases s with
  | persisted => exact ⟨rfl, h⟩
  | _ => exact h.elim

theorem allows_cleanup (h : s.Allows m? (.cleanup cid)) :
    s = committed ∧ ∃ m ∈ m?, cid = m.conversationId ∧ m.eventType = .sessionComplete := by
  cases s with
  | committed => exact ⟨rfl, h⟩
  | _ => exact h.elim

end Stage

def protocol (m? : Option InboundMessage) : Monitor Call Reply Stage := ⟨Stage.Allows m?, Stage.next⟩

/-- The ACK of a message, of its own event type. -/
def IsAck (m : InboundMessage) (r : OrchestratorResult) : Prop :=
  ∃ t : Datetime, r.response =
      (match m.eventType with
        | .sessionComplete => buildEolAck t m.conversationId m.sequenceNumber
        | .sessionOngoing => buildTranscriptAck t m.conversationId m.sequenceNumber) ∧
    r.disconnect = disconnectAfterSuccess m.eventType ∧ r.closeCode = .normal

/-- The ERROR of a scenario. -/
def IsError (s : ProtocolErrorScenario) (r : OrchestratorResult) : Prop :=
  ∃ t cid details, r.response = s.buildResponse t cid details ∧ r.disconnect = true ∧
    s.wsCloseCode = some r.closeCode

/-- The answer of a handler that stops in a stage: the ACK after a replay or a commit,
otherwise an ERROR. Before the pre-check only validation has failed, after it only the
`assert` on the document. -/
def Stage.Answers (m? : Option InboundMessage) (raw : Json) :
    Stage → Except Exc OrchestratorResult → Prop
  | replayed, .ok r | committed, .ok r => ∃ m ∈ m?, IsAck m r
  | start, .ok r => m? = none ∧ ∃ s, IsError s r
  | ready, .ok r => raw.isDict = false ∧ IsError .orchestratorInternalException r
  | failed s, .ok r => IsError s r
  | _, _ => False

/-- The stages in which `_process` raises. -/
def Stage.Raises (raw : Json) : Stage → Prop
  | failed s => s = .orchestratorInternalException
  | ready => raw.isDict = false
  | _ => False

/-- How `_process` ends. -/
def Stage.Ends (m? : Option InboundMessage) (raw : Json) (s : Stage) :
    Except Exc OrchestratorResult → Prop
  | .ok r => s.Answers m? raw (.ok r)
  | .error _ => s.Raises raw

variable {m? : Option InboundMessage} {m : InboundMessage} {s : Stage} {raw : Json}

/-- An ERROR answer, in any stage. -/
theorem failure_sat {scenario : ProtocolErrorScenario} (h : scenario.wsCloseCode ≠ none)
    (cid : String) (details : Option String) :
    (protocol m?).Sat (failure scenario cid details).run s
      fun s' r => s' = s ∧ ∃ r', r = .ok r' ∧ IsError scenario r' := by
  obtain ⟨code, hcode⟩ := Option.ne_none_iff_exists'.1 h
  refine ⟨trivial, fun t => ?_⟩
  rw [ProtocolErrorScenario.requireWsCloseCode, hcode]
  exact ⟨rfl, _, rfl, t, cid, details, rfl, rfl, hcode⟩

/-- A success answer, in any stage. -/
theorem success_sat (m : InboundMessage) :
    (protocol m?).Sat (success m).run s fun s' r => s' = s ∧ ∃ r', r = .ok r' ∧ IsAck m r' := by
  unfold success buildSuccessAck
  refine ⟨trivial, fun t => ?_⟩
  cases h : m.eventType with
  | sessionComplete => exact ⟨rfl, _, rfl, t, by rw [h], by rw [h], rfl⟩
  | sessionOngoing => exact ⟨rfl, _, rfl, t, by rw [h], by rw [h], rfl⟩

/-- A success as the outcome of `_process`, after a replay or a commit. -/
theorem success_ends (hm : m ∈ m?) (hs : s = .replayed ∨ s = .committed) :
    (protocol m?).Sat (success m).run s (Stage.Ends m? raw) := by
  refine Monitor.sat_mono ?_ (success_sat m)
  rintro s' a ⟨rfl, r', rfl, hr'⟩
  rcases hs with rfl | rfl <;> exact ⟨m, hm, hr'⟩

theorem advance_sat (hm : m ∈ m?) :
    (protocol m?).Sat (advance m).run .persisted (Stage.Ends m? raw) := by
  refine Monitor.sat_exceptT_bind.2 ⟨⟨m, hm, rfl, rfl⟩, fun r => ?_⟩
  cases r with
  | error e => exact rfl
  | ok _ =>
    have hack : (protocol m?).Sat (success m).run .committed (Stage.Ends m? raw) :=
      success_ends hm (.inr rfl)
    simp only [Monitor.Sat, Monitor.After]
    cases ht : m.eventType with
    | sessionOngoing => exact hack
    | sessionComplete => exact Monitor.sat_attempt_bind.2 ⟨⟨m, hm, rfl, ht⟩, fun _ => hack⟩

/-- A failure as the outcome of `_process`. -/
theorem failure_ends {scenario : ProtocolErrorScenario} (h : scenario.wsCloseCode ≠ none)
    (cid : String) (details : Option String) :
    (protocol m?).Sat (failure scenario cid details).run (.failed scenario)
      (Stage.Ends m? raw) := by
  refine Monitor.sat_mono ?_ (failure_sat h cid details)
  rintro s' a ⟨rfl, r', rfl, hr'⟩
  exact hr'

theorem persist_sat (hm : m ∈ m?) :
    (protocol m?).Sat (persist m).run .ready (Stage.Ends m? raw) := by
  refine Monitor.sat_exceptT_bind.2 ⟨trivial, fun producedAt => ?_⟩
  refine Monitor.sat_attempt_bind.2 ⟨⟨m, hm, rfl, producedAt, rfl⟩, fun r => ?_⟩
  rcases r with (_ | _ | _) | _
  · exact failure_ends (by decide) _ _
  · exact failure_ends (by decide) _ _
  · exact failure_ends (by decide) _ _
  · exact advance_sat hm

theorem precheck_sat (hm : m ∈ m?) :
    (protocol m?).Sat (precheck raw m).run .start (Stage.Ends m? raw) := by
  refine Monitor.sat_exceptT_bind.2 ⟨⟨m, hm, rfl, rfl⟩, fun r => ?_⟩
  rcases r with e | ⟨status, expected⟩
  · exact rfl
  cases status with
  | preCheckOk =>
    simp only [Monitor.Sat, Monitor.After]
    split
    · exact persist_sat hm
    · next hraw => exact Bool.eq_false_iff.2 hraw
  | idempotent => exact success_ends hm (.inl rfl)
  | outOfOrder => exact failure_ends (by decide) _ _

theorem classifyValidationError_wsCloseCode (e : ValidationError) :
    (classifyValidationError e).wsCloseCode ≠ none := by
  unfold classifyValidationError
  rcases hf : e.types.findSome? _ with _ | s
  · decide
  · obtain ⟨t, -, ht⟩ := List.exists_of_findSome?_eq_some hf
    simp only [Option.getD_some]
    split_ifs at ht <;> obtain rfl := Option.some.inj ht <;> decide

variable {modelValidate : Json → Except ValidationError InboundMessage}

theorem process_sat (cid : String) :
    (protocol (modelValidate raw).toOption).Sat (process modelValidate raw cid).run .start
      (Stage.Ends (modelValidate raw).toOption raw) := by
  unfold process
  cases hv : modelValidate raw with
  | ok m => exact precheck_sat rfl
  | error e =>
    refine Monitor.sat_mono ?_ (failure_sat (classifyValidationError_wsCloseCode e) _ _)
    rintro s' a ⟨rfl, r', rfl, hr'⟩
    exact ⟨rfl, _, hr'⟩

/-- **A handler keeps to the protocol and answers as its last stage says.** -/
theorem handleMessage_sat (cid : String) :
    (protocol (modelValidate raw).toOption).Sat (handleMessage modelValidate raw cid).run .start
      (Stage.Answers (modelValidate raw).toOption raw) := by
  refine Monitor.sat_attempt_bind.2 (Monitor.sat_mono ?_ (process_sat _))
  rintro s (e | r) hs
  · refine Monitor.sat_mono ?_ (failure_sat (by decide) _ _)
    rintro s' a ⟨rfl, r', rfl, hr'⟩
    cases s' with
    | ready => exact ⟨hs, hr'⟩
    | failed s => obtain rfl : s = _ := hs; exact hr'
    | _ => exact hs.elim
  · exact hs

end Transcribe
