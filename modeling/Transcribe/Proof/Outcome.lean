import Transcribe.Proof.Protocol
import Transcribe.Proof.Validation

/-!
# The outcome of one message

* `handleMessage_story`: the backend calls of a handler, with their replies, tell one of
  eight stories, and its answer is the one that ends the story.
* `message_outcome`: which call is made when, and which answer is given when.
-/

namespace Transcribe

open Resumption TwoPhaseOrchestrator

/-- A call to Redis or Kafka. -/
def Call.isBackend : Call → Bool
  | .utcNow => false
  | _ => true

/-- A call of a handler with its reply. -/
abbrev Reckoned := Σ c, Reply c

/-- The calls to Redis and Kafka. -/
def backendCalls (τ : List Reckoned) : List Reckoned := τ.filter fun e => e.1.isBackend

/-- A backend call for a message, with its reply. -/
inductive Effect
  | prepare (r : Except Exc PrepareOutcome)
  | send (producedAt : Datetime) (r : Except Exc Unit)
  | commit (r : Except Exc Unit)
  | cleanup (r : Except Exc Unit)

/-- The call of an effect. -/
def InboundMessage.reckon (m : InboundMessage) : Effect → Reckoned
  | .prepare r => ⟨.prepare m.conversationId m.sequenceNumber, r⟩
  | .send t r => ⟨.send m.conversationId (toKafkaPayload t m), r⟩
  | .commit r => ⟨.commit m.conversationId m.sequenceNumber, r⟩
  | .cleanup r => ⟨.cleanup m.conversationId, r⟩

/-! ## Stories -/

/-- The pre-check passed. -/
abbrev Effect.preCheckOk (n : Option ℕ) : Effect := .prepare (.ok ⟨.preCheckOk, n⟩)

/-- What the backend calls of the handler of `m` come to: an ACK, or the ERROR of a scenario. -/
inductive Story (m : InboundMessage) : List Effect → Option ProtocolErrorScenario → Prop
  | prepareRaised (e : Exc) : Story m [.prepare (.error e)] (some .orchestratorInternalException)
  | idempotent (n : Option ℕ) : Story m [.prepare (.ok ⟨.idempotent, n⟩)] none
  | outOfOrder (n : Option ℕ) : Story m [.prepare (.ok ⟨.outOfOrder, n⟩)] (some .sequenceOutOfOrder)
  | sendTimeout (n : Option ℕ) (t : Datetime) (text : String) :
    Story m [.preCheckOk n, .send t (.error (.timeoutError text))] (some .downstreamTimeout)
  | sendRaised (n : Option ℕ) (t : Datetime) (e : Exc) (h : ∀ text, e ≠ .timeoutError text) :
    Story m [.preCheckOk n, .send t (.error e)] (some .downstreamUnavailable)
  | commitRaised (n : Option ℕ) (t : Datetime) (e : Exc) :
    Story m [.preCheckOk n, .send t (.ok ()), .commit (.error e)] (some .orchestratorInternalException)
  | ongoing (n : Option ℕ) (t : Datetime) (h : m.eventType = .sessionOngoing) :
    Story m [.preCheckOk n, .send t (.ok ()), .commit (.ok ())] none
  | complete (n : Option ℕ) (t : Datetime) (h : m.eventType = .sessionComplete) (r : Except Exc Unit) :
    Story m [.preCheckOk n, .send t (.ok ()), .commit (.ok ()), .cleanup r] none

/-- The answer that ends a story. -/
def Verdict (m : InboundMessage) : Option ProtocolErrorScenario → OrchestratorResult → Prop
  | none, r => IsAck m r
  | some s, r => IsError s r ∧ r.response.conversationId = m.conversationId

/-- How a handler ends that got the document `raw` over a connection of `c`. -/
inductive Told (d : Deps) (raw : Json) (c : String) : List Reckoned → OrchestratorResult → Prop
  | invalid {e : ValidationError} {r : OrchestratorResult} (hv : d.modelValidate raw = .error e)
    (hr : IsError (classifyValidationError e) r)
    (hc : r.response.conversationId = raw.bodyConversationId.getD c) : Told d raw c [] r
  | valid {m : InboundMessage} {effects : List Effect} {v : Option ProtocolErrorScenario}
    {r : OrchestratorResult} (hv : d.modelValidate raw = .ok m) (hs : Story m effects v)
    (hr : Verdict m v r) : Told d raw c (effects.map m.reckon) r

/-- The backend calls of a handler. -/
def ledger : Monitor Call Reply (List Reckoned) := .record Call.isBackend

variable {m : InboundMessage} {s : List Reckoned} {raw : Json} {c : String} {d : Deps}

/-- An ERROR answer makes no backend call. -/
theorem failure_told {scenario : ProtocolErrorScenario} (h : scenario.wsCloseCode ≠ none)
    (c : String) (details : Option String) :
    ledger.Sat (failure scenario c details).run s fun s' out =>
      s' = s ∧ ∃ r, out = .ok r ∧ IsError scenario r ∧ r.response.conversationId = c := by
  obtain ⟨code, hcode⟩ := Option.ne_none_iff_exists'.1 h
  refine ⟨trivial, fun t => ?_⟩
  rw [ProtocolErrorScenario.requireWsCloseCode, hcode]
  exact ⟨rfl, _, rfl, ⟨t, c, details, rfl, rfl, hcode⟩, rfl⟩

/-- Nor does an ACK. -/
theorem success_told (m : InboundMessage) :
    ledger.Sat (success m).run s fun s' out => s' = s ∧ ∃ r, out = .ok r ∧ IsAck m r := by
  unfold success buildSuccessAck
  refine ⟨trivial, fun t => ?_⟩
  cases h : m.eventType with
  | sessionComplete => exact ⟨rfl, _, rfl, t, by rw [h], by rw [h], rfl⟩
  | sessionOngoing => exact ⟨rfl, _, rfl, t, by rw [h], by rw [h], rfl⟩

/-- How `_process` ends on a valid message: with the answer of its story, or with an exception
that `handle_message` answers. -/
def Ending (m : InboundMessage) (calls : List Reckoned) (out : Except Exc OrchestratorResult) : Prop :=
  ∃ effects v, calls = effects.map m.reckon ∧ Story m effects v ∧
    match out with
    | .ok r => Verdict m v r
    | .error _ => v = some .orchestratorInternalException

variable {effects : List Effect}

theorem failure_ending {scenario : ProtocolErrorScenario} (h : scenario.wsCloseCode ≠ none)
    (details : Option String) (hs : Story m effects (some scenario)) :
    ledger.Sat (failure scenario m.conversationId details).run (effects.map m.reckon) (Ending m) := by
  refine Monitor.sat_mono ?_ (failure_told h m.conversationId details)
  rintro _ _ ⟨rfl, r, rfl, hr⟩
  exact ⟨effects, some scenario, rfl, hs, hr⟩

theorem success_ending (hs : Story m effects none) :
    ledger.Sat (success m).run (effects.map m.reckon) (Ending m) := by
  refine Monitor.sat_mono ?_ (success_told m)
  rintro _ _ ⟨rfl, r, rfl, hr⟩
  exact ⟨effects, none, rfl, hs, hr⟩

theorem advance_ending (n : Option ℕ) (t : Datetime) :
    ledger.Sat (advance m).run ([.preCheckOk n, .send t (.ok ())].map m.reckon) (Ending m) := by
  refine Monitor.sat_exceptT_bind.2 ⟨trivial, fun r => ?_⟩
  cases r with
  | error e => exact ⟨_, _, rfl, .commitRaised n t e, rfl⟩
  | ok _ =>
    simp only [Monitor.Sat, Monitor.After]
    cases ht : m.eventType with
    | sessionOngoing => exact success_ending (.ongoing n t ht)
    | sessionComplete =>
      exact Monitor.sat_attempt_bind.2 ⟨trivial, fun r => success_ending (.complete n t ht r)⟩

theorem persist_ending (n : Option ℕ) :
    ledger.Sat (persist m).run ([.preCheckOk n].map m.reckon) (Ending m) := by
  refine Monitor.sat_exceptT_bind.2 ⟨trivial, fun t => ?_⟩
  refine Monitor.sat_attempt_bind.2 ⟨trivial, fun r => ?_⟩
  rcases r with (text | text | text) | _
  · exact failure_ending (by decide) _ (.sendTimeout n t text)
  · exact failure_ending (by decide) _ (.sendRaised n t (.webSocketDisconnect text) nofun)
  · exact failure_ending (by decide) _ (.sendRaised n t (.other text) nofun)
  · exact advance_ending n t

theorem precheck_ending (hraw : raw.isDict = true) : ledger.Sat (precheck raw m).run [] (Ending m) := by
  refine Monitor.sat_exceptT_bind.2 ⟨trivial, fun r => ?_⟩
  rcases r with e | ⟨status, n⟩
  · exact ⟨_, _, rfl, .prepareRaised e, rfl⟩
  · cases status with
    | preCheckOk =>
      simp only [Monitor.Sat, Monitor.After]
      rw [if_pos hraw]
      exact persist_ending n
    | idempotent => exact success_ending (.idempotent n)
    | outOfOrder => exact failure_ending (by decide) _ (.outOfOrder n)

/-- A document that validates is an object. -/
theorem Deps.StrFields.isDict (h : d.StrFields) (hv : d.modelValidate raw = .ok m) : raw.isDict = true := by
  have hbody := h raw m hv
  unfold Json.bodyConversationId at hbody
  cases raw with
  | obj l => rfl
  | _ => cases hbody

/-- **The calls of a handler tell a story, and its answer ends it.** -/
theorem handleMessage_story (hstr : d.StrFields) (raw : Json) (c : String) :
    ledger.Sat (d.program ⟨raw, c⟩) [] fun calls out => ∃ r, out = .ok r ∧ Told d raw c calls r := by
  unfold Deps.program handleMessage
  refine Monitor.sat_attempt_bind.2 ?_
  unfold process
  cases hv : d.modelValidate raw with
  | error e =>
    refine Monitor.sat_mono ?_ (failure_told (classifyValidationError_wsCloseCode e) _ _)
    rintro calls out ⟨rfl, r, rfl, hr, hc⟩
    exact ⟨r, rfl, .invalid hv hr hc⟩
  | ok m =>
    refine Monitor.sat_mono ?_ (precheck_ending (hstr.isDict hv))
    rintro calls (e | r) ⟨effects, v, rfl, hs, hv'⟩
    · -- what `_process` raises is answered for the message's conversation
      obtain rfl := hv'
      refine Monitor.sat_mono ?_ (failure_told (by decide) _ _)
      rintro _ _ ⟨rfl, r, rfl, hr, hc⟩
      rw [hstr raw m hv] at hc
      exact ⟨r, rfl, .valid hv hs ⟨hr, hc⟩⟩
    · exact ⟨r, rfl, .valid hv hs hv'⟩

/-- The story of a complete run. -/
theorem told_of_trace (hstr : d.StrFields) {τ : List Reckoned} {out : Except Exc OrchestratorResult}
    (h : Trace (d.program ⟨raw, c⟩) τ (.ret out)) :
    ∃ r, out = .ok r ∧ Told d raw c (backendCalls τ) r := by
  have hret := (handleMessage_story hstr raw c).returned h
  rwa [ledger, Monitor.record_after, List.nil_append] at hret

/-! ## Outcomes -/

/-- The answer is an ERROR with this code, and the connection is to be closed with that one. -/
def Refuses (r : OrchestratorResult) (code : ErrorCode) (closeCode : WsCloseCode) : Prop :=
  ∃ c e, r.response = .error c e ∧ e.code = code.value ∧ r.disconnect = true ∧ r.closeCode = closeCode

theorem IsError.refuses {scenario : ProtocolErrorScenario} {r : OrchestratorResult}
    (h : IsError scenario r) : Refuses r scenario.errorCode (closeCodeForError scenario.errorCode) := by
  obtain ⟨t, c, details, hr, hd, hclose⟩ := h
  refine ⟨c, _, hr, rfl, hd, ?_⟩
  exact (ProtocolErrorScenario.closeCodeForError_errorCode hclose).symm

theorem Refuses.eventType {r : OrchestratorResult} {code : ErrorCode} {closeCode : WsCloseCode}
    (h : Refuses r code closeCode) : r.response.eventType = .error := by
  obtain ⟨c, e, hr, -⟩ := h
  rw [hr]; rfl

theorem IsAck.not_error {r : OrchestratorResult} (h : IsAck m r) : r.response.eventType ≠ .error := by
  obtain ⟨t, hr, -⟩ := h
  rw [hr]
  cases m.eventType <;> nofun

/-- Why a valid message is refused, and with which codes. -/
inductive Fails (effects : List Effect) : ErrorCode → WsCloseCode → Prop
  | outOfOrder (n : Option ℕ) (h : .prepare (.ok ⟨.outOfOrder, n⟩) ∈ effects) :
    Fails effects .E1006 .policyViolation
  | sendTimeout (t : Datetime) (text : String) (h : .send t (.error (.timeoutError text)) ∈ effects) :
    Fails effects .E1011 .tryAgainLater
  | sendRaised (t : Datetime) (e : Exc) (he : ∀ text, e ≠ .timeoutError text)
    (h : .send t (.error e) ∈ effects) : Fails effects .E1008 .tryAgainLater
  | prepareRaised (e : Exc) (h : .prepare (.error e) ∈ effects) : Fails effects .E1007 .internalError
  | commitRaised (e : Exc) (h : .commit (.error e) ∈ effects) : Fails effects .E1007 .internalError

/-- The calls made for a valid message, and its answer. -/
structure Outcome (m : InboundMessage) (effects : List Effect) (r : OrchestratorResult) : Prop where
  order : ∃ t, effects.map (Sigma.fst ∘ m.reckon) <+: [.prepare m.conversationId m.sequenceNumber,
    .send m.conversationId (toKafkaPayload t m), .commit m.conversationId m.sequenceNumber,
    .cleanup m.conversationId]
  sends : (∃ t x, .send t x ∈ effects) ↔ ∃ n, .preCheckOk n ∈ effects
  commits : (∃ x, .commit x ∈ effects) ↔ ∃ t, .send t (.ok ()) ∈ effects
  cleans : (∃ x, .cleanup x ∈ effects) ↔ .commit (.ok ()) ∈ effects ∧ m.eventType = .sessionComplete
  acks : r.response.eventType ≠ .error ↔
    (∃ n, .prepare (.ok ⟨.idempotent, n⟩) ∈ effects) ∨ .commit (.ok ()) ∈ effects
  ack : r.response.eventType ≠ .error → IsAck m r
  refuses : ∀ code closeCode, Fails effects code closeCode → Refuses r code closeCode
  fails : r.response.eventType = .error → ∃ code closeCode, Fails effects code closeCode

namespace Story

variable {v : Option ProtocolErrorScenario}

theorem order (h : Story m effects v) : ∃ t, effects.map (Sigma.fst ∘ m.reckon) <+:
    [.prepare m.conversationId m.sequenceNumber, .send m.conversationId (toKafkaPayload t m),
      .commit m.conversationId m.sequenceNumber, .cleanup m.conversationId] := by
  cases h with
  | prepareRaised | idempotent | outOfOrder => exact ⟨⟨0⟩, _, rfl⟩
  | sendTimeout n t | sendRaised n t | commitRaised n t | ongoing n t | complete n t => exact ⟨t, _, rfl⟩

theorem sends (h : Story m effects v) :
    (∃ t x, .send t x ∈ effects) ↔ ∃ n, .preCheckOk n ∈ effects := by
  cases h <;> simp

theorem commits (h : Story m effects v) :
    (∃ x, .commit x ∈ effects) ↔ ∃ t, .send t (.ok ()) ∈ effects := by
  cases h <;> simp

theorem cleans (h : Story m effects v) :
    (∃ x, .cleanup x ∈ effects) ↔ .commit (.ok ()) ∈ effects ∧ m.eventType = .sessionComplete := by
  cases h <;> simp_all

/-- An ACK ends a replay or a commit. -/
theorem acks (h : Story m effects v) :
    v = none ↔ (∃ n, .prepare (.ok ⟨.idempotent, n⟩) ∈ effects) ∨ .commit (.ok ()) ∈ effects := by
  cases h <;> simp

/-- What failed says which scenario is answered. -/
theorem refuses (h : Story m effects v) {code : ErrorCode} {closeCode : WsCloseCode}
    (hf : Fails effects code closeCode) :
    ∃ s, v = some s ∧ s.errorCode = code ∧ closeCodeForError s.errorCode = closeCode := by
  cases hf with
  | outOfOrder n hn =>
    cases h with
    | outOfOrder => exact ⟨_, rfl, rfl, rfl⟩
    | _ => simp at hn
  | sendTimeout t text hn =>
    cases h with
    | sendTimeout => exact ⟨_, rfl, rfl, rfl⟩
    | sendRaised n t' e he =>
      simp at hn
      exact absurd hn.2.symm (he text)
    | _ => simp at hn
  | sendRaised t e he hn =>
    cases h with
    | sendRaised => exact ⟨_, rfl, rfl, rfl⟩
    | sendTimeout n t' text =>
      simp at hn
      exact absurd hn.2 (he text)
    | _ => simp at hn
  | prepareRaised e hn =>
    cases h with
    | prepareRaised => exact ⟨_, rfl, rfl, rfl⟩
    | _ => simp at hn
  | commitRaised e hn =>
    cases h with
    | commitRaised => exact ⟨_, rfl, rfl, rfl⟩
    | _ => simp at hn

/-- Every scenario has its cause. -/
theorem fails (h : Story m effects v) (hv : v ≠ none) : ∃ code closeCode, Fails effects code closeCode := by
  cases h with
  | prepareRaised e => exact ⟨_, _, .prepareRaised e (by simp)⟩
  | outOfOrder n => exact ⟨_, _, .outOfOrder n (by simp)⟩
  | sendTimeout n t text => exact ⟨_, _, .sendTimeout t text (by simp)⟩
  | sendRaised n t e he => exact ⟨_, _, .sendRaised t e he (by simp)⟩
  | commitRaised n t e => exact ⟨_, _, .commitRaised e (by simp)⟩
  | idempotent | ongoing | complete => exact absurd rfl hv

end Story

/-- The outcome of a story that ends with its verdict. -/
theorem Story.outcome {v : Option ProtocolErrorScenario} {r : OrchestratorResult}
    (h : Story m effects v) (hv : Verdict m v r) : Outcome m effects r := by
  have hack : r.response.eventType ≠ .error ↔ v = none := by
    cases v with
    | none => exact iff_of_true (IsAck.not_error hv) rfl
    | some s => exact iff_of_false (fun hr => hr hv.1.refuses.eventType) nofun
  refine ⟨h.order, h.sends, h.commits, h.cleans, hack.trans h.acks, fun hr => ?_, ?_, fun hr => ?_⟩
  · obtain rfl := hack.1 hr
    exact hv
  · intro code closeCode hf
    obtain ⟨s, rfl, rfl, rfl⟩ := h.refuses hf
    exact hv.1.refuses
  · exact h.fails fun hnone => hack.2 hnone hr

/-- **The outcome of one message.** A handler returns whatever its calls are answered, and a
handler that has returned has a result. -/
theorem message_outcome (hstr : d.StrFields) (raw : Json) (c : String) :
    (∀ answer : (c : Call) → Reply c, ∃ τ out, Trace (d.program ⟨raw, c⟩) τ (.ret out) ∧
      ∀ e ∈ τ, e.2 = answer e.1) ∧
    ∀ τ out, Trace (d.program ⟨raw, c⟩) τ (.ret out) → ∃ r, out = .ok r ∧
      match d.modelValidate raw with
      | .error e => backendCalls τ = [] ∧ Refuses r (classifyValidationError e).errorCode
          (closeCodeForError (classifyValidationError e).errorCode)
      | .ok m => ∃ effects, backendCalls τ = effects.map m.reckon ∧ Outcome m effects r := by
  refine ⟨fun answer => Trace.answered answer _, fun τ out h => ?_⟩
  obtain ⟨r, rfl, htold⟩ := told_of_trace hstr h
  refine ⟨r, rfl, ?_⟩
  generalize hcalls : backendCalls τ = calls at htold
  cases htold with
  | invalid hv hr hc =>
    rw [hv]
    exact ⟨rfl, hr.refuses⟩
  | valid hv hs hr =>
    rw [hv]
    exact ⟨_, rfl, hs.outcome hr⟩

section

open Sample

/-- A plain message that goes through: pre-check, send, commit. -/
def wentThrough : List Reckoned :=
  [(ongoingMessage 0).reckon (.preCheckOk (some 0)), ⟨.utcNow, ⟨0⟩⟩,
    (ongoingMessage 0).reckon (.send ⟨0⟩ (.ok ())), (ongoingMessage 0).reckon (.commit (.ok ())),
    ⟨.utcNow, ⟨0⟩⟩]

/-- It is answered with its ACK. -/
theorem went_through : ∃ effects,
    backendCalls wentThrough = effects.map (ongoingMessage 0).reckon ∧
      Outcome (ongoingMessage 0) effects ⟨buildTranscriptAck ⟨0⟩ cid 0, false, .normal⟩ := by
  have h : Trace (deps.program (message 0)) wentThrough
      (.ret (.ok ⟨buildTranscriptAck ⟨0⟩ cid 0, false, .normal⟩)) :=
    .cons (.cons (.cons (.cons (.cons (.nil _)))))
  obtain ⟨r, hr, hout⟩ := (message_outcome deps_strFields (ongoing 0) cid).2 _ _ h
  obtain rfl := Except.ok.inj hr
  exact hout

end

end Transcribe
