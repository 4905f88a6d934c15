import Transcribe.Model.Auth
import Transcribe.Model.Dialogue
import Transcribe.Proof.ContractTypes

/-!
# The length of ERROR frames

`Response.Fits` is what the `ErrorResponse` model declares of lengths; no frame is validated against it.

* `sequenceDetails_fits`, `activeDetails_fits`: the two templates with numbers in them fit iff the
  numbers are short enough; `mismatchDetails_fits`: the template with an id always does.
* `handler_fits`: the answer of a handler fits iff no number of more than 2017 digits was found out of
  order.
* `error_frames_fit`: in every run of a connection with its handlers, and of its refresh task, every
  frame fits as long as the numbers are short enough.
* `long_number_overflows`: a number of 2018 digits.
-/

namespace Transcribe

open Resumption TwoPhaseOrchestrator

/-- `ErrorResponse` takes the frame: its bounds on `code`, `message` and `details`. -/
def Response.Fits : Response → Prop
  | .ack .. => True
  | .error _ e =>
    e.code.length ≤ 16 ∧ e.message.length ≤ maxErrorMessageLen ∧ ∀ s ∈ e.details, s.length ≤ maxErrorDetailsLen

/-! ## The producers of details -/

theorem prefixOf_length_le (s : String) (n : ℕ) : (prefixOf s n).length ≤ n := by
  unfold prefixOf
  rw [String.length_ofList]
  exact List.length_take_le _ _

namespace ProtocolErrorScenario

theorem staticDetails_length (s : ProtocolErrorScenario) :
    ∀ d ∈ s.staticDetails, d.length ≤ maxErrorDetailsLen := by
  cases s <;> decide

/-- Codes and messages are short, so an ERROR fits iff the details given for it do. -/
theorem buildResponse_fits (s : ProtocolErrorScenario) (now : Datetime) (c : String)
    (details : Option String) :
    (s.buildResponse now c details).Fits ↔ ∀ d ∈ details, d.length ≤ maxErrorDetailsLen := by
  have hcode : s.errorCode.value.length ≤ 16 := by cases s <;> decide
  have hmessage : s.message.length ≤ maxErrorMessageLen := by cases s <;> decide
  refine ⟨fun h d hd => ?_, fun h => ⟨hcode, hmessage, fun d hd => ?_⟩⟩
  · refine h.2.2 d ?_
    rw [hd]
    rfl
  · cases details with
    | none => exact s.staticDetails_length d hd
    | some d' => exact h d hd

theorem sequenceDetails_fits (n : ℕ) : (sequenceDetails n).length ≤ maxErrorDetailsLen ↔ n < 10 ^ 2017 := by
  have hlen : (sequenceDetails n).length = n.repr.length + 31 := by
    unfold sequenceDetails
    rw [String.length_append, String.length_append]
    show 15 + n.repr.length + 16 = _
    omega
  rw [hlen, ← Nat.length_repr_le_iff (by decide)]
  unfold maxErrorDetailsLen
  omega

theorem activeDetails_fits (active maxConnections : ℕ) :
    (activeDetails active maxConnections).length ≤ maxErrorDetailsLen ↔
      active.repr.length + maxConnections.repr.length ≤ 2031 := by
  have hlen : (activeDetails active maxConnections).length =
      active.repr.length + maxConnections.repr.length + 17 := by
    unfold activeDetails
    rw [String.length_append, String.length_append, String.length_append]
    show 7 + active.repr.length + 10 + maxConnections.repr.length = _
    omega
  rw [hlen]
  unfold maxErrorDetailsLen
  omega

theorem mismatchDetails_fits {repr : String → String} {c : String}
    (hrepr : (repr c).length ≤ 10 * c.length + 2) (hc : c.length ≤ queryMaxLength) :
    (mismatchDetails repr c).length ≤ maxErrorDetailsLen := by
  have hlen : (mismatchDetails repr c).length = (repr c).length + 70 := by
    unfold mismatchDetails
    rw [String.length_append, String.length_append]
    show 69 + (repr c).length + 1 = _
    omega
  rw [hlen]
  unfold queryMaxLength at hc
  unfold maxErrorDetailsLen
  omega

end ProtocolErrorScenario

/-! ## The answer of a handler -/

/-- The reply does not find a number of more than 2017 digits out of order. -/
def Call.Short : (i : Call) → Reply i → Prop
  | .prepare _ seq, .ok o => o.status = .outOfOrder → seq < 10 ^ 2017
  | _, _ => True

/-- The monitor that sees whether a long number was found out of order. -/
abbrev lengths : Monitor Call Reply Prop := .assuming (fun _ => True) Call.Short

/-- The answer fits unless a long number was found out of order, and then nothing is raised. -/
def FitsUnless (long : Prop) : Except Exc OrchestratorResult → Prop
  | .ok r => r.response.Fits ↔ ¬ long
  | .error _ => ¬ long

variable {long : Prop} {m : InboundMessage} {raw : Json}

/-- A reply that cannot be too long changes nothing. -/
theorem long_next {i : Call} {r : Reply i} (hr : Call.Short i r) : lengths.next long i r ↔ long :=
  or_iff_left fun h => h hr

theorem failure_fits {scenario : ProtocolErrorScenario} (h : scenario.wsCloseCode ≠ none) (c : String)
    {details : Option String} (hd : (∀ d ∈ details, d.length ≤ maxErrorDetailsLen) ↔ ¬ long) :
    lengths.Sat (failure scenario c details).run long FitsUnless := by
  obtain ⟨code, hcode⟩ := Option.ne_none_iff_exists'.1 h
  refine ⟨Or.inr trivial, fun now => ?_⟩
  rw [ProtocolErrorScenario.requireWsCloseCode, hcode]
  have hnow : lengths.next long .utcNow now ↔ long := long_next (i := .utcNow) trivial
  exact (scenario.buildResponse_fits now c details).trans (hd.trans hnow.not.symm)

/-- A failure with short details. -/
theorem failure_short {scenario : ProtocolErrorScenario} (h : scenario.wsCloseCode ≠ none) (c : String)
    {details : Option String} (hd : ∀ d ∈ details, d.length ≤ maxErrorDetailsLen) (hl : ¬ long) :
    lengths.Sat (failure scenario c details).run long FitsUnless :=
  failure_fits h c (iff_of_true hd hl)

/-- The text of an exception, cut. -/
theorem cut_short (text : String) {n : ℕ} (hn : n ≤ maxErrorDetailsLen) :
    ∀ d ∈ some (prefixOf text n), d.length ≤ maxErrorDetailsLen := by
  rintro d ⟨⟩
  exact (prefixOf_length_le text n).trans hn

theorem success_short (hl : ¬ long) : lengths.Sat (success m).run long FitsUnless := by
  unfold success buildSuccessAck
  refine ⟨Or.inr trivial, fun now => ?_⟩
  have hnow : ¬ lengths.next long .utcNow now := by rwa [long_next (i := .utcNow) trivial]
  cases m.eventType <;> exact iff_of_true trivial hnow

theorem advance_short (hl : ¬ long) : lengths.Sat (advance m).run long FitsUnless := by
  refine Monitor.sat_exceptT_bind.2 ⟨Or.inr trivial, fun r => ?_⟩
  have hcommit : ¬ lengths.next long (.commit m.conversationId m.sequenceNumber) r := by
    rwa [long_next (i := .commit m.conversationId m.sequenceNumber) trivial]
  cases r with
  | error e => exact hcommit
  | ok _ =>
    simp only [Monitor.Sat, Monitor.After]
    cases m.eventType with
    | sessionOngoing => exact success_short hcommit
    | sessionComplete =>
      refine Monitor.sat_attempt_bind.2 ⟨Or.inr trivial, fun r => success_short ?_⟩
      rwa [long_next (i := .cleanup m.conversationId) trivial]

theorem persist_short (hl : ¬ long) : lengths.Sat (persist m).run long FitsUnless := by
  refine Monitor.sat_exceptT_bind.2 ⟨Or.inr trivial, fun producedAt => ?_⟩
  have hnow : ¬ lengths.next long .utcNow producedAt := by rwa [long_next (i := .utcNow) trivial]
  refine Monitor.sat_attempt_bind.2 ⟨Or.inr trivial, fun r => ?_⟩
  have hsend : ¬ lengths.next (lengths.next long .utcNow producedAt)
      (.send m.conversationId (toKafkaPayload producedAt m)) r := by
    rwa [long_next (i := .send m.conversationId _) trivial]
  rcases r with (text | text | text) | _
  · exact failure_short (by decide) _ nofun hsend
  · exact failure_short (by decide) _ (cut_short text (by decide)) hsend
  · exact failure_short (by decide) _ (cut_short text (by decide)) hsend
  · exact advance_short hsend

/-- The only details with a number of the client's. -/
theorem precheck_fits (hl : ¬ long) : lengths.Sat (precheck raw m).run long FitsUnless := by
  refine Monitor.sat_exceptT_bind.2 ⟨Or.inr trivial, fun r => ?_⟩
  rcases r with e | ⟨status, n⟩
  · exact fun h => h.elim hl fun hbad => hbad trivial
  · simp only [Monitor.Sat, Monitor.After]
    cases status with
    | preCheckOk =>
      have hnext : ¬ lengths.next long (.prepare m.conversationId m.sequenceNumber) (.ok ⟨.preCheckOk, n⟩) :=
        fun h => h.elim hl fun hbad => hbad PrepareResult.noConfusion
      by_cases hdict : raw.isDict = true
      · rw [if_pos hdict]
        exact persist_short hnext
      · rw [if_neg hdict]
        exact hnext
    | idempotent => exact success_short fun h => h.elim hl fun hbad => hbad PrepareResult.noConfusion
    | outOfOrder =>
      refine failure_fits (by decide) _ ?_
      have hnext : lengths.next long (.prepare m.conversationId m.sequenceNumber) (.ok ⟨.outOfOrder, n⟩) ↔
          ¬ m.sequenceNumber < 10 ^ 2017 :=
        ⟨fun h hlt => h.elim hl fun hbad => hbad fun _ => hlt, fun h => Or.inr fun hshort => h (hshort rfl)⟩
      rw [hnext, not_not, ← ProtocolErrorScenario.sequenceDetails_fits]
      exact ⟨fun h => h _ rfl, fun h d hd => Option.some.inj hd ▸ h⟩

theorem handleMessage_fits (modelValidate : Json → Except ValidationError InboundMessage) (raw : Json)
    (c : String) : lengths.Sat (handleMessage modelValidate raw c).run False FitsUnless := by
  refine Monitor.sat_attempt_bind.2 (Monitor.sat_mono (Q := FitsUnless) ?_ ?_)
  · rintro long (e | r) h
    · exact failure_short (by decide) _ (cut_short e.str (by decide)) h
    · exact h
  · unfold process
    cases hv : modelValidate raw with
    | error e =>
      exact failure_short (classifyValidationError_wsCloseCode e) _ (cut_short e.str le_rfl) id
    | ok m => exact precheck_fits id

/-- **The answer of a handler fits** iff no long number was found out of order. -/
theorem handler_fits {d : Deps} {c : String} {τ : List Reckoned} {r : OrchestratorResult}
    (h : Trace (d.program ⟨raw, c⟩) τ (.ret (.ok r))) : r.response.Fits ↔ ∀ e ∈ τ, Call.Short e.1 e.2 := by
  have hfits : r.response.Fits ↔ ¬ lengths.after False τ :=
    (handleMessage_fits d.modelValidate raw c).returned h
  rw [hfits, Monitor.assuming_after, false_or]
  exact ⟨fun h e he => by_contra fun hbad => h ⟨e, he, hbad⟩, fun h ⟨e, he, hbad⟩ => hbad (h e he)⟩

/-! ## The frames of a connection -/

/-- A frame sent fits. -/
def ConnCall.Fits : ConnCall → Prop
  | .sendText frame | .denialBody frame => frame.Fits
  | _ => True

/-- The bearer token is checked by `auth`, the numbers of the connection limit are short, and the answer of the
orchestrator fits. -/
def ConnCall.Usual (t : Transport) (auth : JwtBearerAuthBackend) : (i : ConnCall) → ConnReply i → Prop
  | .authenticate header, r => r = auth.authenticate header
  | .activeCount, (active : ℕ) => active.repr.length + t.maxConnections.repr.length ≤ 2031
  | .handleMessage .., .ok r => r.response.Fits
  | _, _ => True

/-- The details of the bearer token's errors are constants. -/
theorem JwtBearerAuthBackend.details_short (auth : JwtBearerAuthBackend) {header : Option String}
    {details : String} (h : auth.authenticate header = .authenticationError details) :
    details.length ≤ maxErrorDetailsLen := by
  unfold authenticate at h
  split at h
  · next text htext =>
    obtain rfl := AuthOutcome.authenticationError.inj h
    unfold extractBearerToken at htext
    dsimp only at htext
    split at htext
    · rw [← Except.error.inj htext]
      decide
    · split at htext
      · rw [← Except.error.inj htext]
        decide
      · cases htext
  · split at h
    · split at h <;> cases h
    · cases h
      decide
    · cases h
      decide
    · cases h

section

variable {A : (i : ConnCall) → ConnReply i → Prop} {c : String}

/-- Whatever is relied on, an ERROR with short details fits. -/
theorem sends_sendErrorAndClose {scenario : ProtocolErrorScenario} {details : Option String}
    (hd : ∀ d ∈ details, d.length ≤ maxErrorDetailsLen) :
    Assures ConnCall.Fits A (sendErrorAndClose c scenario details) := by
  unfold sendErrorAndClose
  refine Assures.bind (Assures.attempt ?_) fun _ => Assures.of_pure _
  refine Assures.bind (Assures.ask ConnCall.clientConnected trivial) fun connected =>
    Assures.ite (fun _ => ?_) fun _ => Assures.of_pure _
  refine Assures.bind (Assures.of_except _) fun closeCode => ?_
  refine Assures.bind (Assures.ask ConnCall.utcNow trivial) fun now => ?_
  refine Assures.bind (Assures.call (ConnCall.sendText _) ?_) fun _ =>
    Assures.call (ConnCall.close closeCode) trivial
  exact (scenario.buildResponse_fits now c details).2 hd

theorem sends_reject {scenario : ProtocolErrorScenario} {details : Option String}
    (hd : ∀ d ∈ details, d.length ≤ maxErrorDetailsLen) :
    Assures ConnCall.Fits A (reject scenario c details) := by
  unfold reject denyWebsocket
  refine Assures.bind (Assures.of_except _) fun statusCode => ?_
  refine Assures.bind (Assures.ask ConnCall.utcNow trivial) fun now => ?_
  refine Assures.bind (Assures.call ConnCall.receive trivial) fun _ => ?_
  refine Assures.bind (Assures.call (ConnCall.denialStart ..) trivial) fun _ =>
    Assures.call (ConnCall.denialBody _) ?_
  exact (scenario.buildResponse_fits now c details).2 hd

theorem guardUnavailable_short :
    ∀ d ∈ some "Conversation ownership guard store unavailable", d.length ≤ maxErrorDetailsLen := by
  decide

theorem sends_claimOrRefresh (u : String) : Assures ConnCall.Fits A (Conn.claimOrRefresh c u) :=
  Assures.call (ConnCall.guard _) trivial

/-- The refresh task relies on nothing. -/
theorem sends_refreshLoop (u : String) (rounds : ℕ) : Assures ConnCall.Fits A (refreshLoop c u rounds) := by
  induction rounds with
  | zero => exact Assures.of_pure _
  | succ rounds ih =>
    refine Assures.bind (Assures.ask ConnCall.sleep trivial) fun _ => ?_
    refine Assures.bind (sends_claimOrRefresh u).attempt fun outcome => ?_
    rcases outcome with e | _ | _
    · exact sends_sendErrorAndClose guardUnavailable_short
    · exact sends_sendErrorAndClose nofun
    · exact ih

variable {t : Transport} {auth : JwtBearerAuthBackend} {scope : Scope}

/-- The coroutine sends frames that fit, as long as replies are as usual. -/
abbrev SendsFitting {α : Type} (t : Transport) (auth : JwtBearerAuthBackend) (x : Conn α) : Prop :=
  Assures ConnCall.Fits (ConnCall.Usual t auth) x

theorem sends_claimRuntimeOwnershipOrClose (u : String) :
    SendsFitting t auth (claimRuntimeOwnershipOrClose c u) := by
  refine Assures.bind (sends_claimOrRefresh u).attempt fun outcome => ?_
  rcases outcome with e | _ | _
  · exact Assures.bind (sends_sendErrorAndClose guardUnavailable_short) fun _ => Assures.of_pure _
  · exact Assures.bind (sends_sendErrorAndClose nofun) fun _ => Assures.of_pure _
  · exact Assures.of_pure _

theorem sends_releaseOwnershipGuard (u : String) (acquired : Bool) :
    SendsFitting t auth (t.releaseOwnershipGuard c u acquired) := by
  refine Assures.ite (fun _ => Assures.bind (Assures.attempt ?_) fun _ => Assures.of_pure _)
    fun _ => Assures.of_pure _
  exact Assures.call (ConnCall.guard _) trivial

variable (hrepr : ∀ s, (t.repr s).length ≤ 10 * s.length + 2) (hc : c.length ≤ queryMaxLength)

include hrepr hc

/-- **The message loop**: what the orchestrator answers fits, and so do the transport's own ERRORs. -/
theorem sends_runWsMessageLoop (frames : ℕ) : SendsFitting t auth (t.runWsMessageLoop c frames) := by
  induction frames with
  | zero => exact Assures.bind (Assures.ask ConnCall.hangup trivial) fun e => Assures.of_except (.error e)
  | succ frames ih =>
    refine Assures.bind (Assures.call ConnCall.receiveText trivial) fun rawText => ?_
    cases t.loads rawText with
    | error text => exact sends_sendErrorAndClose (cut_short text le_rfl)
    | ok raw =>
      refine Assures.ite (fun _ => sends_sendErrorAndClose ?_) fun _ => ?_
      · rintro d ⟨⟩
        exact ProtocolErrorScenario.mismatchDetails_fits (hrepr c) hc
      refine Assures.call_bind (ConnCall.handleMessage raw c) trivial fun r result hr hresult => ?_
      have hfits : result.response.Fits := by
        subst hresult
        exact hr
      refine Assures.bind (Assures.ask ConnCall.clientConnected trivial) fun connected => ?_
      have hafter : SendsFitting t auth (if result.disconnect then do
            if ← Conn.clientConnected then Conn.close result.closeCode
          else t.runWsMessageLoop c frames) := by
        refine Assures.ite (fun _ => ?_) fun _ => ih
        refine Assures.bind (Assures.ask ConnCall.clientConnected trivial) fun _ => ?_
        exact Assures.ite (fun _ => Assures.call (ConnCall.close _) trivial) fun _ => Assures.of_pure _
      cases connected with
      | true => exact Assures.bind (Assures.call (ConnCall.sendText _) hfits) fun _ => hafter
      | false => exact hafter

theorem sends_guardedMessageLoop (frames : ℕ) : SendsFitting t auth (t.guardedMessageLoop c frames) := by
  refine Assures.bind (sends_runWsMessageLoop hrepr hc frames).attempt fun outcome => ?_
  rcases outcome with (_ | _ | _) | _
  · exact sends_sendErrorAndClose nofun
  · exact Assures.of_pure _
  · exact sends_sendErrorAndClose nofun
  · exact Assures.of_pure _

theorem sends_runSession (u : String) (acquired : Bool) (frames : ℕ) :
    SendsFitting t auth (t.runSession c u acquired frames) := by
  unfold Transport.runSession
  refine Assures.bind (Assures.ask (ConnCall.registryAdd c) trivial) fun _ => ?_
  have hrelease : ∀ outcome, SendsFitting t auth (do
      t.releaseOwnershipGuard c u acquired
      ofExcept outcome : Conn Unit) :=
    fun _ => Assures.bind (sends_releaseOwnershipGuard u acquired) fun _ => Assures.of_except _
  have hloop : SendsFitting t auth (attempt (t.guardedMessageLoop c frames)) :=
    (sends_guardedMessageLoop hrepr hc frames).attempt
  cases t.ownershipGuard && acquired with
  | false =>
    simp only [Bool.false_eq_true, ↓reduceIte]
    refine Assures.bind hloop fun outcome => ?_
    exact Assures.bind (Assures.ask (ConnCall.registryRemove c) trivial) fun _ => hrelease outcome
  | true =>
    simp only [↓reduceIte]
    refine Assures.bind (Assures.ask (ConnCall.spawnRefresh c u) trivial) fun _ => ?_
    refine Assures.bind hloop fun outcome => ?_
    refine Assures.bind (Assures.ask (ConnCall.registryRemove c) trivial) fun _ => ?_
    exact Assures.bind (Assures.ask ConnCall.joinRefresh trivial) fun _ => hrelease outcome

theorem sends_acceptSession (u : String) (acquired : Bool) (frames : ℕ) :
    SendsFitting t auth (t.acceptSession c u acquired frames) := by
  refine Assures.bind (Assures.call ConnCall.accept trivial).attempt fun accepted => ?_
  rcases accepted with e | _
  · exact sends_releaseOwnershipGuard _ _
  · refine Assures.ite (fun _ => ?_) fun _ => sends_runSession hrepr hc _ _ _
    refine Assures.bind (sends_claimRuntimeOwnershipOrClose u) fun owned => ?_
    exact Assures.ite (fun _ => sends_runSession hrepr hc _ _ _) fun _ => Assures.of_pure _

theorem sends_wsEndpoint (admission : Transport.Admission) (frames : ℕ) :
    SendsFitting t auth (t.wsEndpoint admission c frames) := by
  cases admission with
  | some u =>
    rw [Transport.wsEndpoint_some]
    exact sends_acceptSession hrepr hc u true frames
  | none =>
    rw [Transport.wsEndpoint_none]
    exact Assures.bind (Assures.ask ConnCall.uuid4 trivial) fun u => sends_acceptSession hrepr hc u false frames

omit hc

theorem sends_innerApp (admission : Transport.Admission) (frames : ℕ) :
    SendsFitting t auth (t.innerApp scope admission frames) := by
  unfold Transport.innerApp
  generalize scope.queryConversationId t.unquote = conversationId
  refine Assures.ite (fun _ => Assures.of_pure _) fun _ => ?_
  refine Assures.ite (fun _ => Assures.call (ConnCall.closeUnaccepted _) trivial) fun _ => ?_
  refine Assures.ite (fun _ => Assures.call (ConnCall.closeUnaccepted _) trivial) fun hlen => ?_
  exact sends_wsEndpoint hrepr (Nat.le_of_not_lt hlen) admission frames

/-- **A handshake and the session behind it.** -/
theorem sends_wsGuardMiddleware (frames : ℕ) : SendsFitting t auth (t.wsGuardMiddleware scope frames) := by
  -- from the inner app outwards: each check rejects, or hands on to the one behind it
  have hinner : ∀ admission, SendsFitting t auth (t.innerApp scope admission frames) :=
    fun admission => sends_innerApp hrepr admission frames
  have hownership : ∀ cid, SendsFitting t auth (t.checkOwnership cid fun admission =>
      t.innerApp scope admission frames) := by
    intro cid
    refine Assures.ite (fun _ => ?_) fun _ => hinner none
    refine Assures.bind (Assures.ask ConnCall.uuid4 trivial) fun u => ?_
    refine Assures.bind (sends_claimOrRefresh u).attempt fun outcome => ?_
    rcases outcome with e | _ | _
    · exact sends_reject guardUnavailable_short
    · exact sends_reject nofun
    · exact hinner (some u)
  have hlimit : ∀ cid, SendsFitting t auth (t.checkLimit cid (t.checkOwnership cid fun admission =>
      t.innerApp scope admission frames)) := by
    intro cid
    refine Assures.ite (fun _ => ?_) fun _ => hownership cid
    refine Assures.ask_bind ConnCall.activeCount trivial fun (active : ℕ) hactive => ?_
    refine Assures.ite (fun _ => sends_reject ?_) fun _ => hownership cid
    -- the only details that quote a number: the count of active connections
    rintro d ⟨⟩
    exact (ProtocolErrorScenario.activeDetails_fits active t.maxConnections).2 hactive
  have hdraining : ∀ cid, SendsFitting t auth (checkDraining cid (t.checkLimit cid
      (t.checkOwnership cid fun admission => t.innerApp scope admission frames))) := by
    intro cid
    refine Assures.bind (Assures.ask ConnCall.draining trivial) fun draining => ?_
    exact Assures.ite (fun _ => sends_reject nofun) fun _ => hlimit cid
  refine Assures.ite (fun _ => hinner none) fun _ => Assures.ite (fun _ => hinner none) fun _ => ?_
  refine Assures.ite (fun _ => sends_reject nofun) fun _ => Assures.ite (fun _ => ?_) fun _ => hdraining _
  refine Assures.ask_bind (ConnCall.authenticate scope.authorization) trivial fun outcome houtcome => ?_
  cases outcome with
  | principal _ => exact hdraining _
  | authenticationError details =>
    refine sends_reject ?_
    rintro d ⟨⟩
    exact auth.details_short houtcome.symm
  | raised e => exact Assures.of_except (.error e)

end

/-! ## With the handlers of its messages -/

def SessionCall.Fits : SessionCall → Prop
  | .conn i => i.Fits
  | .backend _ => True

/-- Bearer tokens, the connection limit and the numbers found out of order are as they should be. -/
def SessionCall.Usual (t : Transport) (auth : JwtBearerAuthBackend) : (i : SessionCall) → SessionReply i → Prop
  | .conn i, r => i.Usual t auth r
  | .backend i, r => i.Short r

variable {t : Transport} {auth : JwtBearerAuthBackend} {d : Deps}

/-- The orchestrator's answer fits as long as no long number is found out of order. -/
theorem handler_usual (raw : Json) (c : String) (off : Prop) :
    (Monitor.assuming SessionCall.Fits (SessionCall.Usual t auth)).Sat (d.serve (.handleMessage raw c)) off
      fun off' r => off' ∨ ConnCall.Usual t auth (.handleMessage raw c) r := by
  have hcall : ∀ (long off : Prop) call, (long → off) → lengths.ok long call →
      (Monitor.assuming SessionCall.Fits (SessionCall.Usual t auth)).Sat
        (.call (SessionCall.backend call) fun r => .ret r : Prog SessionCall SessionReply (Reply call)) off
        fun off' r => lengths.next long call r → off' := by
    intro long off call himp _
    exact ⟨Or.inr trivial, fun r hnext => hnext.elim (fun hl => Or.inl (himp hl)) fun hbad => Or.inr hbad⟩
  refine Monitor.sat_mono ?_ (Monitor.sat_interp hcall (handleMessage_fits d.modelValidate raw c) False.elim)
  rintro off' out ⟨long, himp, hfits⟩
  cases out with
  | error e => exact Or.inr trivial
  | ok r =>
    by_cases hl : long
    · exact Or.inl (himp hl)
    · exact Or.inr (hfits.2 hl)

theorem serve_usual (i : ConnCall) (hi : i.Fits) (off : Prop) :
    (Monitor.assuming SessionCall.Fits (SessionCall.Usual t auth)).Sat (d.serve i) off
      fun off' r => off' ∨ ConnCall.Usual t auth i r := by
  cases i with
  | handleMessage raw c => exact handler_usual raw c off
  | _ => exact ⟨Or.inr hi, fun r => (or_comm.1 (Classical.em _)).imp Or.inr id⟩

/-- **The length of ERROR frames.** Every frame of a connection with its handlers fits as long as bearer tokens
are checked by the bearer backend, the numbers of the connection limit have together at most 2031 digits, and
no number of more than 2017 digits is found out of order; every frame of a refresh task fits. The
answer of a handler fits only then, and so does the denial of the connection limit. -/
theorem error_frames_fit {t : Transport} (hrepr : ∀ s, (t.repr s).length ≤ 10 * s.length + 2)
    (auth : JwtBearerAuthBackend) (d : Deps) :
    (∀ scope frames τ q, Trace ((t.wsGuardMiddleware scope frames).run.interp d.serve) τ q →
      (∀ e ∈ τ, SessionCall.Usual t auth e.1 e.2) → ∀ e ∈ τ, e.1.Fits) ∧
    (∀ c u rounds τ q, Trace (refreshLoop c u rounds).run τ q → ∀ e ∈ τ, e.1.Fits) ∧
    (∀ raw c τ r, Trace (d.program ⟨raw, c⟩) τ (.ret (.ok r)) →
      (r.response.Fits ↔ ∀ e ∈ τ, Call.Short e.1 e.2)) ∧
    ∀ now c active, (ProtocolErrorScenario.connectionLimitExceeded.buildResponse now c
        (some (ProtocolErrorScenario.activeDetails active t.maxConnections))).Fits ↔
      active.repr.length + t.maxConnections.repr.length ≤ 2031 := by
  refine ⟨fun scope frames τ q ht husual => ?_, fun c u rounds τ q ht => ?_,
    fun raw c τ r ht => handler_fits ht, fun now c active => ?_⟩
  · have hsends : SendsFitting t auth (t.wsGuardMiddleware scope frames) :=
      sends_wsGuardMiddleware hrepr frames
    exact (hsends.interp fun i hi off => serve_usual i hi off).calls ht husual
  · have hsends : Assures ConnCall.Fits (fun _ _ => True) (refreshLoop c u rounds) :=
      sends_refreshLoop u rounds
    exact (hsends False).calls ht fun _ _ => trivial
  · rw [ProtocolErrorScenario.buildResponse_fits, ← ProtocolErrorScenario.activeDetails_fits]
    exact ⟨fun h => h _ rfl, fun h d hd => Option.some.inj hd ▸ h⟩

section

open Sample

/-- Bearer tokens of which none is a JWT. -/
def sampleAuth : JwtBearerAuthBackend :=
  ⟨fun s => String.ofList (s.toList.map Char.toLower), fun _ => .invalidToken⟩

/-- The frame that turns such a token away. -/
def denial : Response :=
  ProtocolErrorScenario.authenticationFailed.buildResponse ⟨0⟩ cid (some "Bearer token is invalid")

/-- A handshake with it. -/
def denied : List (Σ i, SessionReply i) :=
  [⟨.conn (.authenticate (some "Bearer t")), .authenticationError "Bearer token is invalid"⟩,
    ⟨.conn .utcNow, (⟨0⟩ : Datetime)⟩, ⟨.conn .receive, .ok ()⟩,
    ⟨.conn (.denialStart 401 denialHeaders), .ok ()⟩, ⟨.conn (.denialBody denial), .ok ()⟩]

/-- The frame fits. -/
theorem denial_fits : denial.Fits := by
  have hrepr : ∀ s, (transport.repr s).length ≤ 10 * s.length + 2 := by
    intro s
    show ("'" ++ s ++ "'").length ≤ _
    rw [String.length_append, String.length_append]
    show 1 + s.length + 1 ≤ _
    omega
  have ht : Trace ((transport.wsGuardMiddleware (scope wsPath "" "conversationId=c1") 0).run.interp deps.serve)
      denied (.ret (.ok ())) :=
    .cons (.cons (.cons (.cons (.cons (.nil _)))))
  have husual : ∀ e ∈ denied, SessionCall.Usual transport sampleAuth e.1 e.2 := by
    unfold denied
    simp only [List.forall_mem_cons]
    exact ⟨rfl, trivial, trivial, trivial, trivial, List.forall_mem_nil _⟩
  have hfit := (error_frames_fit hrepr sampleAuth deps).1 _ _ _ _ ht husual
  exact hfit ⟨.conn (.denialBody denial), .ok ()⟩ (.tail _ (.tail _ (.tail _ (.tail _ (.head _)))))

/-- The service in lax mode. -/
def laxDeps : Deps := ⟨sampleLax.modelValidate, .default⟩

/-- The plain message `n` with its number sent as a string. -/
def numeric (n : ℕ) : Json := (ongoing 0).put "payload" "sequenceNumber" (.str n.repr)

theorem strAsInt_repr {n : ℕ} (h : n.repr.length ≤ 4300) : sampleLax.strAsInt n.repr = some (n : ℤ) := by
  have hdigits : n.repr.toList = Nat.toDigits 10 n := by rw [Nat.repr_eq_ofList_toDigits, String.toList_ofList]
  have hne : n.repr ≠ "" := fun hempty => Nat.toDigits_ne_nil (by rw [← hdigits, hempty]; rfl)
  have hall : n.repr.toList.all Char.isDigit = true := by
    rw [hdigits]
    exact List.all_eq_true.2 fun c hc => Nat.isDigit_of_mem_toDigits (by decide) (by decide) hc
  refine (if_pos ⟨hne, hall, h⟩).trans ?_
  rw [hdigits, Nat.ofDigitChars_toDigits (by decide) (by decide)]

theorem validate_numeric {n : ℕ} (h : n.repr.length ≤ 4300) :
    sampleLax.modelValidate (numeric n) = .ok (ongoingMessage n) := by
  have hread : sampleLax.readInt (.str n.repr) = .ok (n : ℤ) := by
    unfold Lax.readInt
    dsimp only
    rw [strAsInt_repr h]
  have halike : AlikeAt sampleLax "payload" "sequenceNumber" (.str n.repr) (.int n) := by
    intro f hf hpart hkey
    rw [contractFields_inj ⟨"payload", "sequenceNumber", .integer, false⟩ (by decide) f hf hpart hkey]
    exact congrArg Except.toOption hread
  have hne : Json.str n.repr ≠ .null ∧ Json.int n ≠ .null := ⟨fun h => (by cases h), fun h => (by cases h)⟩
  have hint : InboundMessage.modelValidate sampleLax.pydantic
      ((ongoing 0).put "payload" "sequenceNumber" (.int n)) = some (ongoingMessage n) := rfl
  have hput : InboundMessage.modelValidate sampleLax.pydantic (numeric n) = some (ongoingMessage n) :=
    (InboundMessage.modelValidate_put hne.1 hne.2 halike).trans hint
  unfold Lax.modelValidate
  rw [hput]

/-- The first message of a conversation, unless it is number 0. -/
theorem first_answer {n : ℕ} (hlen : n.repr.length ≤ 4300) (hn : n ≠ 0) :
    ((laxDeps.program ⟨numeric n, cid⟩).run (fun (b : Backend) i => b.exec laxDeps.sm .ok ⟨0⟩ i) .init).2 =
      .ok ⟨ProtocolErrorScenario.sequenceOutOfOrder.buildResponse ⟨0⟩ cid
        (some (ProtocolErrorScenario.sequenceDetails n)), true, .policyViolation⟩ := by
  have hvalid : laxDeps.modelValidate (numeric n) = .ok (ongoingMessage n) := validate_numeric hlen
  have hone : 1 ≤ tonumber n :=
    (Binary64.ofNat_of_le (by decide)).symm.le.trans (Binary64.ofNat_mono (Nat.pos_of_ne_zero hn))
  have hprepare : Backend.init.exec laxDeps.sm .ok ⟨0⟩ (.prepare cid n) =
      (.init, .ok ⟨.outOfOrder, some 0⟩) := by
    have hlua : laxDeps.sm.prepare .empty cid n = (.empty, ⟨.outOfOrder, some 0⟩) := if_neg (by omega)
    unfold Backend.exec Backend.apply
    show (Backend.mk (laxDeps.sm.prepare .empty cid n).1 _ _,
      Except.ok (laxDeps.sm.prepare .empty cid n).2) = _
    rw [hlua]
    rfl
  unfold Deps.program TwoPhaseOrchestrator.handleMessage TwoPhaseOrchestrator.process
  rw [hvalid]
  show (Prog.run _ (Prog.call (Call.prepare cid n) _) _).2 = _
  unfold Prog.run
  dsimp only
  rw [hprepare]
  rfl

theorem length_repr_pow {k m : ℕ} (h : k < m) : (10 ^ k : ℕ).repr.length ≤ m :=
  (Nat.length_repr_le_iff (Nat.zero_lt_of_lt h)).2 (Nat.pow_lt_pow_right (by decide) h)

/-- **A number of 2018 digits** in the first message of a conversation is out of order, and the details of
the answer are too long. -/
theorem long_number_overflows : ∃ r : OrchestratorResult,
    ((laxDeps.program ⟨numeric (10 ^ 2017), cid⟩).run
      (fun (b : Backend) i => b.exec laxDeps.sm .ok ⟨0⟩ i) .init).2 = .ok r ∧ ¬ r.response.Fits := by
  refine ⟨_, first_answer (length_repr_pow (by decide)) (pow_ne_zero _ (by decide)), fun hfits => ?_⟩
  have hshort := (ProtocolErrorScenario.buildResponse_fits _ _ _ _).1 hfits _ rfl
  exact lt_irrefl _ ((ProtocolErrorScenario.sequenceDetails_fits _).1 hshort)

end

end Transcribe
