import Transcribe.Model.Dialogue
import Transcribe.Proof.Outcome

/-!
# The transcript of a session

`Script` is what has passed over the socket. A dialogue answers every frame with one
response before it reads the next one, and the first response that is no TRANSCRIPT_ACK is
the last.

* `session_script`: a dialogue keeps to this as long as the socket is connected.
* `session_transcript`: what a trace of a dialogue looks like.
-/

namespace Transcribe

open Resumption

/-- The close code a last response calls for: an EOL_ACK the normal one, an ERROR the one of
its scenario. -/
inductive Closes : Response → WsCloseCode → Prop
  | eolAck {r : Response} (h : r.eventType = .eolAck) : Closes r .normal
  | error (s : ProtocolErrorScenario) (now : Datetime) (c : String) (details : Option String)
    {code : WsCloseCode} (h : s.wsCloseCode = some code) : Closes (s.buildResponse now c details) code

/-- What the orchestrator answers: a TRANSCRIPT_ACK, or a last response with its close code. -/
def Answerable : Except Exc OrchestratorResult → Prop
  | .ok r => (r.response.eventType = .transcriptAck ∧ r.disconnect = false) ∨
      (r.disconnect = true ∧ Closes r.response r.closeCode)
  | .error _ => False

theorem IsAck.answerable {m : InboundMessage} {r : OrchestratorResult} (h : IsAck m r) :
    Answerable (.ok r) := by
  obtain ⟨t, hr, hd, hc⟩ := h
  cases ht : m.eventType with
  | sessionOngoing =>
    rw [ht] at hr hd
    exact .inl ⟨by rw [hr]; rfl, hd⟩
  | sessionComplete =>
    rw [ht] at hr hd
    refine .inr ⟨hd, ?_⟩
    rw [hc]
    exact .eolAck (by rw [hr]; rfl)

theorem IsError.answerable {s : ProtocolErrorScenario} {r : OrchestratorResult} (h : IsError s r) :
    Answerable (.ok r) := by
  obtain ⟨t, c, details, hr, hd, hc⟩ := h
  refine .inr ⟨hd, ?_⟩
  rw [hr]
  exact .error s t c details hc

theorem Told.answerable {d : Deps} {raw : Json} {c : String} {calls : List Reckoned}
    {r : OrchestratorResult} (h : Told d raw c calls r) : Answerable (.ok r) := by
  cases h with
  | invalid _ hr => exact hr.answerable
  | @valid m effects v _ _ _ hr =>
    cases v with
    | none => exact IsAck.answerable hr
    | some s => exact hr.1.answerable

/-! ## Scripts -/

/-- The text frames received, the responses sent and the close codes sent. `lost` when the
socket has failed. -/
structure Script where
  texts : List String
  sent : List Response
  closes : List WsCloseCode
  lost : Prop

namespace Script

def start : Script := ⟨[], [], [], False⟩

variable (s : Script)

/-- Nothing but TRANSCRIPT_ACKs has been sent. -/
def Open : Prop := s.closes = [] ∧ ∀ r ∈ s.sent, r.eventType = .transcriptAck

/-- Every frame received has been answered. -/
def Listening : Prop := s.Open ∧ s.texts.length = s.sent.length

/-- The last frame received is to be answered. -/
def Serving : Prop := s.Open ∧ s.texts.length = s.sent.length + 1

/-- Every frame has been answered, and the socket is closed as the last response says. -/
def Finished : Prop :=
  s.texts.length = s.sent.length ∧
    (s.Open ∨ ∃ r code, s.sent.getLast? = some r ∧ Closes r code ∧ s.closes = [code])

/-- The calls of a dialogue that may be made. -/
def Allows : ConnCall → Prop
  | .receiveText | .hangup => s.Listening
  | .handleMessage .. | .sendText _ => s.Serving
  | .close code => s.closes = [] ∧ ∃ r, s.sent.getLast? = some r ∧ Closes r code
  | .clientConnected | .utcNow => True
  | _ => False

/-- The reply of a socket that is connected; of the orchestrator, what it answers. -/
def Fine : (i : ConnCall) → ConnReply i → Prop
  | .receiveText, .error _ => False
  | .hangup, e => ∃ text, e = Exc.webSocketDisconnect text
  | .clientConnected, b => b = true
  | .sendText _, .error _ | .close _, .error _ => False
  | .handleMessage .., out => Answerable out
  | _, _ => True

/-- What a call adds. -/
def add : (i : ConnCall) → ConnReply i → Script
  | .receiveText, .ok text => { s with texts := s.texts ++ [text] }
  | .sendText r, _ => { s with sent := s.sent ++ [r] }
  | .close code, _ => { s with closes := s.closes ++ [code] }
  | _, _ => s

def next (i : ConnCall) (r : ConnReply i) : Script := { s.add i r with lost := s.lost ∨ ¬ Fine i r }

end Script

/-- The monitor of the socket. -/
def script : Monitor ConnCall ConnReply Script := ⟨fun s i => s.lost ∨ s.Allows i, Script.next⟩

section

variable {α : Type} {s : Script} {t : Transport}

/-- Once the socket has failed, anything goes. -/
theorem script_absorbs : script.Absorbs Script.lost := fun _ h => ⟨fun _ => .inl h, fun _ _ => .inl h⟩

/-- A call whose reply is fine leaves the socket as it was. -/
theorem next_of_fine {i : ConnCall} {r : ConnReply i} (h : Script.Fine i r) : s.next i r = s.add i r := by
  have hlost : (s.lost ∨ ¬ Script.Fine i r) = (s.add i r).lost := by
    have hadd : (s.add i r).lost = s.lost := by
      unfold Script.add
      split <;> rfl
    rw [hadd]
    exact propext (or_iff_left (not_not.2 h))
  unfold Script.next
  rw [hlost]

/-- A frame received is to be answered. -/
theorem Script.Listening.received (h : s.Listening) (text : String) :
    ({ s with texts := s.texts ++ [text] } : Script).Serving := by
  obtain ⟨hopen, hlen⟩ := h
  refine ⟨hopen, ?_⟩
  rw [List.length_append, hlen]
  rfl

/-- A TRANSCRIPT_ACK answers it. -/
theorem Script.Serving.acked (h : s.Serving) {r : Response} (hr : r.eventType = .transcriptAck) :
    ({ s with sent := s.sent ++ [r] } : Script).Listening := by
  obtain ⟨⟨hcloses, hsent⟩, hlen⟩ := h
  refine ⟨⟨hcloses, fun r' hr' => ?_⟩, ?_⟩
  · rcases List.mem_append.1 hr' with hr' | hr'
    · exact hsent r' hr'
    · rw [List.mem_singleton.1 hr', hr]
  · rw [hlen, List.length_append]
    rfl

/-- Another response answers it too; the close frame comes next and is the last. -/
theorem Script.Serving.closed (h : s.Serving) {r : Response} {code : WsCloseCode} (hr : Closes r code) :
    ({ s with sent := s.sent ++ [r], closes := s.closes ++ [code] } : Script).Finished := by
  obtain ⟨⟨hcloses, -⟩, hlen⟩ := h
  refine ⟨?_, .inr ⟨r, code, List.getLast?_concat, hr, ?_⟩⟩
  · rw [hlen, List.length_append]
    rfl
  · rw [hcloses]
    rfl

theorem Script.Serving.close (h : s.Serving) {r : Response} {code : WsCloseCode} (hr : Closes r code) :
    ({ s with sent := s.sent ++ [r] } : Script).Allows (.close code) :=
  ⟨h.1.1, r, List.getLast?_concat, hr⟩

/-! ## The message loop -/

/-- How the message loop ends: every frame is answered, and it raises only what a client that
hangs up makes `receive_text` raise. -/
def Done (s : Script) (out : Except Exc Unit) : Prop :=
  s.lost ∨ s.Finished ∧ ∀ e, out = .error e → ∃ text, e = .webSocketDisconnect text

/-- A call that the socket answers fine or not at all. -/
theorem script_lift_bind {i : ConnCall} {β : Type} {f : ConnReply i → Conn β}
    {Q : Script → Except Exc β → Prop} (hi : s.Allows i)
    (h : ∀ r, Script.Fine i r → script.Sat (f r).run (s.add i r) fun s' out => s'.lost ∨ Q s' out) :
    script.Sat (Conn.ask i >>= f).run s fun s' out => s'.lost ∨ Q s' out := by
  refine script_absorbs.lift_bind (fun _ _ hlost => .inl hlost) (.inr hi) (fun r hr => .inr hr) fun r hr => ?_
  rw [show script.next s i r = s.add i r from next_of_fine hr]
  exact h r hr

/-- The same for a call that may raise: its reply is read by `k`. -/
theorem script_call_bind {i : ConnCall} {β γ : Type} {k : ConnReply i → Prog ConnCall ConnReply (Except Exc γ)}
    {f : γ → Conn β} {Q : Script → Except Exc β → Prop} (hi : s.Allows i)
    (h : ∀ r, Script.Fine i r →
      script.Sat (k r) (s.add i r) (script.After f fun s' out => s'.lost ∨ Q s' out)) :
    script.Sat (ExceptT.mk (.call i k) >>= f : Conn β).run s fun s' out => s'.lost ∨ Q s' out := by
  refine script_absorbs.call_bind (fun _ _ hlost => .inl hlost) (.inr hi) (fun r hr => .inr hr) fun r hr => ?_
  rw [show script.next s i r = s.add i r from next_of_fine hr]
  exact h r hr

/-- An ERROR answers the frame and closes the socket. -/
theorem sendErrorAndClose_script (hs : s.Serving) {scenario : ProtocolErrorScenario} {code : WsCloseCode}
    (hcode : scenario.wsCloseCode = some code) (c : String) (details : Option String) :
    script.Sat (sendErrorAndClose c scenario details).run s fun s' out =>
      s'.lost ∨ s'.Finished ∧ out = .ok () := by
  unfold sendErrorAndClose ProtocolErrorScenario.requireWsCloseCode
  rw [hcode]
  refine Monitor.sat_attempt_bind.2 (script_lift_bind trivial fun connected hc => ?_)
  obtain rfl : connected = true := hc
  rw [if_pos rfl]
  refine script_lift_bind trivial fun now _ => ?_
  have hcloses : Closes (scenario.buildResponse now c details) code := .error scenario now c details hcode
  refine script_call_bind hs fun sent hsent => ?_
  cases sent with
  | error e => exact hsent.elim
  | ok _ =>
    refine ⟨.inr (hs.close hcloses), fun closed => ?_⟩
    cases closed with
    | error e => exact .inl (.inr id)
    | ok _ =>
      right
      refine ⟨?_, rfl⟩
      rw [show script.next _ (.close code) (.ok ()) = _ from next_of_fine (i := .close code) trivial]
      exact hs.closed hcloses

/-- The message loop answers every frame, the last one with the close frame after it. -/
theorem runWsMessageLoop_script (hs : s.Listening) (c : String) (frames : ℕ) :
    script.Sat (t.runWsMessageLoop c frames).run s Done := by
  induction frames generalizing s with
  | zero =>
    refine script_lift_bind hs fun e he => .inr ⟨⟨hs.2, .inl hs.1⟩, ?_⟩
    rintro _ ⟨⟩
    exact he
  | succ frames ih =>
    refine script_call_bind hs fun received hreceived => ?_
    cases received with
    | error e => exact hreceived.elim
    | ok rawText =>
      have hserving := hs.received rawText
      -- the frame is refused by the transport itself
      have hclose : ∀ {scenario : ProtocolErrorScenario} {code} details, scenario.wsCloseCode = some code →
          script.Sat (sendErrorAndClose c scenario details).run
            { s with texts := s.texts ++ [rawText] } Done := by
        intro scenario code details hcode
        refine Monitor.sat_mono ?_ (sendErrorAndClose_script hserving hcode c details)
        rintro s' out (hlost | ⟨hfin, rfl⟩)
        · exact .inl hlost
        · exact .inr ⟨hfin, fun e he => by cases he⟩
      simp only [Monitor.Sat, Monitor.After, Script.add]
      cases t.loads rawText with
      | error text => exact hclose _ rfl
      | ok raw =>
        simp only
        split
        · exact hclose _ rfl
        · refine script_call_bind hserving fun handled hhandled => ?_
          cases handled with
          | error e => exact hhandled.elim
          | ok result =>
            refine script_lift_bind trivial fun connected hconnected => ?_
            obtain rfl : connected = true := hconnected
            rw [if_pos rfl]
            refine script_call_bind hserving fun sent hsent => ?_
            cases sent with
            | error e => exact hsent.elim
            | ok _ =>
              simp only [Monitor.Sat, Monitor.After, Script.add]
              rcases hhandled with ⟨hack, hd⟩ | ⟨hd, hcloses⟩
              · rw [hd, if_neg Bool.false_ne_true]
                exact ih (hserving.acked hack)
              · rw [hd, if_pos rfl]
                refine script_lift_bind trivial fun connected hconnected => ?_
                obtain rfl : connected = true := hconnected
                rw [if_pos rfl]
                refine ⟨.inr (hserving.close hcloses), fun closed => ?_⟩
                cases closed with
                | error e => exact .inl (.inr id)
                | ok _ =>
                  refine .inr ⟨?_, fun e he => by cases he⟩
                  rw [show script.next _ (.close result.closeCode) (.ok ()) = _ from
                    next_of_fine (i := .close result.closeCode) trivial]
                  exact hserving.closed hcloses

/-- **The loop with its exception handlers**: none of them has anything to send. -/
theorem guardedMessageLoop_script (hs : s.Listening) (c : String) (frames : ℕ) :
    script.Sat (t.guardedMessageLoop c frames).run s fun s' _ => s'.lost ∨ s'.Finished := by
  refine Monitor.sat_attempt_bind.2 (Monitor.sat_mono ?_ (runWsMessageLoop_script hs c frames))
  rintro s' out (hlost | ⟨hfin, hout⟩)
  · exact script_absorbs.sat (fun _ _ h => .inl h) hlost
  · rcases out with e | _
    · obtain ⟨text, rfl⟩ := hout e rfl
      exact .inr hfin
    · exact .inr hfin

end

/-! ## Dialogues -/

/-- The monitor of a dialogue: backend calls are made for a frame that is to be answered. -/
def dialogueScript : Monitor SessionCall SessionReply Script where
  ok s
    | .conn i => (s.lost ∨ s.Allows i) ∧ ∀ raw c, i ≠ .handleMessage raw c
    | .backend _ => s.lost ∨ s.Serving
  next s
    | .conn i, r => s.next i r
    | .backend _, _ => s

variable {t : Transport} {d : Deps} {c : String} {frames : ℕ}

/-- **A dialogue keeps to the script.** -/
theorem session_script (hstr : d.StrFields) :
    dialogueScript.Sat (t.session d c frames) .start fun s' _ => s'.lost ∨ s'.Finished := by
  have hstart : Script.start.Listening := ⟨⟨rfl, nofun⟩, rfl⟩
  have hserve : ∀ s s' i, s = s' → script.ok s i →
      dialogueScript.Sat (d.serve i) s' fun t' r => script.next s i r = t' := by
    rintro s _ i rfl hok
    cases i with
    | handleMessage raw c =>
      -- the handler's calls leave the script alone, and its result is fine
      have hcall : ∀ (l : List Reckoned) s' call, s' = s → ledger.ok l call →
          dialogueScript.Sat (.call (SessionCall.backend call) fun r => .ret r) s' fun t' _ => t' = s := by
        rintro l _ call rfl -
        exact ⟨hok, fun _ => rfl⟩
      refine Monitor.sat_mono ?_ (Monitor.sat_interp hcall (handleMessage_story hstr raw c) rfl)
      rintro s' out ⟨calls, rfl, r, rfl, htold⟩
      exact next_of_fine (i := .handleMessage raw c) htold.answerable
    | _ => exact ⟨⟨hok, nofun⟩, fun _ => rfl⟩
  refine Monitor.sat_mono ?_ (Monitor.sat_interp hserve (guardedMessageLoop_script hstart c frames) rfl)
  rintro s' out ⟨_, rfl, h⟩
  exact h

/-! ## Transcripts -/

/-- A call of a dialogue with its reply. -/
abbrev Exchange := Σ i, SessionReply i

/-- The socket stays connected: it delivers text frames until the client hangs up, and takes
what is sent. -/
def Connected (τ : List Exchange) : Prop :=
  ∀ i r, ⟨.conn i, r⟩ ∈ τ → (∀ raw c, i ≠ .handleMessage raw c) → Script.Fine i r

def Exchange.received : Exchange → Option String
  | ⟨.conn .receiveText, .ok text⟩ => some text
  | _ => none

def Exchange.response : Exchange → Option Response
  | ⟨.conn (.sendText r), _⟩ => some r
  | _ => none

def Exchange.closeCode : Exchange → Option WsCloseCode
  | ⟨.conn (.close code), _⟩ => some code
  | _ => none

/-- The text frames consumed. -/
def received (τ : List Exchange) : List String := τ.filterMap Exchange.received

/-- The responses sent. -/
def responses (τ : List Exchange) : List Response := τ.filterMap Exchange.response

/-- The close frames sent. -/
def closeCodes (τ : List Exchange) : List WsCloseCode := τ.filterMap Exchange.closeCode

/-- The transcript of a dialogue, also of one under way. -/
structure Transcript (τ : List Exchange) : Prop where
  paired : (responses τ).length ≤ (received τ).length ∧ (received τ).length ≤ (responses τ).length + 1
  acks : ∀ r ∈ (responses τ).dropLast, r.eventType = .transcriptAck
  inOrder : ∀ τ₁ r x τ₂, τ = τ₁ ++ ⟨.conn (.sendText r), x⟩ :: τ₂ →
    (received τ₁).length = (responses τ₁).length + 1
  last : ∀ τ₁ r x τ₂, τ = τ₁ ++ ⟨.conn (.sendText r), x⟩ :: τ₂ → r.eventType ≠ .transcriptAck →
    ∀ e ∈ τ₂, e.1 = .conn .clientConnected ∨ e.1 = .conn .utcNow ∨
      ∃ code, e.1 = .conn (.close code) ∧ Closes r code
  closes : closeCodes τ = [] ∨
    ∃ r code, (responses τ).getLast? = some r ∧ Closes r code ∧ closeCodes τ = [code]

/-- A dialogue that has returned has answered every frame, and has closed the socket after a
response that is no TRANSCRIPT_ACK. -/
structure Concluded (τ : List Exchange) : Prop where
  answered : (received τ).length = (responses τ).length
  closed : ∀ r, (responses τ).getLast? = some r → r.eventType ≠ .transcriptAck →
    ∃ code, Closes r code ∧ closeCodes τ = [code]

section

variable {s : Script} {τ τ₁ τ₂ : List Exchange}

/-- What a call adds to the script is what it says. -/
theorem script_next (i : ConnCall) (r : ConnReply i) :
    (s.next i r).texts = s.texts ++ (Exchange.received ⟨.conn i, r⟩).toList ∧
    (s.next i r).sent = s.sent ++ (Exchange.response ⟨.conn i, r⟩).toList ∧
    (s.next i r).closes = s.closes ++ (Exchange.closeCode ⟨.conn i, r⟩).toList := by
  have hnil : ∀ {α : Type} (l : List α), l = l ++ (none : Option α).toList := fun l => (List.append_nil l).symm
  cases i with
  | receiveText =>
    cases r with
    | ok text => exact ⟨rfl, hnil _, hnil _⟩
    | error e => exact ⟨hnil _, hnil _, hnil _⟩
  | sendText r' => exact ⟨hnil _, rfl, hnil _⟩
  | close code => exact ⟨hnil _, hnil _, rfl⟩
  | _ => exact ⟨hnil _, hnil _, hnil _⟩

theorem filterMap_cons_toList {α β : Type} (f : α → Option β) (a : α) (l : List α) :
    (a :: l).filterMap f = (f a).toList ++ l.filterMap f := by
  rw [List.filterMap_cons]
  cases f a <;> rfl

theorem received_cons (e : Exchange) : received (e :: τ) = e.received.toList ++ received τ :=
  filterMap_cons_toList ..

theorem responses_cons (e : Exchange) : responses (e :: τ) = e.response.toList ++ responses τ :=
  filterMap_cons_toList ..

theorem closeCodes_cons (e : Exchange) : closeCodes (e :: τ) = e.closeCode.toList ++ closeCodes τ :=
  filterMap_cons_toList ..

/-- The script of a trace is read off it. -/
theorem script_after (s : Script) (τ : List Exchange) :
    (dialogueScript.after s τ).texts = s.texts ++ received τ ∧
    (dialogueScript.after s τ).sent = s.sent ++ responses τ ∧
    (dialogueScript.after s τ).closes = s.closes ++ closeCodes τ := by
  induction τ generalizing s with
  | nil => simp [Monitor.after, received, responses, closeCodes]
  | cons e τ ih =>
    obtain ⟨i, r⟩ := e
    have hcons : dialogueScript.after s (⟨i, r⟩ :: τ) = dialogueScript.after (dialogueScript.next s i r) τ := rfl
    obtain ⟨ht, hs, hc⟩ := ih (dialogueScript.next s i r)
    rw [hcons, ht, hs, hc]
    cases i with
    | backend call => exact ⟨rfl, rfl, rfl⟩
    | conn i =>
      obtain ⟨ht', hs', hc'⟩ := script_next (s := s) i r
      refine ⟨?_, ?_, ?_⟩
      · rw [received_cons, ← List.append_assoc]
        exact congrArg (· ++ received τ) ht'
      · rw [responses_cons, ← List.append_assoc]
        exact congrArg (· ++ responses τ) hs'
      · rw [closeCodes_cons, ← List.append_assoc]
        exact congrArg (· ++ closeCodes τ) hc'

/-- Over a connected socket no script is lost. -/
theorem not_lost_after (hs : ¬ s.lost)
    (h : ∀ i r, ⟨.conn i, r⟩ ∈ τ → Script.Fine i r) : ¬ (dialogueScript.after s τ).lost := by
  induction τ generalizing s with
  | nil => exact hs
  | cons e τ ih =>
    obtain ⟨i, r⟩ := e
    refine ih ?_ fun i r hmem => h i r (List.mem_cons_of_mem _ hmem)
    cases i with
    | backend call => exact hs
    | conn i =>
      have hfine := h i r List.mem_cons_self
      rintro (hlost | hbad)
      · exact hs hlost
      · exact hbad hfine

end

section

variable {τ τ₁ τ₂ : List Exchange} {q : Prog SessionCall SessionReply (Except Exc Unit)}

theorem Connected.left (hc : Connected (τ₁ ++ τ₂)) : Connected τ₁ :=
  fun i r hmem => hc i r (List.mem_append_left _ hmem)

/-- The script of a dialogue over a connected socket is not lost. -/
theorem session_not_lost (hstr : d.StrFields) (h : Trace (t.session d c frames) τ q)
    (hc : Connected τ) : ¬ (dialogueScript.after .start τ).lost := by
  refine not_lost_after id fun i r hmem => ?_
  -- a message is not handed to the environment
  obtain ⟨s, -, hok⟩ := (session_script hstr).ok_of_mem (P := fun _ => True) (fun _ _ _ _ _ => trivial) h
    trivial hmem
  exact hc i r hmem hok.2

/-- Where a dialogue over a connected socket stands, it is allowed what it does next. -/
theorem session_allows (hstr : d.StrFields) {i : SessionCall} {r : SessionReply i}
    (h : Trace (t.session d c frames) (τ₁ ++ ⟨i, r⟩ :: τ₂) q) (hc : Connected (τ₁ ++ ⟨i, r⟩ :: τ₂)) :
    match i with
    | .conn i => (dialogueScript.after .start τ₁).Allows i
    | .backend _ => (dialogueScript.after .start τ₁).Serving := by
  obtain ⟨p', h₁, -⟩ := h.split
  have hlost := session_not_lost hstr h₁ hc.left
  have hok := (session_script hstr).ok_at h
  cases i with
  | conn i => exact hok.1.resolve_left hlost
  | backend call => exact hok.resolve_left hlost

/-- What holds of a script along a dialogue. -/
structure Script.Kept (s : Script) : Prop where
  paired : s.sent.length ≤ s.texts.length ∧ s.texts.length ≤ s.sent.length + 1
  acks : ∀ r ∈ s.sent.dropLast, r.eventType = .transcriptAck
  closes : s.closes = [] ∨ ∃ r code, s.sent.getLast? = some r ∧ Closes r code ∧ s.closes = [code]

theorem Script.start_kept : Script.start.Kept := ⟨⟨Nat.le_refl _, Nat.zero_le _⟩, nofun, .inl rfl⟩

/-- An allowed call keeps it. -/
theorem Script.Kept.next {s : Script} (h : s.Kept) {i : ConnCall} (hi : s.Allows i) (r : ConnReply i) :
    (s.next i r).Kept := by
  cases i with
  | receiveText =>
    obtain ⟨hopen, hlen⟩ := hi
    cases r with
    | error e => exact ⟨h.paired, h.acks, h.closes⟩
    | ok text =>
      refine ⟨?_, h.acks, h.closes⟩
      simp only [Script.next, Script.add, List.length_append, List.length_singleton]
      omega
  | sendText r' =>
    obtain ⟨⟨hcloses, hsent⟩, hlen⟩ := hi
    refine ⟨?_, fun x hx => ?_, .inl hcloses⟩
    · simp only [Script.next, Script.add, List.length_append, List.length_singleton]
      omega
    · simp only [Script.next, Script.add, List.dropLast_concat] at hx
      exact hsent x hx
  | close code =>
    obtain ⟨hnil, r', hlast, hcloses⟩ := hi
    refine ⟨h.paired, h.acks, .inr ⟨r', code, hlast, hcloses, ?_⟩⟩
    simp only [Script.next, Script.add, hnil, List.nil_append]
  | clientConnected | utcNow | hangup | handleMessage => exact ⟨h.paired, h.acks, h.closes⟩
  | _ => exact hi.elim

/-- **The script of a dialogue is kept.** -/
theorem session_kept (hstr : d.StrFields) (h : Trace (t.session d c frames) τ q) (hc : Connected τ) :
    (dialogueScript.after .start τ).Kept := by
  have hlost := session_not_lost hstr h hc
  have hkept := (session_script hstr).keeps (P := fun s => s.lost ∨ s.Kept) (fun s i r hok hs => ?_) h
    (.inr Script.start_kept)
  · exact hkept.resolve_left hlost
  · rcases hs with hs | hs
    · cases i with
      | conn i => exact .inl (.inl hs)
      | backend call => exact .inl hs
    · cases i with
      | conn i =>
        rcases hok.1 with hlost | hi
        · exact .inl (.inl hlost)
        · exact .inr (hs.next hi r)
      | backend call => exact .inr hs

/-- A script whose last response is no TRANSCRIPT_ACK is not open. -/
theorem Script.Open.last {s : Script} (h : s.Open) {r : Response} (hr : s.sent.getLast? = some r) :
    r.eventType = .transcriptAck := h.2 r (List.mem_of_getLast? hr)

/-- After a response that is no TRANSCRIPT_ACK no other one is sent. -/
theorem session_last (hstr : d.StrFields) {r : Response} {x : ConnReply (.sendText r)}
    (hr : r.eventType ≠ .transcriptAck)
    (h : Trace (t.session d c frames) (τ₁ ++ ⟨.conn (.sendText r), x⟩ :: τ₂) q) :
    (dialogueScript.after .start (τ₁ ++ ⟨.conn (.sendText r), x⟩ :: τ₂)).lost ∨
      (dialogueScript.after .start (τ₁ ++ ⟨.conn (.sendText r), x⟩ :: τ₂)).sent.getLast? = some r := by
  refine (session_script hstr).of_mem (P := fun s => s.lost ∨ s.sent.getLast? = some r)
    (i := .conn (.sendText r)) (r := x) ?_ h (List.mem_append_right _ List.mem_cons_self)
    fun s _ => .inr List.getLast?_concat
  rintro s (i | call) y hok (hlost | hlast)
  · exact .inl (.inl hlost)
  · obtain ⟨hlost | hi, -⟩ := hok
    · exact .inl (.inl hlost)
    · right
      cases i with
      | sendText r' => exact absurd (hi.1.last hlast) hr
      | receiveText => cases y <;> exact hlast
      | _ => exact hlast
  · exact .inl hlost
  · exact .inr hlast

/-- **The transcript of a session.** -/
theorem session_transcript (hstr : d.StrFields) (h : Trace (t.session d c frames) τ q) (hc : Connected τ) :
    Transcript τ ∧ ∀ out, q = .ret out → Concluded τ := by
  obtain ⟨htexts, hsent, hcloses⟩ := script_after .start τ
  have hkept := session_kept hstr h hc
  have hclosed : closeCodes τ = [] ∨
      ∃ r code, (responses τ).getLast? = some r ∧ Closes r code ∧ closeCodes τ = [code] := by
    have hk := hkept.closes
    rwa [hsent, hcloses] at hk
  refine ⟨⟨?_, ?_, ?_, ?_, hclosed⟩, ?_⟩
  · have hpaired := hkept.paired
    rwa [htexts, hsent] at hpaired
  · have hacks := hkept.acks
    rwa [hsent] at hacks
  · rintro τ₁ r x τ₂ rfl
    obtain ⟨htexts₁, hsent₁, -⟩ := script_after .start τ₁
    have hserving : (dialogueScript.after .start τ₁).Serving := session_allows hstr h hc
    have hlen := hserving.2
    rwa [htexts₁, hsent₁] at hlen
  · rintro τ₁ r x τ₂ rfl hr e he
    obtain ⟨τ₃, τ₄, rfl⟩ := List.append_of_mem he
    obtain ⟨i, y⟩ := e
    -- where the call is made, the response is the last one sent
    have happend : τ₁ ++ ⟨.conn (.sendText r), x⟩ :: (τ₃ ++ ⟨i, y⟩ :: τ₄) =
        (τ₁ ++ ⟨.conn (.sendText r), x⟩ :: τ₃) ++ ⟨i, y⟩ :: τ₄ := by simp
    rw [happend] at h hc
    obtain ⟨q', h₃, -⟩ := h.split
    have hlast := (session_last hstr hr h₃).resolve_left (session_not_lost hstr h₃ hc.left)
    have hallow := session_allows hstr h hc
    cases i with
    | backend call => exact absurd (hallow.1.last hlast) hr
    | conn i =>
      cases i with
      | clientConnected => exact .inl rfl
      | utcNow => exact .inr (.inl rfl)
      | close code =>
        obtain ⟨-, r', hr', hcloses'⟩ := hallow
        obtain rfl : r' = r := Option.some.inj (hr'.symm.trans hlast)
        exact .inr (.inr ⟨code, rfl, hcloses'⟩)
      | receiveText | hangup | sendText | handleMessage => exact absurd (hallow.1.last hlast) hr
      | _ => exact hallow.elim
  · rintro out rfl
    have hlost := session_not_lost hstr h hc
    obtain ⟨hlen, hfin⟩ := ((session_script hstr).returned h).resolve_left hlost
    rw [htexts, hsent] at hlen
    refine ⟨hlen, fun r hr hack => ?_⟩
    rcases hfin with hopen | ⟨r', code, hlast, hcode, hcloses'⟩
    · exact absurd (hopen.last (by rw [hsent]; exact hr)) hack
    · rw [hsent] at hlast
      obtain rfl : r' = r := Option.some.inj (hlast.symm.trans hr)
      exact ⟨code, hcode, by rw [← hcloses']; exact hcloses.symm⟩

end

section

open Sample

/-- The answer to a text that is no JSON. -/
def invalidJson : Response :=
  ProtocolErrorScenario.invalidJson.buildResponse ⟨0⟩ cid (some "unexpected character: line 1 column 1 (char 0)")

/-- A session of two texts: the plain message `0`, which the orchestrator takes and acknowledges,
and one that is no JSON. -/
def twoTexts : List Exchange :=
  [⟨.conn .receiveText, .ok ongoingText⟩, ⟨.backend (.prepare cid 0), .ok ⟨.preCheckOk, some 0⟩⟩,
    ⟨.backend .utcNow, (⟨0⟩ : Datetime)⟩, ⟨.backend (.send cid (toKafkaPayload ⟨0⟩ (ongoingMessage 0))), .ok ()⟩,
    ⟨.backend (.commit cid 0), .ok ()⟩, ⟨.backend .utcNow, (⟨0⟩ : Datetime)⟩, ⟨.conn .clientConnected, true⟩,
    ⟨.conn (.sendText (buildTranscriptAck ⟨0⟩ cid 0)), .ok ()⟩, ⟨.conn .receiveText, .ok "hello"⟩,
    ⟨.conn .clientConnected, true⟩, ⟨.conn .utcNow, (⟨0⟩ : Datetime)⟩, ⟨.conn (.sendText invalidJson), .ok ()⟩,
    ⟨.conn (.close .invalidPayload), .ok ()⟩]

theorem connected_cons {i : ConnCall} {r : ConnReply i} {τ : List Exchange} (hr : Script.Fine i r)
    (hτ : Connected τ) : Connected (⟨.conn i, r⟩ :: τ) := by
  intro j r' hmem hj
  rcases List.mem_cons.1 hmem with heq | hmem
  · obtain ⟨rfl⟩ : j = i := SessionCall.conn.inj (Sigma.mk.inj heq).1
    rw [eq_of_heq (Sigma.mk.inj heq).2]
    exact hr
  · exact hτ j r' hmem hj

/-- What a backend answers is no matter of the socket. -/
theorem connected_backend {call : Call} {r : Reply call} {τ : List Exchange} (hτ : Connected τ) :
    Connected (⟨.backend call, r⟩ :: τ) := by
  intro j r' hmem hj
  rcases List.mem_cons.1 hmem with heq | hmem
  · cases (Sigma.mk.inj heq).1
  · exact hτ j r' hmem hj

theorem twoTexts_connected : Connected twoTexts := by
  -- the message and its handler
  refine connected_cons trivial (connected_backend (connected_backend (connected_backend ?_)))
  refine connected_backend (connected_backend (connected_cons rfl (connected_cons trivial ?_)))
  -- the text that is no JSON
  refine connected_cons trivial (connected_cons rfl (connected_cons trivial (connected_cons trivial ?_)))
  exact connected_cons trivial fun _ _ h => absurd h List.not_mem_nil

set_option maxRecDepth 8000 in
theorem twoTexts_trace : Trace (transport.session deps cid 2) twoTexts (.ret (.ok ())) := by
  -- the message and its handler
  refine .cons (.cons (.cons (.cons (.cons (.cons (.cons (.cons ?_)))))))
  -- the text that is no JSON
  exact .cons (.cons (.cons (.cons (.cons (.nil _)))))

/-- The message is acknowledged, the other text is answered with an ERROR, and the socket is closed. -/
theorem two_texts_concluded : (responses twoTexts).map Response.eventType = [.transcriptAck, .error] ∧
    closeCodes twoTexts = [.invalidPayload] ∧ Transcript twoTexts ∧ Concluded twoTexts := by
  obtain ⟨htranscript, hconcluded⟩ := session_transcript deps_strFields twoTexts_trace twoTexts_connected
  exact ⟨rfl, rfl, htranscript, hconcluded _ rfl⟩

end

end Transcribe
