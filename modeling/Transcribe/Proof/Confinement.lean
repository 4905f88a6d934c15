import Transcribe.Proof.Backend
import Transcribe.Proof.Transcript

/-!
# A session stays with its conversation

`SessionCall.Within c` are the calls that concern the conversation `c` alone.

* `keeps_wsEndpoint`, `keeps_refreshLoop`: an endpoint of `c`, with the handlers of its
  messages, makes no other calls.
* `exec_same`: what such a call does and answers depends on `c`'s part of the backend only.
* `conversation_confined`: in any interleaving a dialogue sees what it sees alone.
-/

namespace Transcribe

open Resumption EventSystem

/-! ## Calls of one conversation -/

/-- A backend call for `c`: for its sequence key, or a record of `c` with the key `c`. -/
def Call.Within (c : String) : Call → Prop
  | .prepare c' _ | .commit c' _ | .cleanup c' => c' = c
  | .send c' p => c' = c ∧ p.metaData.conversationId = c
  | .utcNow => True

/-- A frame sent is for `c`, and so is what is asked of the guard, the registry and the
orchestrator. -/
def ConnCall.Within (c : String) : ConnCall → Prop
  | .sendText frame => frame.conversationId = c
  | .guard (.claimOrRefresh c' _) | .guard (.release c' _) | .registryAdd c' | .registryRemove c'
  | .spawnRefresh c' _ => c' = c
  | .handleMessage raw c' => c' = c ∧ bodyMismatch raw c = false
  | _ => True

def SessionCall.Within (c : String) : SessionCall → Prop
  | .conn i => i.Within c
  | .backend call => call.Within c

/-- What the orchestrator returns is for `c`. -/
def Answered (c : String) : (i : ConnCall) → ConnReply i → Prop
  | .handleMessage .., .ok r => r.response.conversationId = c
  | _, _ => True

/-- The monitor of `c`; its state tells that the orchestrator has answered for another
conversation. -/
def within (c : String) : Monitor ConnCall ConnReply Prop :=
  ⟨fun astray i => astray ∨ i.Within c, fun astray i r => astray ∨ ¬ Answered c i r⟩

theorem within_absorbs (c : String) : (within c).Absorbs id := fun _ h => ⟨fun _ => .inl h, fun _ _ => .inl h⟩

/-- The coroutine keeps to `c`. -/
def Keeps {α : Type} (c : String) (x : Conn α) : Prop := ∀ s, (within c).Sat x.run s fun _ _ => True

section

variable {α β : Type} {c : String} {t : Transport}

theorem keeps_pure (a : α) : Keeps c (pure a) := fun _ => trivial

theorem keeps_ofExcept (r : Except Exc α) : Keeps c (ofExcept r) := by
  cases r <;> exact fun _ => trivial

theorem keeps_call (i : ConnCall) (hi : i.Within c) {f : ConnReply i → Except Exc α} :
    Keeps c (ExceptT.mk (.call i fun r => .ret (f r))) := fun _ => ⟨.inr hi, fun _ => trivial⟩

theorem keeps_ask (i : ConnCall) (hi : i.Within c) : Keeps c (Conn.ask i) := fun _ => ⟨.inr hi, fun _ => trivial⟩

theorem Keeps.bind {x : Conn α} {f : α → Conn β} (hx : Keeps c x) (hf : ∀ a, Keeps c (f a)) :
    Keeps c (x >>= f) := by
  intro s
  refine Monitor.sat_exceptT_bind.2 (Monitor.sat_mono (fun s' out _ => ?_) (hx s))
  cases out with
  | error e => trivial
  | ok a => exact hf a s'

theorem Keeps.attempt {x : Conn α} (hx : Keeps c x) : Keeps c (attempt x) :=
  fun s => Monitor.sat_attempt.2 (hx s)

theorem Keeps.ite {P : Prop} [Decidable P] {x y : Conn α} (hx : Keeps c x) (hy : Keeps c y) :
    Keeps c (if P then x else y) := by
  split
  · exact hx
  · exact hy

theorem keeps_sendErrorAndClose (scenario : ProtocolErrorScenario) (details : Option String) :
    Keeps c (sendErrorAndClose c scenario details) := by
  unfold sendErrorAndClose
  refine Keeps.bind (Keeps.attempt ?_) fun _ => keeps_pure _
  refine Keeps.bind (keeps_ask .clientConnected trivial) fun connected => Keeps.ite ?_ (keeps_pure _)
  refine Keeps.bind (keeps_ofExcept _) fun closeCode => ?_
  refine Keeps.bind (keeps_ask .utcNow trivial) fun now => ?_
  exact Keeps.bind (keeps_call (.sendText _) rfl) fun _ => keeps_call (.close closeCode) trivial

/-- **The message loop keeps to its conversation.** -/
theorem keeps_runWsMessageLoop (frames : ℕ) : Keeps c (t.runWsMessageLoop c frames) := by
  induction frames with
  | zero => exact Keeps.bind (keeps_ask .hangup trivial) fun e => keeps_ofExcept (.error e)
  | succ frames ih =>
    refine Keeps.bind (keeps_call .receiveText trivial) fun rawText => ?_
    cases t.loads rawText with
    | error text => exact keeps_sendErrorAndClose _ _
    | ok raw =>
      simp only
      cases hb : bodyMismatch raw c with
      | true => exact keeps_sendErrorAndClose _ _
      | false =>
        rw [if_neg Bool.false_ne_true]
        intro s
        refine (within_absorbs c).call_bind (P := Answered c (.handleMessage raw c))
          (fun _ _ _ => trivial) (.inr ⟨rfl, hb⟩) (fun r hr => .inr hr) fun handled hhandled => ?_
        cases handled with
        | error e => trivial
        | ok result =>
          -- what was answered is sent; then the socket is closed, or the next frame comes
          have hsend : Keeps c (Conn.sendText result.response) := keeps_call (.sendText _) hhandled
          have hclose : Keeps c (Conn.close result.closeCode) := keeps_call (.close _) trivial
          have hconnected : Keeps c Conn.clientConnected := keeps_ask .clientConnected trivial
          have hrest : Keeps c (do
              if ← Conn.clientConnected then Conn.sendText result.response
              if result.disconnect then
                if ← Conn.clientConnected then Conn.close result.closeCode
              else t.runWsMessageLoop c frames) := by
            refine Keeps.bind hconnected fun connected => ?_
            have hafter : Keeps c (if result.disconnect then do
                if ← Conn.clientConnected then Conn.close result.closeCode
              else t.runWsMessageLoop c frames) :=
              Keeps.ite (Keeps.bind hconnected fun _ => Keeps.ite hclose (keeps_pure _)) ih
            cases connected with
            | true => exact Keeps.bind hsend fun _ => hafter
            | false => exact hafter
          exact hrest _

theorem keeps_guardedMessageLoop (frames : ℕ) : Keeps c (t.guardedMessageLoop c frames) := by
  refine Keeps.bind (keeps_runWsMessageLoop frames).attempt fun outcome => ?_
  rcases outcome with (_ | _ | _) | _
  · exact keeps_sendErrorAndClose _ _
  · exact keeps_pure _
  · exact keeps_sendErrorAndClose _ _
  · exact keeps_pure _

theorem keeps_claimOrRefresh (u : String) : Keeps c (Conn.claimOrRefresh c u) :=
  keeps_call (.guard (.claimOrRefresh c u)) rfl

theorem keeps_refreshLoop (u : String) (rounds : ℕ) : Keeps c (refreshLoop c u rounds) := by
  induction rounds with
  | zero => exact keeps_pure _
  | succ rounds ih =>
    refine Keeps.bind (keeps_ask .sleep trivial) fun _ => ?_
    refine Keeps.bind (keeps_claimOrRefresh u).attempt fun outcome => ?_
    rcases outcome with e | _ | _
    · exact keeps_sendErrorAndClose _ _
    · exact keeps_sendErrorAndClose _ _
    · exact ih

theorem keeps_claimRuntimeOwnershipOrClose (u : String) : Keeps c (claimRuntimeOwnershipOrClose c u) := by
  refine Keeps.bind (keeps_claimOrRefresh u).attempt fun outcome => ?_
  rcases outcome with e | _ | _
  · exact Keeps.bind (keeps_sendErrorAndClose _ _) fun _ => keeps_pure _
  · exact Keeps.bind (keeps_sendErrorAndClose _ _) fun _ => keeps_pure _
  · exact keeps_pure _

theorem keeps_releaseOwnershipGuard (u : String) (acquired : Bool) :
    Keeps c (t.releaseOwnershipGuard c u acquired) := by
  refine Keeps.ite (Keeps.bind (Keeps.attempt ?_) fun _ => keeps_pure _) (keeps_pure _)
  exact keeps_call (.guard (.release c u)) rfl

theorem keeps_runSession (u : String) (acquired : Bool) (frames : ℕ) :
    Keeps c (t.runSession c u acquired frames) := by
  refine Keeps.bind (keeps_ask (.registryAdd c) rfl) fun _ => ?_
  have hspawn : Keeps c (Conn.ask (.spawnRefresh c u)) := keeps_ask (.spawnRefresh c u) rfl
  have hjoin : Keeps c (Conn.ask .joinRefresh) := keeps_ask .joinRefresh trivial
  have hrelease : ∀ outcome, Keeps c (do
      t.releaseOwnershipGuard c u acquired
      ofExcept outcome : Conn Unit) :=
    fun _ => Keeps.bind (keeps_releaseOwnershipGuard u acquired) fun _ => keeps_ofExcept _
  cases hr : t.ownershipGuard && acquired with
  | false =>
    simp only [Bool.false_eq_true, ↓reduceIte]
    refine Keeps.bind (keeps_guardedMessageLoop frames).attempt fun outcome => ?_
    exact Keeps.bind (keeps_ask (.registryRemove c) rfl) fun _ => hrelease outcome
  | true =>
    simp only [↓reduceIte]
    refine Keeps.bind hspawn fun _ => ?_
    refine Keeps.bind (keeps_guardedMessageLoop frames).attempt fun outcome => ?_
    exact Keeps.bind (keeps_ask (.registryRemove c) rfl) fun _ => Keeps.bind hjoin fun _ => hrelease outcome

/-- **The endpoint keeps to its conversation.** -/
theorem keeps_acceptSession (u : String) (acquired : Bool) (frames : ℕ) :
    Keeps c (t.acceptSession c u acquired frames) := by
  refine Keeps.bind (keeps_call .accept trivial).attempt fun accepted => ?_
  rcases accepted with e | _
  · exact keeps_releaseOwnershipGuard _ _
  · refine Keeps.ite (Keeps.bind (keeps_claimRuntimeOwnershipOrClose u) fun owned => ?_)
      (keeps_runSession _ _ _)
    exact Keeps.ite (keeps_runSession _ _ _) (keeps_pure _)

theorem keeps_wsEndpoint (admission : Transport.Admission) (frames : ℕ) :
    Keeps c (t.wsEndpoint admission c frames) := by
  cases admission with
  | some u =>
    rw [Transport.wsEndpoint_some]
    exact keeps_acceptSession u true frames
  | none =>
    rw [Transport.wsEndpoint_none]
    exact Keeps.bind (keeps_ask .uuid4 trivial) fun u => keeps_acceptSession u false frames

end

/-! ## With the handlers of its messages -/

section

variable {d : Deps} {c : String} {raw : Json}

/-- A message that passes the comparison is a message of `c`. -/
theorem Deps.StrFields.conversation (h : d.StrFields) {m : InboundMessage}
    (hv : m ∈ (d.modelValidate raw).toOption) (hb : bodyMismatch raw c = false) : m.conversationId = c := by
  have hok : d.modelValidate raw = .ok m := by
    cases hr : d.modelValidate raw with
    | ok m' =>
      rw [hr] at hv
      rw [Option.some.inj hv]
    | error e =>
      rw [hr] at hv
      cases hv
  unfold bodyMismatch at hb
  rw [h raw m hok] at hb
  simpa using hb

/-- What the protocol allows to the handler of a message of `c` is for `c`. -/
theorem Stage.Allows.within {m? : Option InboundMessage} {s : Stage} {call : Call} (h : s.Allows m? call)
    (hm : ∀ m ∈ m?, m.conversationId = c) : call.Within c := by
  cases call with
  | prepare c' seq =>
    obtain ⟨-, m, hmem, rfl, -⟩ := allows_prepare h
    exact hm m hmem
  | send c' p =>
    obtain ⟨-, m, hmem, rfl, producedAt, rfl⟩ := allows_send h
    exact ⟨hm m hmem, hm m hmem⟩
  | commit c' seq =>
    obtain ⟨-, m, hmem, rfl, -⟩ := allows_commit h
    exact hm m hmem
  | cleanup c' =>
    obtain ⟨-, m, hmem, rfl, -⟩ := allows_cleanup h
    exact hm m hmem
  | utcNow => trivial

/-- What ends a handler of a message of `c` is for `c`. -/
theorem Told.conversation (hstr : d.StrFields) {calls : List Reckoned} {r : OrchestratorResult}
    (h : Told d raw c calls r) (hb : bodyMismatch raw c = false) : r.response.conversationId = c := by
  cases h with
  | invalid hv hr hc =>
    rw [hc]
    unfold bodyMismatch at hb
    cases hbody : raw.bodyConversationId with
    | none => rfl
    | some c' =>
      rw [hbody] at hb
      simpa using hb
  | @valid m effects v r hv hs hr =>
    have hm : m.conversationId = c := hstr.conversation (by rw [hv]; rfl) hb
    cases v with
    | some scenario => rw [hr.2, hm]
    | none =>
      obtain ⟨now, hr, -⟩ := hr
      rw [hr]
      cases m.eventType <;> exact hm

/-- **A handler of a message of `c` keeps to `c`.** -/
theorem handler_within (hstr : d.StrFields) (hb : bodyMismatch raw c = false) :
    (Monitor.only (SessionCall.Within c)).Sat (d.serve (.handleMessage raw c)) ()
      fun _ out => Answered c (.handleMessage raw c) out := by
  have hprotocol : (protocol (d.modelValidate raw).toOption).Sat (d.program ⟨raw, c⟩) .start
      (Stage.Answers (d.modelValidate raw).toOption raw) := handleMessage_sat c
  have hboth := Monitor.sat_prod hprotocol (handleMessage_story hstr raw c)
  have hcall : ∀ (s : Stage × List Reckoned) (t : Unit) call, True →
      ((protocol (d.modelValidate raw).toOption).prod ledger).ok s call →
      (Monitor.only (SessionCall.Within c)).Sat
        (.call (SessionCall.backend call) fun r => .ret r : Prog SessionCall SessionReply (Reply call)) t
        fun _ _ => True := by
    rintro s t call - ⟨hallow, -⟩
    exact ⟨Stage.Allows.within hallow fun m hm => hstr.conversation hm hb, fun _ => trivial⟩
  refine Monitor.sat_mono ?_ (Monitor.sat_interp hcall hboth trivial)
  rintro s' out ⟨s'', -, -, r, rfl, htold⟩
  exact htold.conversation hstr hb

/-- **A coroutine that keeps to `c` does so with the handlers of its messages.** -/
theorem Keeps.within (hstr : d.StrFields) {x : Conn Unit} (hx : Keeps c x) :
    (Monitor.only (SessionCall.Within c)).Sat (x.run.interp d.serve) () fun _ _ => True := by
  have hserve : ∀ (astray : Prop) (u : Unit) i, ¬ astray → (Transcribe.within c).ok astray i →
      (Monitor.only (SessionCall.Within c)).Sat (d.serve i) u
        fun _ r => ¬ (Transcribe.within c).next astray i r := by
    rintro astray u i hastray hok
    have hi : i.Within c := hok.resolve_left hastray
    have hnext : ∀ r, Answered c i r → ¬ (Transcribe.within c).next astray i r :=
      fun r hr hs => hs.elim hastray fun hbad => hbad hr
    cases i with
    | handleMessage raw c' =>
      obtain ⟨rfl, hb⟩ := hi
      exact Monitor.sat_mono (fun _ r hr => hnext r hr) (handler_within hstr hb)
    | _ => exact ⟨hi, fun r => hnext r trivial⟩
  exact Monitor.sat_mono (fun _ _ _ => trivial) (Monitor.sat_interp hserve (hx False) id)

/-- All calls of a run of it are for `c`. -/
theorem Keeps.calls (hstr : d.StrFields) {x : Conn Unit} (hx : Keeps c x) {τ : List (Σ i, SessionReply i)}
    {q : Prog SessionCall SessionReply (Except Exc Unit)} (h : Trace (x.run.interp d.serve) τ q) :
    ∀ e ∈ τ, e.1.Within c := by
  rintro ⟨i, r⟩ hmem
  obtain ⟨_, -, hi⟩ := (hx.within hstr).ok_of_mem (P := fun _ => True) (fun _ _ _ _ _ => trivial) h
    trivial hmem
  exact hi

end

/-! ## The backend's part for a conversation -/

/-- Two backends hold the same for a conversation. -/
structure Backend.Same (sm : RedisSequenceStateMachine) (c : String) (b b' : Backend) : Prop where
  redis : b.redis (sm.key c) = b'.redis (sm.key c)
  records : b.records c = b'.records c

section

variable {sm : RedisSequenceStateMachine} {c c' : String} {b b' : Backend} {call : Call}

namespace Backend.Same

theorem trans {b'' : Backend} (h : Same sm c b b') (h' : Same sm c b' b'') : Same sm c b b'' :=
  ⟨h.redis.trans h'.redis, h.records.trans h'.records⟩

theorem tick (h : Same sm c b b') : Same sm c b.tick b'.tick := by
  refine ⟨?_, h.records⟩
  unfold Backend.tick TtlStore.tick
  simp only [h.redis]

/-- A call for the conversation keeps it so. -/
theorem apply (h : Same sm c b b') (hc : call.Within c) : Same sm c (b.apply sm call) (b'.apply sm call) := by
  refine ⟨?_, by rw [records_apply, records_apply, h.records]⟩
  cases call with
  | prepare c' seq =>
    obtain rfl : c' = c := hc
    exact ((luaPrepare_touches _ seq sm.activeTtl).own _ _ h.redis).1
  | commit c' seq =>
    obtain rfl : c' = c := hc
    exact ((luaCommit_touches _ seq sm.activeTtl).own _ _ h.redis).1
  | cleanup c' =>
    obtain rfl : c' = c := hc
    exact ((luaCleanup_touches _ sm.finalTtl).own _ _ h.redis).1
  | send | utcNow => exact h.redis

/-- **Its reply is the same.** -/
theorem exec (h : Same sm c b b') (hc : call.Within c) (fate : Fate) (now : Datetime) :
    Same sm c (b.exec sm fate now call).1 (b'.exec sm fate now call).1 ∧
      (b.exec sm fate now call).2 = (b'.exec sm fate now call).2 := by
  have happly := h.apply hc
  have hdeliver : ∀ {α : Type} {a a' : α}, a = a' →
      Same sm c (fate.deliver b (b.apply sm call) a).1 (fate.deliver b' (b'.apply sm call) a').1 ∧
        (fate.deliver b (b.apply sm call) a).2 = (fate.deliver b' (b'.apply sm call) a').2 := by
    rintro α a _ rfl
    cases fate with
    | ok => exact ⟨happly, rfl⟩
    | failed e => exact ⟨h, rfl⟩
    | lost e => exact ⟨happly, rfl⟩
  cases call with
  | prepare c' seq =>
    obtain rfl : c' = c := hc
    exact hdeliver ((luaPrepare_touches _ seq sm.activeTtl).own _ _ h.redis).2
  | send | commit | cleanup => exact hdeliver rfl
  | utcNow => exact ⟨h, rfl⟩

/-- **A call for another conversation changes nothing of it.** -/
theorem exec_ne (hc : call.Within c') (hne : c ≠ c') (fate : Fate) (now : Datetime) :
    Same sm c (b.exec sm fate now call).1 b := by
  rcases @exec_fst sm b call fate now with hb | hb
  · rw [hb]
    exact ⟨rfl, rfl⟩
  · rw [hb]
    refine ⟨entry_apply_ne fun c'' seq hcall => ?_, ?_⟩
    · rcases hcall with rfl | rfl | rfl <;>
      · obtain rfl : c'' = c' := hc
        exact hne.symm
    · rw [records_apply]
      cases call with
      | send c'' p =>
        obtain ⟨rfl, -⟩ := hc
        exact if_neg hne.symm
      | _ => rfl

end Backend.Same

end

/-! ## Interleavings -/

section

variable {t : Transport} {d : Deps} {w w' : Dialogues t d} {x : Dialogue t d} {k : ℕ} {e : DialogueEvent}

/-- The call a dialogue waits in is for its conversation. -/
theorem Dialogue.pending_within (hstr : d.StrFields) {i : SessionCall} (h : x.pending = some i) :
    i.Within x.conversationId :=
  x.thread.ok_of_pending ((keeps_guardedMessageLoop x.frames).within hstr) h

/-- An event of another dialogue leaves the conversation `c` alone. -/
theorem Dialogues.served_ne (hstr : d.StrFields) {c : String} (hx : x.conversationId ≠ c) {i : SessionCall}
    (hi : x.pending = some i) (fate : Fate) (now : Datetime) :
    (w.served fate now i).Same d.sm c w.backend := by
  have hwithin := Dialogue.pending_within hstr hi
  cases i with
  | conn i => exact ⟨rfl, rfl⟩
  | backend call => exact Backend.Same.exec_ne hwithin hx.symm fate now

/-- `w'` is the dialogue `x` of `w` alone: no other one in `w` is for its conversation, and the
backends hold the same for it. -/
structure Dialogues.Alone (w w' : Dialogues t d) (k : ℕ) (x : Dialogue t d) : Prop where
  here : w.dialogues[k]? = some x
  others : ∀ j y, j ≠ k → w.dialogues[j]? = some y → y.conversationId ≠ x.conversationId
  alone : w'.dialogues = [x]
  same : w.backend.Same d.sm x.conversationId w'.backend

namespace Dialogues

variable {id : ℕ} {fate : Fate} {now : Datetime} {answer : (i : ConnCall) → ConnReply i}

theorem step_go (hx : w.dialogues[id]? = some x) {i : SessionCall} (hi : x.pending = some i) :
    w.step (.go id fate now answer) =
      ⟨w.served fate now i, w.dialogues.set id (x.advance (w.reply fate now answer))⟩ := by
  unfold step
  simp only [hx, hi]

theorem step_idle (h : ∀ x, w.dialogues[id]? = some x → x.pending = none) :
    w.step (.go id fate now answer) = w := by
  unfold step
  cases hx : w.dialogues[id]? with
  | none => simp only [hx]
  | some x => simp only [hx, h x hx]

/-- A dialogue goes on in the whole as it does alone. -/
theorem Alone.go (hstr : d.StrFields) (h : w.Alone w' k x) :
    ∃ x', x'.conversationId = x.conversationId ∧ x'.frames = x.frames ∧
      (w.step (.go k fate now answer)).Alone (w'.step (.go 0 fate now answer)) k x' := by
  have h0 : w'.dialogues[0]? = some x := by rw [h.alone]; rfl
  cases hi : x.pending with
  | none =>
    refine ⟨x, rfl, rfl, ?_⟩
    rw [step_idle fun y hy => by rwa [← Option.some.inj (h.here.symm.trans hy)],
      step_idle fun y hy => by rwa [← Option.some.inj (h0.symm.trans hy)]]
    exact h
  | some i =>
    -- the reply is the same: it depends on the part of the backend that is the same
    have hserved : (w.served fate now i).Same d.sm x.conversationId (w'.served fate now i) ∧
        w.reply fate now answer i = w'.reply fate now answer i := by
      cases i with
      | conn i => exact ⟨h.same, rfl⟩
      | backend call => exact h.same.exec (Dialogue.pending_within hstr hi) fate now
    -- and with the same reply the dialogue goes on in the same way
    have hadvance : x.advance (w'.reply fate now answer) = x.advance (w.reply fate now answer) := by
      have hthread : x.thread.advance (w'.reply fate now answer) =
          x.thread.advance (w.reply fate now answer) := by
        refine Thread.advance_congr fun j hj => ?_
        obtain rfl : i = j := Option.some.inj (hi.symm.trans hj)
        exact hserved.2.symm
      unfold Dialogue.advance
      rw [hthread]
    refine ⟨x.advance (w.reply fate now answer), rfl, rfl, ?_⟩
    rw [step_go h.here hi, step_go h0 hi, hadvance]
    refine ⟨?_, fun j y hj hy => ?_, ?_, hserved.1⟩
    · rw [List.getElem?_set_self (List.getElem?_eq_some_iff.1 h.here).1]
    · rw [List.getElem?_set_ne hj.symm] at hy
      exact h.others j y hj hy
    · show w'.dialogues.set 0 _ = _
      rw [h.alone]
      rfl

/-- The other dialogues go on without it. -/
theorem Alone.other (hstr : d.StrFields) (h : w.Alone w' k x) (hid : id ≠ k) :
    (w.step (.go id fate now answer)).Alone w' k x := by
  cases hy : w.dialogues[id]? with
  | none =>
    rw [step_idle fun y hy' => absurd (hy.symm.trans hy') nofun]
    exact h
  | some y =>
    cases hi : y.pending with
    | none =>
      rw [step_idle fun y' hy' => by rwa [← Option.some.inj (hy.symm.trans hy')]]
      exact h
    | some i =>
      have hne := h.others id y hid hy
      rw [step_go hy hi]
      refine ⟨?_, fun j z hj hz => ?_, h.alone, (served_ne hstr hne hi fate now).trans h.same⟩
      · show (w.dialogues.set id _)[k]? = _
        rw [List.getElem?_set_ne hid, h.here]
      · by_cases hjid : j = id
        · subst hjid
          have hz' : (w.dialogues.set j (y.advance (w.reply fate now answer)))[j]? = some z := hz
          rw [List.getElem?_set_self (List.getElem?_eq_some_iff.1 hy).1] at hz'
          rw [← Option.some.inj hz']
          exact hne
        · have hz' : (w.dialogues.set id (y.advance (w.reply fate now answer)))[j]? = some z := hz
          rw [List.getElem?_set_ne (Ne.symm hjid)] at hz'
          exact h.others j z hj hz'

/-- **One step of the interleaving.** -/
theorem Alone.step (hstr : d.StrFields) (h : w.Alone w' k x) (e : DialogueEvent) :
    ∃ x', x'.conversationId = x.conversationId ∧ x'.frames = x.frames ∧
      (w.step e).Alone (run Dialogues.step w' (e.alone k).toList) k x' := by
  cases e with
  | tick => exact ⟨x, rfl, rfl, h.here, h.others, h.alone, h.same.tick⟩
  | go id fate now answer =>
    by_cases hid : id = k
    · subst hid
      rw [DialogueEvent.alone, if_pos rfl]
      exact h.go hstr
    · rw [DialogueEvent.alone, if_neg hid]
      exact ⟨x, rfl, rfl, h.other hstr hid⟩

/-- The whole interleaving. -/
theorem Alone.steps (hstr : d.StrFields) (h : w.Alone w' k x) (es : List DialogueEvent) :
    ∃ x', x'.conversationId = x.conversationId ∧ x'.frames = x.frames ∧
      (run Dialogues.step w es).Alone (run Dialogues.step w' (es.filterMap (·.alone k))) k x' := by
  induction es generalizing w w' x with
  | nil => exact ⟨x, rfl, rfl, h⟩
  | cons e es ih =>
    obtain ⟨x', hc, hf, h'⟩ := h.step hstr e
    obtain ⟨x'', hc', hf', h''⟩ := ih h'
    refine ⟨x'', hc'.trans hc, hf'.trans hf, ?_⟩
    rw [run_cons, filterMap_cons_toList, run_append]
    exact h''

/-- What a dialogue was started with stays. -/
theorem step_opened (w : Dialogues t d) (e : DialogueEvent) :
    (w.step e).dialogues.map (fun x => (x.conversationId, x.frames)) =
      w.dialogues.map fun x => (x.conversationId, x.frames) := by
  cases e with
  | tick => rfl
  | go id fate now answer =>
    by_cases hidle : ∀ x, w.dialogues[id]? = some x → x.pending = none
    · rw [step_idle hidle]
    · push Not at hidle
      obtain ⟨x, hx, hne⟩ := hidle
      obtain ⟨i, hi⟩ := Option.ne_none_iff_exists'.1 hne
      rw [step_go hx hi]
      obtain ⟨hlt, rfl⟩ := List.getElem?_eq_some_iff.1 hx
      have hlt' : id < (w.dialogues.map fun x => (x.conversationId, x.frames)).length := by
        rwa [List.length_map]
      have hsame : ((w.dialogues[id].advance (w.reply fate now answer)).conversationId,
          (w.dialogues[id].advance (w.reply fate now answer)).frames) =
          (w.dialogues.map fun x => (x.conversationId, x.frames))[id] := by
        rw [List.getElem_map]
        rfl
      refine List.map_set.trans ?_
      rw [hsame, List.set_getElem_self]

/-- The dialogues of a run are those it was started with. -/
theorem after_opened (l : List (String × ℕ)) (es : List DialogueEvent) :
    (after t d l es).dialogues.map (fun x => (x.conversationId, x.frames)) = l := by
  have hstep : ∀ (w : Dialogues t d) e, w.dialogues.map (fun x => (x.conversationId, x.frames)) = l →
      (w.step e).dialogues.map (fun x => (x.conversationId, x.frames)) = l :=
    fun w e h => (step_opened w e).trans h
  refine run_inv hstep ?_
  show (l.map _).map _ = l
  rw [List.map_map]
  exact List.map_id l

/-- At the start a dialogue is as it is alone. -/
theorem init_alone {l : List (String × ℕ)} {c : String} {frames : ℕ} (hk : l[k]? = some (c, frames))
    (hothers : ∀ j p, j ≠ k → l[j]? = some p → p.1 ≠ c) :
    (init l : Dialogues t d).Alone (init [(c, frames)]) k (.start c frames) := by
  refine ⟨?_, fun j y hj hy => ?_, rfl, rfl, rfl⟩
  · show (l.map _)[k]? = _
    rw [List.getElem?_map, hk]
    rfl
  · have hy' : (l.map fun p => Dialogue.start p.1 p.2)[j]? = some y := hy
    rw [List.getElem?_map] at hy'
    obtain ⟨p, hp, rfl⟩ := Option.map_eq_some_iff.1 hy'
    exact hothers j p hj hp

end Dialogues

/-- **Confinement.** The calls of a session of `c`, those of its handlers and of its refresh
task are for `c`. Among other dialogues, a dialogue of `c` changes nothing of another
conversation; and if no other one is for `c`, its calls and their replies, and `c`'s part of
the backend, are those of the dialogue alone. The commands of the guard are for `c`'s ownership key,
which is no sequence key of any conversation where the prefixes are `Apart` (`keys_ne_iff`). -/
theorem conversation_confined (hstr : d.StrFields) :
    (∀ admission c frames τ q, Trace ((t.wsEndpoint admission c frames).run.interp d.serve) τ q →
      ∀ e ∈ τ, e.1.Within c) ∧
    (∀ c u rounds τ q, Trace ((refreshLoop c u rounds).run.interp d.serve) τ q → ∀ e ∈ τ, e.1.Within c) ∧
    ∀ l es k x, (Dialogues.after t d l es).dialogues[k]? = some x →
      (∀ e ∈ x.thread.trace, e.1.Within x.conversationId) ∧
      (∀ fate now answer c, c ≠ x.conversationId →
        ((Dialogues.after t d l es).step (.go k fate now answer)).backend.Same d.sm c
          (Dialogues.after t d l es).backend) ∧
      ((∀ j p, j ≠ k → l[j]? = some p → p.1 ≠ x.conversationId) →
        (Dialogues.after t d [(x.conversationId, x.frames)] (es.filterMap (·.alone k))).dialogues = [x] ∧
        (Dialogues.after t d l es).backend.Same d.sm x.conversationId
          (Dialogues.after t d [(x.conversationId, x.frames)] (es.filterMap (·.alone k))).backend) := by
  refine ⟨fun admission c frames τ q h => (keeps_wsEndpoint admission frames).calls hstr h,
    fun c u rounds τ q h => (keeps_refreshLoop u rounds).calls hstr h, fun l es k x hx => ⟨?_, ?_, ?_⟩⟩
  · exact (keeps_guardedMessageLoop x.frames).calls hstr x.thread.ok
  · intro fate now answer c hc
    cases hi : x.pending with
    | none =>
      rw [Dialogues.step_idle fun y hy => by rwa [← Option.some.inj (hx.symm.trans hy)]]
      exact ⟨rfl, rfl⟩
    | some i =>
      rw [Dialogues.step_go hx hi]
      exact Dialogues.served_ne hstr hc.symm hi fate now
  · intro hothers
    have hk : l[k]? = some (x.conversationId, x.frames) := by
      have hopened := congrArg (·[k]?) (@Dialogues.after_opened t d l es)
      simp only [List.getElem?_map, hx, Option.map_some] at hopened
      exact hopened.symm
    -- the whole run beside the run of the dialogue alone
    obtain ⟨x', hc, hf, halone⟩ := (Dialogues.init_alone hk hothers).steps hstr es
    obtain rfl : x' = x := Option.some.inj (halone.here.symm.trans hx)
    exact ⟨halone.alone, halone.same⟩

end

section

open Sample

/-- Dialogue `id` goes on, and everything answers well; its client sends the plain message `0` of `c`. -/
def goOn (id : ℕ) (c : String) : DialogueEvent :=
  .go id .ok ⟨0⟩ fun
    | .receiveText => .ok (plainText c)
    | i => answer "t" i

/-- A dialogue of `c1` and one of `c2` take turns: each receives a message, prepares it, sends it to
Kafka, commits it and answers it; then the client hangs up. -/
def apart : List DialogueEvent := (List.replicate 9 [goOn 0 cid, goOn 1 "c2", .tick]).flatten

set_option maxRecDepth 8000 in
/-- Both messages are written; the first dialogue goes through what it goes through alone, and has of
the backend what it has alone. -/
theorem apart_alone :
    (Dialogues.after transport deps [(cid, 1), ("c2", 1)] apart).backend.log.map Record.key = [cid, "c2"] ∧
    (Dialogues.after transport deps [(cid, 1)] (apart.filterMap (·.alone 0))).dialogues =
      (Dialogues.after transport deps [(cid, 1), ("c2", 1)] apart).dialogues.take 1 ∧
    (Dialogues.after transport deps [(cid, 1), ("c2", 1)] apart).backend.Same .default cid
      (Dialogues.after transport deps [(cid, 1)] (apart.filterMap (·.alone 0))).backend := by
  have hopened := @Dialogues.after_opened transport deps [(cid, 1), ("c2", 1)] apart
  obtain ⟨x, hx, hc, hf⟩ : ∃ x, (Dialogues.after transport deps [(cid, 1), ("c2", 1)] apart).dialogues[0]? = some x ∧
      x.conversationId = cid ∧ x.frames = 1 := by
    have hget := congrArg (·[0]?) hopened
    simp only [List.getElem?_map] at hget
    obtain ⟨x, hx, heq⟩ := Option.map_eq_some_iff.1 hget
    exact ⟨x, hx, (Prod.mk.inj heq).1, (Prod.mk.inj heq).2⟩
  have hothers : ∀ (j : ℕ) (p : String × ℕ), j ≠ 0 → [(cid, 1), ("c2", 1)][j]? = some p →
      p.1 ≠ x.conversationId := by
    rintro (_ | _ | j) p hj hp
    · exact absurd rfl hj
    · rw [← Option.some.inj hp, hc]
      decide
    · cases hp
  obtain ⟨halone, hsame⟩ := ((conversation_confined deps_strFields).2.2 _ _ 0 x hx).2.2 hothers
  rw [hc, hf] at halone hsame
  refine ⟨rfl, ?_, hsame⟩
  rw [halone, List.take_one, List.head?_eq_getElem?, hx]
  rfl

end

end Transcribe
