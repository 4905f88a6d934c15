import Transcribe.Model.Instance
import Transcribe.Proof.Conduct

/-!
# Where a connection stands

`sitting` watches where a connection stands and whether its client is connected, and says which
calls that allows: the checks are made before the first await, a connection is registered once,
after both, and is not registered when it waits and its client has gone.

* `wsGuardMiddleware_sits`: a connection that the guard takes to be one keeps to this, and is not
  registered when it returns.
-/

namespace Transcribe

open Resumption

-- what is read off the scope is not computed in this module
attribute [local irreducible] Scope.extractConversationId Scope.queryConversationId
  Scope.normalizeWsPath Scope.routed Scope.authorization

/-- A connection may wait here. -/
def Seat.Waits (s : Seat) (connected : Bool) : Prop :=
  s ≠ .arriving ∧ s ≠ .admitted ∧ ∀ c inLoop, s = .here c inLoop → connected = true ∧ inLoop = true

/-- The calls that the place of a connection and its client allow. -/
def Seat.Allows (s : Seat) (connected : Bool) : ConnCall → Prop
  | .authenticate _ | .draining => s = .arriving
  | .activeCount => s = .admitted
  | .receive => s = .arriving ∨ s = .refused
  | .closeUnaccepted _ => s = .arriving ∨ s = .underway
  | .accept => s = .underway
  | .registryAdd _ => s = .underway ∧ connected = true
  | .registryRemove c => s = .here c true
  | .receiveText | .hangup => ∃ c inLoop, s = .here c inLoop ∧ connected = true
  | .guard (.claimOrRefresh _ _) => s = .underway
  | .uuid4 | .spawnRefresh .. | .clientConnected | .utcNow => True
  | .guard (.release _ _) | .handleMessage .. | .joinRefresh | .sendText _ | .close _ | .sleep | .denialStart .. | .denialBody _ =>
    s.Waits connected

/-- A connection that has returned stands here. -/
def Seat.Ended (s : Seat) : Prop := s = .arriving ∨ s = .refused ∨ ∃ c, s = .left c

def sitting (t : Transport) : Monitor ConnCall ConnReply (Seat × Bool) :=
  ⟨fun z i => z.1.Allows z.2 i, fun z i r => (z.1.next t i r, clientNext z.2 i r)⟩

variable {t : Transport} {scope : Scope} {z : Seat × Bool}

theorem waits_left {c : String} {b : Bool} : (Seat.left c).Waits b := ⟨nofun, nofun, nofun⟩

theorem waits_refused {b : Bool} : Seat.refused.Waits b := ⟨nofun, nofun, nofun⟩

theorem waits_here {c : String} : (Seat.here c true).Waits true :=
  ⟨nofun, nofun, fun _ _ h => ⟨rfl, (Seat.here.inj h).2.symm⟩⟩

theorem sitting_ignores (h : z.1.Waits z.2) : (sitting t).IgnoresAt z ConnCall.Telling := by
  intro i hi
  cases i with
  | clientConnected => exact ⟨trivial, fun _ => rfl⟩
  | utcNow => exact ⟨trivial, fun _ => rfl⟩
  | sendText frame => exact ⟨h, fun _ => rfl⟩
  | close code => exact ⟨h, fun _ => rfl⟩
  | _ => exact hi.elim

/-- A denial of a connection that is not underway refuses it. -/
theorem reject_sits (hz : z.1 = .arriving ∨ z.1 = .refused) (scenario : ProtocolErrorScenario) (c : String)
    (details : Option String) :
    (sitting t).Sat (reject scenario c details).run z fun z' _ => z'.1.Ended := by
  have hend : z.1.Ended := hz.elim .inl fun h => .inr (.inl h)
  unfold reject ProtocolErrorScenario.requireHttpStatus
  cases scenario.httpStatus with
  | none => exact hend
  | some statusCode =>
    refine Monitor.sat_lift_bind.2 ⟨trivial, fun now => ?_⟩
    refine Monitor.sat_exceptT_bind.2 ⟨hz, fun received => ?_⟩
    cases received with
    | error e => exact .inr (.inl rfl)
    | ok _ =>
      refine Monitor.sat_exceptT_bind.2 ⟨waits_refused, fun started => ?_⟩
      cases started with
      | error e => exact .inr (.inl rfl)
      | ok _ => exact ⟨waits_refused, fun _ => .inr (.inl rfl)⟩

/-! ## The session -/

/-- How the message loop ends: the client has gone only if it ended with the disconnect. -/
def LoopEnds (c : String) (z : Seat × Bool) (out : Except Exc Unit) : Prop :=
  z = (.here c true, true) ∨ z = (.here c true, false) ∧ ∃ d, out = .error (.webSocketDisconnect d)

/-- The message loop leaves the connection registered. -/
theorem runWsMessageLoop_sits (c conversationId : String) (frames : ℕ) (inLoop : Bool) :
    (sitting t).Sat (t.runWsMessageLoop conversationId frames).run (.here c inLoop, true) (LoopEnds c) := by
  have hM : (sitting t).IgnoresAt (.here c true, true) ConnCall.Telling := sitting_ignores waits_here
  have hclose : ∀ scenario details, (sitting t).Sat (sendErrorAndClose conversationId scenario details).run
      (.here c true, true) (LoopEnds c) :=
    fun _ _ => Monitor.sat_mono (fun _ _ h => .inl h.1) (sendErrorAndClose_at hM _ _ _)
  induction frames generalizing inLoop with
  | zero =>
    refine Monitor.sat_lift_bind.2 ⟨⟨c, inLoop, rfl, rfl⟩, fun (e : Exc) => ?_⟩
    cases e with
    | webSocketDisconnect d => exact .inr ⟨rfl, d, rfl⟩
    | _ => exact .inl rfl
  | succ frames ih =>
    refine Monitor.sat_exceptT_bind.2 ⟨⟨c, inLoop, rfl, rfl⟩, fun received => ?_⟩
    cases received with
    | error e =>
      cases e with
      | webSocketDisconnect d => exact .inr ⟨rfl, d, rfl⟩
      | _ => exact .inl rfl
    | ok rawText =>
      show (sitting t).Sat _ (.here c true, true) (LoopEnds c)
      simp only
      cases t.loads rawText with
      | error text => exact hclose _ _
      | ok raw =>
        simp only
        cases bodyMismatch raw conversationId with
        | true => exact hclose _ _
        | false =>
          refine Monitor.sat_exceptT_bind.2 ⟨waits_here, fun handled => ?_⟩
          cases handled with
          | error e => exact .inl rfl
          | ok result =>
            -- what follows the answer, whether or not it was sent
            have hrest : (sitting t).Sat (if result.disconnect then do
                  if ← Conn.clientConnected then Conn.close result.closeCode
                else t.runWsMessageLoop conversationId frames : Conn Unit).run (.here c true, true) (LoopEnds c) := by
              split
              · refine hM.lift_bind .clientConnected trivial fun connected => ?_
                split
                · exact ⟨waits_here, fun _ => .inl rfl⟩
                · exact .inl rfl
              · exact ih true
            refine hM.lift_bind .clientConnected trivial fun connected => ?_
            split
            · refine hM.call_bind (.sendText _) trivial fun sent => ?_
              cases sent with
              | error e => exact .inl rfl
              | ok _ => exact hrest
            · exact hrest

theorem guardedMessageLoop_sits (c conversationId : String) (frames : ℕ) :
    (sitting t).Sat (t.guardedMessageLoop conversationId frames).run (.here c false, true) fun z _ =>
      z.1 = .here c true := by
  refine Monitor.sat_attempt_bind.2 (Monitor.sat_mono ?_ (runWsMessageLoop_sits c conversationId frames false))
  have hclose : (sitting t).Sat (sendErrorAndClose conversationId .transportInternalException none).run
      (.here c true, true) fun z _ => z.1 = .here c true :=
    Monitor.sat_mono (fun z _ h => by rw [h.1]) (sendErrorAndClose_at (sitting_ignores waits_here) _ _ _)
  rintro z out (rfl | ⟨rfl, d, rfl⟩)
  · rcases out with (_ | _ | _) | _
    · exact hclose
    · exact rfl
    · exact hclose
    · exact rfl
  · exact rfl

theorem releaseOwnershipGuard_sits (c u : String) (acquired : Bool) (h : z.1.Waits z.2) :
    (sitting t).Sat (t.releaseOwnershipGuard c u acquired).run z fun z' r => z' = z ∧ r = .ok () := by
  unfold Transport.releaseOwnershipGuard
  split
  · exact Monitor.sat_attempt_bind.2 ⟨h, fun _ => ⟨rfl, rfl⟩⟩
  · exact ⟨rfl, rfl⟩

/-- **A session registers its socket and removes it.** -/
theorem runSession_sits (c u : String) (acquired : Bool) (frames : ℕ) :
    (sitting t).Sat (t.runSession c u acquired frames).run (.underway, true) fun z _ => z.1.Ended := by
  have hlast : ∀ (b : Bool) (outcome : Except Exc Unit), (sitting t).Sat (do
      t.releaseOwnershipGuard c u acquired
      ofExcept outcome : Conn Unit).run (.left c, b) fun z _ => z.1.Ended := by
    intro b outcome
    refine Monitor.sat_exceptT_bind.2 (Monitor.sat_mono ?_ (releaseOwnershipGuard_sits c u acquired waits_left))
    rintro z r ⟨rfl, rfl⟩
    cases outcome <;> exact .inr (.inr ⟨c, rfl⟩)
  -- the loop, the removal, and the end of the refresh task
  have hloop : ∀ refreshing : Bool, (sitting t).Sat (do
      let outcome ← attempt (t.guardedMessageLoop c frames)
      Conn.ask (.registryRemove c)
      if refreshing then Conn.ask .joinRefresh
      t.releaseOwnershipGuard c u acquired
      ofExcept outcome : Conn Unit).run (.here c false, true) fun z _ => z.1.Ended := by
    intro refreshing
    refine Monitor.sat_attempt_bind.2 (Monitor.sat_mono ?_ (guardedMessageLoop_sits c c frames))
    rintro ⟨s, b⟩ outcome (rfl : s = .here c true)
    refine Monitor.sat_lift_bind.2 ⟨rfl, fun _ => ?_⟩
    cases refreshing with
    | false => exact hlast _ outcome
    | true => exact Monitor.sat_lift_bind.2 ⟨waits_left, fun _ => hlast _ outcome⟩
  unfold Transport.runSession
  refine Monitor.sat_lift_bind.2 ⟨⟨rfl, rfl⟩, fun _ => ?_⟩
  cases hr : t.ownershipGuard && acquired with
  | false => exact hloop false
  | true => exact Monitor.sat_lift_bind.2 ⟨trivial, fun _ => hloop true⟩

/-! ## The endpoint -/

theorem refused_ended {b : Bool} : (Seat.refused, b).1.Ended := .inr (.inl rfl)

/-- The endpoint's own claim: a connection that does not get it is refused. -/
theorem claimRuntimeOwnershipOrClose_sits (c u : String) :
    (sitting t).Sat (claimRuntimeOwnershipOrClose c u).run (.underway, true) fun z out =>
      z = (.underway, true) ∧ out = .ok true ∨ z = (.refused, true) ∧ out = .ok false := by
  have hclose : ∀ scenario details, (sitting t).Sat (do
      sendErrorAndClose c scenario details
      return false : Conn Bool).run (.refused, true) fun z out =>
        z = (.underway, true) ∧ out = .ok true ∨ z = (.refused, true) ∧ out = .ok false := by
    intro scenario details
    refine Monitor.sat_exceptT_bind.2 (Monitor.sat_mono ?_
      (sendErrorAndClose_at (sitting_ignores waits_refused) _ _ _))
    rintro z r ⟨rfl, rfl⟩
    exact .inr ⟨rfl, rfl⟩
  refine Monitor.sat_attempt_bind.2 ⟨rfl, fun reply => ?_⟩
  obtain ⟨fate, owned⟩ := reply
  cases fate with
  | failed e => exact hclose _ _
  | lost e => exact hclose _ _
  | ok =>
    cases owned with
    | false => exact hclose _ _
    | true => exact .inl ⟨rfl, rfl⟩

theorem acceptSession_sits (c token : String) (acquired : Bool) (frames : ℕ) :
    (sitting t).Sat (t.acceptSession c token acquired frames).run (.underway, false) fun z _ => z.1.Ended := by
  refine Monitor.sat_attempt_bind.2 ⟨rfl, fun accepted => ?_⟩
  simp only [Monitor.Sat]
  cases accepted with
  | error e =>
    refine Monitor.sat_mono ?_ (releaseOwnershipGuard_sits c token acquired waits_refused)
    rintro z _ ⟨rfl, -⟩
    exact refused_ended
  | ok _ =>
    simp only
    split
    · refine Monitor.sat_exceptT_bind.2 (Monitor.sat_mono ?_ (claimRuntimeOwnershipOrClose_sits c token))
      rintro z out (⟨rfl, rfl⟩ | ⟨rfl, rfl⟩)
      · exact runSession_sits c token true frames
      · exact refused_ended
    · exact runSession_sits c token acquired frames

theorem wsEndpoint_sits (admission : Transport.Admission) (c : String) (frames : ℕ) :
    (sitting t).Sat (t.wsEndpoint admission c frames).run (.underway, false) fun z _ => z.1.Ended := by
  cases admission with
  | none =>
    rw [Transport.wsEndpoint_none]
    exact Monitor.sat_lift_bind.2 ⟨trivial, fun token => acceptSession_sits c token false frames⟩
  | some token =>
    rw [Transport.wsEndpoint_some]
    exact acceptSession_sits c token true frames

theorem innerApp_sits (admission : Transport.Admission) (frames : ℕ) :
    (sitting t).Sat (t.innerApp scope admission frames).run (.underway, false) fun z _ =>
      scope.type = .websocket → z.1.Ended := by
  unfold Transport.innerApp
  split
  · next htype => exact fun h => absurd h htype
  · split
    · exact ⟨.inr rfl, fun _ _ => refused_ended⟩
    · split
      · exact ⟨.inr rfl, fun _ _ => refused_ended⟩
      · exact Monitor.sat_mono (fun _ _ h _ => h) (wsEndpoint_sits admission _ frames)

/-! ## The guard -/

section

variable {cid : String} {next : Transport.Admission → Conn Unit} {Q : Seat × Bool → Except Exc Unit → Prop}
  (hQ : ∀ z out, z.1.Ended → Q z out) (hnext : ∀ admission, (sitting t).Sat (next admission).run (.underway, false) Q)

include hQ hnext

theorem checkOwnership_sits : (sitting t).Sat (t.checkOwnership cid next).run (.underway, false) Q := by
  have hreject : ∀ scenario details, (sitting t).Sat (reject scenario cid details).run (.refused, false) Q :=
    fun _ _ => Monitor.sat_mono hQ (reject_sits (.inr rfl) _ _ _)
  unfold Transport.checkOwnership
  cases t.ownershipGuard with
  | false => exact hnext none
  | true =>
    refine Monitor.sat_lift_bind.2 ⟨trivial, fun (u : String) => ?_⟩
    refine Monitor.sat_attempt_bind.2 ⟨rfl, fun reply => ?_⟩
    obtain ⟨fate, owned⟩ := reply
    cases fate with
    | failed e => exact hreject _ _
    | lost e => exact hreject _ _
    | ok =>
      cases owned with
      | false => exact hreject _ _
      | true => exact hnext (some u)

theorem checkLimit_sits (hlimit : 0 < t.maxConnections) :
    (sitting t).Sat (t.checkLimit cid (t.checkOwnership cid next)).run (.admitted, false) Q := by
  unfold Transport.checkLimit
  rw [if_pos hlimit]
  refine Monitor.sat_lift_bind.2 ⟨rfl, fun (active : ℕ) => ?_⟩
  show (sitting t).Sat _ (if active < t.maxConnections then Seat.underway else .refused, false) Q
  split
  · next hfull =>
    rw [if_neg (Nat.not_lt.2 hfull)]
    exact Monitor.sat_mono hQ (reject_sits (.inr rfl) _ _ _)
  · next hroom =>
    rw [if_pos (Nat.not_le.1 hroom)]
    exact checkOwnership_sits hQ hnext

theorem checkDraining_sits :
    (sitting t).Sat (checkDraining cid (t.checkLimit cid (t.checkOwnership cid next))).run (.arriving, false) Q := by
  refine Monitor.sat_lift_bind.2 ⟨rfl, fun (draining : Bool) => ?_⟩
  cases draining with
  | true => exact Monitor.sat_mono hQ (reject_sits (.inr rfl) _ _ _)
  | false =>
    show (sitting t).Sat _ (if t.maxConnections = 0 then Seat.underway else .admitted, false) Q
    by_cases hlimit : t.maxConnections = 0
    · have hskip : t.checkLimit cid (t.checkOwnership cid next) = t.checkOwnership cid next := by
        unfold Transport.checkLimit
        rw [if_neg (by omega)]
      rw [if_pos hlimit, hskip]
      exact checkOwnership_sits hQ hnext
    · rw [if_neg hlimit]
      exact checkLimit_sits hQ hnext (by omega)

theorem checkAuthentication_sits : (sitting t).Sat (t.checkAuthentication scope cid
    (checkDraining cid (t.checkLimit cid (t.checkOwnership cid next)))).run (.arriving, false) Q := by
  unfold Transport.checkAuthentication
  split
  · refine Monitor.sat_lift_bind.2 ⟨rfl, fun outcome => ?_⟩
    cases outcome with
    | principal _ => exact checkDraining_sits hQ hnext
    | authenticationError _ => exact Monitor.sat_mono hQ (reject_sits (.inl rfl) _ _ _)
    | raised e => exact hQ _ _ (.inl rfl)
  · exact checkDraining_sits hQ hnext

end

/-- The guard takes the scope for the session route if the router does. -/
def Scope.Guarded (scope : Scope) : Prop :=
  scope.type = .websocket → scope.routed = true → scope.normalizeWsPath = wsPath

/-- **A connection that the guard takes to be one keeps its seat in order**, and is not
registered when it returns. -/
theorem wsGuardMiddleware_sits (t : Transport) (hscope : scope.Guarded) (frames : ℕ) :
    (sitting t).Sat (t.wsGuardMiddleware scope frames).run (.arriving, false) fun z _ => z.1.Ended := by
  unfold Transport.wsGuardMiddleware
  by_cases htype : scope.type = .websocket
  · rw [if_neg (not_not.2 htype)]
    by_cases hpath : scope.normalizeWsPath = wsPath
    · rw [if_neg (not_not.2 hpath)]
      refine Monitor.sat_ite (fun _ => reject_sits (.inl rfl) _ _ _) fun _ => ?_
      exact checkAuthentication_sits (fun _ _ h => h) fun admission =>
        Monitor.sat_mono (fun _ _ h => h htype) (innerApp_sits admission frames)
    · rw [if_pos hpath]
      unfold Transport.innerApp
      rw [if_neg (not_not.2 htype), if_pos fun hrouted => hpath (hscope htype hrouted)]
      exact ⟨.inl rfl, fun _ => refused_ended⟩
  · rw [if_pos htype]
    unfold Transport.innerApp
    rw [if_pos htype]
    exact .inl rfl

end Transcribe
