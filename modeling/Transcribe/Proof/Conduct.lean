import Transcribe.Model.Handshake
import Transcribe.Proof.Paths

/-!
# What a connection does

`Conduct` is what a connection has done so far, read off its calls and their replies;
`conduct` says which calls that allows. A connection claims the guard key once at most,
runs the session under the endpoint's conversation only, and releases once, at the end.

* `wsGuardMiddleware_sat`: a connection keeps to this whatever the replies, and has
  released when it returns iff its claim was granted and the endpoint was called.
* `refreshLoop_claims`: the refresh task claims for its own conversation and token only.
-/

namespace Transcribe

open Resumption

-- what is read off the scope is not computed in this module
attribute [local irreducible] Scope.extractConversationId Scope.queryConversationId
  Scope.normalizeWsPath Scope.routed Scope.authorization

/-- What a connection has done. `claim` is its claim of the guard key with the reply. -/
structure Conduct where
  principal : Bool
  serving : Bool
  room : Bool
  token : Option String
  claim : Option ((String × String) × (Fate × Bool))
  entered : Bool
  refreshing : Bool
  released : Option (String × String)

namespace Conduct

def start : Conduct := ⟨false, false, false, none, none, false, false, none⟩

/-- The conversation and the token of a claim that was granted. -/
def lease (s : Conduct) : Option (String × String) :=
  match s.claim with
  | some (key, .ok, true) => some key
  | _ => none

theorem lease_eq_some {s : Conduct} {key : String × String} :
    s.lease = some key ↔ s.claim = some (key, .ok, true) := by
  unfold lease
  rcases s.claim with _ | ⟨k, _ | _ | _, _ | _⟩ <;> simp

/-- The conduct after the last call, which gives the key of `c` back if `back`. -/
def gaveBack (s : Conduct) (back : Bool) (c u : String) : Conduct :=
  { s with released := if back then some (c, u) else none }

variable (t : Transport) (scope : Scope)

/-- The admission checks have been made and passed. -/
def Passed (s : Conduct) : Prop :=
  scope.extractConversationId t.unquote ≠ "" ∧ (t.authEnabled → s.principal) ∧ s.serving ∧
    (0 < t.maxConnections → s.room) ∧ (t.ownershipGuard → ∃ key, s.lease = some key)

/-- The calls that what has been done allows. -/
def Allows (s : Conduct) : ConnCall → Prop
  | .authenticate h => h = scope.authorization
  | .uuid4 => s.token = none
  | .guard (.claimOrRefresh c u) =>
    s.token = some u ∧ s.claim = none ∧ s.released = none ∧
      c = if s.entered then scope.queryConversationId t.unquote
        else scope.extractConversationId t.unquote
  | .guard (.release c u) =>
    s.entered ∧ s.released = none ∧ s.refreshing = false ∧
      c = scope.queryConversationId t.unquote ∧ ∃ c', s.lease = some (c', u)
  | .accept =>
    s.entered = false ∧ scope.routed ∧
      if scope.normalizeWsPath = wsPath then s.Passed t scope else s.serving = false ∧ s.claim = none
  | .registryAdd c | .registryRemove c => s.entered ∧ c = scope.queryConversationId t.unquote
  | .spawnRefresh c u =>
    s.entered ∧ s.released = none ∧ s.refreshing = false ∧
      c = scope.queryConversationId t.unquote ∧ ∃ c', s.lease = some (c', u)
  | .handleMessage raw c =>
    s.entered ∧ s.released = none ∧ c = scope.queryConversationId t.unquote ∧
      bodyMismatch raw c = false ∧ (t.ownershipGuard → ∃ key, s.lease = some key)
  | _ => True

/-- What has been done after a reply. -/
def next (s : Conduct) : (i : ConnCall) → ConnReply i → Conduct
  | .authenticate _, .principal _ => { s with principal := true }
  | .draining, b => { s with serving := s.serving || !b }
  | .activeCount, (n : ℕ) => { s with room := s.room || decide (n < t.maxConnections) }
  | .uuid4, u => { s with token := some u }
  | .guard (.claimOrRefresh c u), r => { s with claim := some ((c, u), r) }
  | .guard (.release c u), _ => { s with released := some (c, u) }
  | .accept, _ => { s with entered := true }
  | .spawnRefresh .., _ => { s with refreshing := true }
  | .joinRefresh, _ => { s with refreshing := false }
  | _, _ => s

end Conduct

theorem gaveBack_false {s : Conduct} (hr : s.released = none) {c u : String} :
    s.gaveBack false c u = s := by
  cases s; cases hr; rfl

/-- The conduct of a connection with this scope. -/
def conduct (t : Transport) (scope : Scope) : Monitor ConnCall ConnReply Conduct :=
  ⟨Conduct.Allows t scope, Conduct.next t⟩

variable {t : Transport} {scope : Scope} {s : Conduct}

/-! ## Quiet sections -/

/-- The calls to the socket and the clock. -/
def ConnCall.Quiet : ConnCall → Prop
  | .receive | .denialStart .. | .denialBody _ | .closeUnaccepted _ | .receiveText | .hangup
  | .clientConnected | .sendText _ | .close _ | .sleep | .utcNow => True
  | _ => False

theorem conduct_ignores : (conduct t scope).Ignores ConnCall.Quiet := by
  intro s i hi
  cases i <;> first | exact hi.elim | exact ⟨trivial, fun _ => rfl⟩

section

variable {S : Type} {M : Monitor ConnCall ConnReply S} {z : S}

/-- The calls that close a socket with an ERROR. -/
def ConnCall.Telling : ConnCall → Prop
  | .clientConnected | .utcNow | .sendText _ | .close _ => True
  | _ => False

theorem ConnCall.Telling.quiet {i : ConnCall} (h : i.Telling) : i.Quiet := by
  cases i <;> first | exact h.elim | exact trivial

/-- Closing with an ERROR raises nothing. -/
theorem sendErrorAndClose_at (hM : M.IgnoresAt z ConnCall.Telling) (c : String)
    (scenario : ProtocolErrorScenario) (details : Option String) :
    M.Sat (sendErrorAndClose c scenario details).run z fun z' r => z' = z ∧ r = .ok () := by
  unfold sendErrorAndClose
  refine Monitor.sat_attempt_bind.2 (hM.lift_bind .clientConnected trivial fun connected => ?_)
  cases connected with
  | false => exact ⟨rfl, rfl⟩
  | true =>
    rw [if_pos rfl]
    unfold ProtocolErrorScenario.requireWsCloseCode
    cases scenario.wsCloseCode with
    | none => exact ⟨rfl, rfl⟩
    | some closeCode =>
      refine hM.lift_bind .utcNow trivial fun now => ?_
      refine hM.call_bind (.sendText _) trivial fun sent => ?_
      have hclose := hM (.close closeCode) trivial
      cases sent with
      | error e => exact ⟨rfl, rfl⟩
      | ok _ => exact ⟨hclose.1, fun r => ⟨hclose.2 r, rfl⟩⟩

theorem sendErrorAndClose_sat (hM : M.Ignores ConnCall.Quiet) (c : String)
    (scenario : ProtocolErrorScenario) (details : Option String) :
    M.Sat (sendErrorAndClose c scenario details).run z fun z' r => z' = z ∧ r = .ok () :=
  sendErrorAndClose_at (fun i hi => hM z i hi.quiet) c scenario details

/-- A denial only talks to the socket. -/
theorem reject_sat (hM : M.Ignores ConnCall.Quiet) (scenario : ProtocolErrorScenario) (c : String)
    (details : Option String) : M.Sat (reject scenario c details).run z fun z' _ => z' = z := by
  unfold reject ProtocolErrorScenario.requireHttpStatus
  cases scenario.httpStatus with
  | none => exact rfl
  | some statusCode =>
    refine hM.lift_bind .utcNow trivial fun now => ?_
    refine hM.call_bind .receive trivial fun received => ?_
    cases received with
    | error e => exact rfl
    | ok _ =>
      refine hM.call_bind (.denialStart ..) trivial fun started => ?_
      have hbody := hM z (.denialBody (scenario.buildResponse now c details)) trivial
      cases started with
      | error e => exact rfl
      | ok _ => exact ⟨hbody.1, hbody.2⟩

end

/-- The calls of the refresh task for this conversation and token. -/
def RefreshCall (c u : String) (i : ConnCall) : Prop := i.Quiet ∨ i = .guard (.claimOrRefresh c u)

/-- **The refresh task claims for its own conversation and token only, and raises
nothing.** -/
theorem refreshLoop_sat (c u : String) (rounds : ℕ) :
    (Monitor.only (RefreshCall c u)).Sat (refreshLoop c u rounds).run () fun _ r => r = .ok () := by
  have hM : (Monitor.only (ρ := ConnReply) (RefreshCall c u)).Ignores ConnCall.Quiet :=
    fun _ i hi => ⟨.inl hi, fun _ => rfl⟩
  induction rounds with
  | zero => exact rfl
  | succ rounds ih =>
    refine Monitor.sat_lift_bind.2 ⟨.inl trivial, fun _ => ?_⟩
    refine Monitor.sat_attempt_bind.2 ⟨.inr rfl, fun r => ?_⟩
    obtain ⟨fate, owned⟩ := r
    have hclose : ∀ scenario details, (Monitor.only (RefreshCall c u)).Sat
        (sendErrorAndClose c scenario details).run () fun _ r => r = .ok () :=
      fun _ _ => Monitor.sat_mono (fun _ _ h => h.2) (sendErrorAndClose_sat hM _ _ _)
    cases fate with
    | ok =>
      cases owned with
      | true => exact ih
      | false => exact hclose _ _
    | failed e => exact hclose _ _
    | lost e => exact hclose _ _

/-! ## The session -/

/-- The message loop hands on messages of the connection's conversation only. -/
theorem runWsMessageLoop_sat (he : s.entered) (hr : s.released = none)
    (hl : t.ownershipGuard → ∃ key, s.lease = some key) (frames : ℕ) :
    (conduct t scope).Sat (t.runWsMessageLoop (scope.queryConversationId t.unquote) frames).run s
      fun s' _ => s' = s := by
  have hM : (conduct t scope).Ignores ConnCall.Quiet := conduct_ignores
  have hclose : ∀ scenario details, (conduct t scope).Sat
      (sendErrorAndClose (scope.queryConversationId t.unquote) scenario details).run s
      fun s' _ => s' = s :=
    fun _ _ => Monitor.sat_mono (fun _ _ h => h.1) (sendErrorAndClose_sat hM _ _ _)
  induction frames with
  | zero => exact hM.lift_bind .hangup trivial fun _ => rfl
  | succ frames ih =>
    refine hM.call_bind .receiveText trivial fun received => ?_
    cases received with
    | error e => exact rfl
    | ok rawText =>
      simp only [Monitor.Sat, Monitor.After]
      cases t.loads rawText with
      | error text => exact hclose _ _
      | ok raw =>
        simp only
        cases hb : bodyMismatch raw (scope.queryConversationId t.unquote) with
        | true => exact hclose _ _
        | false =>
          refine Monitor.sat_exceptT_bind.2 ⟨⟨he, hr, rfl, hb, hl⟩, fun handled => ?_⟩
          cases handled with
          | error e => exact rfl
          | ok result =>
            -- what follows the answer, whether or not it was sent
            have hrest : (conduct t scope).Sat (if result.disconnect then do
                  if ← Conn.clientConnected then Conn.close result.closeCode
                else t.runWsMessageLoop (scope.queryConversationId t.unquote) frames : Conn Unit).run
                s fun s' _ => s' = s := by
              split
              · refine hM.lift_bind .clientConnected trivial fun connected => ?_
                split
                · exact ⟨trivial, fun _ => rfl⟩
                · exact rfl
              · exact ih
            refine hM.lift_bind .clientConnected trivial fun connected => ?_
            split
            · refine hM.call_bind (.sendText _) trivial fun sent => ?_
              cases sent with
              | error e => exact rfl
              | ok _ => exact hrest
            · exact hrest

theorem guardedMessageLoop_sat (he : s.entered) (hr : s.released = none)
    (hl : t.ownershipGuard → ∃ key, s.lease = some key) (frames : ℕ) :
    (conduct t scope).Sat (t.guardedMessageLoop (scope.queryConversationId t.unquote) frames).run s
      fun s' _ => s' = s := by
  refine Monitor.sat_attempt_bind.2 (Monitor.sat_mono ?_ (runWsMessageLoop_sat he hr hl frames))
  rintro s' outcome rfl
  have hclose : (conduct t scope).Sat (sendErrorAndClose (scope.queryConversationId t.unquote)
      .transportInternalException none).run s' fun s'' _ => s'' = s' :=
    Monitor.sat_mono (fun _ _ h => h.1) (sendErrorAndClose_sat conduct_ignores _ _ _)
  rcases outcome with (_ | _ | _) | _
  · exact hclose
  · exact rfl
  · exact hclose
  · exact rfl

/-- **A release gives back what was acquired**, and is made at most once. -/
theorem releaseOwnershipGuard_sat {u : String} {acquired : Bool} (he : s.entered)
    (hr : s.released = none) (hf : s.refreshing = false)
    (ha : t.ownershipGuard → acquired = true → ∃ c', s.lease = some (c', u)) :
    (conduct t scope).Sat
      (t.releaseOwnershipGuard (scope.queryConversationId t.unquote) u acquired).run s
      fun s' r => r = .ok () ∧
        s' = s.gaveBack (t.ownershipGuard && acquired) (scope.queryConversationId t.unquote) u := by
  unfold Transport.releaseOwnershipGuard
  cases hg : t.ownershipGuard && acquired with
  | false => exact ⟨rfl, by rw [gaveBack_false hr]⟩
  | true =>
    rw [Bool.and_eq_true] at hg
    refine Monitor.sat_attempt_bind.2 ⟨⟨he, hr, hf, rfl, ha hg.1 hg.2⟩, fun r => ⟨rfl, rfl⟩⟩

/-- The last call of `ws_endpoint`, before it returns or raises what the loop raised. -/
theorem release_last_sat {u : String} {acquired : Bool} (outcome : Except Exc Unit) (he : s.entered)
    (hr : s.released = none) (hf : s.refreshing = false)
    (ha : t.ownershipGuard → acquired = true → ∃ c', s.lease = some (c', u)) :
    (conduct t scope).Sat (do
        t.releaseOwnershipGuard (scope.queryConversationId t.unquote) u acquired
        ofExcept outcome : Conn Unit).run s
      fun s' _ =>
        s' = s.gaveBack (t.ownershipGuard && acquired) (scope.queryConversationId t.unquote) u := by
  refine Monitor.sat_exceptT_bind.2 (Monitor.sat_mono ?_ (releaseOwnershipGuard_sat he hr hf ha))
  rintro s' r ⟨rfl, hs'⟩
  cases outcome <;> exact hs'

theorem runSession_sat {u : String} {acquired : Bool} (he : s.entered) (hr : s.released = none)
    (hf : s.refreshing = false) (ha : t.ownershipGuard → acquired = true ∧ ∃ c', s.lease = some (c', u))
    (frames : ℕ) :
    (conduct t scope).Sat (t.runSession (scope.queryConversationId t.unquote) u acquired frames).run s
      fun s' _ => s' = s.gaveBack t.ownershipGuard (scope.queryConversationId t.unquote) u := by
  unfold Transport.runSession
  refine Monitor.sat_lift_bind.2 ⟨⟨he, rfl⟩, fun _ => ?_⟩
  have hl : t.ownershipGuard → ∃ key, s.lease = some key := fun hg => ⟨_, (ha hg).2.choose_spec⟩
  cases hg : t.ownershipGuard with
  | false =>
    simp only [Bool.false_and, Bool.false_eq_true, ↓reduceIte]
    refine Monitor.sat_attempt_bind.2 (Monitor.sat_mono ?_ (guardedMessageLoop_sat he hr hl frames))
    rintro s' outcome rfl
    refine Monitor.sat_lift_bind.2 ⟨⟨he, rfl⟩, fun _ => ?_⟩
    have hlast := @release_last_sat t scope s' u acquired outcome he hr hf fun hg _ => (ha hg).2
    rw [hg] at hlast
    exact hlast
  | true =>
    obtain ⟨rfl, c', hc'⟩ := ha hg
    simp only [Bool.true_and, ↓reduceIte]
    refine Monitor.sat_lift_bind.2 ⟨⟨he, hr, hf, rfl, c', hc'⟩, fun _ => ?_⟩
    -- the loop runs while the task refreshes; joining it comes before the release
    refine Monitor.sat_attempt_bind.2 (Monitor.sat_mono ?_
      (guardedMessageLoop_sat (s := { s with refreshing := true }) he hr hl frames))
    rintro s' outcome rfl
    refine Monitor.sat_lift_bind.2 ⟨⟨he, rfl⟩, fun _ => Monitor.sat_lift_bind.2 ⟨trivial, fun _ => ?_⟩⟩
    have hlast := @release_last_sat t scope { s with refreshing := false } u true outcome he hr rfl
      fun _ _ => ⟨c', hc'⟩
    rw [hg] at hlast
    rw [show s.gaveBack true = ({ s with refreshing := false } : Conduct).gaveBack true by rw [← hf]]
    exact hlast

/-! ## The endpoint -/

/-- How a connection ends: it has released iff its claim was granted and the endpoint
was called, the endpoint's parameter not being too long. -/
def Conduct.Ends (t : Transport) (scope : Scope) (s : Conduct) : Prop :=
  s.released.isSome ↔ s.lease.isSome ∧ (scope.queryConversationId t.unquote).length ≤ queryMaxLength

/-- What a connection has done when the inner app is called: nothing that the endpoint
does, and no claim but the one of `admission`. -/
structure Conduct.Admitted (t : Transport) (scope : Scope) (admission : Transport.Admission)
    (s : Conduct) : Prop where
  entered : s.entered = false
  refreshing : s.refreshing = false
  released : s.released = none
  lease : ∀ u ∈ admission, t.ownershipGuard ∧ ∃ c, s.lease = some (c, u)
  claim : admission = none → s.claim = none ∧ s.token = none
  checks : if scope.normalizeWsPath = wsPath then s.Passed t scope else s.serving = false ∧ s.claim = none

/-- The claim of the endpoint itself; it answers whether it was granted. -/
theorem claimRuntimeOwnershipOrClose_sat {u : String} (he : s.entered) (ht : s.token = some u)
    (hc : s.claim = none) (hr : s.released = none) :
    (conduct t scope).Sat
      (claimRuntimeOwnershipOrClose (scope.queryConversationId t.unquote) u).run s
      fun s' r => ∃ reply, s' = { s with claim := some ((scope.queryConversationId t.unquote, u), reply) } ∧
        r = .ok s'.lease.isSome := by
  refine Monitor.sat_attempt_bind.2 ⟨⟨ht, hc, hr, by rw [if_pos he]⟩, fun reply => ?_⟩
  obtain ⟨fate, owned⟩ := reply
  -- without a lease the socket is closed
  have hclose : ∀ scenario details (s' : Conduct), s'.lease = none →
      (∃ reply, s' = { s with claim := some ((scope.queryConversationId t.unquote, u), reply) }) →
      (conduct t scope).Sat (do
        sendErrorAndClose (scope.queryConversationId t.unquote) scenario details
        return false : Conn Bool).run s' fun s'' r =>
          ∃ reply, s'' = { s with claim := some ((scope.queryConversationId t.unquote, u), reply) } ∧
            r = .ok s''.lease.isSome := by
    rintro scenario details s' hl ⟨reply, hs'⟩
    refine Monitor.sat_exceptT_bind.2 (Monitor.sat_mono ?_ (sendErrorAndClose_sat conduct_ignores _ _ _))
    rintro _ _ ⟨rfl, rfl⟩
    exact ⟨reply, hs', by rw [hl]; rfl⟩
  cases fate with
  | ok =>
    cases owned with
    | true => exact ⟨_, rfl, rfl⟩
    | false => exact hclose _ _ _ rfl ⟨_, rfl⟩
  | failed e => exact hclose _ _ _ rfl ⟨_, rfl⟩
  | lost e => exact hclose _ _ _ rfl ⟨_, rfl⟩

theorem gaveBack_ends {back : Bool} {c u : String}
    (h : back = true ↔ s.lease.isSome ∧ (scope.queryConversationId t.unquote).length ≤ queryMaxLength) :
    (s.gaveBack back c u).Ends t scope := by
  unfold Conduct.Ends
  rw [show (s.gaveBack back c u).lease = s.lease from rfl, ← h]
  cases back <;> simp [Conduct.gaveBack]

/-- An endpoint that was admitted with a token. -/
theorem wsEndpoint_sat_some {u : String} (hs : s.Admitted t scope (some u))
    (hr : scope.routed) (hlen : (scope.queryConversationId t.unquote).length ≤ queryMaxLength)
    (frames : ℕ) :
    (conduct t scope).Sat
      (t.wsEndpoint (some u) (scope.queryConversationId t.unquote) frames).run s
      fun s' _ => s'.Ends t scope := by
  obtain ⟨hg, c, hc⟩ := hs.lease u rfl
  -- whether the socket was accepted or not, the token is given back for the same conversation
  have hends : (({ s with entered := true } : Conduct).gaveBack true
      (scope.queryConversationId t.unquote) u).Ends t scope := by
    refine gaveBack_ends (iff_of_true rfl ⟨?_, hlen⟩)
    rw [show ({ s with entered := true } : Conduct).lease = s.lease from rfl, hc]
    rfl
  refine Monitor.sat_attempt_bind.2 ⟨⟨hs.entered, hr, hs.checks⟩, fun accepted => ?_⟩
  simp only [Monitor.Sat]
  cases accepted with
  | error e =>
    refine Monitor.sat_mono ?_ (@releaseOwnershipGuard_sat t scope { s with entered := true } u true rfl
      hs.released hs.refreshing fun _ _ => ⟨c, hc⟩)
    rintro s' _ ⟨-, rfl⟩
    rw [hg]
    exact hends
  | ok _ =>
    simp only [Option.isSome_some, Bool.not_true, Bool.and_false, Bool.false_eq_true, ↓reduceIte]
    refine Monitor.sat_mono ?_ (@runSession_sat t scope { s with entered := true } u true rfl
      hs.released hs.refreshing (fun _ => ⟨rfl, c, hc⟩) frames)
    rintro s' _ rfl
    rw [hg]
    exact hends

/-- An endpoint that was admitted without a token claims for itself. -/
theorem wsEndpoint_sat_none (hs : s.Admitted t scope none)
    (hr : scope.routed) (hlen : (scope.queryConversationId t.unquote).length ≤ queryMaxLength)
    (frames : ℕ) :
    (conduct t scope).Sat
      (t.wsEndpoint none (scope.queryConversationId t.unquote) frames).run s
      fun s' _ => s'.Ends t scope := by
  obtain ⟨hc, ht⟩ := hs.claim rfl
  refine Monitor.sat_lift_bind.2 ⟨ht, fun (u : String) => ?_⟩
  -- the conduct on accept
  have hnone : ({ s with token := some u, entered := true } : Conduct).lease = none := by
    simp [Conduct.lease, hc]
  have hends : ∀ s' : Conduct, s'.released = none → s'.lease = none → s'.Ends t scope := by
    intro s' hr hl
    simp [Conduct.Ends, hr, hl]
  refine Monitor.sat_attempt_bind.2 ⟨⟨hs.entered, hr, hs.checks⟩, fun accepted => ?_⟩
  simp only [Monitor.Sat]
  cases accepted with
  | error e =>
    refine Monitor.sat_mono ?_ (@releaseOwnershipGuard_sat t scope
      { s with token := some u, entered := true } u false rfl hs.released hs.refreshing
      fun _ h => absurd h Bool.false_ne_true)
    rintro s' _ ⟨-, rfl⟩
    rw [Bool.and_false]
    exact hends _ rfl hnone
  | ok _ =>
    simp only [Option.isSome_none, Bool.not_false, Bool.and_true]
    cases hg : t.ownershipGuard with
    | false =>
      refine Monitor.sat_mono ?_ (@runSession_sat t scope { s with token := some u, entered := true } u
        false rfl hs.released hs.refreshing (fun h => by rw [hg] at h; cases h) frames)
      rintro s' _ rfl
      rw [hg]
      exact hends _ rfl hnone
    | true =>
      refine Monitor.sat_exceptT_bind.2 (Monitor.sat_mono ?_ (@claimRuntimeOwnershipOrClose_sat t scope
        { s with token := some u, entered := true } u rfl rfl hc hs.released))
      rintro s' _ ⟨reply, hs', rfl⟩
      have hr : s'.released = none := by rw [hs']; exact hs.released
      simp only [Monitor.After]
      cases hl : s'.lease with
      | none => exact hends s' hr hl
      | some key =>
        have hkey : key = (scope.queryConversationId t.unquote, u) := by
          rw [Conduct.lease_eq_some, hs'] at hl
          exact (congrArg Prod.fst (Option.some.inj hl)).symm
        subst hkey
        simp only [Option.isSome_some, ↓reduceIte]
        refine Monitor.sat_mono ?_ (@runSession_sat t scope s' u true (by rw [hs']) hr
          (by rw [hs']; exact hs.refreshing) (fun _ => ⟨rfl, _, hl⟩) frames)
        rintro s'' _ rfl
        rw [hg]
        exact gaveBack_ends (iff_of_true rfl ⟨by rw [hl]; rfl, hlen⟩)

/-- A connection that has neither a lease nor released ends well. -/
theorem ends_of_none (hr : s.released = none) (hl : s.lease = none) : s.Ends t scope := by
  simp [Conduct.Ends, hr, hl]

/-- A denial leaves it at that. -/
theorem reject_ends (hr : s.released = none) (hl : s.lease = none) (scenario : ProtocolErrorScenario)
    (c : String) (details : Option String) :
    (conduct t scope).Sat (reject scenario c details).run s fun s' _ => s'.Ends t scope := by
  refine Monitor.sat_mono ?_ (reject_sat conduct_ignores scenario c details)
  rintro s' _ rfl
  exact ends_of_none hr hl

theorem innerApp_sat {admission : Transport.Admission} (hs : s.Admitted t scope admission)
    (htype : scope.type = .websocket) (hroute : admission ≠ none → scope.routed) (frames : ℕ) :
    (conduct t scope).Sat (t.innerApp scope admission frames).run s fun s' _ => s'.Ends t scope := by
  -- a connection closed here keeps its conduct
  have hclose : ∀ code, s.Ends t scope →
      (conduct t scope).Sat (Conn.closeUnaccepted code).run s fun s' _ => s'.Ends t scope :=
    fun _ h => ⟨trivial, fun _ => h⟩
  unfold Transport.innerApp
  rw [if_neg (not_not.2 htype)]
  by_cases hr : scope.routed = true
  · rw [if_neg (not_not.2 hr)]
    rcases Nat.lt_or_ge queryMaxLength (scope.queryConversationId t.unquote).length with hlong | hlen
    · rw [if_pos hlong]
      have hreleased : ¬ s.released.isSome := by simp [hs.released]
      exact hclose _ (iff_of_false hreleased fun h => Nat.not_le.2 hlong h.2)
    · rw [if_neg (Nat.not_lt.2 hlen)]
      cases admission with
      | none => exact wsEndpoint_sat_none hs hr hlen frames
      | some u => exact wsEndpoint_sat_some hs hr hlen frames
  · rw [if_pos hr]
    have hnone : admission = none := by
      by_contra h
      exact hr (hroute h)
    have hl : s.lease = none := by simp [Conduct.lease, (hs.claim hnone).1]
    exact hclose _ (ends_of_none hs.released hl)

/-! ## The guard -/

/-- A guarded path is routed. -/
theorem routed_of_guarded (h : scope.normalizeWsPath = wsPath) : scope.routed :=
  Scope.routed_iff.2 (.inl (Scope.getRoutePath_of_guarded h))

/-- The conduct of a handshake in which the checks up to the limit have passed. -/
def Conduct.checked (principal serving room : Bool) : Conduct :=
  { Conduct.start with principal := principal, serving := serving, room := room }

section

variable {principal room : Bool} {frames : ℕ} (hpath : scope.normalizeWsPath = wsPath)
  (htype : scope.type = .websocket) (hcid : scope.extractConversationId t.unquote ≠ "")
  (hauth : t.authEnabled → principal = true)

include hpath htype hcid hauth

theorem checkOwnership_sat (hroom : 0 < t.maxConnections → room = true) :
    (conduct t scope).Sat (t.checkOwnership (scope.extractConversationId t.unquote)
        fun admission => t.innerApp scope admission frames).run (.checked principal true room)
      fun s' _ => s'.Ends t scope := by
  unfold Transport.checkOwnership
  cases hg : t.ownershipGuard with
  | false =>
    have hs : (Conduct.checked principal true room).Admitted t scope none := by
      refine ⟨rfl, rfl, rfl, nofun, fun _ => ⟨rfl, rfl⟩, ?_⟩
      rw [if_pos hpath]
      exact ⟨hcid, hauth, rfl, hroom, fun h => by rw [hg] at h; cases h⟩
    exact innerApp_sat hs htype (fun h => absurd rfl h) frames
  | true =>
    rw [if_pos rfl]
    -- a token is drawn, and the conversation claimed with it
    refine Monitor.sat_lift_bind.2 ⟨rfl, fun (u : String) => ?_⟩
    refine Monitor.sat_attempt_bind.2 ⟨⟨rfl, rfl, rfl, rfl⟩, fun reply => ?_⟩
    obtain ⟨fate, owned⟩ := reply
    cases fate with
    | failed e => exact reject_ends rfl rfl _ _ _
    | lost e => exact reject_ends rfl rfl _ _ _
    | ok =>
      cases owned with
      | false => exact reject_ends rfl rfl _ _ _
      | true =>
        have hs : ({ Conduct.checked principal true room with
            token := some u, claim := some ((scope.extractConversationId t.unquote, u), .ok, true) } :
            Conduct).Admitted t scope (some u) := by
          refine ⟨rfl, rfl, rfl, fun u' hu' => ?_, nofun, ?_⟩
          · obtain rfl := Option.some.inj hu'
            exact ⟨hg, _, rfl⟩
          · rw [if_pos hpath]
            exact ⟨hcid, hauth, rfl, hroom, fun _ => ⟨_, rfl⟩⟩
        exact innerApp_sat hs htype (fun _ => routed_of_guarded hpath) frames

theorem checkLimit_sat :
    (conduct t scope).Sat (t.checkLimit (scope.extractConversationId t.unquote)
        (t.checkOwnership (scope.extractConversationId t.unquote)
          fun admission => t.innerApp scope admission frames)).run (.checked principal true false)
      fun s' _ => s'.Ends t scope := by
  unfold Transport.checkLimit
  split
  · next hlimit =>
    refine Monitor.sat_lift_bind.2 ⟨trivial, fun (active : ℕ) => ?_⟩
    split
    · exact reject_ends rfl rfl _ _ _
    · next hroom =>
      exact checkOwnership_sat hpath htype hcid hauth fun _ => decide_eq_true (Nat.not_le.1 hroom)
  · next hlimit => exact checkOwnership_sat hpath htype hcid hauth fun h => absurd h hlimit

theorem checkDraining_sat :
    (conduct t scope).Sat (checkDraining (scope.extractConversationId t.unquote)
        (t.checkLimit (scope.extractConversationId t.unquote)
          (t.checkOwnership (scope.extractConversationId t.unquote)
            fun admission => t.innerApp scope admission frames))).run (.checked principal false false)
      fun s' _ => s'.Ends t scope := by
  refine Monitor.sat_lift_bind.2 ⟨trivial, fun (draining : Bool) => ?_⟩
  cases draining with
  | true => exact reject_ends rfl rfl _ _ _
  | false => exact checkLimit_sat hpath htype hcid hauth

end

theorem checkAuthentication_sat {frames : ℕ} (hpath : scope.normalizeWsPath = wsPath)
    (htype : scope.type = .websocket) (hcid : scope.extractConversationId t.unquote ≠ "") :
    (conduct t scope).Sat (t.checkAuthentication scope (scope.extractConversationId t.unquote)
        (checkDraining (scope.extractConversationId t.unquote)
          (t.checkLimit (scope.extractConversationId t.unquote)
            (t.checkOwnership (scope.extractConversationId t.unquote)
              fun admission => t.innerApp scope admission frames)))).run .start
      fun s' _ => s'.Ends t scope := by
  unfold Transport.checkAuthentication
  by_cases hauth : t.authEnabled = true
  · rw [if_pos hauth]
    have hallow : Conduct.start.Allows t scope (.authenticate scope.authorization) := Eq.refl scope.authorization
    refine Monitor.sat_lift_bind.2 ⟨hallow, fun outcome => ?_⟩
    cases outcome with
    | principal _ => exact checkDraining_sat hpath htype hcid fun _ => rfl
    | authenticationError _ => exact reject_ends rfl rfl _ _ _
    | raised e => exact ends_of_none rfl rfl
  · rw [if_neg hauth]
    exact checkDraining_sat hpath htype hcid fun h => absurd h hauth

/-- **A connection keeps to its conduct and ends well.** -/
theorem wsGuardMiddleware_sat (t : Transport) (scope : Scope) (frames : ℕ) :
    (conduct t scope).Sat (t.wsGuardMiddleware scope frames).run .start fun s' _ => s'.Ends t scope := by
  have hstart : Conduct.start.Ends t scope := ends_of_none rfl rfl
  unfold Transport.wsGuardMiddleware
  by_cases htype : scope.type = .websocket
  · rw [if_neg (not_not.2 htype)]
    by_cases hpath : scope.normalizeWsPath = wsPath
    · rw [if_neg (not_not.2 hpath)]
      exact Monitor.sat_ite (fun _ => reject_ends rfl rfl _ _ _)
        fun hcid => checkAuthentication_sat hpath htype hcid
    · rw [if_pos hpath]
      have hchecks : if scope.normalizeWsPath = wsPath then Conduct.start.Passed t scope
          else Conduct.start.serving = false ∧ Conduct.start.claim = none := by
        rw [if_neg hpath]
        exact ⟨rfl, rfl⟩
      have hs : Conduct.start.Admitted t scope none :=
        { entered := rfl, refreshing := rfl, released := rfl, lease := nofun
          claim := fun _ => ⟨rfl, rfl⟩, checks := hchecks }
      exact innerApp_sat hs htype (fun h => absurd rfl h) frames
  · rw [if_pos htype]
    unfold Transport.innerApp
    rw [if_pos htype]
    exact hstart

/-! ## What the calls leave behind -/

namespace Conduct

variable {i : ConnCall} {r : ConnReply i}

/-- How a conduct hangs together: the claim is of the connection's token, for one of the
two conversations, in the handshake for the guard's; the release is of the lease's token. -/
structure Valid (t : Transport) (scope : Scope) (s : Conduct) : Prop where
  token : ∀ c u reply, s.claim = some ((c, u), reply) → s.token = some u
  conversation : ∀ c u reply, s.claim = some ((c, u), reply) →
    c = scope.extractConversationId t.unquote ∨ c = scope.queryConversationId t.unquote
  handshake : s.entered = false → ∀ c u reply, s.claim = some ((c, u), reply) →
    c = scope.extractConversationId t.unquote
  released : ∀ c u, s.released = some (c, u) →
    c = scope.queryConversationId t.unquote ∧ ∃ c', s.lease = some (c', u)

theorem start_valid : start.Valid t scope := ⟨nofun, nofun, nofun, nofun⟩

theorem Valid.next (h : s.Valid t scope) (ha : s.Allows t scope i) :
    (s.next t i r).Valid t scope := by
  unfold Conduct.next
  split
  · exact ⟨h.token, h.conversation, h.handshake, h.released⟩
  · exact ⟨h.token, h.conversation, h.handshake, h.released⟩
  · exact ⟨h.token, h.conversation, h.handshake, h.released⟩
  · -- a token is drawn once, so before the claim
    have hnone : s.claim = none := by
      by_contra hne
      obtain ⟨⟨⟨c, u⟩, reply⟩, hc⟩ := Option.ne_none_iff_exists'.1 hne
      have htoken : s.token = none := ha
      rw [h.token c u reply hc] at htoken
      cases htoken
    exact ⟨fun c u reply hc => by simp [hnone] at hc, h.conversation, h.handshake, h.released⟩
  · next c u =>
    obtain ⟨ht, -, hr, hc⟩ := ha
    refine ⟨?_, ?_, ?_, ?_⟩
    · rintro _ _ _ ⟨⟩; exact ht
    · rintro _ _ _ ⟨⟩
      rw [hc]
      cases s.entered
      · exact .inl rfl
      · exact .inr rfl
    · rintro he _ _ _ ⟨⟩
      -- before the endpoint is entered the id is that of the handshake
      have he' : s.entered = false := he
      rw [hc, he']; rfl
    · intro c u hcu
      have hcu' : s.released = some (c, u) := hcu
      rw [hr] at hcu'; cases hcu'
  · next c u =>
    obtain ⟨-, -, -, hc, hl⟩ := ha
    refine ⟨h.token, h.conversation, h.handshake, ?_⟩
    rintro _ _ ⟨⟩
    exact ⟨hc, hl⟩
  · exact ⟨h.token, h.conversation, nofun, h.released⟩
  · exact ⟨h.token, h.conversation, h.handshake, h.released⟩
  · exact ⟨h.token, h.conversation, h.handshake, h.released⟩
  · exact h

/-- The claim stays the one there is. -/
theorem claim_next {x : (String × String) × (Fate × Bool)} (ha : s.Allows t scope i)
    (h : s.claim = some x) : (s.next t i r).claim = some x := by
  unfold next
  split
  case h_5 c u =>
    have hnone : s.claim = none := ha.2.1
    rw [hnone] at h
    cases h
  all_goals exact h

/-- A release stays the one there is. -/
theorem released_next {x : String × String} (ha : s.Allows t scope i) (h : s.released = some x) :
    (s.next t i r).released = some x := by
  unfold next
  split
  case h_6 c u =>
    have hnone : s.released = none := ha.2.1
    rw [hnone] at h
    cases h
  all_goals exact h

theorem released_of_next {c u : String} (h : ¬ s.released = some (c, u))
    (h' : (s.next t i r).released = some (c, u)) : i = .guard (.release c u) := by
  unfold next at h'
  split at h'
  case h_6 c' u' => cases h'; rfl
  all_goals exact absurd h' h

/-- A token stays the one there is. -/
theorem token_next {u : String} (ha : s.Allows t scope i) (h : s.token = some u) :
    (s.next t i r).token = some u := by
  unfold next
  split
  case h_4 u' =>
    have hnone : s.token = none := ha
    rw [hnone] at h
    cases h
  all_goals exact h

theorem token_of_next {u : String} (h : ¬ s.token = some u) (h' : (s.next t i r).token = some u) :
    (⟨i, r⟩ : Σ i, ConnReply i) = ⟨.uuid4, u⟩ := by
  unfold next at h'
  split at h'
  case h_4 u' => cases h'; rfl
  all_goals exact absurd h' h

theorem lease_of_next {key : String × String} (h : ¬ s.lease = some key)
    (h' : (s.next t i r).lease = some key) :
    (⟨i, r⟩ : Σ i, ConnReply i) = ⟨.guard (.claimOrRefresh key.1 key.2), (.ok, true)⟩ := by
  unfold next at h'
  split at h'
  case h_5 c u reply =>
    rw [lease_eq_some] at h'
    obtain ⟨rfl, rfl⟩ := Prod.mk.inj (Option.some.inj h')
    rfl
  all_goals exact absurd h' h

theorem refreshing_next (hi : i ≠ .joinRefresh) (h : s.refreshing = true) :
    (s.next t i r).refreshing = true := by
  unfold next
  split
  case h_9 => exact absurd rfl hi
  all_goals first | exact h | rfl

theorem entered_next (h : s.entered = true) : (s.next t i r).entered = true := by
  unfold next
  split <;> first | exact h | rfl

/-- A connection's conduct is valid, wherever it stands. -/
theorem after_valid {frames : ℕ} {τ : List (Σ i, ConnReply i)} {q : Prog ConnCall ConnReply _}
    (h : Trace (t.wsGuardMiddleware scope frames).run τ q) :
    ((conduct t scope).after start τ).Valid t scope :=
  (wsGuardMiddleware_sat t scope frames).keeps (fun _ _ _ ha hv => hv.next ha) h start_valid

end Conduct

end Transcribe
