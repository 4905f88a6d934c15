import Transcribe.Model.Sample
import Transcribe.Proof.Instance

/-!
# The connection limit

The guard compares the limit with the number of registered sockets; a handshake that passes
is registered two awaits later.

* `step_limited`: no step brings the registered sockets and the handshakes underway over the
  limit, if every handshake that the guard lets in finds room beside those underway.
* `active_count_le`: the limit holds in every run of such steps.
* `both_pass`: two handshakes pass a limit of one before either is registered.
-/

namespace Transcribe

open Resumption EventSystem Relation

variable {t : Transport} {w : Instance t}

-- what is read off the scope is not computed in this module
attribute [local irreducible] Scope.extractConversationId Scope.queryConversationId
  Scope.normalizeWsPath Scope.routed Scope.authorization

/-! ## A section -/

/-- A connection, with `others` handshakes underway beside it. -/
structure Roomed (t : Transport) (draining : Bool) (others : ℕ) (v : Scene) : Prop where
  arriving : v.1.1 = .arriving → draining = true ∨ t.maxConnections ≤ v.2.activeCount.toNat ∨
    v.2.activeCount.toNat + others < t.maxConnections
  admitted : v.1.1 = .admitted → t.maxConnections ≤ v.2.activeCount.toNat ∨
    v.2.activeCount.toNat + others < t.maxConnections
  fits : v.2.activeCount.toNat + others + (if v.1.1 = .underway then 1 else 0) ≤ t.maxConnections

theorem Roomed.beat {draining : Bool} {id others : ℕ} {v v' : Scene} (hlimit : 0 < t.maxConnections)
    (h : Roomed t draining others v) (hbeat : Beat t draining id v v') : Roomed t draining others v' := by
  cases hbeat with
  | turnedAway => exact ⟨nofun, nofun, h.fits⟩
  | unlimited _ hl => omega
  | admitted hd => exact ⟨nofun, fun _ => (h.arriving rfl).resolve_left (by simp [hd]), h.fits⟩
  | full => exact ⟨nofun, nofun, h.fits⟩
  | @room b reg hroom =>
    refine ⟨nofun, nofun, ?_⟩
    have hfits : t.maxConnections ≤ reg.activeCount.toNat ∨ reg.activeCount.toNat + others < t.maxConnections :=
      h.admitted rfl
    rw [if_pos rfl]
    show reg.activeCount.toNat + others + 1 ≤ t.maxConnections
    omega
  | @add c reg =>
    refine ⟨nofun, nofun, ?_⟩
    have hfits : reg.activeCount.toNat + others + 1 ≤ t.maxConnections := h.fits
    show (reg.add c id).activeCount.toNat + others + 0 ≤ t.maxConnections
    rw [ConnectionRegistry.add_count]
    omega
  | @remove c b reg =>
    refine ⟨nofun, nofun, ?_⟩
    have hfits : reg.activeCount.toNat + others + 0 ≤ t.maxConnections := h.fits
    have hcount := @ConnectionRegistry.remove_count _ reg c id _
    show (reg.remove c (some id)).activeCount.toNat + others + 0 ≤ t.maxConnections
    omega

theorem Roomed.beats {draining : Bool} {id others : ℕ} {v v' : Scene} (hlimit : 0 < t.maxConnections)
    (h : Roomed t draining others v) (hbeats : ReflTransGen (Beat t draining id) v v') :
    Roomed t draining others v' := by
  induction hbeats with
  | refl => exact h
  | tail _ hbeat ih => exact ih.beat hlimit hbeat

/-! ## Arrivals -/

/-- The guard comes to the draining and the limit check. -/
def Transport.Checks (t : Transport) (scope : Scope) (answer : (i : ConnCall) → ConnReply i) : Prop :=
  scope.type = .websocket ∧ scope.normalizeWsPath = wsPath ∧ scope.extractConversationId t.unquote ≠ "" ∧
    (t.authEnabled = true → ∃ subject, answer (.authenticate scope.authorization) = .principal subject)

/-- A section of connection `id` that leaves the registry and its place as they are. -/
def Idles (w : Instance t) (id : ℕ) (answer : (i : ConnCall) → ConnReply i) (p : Prog ConnCall ConnReply (Except Exc Unit)) :
    Prop :=
  (p.settle (Instance.serve w.drain id false answer) w.registry).1 = w.registry ∧
    (seating t).after .arriving (p.settle (Instance.serve w.drain id false answer) w.registry).2.1 = .arriving

section

variable {id : ℕ} {answer : (i : ConnCall) → ConnReply i} {scope : Scope}

theorem reject_idles (scenario : ProtocolErrorScenario) (c : String) (details : Option String) :
    Idles w id answer (reject scenario c details).run := by
  unfold reject ProtocolErrorScenario.requireHttpStatus
  cases scenario.httpStatus with
  | none => exact ⟨rfl, rfl⟩
  | some statusCode => exact ⟨rfl, rfl⟩

theorem checkAuthentication_idles {c : String} {next : Conn Unit} (hauth : t.authEnabled = true)
    (h : ∀ subject, answer (.authenticate scope.authorization) ≠ .principal subject) :
    Idles w id answer (t.checkAuthentication scope c next).run := by
  unfold Transport.checkAuthentication
  rw [if_pos hauth]
  have hcall : ∀ k, Idles w id answer (k (answer (.authenticate scope.authorization))) →
      Idles w id answer (.call (.authenticate scope.authorization) k) := fun _ hk => hk
  refine hcall _ ?_
  cases hr : answer (.authenticate scope.authorization) with
  | principal subject => exact absurd hr (h subject)
  | authenticationError details => exact reject_idles _ _ _
  | raised e => exact ⟨rfl, rfl⟩

/-- A handshake that does not come to the checks changes nothing in its first section. -/
theorem unchecked_idles (hscope : scope.Guarded) (frames : ℕ) (h : ¬ t.Checks scope answer) :
    Idles w id answer (t.wsGuardMiddleware scope frames).run := by
  unfold Transport.wsGuardMiddleware
  -- the checks in the order of the middleware
  by_cases htype : scope.type = .websocket
  · rw [if_neg (not_not.2 htype)]
    by_cases hpath : scope.normalizeWsPath = wsPath
    · rw [if_neg (not_not.2 hpath)]
      by_cases hcid : scope.extractConversationId t.unquote = ""
      · simp only [hcid, if_true]
        exact reject_idles _ _ _
      · simp only [hcid, if_false]
        have hauth : ¬ (t.authEnabled = true →
            ∃ subject, answer (.authenticate scope.authorization) = .principal subject) :=
          fun hauth => h ⟨htype, hpath, hcid, hauth⟩
        push Not at hauth
        exact checkAuthentication_idles hauth.1 hauth.2
    · rw [if_pos hpath]
      unfold Transport.innerApp
      rw [if_neg (not_not.2 htype), if_pos fun hrouted => hpath (hscope htype hrouted)]
      exact ⟨rfl, rfl⟩
  · rw [if_pos htype]
    unfold Transport.innerApp
    rw [if_pos htype]
    exact ⟨rfl, rfl⟩

/-! ## Runs -/

namespace Instance

/-- A handshake that comes to the limit check finds the instance full, or room beside the
handshakes underway. -/
def Roomy (w : Instance t) : InstanceEvent → Prop
  | .connect scope _ answer => scope.Guarded ∧ (t.Checks scope answer → w.drain = .serving →
    t.maxConnections ≤ w.registry.activeCount.toNat ∨
      w.registry.activeCount.toNat + w.underway < t.maxConnections)
  | _ => True

/-- The registered sockets and the handshakes underway are within the limit. -/
structure Limited (w : Instance t) : Prop where
  atRest : w.AtRest
  fits : w.registry.activeCount.toNat + w.underway ≤ t.maxConnections

theorem Roomy.guarded {e : InstanceEvent} (h : w.Roomy e) : e.Guarded := by
  cases e with
  | connect scope frames answer => exact h.1
  | _ => exact trivial

/-- A handshake that does not come to the checks leaves the counts alone. -/
theorem step_unchecked {frames : ℕ} (hscope : scope.Guarded) (h : ¬ t.Checks scope answer) :
    (w.step (.connect scope frames answer)).registry = w.registry ∧
      (w.step (.connect scope frames answer)).underway = w.underway := by
  obtain ⟨hreg, hseat⟩ := @unchecked_idles t w w.links.length answer scope hscope frames h
  refine ⟨hreg, ?_⟩
  have hout : (w.settle w.links.length answer (.start scope frames)).2.underway = false := by
    rw [Bool.eq_false_iff]
    intro hu
    have hunder := (Link.underway_iff.1 hu).1
    have harriving : (w.settle w.links.length answer (.start scope frames)).2.seat = .arriving := hseat
    rw [harriving] at hunder
    cases hunder
  show (w.links ++ [(w.settle w.links.length answer (.start scope frames)).2]).countP Link.underway = w.underway
  rw [List.countP_append, List.countP_singleton, hout]
  rfl

theorem le_underway {x : Link t} (hx : w.links[id]? = some x) :
    (if x.underway = true then 1 else 0) ≤ w.underway := by
  split
  · next hu => exact List.countP_pos_iff.2 ⟨x, List.mem_of_getElem? hx, hu⟩
  · exact Nat.zero_le _

/-- The handshakes underway when one connection changes. -/
theorem underway_set {x x' : Link t} (hx : w.links[id]? = some x) (reg : ConnectionRegistry ℕ) :
    ({ w with registry := reg, links := w.links.set id x' } : Instance t).underway +
      (if x.underway = true then 1 else 0) = w.underway + (if x'.underway = true then 1 else 0) := by
  obtain ⟨hlt, hget⟩ := List.getElem?_eq_some_iff.1 hx
  have hcount := @List.countP_set _ Link.underway w.links id x' hlt
  rw [hget] at hcount
  have hle := le_underway hx
  unfold underway at hle ⊢
  rw [hcount]
  omega

/-- A connection that is underway has that seat. -/
theorem underway_le (x : Link t) :
    (if x.underway = true then 1 else 0) ≤ if x.standing.1 = .underway then 1 else 0 := by
  split
  · next hu => rw [Link.standing_eq, if_pos (Link.underway_iff.1 hu).1]
  · exact Nat.zero_le _

/-- **A step keeps within the limit.** -/
theorem step_limited {e : InstanceEvent} (hlimit : 0 < t.maxConnections) (h : w.Limited) (he : w.Roomy e) :
    (w.step e).Limited := by
  refine ⟨step_atRest h.atRest he.guarded, ?_⟩
  have hfits := h.fits
  -- a handshake that is turned away before the limit is read changes nothing
  by_cases hchecks : ∃ scope frames answer, e = .connect scope frames answer ∧ ¬ t.Checks scope answer
  · obtain ⟨scope, frames, answer, rfl, hnot⟩ := hchecks
    obtain ⟨hreg, hunderway⟩ := @step_unchecked t w answer scope frames he.1 hnot
    rw [hreg, hunderway]
    exact hfits
  have hstepped := step_stepped h.atRest he.guarded
  generalize w.step e = w' at hstepped
  cases hstepped with
  | idle => exact hfits
  | @arrived scope frames answer reg' x' hbeats hrest =>
    -- the handshakes under way are counted besides the one that arrives
    have hroom := he.2 (not_not.1 fun hnot => hchecks ⟨scope, frames, answer, rfl, hnot⟩)
    have hstart : Roomed t w.drain.isDraining w.underway ((.arriving, false), w.registry) := by
      refine ⟨fun _ => ?_, nofun, hfits⟩
      cases hd : w.drain with
      | serving => exact .inr (hroom hd)
      | _ => exact .inl rfl
    have hend := (hstart.beats hlimit hbeats).fits
    have hle := underway_le x'
    show reg'.activeCount.toNat + (w.links ++ [x']).countP Link.underway ≤ t.maxConnections
    rw [List.countP_append, List.countP_singleton]
    unfold underway at hend
    simp only at hend
    omega
  | @moved id answer reg' i x x' hx hp hbeats hrest =>
    -- an answer puts no handshake in front of the check again
    obtain ⟨hne, hne', hunderway, -⟩ := (h.atRest x (List.mem_of_getElem? hx)).answered hp answer
    have hcount := @underway_set t w id x x' hx reg'
    have hpos := le_underway hx
    have hle := underway_le x'
    have hown : (if (x.answered answer).seat = .underway then 1 else 0) ≤ if x.underway = true then 1 else 0 := by
      split
      · next hs => rw [if_pos (hunderway hs)]
      · exact Nat.zero_le _
    have hstart : Roomed t w.drain.isDraining (w.underway - if x.underway = true then 1 else 0)
        ((x.answered answer).standing, w.registry) := by
      rw [Link.standing_eq]
      refine ⟨fun hs => absurd hs hne, fun hs => absurd hs hne', ?_⟩
      simp only
      omega
    have hend := (hstart.beats hlimit hbeats).fits
    simp only at hend hcount ⊢
    omega
  | signalled _ => exact hfits
  | began _ =>
    have hcount := ConnectionRegistry.closeItems_count w.connected w.registry.connections w.registry
    show (w.registry.closeAll w.connected).1.activeCount.toNat + w.underway ≤ t.maxConnections
    unfold ConnectionRegistry.closeAll
    omega
  | @wentOn f _ =>
    have hcount := ConnectionRegistry.goOn_count w.connected f w.registry
    show (w.registry.goOn w.connected f).1.activeCount.toNat + w.underway ≤ t.maxConnections
    omega

/-- **The connection limit**, while every handshake that comes to the check finds room beside
the handshakes underway, or none at all. -/
theorem active_count_le {es : List InstanceEvent} (hlimit : 0 < t.maxConnections)
    (h : Along step Roomy (init : Instance t) es) : (after t es).registry.activeCount ≤ t.maxConnections := by
  have hlimited : (after t es).Limited :=
    along_inv (fun w e hw he => step_limited hlimit hw he) ⟨nofun, Nat.zero_le _⟩ h
  have hfits := hlimited.fits
  omega

end Instance

end

/-! ## A limit of one -/

namespace Instance

section

open Sample

def oneSeat : Transport := { Sample.transport with authEnabled := false, maxConnections := 1, ownershipGuard := false }

/-- A handshake for `c1`. -/
def arrival : InstanceEvent := .connect (scope wsPath "" "conversationId=c1") 0 (answer "t")

/-- Both handshakes are at their accept before either is registered. -/
def bothPass : List InstanceEvent := [arrival, arrival, .proceed 0 (answer "t"), .proceed 1 (answer "t")]

theorem arrival_guarded : (scope wsPath "" "conversationId=c1").Guarded := fun _ _ => by decide +kernel

/-- A handshake that comes after the registration is turned away. -/
theorem second_turned_away :
    (after oneSeat [arrival, .proceed 0 (answer "t"), arrival]).registry.activeCount ≤ oneSeat.maxConnections ∧
      (after oneSeat [arrival, .proceed 0 (answer "t"), arrival]).registry.activeCount = 1 :=
  ⟨active_count_le (by decide) ⟨⟨arrival_guarded, fun _ _ => .inr (by decide +kernel)⟩, trivial,
    ⟨arrival_guarded, fun _ _ => .inl (by decide +kernel)⟩, trivial⟩, by decide +kernel⟩

/-- **Two handshakes pass a limit of one**, and both are registered. -/
theorem both_pass : 0 < oneSeat.maxConnections ∧ (∀ e ∈ bothPass, e.Guarded) ∧
    ¬ (after oneSeat bothPass).registry.activeCount ≤ oneSeat.maxConnections := by
  refine ⟨by decide, ?_, by decide +kernel⟩
  intro e he
  simp only [bothPass, List.mem_cons, List.not_mem_nil, or_false] at he
  rcases he with rfl | rfl | rfl | rfl
  · exact arrival_guarded
  · exact arrival_guarded
  · exact trivial
  · exact trivial

end

end Instance

end Transcribe
