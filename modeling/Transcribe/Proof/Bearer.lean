import Transcribe.Model.Sample
import Transcribe.Proof.Conduct
import Transcribe.Proof.Wiring

/-!
# Bearer tokens from the settings to the session

* `extractBearerToken_iff`: which headers have a bearer token, and which one.
* `turned_away`: in every run of a connection, until a principal is known the only calls are those
  that turn the request away.
* `no_session_without_token`: so nobody gets past the authentication of a service that is told to
  authenticate, except with a token that `jwt.decode` takes under the signing material of its settings.
-/

namespace Transcribe

open Resumption

/-! ## Headers -/

/-- The header has this bearer token: the scheme ends at the first space. -/
def BearerToken (lower : String → String) (header token : String) : Prop :=
  ∃ scheme rest : List Char, (strip header).toList = scheme ++ ' ' :: rest ∧ ' ' ∉ scheme ∧
    lower (String.ofList scheme) = "bearer" ∧ token = strip (String.ofList rest) ∧ token ≠ ""

theorem strip_empty : strip "" = "" := by decide

namespace JwtBearerAuthBackend

variable {B : JwtBearerAuthBackend} {header : Option String} {token : String}

theorem extractBearerToken_ok {value : String} (hvalue : strip (header.getD "") = value) :
    B.extractBearerToken header = .ok token ↔ value ≠ "" ∧
      B.lower (String.ofList (Partition.partition ' ' value.toList).1) = "bearer" ∧
      token = strip (String.ofList ((Partition.partition ' ' value.toList).2.getD [])) ∧ token ≠ "" := by
  unfold extractBearerToken
  simp only [hvalue]
  by_cases hblank : value = ""
  · rw [if_pos hblank]
    exact ⟨nofun, fun h => absurd hblank h.1⟩
  · rw [if_neg hblank]
    split
    · rename_i hbad
      refine ⟨nofun, fun h => ?_⟩
      obtain ⟨-, hscheme, rfl, htoken⟩ := h
      rcases hbad with hbad | hbad
      · exact absurd hscheme hbad
      · exact absurd hbad htoken
    · rename_i hgood
      obtain ⟨hscheme, htoken⟩ := not_or.1 hgood
      rw [Except.ok.injEq]
      constructor
      · rintro rfl
        exact ⟨hblank, not_not.1 hscheme, rfl, htoken⟩
      · rintro ⟨-, -, rfl, -⟩
        rfl

/-- **Headers with a bearer token.** -/
theorem extractBearerToken_iff : B.extractBearerToken header = .ok token ↔
    ∃ value, header = some value ∧ BearerToken B.lower value token := by
  rw [extractBearerToken_ok rfl]
  constructor
  · rintro ⟨hne, hscheme, htoken, htoken'⟩
    cases header with
    | none => exact absurd strip_empty hne
    | some value =>
      refine ⟨value, rfl, ?_⟩
      by_cases hspace : ' ' ∈ (strip value).toList
      · obtain ⟨scheme, rest, hcut, hnot⟩ := List.eq_append_cons_of_mem hspace
        rw [Option.getD_some, hcut, Partition.partition_append hnot] at hscheme htoken
        exact ⟨scheme, rest, hcut, hnot, hscheme, htoken, htoken'⟩
      · -- without a space nothing follows the scheme
        rw [Option.getD_some, Partition.partition_of_not_mem hspace] at htoken
        exact absurd (htoken.trans strip_empty) htoken'
  · rintro ⟨value, rfl, scheme, rest, hcut, hnot, hscheme, htoken, htoken'⟩
    rw [Option.getD_some, hcut, Partition.partition_append hnot]
    refine ⟨fun hempty => ?_, hscheme, htoken, htoken'⟩
    rw [hempty] at hcut
    cases scheme <;> cases hcut

/-- A principal is known if the header has a token that is taken. -/
theorem authenticate_principal {subject : Option String} (h : B.authenticate header = .principal subject) :
    ∃ value token claims, header = some value ∧ BearerToken B.lower value token ∧
      B.decode token = .claims claims := by
  unfold authenticate at h
  cases htoken : B.extractBearerToken header with
  | error details =>
    rw [htoken] at h
    cases h
  | ok token =>
    rw [htoken] at h
    obtain ⟨value, hvalue, hbearer⟩ := extractBearerToken_iff.1 htoken
    cases hdecode : B.decode token with
    | claims claims => exact ⟨value, token, claims, hvalue, hbearer, hdecode⟩
    | expiredSignature => simp [hdecode] at h
    | invalidToken => simp [hdecode] at h
    | raised e => simp [hdecode] at h

end JwtBearerAuthBackend

/-! ## Requests turned away -/

section

attribute [local irreducible] Scope.extractConversationId Scope.queryConversationId
  Scope.normalizeWsPath Scope.routed Scope.authorization

/-- The calls that turn a request away: they ask the authentication backend, and answer the client
before the WebSocket is accepted. -/
def ConnCall.TurnsAway : ConnCall → Prop
  | .authenticate _ | .utcNow | .receive | .denialStart .. | .denialBody _ | .closeUnaccepted _ => True
  | _ => False

/-- The reply names no principal. -/
def ConnCall.Unknown : (i : ConnCall) → ConnReply i → Prop
  | .authenticate _, outcome => ∀ subject, outcome ≠ .principal subject
  | _, _ => True

theorem ConnCall.principal_of_known {i : ConnCall} {r : ConnReply i} (h : ¬ i.Unknown r) :
    ∃ header subject, (⟨i, r⟩ : Σ i, ConnReply i) = ⟨.authenticate header, .principal subject⟩ := by
  cases i with
  | authenticate header =>
    obtain ⟨subject, hsubject⟩ := not_forall_not.1 h
    exact ⟨header, subject, congrArg _ hsubject⟩
  | _ => exact absurd trivial h

variable {t : Transport} {scope : Scope} {frames : ℕ}

theorem reject_turnsAway (scenario : ProtocolErrorScenario) (c : String) (details : Option String) :
    Assures ConnCall.TurnsAway ConnCall.Unknown (reject scenario c details) := by
  unfold reject denyWebsocket
  refine Assures.bind (Assures.of_except _) fun statusCode => ?_
  refine Assures.bind (Assures.ask ConnCall.utcNow trivial) fun now => ?_
  refine Assures.bind (Assures.call ConnCall.receive trivial) fun _ => ?_
  exact Assures.bind (Assures.call (ConnCall.denialStart ..) trivial) fun _ =>
    Assures.call (ConnCall.denialBody _) trivial

/-- Until a principal is known a guarded request is only turned away. -/
theorem wsGuardMiddleware_turnsAway (hon : t.authEnabled = true)
    (hguarded : scope.routed = true → scope.normalizeWsPath = wsPath) :
    Assures ConnCall.TurnsAway ConnCall.Unknown (t.wsGuardMiddleware scope frames) := by
  unfold Transport.wsGuardMiddleware
  refine Assures.ite (fun htype => ?_) fun _ => Assures.ite (fun hpath => ?_) fun _ => ?_
  · unfold Transport.innerApp
    exact Assures.ite (fun _ => Assures.of_pure _) fun hws => absurd htype hws
  · -- a path that is not guarded is not routed
    unfold Transport.innerApp
    refine Assures.ite (fun _ => Assures.of_pure _) fun _ => ?_
    refine Assures.ite (fun _ => Assures.call (ConnCall.closeUnaccepted _) trivial) fun hrouted => ?_
    exact absurd (hguarded (not_not.1 hrouted)) hpath
  · refine Assures.ite (fun _ => reject_turnsAway _ _ _) fun _ => ?_
    refine Assures.ite (fun _ => ?_) fun hoff => absurd hon hoff
    refine Assures.ask_bind (ConnCall.authenticate scope.authorization) trivial fun outcome houtcome => ?_
    cases outcome with
    | principal subject => exact absurd rfl (houtcome subject)
    | authenticationError details => exact reject_turnsAway _ _ _
    | raised e => exact Assures.of_except (.error e)

theorem turned_away {τ τ' : List (Σ i, ConnReply i)} {i : ConnCall} {r : ConnReply i}
    {q : Prog ConnCall ConnReply (Except Exc Unit)} (hon : t.authEnabled = true)
    (hguarded : scope.routed = true → scope.normalizeWsPath = wsPath)
    (h : Trace (t.wsGuardMiddleware scope frames).run (τ ++ ⟨i, r⟩ :: τ') q) (hi : ¬ i.TurnsAway) :
    ∃ subject, ⟨.authenticate scope.authorization, .principal subject⟩ ∈ τ := by
  have hok := (wsGuardMiddleware_turnsAway hon hguarded False).ok_at h
  obtain ⟨⟨j, r'⟩, hmem, hknown⟩ :=
    ((Monitor.assuming_after τ).1 (hok.resolve_right hi)).resolve_left id
  obtain ⟨header, subject, he⟩ := ConnCall.principal_of_known hknown
  cases he
  obtain ⟨τ₁, τ₂, rfl⟩ := List.append_of_mem hmem
  rw [List.append_assoc, List.cons_append] at h
  -- the only header that is looked at is that of the request
  have hheader : header = scope.authorization := (wsGuardMiddleware_sat t scope frames).ok_at h
  exact ⟨subject, hheader ▸ hmem⟩

/-- **No session without a token.** A service is told to authenticate, and its settings are accepted.
Whatever else happens, what a request on the session route leads to is that it is turned away, or its
header has a bearer token that `jwt.decode` takes under the signing material of the settings, which is
not empty. -/
theorem no_session_without_token {L : RuntimeLibrary} {s : RuntimeSettings} {environ : String → Option String}
    {f : SettingsFields} {b : RuntimeBundle} (hvalid : Settings.validate environ f = .ok s.toSettings)
    (hbundle : s.createRuntimeBundle L = .ok b) (hauth : s.authEnabled = true)
    (hon : t.authEnabled = b.authBackend.isSome) (hscope : scope.Reaches)
    (hroute : scope.getRoutePath ≠ wsPath ++ "\n") {τ τ' : List (Σ i, ConnReply i)} {i : ConnCall}
    {r : ConnReply i} {q : Prog ConnCall ConnReply (Except Exc Unit)}
    (h : Trace (t.wsGuardMiddleware scope frames).run (τ ++ ⟨i, r⟩ :: τ') q)
    (hbackend : ∀ B ∈ b.authBackend, ∀ header outcome, ⟨.authenticate header, outcome⟩ ∈ τ →
      outcome = B.authenticate header) :
    i.TurnsAway ∨ ∃ header token material claims, scope.authorization = some header ∧
      BearerToken L.lower header token ∧ s.authJwtSigningMaterial = some material ∧ material ≠ "" ∧
      L.jwtDecode material s.authJwtAlgorithm token = .claims claims := by
  by_cases hi : i.TurnsAway
  · exact .inl hi
  have hwired : RuntimeSettings.Wired L s b := RuntimeSettings.wired_of_ok hvalid hbundle
  obtain ⟨B, hB⟩ := Option.ne_none_iff_exists'.1 fun hnone => by
    rw [hwired.open_iff.1 hnone] at hauth
    cases hauth
  obtain ⟨material, hmaterial, hsome, rfl⟩ := hwired.signed B hB
  have hguarded : scope.routed = true → scope.normalizeWsPath = wsPath := fun hrouted =>
    (Scope.normalize_of_reaches hscope).trans ((Scope.routed_iff.1 hrouted).resolve_right hroute)
  obtain ⟨subject, hmem⟩ := turned_away (by rw [hon, hB]; rfl) hguarded h hi
  obtain ⟨header, token, claims, hheader, htoken, htaken⟩ :=
    JwtBearerAuthBackend.authenticate_principal (hbackend _ hB _ _ hmem).symm
  exact .inr ⟨header, token, material, claims, hheader, htoken, hsome, hmaterial, htaken⟩

end

section

open Sample RuntimeSettings

/-- The session route, with the token that is taken. -/
def bearing : Scope := Sample.scope wsPath "" "conversationId=c1"

/-- The backend of the deployed service. -/
def deployedBackend : JwtBearerAuthBackend :=
  ⟨plainLibrary.lower, plainLibrary.jwtDecode "material" "HS256"⟩

/-- A session of the deployed service. -/
theorem deployedService_session : ∃ header token material claims, bearing.authorization = some header ∧
    BearerToken plainLibrary.lower header token ∧ deployedService.authJwtSigningMaterial = some material ∧
    material ≠ "" ∧
    plainLibrary.jwtDecode material deployedService.authJwtAlgorithm token = .claims claims := by
  obtain ⟨b, hbundle, hb⟩ : ∃ b, deployedService.createRuntimeBundle plainLibrary = .ok b ∧
      b.authBackend = some deployedBackend := ⟨_, rfl, rfl⟩
  have htrace : Trace (transport.wsGuardMiddleware bearing 0).run
      (handshake bearing "c1" ++ ⟨.accept, .ok ()⟩ :: []) _ :=
    .cons (.cons (.cons (.cons (.cons (.cons (.nil _))))))
  have hanswer : deployedBackend.authenticate bearing.authorization = .principal (some "s") := rfl
  refine (no_session_without_token deployedService_validated hbundle rfl ?_ ⟨rfl, .inl rfl⟩ (by decide) htrace
    ?_).resolve_left id
  · rw [hb]
    rfl
  · rintro B hB header outcome hmem
    rw [hb] at hB
    cases hB
    simp only [handshake, List.mem_cons, List.not_mem_nil, or_false] at hmem
    -- the trace has one call of `authenticate`
    rcases hmem with he | he | he | he | he <;> cases he
    exact hanswer.symm

end

end Transcribe
