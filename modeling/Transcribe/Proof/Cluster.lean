import Transcribe.Model.Cluster
import Transcribe.Proof.Conduct
import Transcribe.Proof.Steps

/-!
# One step of the cluster

* `step_happens`: what an event does to the cluster, said once.
* `Connection.Sane`: how a connection stands to the cluster: what it waits for is on the
  wire, what it holds was granted, its message is in the hands of the orchestrator.
* `run_sound`: every reachable cluster is sound: its connections are sane, what was granted
  and released on the wire is what the guard's history says.
* `run_sole`: where tokens are drawn once, no two connections have the same, and who
  releases a key claims it no more.
-/

namespace Transcribe

open Resumption EventSystem

variable {site : Site}

-- what is read off a scope is not computed in this module
attribute [local irreducible] Scope.extractConversationId Scope.queryConversationId
  Scope.normalizeWsPath Scope.routed Scope.authorization

/-! ## What an event does -/

namespace Cluster

variable {w w' : Cluster site} {e : ClusterEvent}

/-- What an event does: nothing, or one of these. -/
inductive Happens (w : Cluster site) : ClusterEvent → Cluster site → Prop
  | idle (e : ClusterEvent) : Happens w e w
  | connected (scope : Scope) (frames rounds : ℕ) : Happens w (.connect scope frames rounds)
      { w with conns := w.conns ++ [.start scope frames rounds] }
  | issued {id : ℕ} {who : Who} {x : Connection site} {g : GuardCall} (hx : w.conns[id]? = some x)
      (hi : x.issued who = none) (hp : x.pending who = some (.guard g)) :
      Happens w (.issue id who)
        { w with wire := w.wire ++ [⟨g, none⟩], conns := w.conns.set id (x.issue w.wire.length who) }
  | executed {k : ℕ} {g : GuardCall} (hk : w.wire[k]? = some ⟨g, none⟩) : Happens w (.execute k)
      { w with
        guard := (g.exec site.guard w.guard).1
        wire := w.wire.set k ⟨g, some (g.exec site.guard w.guard).2⟩ }
  | submitted {id : ℕ} {who : Who} {answer : (i : ConnCall) → ConnReply i} {x : Connection site}
      {raw : Json} {c : String} (hx : w.conns[id]? = some x)
      (hp : x.pending who = some (.handleMessage raw c)) (hh : x.handler = none) :
      Happens w (.proceed id who answer) (w.submit id x raw c)
  | resumed {id : ℕ} {who : Who} {answer answer' : (i : ConnCall) → ConnReply i}
      {x : Connection site} {i : ConnCall} (hx : w.conns[id]? = some x) (hp : x.pending who = some i)
      (hr : w.reply x who answer i = some answer') :
      Happens w (.proceed id who answer) (w.resume id x who answer' i)
  | handled (h : ℕ) (fate : Fate) (now : Datetime) : Happens w (.handle h fate now)
      { w with world := w.world.step (.exec h fate now) }
  | ticked : Happens w .tick { w with world := w.world.step .tick, guard := w.guard.tick }

/-- **Every step is one of these.** -/
theorem step_happens (w : Cluster site) (e : ClusterEvent) : w.Happens e (w.step e) := by
  cases e with
  | connect scope frames rounds => exact .connected scope frames rounds
  | tick => exact .ticked
  | handle h fate now => exact .handled h fate now
  | issue id who =>
    simp only [step]
    cases hx : w.conns[id]? with
    | none => exact .idle _
    | some x =>
      simp only [issue]
      split
      · next g hi hp => exact .issued hx hi hp
      · exact .idle _
  | execute k =>
    simp only [step, execute]
    split
    · next g hk => exact .executed hk
    · exact .idle _
  | proceed id who answer =>
    simp only [step]
    cases hx : w.conns[id]? with
    | none => exact .idle _
    | some x =>
      simp only
      cases hp : x.pending who with
      | none => exact .idle _
      | some i =>
        simp only [proceed]
        split
        · next raw c hh => exact .submitted hx hp hh
        · split
          · exact .idle _
          · next answer' hr => exact .resumed hx hp hr

/-- What only grows: the wire, the tokens, the grants and the submissions. -/
structure Grows (w w' : Cluster site) : Prop where
  wire : ∀ (k : ℕ) (g : GuardCall) (a : Option Bool), w.wire[k]? = some ⟨g, a⟩ → ∃ a', w'.wire[k]? = some ⟨g, a'⟩
  tokens : ∀ u ∈ w.tokens, u ∈ w'.tokens
  granted : ∀ k u, w.guard.Granted k u → w'.guard.Granted k u
  submissions : ∀ (h : ℕ) s, w.world.submissions[h]? = some s → w'.world.submissions[h]? = some s

theorem Grows.refl (w : Cluster site) : Grows w w :=
  ⟨fun _ _ a h => ⟨a, h⟩, fun _ h => h, fun _ _ h => h, fun _ _ h => h⟩

theorem exec_granted (g : GuardCall) (s : Lease.State String String) {k u : String}
    (h : s.Granted k u) : (g.exec site.guard s).1.Granted k u := by
  obtain ⟨n, hn⟩ := h
  refine ⟨n, ?_⟩
  cases g with
  | release c u' => exact hn
  | claimOrRefresh c u' =>
    simp only [GuardCall.exec]
    split
    · exact List.mem_cons_of_mem _ hn
    · exact hn

theorem submissions_grow (w : World site.deps) (e : Event) {h : ℕ} {s : Submission}
    (hs : w.submissions[h]? = some s) : (w.step e).submissions[h]? = some s := by
  rw [World.step_submissions]
  exact List.getElem?_append_left (List.getElem?_eq_some_iff.1 hs).1 ▸ hs

theorem Happens.grows (h : w.Happens e w') : Grows w w' := by
  cases h with
  | idle => exact .refl w
  | connected => exact ⟨(Grows.refl w).wire, fun _ h => h, fun _ _ h => h, fun _ _ h => h⟩
  | issued hx hi hp =>
    refine ⟨fun k g a hk => ⟨a, ?_⟩, fun _ h => h, fun _ _ h => h, fun _ _ h => h⟩
    rw [List.getElem?_append_left (List.getElem?_eq_some_iff.1 hk).1, hk]
  | @executed k g hk =>
    refine ⟨fun k' g' a hk' => ?_, fun _ h => h, fun _ _ => exec_granted g w.guard, fun _ _ h => h⟩
    by_cases hkk : k = k'
    · subst hkk
      rw [hk] at hk'
      obtain ⟨rfl, -⟩ := Command.mk.inj (Option.some.inj hk')
      exact ⟨_, List.getElem?_set_self (List.getElem?_eq_some_iff.1 hk).1⟩
    · exact ⟨a, by rw [List.getElem?_set_ne hkk, hk']⟩
  | submitted => exact ⟨(Grows.refl w).wire, fun _ h => h, fun _ _ h => h,
      fun _ _ h => submissions_grow w.world _ h⟩
  | resumed => exact ⟨(Grows.refl w).wire, fun _ h => List.mem_append_right _ h, fun _ _ h => h,
      fun _ _ h => h⟩
  | handled => exact ⟨(Grows.refl w).wire, fun _ h => h, fun _ _ h => h,
      fun _ _ h => submissions_grow w.world _ h⟩
  | ticked => exact ⟨(Grows.refl w).wire, fun _ h => h, fun _ _ h => h,
      fun _ _ h => submissions_grow w.world _ h⟩

end Cluster

/-! ## Connections -/

/-- What the connection has done. -/
def Connection.conduct (x : Connection site) : Conduct :=
  x.main.thread.state (Transcribe.conduct site.transport x.scope) .start

namespace Connection

variable {x : Connection site} {i : ConnCall} {answer : (i : ConnCall) → ConnReply i}

/-- A pending call is one the conduct allows. -/
theorem allows (hp : x.main.pending = some i) : x.conduct.Allows site.transport x.scope i :=
  x.main.thread.ok_of_pending (wsGuardMiddleware_sat site.transport x.scope x.frames) hp

theorem valid : x.conduct.Valid site.transport x.scope := Conduct.after_valid x.main.thread.ok

theorem conduct_resume (hp : x.main.pending = some i) :
    (x.resume answer .main i).conduct = x.conduct.next site.transport i (answer i) := by
  have h : (x.advance answer .main).conduct = x.conduct.next site.transport i (answer i) :=
    Thread.state_advance hp
  cases i <;> exact h

/-- The refresh task waits in calls of its own only. -/
theorem refresh_call (hp : x.pending .refresh = some i) :
    ∃ r ∈ x.refresh, r.task.pending = some i ∧ RefreshCall r.conversationId r.token i := by
  obtain ⟨r, hr, hi⟩ := Option.bind_eq_some_iff.1 hp
  exact ⟨r, hr, hi, r.task.thread.ok_of_pending (refreshLoop_sat r.conversationId r.token r.rounds) hi⟩

/-- The refresh task after a reply to it. -/
theorem resume_refresh (hp : x.pending .refresh = some i) :
    x.resume answer .refresh i = x.advance answer .refresh := by
  obtain ⟨r, -, -, hquiet | rfl⟩ := refresh_call hp
  · cases i <;> first | exact hquiet.elim | rfl
  · rfl

/-- The refresh task after a reply to the connection: started just now, or still there. -/
theorem mem_refresh_resume {r : RefreshTask} (hr : r ∈ (x.resume answer .main i).refresh) :
    (r ∈ x.refresh ∧ i ≠ .joinRefresh) ∨ ∃ c u, i = .spawnRefresh c u ∧ r = ⟨c, u, x.rounds, .start _⟩ := by
  cases i with
  | spawnRefresh c u => exact .inr ⟨c, u, rfl, (Option.some.inj hr).symm⟩
  | joinRefresh => cases hr
  | _ => exact .inl ⟨hr, nofun⟩

/-- How a connection stands to the cluster. -/
structure Sane (w : Cluster site) (x : Connection site) : Prop where
  issued : ∀ who k, x.issued who = some k →
    ∃ g a, x.pending who = some (.guard g) ∧ w.wire[k]? = some ⟨g, a⟩
  refresh : ∀ r ∈ x.refresh, x.conduct.refreshing = true ∧ x.conduct.token = some r.token
  token : ∀ u, x.conduct.token = some u → u ∈ w.tokens
  lease : ∀ c u, x.conduct.lease = some (c, u) → w.guard.Granted (site.guard.key c) u
  handler : ∀ h, x.handler = some h →
    ∃ raw c, x.main.pending = some (.handleMessage raw c) ∧ w.world.submissions[h]? = some ⟨raw, c⟩

variable {w w' : Cluster site}

theorem Sane.grow (h : x.Sane w) (hw : w.Grows w') : x.Sane w' := by
  refine ⟨fun who k hk => ?_, h.refresh, fun u hu => hw.tokens u (h.token u hu),
    fun c u hl => hw.granted _ _ (h.lease c u hl), fun n hn => ?_⟩
  · obtain ⟨g, a, hp, hg⟩ := h.issued who k hk
    obtain ⟨a', ha'⟩ := hw.wire k g a hg
    exact ⟨g, a', hp, ha'⟩
  · obtain ⟨raw, c, hp, hs⟩ := h.handler n hn
    exact ⟨raw, c, hp, hw.submissions n _ hs⟩

theorem start_sane (scope : Scope) (frames rounds : ℕ) :
    (start scope frames rounds : Connection site).Sane w := by
  refine ⟨fun who k hk => ?_, nofun, nofun, nofun, nofun⟩
  cases who <;> cases hk

/-! ### What a step does to a connection -/

@[simp] theorem conduct_issue (k : ℕ) (who : Who) : (x.issue k who).conduct = x.conduct := by
  cases who <;> rfl

@[simp] theorem handler_issue (k : ℕ) (who : Who) : (x.issue k who).handler = x.handler := by
  cases who <;> rfl

@[simp] theorem pending_issue (k : ℕ) (who who' : Who) :
    (x.issue k who).pending who' = x.pending who' := by
  cases who with
  | main => cases who' <;> rfl
  | refresh =>
    cases who' with
    | main => rfl
    | refresh => cases hr : x.refresh <;> simp [issue, pending, hr, Task.issue, Task.pending]

theorem issued_issue {k n : ℕ} {who who' : Who} (h : (x.issue k who).issued who' = some n) :
    (who' = who ∧ n = k) ∨ x.issued who' = some n := by
  cases who with
  | main =>
    cases who' with
    | main => exact .inl ⟨rfl, (Option.some.inj h).symm⟩
    | refresh => exact .inr h
  | refresh =>
    cases who' with
    | main => exact .inr h
    | refresh =>
      cases hr : x.refresh with
      | none => simp [issue, issued, hr] at h
      | some r =>
        refine .inl ⟨rfl, ?_⟩
        simpa [issue, issued, hr, Task.issue, eq_comm] using h

/-- Neither a command that goes out nor a reply changes what the refresh task is for. -/
theorem mem_refresh_issue {k : ℕ} {who : Who} {r : RefreshTask} (hr : r ∈ (x.issue k who).refresh) :
    ∃ r' ∈ x.refresh, r.conversationId = r'.conversationId ∧ r.token = r'.token := by
  cases who with
  | main => exact ⟨r, hr, rfl, rfl⟩
  | refresh =>
    obtain ⟨r', hr', rfl⟩ := Option.map_eq_some_iff.1 hr
    exact ⟨r', hr', rfl, rfl⟩

theorem mem_refresh_advance {r : RefreshTask} (hr : r ∈ (x.advance answer .refresh).refresh) :
    ∃ r' ∈ x.refresh, r.conversationId = r'.conversationId ∧ r.token = r'.token := by
  obtain ⟨r', hr', rfl⟩ := Option.map_eq_some_iff.1 hr
  exact ⟨r', hr', rfl, rfl⟩

/-- Who has gone on has issued nothing yet. -/
theorem issued_advance (who who' : Who) :
    (x.advance answer who).issued who' = if who' = who then none else x.issued who' := by
  cases who with
  | main => cases who' <;> rfl
  | refresh =>
    cases who' with
    | main => rfl
    | refresh => cases hr : x.refresh <;> simp [advance, issued, hr, Task.advance]

/-- A message is handed on by the connection itself. -/
theorem main_of_handleMessage {who : Who} {raw : Json} {c : String}
    (hp : x.pending who = some (.handleMessage raw c)) : who = .main := by
  cases who with
  | main => rfl
  | refresh =>
    obtain ⟨r, -, -, hquiet | h⟩ := refresh_call hp
    · exact hquiet.elim
    · cases h

theorem handler_resume {who : Who} (hi : ∀ raw c, i ≠ .handleMessage raw c) :
    (x.resume answer who i).handler = x.handler := by
  have h : (x.advance answer who).handler = x.handler := by cases who <;> rfl
  cases i with
  | handleMessage raw c => exact absurd rfl (hi raw c)
  | _ => exact h

/-! ### Sanity is kept -/

/-- The command the connection waits for is the one of its call. -/
theorem Sane.owned (h : x.Sane w) {who : Who} {g : GuardCall} {b : Bool}
    (hp : x.pending who = some (.guard g)) (hk : ∃ k a, x.issued who = some k ∧ w.wire[k]? = some ⟨a, some b⟩) :
    ⟨g, some b⟩ ∈ w.wire := by
  obtain ⟨k, a, hi, hk⟩ := hk
  obtain ⟨g', a', hp', hk'⟩ := h.issued who k hi
  obtain rfl : g = g' := ConnCall.guard.inj (Option.some.inj (hp.symm.trans hp'))
  obtain ⟨rfl, -⟩ := Command.mk.inj (Option.some.inj (hk.symm.trans hk'))
  exact List.mem_of_getElem? hk

/-- A command has been issued. -/
theorem Sane.issue (h : x.Sane w) {who : Who} {g : GuardCall}
    (hp : x.pending who = some (.guard g)) (hw : w.Grows w') (hg : w'.wire = w.wire ++ [⟨g, none⟩]) :
    (x.issue w.wire.length who).Sane w' := by
  have h' := h.grow hw
  refine ⟨fun who' k hk => ?_, fun r hr => ?_, ?_, ?_, ?_⟩
  · rw [pending_issue]
    rcases issued_issue hk with ⟨rfl, rfl⟩ | hk
    · exact ⟨g, none, hp, by rw [hg]; simp⟩
    · exact h'.issued who' k hk
  · obtain ⟨r', hr', -, ht⟩ := mem_refresh_issue hr
    rw [conduct_issue, ht]
    exact h.refresh r' hr'
  · rw [conduct_issue]; exact h'.token
  · rw [conduct_issue]; exact h'.lease
  · intro n hn
    rw [handler_issue] at hn
    obtain ⟨raw, c, hpend, hs⟩ := h'.handler n hn
    exact ⟨raw, c, (pending_issue _ who .main).trans hpend, hs⟩

/-- The connection has handed on its message. -/
theorem Sane.submit (h : x.Sane w) {raw : Json} {c : String} {n : ℕ}
    (hp : x.main.pending = some (.handleMessage raw c)) (hw : w.Grows w')
    (hn : w'.world.submissions[n]? = some ⟨raw, c⟩) : ({ x with handler := some n } : Connection site).Sane w' := by
  have h' := h.grow hw
  refine ⟨h'.issued, h'.refresh, h'.token, h'.lease, ?_⟩
  rintro _ ⟨⟩
  exact ⟨raw, c, hp, hn⟩

/-- The refresh task has gone on. -/
theorem Sane.resume_refresh (h : x.Sane w) (hw : w.Grows w') (hp : x.pending .refresh = some i) :
    (x.resume answer .refresh i).Sane w' := by
  have h' := h.grow hw
  rw [Connection.resume_refresh hp]
  refine ⟨fun who k hk => ?_, fun r hr => ?_, h'.token, h'.lease, h'.handler⟩
  · rw [issued_advance] at hk
    cases who with
    | main => exact h'.issued .main k hk
    | refresh => cases hk
  · obtain ⟨r', hr', -, ht⟩ := mem_refresh_advance hr
    rw [ht]
    exact h.refresh r' hr'

/-- The connection has gone on: with a claim that was answered `OWNED` it has a lease, with
a token drawn it has that. -/
theorem Sane.resume_main (h : x.Sane w) (hw : w.Grows w') (hp : x.main.pending = some i)
    (hclaim : ∀ c u, (⟨i, answer i⟩ : Σ i, ConnReply i) = ⟨.guard (.claimOrRefresh c u), (.ok, true)⟩ →
      w'.guard.Granted (site.guard.key c) u)
    (htoken : ∀ u, (⟨i, answer i⟩ : Σ i, ConnReply i) = ⟨.uuid4, u⟩ → u ∈ w'.tokens) :
    (x.resume answer .main i).Sane w' := by
  have h' := h.grow hw
  have hallow := allows hp
  refine ⟨fun who k hk => ?_, fun r hr => ?_, fun u hu => ?_, fun c u hl => ?_, fun n hn => ?_⟩
  · cases who with
    | main => cases i <;> cases hk
    | refresh =>
      cases i with
      | spawnRefresh c u => cases hk
      | joinRefresh => cases hk
      | _ => exact h'.issued .refresh k hk
  · rw [conduct_resume hp]
    rcases mem_refresh_resume hr with ⟨hr, hi⟩ | ⟨c, u, rfl, rfl⟩
    · obtain ⟨hrefreshing, ht⟩ := h.refresh r hr
      exact ⟨Conduct.refreshing_next hi hrefreshing, Conduct.token_next hallow ht⟩
    · -- it is started with the token of the lease
      obtain ⟨-, -, -, -, c', hl⟩ := hallow
      exact ⟨rfl, valid.token c' u _ (Conduct.lease_eq_some.1 hl)⟩
  · rw [conduct_resume hp] at hu
    by_cases hold : x.conduct.token = some u
    · exact h'.token u hold
    · exact htoken u (Conduct.token_of_next hold hu)
  · rw [conduct_resume hp] at hl
    by_cases hold : x.conduct.lease = some (c, u)
    · exact h'.lease c u hold
    · exact hclaim c u (Conduct.lease_of_next hold hl)
  · by_cases hm : ∃ raw c, i = .handleMessage raw c
    · obtain ⟨raw, c, rfl⟩ := hm
      cases hn
    · have hn' : x.handler = some n := by
        cases i with
        | handleMessage raw c => exact absurd ⟨raw, c, rfl⟩ hm
        | _ => exact hn
      -- while the orchestrator has its message, a connection waits for the answer
      obtain ⟨raw, c, hpend, -⟩ := h.handler n hn'
      exact absurd ⟨raw, c, Option.some.inj (hp.symm.trans hpend)⟩ hm

/-! ### Tokens and leaving -/

/-- A connection keeps its token, and gets one by drawing it. -/
theorem token_of_resume {who : Who} {u : String} (hp : x.pending who = some i)
    (hu : x.conduct.token = some u) : (x.resume answer who i).conduct.token = some u := by
  cases who with
  | main => rw [conduct_resume hp]; exact Conduct.token_next (allows hp) hu
  | refresh => rw [Connection.resume_refresh hp]; exact hu

theorem token_resume {who : Who} {u : String} (hp : x.pending who = some i)
    (hu : (x.resume answer who i).conduct.token = some u) :
    x.conduct.token = some u ∨ i = .uuid4 ∧ answer .uuid4 = u := by
  cases who with
  | refresh => rw [Connection.resume_refresh hp] at hu; exact .inl hu
  | main =>
    rw [conduct_resume hp] at hu
    by_cases hold : x.conduct.token = some u
    · exact .inl hold
    · obtain ⟨rfl, hi⟩ := Sigma.mk.inj (Conduct.token_of_next hold hu)
      exact .inr ⟨rfl, eq_of_heq hi⟩

/-- The connection gives the key of `c` back, or has: it has no refresh task any more. -/
def Leaving (x : Connection site) (c u : String) : Prop :=
  x.refresh = none ∧
    (x.main.pending = some (.guard (.release c u)) ∨ x.conduct.released = some (c, u))

variable {c u : String}

theorem Leaving.issue (h : x.Leaving c u) {k : ℕ} {who : Who} : (x.issue k who).Leaving c u := by
  obtain ⟨hr, hl⟩ := h
  refine ⟨?_, ?_⟩
  · cases who with
    | main => exact hr
    | refresh => simp [Connection.issue, hr]
  · rw [conduct_issue]
    exact hl.imp_left fun hl => (pending_issue k who .main).trans hl

/-- Who leaves claims nothing, starts no refresh task and hands on no message. -/
theorem Leaving.call (h : x.Leaving c u) (hp : x.main.pending = some i) :
    i = .guard (.release c u) ∨ x.conduct.released = some (c, u) ∧
      x.conduct.Allows site.transport x.scope i := by
  rcases h.2 with hpend | hrel
  · exact .inl (Option.some.inj (hp.symm.trans hpend))
  · exact .inr ⟨hrel, allows hp⟩

theorem Leaving.resume (h : x.Leaving c u) {who : Who} (hp : x.pending who = some i) :
    (x.resume answer who i).Leaving c u := by
  cases who with
  | refresh =>
    obtain ⟨r, hr, -⟩ := refresh_call hp
    rw [h.1] at hr
    cases hr
  | main =>
    refine ⟨Option.eq_none_iff_forall_not_mem.2 fun r hr => ?_, .inr ?_⟩
    · rcases mem_refresh_resume hr with ⟨hr, -⟩ | ⟨c', u', rfl, -⟩
      · rw [h.1] at hr; cases hr
      · rcases h.call hp with hi | ⟨hrel, hallow⟩
        · cases hi
        · have hnone : x.conduct.released = none := hallow.2.1
          rw [hrel] at hnone; cases hnone
    · rw [conduct_resume hp]
      rcases h.call hp with rfl | ⟨hrel, hallow⟩
      · rfl
      · exact Conduct.released_next hallow hrel

/-- Who is about to release leaves, and releases its own token. -/
theorem Sane.leaving (h : x.Sane w) {who : Who} (hp : x.pending who = some (.guard (.release c u))) :
    x.conduct.token = some u ∧ x.Leaving c u := by
  cases who with
  | refresh =>
    obtain ⟨r, -, -, hquiet | hi⟩ := refresh_call hp
    · exact hquiet.elim
    · cases hi
  | main =>
    obtain ⟨-, -, hrefreshing, -, c', hl⟩ := allows hp
    refine ⟨valid.token c' u _ (Conduct.lease_eq_some.1 hl), ?_, .inl hp⟩
    refine Option.eq_none_iff_forall_not_mem.2 fun r hr => ?_
    rw [(h.refresh r hr).1] at hrefreshing
    cases hrefreshing

/-- Who claims has the token it claims with, and does not leave. -/
theorem Sane.claiming (h : x.Sane w) {who : Who} (hp : x.pending who = some (.guard (.claimOrRefresh c u))) :
    x.conduct.token = some u ∧ ∀ c', ¬ x.Leaving c' u := by
  cases who with
  | refresh =>
    obtain ⟨r, hr, -, hquiet | hi⟩ := refresh_call hp
    · exact hquiet.elim
    · obtain ⟨-, hu⟩ := GuardCall.claimOrRefresh.inj (ConnCall.guard.inj hi)
      refine ⟨hu ▸ (h.refresh r hr).2, fun c' hl => ?_⟩
      rw [hl.1] at hr; cases hr
  | main =>
    obtain ⟨ht, -, hr, -⟩ := allows hp
    refine ⟨ht, fun c' hl => ?_⟩
    rcases hl.call hp with hi | ⟨hrel, -⟩
    · cases hi
    · rw [hr] at hrel; cases hrel

end Connection

/-! ## The cluster -/

namespace Cluster

variable {w w' : Cluster site} {e : ClusterEvent} {x : Connection site} {who : Who}
  {answer answer' : (i : ConnCall) → ConnReply i}

/-- A guard call returns with the answer to its command. -/
theorem reply_guard {g : GuardCall} {b : Bool} (hr : w.reply x who answer (.guard g) = some answer')
    (hb : answer' (.guard g) = (.ok, b)) : ∃ k a, x.issued who = some k ∧ w.wire[k]? = some ⟨a, some b⟩ := by
  obtain ⟨r, hg, rfl⟩ := Option.map_eq_some_iff.1 hr
  obtain rfl : r = (.ok, b) := hb
  unfold guardReply at hg
  split at hg
  · next b' hc _ =>
    obtain ⟨⟨a, ans⟩, hk, rfl⟩ := Option.bind_eq_some_iff.1 hc
    obtain ⟨k, hi, hk⟩ := Option.bind_eq_some_iff.1 hk
    obtain rfl : b' = b := (Prod.mk.inj (Option.some.inj hg)).2
    exact ⟨k, a, hi, hk⟩
  all_goals cases hg

/-- What holds between the parts of a cluster, whatever the events. -/
structure Sound (w : Cluster site) : Prop where
  conns : ∀ x ∈ w.conns, x.Sane w
  granted : ∀ c u, ⟨.claimOrRefresh c u, some true⟩ ∈ w.wire → w.guard.Granted (site.guard.key c) u
  released : ∀ k u, (k, u) ∈ w.guard.released →
    ∃ c b, k = site.guard.key c ∧ ⟨.release c u, some b⟩ ∈ w.wire
  leases : Lease.Sound site.guard.guardTtlSec w.guard
  handlers : ∀ n h, w.world.handlers[n]? = some h → h.pending ≠ none → ∃ x ∈ w.conns, x.handler = some n

theorem init_sound : (init : Cluster site).Sound :=
  ⟨fun _ h => absurd h List.not_mem_nil, fun _ _ h => absurd h List.not_mem_nil,
    fun _ _ h => absurd h List.not_mem_nil, Lease.sound_init, fun _ _ h => by simp [init, World.init] at h⟩

/-! ### Commands -/

/-- A claim is the claim of a lease, a release its release. -/
theorem exec_claim (g : RedisConversationOwnershipGuard) (s : Lease.State String String) (c u : String) :
    (GuardCall.claimOrRefresh c u).exec g s = (s.claim g.guardTtlSec (g.key c) u, s.free (g.key c) u) := by
  simp only [GuardCall.exec, RedisConversationOwnershipGuard.claimOrRefresh, luaClaimOrRefresh,
    Lease.State.claim, Lease.State.free, decide_eq_true_eq]
  split
  · next h => simp [h]
  · next h => simp [h]

theorem exec_release (g : RedisConversationOwnershipGuard) (s : Lease.State String String) (c u : String) :
    ((GuardCall.release c u).exec g s).1 = s.release (g.key c) u := rfl

theorem exec_sound {s : Lease.State String String} (h : Lease.Sound site.guard.guardTtlSec s)
    (g : GuardCall) : Lease.Sound site.guard.guardTtlSec (g.exec site.guard s).1 := by
  cases g with
  | claimOrRefresh c u => rw [exec_claim]; exact h.claim _ _
  | release c u => rw [exec_release]; exact h.release _ _

/-- A claim that is answered `OWNED` is a grant. -/
theorem exec_owned {s : Lease.State String String} {c u : String}
    (h : ((GuardCall.claimOrRefresh c u).exec site.guard s).2 = true) :
    ((GuardCall.claimOrRefresh c u).exec site.guard s).1.Granted (site.guard.key c) u := by
  rw [exec_claim] at h ⊢
  refine ⟨s.clock, ?_⟩
  simp only [Lease.State.claim]
  rw [if_pos h]
  exact List.mem_cons_self

/-- Only a release is noted as one. -/
theorem exec_released {s : Lease.State String String} {g : GuardCall} {k u : String}
    (h : (k, u) ∈ (g.exec site.guard s).1.released) :
    (k, u) ∈ s.released ∨ ∃ c, k = site.guard.key c ∧ g = .release c u := by
  cases g with
  | claimOrRefresh c u' => exact .inl h
  | release c u' =>
    rcases List.mem_cons.1 h with heq | h
    · obtain ⟨rfl, rfl⟩ := Prod.mk.inj heq
      exact .inr ⟨c, rfl, rfl⟩
    · exact .inl h

/-! ### Soundness is kept -/

theorem mem_wire_set {k : ℕ} {g g' : GuardCall} {a a' : Option Bool}
    (h : ⟨g', a'⟩ ∈ w.wire.set k ⟨g, a⟩) : ⟨g', a'⟩ ∈ w.wire ∨ g' = g ∧ a' = a := by
  rcases List.mem_or_eq_of_mem_set h with h | h
  · exact .inl h
  · obtain ⟨rfl, rfl⟩ := Command.mk.inj h
    exact .inr ⟨rfl, rfl⟩

/-- An executed command stays on the wire. -/
theorem mem_wire_executed {k : ℕ} {g g' : GuardCall} {b b' : Bool} (hk : w.wire[k]? = some ⟨g, none⟩)
    (h : ⟨g', some b'⟩ ∈ w.wire) : ⟨g', some b'⟩ ∈ w.wire.set k ⟨g, some b⟩ := by
  obtain ⟨j, hj⟩ := List.mem_iff_getElem?.1 h
  refine List.mem_of_getElem? (i := j) ?_
  rw [List.getElem?_set_ne, hj]
  rintro rfl
  rw [hk] at hj
  cases hj

/-- A handler that was stepped and still waits did so before. -/
theorem step_pending {w : World site.deps} {e : Event} {n : ℕ} {h : Handler site.deps}
    (hh : (w.step e).handlers[n]? = some h) (hp : h.pending ≠ none) (he : ∀ s, e ≠ .submit s) :
    ∃ h', w.handlers[n]? = some h' ∧ h'.pending ≠ none := by
  rcases World.step_getElem? hh with hh | ⟨s, rfl, -⟩ | ⟨h', -, -, rfl⟩ | ⟨h', c, -, -, -, hh', hc, -⟩
  · exact ⟨h, hh, hp⟩
  · exact absurd rfl (he s)
  · exact absurd (if_pos rfl) hp
  · exact ⟨h', hh', by rw [hc]; nofun⟩

/-- What happens to the connections: they stay, in a larger cluster, and one of them moves. -/
theorem sane_set {id : ℕ} {x' : Connection site} (h : ∀ x ∈ w.conns, x.Sane w) (hw : w.Grows w')
    (hx' : x'.Sane w') (hconns : w'.conns = w.conns.set id x') : ∀ x ∈ w'.conns, x.Sane w' := by
  intro y hy
  rw [hconns] at hy
  rcases List.mem_or_eq_of_mem_set hy with hy | rfl
  · exact (h y hy).grow hw
  · exact hx'

/-- What one connection satisfies, one does when a connection moves that keeps it. -/
theorem exists_set {P : Connection site → Prop} {id : ℕ} {x x' : Connection site}
    (hx : w.conns[id]? = some x) (h : ∃ y ∈ w.conns, P y) (hx' : P x → P x') :
    ∃ y ∈ w.conns.set id x', P y := by
  obtain ⟨y, hy, hP⟩ := h
  obtain ⟨j, hj⟩ := List.mem_iff_getElem?.1 hy
  by_cases hid : id = j
  · subst hid
    obtain rfl : x = y := Option.some.inj (hx.symm.trans hj)
    exact ⟨x', List.mem_of_getElem? (List.getElem?_set_self (List.getElem?_eq_some_iff.1 hj).1), hx' hP⟩
  · exact ⟨y, List.mem_of_getElem? ((List.getElem?_set_ne hid).trans hj), hP⟩

/-- **Soundness is kept by every step.** -/
theorem Sound.happens (h : w.Sound) (hw : w.Happens e w') : w'.Sound := by
  have hgrow := hw.grows
  cases hw with
  | idle => exact h
  | connected scope frames rounds =>
    refine ⟨fun y hy => ?_, h.granted, h.released, h.leases, fun n hd hn hp => ?_⟩
    · rcases List.mem_append.1 hy with hy | hy
      · exact (h.conns y hy).grow hgrow
      · rw [List.mem_singleton.1 hy]
        exact Connection.start_sane scope frames rounds
    · obtain ⟨y, hy, hyn⟩ := h.handlers n hd hn hp
      exact ⟨y, List.mem_append_left _ hy, hyn⟩
  | @issued id who x g hx hi hp =>
    have hsane := (h.conns x (List.mem_of_getElem? hx)).issue hp hgrow rfl
    refine ⟨sane_set h.conns hgrow hsane rfl, fun c u hcu => ?_, fun k u hku => ?_, h.leases,
      fun n hd hn hpn => exists_set hx (h.handlers n hd hn hpn) ?_⟩
    · rcases List.mem_append.1 hcu with hcu | hcu
      · exact h.granted c u hcu
      · cases List.mem_singleton.1 hcu
    · obtain ⟨c, b, hk, hcu⟩ := h.released k u hku
      exact ⟨c, b, hk, List.mem_append_left _ hcu⟩
    · rw [Connection.handler_issue]
      intro hxn; exact hxn
  | @executed k g hk =>
    refine ⟨fun y hy => (h.conns y hy).grow hgrow, fun c u hcu => ?_, fun k' u hku => ?_,
      exec_sound h.leases g, h.handlers⟩
    · rcases mem_wire_set hcu with hcu | ⟨rfl, hb⟩
      · exact hgrow.granted _ _ (h.granted c u hcu)
      · exact exec_owned (Option.some.inj hb).symm
    · rcases exec_released hku with hku | ⟨c, hkey, rfl⟩
      · obtain ⟨c, b, hkey, hcu⟩ := h.released k' u hku
        exact ⟨c, b, hkey, mem_wire_executed hk hcu⟩
      · exact ⟨c, _, hkey, List.mem_of_getElem? (List.getElem?_set_self (List.getElem?_eq_some_iff.1 hk).1)⟩
  | @submitted id who answer x raw c hx hp hh =>
    obtain rfl := Connection.main_of_handleMessage hp
    have hlast : ∀ m hd, (w.world.step (.submit ⟨raw, c⟩)).handlers[m]? = some hd →
        w.world.handlers[m]? = some hd ∨ m = w.world.handlers.length := by
      intro m hd hm
      simp only [World.step, List.getElem?_append, List.getElem?_singleton] at hm
      split_ifs at hm with h1 h2
      · exact .inl hm
      · right; omega
    have hsub : (w.world.step (.submit ⟨raw, c⟩)).submissions[w.world.handlers.length]? = some ⟨raw, c⟩ := by
      rw [World.step_submissions]
      simp [World.submissions]
    have hsane := (h.conns x (List.mem_of_getElem? hx)).submit hp hgrow hsub
    refine ⟨sane_set h.conns hgrow hsane rfl, h.granted, h.released, h.leases, fun n hd hn hpn => ?_⟩
    rcases hlast n hd hn with hn | rfl
    · refine exists_set hx (h.handlers n hd hn hpn) fun hxn => ?_
      rw [hh] at hxn; cases hxn
    · exact ⟨_, List.mem_of_getElem? (List.getElem?_set_self (List.getElem?_eq_some_iff.1 hx).1), rfl⟩
  | @resumed id who answer answer' x i hx hp hr =>
    have hxs := h.conns x (List.mem_of_getElem? hx)
    have hsane : (x.resume answer' who i).Sane (w.resume id x who answer' i) := by
      cases who with
      | refresh => exact hxs.resume_refresh hgrow hp
      | main =>
        refine hxs.resume_main hgrow hp (fun c u hi => ?_) fun u hi => ?_
        · obtain ⟨rfl, hi⟩ := Sigma.mk.inj hi
          exact h.granted c u (hxs.owned hp (reply_guard hr (eq_of_heq hi)))
        · obtain ⟨rfl, hi⟩ := Sigma.mk.inj hi
          obtain rfl := eq_of_heq hi
          exact List.mem_append_left _ (List.mem_singleton.2 rfl)
    refine ⟨sane_set h.conns hgrow hsane rfl, h.granted, h.released, h.leases, fun n hd hn hpn => ?_⟩
    refine exists_set hx (h.handlers n hd hn hpn) fun hxn => ?_
    -- the handler has not answered, so its connection waits on
    rw [Connection.handler_resume fun raw c hi => ?_]
    · exact hxn
    · subst hi
      obtain ⟨r, hr, -⟩ := Option.map_eq_some_iff.1 hr
      obtain ⟨m, hm, hr⟩ := Option.bind_eq_some_iff.1 hr
      obtain ⟨hd', hn', hres⟩ := Option.bind_eq_some_iff.1 hr
      obtain rfl : n = m := Option.some.inj (hxn.symm.trans hm)
      obtain rfl : hd = hd' := Option.some.inj (hn.symm.trans hn')
      exact hpn (hd.pending_of_result hres)
  | handled n fate now =>
    refine ⟨fun y hy => (h.conns y hy).grow hgrow, h.granted, h.released, h.leases, fun n hd hn hp => ?_⟩
    obtain ⟨hd', hn', hp'⟩ := step_pending hn hp fun _ => Event.noConfusion
    exact h.handlers n hd' hn' hp'
  | ticked =>
    refine ⟨fun y hy => (h.conns y hy).grow hgrow, h.granted, h.released, h.leases.tick, fun n hd hn hp => ?_⟩
    obtain ⟨hd', hn', hp'⟩ := step_pending hn hp fun _ => Event.noConfusion
    exact h.handlers n hd' hn' hp'

/-- **Every reachable cluster is sound.** -/
theorem run_sound (es : List ClusterEvent) : (after site es).Sound :=
  run_inv (fun w e h => h.happens (w.step_happens e)) init_sound

/-! ### Tokens of their own -/

/-- Where tokens are drawn once, connections have different ones, and who releases is on its
way out. -/
structure Sole (w : Cluster site) : Prop where
  tokens : ∀ (i j : ℕ) (x y : Connection site) u, w.conns[i]? = some x → w.conns[j]? = some y →
    x.conduct.token = some u → y.conduct.token = some u → i = j
  leaving : ∀ c u a, ⟨.release c u, a⟩ ∈ w.wire → ∃ x ∈ w.conns, x.conduct.token = some u ∧ x.Leaving c u

theorem init_sole : (init : Cluster site).Sole :=
  ⟨fun i _ _ _ _ h => by simp [init] at h, fun _ _ _ h => absurd h List.not_mem_nil⟩

/-- Tokens stay different when a connection moves that draws none, or a new one. -/
theorem Sole.tokens_set (h : w.Sole) {id : ℕ} {x x' : Connection site} (hx : w.conns[id]? = some x)
    (hx' : ∀ u, x'.conduct.token = some u → x.conduct.token = some u ∨
      ∀ y ∈ w.conns, y.conduct.token ≠ some u) {i j : ℕ} {y z : Connection site} {u : String}
    (hy : (w.conns.set id x')[i]? = some y) (hz : (w.conns.set id x')[j]? = some z)
    (hyu : y.conduct.token = some u) (hzu : z.conduct.token = some u) : i = j := by
  have hlt := (List.getElem?_eq_some_iff.1 hx).1
  -- the changed connection has its old token, or one that nobody has
  by_cases hi : id = i
  · by_cases hj : id = j
    · exact hi.symm.trans hj
    · subst hi
      rw [List.getElem?_set_self hlt] at hy
      obtain rfl := Option.some.inj hy
      rw [List.getElem?_set_ne hj] at hz
      rcases hx' u hyu with hold | hnew
      · exact h.tokens _ _ _ _ u hx hz hold hzu
      · exact absurd hzu (hnew z (List.mem_of_getElem? hz))
  · rw [List.getElem?_set_ne hi] at hy
    by_cases hj : id = j
    · subst hj
      rw [List.getElem?_set_self hlt] at hz
      obtain rfl := Option.some.inj hz
      rcases hx' u hzu with hold | hnew
      · exact h.tokens _ _ _ _ u hy hx hyu hold
      · exact absurd hyu (hnew y (List.mem_of_getElem? hy))
    · rw [List.getElem?_set_ne hj] at hz
      exact h.tokens _ _ _ _ u hy hz hyu hzu

/-- **Tokens drawn once stay different.** -/
theorem Sole.happens (h : w.Sole) (hs : w.Sound) (hf : w.Fresh e) (hw : w.Happens e w') : w'.Sole := by
  cases hw with
  | idle | handled | ticked => exact ⟨h.tokens, h.leaving⟩
  | connected scope frames rounds =>
    -- a new connection has no token
    have hnew : ∀ (i : ℕ) (y : Connection site) u,
        (w.conns ++ [Connection.start scope frames rounds])[i]? = some y →
        y.conduct.token = some u → w.conns[i]? = some y := by
      intro i y u hy hyu
      rw [List.getElem?_append, List.getElem?_singleton] at hy
      split_ifs at hy with h1 h2
      · exact hy
      · obtain rfl := Option.some.inj hy
        cases hyu
    refine ⟨fun i j y z u hy hz hyu hzu => ?_, fun c u a hcu => ?_⟩
    · exact h.tokens i j y z u (hnew i y u hy hyu) (hnew j z u hz hzu) hyu hzu
    · obtain ⟨y, hy, hleaving⟩ := h.leaving c u a hcu
      exact ⟨y, List.mem_append_left _ hy, hleaving⟩
  | @issued id who x g hx hi hp =>
    -- who issues a release is on its way out
    have htoken := Connection.conduct_issue (x := x) w.wire.length who
    refine ⟨fun i j y z u => h.tokens_set hx fun u hu => .inl (by rwa [htoken] at hu), fun c u a hcu => ?_⟩
    rcases List.mem_append.1 hcu with hcu | hcu
    · refine exists_set hx (h.leaving c u a hcu) fun ⟨hu, hl⟩ => ⟨by rwa [htoken], hl.issue⟩
    · obtain ⟨rfl, rfl⟩ := Command.mk.inj (List.mem_singleton.1 hcu)
      obtain ⟨hu, hl⟩ := (hs.conns x (List.mem_of_getElem? hx)).leaving hp
      exact ⟨_, List.mem_of_getElem? (List.getElem?_set_self (List.getElem?_eq_some_iff.1 hx).1),
        by rwa [htoken], hl.issue⟩
  | @executed k g hk =>
    refine ⟨h.tokens, fun c u a hcu => ?_⟩
    rcases mem_wire_set hcu with hcu | ⟨rfl, -⟩
    · exact h.leaving c u a hcu
    · exact h.leaving c u none (List.mem_of_getElem? hk)
  | @submitted id who answer x raw c hx hp hh =>
    have htoken : ∀ u, ({ x with handler := some w.world.handlers.length } : Connection site).conduct.token =
        some u → x.conduct.token = some u ∨ ∀ y ∈ w.conns, y.conduct.token ≠ some u := fun u hu => .inl hu
    exact ⟨fun i j y z u => h.tokens_set hx htoken,
      fun c u a hcu => exists_set hx (h.leaving c u a hcu) fun hl => hl⟩
  | @resumed id who answer answer' x i hx hp hr =>
    refine ⟨fun j j' y z u => h.tokens_set hx fun u hu => ?_, fun c u a hcu => ?_⟩
    · rcases Connection.token_resume hp hu with hold | ⟨rfl, rfl⟩
      · exact .inl hold
      · -- a token drawn just now nobody has
        obtain rfl : answer = answer' := Option.some.inj hr
        have hpending : w.pending id who = some .uuid4 := by simp [pending, hx, hp]
        have hfresh : answer .uuid4 ∉ w.tokens := hf _ (by rw [hpending]; rfl)
        exact .inr fun y hy hyu => hfresh ((hs.conns y hy).token _ hyu)
    · exact exists_set hx (h.leaving c u a hcu) fun ⟨hu, hl⟩ =>
        ⟨Connection.token_of_resume hp hu, hl.resume hp⟩

/-- **In every run with tokens drawn once, connections have different ones.** -/
theorem run_sole {es : List ClusterEvent} (h : Along step Fresh (init : Cluster site) es) :
    (after site es).Sound ∧ (after site es).Sole :=
  along_inv (I := fun w => w.Sound ∧ w.Sole)
    (fun w e hw hf => ⟨hw.1.happens (w.step_happens e), hw.2.happens hw.1 hf (w.step_happens e)⟩)
    ⟨init_sound, init_sole⟩ h

end Cluster

end Transcribe
