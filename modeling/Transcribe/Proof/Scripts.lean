import Transcribe.Model.Scripts

/-!
# Every call is one script

Above the digests there is a simple machine: a call runs its script once, at one moment, or it is
refused and nothing happens.

* `program_sat`: watched by itself, a call sets a field only to the digest of that field's script,
  and runs a script only under its own digest, with its own key and arguments, and at most once.
* `Consistent.step`: the fields hold the digests of their scripts, whatever the callers do and
  whenever Redis forgets.
* `calls_atomic`: **every run is a run of the simple machine**, and a call that has returned has
  what its script returned, or has raised `NoScriptError` without having run one.
-/

namespace Transcribe

open Resumption EventSystem Relation

/-! ## The simple machine -/

/-- A call runs, all at once. -/
def Operation.exec (r : RedisClients) (db : RedisDb) : Operation → RedisDb × MethodResult
  | .prepare c seq =>
    let p := r.sm.prepare db.sequences c seq
    ({ db with sequences := p.1 }, .outcome p.2)
  | .commit c seq => ({ db with sequences := r.sm.commit db.sequences c seq }, .none)
  | .cleanup c => ({ db with sequences := r.sm.cleanup db.sequences c }, .none)
  | .claimOrRefresh c token =>
    let p := r.guard.claimOrRefresh db.owners c token
    ({ db with owners := p.1 }, .owned p.2)
  | .release c token => ({ db with owners := r.guard.release db.owners c token }, .none)

/-- The keys, and the calls with their outcomes. -/
structure AtomicCalls where
  db : RedisDb
  calls : List (Operation × Option (Except ScriptExc MethodResult))

/-- A call is made; it runs, and has its result; or it is refused; or the keys change elsewhere. -/
inductive AtomicCalls.Step (r : RedisClients) : AtomicCalls → AtomicCalls → Prop
  | call {m} (op : Operation) : Step r m { m with calls := m.calls ++ [(op, none)] }
  | execute {m} (id : ℕ) (op : Operation) (h : m.calls[id]? = some (op, none)) :
    Step r m ⟨(op.exec r m.db).1, m.calls.set id (op, some (.ok (op.exec r m.db).2))⟩
  | refuse {m} (id : ℕ) (op : Operation) (h : m.calls[id]? = some (op, none)) :
    Step r m { m with calls := m.calls.set id (op, some (.error .noScriptError)) }
  | elsewhere {m} (db : RedisDb) : Step r m { m with db := db }

/-! ## A call by itself -/

variable {r : RedisClients}

namespace Operation

/-- The script of a method. -/
def script : Operation → LuaScript
  | .prepare .. => .prepare
  | .commit .. => .commit
  | .cleanup _ => .cleanup
  | .claimOrRefresh .. => .claimOrRefresh
  | .release .. => .releaseIfOwner

def key (r : RedisClients) : Operation → String
  | .prepare c _ | .commit c _ | .cleanup c => r.sm.key c
  | .claimOrRefresh c _ | .release c _ => r.guard.key c

def args (r : RedisClients) : Operation → List RedisEvalArg
  | .prepare _ seq | .commit _ seq => [.int seq, .int r.sm.activeTtl]
  | .cleanup _ => [.int r.sm.finalTtl]
  | .claimOrRefresh _ token => [.str token, .int r.guard.guardTtlSec]
  | .release _ token => [.str token]

/-- What a method makes of the reply of its script. -/
def read : Operation → LuaReply → Except ScriptExc MethodResult
  | .prepare .., reply => RedisSequenceStateMachine.parsePrepareResult reply
  | .claimOrRefresh .., reply => .ok (.owned (decide (reply = .status "OWNED")))
  | .commit .., _ | .cleanup _, _ | .release .., _ => .ok .none

/-- **The script of a method, with its key and its arguments, does what the method is for.** -/
theorem run_script (op : Operation) (db : RedisDb) :
    (op.script.run db (op.key r) (op.args r)).1 = (op.exec r db).1 ∧
      op.read (op.script.run db (op.key r) (op.args r)).2 = .ok (op.exec r db).2 := by
  cases op with
  | prepare c seq => exact ⟨rfl, rfl⟩
  | commit c seq => exact ⟨rfl, rfl⟩
  | cleanup c => exact ⟨rfl, rfl⟩
  | claimOrRefresh c token =>
    refine ⟨rfl, ?_⟩
    have howned : ∀ b : Bool, decide (LuaReply.status (if b then "OWNED" else "BUSY") = .status "OWNED") = b := by
      decide
    exact congrArg (fun b => Except.ok (MethodResult.owned b)) (howned _)
  | release c token => exact ⟨rfl, rfl⟩

end Operation

/-- A script that has run. -/
structure Execution where
  digest : String
  key : String
  args : List RedisEvalArg
  reply : LuaReply
deriving DecidableEq

/-- What has been seen of a call: whether Redis and the fields have kept to the digests, whether
the field of its script has been set, and the scripts it has run. -/
structure Watch where
  valid : Prop
  seen : Prop
  ran : List Execution

variable (sha : LuaScript → String) (op : Operation)

/-- What has been seen after a reply. A reply is valid if it is the digest asked for, if a field
that was set still is, and if the method can read the result. -/
def Watch.next (z : Watch) : (i : ScriptCall) → ScriptReply i → Watch
  | .digest s, none => { z with valid := z.valid ∧ ¬ (s = op.script ∧ z.seen) }
  | .digest s, some d => { z with valid := z.valid ∧ d = sha s, seen := z.seen ∨ s = op.script }
  | .setDigest s _, _ => { z with seen := z.seen ∨ s = op.script }
  | .scriptLoad s, d => { z with valid := z.valid ∧ d = sha s }
  | .evalsha d key args, some reply =>
    { z with valid := z.valid ∧ ∃ out, op.read reply = .ok out, ran := z.ran ++ [⟨d, key, args, reply⟩] }
  | .evalsha .., none => z

/-- What a call may do. -/
def Watch.Ok (r : RedisClients) (z : Watch) : ScriptCall → Prop
  | .setDigest s d => d = sha s
  | .evalsha d key args => z.ran = [] ∧ d = sha op.script ∧ key = op.key r ∧ args = op.args r
  | _ => True

def watch (r : RedisClients) : Monitor ScriptCall ScriptReply Watch :=
  ⟨fun z i => z.valid → z.Ok sha op r i, Watch.next sha op⟩

def Watch.init : Watch := ⟨True, False, []⟩

/-- The outcome of a call: the result of its script, or `NoScriptError` without a script. -/
def Watch.Done (r : RedisClients) (z : Watch) (out : Except ScriptExc MethodResult) : Prop :=
  z.valid → (∃ reply, z.ran = [⟨sha op.script, op.key r, op.args r, reply⟩] ∧ out = op.read reply) ∨
    (out = .error .noScriptError ∧ z.ran = [])

section Program

variable {sha op} {z : Watch} {Q : Watch → Except ScriptExc Unit → Prop}

/-- Afterwards the field of the script has been set. -/
theorem ensureScriptLoaded_sat (s : LuaScript)
    (h : ∀ z' : Watch, z'.ran = z.ran → (z.seen ∨ s = op.script → z'.seen) → Q z' (.ok ())) :
    (watch sha op r).Sat (Scripted.ensureScriptLoaded s).run z Q := by
  unfold Scripted.ensureScriptLoaded
  refine Monitor.sat_lift_bind.2 ⟨fun _ => trivial, fun (found : Option String) => ?_⟩
  cases found with
  | some d => exact h _ rfl id
  | none =>
    refine Monitor.sat_lift_bind.2 ⟨fun _ => trivial, fun (d : String) => ?_⟩
    exact ⟨fun hvalid => hvalid.2, fun _ => h _ rfl id⟩

theorem ensureThen_sat (s : LuaScript) {m : Scripted Unit}
    (h : ∀ z' : Watch, z'.ran = z.ran → (z.seen ∨ s = op.script → z'.seen) → (watch sha op r).Sat m.run z' Q) :
    (watch sha op r).Sat (Scripted.ensureScriptLoaded s >>= fun _ => m).run z Q :=
  Monitor.sat_exceptT_bind.2 (ensureScriptLoaded_sat s h)

/-- `_ensure_scripts_loaded` of the state machine sets the fields of its three scripts. -/
theorem ensureSequenceScripts_sat (hown : op.script = .prepare ∨ op.script = .commit ∨ op.script = .cleanup)
    (h : ∀ z' : Watch, z'.ran = z.ran → z'.seen → Q z' (.ok ())) :
    (watch sha op r).Sat RedisSequenceStateMachine.ensureScriptsLoaded.run z Q := by
  refine ensureThen_sat .prepare fun z₁ hran₁ hseen₁ => ensureThen_sat .commit fun z₂ hran₂ hseen₂ =>
    ensureScriptLoaded_sat .cleanup fun z₃ hran₃ hseen₃ => h z₃ ((hran₃.trans hran₂).trans hran₁) ?_
  rcases hown with hown | hown | hown
  · exact hseen₃ (.inl (hseen₂ (.inl (hseen₁ (.inr hown.symm)))))
  · exact hseen₃ (.inl (hseen₂ (.inr hown.symm)))
  · exact hseen₃ (.inr hown.symm)

/-- `_ensure_scripts_loaded` of the guard sets the fields of its two scripts. -/
theorem ensureGuardScripts_sat (hown : op.script = .claimOrRefresh ∨ op.script = .releaseIfOwner)
    (h : ∀ z' : Watch, z'.ran = z.ran → z'.seen → Q z' (.ok ())) :
    (watch sha op r).Sat RedisConversationOwnershipGuard.ensureScriptsLoaded.run z Q := by
  refine ensureThen_sat .claimOrRefresh fun z₁ hran₁ hseen₁ =>
    ensureScriptLoaded_sat .releaseIfOwner fun z₂ hran₂ hseen₂ => h z₂ (hran₂.trans hran₁) ?_
  rcases hown with hown | hown
  · exact hseen₂ (.inl (hseen₁ (.inr hown.symm)))
  · exact hseen₂ (.inr hown.symm)

/-- **The load and retry path**, with what the method makes of the reply. -/
theorem evalOwn_sat {ensure : Scripted Unit} {k : LuaReply → Scripted MethodResult}
    (hensure : ∀ {Q : Watch → Except ScriptExc Unit → Prop},
      (∀ z' : Watch, z'.ran = z.ran → z'.seen → Q z' (.ok ())) → (watch sha op r).Sat ensure.run z Q)
    (hk : ∀ reply, (k reply).run = .ret (op.read reply)) (hran : z.ran = []) :
    (watch sha op r).Sat (Scripted.evalOwn ensure op.script (op.key r) (op.args r) >>= k).run z
      fun z' out => z'.Done sha op r out := by
  have hread : ∀ (z' : Watch) (d : String) (reply : LuaReply), z'.ran = [] → (z'.valid → d = sha op.script) →
      (watch sha op r).Sat (k reply).run
        (z'.next sha op (.evalsha d (op.key r) (op.args r)) (some reply)) fun z' out => z'.Done sha op r out := by
    intro z' d reply hran' hd
    rw [hk]
    intro hvalid
    refine .inl ⟨reply, ?_, rfl⟩
    show z'.ran ++ [_] = _
    rw [hran', List.nil_append, hd hvalid.1]
  refine Monitor.sat_exceptT_bind.2 ?_
  unfold Scripted.evalOwn
  refine Monitor.sat_exceptT_bind.2 (hensure fun z' hran' hseen => ?_)
  rw [hran] at hran'
  refine Monitor.sat_lift_bind.2 ⟨fun _ => trivial, fun (found : Option String) => ?_⟩
  cases found with
  | none =>
    -- the field of the own script has been set, so this reply is not valid
    exact fun hvalid => absurd ⟨rfl, hseen⟩ hvalid.2
  | some d =>
    refine Monitor.sat_lift_bind.2 ⟨fun hvalid => ⟨hran', hvalid.2, rfl, rfl⟩, fun (first : Option LuaReply) => ?_⟩
    cases first with
    | some reply => exact hread _ d reply hran' fun hvalid => hvalid.2
    | none =>
      refine Monitor.sat_lift_bind.2 ⟨fun _ => trivial, fun (d' : String) => ?_⟩
      refine Monitor.sat_lift_bind.2 ⟨fun hvalid => hvalid.2, fun _ => ?_⟩
      refine Monitor.sat_lift_bind.2 ⟨fun hvalid => ⟨hran', hvalid.2, rfl, rfl⟩, fun (second : Option LuaReply) => ?_⟩
      cases second with
      | some reply => exact hread _ d' reply hran' fun hvalid => hvalid.2
      | none => exact fun _ => .inr ⟨rfl, hran'⟩

/-- **A call by itself**: it runs its own script at most once, and returns what that said. -/
theorem program_sat (op : Operation) (hran : z.ran = []) :
    (watch sha op r).Sat (r.program op) z fun z' out => z'.Done sha op r out := by
  cases op with
  | prepare c seq =>
    exact @evalOwn_sat r sha (.prepare c seq) z _ _ (ensureSequenceScripts_sat (.inl rfl)) (fun _ => rfl) hran
  | commit c seq =>
    exact @evalOwn_sat r sha (.commit c seq) z _ _ (ensureSequenceScripts_sat (.inr (.inl rfl))) (fun _ => rfl) hran
  | cleanup c =>
    exact @evalOwn_sat r sha (.cleanup c) z _ _ (ensureSequenceScripts_sat (.inr (.inr rfl))) (fun _ => rfl) hran
  | claimOrRefresh c token =>
    exact @evalOwn_sat r sha (.claimOrRefresh c token) z _ _ (ensureGuardScripts_sat (.inl rfl)) (fun _ => rfl) hran
  | release c token =>
    exact @evalOwn_sat r sha (.release c token) z _ _ (ensureGuardScripts_sat (.inr rfl)) (fun _ => rfl) hran

end Program

/-! ## Any number of calls -/

/-- The script that a command has run. -/
def Execution.ofCall : (Σ i, ScriptReply i) → Option Execution
  | ⟨.evalsha d key args, some reply⟩ => some ⟨d, key, args, reply⟩
  | _ => none

namespace ScriptTask

variable (x : ScriptTask r)

/-- The value of a call that has returned, or what it has raised. -/
def result : Option (Except ScriptExc MethodResult) := x.thread.rest.result

/-- The scripts the call has run. -/
def executions : List Execution := x.thread.trace.filterMap Execution.ofCall

/-- The outcome of the call in the simple machine: its script has run, or it was refused. -/
def outcome : Option (Except ScriptExc MethodResult) :=
  match x.executions, x.result with
  | e :: _, _ => some (x.op.read e.reply)
  | [], some (.error e) => some (.error e)
  | [], _ => none

/-- What has been seen of the call. -/
def watched : Watch := x.thread.state (watch sha x.op r) Watch.init

end ScriptTask

/-- The simple machine at this moment. -/
def ScriptSystem.atomic (w : ScriptSystem r) : AtomicCalls := ⟨w.server.db, w.tasks.map fun x => (x.op, x.outcome)⟩

section System

variable {sha op} {x : ScriptTask r} {w : ScriptSystem r}

theorem ran_next (z : Watch) (i : ScriptCall) (reply : ScriptReply i) :
    (z.next sha op i reply).ran = z.ran ++ (Execution.ofCall ⟨i, reply⟩).toList := by
  cases i with
  | digest s =>
    cases (reply : Option String) <;> exact (List.append_nil _).symm
  | setDigest s d => exact (List.append_nil _).symm
  | scriptLoad s => exact (List.append_nil _).symm
  | evalsha d key args =>
    cases (reply : Option LuaReply) with
    | none => exact (List.append_nil _).symm
    | some reply => rfl

theorem ran_after (τ : List (Σ i, ScriptReply i)) (z : Watch) :
    ((watch sha op r).after z τ).ran = z.ran ++ τ.filterMap Execution.ofCall := by
  induction τ generalizing z with
  | nil => exact (List.append_nil _).symm
  | cons e τ ih =>
    have hcons : (watch sha op r).after z (e :: τ) = (watch sha op r).after (z.next sha op e.1 e.2) τ := rfl
    rw [hcons, ih, ran_next, List.append_assoc, List.filterMap_cons]
    cases Execution.ofCall e <;> rfl

/-- What has been seen of a call is what it has run. -/
theorem ScriptTask.ran_watched : (x.watched sha).ran = x.executions := ran_after _ _

/-- A command that has run a script. -/
theorem Execution.of_some {i : ScriptCall} {reply : ScriptReply i} {e : Execution}
    (h : Execution.ofCall ⟨i, reply⟩ = some e) : ∃ d key args lua, (⟨i, reply⟩ : Σ i, ScriptReply i) =
      ⟨.evalsha d key args, some lua⟩ ∧ e = ⟨d, key, args, lua⟩ := by
  cases i with
  | digest s => cases h
  | setDigest s d => cases h
  | scriptLoad s => cases h
  | evalsha d key args =>
    cases (reply : Option LuaReply) with
    | none => cases h
    | some lua => exact ⟨d, key, args, lua, rfl, (Option.some.inj h).symm⟩

/-- The fields hold the digests of their scripts, and Redis has answered with such. -/
structure Consistent (sha : LuaScript → String) (w : ScriptSystem r) : Prop where
  digests : ∀ s d, w.digests s = some d → d = sha s
  valid : ∀ x ∈ w.tasks, (x.watched sha).valid
  seen : ∀ x ∈ w.tasks, (x.watched sha).seen → w.digests x.op.script ≠ none

theorem consistent_init (db : RedisDb) : Consistent sha (ScriptSystem.init db : ScriptSystem r) :=
  ⟨nofun, nofun, nofun⟩

/-- Under the digest of a script Redis has that script, or none. -/
theorem scriptOf_sha (hsha : Function.Injective sha) {s s' : LuaScript} (h : w.scriptOf sha (sha s) = some s') :
    s' = s := hsha (of_decide_eq_true (List.find?_some (p := fun t => decide (sha t = sha s)) h))

/-- The call goes on with the reply of the system. -/
def ScriptSystem.advanced (sha : LuaScript → String) (w : ScriptSystem r) (x : ScriptTask r) : ScriptTask r :=
  { x with thread := x.thread.advance (w.reply sha) }

variable {i : ScriptCall}

theorem assigned_setDigest (s s' : LuaScript) (d : String) :
    w.assigned (.setDigest s d) s' = if s' = s then some d else w.digests s' := rfl

/-- **A call goes on**, if there is one that has not returned. -/
theorem proceed_cases (sha : LuaScript → String) (w : ScriptSystem r) (id : ℕ) :
    w.step sha (.proceed id) = w ∨ ∃ x i, w.tasks[id]? = some x ∧ x.thread.rest.pending = some i ∧
      w.step sha (.proceed id) = ⟨w.served sha i, w.assigned i, w.tasks.set id (w.advanced sha x)⟩ := by
  simp only [ScriptSystem.step]
  cases hx : w.tasks[id]? with
  | none => exact .inl rfl
  | some x =>
    cases hi : x.thread.rest.pending with
    | none => exact .inl (by simp only [hi])
    | some i => exact .inr ⟨x, i, rfl, hi, by simp only [hi]; rfl⟩

theorem watched_advanced (hi : x.thread.rest.pending = some i) :
    (w.advanced sha x).watched sha = (x.watched sha).next sha x.op i (w.reply sha i) :=
  Thread.state_advance hi

namespace Consistent

variable (hw : Consistent sha w) (hx : x ∈ w.tasks) (hi : x.thread.rest.pending = some i)

include hw hx hi

/-- A call does what it may. -/
theorem allowed : (x.watched sha).Ok sha x.op r i :=
  x.thread.ok_of_pending (program_sat x.op rfl) hi (hw.valid x hx)

/-- **Redis and the fields keep to the digests.** -/
theorem valid_advanced (hsha : Function.Injective sha) : ((w.advanced sha x).watched sha).valid := by
  have hok := hw.allowed hx hi
  have hvalid := hw.valid x hx
  rw [watched_advanced hi]
  cases i with
  | digest s =>
    show (Watch.next sha x.op _ (.digest s) (w.digests s)).valid
    cases hd : w.digests s with
    | none =>
      refine ⟨hvalid, ?_⟩
      rintro ⟨rfl, hseen⟩
      exact hw.seen x hx hseen hd
    | some d => exact ⟨hvalid, hw.digests s d hd⟩
  | setDigest s d => exact hvalid
  | scriptLoad s => exact ⟨hvalid, rfl⟩
  | evalsha d key args =>
    obtain ⟨-, rfl, rfl, rfl⟩ := hok
    show (Watch.next sha x.op _ (.evalsha _ _ _) ((w.scriptOf sha (sha x.op.script)).map
      fun s => (s.run w.server.db (x.op.key r) (x.op.args r)).2)).valid
    cases hs : w.scriptOf sha (sha x.op.script) with
    | none => exact hvalid
    | some s =>
      -- the server ran the script of the operation, for digests tell scripts apart
      obtain rfl := scriptOf_sha hsha hs
      exact ⟨hvalid, _, (x.op.run_script w.server.db).2⟩

theorem digests_assigned (s : LuaScript) (d : String) (h : w.assigned i s = some d) : d = sha s := by
  have hok := hw.allowed hx hi
  cases i with
  | setDigest s' d' =>
    obtain rfl : d' = sha s' := hok
    rw [assigned_setDigest] at h
    split at h
    · next heq =>
      cases h
      rw [heq]
    · exact hw.digests s d h
  | _ => exact hw.digests s d h

/-- A field that has been set stays set. -/
theorem seen_advanced (h : ((w.advanced sha x).watched sha).seen) : w.assigned i x.op.script ≠ none := by
  have hseen := hw.seen x hx
  rw [watched_advanced hi] at h
  cases i with
  | digest s =>
    have h : (Watch.next sha x.op (x.watched sha) (.digest s) (w.digests s)).seen := h
    show w.digests x.op.script ≠ none
    cases hd : w.digests s with
    | none =>
      rw [hd] at h
      exact hseen h
    | some d =>
      -- the digest read is the one assigned
      rw [hd] at h
      rcases h with h | rfl
      · exact hseen h
      · rw [hd]
        exact nofun
  | setDigest s d =>
    rw [assigned_setDigest]
    split
    · exact nofun
    · next hne =>
      rcases h with h | heq
      · exact hseen h
      · exact absurd heq.symm hne
  | scriptLoad s => exact hseen h
  | evalsha d key args =>
    refine hseen ?_
    have h : (Watch.next sha x.op (x.watched sha) (.evalsha d key args) ((w.scriptOf sha d).map
      fun s => (s.run w.server.db key args).2)).seen := h
    cases hs : w.scriptOf sha d with
    | none =>
      rw [hs] at h
      exact h
    | some s =>
      rw [hs] at h
      exact h

end Consistent

theorem assigned_ne_none (i : ScriptCall) {s : LuaScript} (h : w.digests s ≠ none) : w.assigned i s ≠ none := by
  cases i with
  | setDigest s' d =>
    rw [assigned_setDigest]
    split
    · exact nofun
    · exact h
  | _ => exact h

/-- **Whatever happens, the fields hold the digests of their scripts.** -/
theorem Consistent.step (hsha : Function.Injective sha) (hw : Consistent sha w) (e : ScriptEvent) :
    Consistent sha (w.step sha e) := by
  cases e with
  | call op =>
    refine ⟨hw.digests, fun x hx => ?_, fun x hx => ?_⟩
    · rcases List.mem_append.1 hx with hx | hx
      · exact hw.valid x hx
      · rw [List.mem_singleton.1 hx]
        exact trivial
    · rcases List.mem_append.1 hx with hx | hx
      · exact hw.seen x hx
      · rw [List.mem_singleton.1 hx]
        exact False.elim
  | proceed id =>
    rcases proceed_cases sha w id with heq | ⟨x, i, hx, hi, heq⟩
    · rwa [heq]
    · -- the task that went on, and the others
      have hmem : x ∈ w.tasks := List.mem_of_getElem? hx
      rw [heq]
      refine ⟨hw.digests_assigned hmem hi, fun y hy => ?_, fun y hy => ?_⟩
      · rcases List.mem_or_eq_of_mem_set hy with hy | rfl
        · exact hw.valid y hy
        · exact hw.valid_advanced hmem hi hsha
      · rcases List.mem_or_eq_of_mem_set hy with hy | rfl
        · exact fun hseen => assigned_ne_none i (hw.seen y hy hseen)
        · exact hw.seen_advanced hmem hi
  | flush => exact ⟨hw.digests, hw.valid, hw.seen⟩
  | load s => exact ⟨hw.digests, hw.valid, hw.seen⟩
  | elsewhere db => exact ⟨hw.digests, hw.valid, hw.seen⟩

/-! ## The refinement -/

theorem executions_advanced (hi : x.thread.rest.pending = some i) :
    (w.advanced sha x).executions = x.executions ++ (Execution.ofCall ⟨i, w.reply sha i⟩).toList := by
  have hbefore : (x.watched sha).ran = x.executions := x.ran_watched
  have hafter : ((w.advanced sha x).watched sha).ran = (w.advanced sha x).executions := ScriptTask.ran_watched
  rw [← hafter, watched_advanced hi, ran_next, hbefore]

/-- A call that has not returned and has run nothing is pending in the simple machine. -/
theorem outcome_pending (hi : x.thread.rest.pending = some i) (h : x.executions = []) : x.outcome = none := by
  unfold ScriptTask.outcome ScriptTask.result
  rw [h]
  cases hrest : x.thread.rest with
  | ret out =>
    rw [hrest] at hi
    cases hi
  | call j k => rfl

theorem outcome_start (op : Operation) : (⟨op, .start _⟩ : ScriptTask r).outcome = none := by
  cases op <;> rfl

/-- **A call that has returned** has the outcome it has in the simple machine. -/
theorem Consistent.returned (hw : Consistent sha w) (hx : x ∈ w.tasks) {out : Except ScriptExc MethodResult}
    (h : x.result = some out) : x.outcome = some out ∧
      ((∃ reply, x.executions = [⟨sha x.op.script, x.op.key r, x.op.args r, reply⟩] ∧ x.op.read reply = out) ∨
        (x.executions = [] ∧ out = .error .noScriptError)) := by
  have hdone := x.thread.post_of_result (program_sat x.op rfl) h (hw.valid x hx)
  have hran : (x.thread.state (watch sha x.op r) Watch.init).ran = x.executions := x.ran_watched
  rw [hran] at hdone
  unfold ScriptTask.outcome
  rcases hdone with ⟨reply, hrun, rfl⟩ | ⟨rfl, hrun⟩
  · rw [hrun]
    exact ⟨rfl, .inl ⟨reply, rfl, rfl⟩⟩
  · rw [hrun, h]
    exact ⟨rfl, .inr ⟨rfl, rfl⟩⟩

/-- The keys after `EVALSHA`. -/
theorem served_evalsha (d key : String) (args : List RedisEvalArg) :
    (w.served sha (.evalsha d key args)).db =
      (w.scriptOf sha d).elim w.server.db fun s => (s.run w.server.db key args).1 := by
  simp only [ScriptSystem.served]
  cases w.scriptOf sha d <;> rfl

/-- A command that runs no script leaves the keys alone. -/
theorem served_db (h : Execution.ofCall ⟨i, w.reply sha i⟩ = none) : (w.served sha i).db = w.server.db := by
  cases i with
  | evalsha d key args =>
    rw [served_evalsha]
    cases hs : w.scriptOf sha d with
    | none => rfl
    | some s =>
      have hreply : w.reply sha (.evalsha d key args) = some (s.run w.server.db key args).2 := by
        show (w.scriptOf sha d).map _ = _
        rw [hs]
        rfl
      rw [hreply] at h
      cases h
  | _ => rfl

/-- **A command that runs a script** runs that of its call, for the first time. -/
theorem Consistent.runs (hsha : Function.Injective sha) (hw : Consistent sha w) (hx : x ∈ w.tasks)
    (hi : x.thread.rest.pending = some i) {e : Execution} (h : Execution.ofCall ⟨i, w.reply sha i⟩ = some e) :
    x.executions = [] ∧ (w.served sha i).db = (x.op.exec r w.server.db).1 ∧
      x.op.read e.reply = .ok (x.op.exec r w.server.db).2 := by
  have hok := hw.allowed hx hi
  obtain ⟨d, key, args, lua, heq, rfl⟩ := Execution.of_some h
  obtain rfl : i = .evalsha d key args := congrArg Sigma.fst heq
  obtain ⟨hran, rfl, rfl, rfl⟩ := hok
  have hreply : (w.scriptOf sha (sha x.op.script)).map
      (fun s => (s.run w.server.db (x.op.key r) (x.op.args r)).2) = some lua := eq_of_heq (Sigma.mk.inj heq).2
  refine ⟨ScriptTask.ran_watched.symm.trans hran, ?_⟩
  rw [served_evalsha]
  cases hs : w.scriptOf sha (sha x.op.script) with
  | none =>
    rw [hs] at hreply
    cases hreply
  | some s =>
    obtain rfl := scriptOf_sha hsha hs
    rw [hs] at hreply
    cases hreply
    exact x.op.run_script w.server.db

/-- **Every event is a step of the simple machine, or none.** -/
theorem Consistent.simulates (hsha : Function.Injective sha) (hw : Consistent sha w) (e : ScriptEvent) :
    ReflTransGen (AtomicCalls.Step r) w.atomic (w.step sha e).atomic := by
  cases e with
  | call op =>
    have hcalls : (w.step sha (.call op)).atomic =
        { w.atomic with calls := w.atomic.calls ++ [(op, none)] } := by
      simp only [ScriptSystem.atomic, ScriptSystem.step, List.map_append, List.map_cons, List.map_nil, outcome_start]
    rw [hcalls]
    exact .single (.call op)
  | flush => exact .refl
  | load s => exact .refl
  | elsewhere db => exact .single (.elsewhere db)
  | proceed id =>
    rcases proceed_cases sha w id with heq | ⟨x, i, hx, hi, heq⟩
    · rw [heq]
    · have hmem : x ∈ w.tasks := List.mem_of_getElem? hx
      have hcall : w.atomic.calls[id]? = some (x.op, x.outcome) := by
        unfold ScriptSystem.atomic
        rw [List.getElem?_map, hx]
        rfl
      have hnext : (w.step sha (.proceed id)).atomic =
          ⟨(w.served sha i).db, w.atomic.calls.set id (x.op, (w.advanced sha x).outcome)⟩ := by
        rw [heq]
        unfold ScriptSystem.atomic
        rw [List.map_set]
        rfl
      have hruns := @executions_advanced r sha x w i hi
      rw [hnext]
      cases hrun : Execution.ofCall ⟨i, w.reply sha i⟩ with
      | some e =>
        -- the script of the call runs
        obtain ⟨hnew, hdb, hread⟩ := hw.runs hsha hmem hi hrun
        rw [hrun, hnew] at hruns
        have houtcome : (w.advanced sha x).outcome = some (.ok (x.op.exec r w.server.db).2) := by
          unfold ScriptTask.outcome
          rw [hruns]
          exact congrArg some hread
        rw [outcome_pending hi hnew] at hcall
        rw [houtcome, hdb]
        exact .single (.execute id x.op hcall)
      | none =>
        rw [hrun, Option.toList_none, List.append_nil] at hruns
        rw [served_db hrun]
        have hsame : (w.advanced sha x).outcome = x.outcome →
            ReflTransGen (AtomicCalls.Step r) w.atomic
              ⟨w.server.db, w.atomic.calls.set id (x.op, (w.advanced sha x).outcome)⟩ := by
          intro h
          have hset : w.atomic.calls.set id (x.op, x.outcome) = w.atomic.calls := by
            obtain ⟨hlt, hget⟩ := List.getElem?_eq_some_iff.1 hcall
            rw [← hget, List.set_getElem_self]
          rw [h, hset]
          exact .refl
        cases hran : x.executions with
        | cons e es =>
          refine hsame ?_
          unfold ScriptTask.outcome
          rw [hruns, hran]
          rfl
        | nil =>
          have hold := outcome_pending hi hran
          cases hresult : (w.advanced sha x).result with
          | none =>
            refine hsame ?_
            unfold ScriptTask.outcome at hold ⊢
            rw [hruns, hold, hran, hresult]
          | some out =>
            -- the call raises: it has met `NoScriptError` twice
            have hafter := hw.step hsha (.proceed id)
            rw [heq] at hafter
            have hlt := (List.getElem?_eq_some_iff.1 hx).1
            obtain ⟨houtcome, hdone⟩ := hafter.returned
              (List.mem_of_getElem? (List.getElem?_set_self hlt)) hresult
            rcases hdone with ⟨reply, hrun', -⟩ | ⟨-, rfl⟩
            · rw [hruns, hran] at hrun'
              cases hrun'
            · rw [hold] at hcall
              rw [houtcome]
              exact .single (.refuse id x.op hcall)

end System

/-- **Every run is a run of the simple machine.** A call that has returned has there the outcome it
returned with: it has run its own script once, with its own key and arguments, and returns what
that said, or it has raised `NoScriptError` and run none. -/
theorem calls_atomic {sha : LuaScript → String} (hsha : Function.Injective sha) (r : RedisClients) (db : RedisDb)
    (es : List ScriptEvent) :
    ReflTransGen (AtomicCalls.Step r) ⟨db, []⟩ (ScriptSystem.after sha r db es).atomic ∧
    ∀ x ∈ (ScriptSystem.after sha r db es).tasks, ∀ out, x.result = some out →
      x.outcome = some out ∧
        ((∃ reply, x.executions = [⟨sha x.op.script, x.op.key r, x.op.args r, reply⟩] ∧ x.op.read reply = out) ∨
          (x.executions = [] ∧ out = .error .noScriptError)) := by
  have hrun : Consistent sha (ScriptSystem.after sha r db es) :=
    run_inv (fun _ e hw => hw.step hsha e) (consistent_init db)
  refine ⟨?_, fun x hx out hout => hrun.returned hx hout⟩
  exact run_refines (f := ScriptSystem.atomic) (fun _ e hw => hw.step hsha e)
    (fun _ e hw => hw.simulates hsha e) (consistent_init db)

/-! ## A claim while Redis forgets -/

/-- Digests of the five scripts. -/
def sampleSha : LuaScript → String
  | .prepare => "prepare"
  | .commit => "commit"
  | .cleanup => "cleanup"
  | .claimOrRefresh => "claim"
  | .releaseIfOwner => "release"

theorem sampleSha_injective : Function.Injective sampleSha := by
  intro s s' h
  cases s <;> cases s' <;> first | rfl | exact absurd h (by decide)

/-- Two claims of one conversation; Redis forgets the scripts when the first is about to run its own. -/
def forgetfulRun : List ScriptEvent :=
  [.call (.claimOrRefresh "c" "a"), .call (.claimOrRefresh "c" "b")] ++ List.replicate 7 (.proceed 0) ++
    [.flush] ++ List.replicate 4 (.proceed 0) ++ List.replicate 6 (.proceed 1)

/-- The first claim runs its script at the second try. -/
theorem claim_retried : ∃ x ∈ (ScriptSystem.after sampleSha ⟨.default, .default⟩
      ⟨TtlStore.empty, TtlStore.empty⟩ forgetfulRun).tasks,
    x.op = .claimOrRefresh "c" "a" ∧ x.outcome = some (.ok (.owned true)) ∧ x.executions ≠ [] := by
  obtain ⟨x, hx, hop, hresult⟩ : ∃ x, (ScriptSystem.after sampleSha ⟨.default, .default⟩
      ⟨TtlStore.empty, TtlStore.empty⟩ forgetfulRun).tasks[0]? = some x ∧ x.op = .claimOrRefresh "c" "a" ∧
      x.result = some (.ok (.owned true)) := ⟨_, rfl, rfl, rfl⟩
  have hmem := List.mem_of_getElem? hx
  obtain ⟨houtcome, hdone⟩ := (calls_atomic sampleSha_injective _ _ _).2 x hmem _ hresult
  refine ⟨x, hmem, hop, houtcome, fun hnone => ?_⟩
  rcases hdone with ⟨reply, hrun, -⟩ | ⟨-, hraised⟩
  · rw [hnone] at hrun
    cases hrun
  · cases hraised

end Transcribe
