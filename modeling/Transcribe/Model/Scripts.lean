import Transcribe.Lib.EventSystem
import Transcribe.Lib.Resumption
import Transcribe.Model.Redis

/-!
# Scripts by their digests

The two Redis components run their Lua scripts by digest (`EVALSHA`). The digests are fields of
an instance that all callers share; Redis may forget the scripts at any time, and a call that
meets `NoScriptError` loads its script and tries once more. A call is a program over accesses to
the fields and commands to Redis; any two of these may have another call's between them.

SHA-1 is the parameter `sha`; a script stands for its text.
-/

namespace Transcribe

open Resumption EventSystem

/-! ## Redis -/

/-- The scripts of the two modules. -/
inductive LuaScript | prepare | commit | cleanup | claimOrRefresh | releaseIfOwner
deriving DecidableEq

/-- `RedisEvalArg`, as far as it is used. -/
inductive RedisEvalArg
  | int (n : ℕ)
  | str (s : String)
deriving DecidableEq

/-- What `evalsha` returns: the pair of `LUA_PREPARE`, a status, a number, or the error of a
script with arguments it cannot use. -/
inductive LuaReply
  | pair (outcome : PrepareOutcome)
  | status (text : String)
  | int (n : ℕ)
  | failed
deriving DecidableEq

structure RedisDb where
  sequences : SequenceDb
  owners : OwnershipDb

/-- A script with `KEYS[1]` and `ARGV`. -/
def LuaScript.run (db : RedisDb) (key : String) : LuaScript → List RedisEvalArg → RedisDb × LuaReply
  | .prepare, .int seq :: .int ttl :: _ =>
    let r := luaPrepare db.sequences key seq ttl
    ({ db with sequences := r.1 }, .pair r.2)
  | .commit, .int seq :: .int ttl :: _ => ({ db with sequences := luaCommit db.sequences key seq ttl }, .status "OK")
  | .cleanup, .int finalTtl :: _ => ({ db with sequences := luaCleanup db.sequences key finalTtl }, .status "OK")
  | .claimOrRefresh, .str token :: .int ttl :: _ =>
    let r := luaClaimOrRefresh db.owners key token ttl
    ({ db with owners := r.1 }, .status (if r.2 then "OWNED" else "BUSY"))
  | .releaseIfOwner, .str token :: _ =>
    ({ db with owners := luaReleaseIfOwner db.owners key token },
      .int (if db.owners.get key = some token then 1 else 0))
  | _, _ => (db, .failed)

/-- Redis: the keys, and the scripts it has. -/
structure RedisServer where
  db : RedisDb
  scripts : List LuaScript

/-! ## Calls -/

/-- What a call asks of its environment: a digest field, or a command. -/
inductive ScriptCall
  | digest (s : LuaScript)
  | setDigest (s : LuaScript) (digest : String)
  | scriptLoad (s : LuaScript)
  | evalsha (digest : String) (key : String) (args : List RedisEvalArg)

/-- An `evalsha` without a reply raises `NoScriptError`. -/
def ScriptReply : ScriptCall → Type
  | .digest _ => Option String
  | .setDigest .. => Unit
  | .scriptLoad _ => String
  | .evalsha .. => Option LuaReply

inductive ScriptExc | noScriptError | assertionError | valueError
deriving DecidableEq

/-- A coroutine of the two components. -/
abbrev Scripted := ExceptT ScriptExc (Prog ScriptCall ScriptReply)

namespace Scripted

def digest (s : LuaScript) : Scripted (Option String) := ExceptT.lift (.perform (ScriptCall.digest s))

def setDigest (s : LuaScript) (d : String) : Scripted Unit := ExceptT.lift (.perform (ScriptCall.setDigest s d))

/-- `_script_load`. -/
def scriptLoad (s : LuaScript) : Scripted String := ExceptT.lift (.perform (ScriptCall.scriptLoad s))

/-- `_evalsha`, with `NoScriptError` as `none`. -/
def evalsha (d key : String) (args : List RedisEvalArg) : Scripted (Option LuaReply) :=
  ExceptT.lift (.perform (ScriptCall.evalsha d key args))

/-- One `if` of `_ensure_scripts_loaded`. -/
def ensureScriptLoaded (s : LuaScript) : Scripted Unit := do
  match ← digest s with
  | none =>
    let d ← scriptLoad s
    setDigest s d
  | some _ => return ()

/-- What the five methods have in common. -/
def evalOwn (ensureScriptsLoaded : Scripted Unit) (s : LuaScript) (key : String) (args : List RedisEvalArg) :
    Scripted LuaReply := do
  ensureScriptsLoaded
  match ← digest s with
  | none => throw .assertionError
  | some d =>
    match ← evalsha d key args with
    | some reply => return reply
    | none =>
      let d ← scriptLoad s
      setDigest s d
      match ← evalsha d key args with
      | some reply => return reply
      | none => throw .noScriptError

end Scripted

open Scripted

/-- What a method returns. -/
inductive MethodResult
  | outcome (o : PrepareOutcome)
  | none
  | owned (b : Bool)
deriving DecidableEq

namespace RedisSequenceStateMachine

variable (sm : RedisSequenceStateMachine)

/-- `_ensure_scripts_loaded`. -/
def ensureScriptsLoaded : Scripted Unit := do
  ensureScriptLoaded .prepare
  ensureScriptLoaded .commit
  ensureScriptLoaded .cleanup

/-- `_parse_prepare_result`; `valueError` if the result has another shape. -/
def parsePrepareResult : LuaReply → Except ScriptExc MethodResult
  | .pair outcome => .ok (.outcome outcome)
  | _ => .error .valueError

def prepareByDigest (conversationId : String) (seq : ℕ) : Scripted MethodResult := do
  let rawResult ← evalOwn ensureScriptsLoaded .prepare (sm.key conversationId) [.int seq, .int sm.activeTtl]
  ExceptT.mk (.ret (parsePrepareResult rawResult))

def commitByDigest (conversationId : String) (seq : ℕ) : Scripted MethodResult := do
  let _ ← evalOwn ensureScriptsLoaded .commit (sm.key conversationId) [.int seq, .int sm.activeTtl]
  return .none

def cleanupByDigest (conversationId : String) : Scripted MethodResult := do
  let _ ← evalOwn ensureScriptsLoaded .cleanup (sm.key conversationId) [.int sm.finalTtl]
  return .none

end RedisSequenceStateMachine

namespace RedisConversationOwnershipGuard

variable (g : RedisConversationOwnershipGuard)

/-- `_ensure_scripts_loaded`. -/
def ensureScriptsLoaded : Scripted Unit := do
  ensureScriptLoaded .claimOrRefresh
  ensureScriptLoaded .releaseIfOwner

def claimOrRefreshByDigest (conversationId ownershipToken : String) : Scripted MethodResult := do
  let result ← evalOwn ensureScriptsLoaded .claimOrRefresh (g.key conversationId)
    [.str ownershipToken, .int g.guardTtlSec]
  return .owned (decide (result = .status "OWNED"))

def releaseByDigest (conversationId ownershipToken : String) : Scripted MethodResult := do
  let _ ← evalOwn ensureScriptsLoaded .releaseIfOwner (g.key conversationId) [.str ownershipToken]
  return .none

end RedisConversationOwnershipGuard

/-! ## Any number of them -/

/-- The two instances. -/
structure RedisClients where
  sm : RedisSequenceStateMachine
  guard : RedisConversationOwnershipGuard

/-- A call of one of the five methods. -/
inductive Operation
  | prepare (conversationId : String) (seq : ℕ)
  | commit (conversationId : String) (seq : ℕ)
  | cleanup (conversationId : String)
  | claimOrRefresh (conversationId ownershipToken : String)
  | release (conversationId ownershipToken : String)
deriving DecidableEq

/-- The program of a call. -/
def RedisClients.program (r : RedisClients) : Operation → Prog ScriptCall ScriptReply (Except ScriptExc MethodResult)
  | .prepare c seq => (r.sm.prepareByDigest c seq).run
  | .commit c seq => (r.sm.commitByDigest c seq).run
  | .cleanup c => (r.sm.cleanupByDigest c).run
  | .claimOrRefresh c token => (r.guard.claimOrRefreshByDigest c token).run
  | .release c token => (r.guard.releaseByDigest c token).run

/-- A call under way. -/
structure ScriptTask (r : RedisClients) where
  op : Operation
  thread : Thread (r.program op)

/-- Redis, the digest fields of the two instances, and every call made on them. -/
structure ScriptSystem (r : RedisClients) where
  server : RedisServer
  digests : LuaScript → Option String
  tasks : List (ScriptTask r)

/-- A method is called; a call goes on; Redis forgets its scripts; somebody else loads a script,
or changes the keys (time passes, another service writes). -/
inductive ScriptEvent
  | call (op : Operation)
  | proceed (id : ℕ)
  | flush
  | load (s : LuaScript)
  | elsewhere (db : RedisDb)

namespace ScriptSystem

variable (sha : LuaScript → String) {r : RedisClients}

/-- Before the first call. -/
def init (db : RedisDb) : ScriptSystem r := ⟨⟨db, []⟩, fun _ => none, []⟩

variable (w : ScriptSystem r)

/-- The script with a digest, if Redis has it. -/
def scriptOf (d : String) : Option LuaScript := w.server.scripts.find? fun s => decide (sha s = d)

/-- The reply to a call. -/
def reply : (i : ScriptCall) → ScriptReply i
  | .digest s => w.digests s
  | .setDigest _ _ => ()
  | .scriptLoad s => sha s
  | .evalsha d key args => (w.scriptOf sha d).map fun s => (s.run w.server.db key args).2

/-- What a call leaves of Redis. -/
def served : ScriptCall → RedisServer
  | .scriptLoad s => { w.server with scripts := s :: w.server.scripts }
  | .evalsha d key args =>
    match w.scriptOf sha d with
    | some s => { w.server with db := (s.run w.server.db key args).1 }
    | none => w.server
  | _ => w.server

/-- What a call leaves of the digest fields. -/
def assigned : ScriptCall → LuaScript → Option String
  | .setDigest s d => fun s' => if s' = s then some d else w.digests s'
  | _ => w.digests

def step : ScriptEvent → ScriptSystem r
  | .call op => { w with tasks := w.tasks ++ [⟨op, .start _⟩] }
  | .proceed id =>
    match w.tasks[id]? with
    | none => w
    | some x =>
      match x.thread.rest.pending with
      | none => w
      | some i =>
        ⟨w.served sha i, w.assigned i, w.tasks.set id { x with thread := x.thread.advance (w.reply sha) }⟩
  | .flush => { w with server := { w.server with scripts := [] } }
  | .load s => { w with server := { w.server with scripts := s :: w.server.scripts } }
  | .elsewhere db => { w with server := { w.server with db := db } }

/-- The state after the events `es`. -/
abbrev after (r : RedisClients) (db : RedisDb) (es : List ScriptEvent) : ScriptSystem r :=
  run (step sha) (init db) es

end ScriptSystem

end Transcribe
