import Mathlib.Logic.Function.Basic
import Transcribe.Lib.EventSystem
import Transcribe.Lib.Resumption

/-!
# The process

`run` (`main.py`) puts the runtime together, has Redis and Kafka checked side by side, serves
until the server ends or a signal comes, shuts down, and releases what it has made. A `Process`
is `run` with the tasks it starts: the two checks and the server. An event lets one of them go
on; a call of `run` that waits for a task returns when the task is there.

`asyncio.wait_for` ends a coroutine by cancelling what it waits for.
-/

namespace Transcribe

open Resumption EventSystem

/-- What a coroutine of the process raises. -/
inductive ProcessExc
  | runtimeError (text : String)
  | timeoutError (text : String)
  | cancelledError
  | other (text : String)
deriving DecidableEq

/-- `str(e)`. -/
def ProcessExc.str : ProcessExc → String
  | runtimeError t | timeoutError t | other t => t
  | cancelledError => ""

/-- What the process owns. -/
inductive Resource | redisClient | sequenceStateMachine | ownershipGuard | producer
deriving DecidableEq

/-- The steps of `create_runtime_bundle` that may raise. They await nothing, and so are not
cancelled. -/
inductive Assembly
  | create (r : Resource)
  | registerSignal
  | createAuthBackend
  | buildWebApp
  | createUvicornServer
deriving DecidableEq

/-- What the step adds to the resources made. -/
def Assembly.made : Assembly → List Resource
  | .create r => [r]
  | _ => []

/-! ## `run` -/

/-- What `run` asks of its environment. `gather` makes a task of each check, `createTasks` one of
the server and one that waits for a signal. -/
inductive MainCall
  | assemble (a : Assembly)
  | gather
  | awaitChecks
  | createTasks
  | waitFirst
  | serverResult
  | closeAll
  | flush
  | setShouldExit
  | serverTaskDone
  | cancelServerTask
  | awaitServerTask
  | close (r : Resource)
deriving DecidableEq

def MainReply : MainCall → Type
  | .assemble _ => Except { e : ProcessExc // e ≠ .cancelledError } Unit
  | .awaitChecks | .serverResult | .closeAll | .flush | .awaitServerTask | .close _ =>
    Except ProcessExc Unit
  | .waitFirst | .serverTaskDone => Bool
  | .gather | .createTasks | .setShouldExit | .cancelServerTask => Unit

abbrev MainCoro := ExceptT ProcessExc (Prog MainCall MainReply)

namespace MainCoro

def assemble (a : Assembly) : MainCoro Unit :=
  ExceptT.mk (.call (MainCall.assemble a) fun r => .ret (r.mapError Subtype.val))

def gather : MainCoro Unit := ExceptT.lift (.perform MainCall.gather)

def awaitChecks : MainCoro Unit := ExceptT.mk (.call MainCall.awaitChecks .ret)

def createTasks : MainCoro Unit := ExceptT.lift (.perform MainCall.createTasks)

def waitFirst : MainCoro Bool := ExceptT.lift (.perform MainCall.waitFirst)

def serverResult : MainCoro Unit := ExceptT.mk (.call MainCall.serverResult .ret)

def closeAll : MainCoro Unit := ExceptT.mk (.call MainCall.closeAll .ret)

def flush : MainCoro Unit := ExceptT.mk (.call MainCall.flush .ret)

def setShouldExit : MainCoro Unit := ExceptT.lift (.perform MainCall.setShouldExit)

def serverTaskDone : MainCoro Bool := ExceptT.lift (.perform MainCall.serverTaskDone)

def cancelServerTask : MainCoro Unit := ExceptT.lift (.perform MainCall.cancelServerTask)

def awaitServerTask : MainCoro Unit := ExceptT.mk (.call MainCall.awaitServerTask .ret)

def close (r : Resource) : MainCoro Unit := ExceptT.mk (.call (MainCall.close r) .ret)

end MainCoro

namespace Main

open MainCoro

def closeRedisRuntime (made : List Resource) : MainCoro Unit := do
  if .sequenceStateMachine ∈ made then close .sequenceStateMachine
  if .ownershipGuard ∈ made then close .ownershipGuard
  if .redisClient ∈ made then close .redisClient

/-- The resources that have been made are closed. -/
def release (made : List Resource) : MainCoro Unit := do
  if .producer ∈ made then close .producer
  closeRedisRuntime made

/-- The steps of `create_runtime_bundle`, in order. -/
def assembly : List Assembly :=
  [.create .redisClient, .create .sequenceStateMachine, .create .ownershipGuard, .create .producer,
    .registerSignal, .createAuthBackend, .buildWebApp, .createUvicornServer]

/-- The rest of the steps, with what has been made. -/
def assembleFrom : List Assembly → List Resource → MainCoro Unit
  | [], _ => return ()
  | a :: rest, made => do
    match ← attempt (assemble a) with
    | .ok () => assembleFrom rest (made ++ a.made)
    | .error .cancelledError => throw .cancelledError
    | .error e =>
      release made
      throw e

def createRuntimeBundle : MainCoro Unit := assembleFrom assembly []

/-- What a runtime bundle holds, in the order it was made. -/
def bundle : List Resource := assembly.flatMap Assembly.made

def closeRuntimeBundle : MainCoro Unit := release bundle

/-- `_graceful_stop`. -/
def gracefulStop : MainCoro Unit := do
  closeAll
  flush
  setShouldExit
  awaitServerTask

/-- `_graceful_stop` within `asyncio.wait_for`. -/
def gracefulStopWithin : MainCoro Unit := do
  match ← attempt gracefulStop with
  | .error .cancelledError => throw (.timeoutError "")
  | r => ofExcept r

/-- The cleanup that is forced when the shutdown takes too long. -/
def forceCleanup : MainCoro Unit := do
  setShouldExit
  if ← serverTaskDone then return ()
  cancelServerTask
  match ← attempt awaitServerTask with
  | .error .cancelledError => return ()
  | r => ofExcept r

def shutDown : MainCoro Unit := do
  match ← attempt gracefulStopWithin with
  | .ok () => return ()
  | .error (.timeoutError _) => forceCleanup
  | .error e => throw e

/-- From the checks to the end of the shutdown. -/
def serve : MainCoro Unit := do
  gather
  awaitChecks
  createTasks
  if ← waitFirst then serverResult
  shutDown

def run : MainCoro Unit := do
  createRuntimeBundle
  let outcome ← attempt serve
  closeRuntimeBundle
  ofExcept outcome

end Main

/-- How the process exits. -/
inductive Exit
  | status (code : ℕ)
  | uncaught (e : ProcessExc)
deriving DecidableEq

/-- `main` on what `run` ends with. -/
def exitOf : Except ProcessExc Unit → Exit
  | .ok () => .status 0
  | .error (.runtimeError _) => .status 1
  | .error e => .uncaught e

/-! ## The checks -/

/-- `ensureReady` is `producer.ensure_ready()` within its `wait_for`. -/
inductive CheckCall | ping | ensureReady | closeProducer
deriving DecidableEq

def CheckReply : CheckCall → Type := fun _ => Except ProcessExc Unit

abbrev CheckCoro := ExceptT ProcessExc (Prog CheckCall CheckReply)

/-- What the texts of the checks are made of: the redacted URL, the redaction of a text, and the
timeout as it is printed. -/
structure Startup where
  redactedUrl : String
  redactText : String → String
  kafkaTimeout : String

namespace Startup

variable (c : Startup)

def call (i : CheckCall) : CheckCoro Unit := ExceptT.mk (.call i .ret)

/-- `_check_redis` with the shared client. -/
def checkRedis : CheckCoro Unit := do
  match ← attempt (call .ping) with
  | .ok () => return ()
  | .error .cancelledError => throw .cancelledError
  | .error e =>
    throw (.runtimeError ("Redis unavailable: " ++ c.redactedUrl ++ " - " ++ c.redactText e.str))

/-- `_check_kafka`. -/
def checkKafka : CheckCoro Unit := do
  match ← attempt (call .ensureReady) with
  | .ok () => return ()
  | .error .cancelledError => throw .cancelledError
  | .error (.timeoutError _) =>
    match ← attempt (call .closeProducer) with
    | .error .cancelledError => throw .cancelledError
    | _ =>
      throw (.runtimeError
        ("Kafka unavailable: connection timed out after " ++ c.kafkaTimeout ++ "s"))
  | .error e => throw (.runtimeError ("Kafka unavailable: " ++ e.str))

end Startup

/-! ## The server -/

/-- How `server.serve()` ends. -/
inductive Served
  | returned
  | systemExit (code : String)
  | raised (e : ProcessExc)

/-- `_safe_serve`. -/
def safeServe : Served → Except ProcessExc Unit
  | .returned => .ok ()
  | .systemExit code => .error (.runtimeError ("Uvicorn failed to start (exit code " ++ code ++ ")"))
  | .raised e => .error e

/-- The server with its task. -/
structure ServerTask where
  created : Bool
  shouldExit : Bool
  cancelled : Bool
  outcome : Option (Except ProcessExc Unit)

/-! ## The process -/

/-- `failure` is what the first check that raised has raised, `signalled` the shutdown event. -/
structure Process (c : Startup) where
  main : Thread Main.run.run
  redisCheck : Option (Thread c.checkRedis.run)
  kafkaCheck : Option (Thread c.checkKafka.run)
  failure : Option ProcessExc
  server : ServerTask
  signalled : Bool

/-- `stopTimeout` is the end of the time `_graceful_stop` has, while it waits for the server. -/
inductive ProcessEvent
  | main (answer : (i : MainCall) → MainReply i)
  | redisCheck (answer : (i : CheckCall) → CheckReply i)
  | kafkaCheck (answer : (i : CheckCall) → CheckReply i)
  | serve (served : Served)
  | stopTimeout
  | signal

namespace Process

variable {c : Startup} (w : Process c)

def init : Process c := ⟨.start _, none, none, none, ⟨false, false, false, none⟩, false⟩

/-- The call `run` waits in. -/
def pending : Option MainCall := w.main.rest.pending

/-- What `run` has returned or raised. -/
def result : Option (Except ProcessExc Unit) := w.main.rest.result

/-- A check has returned. -/
def passed {p : Prog CheckCall CheckReply (Except ProcessExc Unit)} (x : Option (Thread p)) : Bool :=
  match x.bind (·.rest.result) with
  | some (.ok ()) => true
  | _ => false

/-- What a check has raised. -/
def raisedBy {p : Prog CheckCall CheckReply (Except ProcessExc Unit)} (x : Thread p) : Option ProcessExc :=
  match x.rest.result with
  | some (.error e) => some e
  | _ => none

/-- The reply to a call, once it is there; `r` where the environment decides. -/
def ready : (i : MainCall) → MainReply i → Option (MainReply i)
  | .awaitChecks, _ =>
    match w.failure with
    | some e => some (.error e)
    | none => if passed w.redisCheck && passed w.kafkaCheck then some (.ok ()) else none
  | .waitFirst, _ => if w.server.outcome.isSome || w.signalled then some w.server.outcome.isSome else none
  | .serverResult, _ => w.server.outcome
  | .awaitServerTask, _ => w.server.outcome
  | .serverTaskDone, _ => some w.server.outcome.isSome
  | _, r => some r

/-- What a call does to the tasks. -/
def effect : MainCall → Process c
  | .gather => { w with redisCheck := some (.start _), kafkaCheck := some (.start _) }
  | .createTasks => { w with server := { w.server with created := true } }
  | .setShouldExit => { w with server := { w.server with shouldExit := true } }
  | .cancelServerTask => { w with server := { w.server with cancelled := true } }
  | _ => w

def step : ProcessEvent → Process c
  | .main answer =>
    match w.pending with
    | none => w
    | some i =>
      match w.ready i (answer i) with
      | none => w
      | some r => { w.effect i with main := w.main.advance (Function.update answer i r) }
  | .redisCheck answer =>
    match w.redisCheck with
    | none => w
    | some x =>
      { w with redisCheck := some (x.advance answer), failure := w.failure <|> raisedBy (x.advance answer) }
  | .kafkaCheck answer =>
    match w.kafkaCheck with
    | none => w
    | some x =>
      { w with kafkaCheck := some (x.advance answer), failure := w.failure <|> raisedBy (x.advance answer) }
  | .serve served =>
    if w.server.created ∧ w.server.outcome = none ∧
        (safeServe served = .error .cancelledError → w.server.cancelled) then
      { w with server := { w.server with outcome := some (safeServe served) } }
    else w
  | .stopTimeout =>
    if w.pending = some .awaitServerTask then { w with server := { w.server with cancelled := true } }
    else w
  | .signal => { w with signalled := true }

/-- The state after the events `es`. -/
abbrev after (c : Startup) (es : List ProcessEvent) : Process c := EventSystem.run step init es

end Process

end Transcribe
