import Transcribe.Lib.Lease
import Transcribe.Model.Handshake

/-!
# Connections over one ownership guard

A `Cluster` is every connection ever opened, on any number of instances, with the guard
keys they share and the service their messages go to (`World`). The guard keys and the sequence
keys of the service are two stores, as they are in one Redis whose key families are apart (`Apart`,
`keys_ne_iff`).

A guard command is a message: a coroutine issues the command it waits for, Redis executes
it at any later time, also when the coroutine has been cancelled or has given up, and its
answer reaches the coroutine after that. A guard call may raise at any time. Every other
call is answered at once, as the event says.
-/

namespace Transcribe

open Resumption EventSystem

/-- What the instances have in common. -/
structure Site where
  deps : Deps
  transport : Transport
  guard : RedisConversationOwnershipGuard

/-! ## Commands -/

/-- The effect of a command on the guard keys, with its answer. -/
def GuardCall.exec (g : RedisConversationOwnershipGuard) (s : Lease.State String String) :
    GuardCall → Lease.State String String × Bool
  | .claimOrRefresh c u =>
    let r := g.claimOrRefresh s.store c u
    ({ s with
      store := r.1
      granted := if r.2 then ⟨g.key c, u, s.clock⟩ :: s.granted else s.granted }, r.2)
  | .release c u =>
    ({ s with store := g.release s.store c u, released := (g.key c, u) :: s.released },
      decide (s.store.get (g.key c) = some u))

/-- A command that has been issued, with its answer once Redis has executed it. -/
structure Command where
  call : GuardCall
  answer : Option Bool
deriving DecidableEq

/-- The token a call draws. -/
def ConnCall.drawn (answer : (i : ConnCall) → ConnReply i) : ConnCall → Option String
  | .uuid4 => some (answer .uuid4)
  | _ => none

/-! ## Connections -/

/-- A coroutine under way, and the number of the command it has issued and waits for. -/
structure Task (p : Prog ConnCall ConnReply (Except Exc Unit)) where
  thread : Thread p
  issued : Option ℕ

namespace Task

variable {p : Prog ConnCall ConnReply (Except Exc Unit)}

def start (p : Prog ConnCall ConnReply (Except Exc Unit)) : Task p := ⟨.start p, none⟩

/-- The call the coroutine waits in. -/
def pending (x : Task p) : Option ConnCall := x.thread.rest.pending

/-- The coroutine goes on with the reply to its call. -/
def advance (x : Task p) (answer : ∀ i, ConnReply i) : Task p := ⟨x.thread.advance answer, none⟩

def issue (x : Task p) (k : ℕ) : Task p := { x with issued := some k }

end Task

/-- `_ownership_refresh_loop` under way. -/
structure RefreshTask where
  conversationId : String
  token : String
  rounds : ℕ
  task : Task (refreshLoop conversationId token rounds).run

/-- A connection: the ASGI call, the refresh task while there is one, and the handler that
has its message while there is one. -/
structure Connection (site : Site) where
  scope : Scope
  frames : ℕ
  rounds : ℕ
  main : Task (site.transport.wsGuardMiddleware scope frames).run
  refresh : Option RefreshTask
  handler : Option ℕ

/-- The two coroutines of a connection. -/
inductive Who | main | refresh
deriving DecidableEq

variable {site : Site}

namespace Connection

def start (scope : Scope) (frames rounds : ℕ) : Connection site :=
  ⟨scope, frames, rounds, .start _, none, none⟩

variable (x : Connection site)

def pending : Who → Option ConnCall
  | .main => x.main.pending
  | .refresh => x.refresh.bind fun r => r.task.pending

def issued : Who → Option ℕ
  | .main => x.main.issued
  | .refresh => x.refresh.bind fun r => r.task.issued

def issue (k : ℕ) : Who → Connection site
  | .main => { x with main := x.main.issue k }
  | .refresh => { x with refresh := x.refresh.map fun r => { r with task := r.task.issue k } }

def advance (answer : ∀ i, ConnReply i) : Who → Connection site
  | .main => { x with main := x.main.advance answer }
  | .refresh => { x with refresh := x.refresh.map fun r => { r with task := r.task.advance answer } }

/-- The connection after a reply to the call `i` of `who`. A task that is joined has been
cancelled: what it has issued stays issued. -/
def resume (answer : ∀ i, ConnReply i) (who : Who) : ConnCall → Connection site
  | .spawnRefresh c u =>
    { x.advance answer who with refresh := some ⟨c, u, x.rounds, .start _⟩ }
  | .joinRefresh => { x.advance answer who with refresh := none }
  | .handleMessage .. => { x.advance answer who with handler := none }
  | _ => x.advance answer who

/-- The connection was granted the key of `c` with the token `u`. -/
def Claimed (c u : String) : Prop :=
  ⟨.guard (.claimOrRefresh c u), (.ok, true)⟩ ∈ x.main.thread.trace

end Connection

/-! ## The cluster -/

/-- `wire` holds the commands ever issued. `tokens` is history: the tokens drawn so far. -/
structure Cluster (site : Site) where
  world : World site.deps
  guard : Lease.State String String
  wire : List Command
  conns : List (Connection site)
  tokens : List String

inductive ClusterEvent
  | connect (scope : Scope) (frames rounds : ℕ)
  | issue (id : ℕ) (who : Who)
  | execute (k : ℕ)
  | proceed (id : ℕ) (who : Who) (answer : (i : ConnCall) → ConnReply i)
  | handle (h : ℕ) (fate : Fate) (now : Datetime)
  | tick

namespace Cluster

variable (w : Cluster site)

def init : Cluster site := ⟨.init, .init, [], [], []⟩

/-- The call the coroutine `who` of connection `id` waits in. -/
def pending (id : ℕ) (who : Who) : Option ConnCall := w.conns[id]?.bind (·.pending who)

/-- The reply to a guard call that ends with `fate`: a call returns only with the answer
to its command, and raises in vain unless that has been executed. -/
def guardReply (issued : Option ℕ) (fate : Fate) : Option (Fate × Bool) :=
  match (issued.bind fun k => w.wire[k]?).bind Command.answer, fate with
  | some b, .ok => some (.ok, b)
  | some b, .failed e | some b, .lost e => some (.lost e, b)
  | none, .ok => none
  | none, .failed e | none, .lost e => some (.failed e, false)

/-- The replies `answer` with the one to a guard call, or to a message, put right. -/
def reply (x : Connection site) (who : Who) (answer : (i : ConnCall) → ConnReply i) :
    ConnCall → Option ((i : ConnCall) → ConnReply i)
  | .guard g => (w.guardReply (x.issued who) (answer (.guard g)).1).map fun r i =>
      match i with
      | .guard _ => r
      | i => answer i
  | .handleMessage _ _ =>
    (x.handler.bind fun h => w.world.handlers[h]?.bind (·.thread.rest.result)).map fun r i =>
      match i with
      | .handleMessage .. => r
      | i => answer i
  | _ => some answer

/-- A guard command goes out. -/
def issue (id : ℕ) (who : Who) (x : Connection site) : Cluster site :=
  match x.issued who, x.pending who with
  | none, some (.guard g) =>
    { w with wire := w.wire ++ [⟨g, none⟩], conns := w.conns.set id (x.issue w.wire.length who) }
  | _, _ => w

/-- Redis executes command `k`. -/
def execute (k : ℕ) : Cluster site :=
  match w.wire[k]? with
  | some ⟨g, none⟩ =>
    { w with
      guard := (g.exec site.guard w.guard).1
      wire := w.wire.set k ⟨g, some (g.exec site.guard w.guard).2⟩ }
  | _ => w

/-- Connection `id` hands its message to the orchestrator. -/
def submit (id : ℕ) (x : Connection site) (raw : Json) (c : String) : Cluster site :=
  { w with
    world := w.world.step (.submit ⟨raw, c⟩)
    conns := w.conns.set id { x with handler := some w.world.handlers.length } }

/-- The call `i` of connection `id` returns with the replies `answer`. -/
def resume (id : ℕ) (x : Connection site) (who : Who) (answer : (i : ConnCall) → ConnReply i)
    (i : ConnCall) : Cluster site :=
  { w with
    conns := w.conns.set id (x.resume answer who i)
    tokens := (i.drawn answer).toList ++ w.tokens }

/-- Coroutine `who` of connection `id` goes on, if the reply to its call `i` is there. -/
def proceed (id : ℕ) (x : Connection site) (who : Who) (answer : (i : ConnCall) → ConnReply i)
    (i : ConnCall) : Cluster site :=
  match i, x.handler with
  | .handleMessage raw c, none => w.submit id x raw c
  | i, _ =>
    match w.reply x who answer i with
    | none => w
    | some answer => w.resume id x who answer i

def step : ClusterEvent → Cluster site
  | .connect scope frames rounds => { w with conns := w.conns ++ [.start scope frames rounds] }
  | .issue id who =>
    match w.conns[id]? with
    | none => w
    | some x => w.issue id who x
  | .execute k => w.execute k
  | .proceed id who answer =>
    match w.conns[id]? with
    | none => w
    | some x =>
      match x.pending who with
      | none => w
      | some i => w.proceed id x who answer i
  | .handle h fate now => { w with world := w.world.step (.exec h fate now) }
  | .tick => { w with world := w.world.step .tick, guard := w.guard.tick }

/-- The state after the events `es`. -/
abbrev after (site : Site) (es : List ClusterEvent) : Cluster site := run step init es

/-- A token is drawn once in the cluster. -/
def Fresh : ClusterEvent → Prop
  | .proceed id who answer => ∀ u ∈ (w.pending id who).bind (ConnCall.drawn answer), u ∉ w.tokens
  | _ => True

instance : DecidablePred w.Fresh
  | .proceed id who answer => inferInstanceAs
      (Decidable (∀ u ∈ (w.pending id who).bind (ConnCall.drawn answer), u ∉ w.tokens))
  | .connect .. | .issue .. | .execute _ | .handle .. | .tick => .isTrue trivial

/-- A release is executed when no claim of the same key with its token is still to be. -/
def ReleaseLast : ClusterEvent → Prop
  | .execute k =>
    ∀ c u, w.wire[k]? = some ⟨.release c u, none⟩ → ⟨.claimOrRefresh c u, none⟩ ∉ w.wire
  | _ => True

instance : DecidablePred w.ReleaseLast
  | .execute k =>
    match h : w.wire[k]? with
    | some ⟨.release c u, none⟩ =>
      decidable_of_iff (⟨.claimOrRefresh c u, none⟩ ∉ w.wire) (by simp [ReleaseLast, h])
    | some ⟨.claimOrRefresh c u, a⟩ => .isTrue (by simp [ReleaseLast, h])
    | some ⟨.release c u, some b⟩ => .isTrue (by simp [ReleaseLast, h])
    | none => .isTrue (by simp [ReleaseLast, h])
  | .connect .. | .issue .. | .proceed .. | .handle .. | .tick => .isTrue trivial

end Cluster

end Transcribe
