import Transcribe.Lib.Binary64
import Transcribe.Lib.TtlStore

/-!
# The two Redis components

`RedisSequenceStateMachine` holds the next expected sequence number of each
conversation, `RedisConversationOwnershipGuard` the token of the connection that may
send for it. Both work through Lua scripts, each one atomic in Redis.

A sequence key holds the number its text denotes: Lua writes a number so that
`tonumber` reads it back. Lua's numbers are doubles, so an incoming number and the
sum in `LUA_COMMIT` are rounded (`Binary64.ofNat`).
-/

namespace Transcribe

/-! ## Sequence state machine (`redis/sequence_state_machine.py`) -/

inductive PrepareResult | preCheckOk | idempotent | outOfOrder
deriving DecidableEq

structure PrepareOutcome where
  status : PrepareResult
  expectedSequence : Option ℕ
deriving DecidableEq

/-- The sequence keys. -/
abbrev SequenceDb := TtlStore String ℕ

/-- Lua's `tonumber` on the decimal text of a natural number. -/
def tonumber (n : ℕ) : ℕ := Binary64.ofNat n

def luaPrepare (db : SequenceDb) (key : String) (seq ttl : ℕ) : SequenceDb × PrepareOutcome :=
  let incoming := tonumber seq
  match db.get key with
  | none =>
    if incoming = 0 then (db.set key 0 ttl, ⟨.preCheckOk, some 0⟩) else (db, ⟨.outOfOrder, some 0⟩)
  | some current =>
    if incoming = current then (db.expire key ttl, ⟨.preCheckOk, some current⟩)
    else if incoming < current then (db, ⟨.idempotent, some current⟩)
    else (db, ⟨.outOfOrder, some current⟩)

/-- The number `seq + 1` as Lua computes it. -/
def luaSucc (seq : ℕ) : ℕ := Binary64.ofNat (tonumber seq + 1)

def luaCommit (db : SequenceDb) (key : String) (seq ttl : ℕ) : SequenceDb :=
  db.set key (luaSucc seq) ttl

def luaCleanup (db : SequenceDb) (key : String) (finalTtl : ℕ) : SequenceDb :=
  if db.exists? key then db.expire key finalTtl else db

/-- The settings of the state machine, as `Settings` validates them. -/
structure RedisSequenceStateMachine where
  keyPrefix : String
  activeTtl : ℕ
  finalTtl : ℕ
  finalTtl_pos : 0 < finalTtl
  finalTtl_le : finalTtl ≤ activeTtl

namespace RedisSequenceStateMachine

/-- The default settings. -/
def default : RedisSequenceStateMachine :=
  ⟨"realtime-transcribe-service:expect-transcript-seq-num", 3600, 60, by decide, by decide⟩

variable (sm : RedisSequenceStateMachine)

/-- `_key`. -/
def key (conversationId : String) : String := sm.keyPrefix ++ ":" ++ conversationId

def prepare (db : SequenceDb) (conversationId : String) (seq : ℕ) : SequenceDb × PrepareOutcome :=
  luaPrepare db (sm.key conversationId) seq sm.activeTtl

def commit (db : SequenceDb) (conversationId : String) (seq : ℕ) : SequenceDb :=
  luaCommit db (sm.key conversationId) seq sm.activeTtl

def cleanup (db : SequenceDb) (conversationId : String) : SequenceDb :=
  luaCleanup db (sm.key conversationId) sm.finalTtl

variable {sm}

theorem key_inj {c c' : String} : sm.key c = sm.key c' ↔ c = c' := by
  unfold key
  rw [← String.toList_inj, ← String.toList_inj]
  simp

end RedisSequenceStateMachine

/-! ## Ownership guard (`redis/ownership_guard.py`) -/

/-- The ownership keys, each holding a connection's token. -/
abbrev OwnershipDb := TtlStore String String

/-- The result tells whether the script answered `OWNED`. -/
def luaClaimOrRefresh (db : OwnershipDb) (key token : String) (ttl : ℕ) : OwnershipDb × Bool :=
  let current := db.get key
  if current = none ∨ current = some token then (db.set key token ttl, true) else (db, false)

def luaReleaseIfOwner (db : OwnershipDb) (key token : String) : OwnershipDb :=
  if db.get key = some token then db.del key else db

/-- The settings of the guard, as `Settings` validates them. -/
structure RedisConversationOwnershipGuard where
  keyPrefix : String
  guardTtlSec : ℕ
  guardTtlSec_pos : 0 < guardTtlSec

namespace RedisConversationOwnershipGuard

/-- The default settings. -/
def default : RedisConversationOwnershipGuard :=
  ⟨"realtime-transcribe-service:conversation-owner", 30, by decide⟩

variable (g : RedisConversationOwnershipGuard)

/-- `_key`. -/
def key (conversationId : String) : String := g.keyPrefix ++ ":" ++ conversationId

def claimOrRefresh (db : OwnershipDb) (conversationId token : String) : OwnershipDb × Bool :=
  luaClaimOrRefresh db (g.key conversationId) token g.guardTtlSec

def release (db : OwnershipDb) (conversationId token : String) : OwnershipDb :=
  luaReleaseIfOwner db (g.key conversationId) token

variable {g}

theorem key_inj {c c' : String} : g.key c = g.key c' ↔ c = c' := by
  unfold key
  rw [← String.toList_inj, ← String.toList_inj]
  simp

/-- What happens to the ownership keys: a call of the guard is executed, the key of a
conversation expires, or a second passes. -/
inductive Happening
  | claimOrRefresh (conversationId token : String)
  | release (conversationId token : String)
  | expire (conversationId : String)
  | tick
deriving DecidableEq

variable (g)

/-- The ownership keys after a happening. -/
def step (db : OwnershipDb) : Happening → OwnershipDb
  | .claimOrRefresh c u => (g.claimOrRefresh db c u).1
  | .release c u => g.release db c u
  | .expire c => db.del (g.key c)
  | .tick => db.tick

/-- The token's hold on a conversation ends: it is released with it, or the key expires. -/
def Ends (c u : String) (db : OwnershipDb) : Happening → Prop
  | .claimOrRefresh .. => False
  | .release c' u' => c' = c ∧ u' = u
  | .expire c' => c' = c
  | .tick => ∃ e ∈ db (g.key c), e.ttl ≤ 1

instance (c u : String) (db : OwnershipDb) : DecidablePred (g.Ends c u db)
  | .claimOrRefresh .. => .isFalse id
  | .release c' u' => inferInstanceAs (Decidable (c' = c ∧ u' = u))
  | .expire c' => inferInstanceAs (Decidable (c' = c))
  | .tick => inferInstanceAs (Decidable (∃ e ∈ db (g.key c), e.ttl ≤ 1))

/-- The happenings of a conversation, and time. -/
def Happening.concerns (c : String) : Happening → Bool
  | .claimOrRefresh c' _ | .release c' _ | .expire c' => decide (c' = c)
  | .tick => true

end RedisConversationOwnershipGuard

end Transcribe
