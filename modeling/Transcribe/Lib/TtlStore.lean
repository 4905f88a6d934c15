import Mathlib.Logic.Function.Basic
import Mathlib.Tactic.Common

/-!
# A key-value store whose keys expire

Each key holds a value and the seconds it has left. The commands are the string
commands of a key-value server; `tick` is the passing of one second. `Touches` says of an
operation on the store that one key is all it reads and writes.
-/

/-- A value and its remaining time to live in seconds. -/
structure TtlStore.Entry (V : Type) where
  value : V
  ttl : ℕ
deriving DecidableEq

/-- A store with keys `κ` and values `V`. -/
abbrev TtlStore (κ V : Type) : Type := κ → Option (TtlStore.Entry V)

namespace TtlStore

variable {κ V : Type} (db : TtlStore κ V) (k : κ)

/-- The store without keys. -/
def empty : TtlStore κ V := fun _ => none

/-- `GET`. -/
def get : Option V := (db k).map Entry.value

/-- `EXISTS key`. -/
def exists? : Bool := (db k).isSome

/-- One second passes: a key at its last second is gone. -/
def tick : TtlStore κ V := fun k =>
  (db k).bind fun e => if e.ttl ≤ 1 then none else some { e with ttl := e.ttl - 1 }

variable {db k}

/-- A key not at its last second stays, with one second less. -/
theorem tick_of_lt (h : ∀ e ∈ db k, 1 < e.ttl) :
    db.tick k = (db k).map fun e => { e with ttl := e.ttl - 1 } := by
  unfold tick
  rcases hk : db k with _ | e
  · rfl
  · have := h e hk
    simp [show ¬ e.ttl ≤ 1 by omega]

theorem get_tick (h : ∀ e ∈ db k, 1 < e.ttl) : db.tick.get k = db.get k := by
  unfold get
  rw [tick_of_lt h]
  cases db k <;> rfl

/-- The operation reads and writes the key `k` only. -/
structure Touches {α : Type} (k : κ) (op : TtlStore κ V → TtlStore κ V × α) : Prop where
  others : ∀ db k', k' ≠ k → (op db).1 k' = db k'
  own : ∀ db db', db k = db' k → (op db).1 k = (op db').1 k ∧ (op db).2 = (op db').2

variable (db k) [DecidableEq κ]

/-- `SET key value EX ttl`. -/
def set (v : V) (ttl : ℕ) : TtlStore κ V := Function.update db k (some ⟨v, ttl⟩)

/-- `EXPIRE key ttl`. -/
def expire (ttl : ℕ) : TtlStore κ V := Function.update db k ((db k).map fun e => { e with ttl := ttl })

/-- `DEL key`. -/
def del : TtlStore κ V := Function.update db k none

variable {db k} {k' : κ}

@[simp] theorem set_self (v : V) (ttl : ℕ) : db.set k v ttl k = some ⟨v, ttl⟩ :=
  Function.update_self ..

@[simp] theorem set_ne (h : k' ≠ k) (v : V) (ttl : ℕ) : db.set k v ttl k' = db k' :=
  Function.update_of_ne h ..

@[simp] theorem expire_self (ttl : ℕ) :
    db.expire k ttl k = (db k).map fun e => { e with ttl := ttl } := Function.update_self ..

@[simp] theorem expire_ne (h : k' ≠ k) (ttl : ℕ) : db.expire k ttl k' = db k' :=
  Function.update_of_ne h ..

@[simp] theorem del_self : db.del k k = none := Function.update_self ..

@[simp] theorem del_ne (h : k' ≠ k) : db.del k k' = db k' := Function.update_of_ne h ..

omit [DecidableEq κ] in
theorem get_of_none (h : db k = none) : db.get k = none := by simp [get, h]

omit [DecidableEq κ] in
theorem get_of_some {e : Entry V} (h : db k = some e) : db.get k = some e.value := by
  simp [get, h]

end TtlStore
