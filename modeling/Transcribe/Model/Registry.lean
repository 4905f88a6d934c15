import Mathlib.Data.Int.Notation
import Transcribe.Lib.Dict
import Transcribe.Lib.EventSystem

/-!
# The connection registry

`ConnectionRegistry` of `transport/registry.py`. The dictionary maps a conversation to a list
object, which is its place in `lists`: `close_all` keeps the list objects of its snapshot while
other calls put new ones into the dictionary. Sockets are compared by identity.

`add` and `remove` do not suspend. `close_all` suspends in each `ws.close`; what is left of it
there is a `Closing`, and a section is what runs from one suspension to the next.
-/

namespace Transcribe

open EventSystem

/-- `ConnectionRegistry`; every list object of the dictionary is its own. -/
structure ConnectionRegistry (σ : Type) where
  connections : Dict String ℕ
  lists : List (List σ)
  activeCount : ℤ
  proper : connections.Proper
  allocated : ∀ c r, connections.get? c = some r → r < lists.length
  unshared : ∀ c c' r, connections.get? c = some r → connections.get? c' = some r → c = c'

namespace ConnectionRegistry

variable {σ : Type}

def empty : ConnectionRegistry σ := ⟨[], [], 0, .nil, nofun, nofun⟩

variable (reg : ConnectionRegistry σ)

/-- The content of a list object. -/
def listAt (r : ℕ) : List σ := reg.lists[r]?.getD []

/-- The sockets stored for a conversation. -/
def sockets (conversationId : String) : List σ := (reg.connections.get? conversationId).elim [] reg.listAt

/-- The number of sockets stored. -/
def total : ℕ := reg.connections.weight fun r => (reg.listAt r).length

/-! ## Operations -/

theorem store_allocated {conversationId : String} {sockets : List σ} (c : String) (r : ℕ)
    (h : (reg.connections.set conversationId reg.lists.length).get? c = some r) :
    r < (reg.lists ++ [sockets]).length := by
  rw [Dict.get?_set] at h
  rw [List.length_append, List.length_singleton]
  split at h
  · cases h
    omega
  · have hr := reg.allocated c r h
    omega

theorem store_unshared {conversationId : String} (c c' : String) (r : ℕ)
    (h : (reg.connections.set conversationId reg.lists.length).get? c = some r)
    (h' : (reg.connections.set conversationId reg.lists.length).get? c' = some r) : c = c' := by
  rw [Dict.get?_set] at h h'
  split at h <;> split at h'
  · next hc hc' => exact hc.symm.trans hc'
  · cases h
    exact absurd (reg.allocated c' _ h') (by omega)
  · cases h'
    exact absurd (reg.allocated c _ h) (by omega)
  · exact reg.unshared c c' r h h'

/-- `self._connections[conversation_id] = sockets`, a new list object. -/
def store (conversationId : String) (sockets : List σ) : ConnectionRegistry σ where
  connections := reg.connections.set conversationId reg.lists.length
  lists := reg.lists ++ [sockets]
  activeCount := reg.activeCount
  proper := reg.proper.set _ _
  allocated := reg.store_allocated
  unshared := reg.store_unshared

/-- `self._connections.pop(conversation_id, None)`. -/
def drop (conversationId : String) : ConnectionRegistry σ where
  connections := reg.connections.pop conversationId
  lists := reg.lists
  activeCount := reg.activeCount
  proper := reg.proper.pop _
  allocated c r h := by
    rw [Dict.get?_pop] at h
    split at h
    · cases h
    · exact reg.allocated c r h
  unshared c c' r h h' := by
    rw [Dict.get?_pop] at h h'
    split at h
    · cases h
    · split at h'
      · cases h'
      · exact reg.unshared c c' r h h'

/-- `sockets.append(ws)` on the list object `r`. -/
def append (r : ℕ) (ws : σ) : ConnectionRegistry σ :=
  { reg with
    lists := reg.lists.modify r (· ++ [ws])
    allocated := fun c r' h => by
      rw [List.length_modify]
      exact reg.allocated c r' h }

/-- The count goes up or down. -/
def recount (n : ℤ) : ConnectionRegistry σ := { reg with activeCount := n }

def add (conversationId : String) (ws : σ) : ConnectionRegistry σ :=
  match reg.connections.get? conversationId with
  | some r => (reg.append r ws).recount (reg.activeCount + 1)
  | none => (reg.store conversationId [ws]).recount (reg.activeCount + 1)

/-- `remove(conversation_id, ws)`; `ws` may be left out. -/
def remove [DecidableEq σ] (conversationId : String) : Option σ → ConnectionRegistry σ
  | none =>
    match reg.connections.get? conversationId with
    | none => reg
    | some r => (reg.drop conversationId).recount (reg.activeCount - (reg.listAt r).length)
  | some ws =>
    match reg.connections.get? conversationId with
    | none => reg
    | some r =>
      if reg.listAt r = [] then reg
      else
        let remaining := (reg.listAt r).filter fun registered => decide (registered ≠ ws)
        let reg := reg.recount (reg.activeCount - ((reg.listAt r).length - remaining.length : ℕ))
        if remaining = [] then reg.drop conversationId else reg.store conversationId remaining

end ConnectionRegistry

/-! ## `close_all` -/

/-- A `close_all` that waits in `ws.close`: the conversation and the sockets of its inner loop
still to come, and the items of the outer one. -/
structure Closing (σ : Type) where
  conversationId : String
  ws : σ
  sockets : List σ
  items : List (String × ℕ)
deriving DecidableEq

/-- The inner loop up to the next socket that is connected; `connected` is
`ws.client_state == WebSocketState.CONNECTED`. -/
def nextConnected {σ : Type} (connected : σ → Bool) : List σ → Option (σ × List σ)
  | [] => none
  | ws :: sockets => if connected ws then some (ws, sockets) else nextConnected connected sockets

namespace ConnectionRegistry

variable {σ : Type} (connected : σ → Bool)

/-- The outer loop, and what follows it. -/
def closeItems : ConnectionRegistry σ → List (String × ℕ) → ConnectionRegistry σ × Option (Closing σ)
  | reg, [] => (reg.recount 0, none)
  | reg, (cid, r) :: items =>
    match nextConnected connected (reg.listAt r) with
    | some (ws, sockets) => (reg, some ⟨cid, ws, sockets, items⟩)
    | none => closeItems (reg.drop cid) items

/-- `close_all`, its first section. -/
def closeAll (reg : ConnectionRegistry σ) : ConnectionRegistry σ × Option (Closing σ) :=
  reg.closeItems connected reg.connections

/-- `close_all` after a `ws.close`, however that ended. -/
def goOn (reg : ConnectionRegistry σ) (f : Closing σ) : ConnectionRegistry σ × Option (Closing σ) :=
  match nextConnected connected f.sockets with
  | some (ws, sockets) => (reg, some { f with ws := ws, sockets := sockets })
  | none => (reg.drop f.conversationId).closeItems connected f.items

end ConnectionRegistry

/-! ## Any callers -/

/-- The registry, and every `close_all` that is suspended. -/
structure RegistryState (σ : Type) where
  registry : ConnectionRegistry σ
  closing : List (Closing σ)

/-- A call, or a suspended `close_all` that goes on. -/
inductive RegistryEvent (σ : Type)
  | add (conversationId : String) (ws : σ)
  | remove (conversationId : String) (ws : Option σ)
  | closeAll (connected : σ → Bool)
  | goOn (k : ℕ) (connected : σ → Bool)

namespace RegistryState

variable {σ : Type} [DecidableEq σ] (w : RegistryState σ)

def init : RegistryState σ := ⟨.empty, []⟩

def step : RegistryEvent σ → RegistryState σ
  | .add cid ws => { w with registry := w.registry.add cid ws }
  | .remove cid ws => { w with registry := w.registry.remove cid ws }
  | .closeAll connected =>
    let r := w.registry.closeAll connected
    ⟨r.1, w.closing ++ r.2.toList⟩
  | .goOn k connected =>
    match w.closing[k]? with
    | none => w
    | some f =>
      let r := w.registry.goOn connected f
      ⟨r.1, w.closing.take k ++ r.2.toList ++ w.closing.drop (k + 1)⟩

/-- The state after the events `es`. -/
abbrev after (es : List (RegistryEvent σ)) : RegistryState σ := run step init es

end RegistryState

end Transcribe
