import Transcribe.Model.Session

/-!
# Dialogues

A dialogue is the message loop of a session together with the message handlers it runs: a
program over the calls to the socket and to the backends. `Dialogues` are any number of
them over one backend, which answers one call at a time.

Of Redis the backend has the sequence keys alone. The ownership keys are in the same Redis; where
the two prefixes are `Apart` no key is of both families (`keys_ne_iff`), and the guard's commands
touch no sequence key. The dialogues are those of a deployment with such prefixes.
-/

namespace Transcribe

open Resumption EventSystem

/-! ## One dialogue -/

/-- What a dialogue asks of its environment. -/
inductive SessionCall
  | conn (i : ConnCall)
  | backend (c : Call)

def SessionReply : SessionCall → Type
  | .conn i => ConnReply i
  | .backend c => Reply c

/-- A message is handed to the orchestrator, every other call goes to the environment. -/
def Deps.serve (d : Deps) : (i : ConnCall) → Prog SessionCall SessionReply (ConnReply i)
  | .handleMessage raw c =>
    (d.program ⟨raw, c⟩).interp fun call => .call (SessionCall.backend call) fun r => .ret r
  | i => .call (SessionCall.conn i) fun r => .ret r

/-- `_run_ws_message_loop` with its exception handlers, composed with `handle_message`. -/
def Transport.session (t : Transport) (d : Deps) (conversationId : String) (frames : ℕ) :
    Prog SessionCall SessionReply (Except Exc Unit) :=
  (t.guardedMessageLoop conversationId frames).run.interp d.serve

/-! ## Any number of them -/

variable {t : Transport} {d : Deps}

/-- A dialogue under way. -/
structure Dialogue (t : Transport) (d : Deps) where
  conversationId : String
  frames : ℕ
  thread : Thread (t.session d conversationId frames)

namespace Dialogue

def start (conversationId : String) (frames : ℕ) : Dialogue t d := ⟨conversationId, frames, .start _⟩

variable (x : Dialogue t d)

/-- The call the dialogue waits in. -/
def pending : Option SessionCall := x.thread.rest.pending

def advance (answer : (i : SessionCall) → SessionReply i) : Dialogue t d :=
  { x with thread := x.thread.advance answer }

end Dialogue

structure Dialogues (t : Transport) (d : Deps) where
  backend : Backend
  dialogues : List (Dialogue t d)

/-- Dialogue `id` goes on with its call: a backend call with a fate and the clock, another
one with an answer. Or a second passes. -/
inductive DialogueEvent
  | go (id : ℕ) (fate : Fate) (now : Datetime) (answer : (i : ConnCall) → ConnReply i)
  | tick

namespace Dialogues

/-- Before the first call of these dialogues. -/
def init (l : List (String × ℕ)) : Dialogues t d := ⟨.init, l.map fun p => .start p.1 p.2⟩

variable (w : Dialogues t d)

/-- The replies to the calls of a dialogue; a backend call is run with its fate. -/
def reply (fate : Fate) (now : Datetime) (answer : (i : ConnCall) → ConnReply i) :
    (i : SessionCall) → SessionReply i
  | .conn i => answer i
  | .backend c => (w.backend.exec d.sm fate now c).2

/-- The backend after a call of a dialogue. -/
def served (fate : Fate) (now : Datetime) : SessionCall → Backend
  | .conn _ => w.backend
  | .backend c => (w.backend.exec d.sm fate now c).1

def step : DialogueEvent → Dialogues t d
  | .tick => { w with backend := w.backend.tick }
  | .go id fate now answer =>
    match w.dialogues[id]? with
    | none => w
    | some x =>
      match x.pending with
      | none => w
      | some i =>
        ⟨w.served fate now i, w.dialogues.set id (x.advance (w.reply fate now answer))⟩

/-- The state after the events `es`, for these dialogues. -/
abbrev after (t : Transport) (d : Deps) (l : List (String × ℕ)) (es : List DialogueEvent) :
    Dialogues t d := run step (init l) es

end Dialogues

/-- What is left of an event when dialogue `id` runs alone. -/
def DialogueEvent.alone (id : ℕ) : DialogueEvent → Option DialogueEvent
  | .go id' fate now answer => if id' = id then some (.go 0 fate now answer) else none
  | .tick => some .tick

end Transcribe
