import Transcribe.Model.Sample
import Transcribe.Proof.Retry

/-!
# What happens at `2 ^ 53`

Lua's numbers are doubles, so the counter stops at `2 ^ 53`. The runs below are healthy
runs of plain messages from `0` on.

* `acknowledged_at_top`: message `2 ^ 53` is acknowledged and the counter does not pass it.
* `client_passes_counter`: a conforming client is then ahead of the counter.
-/

namespace Transcribe

open Resumption EventSystem World Sample

/-- No handler is in flight. -/
def World.Idle {d : Deps} (w : World d) : Prop := ∀ h ∈ w.handlers, h.pending = none

theorem along_execs {d : Deps} {ok : World d → Event → Prop}
    (hok : ∀ w id fate now, ok w (.exec id fate now)) {id : ℕ} (w : World d)
    (clock : ℕ → Datetime) (k : ℕ) : Along step ok w (execs id clock k) := by
  induction k generalizing w clock with
  | zero => trivial
  | succ k ih => rw [execs_succ]; exact ⟨hok .., ih ..⟩

/-- Message `n`, and `k` calls of its handler that do not fail. -/
def round (w : World deps) (n k : ℕ) : List Event :=
  .submit (message n) :: execs w.handlers.length (fun _ => ⟨0⟩) k

theorem along_round {w : World deps} (hw : w.Idle) (n k : ℕ) :
    Along step (fun w e => w.Sequential cid e ∧ w.NoExpiry cid e) w (round w n k) :=
  ⟨⟨fun _ h hh _ => hw h hh, trivial⟩, along_execs (fun _ _ _ _ => ⟨trivial, trivial⟩) _ _ _⟩

/-- One healthy message in an idle service: it is acknowledged, and the counter moves on
as far as Lua counts. -/
theorem idle_round {w : World deps} (hw : w.Idle) {n : ℕ} (hn : tonumber n ≤ w.stored cid) :
    ∃ k h r, (run step w (round w n k)).handlers = w.handlers ++ [h] ∧ h.answer? = some r ∧
      (∃ t, r.response = buildTranscriptAck t cid n) ∧ (run step w (round w n k)).Idle ∧
      (run step w (round w n k)).stored cid =
        if tonumber n = w.stored cid then luaSucc n else w.stored cid := by
  obtain ⟨k, h, r, hrun, -, hr, ⟨t, hresp, -⟩, hst⟩ :=
    healthy_round w (s := message n) (m := ongoingMessage n) rfl rfl hn fun _ => ⟨0⟩
  refine ⟨k, h, r, hrun, hr, ⟨t, hresp⟩, ?_, hst⟩
  intro x hx
  rw [round, run_cons, hrun] at hx
  rcases List.mem_append.1 hx with hx | hx
  · exact hw x hx
  · rw [List.mem_singleton] at hx; subst hx; exact Handler.pending_of_answer hr

/-! ## The counter -/

/-- Healthy messages `0, …, n - 1`. -/
theorem healthy_run {n : ℕ} (hn : n ≤ 2 ^ 53) :
    ∃ es, Along step (fun w e => w.Sequential cid e ∧ w.NoExpiry cid e) (init : World deps) es ∧
      (after deps es).Idle ∧ (after deps es).stored cid = n := by
  induction n with
  | zero => exact ⟨[], trivial, by simp [Idle, init], rfl⟩
  | succ n ih =>
    obtain ⟨es, hal, hidle, hst⟩ := ih (by omega)
    have htn : tonumber n = n := tonumber_of_le (by omega)
    obtain ⟨k, -, -, -, -, -, hidle', hst'⟩ := idle_round hidle (n := n) (by rw [htn, hst])
    refine ⟨es ++ _, (along_append _ _).2 ⟨hal, along_round hidle n k⟩, ?_, ?_⟩
    · rw [World.after, run_append]; exact hidle'
    · rw [World.after, run_append, hst', if_pos (htn.trans hst.symm), luaSucc_of_lt (by omega)]

/-- **Message `2 ^ 53` is acknowledged and not below the expected sequence.** -/
theorem acknowledged_at_top : ∃ es,
    Along step (fun w e => w.Sequential cid e ∧ w.NoExpiry cid e) (init : World deps) es ∧
      2 ^ 53 ∈ (after deps es).Acked cid ∧ (after deps es).stored cid = 2 ^ 53 := by
  obtain ⟨es, hal, hidle, hst⟩ := healthy_run le_rfl
  have htn : tonumber (2 ^ 53) = 2 ^ 53 := tonumber_of_le le_rfl
  obtain ⟨k, h, r, hrun, hr, ⟨t, hresp⟩, -, hst'⟩ :=
    idle_round hidle (n := 2 ^ 53) (by rw [htn, hst])
  refine ⟨es ++ _, (along_append _ _).2 ⟨hal, along_round hidle (2 ^ 53) k⟩, ?_, ?_⟩
  · rw [World.after, run_append]
    exact ⟨h, by rw [hrun]; simp, r, hr, .transcriptAck, t, hresp⟩
  · rw [World.after, run_append, hst', if_pos (htn.trans hst.symm), luaSucc_eq_min htn.le, htn]
    rfl

/-! ## The client -/

theorem run_service {d : Deps} {c : Client d} (es : List Event) (s : ClientWorld d) :
    run c.step s (es.map .service) = { s with world := run World.step s.world es } := by
  induction es generalizing s with
  | nil => rfl
  | cons e es ih => rw [List.map_cons, run_cons, ih]; rfl

theorem along_service {d : Deps} {c : Client d} {id : ℕ} {clock : ℕ → Datetime} (k : ℕ)
    (s : ClientWorld d) : Along c.step c.Composed s ((execs id clock k).map .service) := by
  induction k generalizing s clock with
  | zero => trivial
  | succ k ih => rw [execs_succ]; exact ⟨trivial, ih _⟩

/-- One healthy message of the client, and its ACK. -/
theorem client_round {s : ClientWorld deps} (hs : s.world.Idle)
    (hn : tonumber s.index ≤ s.world.stored cid) :
    ∃ es, Along client.step client.Composed s es ∧ (run client.step s es).world.Idle ∧
      (run client.step s es).index = s.index + 1 ∧
      (run client.step s es).world.stored cid =
        if tonumber s.index = s.world.stored cid then luaSucc s.index else s.world.stored cid := by
  obtain ⟨k, h, r, hrun, hr, ⟨t, hresp⟩, hidle, hst⟩ := idle_round hs hn
  have hserved : run client.step s
      (.submit :: (execs s.world.handlers.length (fun _ => ⟨0⟩) k).map .service) =
        ⟨run World.step s.world (round s.world s.index k), s.index⟩ := by
    rw [run_cons, run_service]; rfl
  have hack : client.isAck s.index (some r) = true := by
    rw [show r = ⟨buildTranscriptAck t cid s.index, r.disconnect, r.closeCode⟩ by rw [← hresp]]
    simp [Client.isAck, buildTranscriptAck, buildSuccessResponse, client]
  have hdeliver : client.step ⟨run World.step s.world (round s.world s.index k), s.index⟩
      (.deliver s.world.handlers.length) =
        ⟨run World.step s.world (round s.world s.index k), s.index + 1⟩ := by
    simp only [Client.step, hrun, List.getElem?_concat_length, Option.bind_some, hr, hack, if_true]
  refine ⟨.submit :: (execs s.world.handlers.length (fun _ => ⟨0⟩) k).map .service ++
    [.deliver s.world.handlers.length], (along_append _ _).2 ⟨⟨?_, along_service k _⟩, ?_⟩, ?_⟩
  · exact fun _ h hh _ => hs h hh
  · exact ⟨trivial, trivial⟩
  · rw [run_append, hserved, run_cons, run_nil, hdeliver]
    exact ⟨hidle, rfl, hst⟩

/-- Healthy messages of the client up to `2 ^ 53`. -/
theorem client_run {n : ℕ} (hn : n ≤ 2 ^ 53 + 1) :
    ∃ es, Along client.step client.Composed Client.init es ∧ (client.after es).world.Idle ∧
      (client.after es).index = n ∧ (client.after es).world.stored cid = min n (2 ^ 53) := by
  induction n with
  | zero => exact ⟨[], trivial, by simp [Idle, Client.init, init], rfl, rfl⟩
  | succ n ih =>
    obtain ⟨es, hal, hidle, hi, hst⟩ := ih (by omega)
    have htn : tonumber n = n := tonumber_of_le (by omega)
    have hst' : (client.after es).world.stored cid = n := by rw [hst]; omega
    obtain ⟨es', hal', hidle', hi', hst''⟩ := client_round hidle (by rw [hi, htn, hst'])
    refine ⟨es ++ es', (along_append _ _).2 ⟨hal, hal'⟩, ?_, ?_, ?_⟩
    · rw [Client.after, run_append]; exact hidle'
    · rw [Client.after, run_append, hi', hi]
    · rw [Client.after, run_append, hst'', hi, hst', if_pos htn,
        luaSucc_eq_min (by rw [htn]; omega), htn]

/-- **The client gets ahead of the counter**: after the ACK of message `2 ^ 53` the
expected sequence is neither its index nor one more. -/
theorem client_passes_counter : ∃ es, Along client.step client.Composed Client.init es ∧
    (client.after es).index = 2 ^ 53 + 1 ∧ (client.after es).world.stored cid = 2 ^ 53 := by
  obtain ⟨es, hal, -, hi, hst⟩ := client_run (n := 2 ^ 53 + 1) le_rfl
  exact ⟨es, hal, hi, by rw [hst]; omega⟩

end Transcribe
