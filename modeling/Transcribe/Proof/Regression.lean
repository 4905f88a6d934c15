import Transcribe.Model.Sample
import Transcribe.Proof.Steps

/-!
# When the expected sequence regresses

`LUA_COMMIT` writes its argument's successor whatever the key holds, so a handler that
commits late takes the counter back.

* `counter_never_regresses`: while commits come in the order of their numbers, the
  counter never falls, over any interleaving of handlers.
* `late_commit_regresses`: a run in which a late commit of `0` lowers it from `2` to `1`.
-/

namespace Transcribe

open Resumption EventSystem

variable {d : Deps}

namespace World

/-- The status a pre-check of `n` gets. -/
def prepareStatus (w : World d) (cid : String) (n : ℕ) : PrepareResult :=
  (d.sm.prepare w.backend.redis cid n).2.status

theorem prepareStatus_eq (w : World d) (cid : String) (n : ℕ) : w.prepareStatus cid n =
    if tonumber n = w.stored cid then .preCheckOk
    else if tonumber n < w.stored cid then .idempotent else .outOfOrder := by
  unfold prepareStatus
  rw [d.sm.prepare_snd]
  rfl

/-- How a step moves the expected sequence: only a commit that takes effect does. -/
theorem step_stored {w : World d} {e : Event} {cid : String} (hexp : w.NoExpiry cid e) :
    ((w.step e).stored cid = w.stored cid ∧
      (w.step e).backend.commitsOf cid = w.backend.commitsOf cid) ∨
    ∃ id fate now seq, e = .exec id fate now ∧ (∀ x, fate ≠ .failed x) ∧
      w.pending id = some (.commit cid seq) ∧ (w.step e).stored cid = luaSucc seq ∧
      (w.step e).backend.commitsOf cid = w.backend.commitsOf cid ++ [seq] := by
  cases e with
  | submit s => exact .inl ⟨rfl, rfl⟩
  | stop id => exact .inl ⟨rfl, rfl⟩
  | tick => exact .inl ⟨Backend.stored_tick hexp, rfl⟩
  | exec id fate now =>
    rcases step_exec w id fate now with h | ⟨h, c, hh, hc, h⟩
    · rw [h]; exact .inl ⟨rfl, rfl⟩
    rw [h]
    rcases @Backend.exec_stored d.sm w.backend c cid fate now with hs | ⟨seq, rfl, hf, hs, hcom⟩
    · exact .inl hs
    · exact .inr ⟨id, fate, now, seq, rfl, hf, by simp [pending, hh, hc], hs, hcom⟩

/-- The expected sequence is that of some commit, or none has happened. -/
def FromCommit (cid : String) (w : World d) : Prop :=
  w.stored cid = 0 ∨ ∃ n ∈ w.backend.commitsOf cid, w.stored cid = luaSucc n

theorem step_fromCommit {w : World d} {e : Event} {cid : String} (hw : w.FromCommit cid)
    (hexp : w.NoExpiry cid e) : (w.step e).FromCommit cid := by
  rcases step_stored hexp with ⟨hs, hc⟩ | ⟨id, fate, now, seq, -, -, -, hs, hc⟩
  · unfold FromCommit; rw [hs, hc]; exact hw
  · exact .inr ⟨seq, by rw [hc]; simp, hs⟩

/-- A commit in order does not lower the expected sequence. -/
theorem stored_le_step {w : World d} {e : Event} {cid : String} (hw : w.FromCommit cid)
    (hexp : w.NoExpiry cid e) (hord : w.CommitsInOrder cid e) :
    w.stored cid ≤ (w.step e).stored cid := by
  rcases step_stored hexp with ⟨hs, -⟩ | ⟨id, fate, now, seq, rfl, hf, hp, hs, -⟩
  · exact hs.ge
  rw [hs]
  have hle : ∀ n ∈ w.backend.commitsOf cid, n ≤ seq := by
    cases fate with
    | failed x => exact absurd rfl (hf x)
    | _ => simpa [CommitsInOrder, hp, Call.commitOf] using hord
  rcases hw with h0 | ⟨n, hn, hs'⟩
  · omega
  · rw [hs']; exact luaSucc_mono (hle n hn)

/-- A number answered IDEMPOTENT is below the expected sequence, and then stays so. -/
theorem not_preCheckOk {w w' : World d} {cid : String} {n : ℕ} (hle : w.stored cid ≤ w'.stored cid)
    (hn : w.prepareStatus cid n = .idempotent) : w'.prepareStatus cid n ≠ .preCheckOk := by
  rw [prepareStatus_eq] at hn ⊢
  have hlt : tonumber n < w.stored cid := by
    by_contra h
    split_ifs at hn
  rw [if_neg (by omega), if_pos (by omega)]
  decide

/-- **The counter never regresses while commits come in order**: over every run in
which the key does not expire, whatever the interleaving, the failures and the
handlers cut off. -/
theorem counter_never_regresses {cid : String} {es es' : List Event}
    (h : Along step (fun w e => w.NoExpiry cid e ∧ w.CommitsInOrder cid e) (init : World d)
      (es ++ es')) :
    (after d es).stored cid ≤ (after d (es ++ es')).stored cid ∧
      ∀ n, (after d es).prepareStatus cid n = .idempotent →
        (after d (es ++ es')).prepareStatus cid n ≠ .preCheckOk := by
  rw [along_append] at h
  have hfrom : (after d es).FromCommit cid :=
    along_inv (fun _ _ hw hok => step_fromCommit hw hok.1) (.inl rfl) h.1
  have hle : (after d es).stored cid ≤ (after d (es ++ es')).stored cid := by
    rw [after, after, run_append]
    exact along_rel (R := fun w w' => w.stored cid ≤ w'.stored cid) (fun _ => le_rfl)
      (fun _ _ _ => le_trans) (fun _ _ hw hok => step_fromCommit hw hok.1)
      (fun _ _ hw hok => stored_le_step hw hok.1 hok.2) hfrom h.2
  exact ⟨hle, fun n hn => not_preCheckOk hle hn⟩

section

open Sample

/-- Handlers `0` and `1` both pre-check message `0`; handler `1` goes through, then
handler `2` with message `1`. -/
def overtaken : List Event :=
  [.submit (message 0), .submit (message 0), ok 0, ok 1, ok 1, ok 1, ok 1, ok 1,
    .submit (message 1), ok 2, ok 2, ok 2, ok 2, ok 2]

/-- Up to there commits come in order. -/
theorem overtaken_never_regresses :
    (after deps (overtaken.take 8)).stored cid ≤
        (after deps (overtaken.take 8 ++ overtaken.drop 8)).stored cid ∧
      ∀ n, (after deps (overtaken.take 8)).prepareStatus cid n = .idempotent →
        (after deps (overtaken.take 8 ++ overtaken.drop 8)).prepareStatus cid n ≠ .preCheckOk :=
  counter_never_regresses (by decide)

/-- **A late commit lowers the counter**: handler `0` goes on to send and commit `0`,
and `1`, answered IDEMPOTENT before, passes the pre-check again. -/
theorem late_commit_regresses :
    Along step (NoExpiry cid) (init : World deps) (overtaken ++ [ok 0, ok 0, ok 0]) ∧
      (after deps overtaken).stored cid = 2 ∧
      (after deps (overtaken ++ [ok 0, ok 0, ok 0])).stored cid = 1 ∧
      (after deps overtaken).prepareStatus cid 1 = .idempotent ∧
      (after deps (overtaken ++ [ok 0, ok 0, ok 0])).prepareStatus cid 1 = .preCheckOk := by
  decide

end

end World

end Transcribe
