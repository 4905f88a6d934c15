import Transcribe.Model.Sample
import Transcribe.Proof.LogComplete

/-!
# What stands behind an ACK

An ACK has the type of the submitted message's own event, for a replay too: the only
state that survives a message is a number.

* `ack_backed`: behind every ACK is a record of its conversation and number; it has the
  ACK's type if the handler committed it itself, or if no message of another type was
  submitted under that number.
* `replayed_completion`: a completion submitted under a number already accepted for an
  ongoing message is answered EOL_ACK.
-/

namespace Transcribe

open Resumption EventSystem World

variable {d : Deps}

theorem IsError.eventType {s : ProtocolErrorScenario} {r : OrchestratorResult} (h : IsError s r) :
    r.response.eventType = .error := by
  obtain ⟨t, cid, details, h, -⟩ := h
  rw [h]; rfl

/-- The response acknowledges the number `n` of the conversation. -/
def Response.Acks (cid : String) (n : ℕ) (r : Response) : Prop :=
  ∃ type t, r = .ack cid type n t

theorem IsError.not_acks {s : ProtocolErrorScenario} {r : OrchestratorResult} (h : IsError s r)
    {cid : String} {n : ℕ} : ¬ r.response.Acks cid n := by
  obtain ⟨t, cid', details, h, -⟩ := h
  rintro ⟨type, t', h'⟩
  rw [h] at h'; cases h'

/-- An ACK is for its message. -/
theorem IsAck.acks {m : InboundMessage} {r : OrchestratorResult} (h : IsAck m r) {cid : String}
    {n : ℕ} (hr : r.response.Acks cid n) : m.conversationId = cid ∧ m.sequenceNumber = n := by
  obtain ⟨t, h, -⟩ := h
  obtain ⟨type, t', h'⟩ := hr
  rw [h] at h'
  split at h' <;> cases h' <;> exact ⟨rfl, rfl⟩

/-- An answer that is no ERROR comes after a replay or a commit. -/
theorem Handler.acked {h : Handler d} {r : OrchestratorResult} (hr : h.answer? = some r)
    (hack : ∀ s, ¬ IsError s r) :
    (h.stage = .replayed ∨ h.stage = .committed) ∧ ∃ m ∈ h.message?, IsAck m r := by
  have ha := h.answers hr
  cases hs : h.stage with
  | replayed => rw [hs] at ha; exact ⟨.inl rfl, ha⟩
  | committed => rw [hs] at ha; exact ⟨.inr rfl, ha⟩
  | start => rw [hs] at ha; obtain ⟨-, s, he⟩ := ha; exact absurd he (hack s)
  | ready => rw [hs] at ha; exact absurd ha.2 (hack _)
  | persisted => rw [hs] at ha; exact ha.elim
  | failed s => rw [hs] at ha; exact absurd ha (hack s)

/-- **Behind every ACK is a record.** -/
theorem ack_backed (es : List Event) {h : Handler d} (hh : h ∈ (after d es).handlers)
    {r : OrchestratorResult} (hr : h.answer? = some r) (hack : r.response.eventType ≠ .error) :
    ∃ m ∈ h.message?, IsAck m r ∧ ∃ rec ∈ (after d es).records m.conversationId,
      rec.number = m.sequenceNumber ∧
      (h.stage = .committed → ∃ t, rec.value = toKafkaPayload t m) ∧
      ((∀ m', (after d es).Submitted m' → m'.conversationId = m.conversationId →
        m'.sequenceNumber = m.sequenceNumber → m'.eventType = m.eventType) →
        rec.eventType = m.eventType) := by
  obtain ⟨hs, m, hm, hackm⟩ := h.acked hr fun _ he => hack he.eventType
  refine ⟨m, hm, hackm, ?_⟩
  have hb := (run_complete es).backed h hh m hm
  rcases hs with hs | hs
  · rw [hs] at hb
    obtain ⟨rec, hrec, hn⟩ := hb
    refine ⟨rec, hrec, hn, fun h => by simp [hs] at h, fun hall => ?_⟩
    -- the record comes from a message submitted under the same number
    obtain ⟨m', hm', t, rfl⟩ := run_provenance es rec (Backend.mem_records.1 hrec).1
    exact hall m' hm' (Backend.mem_records.1 hrec).2 hn
  · rw [hs] at hb
    obtain ⟨t, ht⟩ := hb
    exact ⟨_, Backend.mem_records.2 ⟨ht, rfl⟩, rfl, fun _ => ⟨t, rfl⟩, fun _ => rfl⟩

section

open Sample

/-- Message `0` goes through, then a completion is submitted under the same number. -/
def replayedCompletion : List Event :=
  [.submit (message 0), ok 0, ok 0, ok 0, ok 0, ok 0, .submit (completion 0), ok 1, ok 1]

/-- The first message's TRANSCRIPT_ACK is backed. -/
theorem ack_backed_first : ∃ h ∈ (after deps replayedCompletion).handlers, ∃ m ∈ h.message?,
    ∃ rec ∈ (after deps replayedCompletion).records m.conversationId,
      rec.number = m.sequenceNumber := by
  obtain ⟨h, hh, hr⟩ : ∃ h ∈ (after deps replayedCompletion).handlers,
      h.answer? = some ⟨buildTranscriptAck ⟨0⟩ cid 0, false, .normal⟩ := by decide
  obtain ⟨m, hm, -, rec, hrec, hn, -⟩ := ack_backed replayedCompletion hh hr (by decide)
  exact ⟨h, hh, m, hm, rec, hrec, hn⟩

/-- **The ACK of a replay has the replayed event's type, not the accepted one's.** -/
theorem replayed_completion :
    Along step (fun w e => w.Sequential cid e ∧ w.NoExpiry cid e) (init : World deps)
      replayedCompletion ∧
    (∃ h ∈ (after deps replayedCompletion).handlers,
      h.answer? = some ⟨buildEolAck ⟨0⟩ cid 0, true, .normal⟩) ∧
    ∀ rec ∈ (after deps replayedCompletion).records cid, rec.number = 0 →
      rec.eventType ≠ .sessionComplete := by
  decide

end

end Transcribe
