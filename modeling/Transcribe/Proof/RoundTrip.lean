import Transcribe.Model.Documents
import Transcribe.Model.Sample

/-!
# Reading a Kafka value back

A dump has every field, so it sets every field: `validate_modelDump`.

* `kafka_round_trip`: the request part of a Kafka value is a valid request again iff the
  event is SESSION_ONGOING; it then is the same message.
* `completion_not_read_back`: a SESSION_COMPLETE whose value is rejected.
-/

namespace Transcribe

variable {P : Pydantic}

/-! ## Fields -/

theorem readEnum_value (t : EventType) : readEnum EventType.all EventType.value (.str t.value) = some t := by
  cases t <;> decide

theorem readEnum_speaker (s : Speaker) : readEnum Speaker.all Speaker.value (.str s.value) = some s := by
  cases s <;> decide

theorem atMost_of_le {n : ℕ} {s : String} (h : s.length ≤ n) : atMost n s = some ⟨s, h⟩ := dif_pos h

theorem nonNegative_natCast (n : ℕ) : nonNegative n = some n := if_pos (Int.natCast_nonneg n)

theorem declaredKeys_self {fields : List String} {l : List (String × Json)} (h : l.map Prod.fst = fields) :
    declaredKeys fields (.obj l) = some fields := by
  subst h
  exact if_pos fun _ hk => hk

/-- A field of a dump is read from what is written for it. -/
theorem readField_of_get {α : Type} {raw : Json} {key : String} {j : Json} {read : Json → Option α} {a : α}
    (hj : raw.get? key = some j) (ha : read j = some a) : readField raw key read = some a := by
  unfold readField
  rw [hj, Option.bind_some, ha]

/-- A timestamp that is missing is written as null, and read as missing. -/
theorem readOptionalField_encode (h : P.Faithful) {raw : Json} {key : String} {t : Option Datetime}
    (hj : raw.get? key = some (encodeOptional P t)) : readOptionalField raw key P.readDatetime = some t := by
  unfold readOptionalField
  rw [hj]
  cases t with
  | none => rfl
  | some t =>
    show (P.readDatetime (.str (P.encodeDatetime t))).map some = _
    rw [h.datetime]
    rfl

/-! ## Dumps -/

theorem MetaData.validate_modelDump (h : P.Faithful) (m : MetaData) :
    MetaData.modelValidate P (m.modelDump P) = some m := by
  have hkeys : declaredKeys modelFields (m.modelDump P) = some modelFields := declaredKeys_self rfl
  have hid : readField (m.modelDump P) "conversationId" P.readStr = some m.conversationId :=
    readField_of_get rfl (h.str _)
  have hstart : readField (m.modelDump P) "callStartTimeStamp" P.readDatetime = some m.callStartTimeStamp :=
    readField_of_get rfl (h.datetime _)
  have hend : readOptionalField (m.modelDump P) "callEndTimeStamp" P.readDatetime = some m.callEndTimeStamp :=
    readOptionalField_encode h rfl
  have htype : readField (m.modelDump P) "eventType" (readEnum EventType.all EventType.value) =
      some m.eventType := readField_of_get rfl (readEnum_value _)
  unfold modelValidate
  simp only [hkeys, hid, hstart, hend, htype, Option.bind_eq_bind, Option.bind_some,
    atMost_of_le m.conversationId_length, Option.pure_def]

/-- **A dump sets every field.** -/
theorem Payload.validate_modelDump (h : P.Faithful) (p : Payload) :
    Payload.modelValidate P (p.modelDump P) = some { p with modelFieldsSet := modelFields } := by
  have hkeys : declaredKeys modelFields (p.modelDump P) = some modelFields := declaredKeys_self rfl
  have hseq : readField (p.modelDump P) "sequenceNumber" P.readInt = some (p.sequenceNumber : ℤ) :=
    readField_of_get rfl (h.int _)
  have hspeaker : readField (p.modelDump P) "speaker" (readEnum Speaker.all Speaker.value) = some p.speaker :=
    readField_of_get rfl (readEnum_speaker _)
  have htranscript : readField (p.modelDump P) "transcript" P.readStr = some p.transcript :=
    readField_of_get rfl (h.str _)
  have hengine : readField (p.modelDump P) "engineProvider" P.readStr = some p.engineProvider :=
    readField_of_get rfl (h.str _)
  have hdialect : readField (p.modelDump P) "dialect" P.readStr = some p.dialect :=
    readField_of_get rfl (h.str _)
  have hfinal : readField (p.modelDump P) "isFinal" P.readBool = some p.isFinal :=
    readField_of_get rfl (h.bool _)
  have hspeak : readOptionalField (p.modelDump P) "speakTimeStamp" P.readDatetime = some p.speakTimeStamp :=
    readOptionalField_encode h rfl
  have hgenerate : readOptionalField (p.modelDump P) "transcriptGenerateTimeStamp" P.readDatetime =
      some p.transcriptGenerateTimeStamp := readOptionalField_encode h rfl
  unfold modelValidate
  simp only [hkeys, hseq, hspeaker, htranscript, hengine, hdialect, hfinal, hspeak, hgenerate,
    Option.bind_eq_bind, Option.bind_some, nonNegative_natCast, atMost_of_le p.transcript_length,
    atMost_of_le p.engineProvider_length, atMost_of_le p.dialect_length, Option.pure_def]

/-! ## Rules -/

/-- Validation of a document whose parts have been read comes down to the business rules. -/
theorem InboundMessage.modelValidate_eq {raw : Json} {m : MetaData} {p : Payload} {msg : InboundMessage}
    (hkeys : declaredKeys ["metaData", "payload"] raw = some ["metaData", "payload"])
    (hm : readField raw "metaData" (MetaData.modelValidate P) = some m)
    (hp : readField raw "payload" (Payload.modelValidate P) = some p) :
    InboundMessage.modelValidate P raw = some msg ↔ msg.metaData = m ∧ msg.payload = p := by
  unfold modelValidate
  simp only [hkeys, hm, hp, Option.bind_eq_bind, Option.bind_some]
  obtain ⟨m', p', hrules⟩ := msg
  split
  · simp only [Option.some.injEq, InboundMessage.mk.injEq]
    exact and_congr eq_comm eq_comm
  · next text htext =>
    refine iff_of_false (Option.some_ne_none _).symm ?_
    rintro ⟨rfl, rfl⟩
    rw [htext] at hrules
    cases hrules

/-- With every field set, the rules are kept by an ongoing message and broken by a complete
one. -/
theorem InboundMessage.rules_of_all_set (msg : InboundMessage) :
    checkBusinessRules msg.metaData { msg.payload with modelFieldsSet := Payload.modelFields } = none ↔
      msg.eventType = .sessionOngoing := by
  have hrules := msg.rules
  unfold checkBusinessRules at hrules ⊢
  cases ht : msg.metaData.eventType with
  | sessionOngoing =>
    rw [ht] at hrules
    exact iff_of_true hrules ht
  | sessionComplete =>
    refine iff_of_false ?_ (by rw [InboundMessage.eventType, ht]; nofun)
    have hset : "speakTimeStamp" ∈ Payload.modelFields := by decide
    simp only [if_pos hset]
    split
    · nofun
    · split <;> nofun

/-- **Reading a Kafka value back.** -/
theorem kafka_round_trip (h : P.Faithful) (producedAt : Datetime) (msg : InboundMessage) :
    (∃ msg', InboundMessage.modelValidate P (requestPart ((toKafkaPayload producedAt msg).document P)) =
      some msg' ∧ msg'.Equal msg) ↔ msg.eventType = .sessionOngoing := by
  have hkeys : declaredKeys ["metaData", "payload"] (requestPart ((toKafkaPayload producedAt msg).document P)) =
      some ["metaData", "payload"] := declaredKeys_self rfl
  have hvalid : ∀ {msg'}, InboundMessage.modelValidate P
      (requestPart ((toKafkaPayload producedAt msg).document P)) = some msg' ↔
      msg'.metaData = msg.metaData ∧ msg'.payload = { msg.payload with modelFieldsSet := Payload.modelFields } :=
    InboundMessage.modelValidate_eq hkeys (readField_of_get rfl (MetaData.validate_modelDump h _))
      (readField_of_get rfl (Payload.validate_modelDump h _))
  rw [← InboundMessage.rules_of_all_set msg]
  constructor
  · rintro ⟨msg', hmsg', -⟩
    obtain ⟨hm, hp⟩ := hvalid.1 hmsg'
    rw [← hm, ← hp]
    exact msg'.rules
  · intro hrules
    exact ⟨⟨msg.metaData, _, hrules⟩, hvalid.2 ⟨rfl, rfl⟩, rfl, rfl⟩

section

open Sample

/-- The epoch as it is written, any other timestamp by its microseconds in unary. -/
def encodeUnary (t : Datetime) : String :=
  if t.micros = 0 then epoch
  else String.ofList ((if 0 ≤ t.micros then '+' else '-') :: List.replicate t.micros.natAbs '0')

def readUnary (s : String) : Option Datetime :=
  match s.toList with
  | '+' :: l => some ⟨l.length⟩
  | '-' :: l => some ⟨-l.length⟩
  | _ => if s = epoch then some ⟨0⟩ else none

/-- pydantic on values of the fields' own JSON types. -/
def strict : Pydantic where
  readStr
    | .str s => some s
    | _ => none
  readInt
    | .int n => some n
    | _ => none
  readBool
    | .bool b => some b
    | _ => none
  readDatetime
    | .str s => readUnary s
    | _ => none
  encodeDatetime := encodeUnary
  formatUtcTimestamp := encodeUnary

theorem strict_faithful : strict.Faithful := by
  refine ⟨fun _ => rfl, fun _ => rfl, fun _ => rfl, fun t => ?_⟩
  show readUnary (encodeUnary t) = some t
  obtain ⟨n⟩ := t
  unfold encodeUnary
  by_cases h0 : n = 0
  · subst h0
    decide
  · rw [if_neg h0]
    unfold readUnary
    rw [String.toList_ofList]
    by_cases hpos : 0 ≤ n
    · simp only [hpos, ↓reduceIte, List.length_replicate, Option.some.injEq, Datetime.mk.injEq]
      omega
    · simp only [hpos, ↓reduceIte, List.length_replicate, Option.some.injEq, Datetime.mk.injEq]
      omega

/-- A plain message comes back from its Kafka value. -/
theorem ongoing_read_back : ∃ msg', InboundMessage.modelValidate strict
    (requestPart ((toKafkaPayload ⟨0⟩ (ongoingMessage 0)).document strict)) = some msg' ∧
      msg'.Equal (ongoingMessage 0) :=
  (kafka_round_trip strict_faithful ⟨0⟩ (ongoingMessage 0)).2 rfl

/-- **A completion is accepted, the request part of its Kafka value is not.** -/
theorem completion_not_read_back : ∃ msg, InboundMessage.modelValidate strict (complete 1) = some msg ∧
    InboundMessage.modelValidate strict (requestPart ((toKafkaPayload ⟨0⟩ msg).document strict)) = none := by
  refine ⟨⟨⟨cid, ⟨0⟩, some ⟨0⟩, .sessionComplete, by decide⟩,
    ⟨1, .system, "EOL", "EngineA", "en-US", true, none, none,
      ["sequenceNumber", "speaker", "transcript", "engineProvider", "dialect", "isFinal"], by decide, by decide,
      by decide⟩, by decide⟩, by rfl, by rfl⟩

end

end Transcribe
