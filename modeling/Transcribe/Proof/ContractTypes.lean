import Transcribe.Proof.Outcome
import Transcribe.Proof.Validation

/-!
# The JSON types of accepted messages

* `contractFields`: the fields of a request with the types of the API contract; `ContractTyped`:
  every field has its type.
* `Converts`: the values of another type that pydantic converts.
* `contract_types_iff`: an accepted document has the types of the contract iff it has no value that
  is converted; a value that is not converted is rejected, one that is converted is accepted as what it
  stands for; what is rejected asks no backend.
* `string_accepted`: a sequence number sent as a string.
-/

namespace Transcribe

variable {T : Lax} {raw : Json}

/-! ## The contract -/

/-- What a field holds. -/
inductive FieldKind | text | integer | boolean | timestamp
deriving DecidableEq

/-- The JSON type the contract gives a field. -/
def FieldKind.Has : FieldKind → Json → Prop
  | text, .str _ | timestamp, .str _ => True
  | integer, .int _ => True
  | boolean, .bool _ => True
  | _, _ => False

/-- A field of a request; an optional one may be null. -/
structure ContractField where
  part : String
  key : String
  kind : FieldKind
  optional : Bool
deriving DecidableEq

/-- The tables of the contract. -/
def contractFields : List ContractField :=
  [⟨"metaData", "conversationId", .text, false⟩, ⟨"metaData", "callStartTimeStamp", .timestamp, false⟩,
    ⟨"metaData", "callEndTimeStamp", .timestamp, true⟩, ⟨"metaData", "eventType", .text, false⟩,
    ⟨"payload", "sequenceNumber", .integer, false⟩, ⟨"payload", "speaker", .text, false⟩,
    ⟨"payload", "transcript", .text, false⟩, ⟨"payload", "engineProvider", .text, false⟩,
    ⟨"payload", "dialect", .text, false⟩, ⟨"payload", "isFinal", .boolean, false⟩,
    ⟨"payload", "speakTimeStamp", .timestamp, true⟩,
    ⟨"payload", "transcriptGenerateTimeStamp", .timestamp, true⟩]

/-- The value of a field. -/
def Json.field (raw : Json) (f : ContractField) : Option Json := (raw.get? f.part).bind (·.get? f.key)

/-- The value is of the field's type, or null where that is allowed. -/
def ContractField.Typed (f : ContractField) (j : Json) : Prop := f.kind.Has j ∨ (f.optional = true ∧ j = .null)

/-- **Every field has the JSON type of the contract.** -/
def ContractTyped (raw : Json) : Prop := ∀ f ∈ contractFields, ∀ j, raw.field f = some j → f.Typed j

/-! ## Conversions -/

/-- The values of another type that are converted: booleans, integral floats and numeric strings to integers;
zero, one and the words for booleans to booleans; numbers to timestamps. -/
inductive Lax.Converts (T : Lax) : FieldKind → Json → Prop
  | intOfBool (b : Bool) : Converts T .integer (.bool b)
  | intOfFloat {q : ℚ} (h : q.den = 1) (hq : -2 ^ 63 < q.num ∧ q.num < 2 ^ 63) : Converts T .integer (.float q)
  | intOfStr {s : String} {n : ℤ} (h : T.strAsInt s = some n) : Converts T .integer (.str s)
  | boolOfInt {n : ℤ} (h : n = 0 ∨ n = 1) : Converts T .boolean (.int n)
  | boolOfFloat {q : ℚ} (h : q = 0 ∨ q = 1) : Converts T .boolean (.float q)
  | boolOfStr {s : String} {b : Bool} (h : T.strAsBool s = some b) : Converts T .boolean (.str s)
  | timeOfInt {n : ℤ} {t : Datetime} (h : T.intAsDatetime n = .ok t) : Converts T .timestamp (.int n)
  | timeOfFloat {q : ℚ} {t : Datetime} (h : T.floatAsDatetime q = .ok t) : Converts T .timestamp (.float q)

/-- pydantic reads the value as the field's. -/
def Lax.Reads (T : Lax) : FieldKind → Json → Prop
  | .text, j => (T.pydantic.readStr j).isSome
  | .integer, j => (T.pydantic.readInt j).isSome
  | .boolean, j => (T.pydantic.readBool j).isSome
  | .timestamp, j => (T.pydantic.readDatetime j).isSome

/-- Two values are read alike. -/
def Lax.Alike (T : Lax) : FieldKind → Json → Json → Prop
  | .text, v, w => T.pydantic.readStr v = T.pydantic.readStr w
  | .integer, v, w => T.pydantic.readInt v = T.pydantic.readInt w
  | .boolean, v, w => T.pydantic.readBool v = T.pydantic.readBool w
  | .timestamp, v, w => T.pydantic.readDatetime v = T.pydantic.readDatetime w

/-- What is converted is of another type. -/
theorem Lax.Converts.not_has {k : FieldKind} {j : Json} (h : T.Converts k j) : ¬ k.Has j ∧ j ≠ .null := by
  cases h <;> exact ⟨id, nofun⟩

theorem floatAsInt_eq_ok {q : ℚ} {n : ℤ} (h : floatAsInt q = .ok n) :
    q.den = 1 ∧ (-2 ^ 63 < q.num ∧ q.num < 2 ^ 63) ∧ q = n := by
  unfold floatAsInt at h
  split at h
  · cases h
  · next hden =>
    split at h
    · next hnum =>
      rw [← Except.ok.inj h]
      exact ⟨not_not.1 hden, hnum, (Rat.coe_int_num_of_den_eq_one (not_not.1 hden)).symm⟩
    · cases h

theorem intAsBool_isSome {n : ℤ} (h : (intAsBool n).toOption.isSome) : n = 0 ∨ n = 1 := by
  unfold intAsBool at h
  split at h
  · next h0 => exact Or.inl h0
  · split at h
    · next h1 => exact Or.inr h1
    · cases h

/-- **The conversion table**: a value is read only if it is of the field's type or converted. -/
theorem Lax.Reads.has_or_converts {k : FieldKind} {j : Json} (h : T.Reads k j) : k.Has j ∨ T.Converts k j := by
  -- by the kind of the field and the JSON type of the value
  cases k with
  | text =>
    cases j with
    | str s => exact Or.inl trivial
    | _ => cases h
  | integer =>
    cases j with
    | int n => exact Or.inl trivial
    | bool b => exact Or.inr (.intOfBool b)
    | float q =>
      change (floatAsInt q).toOption.isSome at h
      cases hq : floatAsInt q with
      | error e =>
        rw [hq] at h
        cases h
      | ok n => exact Or.inr (.intOfFloat (floatAsInt_eq_ok hq).1 (floatAsInt_eq_ok hq).2.1)
    | str s =>
      cases hs : T.strAsInt s with
      | some n => exact Or.inr (.intOfStr hs)
      | none =>
        change (T.readInt (.str s)).toOption.isSome at h
        unfold Lax.readInt at h
        simp only [hs] at h
        cases h
    | _ => cases h
  | boolean =>
    cases j with
    | bool b => exact Or.inl trivial
    | int n =>
      change (Except.toOption (if isInt64 n then intAsBool n else .error .boolType)).isSome at h
      split at h
      · exact Or.inr (.boolOfInt (intAsBool_isSome h))
      · cases h
    | float q =>
      change (T.readBool (.float q)).toOption.isSome at h
      unfold Lax.readBool at h
      cases hq : floatAsInt q with
      | error e =>
        simp only [hq] at h
        cases h
      | ok n =>
        simp only [hq] at h
        rw [(floatAsInt_eq_ok hq).2.2]
        refine Or.inr (.boolOfFloat ?_)
        exact_mod_cast intAsBool_isSome h
    | str s =>
      cases hs : T.strAsBool s with
      | some b => exact Or.inr (.boolOfStr hs)
      | none =>
        change (T.readBool (.str s)).toOption.isSome at h
        unfold Lax.readBool at h
        simp only [hs] at h
        cases h
    | _ => cases h
  | timestamp =>
    cases j with
    | str s => exact Or.inl trivial
    | int n =>
      change (Except.toOption ((T.intAsDatetime n).mapError _)).isSome at h
      cases hn : T.intAsDatetime n with
      | ok t => exact Or.inr (.timeOfInt hn)
      | error e =>
        rw [hn] at h
        cases h
    | float q =>
      change (Except.toOption ((T.floatAsDatetime q).mapError _)).isSome at h
      cases hq : T.floatAsDatetime q with
      | ok t => exact Or.inr (.timeOfFloat hq)
      | error e =>
        rw [hq] at h
        cases h
    | _ => cases h

/-! ## What is accepted is read -/

/-- `model_validate` does not raise. -/
def Lax.Accepts (T : Lax) (raw : Json) : Prop := ∃ msg, T.modelValidate raw = .ok msg

theorem Lax.accepts_iff : T.Accepts raw ↔ (InboundMessage.modelValidate T.pydantic raw).isSome := by
  unfold Accepts modelValidate
  cases InboundMessage.modelValidate T.pydantic raw with
  | none => exact iff_of_false (fun ⟨_, h⟩ => by cases h) nofun
  | some msg => exact iff_of_true ⟨msg, rfl⟩ rfl

theorem isSome_of_required {α : Type} {key : String} {read : Json → Option α} {j : Json}
    (h : (readField raw key read).isSome) (hj : raw.get? key = some j) : (read j).isSome := by
  unfold readField at h
  rwa [hj, Option.bind_some] at h

theorem isSome_of_optional {α : Type} {key : String} {read : Json → Option α} {j : Json}
    (h : (readOptionalField raw key read).isSome) (hj : raw.get? key = some j) :
    (read j).isSome ∨ j = .null := by
  unfold readOptionalField at h
  rw [hj] at h
  cases j with
  | null => exact Or.inr rfl
  | _ =>
    rw [Option.isSome_map] at h
    exact Or.inl h

theorem isSome_of_bind {α β : Type} {x : Option α} {f : α → Option β} (h : (x.bind f).isSome) : x.isSome := by
  cases x with
  | none => cases h
  | some a => rfl

/-- Enumerations are read from strings. -/
theorem isSome_of_enum {α : Type} {all : List α} {value : α → String} {j : Json}
    (h : (readEnum all value j).isSome) : T.Reads .text j := by
  cases j with
  | str s => exact rfl
  | _ => cases h

/-- **What is accepted is read**, field by field. -/
theorem Lax.Accepts.reads (h : T.Accepts raw) {f : ContractField} (hf : f ∈ contractFields) {j : Json}
    (hj : raw.field f = some j) : T.Reads f.kind j ∨ (f.optional = true ∧ j = .null) := by
  obtain ⟨-, m, p, hm, hp, -⟩ := InboundMessage.modelValidate_isSome.1 (Lax.accepts_iff.1 h)
  obtain ⟨jm, hjm, hm⟩ := Option.bind_eq_some_iff.1 hm
  obtain ⟨jp, hjp, hp⟩ := Option.bind_eq_some_iff.1 hp
  obtain ⟨-, hid, hstart, hend, htype⟩ := MetaData.isSome_iff.1 (Option.isSome_of_eq_some hm)
  obtain ⟨-, hseq, hspeaker, htranscript, hengine, hdialect, hfinal, hspeak, hgenerate⟩ :=
    Payload.isSome_iff.1 (Option.isSome_of_eq_some hp)
  -- a field of a part is read where the model reads it
  have hmeta : ∀ {k j}, (raw.get? "metaData").bind (·.get? k) = some j → jm.get? k = some j := by
    intro k j hj
    rwa [hjm, Option.bind_some] at hj
  have hpay : ∀ {k j}, (raw.get? "payload").bind (·.get? k) = some j → jp.get? k = some j := by
    intro k j hj
    rwa [hjp, Option.bind_some] at hj
  have hnull : ∀ {x : Bool}, x = true ∨ j = .null → x = true ∨ (true = true ∧ j = .null) :=
    fun h => h.imp id fun hn => ⟨rfl, hn⟩
  unfold contractFields at hf
  simp only [List.mem_cons, List.not_mem_nil, or_false] at hf
  rcases hf with rfl | rfl | rfl | rfl | rfl | rfl | rfl | rfl | rfl | rfl | rfl | rfl
  · exact Or.inl (isSome_of_bind (isSome_of_required hid (hmeta hj)))
  · exact Or.inl (isSome_of_required hstart (hmeta hj))
  · exact hnull (isSome_of_optional hend (hmeta hj))
  · exact Or.inl (isSome_of_enum (isSome_of_required htype (hmeta hj)))
  · exact Or.inl (isSome_of_bind (isSome_of_required hseq (hpay hj)))
  · exact Or.inl (isSome_of_enum (isSome_of_required hspeaker (hpay hj)))
  · exact Or.inl (isSome_of_bind (isSome_of_required htranscript (hpay hj)))
  · exact Or.inl (isSome_of_bind (isSome_of_required hengine (hpay hj)))
  · exact Or.inl (isSome_of_bind (isSome_of_required hdialect (hpay hj)))
  · exact Or.inl (isSome_of_required hfinal (hpay hj))
  · exact hnull (isSome_of_optional hspeak (hpay hj))
  · exact hnull (isSome_of_optional hgenerate (hpay hj))

/-! ## Values that are read alike -/

variable {v w : Json}

theorem readField_update {α : Type} {read : Json → Option α} {key k : String} (h : k = key → read v = read w) :
    readField (raw.update key fun _ => v) k read = readField (raw.update key fun _ => w) k read := by
  unfold readField
  by_cases hk : k = key
  · subst hk
    rw [Json.get?_update_self, Json.get?_update_self]
    cases raw.get? k with
    | none => rfl
    | some j => exact h rfl
  · rw [Json.get?_update_of_ne _ hk, Json.get?_update_of_ne _ hk]

theorem readOptionalField_of_get {α : Type} {read : Json → Option α} {key : String} {j : Json}
    (hj : raw.get? key = some j) (hne : j ≠ .null) : readOptionalField raw key read = (read j).map some := by
  unfold readOptionalField
  rw [hj]
  cases j with
  | null => exact absurd rfl hne
  | _ => rfl

theorem readOptionalField_update {α : Type} {read : Json → Option α} {key k : String} (hv : v ≠ .null)
    (hw : w ≠ .null) (h : k = key → read v = read w) :
    readOptionalField (raw.update key fun _ => v) k read =
      readOptionalField (raw.update key fun _ => w) k read := by
  by_cases hk : k = key
  · subst hk
    cases hget : raw.get? k with
    | none =>
      unfold readOptionalField
      rw [Json.get?_update_self, Json.get?_update_self, hget]
      rfl
    | some j =>
      have hgot : ∀ u : Json, (raw.update k fun _ => u).get? k = some u := fun u => by
        rw [Json.get?_update_self, hget, Option.map_some]
      rw [readOptionalField_of_get (hgot v) hv, readOptionalField_of_get (hgot w) hw, h rfl]
  · unfold readOptionalField
    rw [Json.get?_update_of_ne _ hk, Json.get?_update_of_ne _ hk]

theorem readEnum_of_alike {α : Type} {all : List α} {value : α → String} (h : T.Alike .text v w) :
    readEnum all value v = readEnum all value w := by
  cases v <;> cases w <;> first | rfl | (cases h; rfl) | cases h

/-- The key of a part gets values that are read alike. -/
def AlikeAt (T : Lax) (part key : String) (v w : Json) : Prop :=
  ∀ f ∈ contractFields, f.part = part → f.key = key → T.Alike f.kind v w

theorem MetaData.modelValidate_update {key : String} (hv : v ≠ .null) (hw : w ≠ .null)
    (h : AlikeAt T "metaData" key v w) :
    MetaData.modelValidate T.pydantic (raw.update key fun _ => v) =
      MetaData.modelValidate T.pydantic (raw.update key fun _ => w) := by
  unfold modelValidate
  rw [declaredKeys_update, declaredKeys_update,
    readField_update fun hk => h ⟨_, "conversationId", .text, false⟩ (by decide) rfl hk,
    readField_update fun hk => h ⟨_, "callStartTimeStamp", .timestamp, false⟩ (by decide) rfl hk,
    readOptionalField_update hv hw fun hk => h ⟨_, "callEndTimeStamp", .timestamp, true⟩ (by decide) rfl hk,
    readField_update fun hk => readEnum_of_alike (h ⟨_, "eventType", .text, false⟩ (by decide) rfl hk)]

theorem Payload.modelValidate_update {key : String} (hv : v ≠ .null) (hw : w ≠ .null)
    (h : AlikeAt T "payload" key v w) :
    Payload.modelValidate T.pydantic (raw.update key fun _ => v) =
      Payload.modelValidate T.pydantic (raw.update key fun _ => w) := by
  unfold modelValidate
  rw [declaredKeys_update, declaredKeys_update,
    readField_update fun hk => h ⟨_, "sequenceNumber", .integer, false⟩ (by decide) rfl hk,
    readField_update fun hk => readEnum_of_alike (h ⟨_, "speaker", .text, false⟩ (by decide) rfl hk),
    readField_update fun hk => h ⟨_, "transcript", .text, false⟩ (by decide) rfl hk,
    readField_update fun hk => h ⟨_, "engineProvider", .text, false⟩ (by decide) rfl hk,
    readField_update fun hk => h ⟨_, "dialect", .text, false⟩ (by decide) rfl hk,
    readField_update fun hk => h ⟨_, "isFinal", .boolean, false⟩ (by decide) rfl hk,
    readOptionalField_update hv hw fun hk => h ⟨_, "speakTimeStamp", .timestamp, true⟩ (by decide) rfl hk,
    readOptionalField_update hv hw fun hk =>
      h ⟨_, "transcriptGenerateTimeStamp", .timestamp, true⟩ (by decide) rfl hk]

theorem readField_put {α : Type} {read : Json → Option α} {part key k : String}
    (h : k = part → ∀ j : Json, read (j.update key fun _ => v) = read (j.update key fun _ => w)) :
    readField (raw.put part key v) k read = readField (raw.put part key w) k read := by
  unfold readField Json.put
  by_cases hk : k = part
  · subst hk
    rw [Json.get?_update_self, Json.get?_update_self]
    cases raw.get? k with
    | none => rfl
    | some j => exact h rfl j
  · rw [Json.get?_update_of_ne _ hk, Json.get?_update_of_ne _ hk]

/-- **Values that are read alike** make the same message. -/
theorem InboundMessage.modelValidate_put {part key : String} (hv : v ≠ .null) (hw : w ≠ .null)
    (h : AlikeAt T part key v w) :
    InboundMessage.modelValidate T.pydantic (raw.put part key v) =
      InboundMessage.modelValidate T.pydantic (raw.put part key w) := by
  have hm : readField (raw.put part key v) "metaData" (MetaData.modelValidate T.pydantic) =
      readField (raw.put part key w) "metaData" (MetaData.modelValidate T.pydantic) :=
    readField_put fun hpart _ => MetaData.modelValidate_update hv hw (hpart ▸ h)
  have hp : readField (raw.put part key v) "payload" (Payload.modelValidate T.pydantic) =
      readField (raw.put part key w) "payload" (Payload.modelValidate T.pydantic) :=
    readField_put fun hpart _ => Payload.modelValidate_update hv hw (hpart ▸ h)
  have hkeys : ∀ u, declaredKeys ["metaData", "payload"] (raw.put part key u) =
      declaredKeys ["metaData", "payload"] raw := fun u => declaredKeys_update _ _ _ _
  unfold modelValidate
  rw [hkeys, hkeys, hm, hp]

theorem Lax.accepts_put {part key : String} (hv : v ≠ .null) (hw : w ≠ .null) (h : AlikeAt T part key v w) :
    T.Accepts (raw.put part key v) ↔ T.Accepts (raw.put part key w) := by
  rw [Lax.accepts_iff, Lax.accepts_iff, InboundMessage.modelValidate_put hv hw h]

theorem Json.field_put {f : ContractField} (h : (raw.field f).isSome) (v : Json) :
    (raw.put f.part f.key v).field f = some v := by
  unfold Json.field at h ⊢
  obtain ⟨j, hj⟩ := Option.isSome_iff_exists.1 h
  obtain ⟨m, hm, hj⟩ := Option.bind_eq_some_iff.1 hj
  unfold Json.put
  rw [Json.get?_update_self, hm, Option.map_some, Option.bind_some, Json.get?_update_self, hj, Option.map_some]

theorem FieldKind.Has.ne_null {k : FieldKind} {j : Json} (h : k.Has j) : j ≠ .null := by
  rintro rfl
  cases k <;> cases h

/-- No key stands for two fields. -/
theorem contractFields_inj :
    ∀ f ∈ contractFields, ∀ g ∈ contractFields, g.part = f.part → g.key = f.key → g = f := by
  decide

/-! ## What is rejected asks no backend -/

/-- Without a valid message only the time may be asked. -/
theorem Stage.allows_none {s : Stage} {i : Call} (h : s.Allows none i) : i = .utcNow := by
  cases i with
  | utcNow => rfl
  | prepare c n =>
    obtain ⟨-, m, hm, -⟩ := Stage.allows_prepare h
    cases hm
  | send c p =>
    obtain ⟨-, m, hm, -⟩ := Stage.allows_send h
    cases hm
  | commit c n =>
    obtain ⟨-, m, hm, -⟩ := Stage.allows_commit h
    cases hm
  | cleanup c =>
    obtain ⟨-, m, hm, -⟩ := Stage.allows_cleanup h
    cases hm

open Resumption TwoPhaseOrchestrator in
theorem rejected_calls {e : ValidationError} (h : T.modelValidate raw = .error e) {c : String}
    {τ : List (Σ i, Reply i)} {q : Prog Call Reply (Except Exc OrchestratorResult)}
    (ht : Trace (handleMessage T.modelValidate raw c).run τ q) {i : Call} {r : Reply i} (hi : ⟨i, r⟩ ∈ τ) :
    i = .utcNow := by
  have hsat : (protocol (T.modelValidate raw).toOption).Sat (handleMessage T.modelValidate raw c).run .start
      (Stage.Answers (T.modelValidate raw).toOption raw) := handleMessage_sat c
  rw [h] at hsat
  obtain ⟨s, -, hok⟩ := hsat.ok_of_mem (P := fun _ => True) (fun _ _ _ _ _ => trivial) ht trivial hi
  exact Stage.allows_none hok

/-- **The JSON types of accepted messages.** An accepted document has the types of the contract iff
none of its values is converted. A value of another type is rejected if it is not converted, and
accepted as a value of the field's type that is read alike if it is. What is rejected asks no backend. -/
theorem contract_types_iff (T : Lax) (raw : Json) :
    (T.Accepts raw → (ContractTyped raw ↔
      ∀ f ∈ contractFields, ∀ j, raw.field f = some j → ¬ T.Converts f.kind j)) ∧
    (∀ f ∈ contractFields, (raw.field f).isSome → ∀ v, ¬ f.Typed v →
      (¬ T.Converts f.kind v → ¬ T.Accepts (raw.put f.part f.key v)) ∧
      (T.Converts f.kind v → ∀ w, f.kind.Has w → T.Alike f.kind v w →
        (T.Accepts (raw.put f.part f.key v) ↔ T.Accepts (raw.put f.part f.key w)))) ∧
    (¬ T.Accepts raw → ∀ c τ q,
      Resumption.Trace (TwoPhaseOrchestrator.handleMessage T.modelValidate raw c).run τ q →
      ∀ i r, ⟨i, r⟩ ∈ τ → i = .utcNow) := by
  refine ⟨fun hacc => ⟨fun htyped f hf j hj hconv => ?_, fun hnone f hf j hj => ?_⟩, ?_, ?_⟩
  · rcases htyped f hf j hj with hhas | ⟨-, hnull⟩
    · exact hconv.not_has.1 hhas
    · exact hconv.not_has.2 hnull
  · rcases hacc.reads hf hj with hreads | hnull
    · exact Or.inl (hreads.has_or_converts.resolve_right (hnone f hf j hj))
    · exact Or.inr hnull
  · intro f hf hsome v hforeign
    refine ⟨fun hnot hacc => ?_, fun hconv w hw halike => ?_⟩
    · -- a value that is accepted has its type or is converted
      rcases hacc.reads hf (Json.field_put hsome v) with hreads | hnull
      · rcases hreads.has_or_converts with hhas | hconv
        · exact hforeign (Or.inl hhas)
        · exact hnot hconv
      · exact hforeign (Or.inr hnull)
    · refine Lax.accepts_put hconv.not_has.2 hw.ne_null fun g hg hpart hkey => ?_
      rw [contractFields_inj f hf g hg hpart hkey]
      exact halike
  · intro hrej c τ q ht i r hi
    cases hv : T.modelValidate raw with
    | error e => exact rejected_calls hv ht hi
    | ok msg => exact absurd ⟨msg, hv⟩ hrej

section

open Sample

/-- **A sequence number sent as a string**, a flag sent as a number and a timestamp sent as a number are
accepted. -/
theorem string_accepted :
    (sampleLax.Accepts ((ongoing 0).put "payload" "sequenceNumber" (.str "0")) ∧
      ¬ ContractTyped ((ongoing 0).put "payload" "sequenceNumber" (.str "0"))) ∧
    (sampleLax.Accepts ((ongoing 0).put "payload" "isFinal" (.int 1)) ∧
      ¬ ContractTyped ((ongoing 0).put "payload" "isFinal" (.int 1))) ∧
    (sampleLax.Accepts ((ongoing 0).put "metaData" "callStartTimeStamp" (.int 0)) ∧
      ¬ ContractTyped ((ongoing 0).put "metaData" "callStartTimeStamp" (.int 0))) := by
  have huntyped : ∀ {raw : Json} {f : ContractField} {j : Json}, f ∈ contractFields → raw.field f = some j →
      ¬ f.Typed j → ¬ ContractTyped raw := fun hf hj hnot h => hnot (h _ hf _ hj)
  refine ⟨⟨⟨ongoingMessage 0, rfl⟩, ?_⟩, ⟨⟨ongoingMessage 0, rfl⟩, ?_⟩, ⟨ongoingMessage 0, rfl⟩, ?_⟩
  · refine huntyped (f := ⟨"payload", "sequenceNumber", .integer, false⟩) (by decide) rfl ?_
    rintro (hhas | ⟨hopt, -⟩)
    · exact hhas
    · cases hopt
  · refine huntyped (f := ⟨"payload", "isFinal", .boolean, false⟩) (by decide) rfl ?_
    rintro (hhas | ⟨hopt, -⟩)
    · exact hhas
    · cases hopt
  · refine huntyped (f := ⟨"metaData", "callStartTimeStamp", .timestamp, false⟩) (by decide) rfl ?_
    rintro (hhas | ⟨hopt, -⟩)
    · exact hhas
    · cases hopt

end

end Transcribe
