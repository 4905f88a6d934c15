import Transcribe.Model.Sample
import Transcribe.Model.Validation

/-!
# The errors of a document

* `errors_eq_nil_iff`: a document has no errors iff it is accepted, so every error list
  the service classifies has an error.
* `Lax.strFields`: a `str` field takes JSON strings only.
* `classification_iff`: the scenario reported is the category of an error in the list, and not the
  missing field of a list without one, iff some error is not a violated length or bound.
* `too_long_reported_missing`: a complete document reported as one with a missing field.
-/

namespace Transcribe

variable {T : Lax} {raw : Json}

/-! ## Errors and values -/

theorem errorsOf_eq_nil {α : Type} {x : Except ErrorType α} : errorsOf x = [] ↔ x.toOption.isSome := by
  cases x with
  | error e => exact iff_of_false (List.cons_ne_nil _ _) (by simp [Except.toOption])
  | ok a => exact iff_of_true rfl rfl

theorem stringErrors_eq_nil {n : ℕ} (j : Json) :
    stringErrors n j = [] ↔ ((T.pydantic.readStr j).bind (atMost n)).isSome := by
  unfold stringErrors
  rw [errorsOf_eq_nil]
  show _ ↔ ((Lax.readStr j).toOption.bind (atMost n)).isSome
  cases hread : Lax.readStr j with
  | error e => rfl
  | ok s =>
    show (Except.toOption (if s.length ≤ n then pure s else throw ErrorType.stringTooLong)).isSome ↔
      (atMost n s).isSome
    unfold atMost
    by_cases hs : s.length ≤ n
    · rw [if_pos hs, dif_pos hs]
      exact iff_of_true rfl rfl
    · rw [if_neg hs, dif_neg hs]
      rfl

theorem sequenceErrors_eq_nil (j : Json) :
    T.sequenceErrors j = [] ↔ ((T.pydantic.readInt j).bind nonNegative).isSome := by
  unfold Lax.sequenceErrors
  rw [errorsOf_eq_nil]
  show _ ↔ ((T.readInt j).toOption.bind nonNegative).isSome
  cases hread : T.readInt j with
  | error e => rfl
  | ok n =>
    show (Except.toOption (if 0 ≤ n then pure n else throw ErrorType.greaterThanEqual)).isSome ↔
      (nonNegative n).isSome
    unfold nonNegative
    by_cases hn : 0 ≤ n
    · rw [if_pos hn, if_pos hn]
      exact iff_of_true rfl rfl
    · rw [if_neg hn, if_neg hn]
      rfl

theorem boolErrors_eq_nil (j : Json) : T.boolErrors j = [] ↔ (T.pydantic.readBool j).isSome := errorsOf_eq_nil

theorem datetimeErrors_eq_nil (j : Json) : T.datetimeErrors j = [] ↔ (T.pydantic.readDatetime j).isSome :=
  errorsOf_eq_nil

theorem enumErrors_eq_nil {α : Type} {all : List α} {value : α → String} (j : Json) :
    enumErrors all value j = [] ↔ (readEnum all value j).isSome := by
  unfold enumErrors
  cases (readEnum all value j).isSome <;> simp

/-! ## Fields -/

/-- A required field has no error iff it is read. -/
theorem required_eq_nil {α : Type} (key : String) {errs : Json → List ErrorType} {read : Json → Option α}
    (h : ∀ j, errs j = [] ↔ (read j).isSome) :
    FieldCheck.errorsIn ⟨key, true, errs⟩ raw = [] ↔ (readField raw key read).isSome := by
  unfold FieldCheck.errorsIn readField
  cases raw.get? key with
  | none => exact iff_of_false (List.cons_ne_nil _ _) nofun
  | some j => cases j <;> exact h _

/-- So is an optional field, which may be missing or null. -/
theorem optional_eq_nil {α : Type} (key : String) {errs : Json → List ErrorType} {read : Json → Option α}
    (h : ∀ j, errs j = [] ↔ (read j).isSome) :
    FieldCheck.errorsIn ⟨key, false, errs⟩ raw = [] ↔ (readOptionalField raw key read).isSome := by
  unfold FieldCheck.errorsIn readOptionalField
  cases raw.get? key with
  | none => exact iff_of_true rfl rfl
  | some j =>
    cases j with
    | null => exact iff_of_true rfl rfl
    | _ =>
      simp only [Option.isSome_map]
      exact h _

/-- A model has no errors iff its fields have none and it has no extra key. -/
theorem objectErrors_eq_nil {fields : List FieldCheck} :
    objectErrors fields raw = [] ↔
      (∀ f ∈ fields, f.errorsIn raw = []) ∧ (declaredKeys (fields.map FieldCheck.key) raw).isSome := by
  cases raw with
  | obj l =>
    have hkeys : (declaredKeys (fields.map FieldCheck.key) (.obj l)).isSome ↔
        ∀ k ∈ l.map Prod.fst, k ∈ fields.map FieldCheck.key := by
      show (if ∀ k ∈ l.map Prod.fst, k ∈ fields.map FieldCheck.key then some (l.map Prod.fst)
        else none).isSome ↔ _
      by_cases h : ∀ k ∈ l.map Prod.fst, k ∈ fields.map FieldCheck.key
      · rw [if_pos h]
        exact iff_of_true rfl h
      · rw [if_neg h]
        exact iff_of_false nofun h
    unfold objectErrors
    rw [List.append_eq_nil_iff, List.flatMap_eq_nil_iff, List.map_eq_nil_iff, List.filter_eq_nil_iff, hkeys]
    simp only [decide_eq_true_eq, not_not]
  | _ => exact iff_of_false (List.cons_ne_nil _ _) fun h => absurd h.2 nofun

/-! ## Models -/

/-- What does not depend on the value read. -/
theorem isSome_bind_and {α β : Type} {x : Option α} {f : α → Option β} {c : Prop} (h : ∀ a, (f a).isSome ↔ c) :
    (x.bind f).isSome ↔ x.isSome ∧ c := by
  cases x with
  | none => simp
  | some a => simpa using h a

/-- A value that is read and then checked. -/
theorem bind_readField {α β γ : Type} {key : String} {read : Json → Option α} {f : α → Option β}
    {g : β → Option γ} : ((readField raw key read).bind fun a => (f a).bind g) =
      (readField raw key fun j => (read j).bind f).bind g := by
  unfold readField
  simp only [Option.bind_assoc]

/-- The metadata is read iff each of its fields is. -/
theorem MetaData.isSome_iff {P : Pydantic} : (MetaData.modelValidate P raw).isSome ↔
    (declaredKeys modelFields raw).isSome ∧
    (readField raw "conversationId" fun j => (P.readStr j).bind (atMost 64)).isSome ∧
    (readField raw "callStartTimeStamp" P.readDatetime).isSome ∧
    (readOptionalField raw "callEndTimeStamp" P.readDatetime).isSome ∧
    (readField raw "eventType" (readEnum EventType.all EventType.value)).isSome := by
  unfold modelValidate
  simp only [Option.bind_eq_bind, bind_readField]
  refine isSome_bind_and fun _ => isSome_bind_and fun _ => isSome_bind_and fun _ => isSome_bind_and fun _ => ?_
  rw [← and_true ((readField raw "eventType" _).isSome = true)]
  exact isSome_bind_and fun _ => iff_of_true rfl trivial

theorem Payload.isSome_iff {P : Pydantic} : (Payload.modelValidate P raw).isSome ↔
    (declaredKeys modelFields raw).isSome ∧
    (readField raw "sequenceNumber" fun j => (P.readInt j).bind nonNegative).isSome ∧
    (readField raw "speaker" (readEnum Speaker.all Speaker.value)).isSome ∧
    (readField raw "transcript" fun j => (P.readStr j).bind (atMost 8000)).isSome ∧
    (readField raw "engineProvider" fun j => (P.readStr j).bind (atMost 64)).isSome ∧
    (readField raw "dialect" fun j => (P.readStr j).bind (atMost 32)).isSome ∧
    (readField raw "isFinal" P.readBool).isSome ∧
    (readOptionalField raw "speakTimeStamp" P.readDatetime).isSome ∧
    (readOptionalField raw "transcriptGenerateTimeStamp" P.readDatetime).isSome := by
  unfold modelValidate
  simp only [Option.bind_eq_bind, bind_readField]
  refine isSome_bind_and fun _ => isSome_bind_and fun _ => isSome_bind_and fun _ => isSome_bind_and fun _ =>
    isSome_bind_and fun _ => isSome_bind_and fun _ => isSome_bind_and fun _ => isSome_bind_and fun _ => ?_
  rw [← and_true ((readOptionalField raw "transcriptGenerateTimeStamp" _).isSome = true)]
  exact isSome_bind_and fun _ => iff_of_true rfl trivial

theorem MetaData.errors_eq_nil :
    objectErrors (MetaData.checks T) raw = [] ↔ (MetaData.modelValidate T.pydantic raw).isSome := by
  rw [objectErrors_eq_nil, MetaData.isSome_iff, and_comm]
  unfold checks
  simp only [List.forall_mem_cons, List.not_mem_nil, false_implies, implies_true, and_true, List.map_cons,
    List.map_nil, required_eq_nil _ (stringErrors_eq_nil (T := T)), required_eq_nil _ enumErrors_eq_nil,
    required_eq_nil _ (datetimeErrors_eq_nil (T := T)), optional_eq_nil _ (datetimeErrors_eq_nil (T := T))]
  rfl

theorem Payload.errors_eq_nil :
    objectErrors (Payload.checks T) raw = [] ↔ (Payload.modelValidate T.pydantic raw).isSome := by
  rw [objectErrors_eq_nil, Payload.isSome_iff, and_comm]
  unfold checks
  simp only [List.forall_mem_cons, List.not_mem_nil, false_implies, implies_true, and_true, List.map_cons,
    List.map_nil, required_eq_nil _ (stringErrors_eq_nil (T := T)), required_eq_nil _ enumErrors_eq_nil,
    required_eq_nil _ (sequenceErrors_eq_nil (T := T)), required_eq_nil _ (boolErrors_eq_nil (T := T)),
    optional_eq_nil _ (datetimeErrors_eq_nil (T := T))]
  rfl

namespace InboundMessage

theorem parts_eq_nil : objectErrors (checks T) raw = [] ↔
    (declaredKeys ["metaData", "payload"] raw).isSome ∧
    (readField raw "metaData" (MetaData.modelValidate T.pydantic)).isSome ∧
    (readField raw "payload" (Payload.modelValidate T.pydantic)).isSome := by
  rw [objectErrors_eq_nil, and_comm]
  unfold checks
  simp only [List.forall_mem_cons, List.not_mem_nil, false_implies, implies_true, and_true, List.map_cons,
    List.map_nil, required_eq_nil _ fun j => (MetaData.errors_eq_nil : objectErrors _ j = [] ↔ _),
    required_eq_nil _ fun j => (Payload.errors_eq_nil : objectErrors _ j = [] ↔ _)]

/-- What is accepted: a document of two valid parts that keep the business rules. -/
theorem modelValidate_isSome {P : Pydantic} : (InboundMessage.modelValidate P raw).isSome ↔
    (declaredKeys ["metaData", "payload"] raw).isSome ∧ ∃ m p,
      readField raw "metaData" (MetaData.modelValidate P) = some m ∧
      readField raw "payload" (Payload.modelValidate P) = some p ∧ checkBusinessRules m p = none := by
  unfold modelValidate
  simp only [Option.bind_eq_bind]
  cases declaredKeys ["metaData", "payload"] raw with
  | none => simp
  | some keys =>
    cases readField raw "metaData" (MetaData.modelValidate P) with
    | none => simp
    | some m =>
      cases readField raw "payload" (Payload.modelValidate P) with
      | none => simp
      | some p =>
        simp only [Option.bind_some, Option.isSome_some, Option.some.injEq, true_and]
        split
        · next h => exact iff_of_true rfl ⟨m, p, rfl, rfl, h⟩
        · next text h =>
          refine iff_of_false Bool.false_ne_true ?_
          rintro ⟨m', p', rfl, rfl, hnone⟩
          rw [h] at hnone
          cases hnone

/-- **A document has no errors iff it is accepted.** -/
theorem errors_eq_nil_iff : errors T raw = [] ↔ (InboundMessage.modelValidate T.pydantic raw).isSome := by
  rw [modelValidate_isSome]
  unfold errors
  by_cases hparts : objectErrors (checks T) raw = []
  · rw [if_pos hparts]
    obtain ⟨hkeys, hm, hp⟩ := parts_eq_nil.1 hparts
    obtain ⟨m, hm⟩ := Option.isSome_iff_exists.1 hm
    obtain ⟨p, hp⟩ := Option.isSome_iff_exists.1 hp
    have hrules : ruleErrors T raw = [] ↔ checkBusinessRules m p = none := by
      unfold ruleErrors
      rw [hm, hp]
      dsimp only
      cases checkBusinessRules m p <;> simp
    rw [hrules]
    constructor
    · exact fun h => ⟨hkeys, m, p, hm, hp, h⟩
    · rintro ⟨-, m', p', hm', hp', h⟩
      rw [hm] at hm'
      rw [hp] at hp'
      obtain rfl := Option.some.inj hm'
      obtain rfl := Option.some.inj hp'
      exact h
  · rw [if_neg hparts]
    refine iff_of_false hparts ?_
    rintro ⟨hkeys, m, p, hm, hp, -⟩
    exact hparts (parts_eq_nil.2 ⟨hkeys, by rw [hm]; rfl, by rw [hp]; rfl⟩)

end InboundMessage

/-! ## The text of a field -/

theorem eq_of_atMost {n : ℕ} {s : String} {c : { s : String // s.length ≤ n }} (h : atMost n s = some c) :
    c.1 = s := by
  unfold atMost at h
  split at h
  · rw [← Option.some.inj h]
  · cases h

/-- **A `str` field takes JSON strings only**, and leaves them as they are. -/
theorem Lax.strFields (T : Lax) (sm : RedisSequenceStateMachine) : Deps.StrFields ⟨T.modelValidate, sm⟩ := by
  intro raw msg h
  have hval : InboundMessage.modelValidate T.pydantic raw = some msg := by
    change T.modelValidate raw = .ok msg at h
    unfold Lax.modelValidate at h
    split at h
    · next m hm => rw [hm, Except.ok.inj h]
    · cases h
  unfold InboundMessage.modelValidate at hval
  simp only [Option.bind_eq_bind, Option.bind_eq_some_iff] at hval
  obtain ⟨_, -, m, hm, p, -, hmsg⟩ := hval
  have hmeta : msg.metaData = m := by
    split at hmsg
    · rw [← Option.some.inj hmsg]
    · cases hmsg
  obtain ⟨jm, hjm, hm⟩ := Option.bind_eq_some_iff.1 hm
  unfold MetaData.modelValidate at hm
  simp only [Option.bind_eq_bind, Option.bind_eq_some_iff] at hm
  obtain ⟨_, -, s, hs, c, hc, _, -, _, -, _, -, hm⟩ := hm
  obtain ⟨j, hj, hread⟩ := Option.bind_eq_some_iff.1 hs
  have hstr : j = .str m.conversationId := by
    cases j with
    | str s' =>
      obtain rfl : s' = s := Option.some.inj hread
      have hid : c.1 = m.conversationId := congrArg MetaData.conversationId (Option.some.inj hm)
      rw [← hid, eq_of_atMost hc]
    | _ => cases hread
  unfold Json.bodyConversationId
  rw [hjm, Option.bind_some, hj, hstr, InboundMessage.conversationId, hmeta]

/-! ## Classification -/

/-- What an error means to the client: the scenario of the contract it belongs to. A value that is
too long or below its bound belongs to none. -/
def ErrorType.category : ErrorType → Option ProtocolErrorScenario
  | missing => some .missingRequiredField
  | enum => some .invalidEnumValue
  | datetimeType | datetime _ | datetimeNotUtc => some .invalidTimestampFormat
  | valueError => some .businessRuleViolation
  | stringTooLong | greaterThanEqual => none
  | extraForbidden | modelType | stringType | intType | intParsing | intParsingSize | intFromFloat | boolType
  | boolParsing => some .invalidFieldType

/-- The error is a violated length or bound. -/
def ErrorType.isBound (t : ErrorType) : Prop := t = .stringTooLong ∨ t = .greaterThanEqual

theorem ErrorType.category_eq_none {t : ErrorType} : t.category = none ↔ t.isBound := by
  unfold isBound
  cases t <;> simp [category]

/-- The substrings of the names find the category of every error the models report. -/
theorem classify_eq (types : List ErrorType) (text : String) :
    classifyValidationError ⟨types.map ErrorType.value, text⟩ =
      (types.findSome? ErrorType.category).getD .missingRequiredField := by
  unfold classifyValidationError
  rw [List.findSome?_map]
  congr 2
  funext t
  cases t with
  | datetime fault => cases fault <;> decide
  | _ => decide

/-- **Which error lists are reported as what they are.** -/
theorem classification_iff (T : Lax) {raw : Json} {e : ValidationError} (h : T.modelValidate raw = .error e) :
    ∃ types, types ≠ [] ∧ e.types = types.map ErrorType.value ∧
      (((classifyValidationError e = .missingRequiredField → .missing ∈ types) ∧
          ∃ t ∈ types, t.category = some (classifyValidationError e)) ↔
        ∃ t ∈ types, ¬ t.isBound) := by
  unfold Lax.modelValidate at h
  split at h
  · cases h
  · next hnone =>
    cases h
    refine ⟨InboundMessage.errors T raw, fun hnil => ?_, rfl, ?_⟩
    · rw [InboundMessage.errors_eq_nil_iff, hnone] at hnil
      cases hnil
    rw [classify_eq]
    generalize InboundMessage.errors T raw = types
    cases hfound : types.findSome? ErrorType.category with
    | none =>
      rw [List.findSome?_eq_none_iff] at hfound
      refine iff_of_false ?_ ?_
      · rintro ⟨-, t, ht, hcategory⟩
        rw [hfound t ht] at hcategory
        cases hcategory
      · rintro ⟨t, ht, hbound⟩
        exact hbound (ErrorType.category_eq_none.1 (hfound t ht))
    | some s =>
      obtain ⟨t, ht, hcategory⟩ := List.exists_of_findSome?_eq_some hfound
      refine iff_of_true ⟨?_, t, ht, hcategory⟩ ⟨t, ht, fun hbound => ?_⟩
      · rintro rfl
        cases t with
        | missing => exact ht
        | _ => cases hcategory
      · rw [ErrorType.category_eq_none.2 hbound] at hcategory
        cases hcategory

/-! ## Documents that differ in one field -/

/-- The value of a key, if the object has it, replaced. -/
def Json.update : Json → String → (Json → Json) → Json
  | .obj l, key, f => .obj (l.map fun e => if e.1 = key then (e.1, f e.2) else e)
  | j, _, _ => j

/-- The value of a key of a part replaced by `v`. -/
def Json.put (raw : Json) (part key : String) (v : Json) : Json := raw.update part (·.update key fun _ => v)

theorem Json.get?_update_self (raw : Json) (key : String) (f : Json → Json) :
    (raw.update key f).get? key = (raw.get? key).map f := by
  cases raw with
  | obj l =>
    show (l.map fun e => if e.1 = key then (e.1, f e.2) else e).lookup key = (l.lookup key).map f
    induction l with
    | nil => rfl
    | cons e l ih =>
      by_cases he : e.1 = key
      · have heq : (key == e.1) = true := beq_iff_eq.2 he.symm
        rw [List.map_cons, if_pos he, List.lookup_cons, List.lookup_cons, heq]
        rfl
      · have hne : (key == e.1) = false := beq_eq_false_iff_ne.2 (Ne.symm he)
        rw [List.map_cons, if_neg he, List.lookup_cons, List.lookup_cons, hne]
        exact ih
  | _ => rfl

theorem Json.get?_update_of_ne (raw : Json) {key k : String} (h : k ≠ key) (f : Json → Json) :
    (raw.update key f).get? k = raw.get? k := by
  cases raw with
  | obj l =>
    show (l.map fun e => if e.1 = key then (e.1, f e.2) else e).lookup k = l.lookup k
    induction l with
    | nil => rfl
    | cons e l ih =>
      rw [List.map_cons, List.lookup_cons, List.lookup_cons, ih]
      by_cases he : e.1 = key
      · have hne : (k == e.1) = false := beq_eq_false_iff_ne.2 (he ▸ h)
        rw [if_pos he, hne]
      · rw [if_neg he]
  | _ => rfl

theorem declaredKeys_update (fields : List String) (raw : Json) (key : String) (f : Json → Json) :
    declaredKeys fields (raw.update key f) = declaredKeys fields raw := by
  cases raw with
  | obj l =>
    have hkeys : (l.map fun e => if e.1 = key then (e.1, f e.2) else e).map Prod.fst = l.map Prod.fst := by
      rw [List.map_map]
      refine List.map_congr_left fun e _ => ?_
      show (if e.1 = key then (e.1, f e.2) else e).1 = e.1
      split <;> rfl
    have hobj : ∀ l : List (String × Json), declaredKeys fields (.obj l) =
        if ∀ k ∈ l.map Prod.fst, k ∈ fields then some (l.map Prod.fst) else none := fun _ => rfl
    rw [show (Json.obj l).update key f = .obj (l.map fun e => if e.1 = key then (e.1, f e.2) else e) from rfl,
      hobj, hobj, hkeys]
  | _ => rfl

/-! ## A complete document -/

section

open Sample

/-- A sample's `conversationId` is a JSON string, and the message's. -/
theorem Sample.deps_strFields : deps.StrFields := Lax.strFields sampleLax _

/-- A document with a negative number and a speaker that is none. -/
def mixedDocument : Json :=
  ((ongoing 0).put "payload" "sequenceNumber" (.int (-1))).put "payload" "speaker" (.str "Robot")

/-- The errors it is rejected with. -/
def mixedError : ValidationError := ⟨["greater_than_equal", "enum"], sampleLax.errorText mixedDocument⟩

/-- It is reported as one with an unknown value, which it is. -/
theorem mixed_reported : ∃ types : List ErrorType, mixedError.types = types.map ErrorType.value ∧
    (classifyValidationError mixedError = .missingRequiredField → .missing ∈ types) ∧
      ∃ t ∈ types, t.category = some (classifyValidationError mixedError) := by
  obtain ⟨types, -, htypes, hiff⟩ := classification_iff sampleLax
    (show sampleLax.modelValidate mixedDocument = .error mixedError from rfl)
  have henum : "enum" ∈ types.map ErrorType.value := by
    rw [← htypes]
    exact List.mem_cons_of_mem _ List.mem_cons_self
  obtain ⟨t, ht, hvalue⟩ := List.mem_map.1 henum
  have hbound : ¬ t.isBound := by
    rintro (rfl | rfl) <;> exact absurd hvalue (by decide)
  exact ⟨types, htypes, hiff.2 ⟨t, ht, hbound⟩⟩

/-- **A complete document** with a language tag of 33 characters, or with a negative number, is reported
as one with a missing field. -/
theorem too_long_reported_missing :
    sampleLax.modelValidate ((ongoing 0).put "payload" "dialect" (.str "en-US-x-twenty-five-characters-on")) =
        .error ⟨["string_too_long"], sampleLax.errorText .null⟩ ∧
      classifyValidationError ⟨["string_too_long"], sampleLax.errorText .null⟩ = .missingRequiredField ∧
    sampleLax.modelValidate ((ongoing 0).put "payload" "sequenceNumber" (.int (-1))) =
        .error ⟨["greater_than_equal"], sampleLax.errorText .null⟩ ∧
      classifyValidationError ⟨["greater_than_equal"], sampleLax.errorText .null⟩ = .missingRequiredField :=
  ⟨rfl, by decide, rfl, by decide⟩

end

end Transcribe
