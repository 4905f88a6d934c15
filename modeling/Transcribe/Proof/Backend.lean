import Transcribe.Model.Service

/-!
# What the backend calls do to one conversation

A script touches the key it is given and no other (`luaPrepare_touches` and its likes). The
expected sequence, the records and the TTL of a conversation change only through calls for
it: `stored_apply`, `records_apply`. `prepare_snd` is the pre-check as a comparison, with an
absent key read as `0`.
-/

namespace Transcribe

/-! ## Lua's numbers -/

theorem tonumber_of_le {n : ℕ} (h : n ≤ 2 ^ 53) : tonumber n = n := Binary64.ofNat_of_le h

theorem tonumber_lt {n : ℕ} : tonumber n < 2 ^ 53 ↔ n < 2 ^ 53 := by
  constructor
  · intro h
    by_contra hn
    have := Binary64.le_ofNat (Nat.le_of_not_lt hn)
    unfold tonumber at h; omega
  · intro h; rw [tonumber_of_le h.le]; exact h

theorem luaSucc_mono {a b : ℕ} (h : a ≤ b) : luaSucc a ≤ luaSucc b :=
  Binary64.ofNat_mono (Nat.succ_le_succ (Binary64.ofNat_mono h))

/-- **The counter saturates at `2 ^ 53`.** -/
theorem luaSucc_eq_min {n : ℕ} (h : tonumber n ≤ 2 ^ 53) : luaSucc n = min (tonumber n + 1) (2 ^ 53) := by
  unfold luaSucc
  rcases Nat.eq_or_lt_of_le h with h | h
  · rw [h, Binary64.ofNat_saturates]; rfl
  · rw [Binary64.ofNat_of_le h, min_eq_left h]

theorem luaSucc_of_lt {n : ℕ} (h : n < 2 ^ 53) : luaSucc n = n + 1 := by
  have hn := tonumber_of_le h.le
  rw [luaSucc_eq_min (hn.le.trans h.le), hn]
  omega

/-! ## What the scripts touch -/

theorem luaPrepare_touches (k : String) (seq ttl : ℕ) :
    TtlStore.Touches k fun db => luaPrepare db k seq ttl := by
  refine ⟨fun db k' hk => ?_, fun db db' h => ?_⟩
  · unfold luaPrepare
    cases db.get k with
    | none => simp only; split <;> simp [hk]
    | some current => simp only; split_ifs <;> simp [hk]
  · have hget : db.get k = db'.get k := by
      unfold TtlStore.get
      rw [h]
    unfold luaPrepare
    rw [hget]
    cases db'.get k with
    | none =>
      simp only
      split
      · exact ⟨by simp, rfl⟩
      · exact ⟨h, rfl⟩
    | some current =>
      simp only
      split_ifs
      · exact ⟨by simp [h], rfl⟩
      · exact ⟨h, rfl⟩
      · exact ⟨h, rfl⟩

theorem luaCommit_touches (k : String) (seq ttl : ℕ) :
    TtlStore.Touches k fun db => (luaCommit db k seq ttl, ()) :=
  ⟨fun _ _ hk => TtlStore.set_ne hk .., fun _ _ _ =>
    ⟨(TtlStore.set_self ..).trans (TtlStore.set_self ..).symm, rfl⟩⟩

theorem luaCleanup_touches (k : String) (finalTtl : ℕ) :
    TtlStore.Touches k fun db => (luaCleanup db k finalTtl, ()) := by
  refine ⟨fun db k' hk => ?_, fun db db' h => ⟨?_, rfl⟩⟩
  · unfold luaCleanup
    split
    · exact TtlStore.expire_ne hk _
    · rfl
  · unfold luaCleanup TtlStore.exists?
    rw [h]
    split
    · simp [h]
    · exact h

theorem luaClaimOrRefresh_touches (k token : String) (ttl : ℕ) :
    TtlStore.Touches k fun db => luaClaimOrRefresh db k token ttl := by
  refine ⟨fun db k' hk => ?_, fun db db' h => ?_⟩
  · unfold luaClaimOrRefresh
    simp only
    split
    · exact TtlStore.set_ne hk ..
    · rfl
  · have hget : db.get k = db'.get k := by
      unfold TtlStore.get
      rw [h]
    unfold luaClaimOrRefresh
    simp only [hget]
    split
    · exact ⟨(TtlStore.set_self ..).trans (TtlStore.set_self ..).symm, rfl⟩
    · exact ⟨h, rfl⟩

theorem luaReleaseIfOwner_touches (k token : String) :
    TtlStore.Touches k fun db => (luaReleaseIfOwner db k token, ()) := by
  refine ⟨fun db k' hk => ?_, fun db db' h => ⟨?_, rfl⟩⟩
  · unfold luaReleaseIfOwner
    split
    · exact TtlStore.del_ne hk
    · rfl
  · have hget : db.get k = db'.get k := by
      unfold TtlStore.get
      rw [h]
    unfold luaReleaseIfOwner
    rw [hget]
    split
    · exact TtlStore.del_self.trans TtlStore.del_self.symm
    · exact h

namespace RedisSequenceStateMachine

variable {sm : RedisSequenceStateMachine} {db : SequenceDb} {cid cid' : String} {seq : ℕ}

/-- **The pre-check compares the number Lua reads with the expected one.** -/
theorem prepare_snd : (sm.prepare db cid seq).2 =
    ⟨if tonumber seq = (db.get (sm.key cid)).getD 0 then .preCheckOk
      else if tonumber seq < (db.get (sm.key cid)).getD 0 then .idempotent else .outOfOrder,
      some ((db.get (sm.key cid)).getD 0)⟩ := by
  unfold prepare luaPrepare
  cases h : db.get (sm.key cid) with
  | none => simp only [Option.getD_none, Nat.not_lt_zero, if_false]; split <;> rfl
  | some current => simp only [Option.getD_some]; split_ifs <;> rfl

/-- A pre-check writes at most the TTL, and `0` to an absent key. -/
theorem prepare_entry : (sm.prepare db cid seq).1 (sm.key cid) = db (sm.key cid) ∨
    tonumber seq = (db.get (sm.key cid)).getD 0 ∧
      (sm.prepare db cid seq).1 (sm.key cid) = some ⟨tonumber seq, sm.activeTtl⟩ := by
  unfold prepare luaPrepare TtlStore.get
  rcases h : db (sm.key cid) with _ | ⟨v, ttl⟩
  · simp only [Option.map_none, Option.getD_none]
    split_ifs with h0
    · exact .inr ⟨h0, by simp [h0]⟩
    · exact .inl h
  · simp only [Option.map_some, Option.getD_some]
    split_ifs with h1 h2
    · exact .inr ⟨h1, by simp [h, h1]⟩
    · exact .inl h
    · exact .inl h

theorem key_ne (h : cid ≠ cid') : sm.key cid ≠ sm.key cid' := fun hk => h (key_inj.1 hk)

theorem prepare_entry_ne (h : cid ≠ cid') :
    (sm.prepare db cid' seq).1 (sm.key cid) = db (sm.key cid) :=
  (luaPrepare_touches ..).others _ _ (key_ne h)

theorem commit_entry : sm.commit db cid seq (sm.key cid) = some ⟨luaSucc seq, sm.activeTtl⟩ :=
  TtlStore.set_self ..

theorem commit_entry_ne (h : cid ≠ cid') : sm.commit db cid' seq (sm.key cid) = db (sm.key cid) :=
  (luaCommit_touches _ seq sm.activeTtl).others _ _ (key_ne h)

theorem cleanup_entry : sm.cleanup db cid (sm.key cid) =
    (db (sm.key cid)).map fun e => { e with ttl := sm.finalTtl } := by
  unfold cleanup luaCleanup TtlStore.exists?
  rcases h : db (sm.key cid) with _ | e <;> simp [h]

theorem cleanup_entry_ne (h : cid ≠ cid') : sm.cleanup db cid' (sm.key cid) = db (sm.key cid) :=
  (luaCleanup_touches _ sm.finalTtl).others _ _ (key_ne h)

end RedisSequenceStateMachine

/-! ## Calls -/

theorem Fate.deliver_fst {σ α : Type} {b b' : σ} {a : α} (f : Fate) :
    (f.deliver b b' a).1 = b ∨ (f.deliver b b' a).1 = b' := by
  cases f
  exacts [.inr rfl, .inl rfl, .inr rfl]

/-- A call that returned took effect. -/
theorem Fate.deliver_ok {σ α : Type} {b b' : σ} {a x : α} {f : Fate}
    (h : (f.deliver b b' a).2 = .ok x) : (f.deliver b b' a).1 = b' ∧ x = a := by
  cases f with
  | ok => exact ⟨rfl, (Except.ok.inj h).symm⟩
  | failed e => cases h
  | lost e => cases h

namespace Backend

variable {sm : RedisSequenceStateMachine} {b : Backend} {c : Call} {cid : String}

theorem prepare_snd {seq : ℕ} : (sm.prepare b.redis cid seq).2 =
    ⟨if tonumber seq = b.stored sm cid then .preCheckOk
      else if tonumber seq < b.stored sm cid then .idempotent else .outOfOrder,
      some (b.stored sm cid)⟩ := sm.prepare_snd

theorem exec_fst (fate : Fate) (now : Datetime) :
    (b.exec sm fate now c).1 = b ∨ (b.exec sm fate now c).1 = b.apply sm c := by
  cases c with
  | utcNow => exact .inl rfl
  | _ => exact fate.deliver_fst

theorem exec_prepare_ok {fate : Fate} {now : Datetime} {seq : ℕ} {o : PrepareOutcome}
    (h : (b.exec sm fate now (.prepare cid seq)).2 = .ok o) :
    (b.exec sm fate now (.prepare cid seq)).1 = b.apply sm (.prepare cid seq) ∧
      o = (sm.prepare b.redis cid seq).2 := Fate.deliver_ok h

theorem exec_send_ok {fate : Fate} {now : Datetime} {p : KafkaPayload} {x : Unit}
    (h : (b.exec sm fate now (.send cid p)).2 = .ok x) :
    (b.exec sm fate now (.send cid p)).1 = b.apply sm (.send cid p) := (Fate.deliver_ok h).1

theorem exec_commit_ok {fate : Fate} {now : Datetime} {seq : ℕ} {x : Unit}
    (h : (b.exec sm fate now (.commit cid seq)).2 = .ok x) :
    (b.exec sm fate now (.commit cid seq)).1 = b.apply sm (.commit cid seq) := (Fate.deliver_ok h).1

/-- **Only a commit moves the expected sequence.** -/
theorem stored_apply : (b.apply sm c).stored sm cid =
    match c with
    | .commit cid' seq => if cid' = cid then luaSucc seq else b.stored sm cid
    | _ => b.stored sm cid := by
  unfold stored apply TtlStore.get
  cases c with
  | prepare cid' seq =>
    by_cases h : cid = cid'
    · subst h
      rcases @RedisSequenceStateMachine.prepare_entry sm b.redis cid seq with h | ⟨h0, h⟩
      · simp only [h]
      · rw [TtlStore.get] at h0
        simp only [h, Option.map_some, Option.getD_some, h0]
    · simp only [sm.prepare_entry_ne h]
  | commit cid' seq =>
    by_cases h : cid' = cid
    · subst h; simp [sm.commit_entry]
    · simp only [sm.commit_entry_ne (Ne.symm h), h, if_false]
  | cleanup cid' =>
    by_cases h : cid = cid'
    · subst h; simp only [sm.cleanup_entry]; cases b.redis (sm.key cid) <;> rfl
    · simp only [sm.cleanup_entry_ne h]
  | send cid' p => rfl
  | utcNow => rfl

/-- **Only a send appends.** -/
theorem records_apply : (b.apply sm c).records cid =
    match c with
    | .send cid' p => if cid' = cid then b.records cid ++ [⟨cid, p⟩] else b.records cid
    | _ => b.records cid := by
  cases c with
  | send cid' p =>
    unfold records apply
    by_cases h : cid' = cid
    · subst h; simp
    · simp [h]
  | _ => rfl

/-- **Only a commit is recorded.** -/
theorem commitsOf_apply : (b.apply sm c).commitsOf cid =
    match c with
    | .commit cid' seq => if cid' = cid then b.commitsOf cid ++ [seq] else b.commitsOf cid
    | _ => b.commitsOf cid := by
  cases c with
  | commit cid' seq =>
    unfold commitsOf apply
    by_cases h : cid' = cid
    · subst h; simp
    · simp [h]
  | _ => rfl

/-- **A call leaves the expected sequence alone, or is a commit that takes effect.** -/
theorem exec_stored (fate : Fate) (now : Datetime) :
    ((b.exec sm fate now c).1.stored sm cid = b.stored sm cid ∧
      (b.exec sm fate now c).1.commitsOf cid = b.commitsOf cid) ∨
    ∃ seq, c = .commit cid seq ∧ (∀ x, fate ≠ .failed x) ∧
      (b.exec sm fate now c).1.stored sm cid = luaSucc seq ∧
      (b.exec sm fate now c).1.commitsOf cid = b.commitsOf cid ++ [seq] := by
  rcases @exec_fst sm b c fate now with hb | hb
  · rw [hb]; exact .inl ⟨rfl, rfl⟩
  cases c with
  | commit cid' seq =>
    by_cases h : cid' = cid
    · subst h
      cases fate with
      | failed x => exact .inl ⟨rfl, rfl⟩
      | _ =>
        rw [hb, stored_apply, commitsOf_apply]
        exact .inr ⟨seq, rfl, by simp, by simp, by simp⟩
    · rw [hb, stored_apply, commitsOf_apply]
      simp [h]
  | _ => rw [hb, stored_apply, commitsOf_apply]; exact .inl ⟨rfl, rfl⟩

/-- A call for another conversation leaves the key alone. -/
theorem entry_apply_ne (h : ∀ cid' seq, c = .prepare cid' seq ∨ c = .commit cid' seq ∨ c = .cleanup cid' →
    cid' ≠ cid) : (b.apply sm c).redis (sm.key cid) = b.redis (sm.key cid) := by
  cases c with
  | prepare cid' seq => exact sm.prepare_entry_ne (h cid' seq (.inl rfl)).symm
  | commit cid' seq => exact sm.commit_entry_ne (h cid' seq (.inr (.inl rfl))).symm
  | cleanup cid' => exact sm.cleanup_entry_ne (h cid' 0 (.inr (.inr rfl))).symm
  | _ => rfl

theorem stored_tick (h : ∀ e ∈ b.redis (sm.key cid), 1 < e.ttl) :
    b.tick.stored sm cid = b.stored sm cid := by
  unfold stored tick
  rw [TtlStore.get_tick h]

end Backend

end Transcribe
