import VirtualThing.Properties.Credentials

namespace VirtualThing

-- The persisted (ThingId, ThingToken) of a credentials file.
def credentials (s : Store) : Option String × Option String :=
  (s.readKeyString CREDENTIALS_GROUP CREDENTIALS_THING_ID, s.readKeyString CREDENTIALS_GROUP CREDENTIALS_THING_TOKEN)

@[simp] theorem credentials_write_token {s : Store} {t : String} :
    credentials (s.write CREDENTIALS_GROUP CREDENTIALS_THING_TOKEN (.string t)) = ((credentials s).1, some t) := by
  simp [credentials, Store.readKeyString, CREDENTIALS_THING_ID, CREDENTIALS_THING_TOKEN]

@[simp] theorem credentials_write_id {s : Store} {i : String} :
    credentials (s.write CREDENTIALS_GROUP CREDENTIALS_THING_ID (.string i)) = (some i, (credentials s).2) := by
  simp [credentials, Store.readKeyString, CREDENTIALS_THING_ID, CREDENTIALS_THING_TOKEN]

-- The write of `value` under `key` in the credentials group of `f`.
def credentialWrite (f key value : String) : Call :=
  .write f CREDENTIALS_GROUP key (.string value)

-- The world after the token write of `properties_store_credentials` succeeded.
def tokenWritten (w : World) (f token : String) : World :=
  (w.opened f).written f CREDENTIALS_GROUP CREDENTIALS_THING_TOKEN (.string token)

variable {P : Platform} {f id token key : String} {w : World} {thing : Thing} {fd : Int}

@[simp] theorem tokenWritten_fail : (tokenWritten w f token).fail = w.fail :=
  rfl

-- The result of the rollback write is dropped, and every path closes the handle it opened.
theorem propertiesStoreCredentials_run :
    (propertiesStoreCredentials P f id token).run w =
      if P.KNOT_PROTOCOL_TOKEN_LEN < strlen token then (-EINVAL, w)
      else if w.fails (.open f) then (-ENOENT, w.attempt (.open f))
      else if (w.opened f).fails (credentialWrite f CREDENTIALS_THING_TOKEN token) then
        (-EINVAL, { (w.opened f).attempt (credentialWrite f CREDENTIALS_THING_TOKEN token) with handles := w.handles })
      else if (tokenWritten w f token).fails (credentialWrite f CREDENTIALS_THING_ID id) then
        if ((tokenWritten w f token).attempt (credentialWrite f CREDENTIALS_THING_ID id)).fails
            (credentialWrite f CREDENTIALS_THING_TOKEN EMPTY_STRING) then
          (-EINVAL, { ((tokenWritten w f token).attempt (credentialWrite f CREDENTIALS_THING_ID id)).attempt
            (credentialWrite f CREDENTIALS_THING_TOKEN EMPTY_STRING) with handles := w.handles })
        else
          (-EINVAL, { ((tokenWritten w f token).attempt (credentialWrite f CREDENTIALS_THING_ID id)).written f
            CREDENTIALS_GROUP CREDENTIALS_THING_TOKEN (.string EMPTY_STRING) with handles := w.handles })
      else (0, { (tokenWritten w f token).written f CREDENTIALS_GROUP CREDENTIALS_THING_ID (.string id) with
        handles := w.handles }) := by
  unfold propertiesStoreCredentials
  by_cases h₀ : P.KNOT_PROTOCOL_TOKEN_LEN < strlen token
  · simp [h₀]
  simp only [h₀, if_false, pure_bind, storageOpen_guard_run]
  split
  · rfl
  simp only [StateT.run_bind, storageWriteKeyString, storageWriteKey_run, World.fileOf_opened_self, credentialWrite,
    tokenWritten, World.written_fileOf]
  split_ifs <;> simp [*, EINVAL]

theorem eraseThingCredential_run {clear : Thing → Thing} (h : w.fileOf fd = some f) :
    (eraseThingCredential key clear thing fd).run w =
      if w.fails (credentialWrite f key EMPTY_STRING) then
        ((-EINVAL, thing), w.attempt (credentialWrite f key EMPTY_STRING))
      else ((0, clear thing), w.written f CREDENTIALS_GROUP key (.string EMPTY_STRING)) := by
  simp only [eraseThingCredential, StateT.run_bind, storageWriteKeyString, storageWriteKey_run_of_fileOf h]
  split <;> simp [credentialWrite, *, EINVAL]

theorem propertiesClearCredentials_run :
    (propertiesClearCredentials thing f).run w =
      if w.fails (.open f) then ((-ENOENT, thing), w.attempt (.open f))
      else if (w.opened f).fails (credentialWrite f CREDENTIALS_THING_TOKEN EMPTY_STRING) then
        ((-EINVAL, thing), { (w.opened f).attempt (credentialWrite f CREDENTIALS_THING_TOKEN EMPTY_STRING) with
          handles := w.handles })
      else if (tokenWritten w f EMPTY_STRING).fails (credentialWrite f CREDENTIALS_THING_ID EMPTY_STRING) then
        ((-EINVAL, deviceClearThingToken thing),
          { (tokenWritten w f EMPTY_STRING).attempt (credentialWrite f CREDENTIALS_THING_ID EMPTY_STRING) with
            handles := w.handles })
      else
        ((0, deviceClearThingId (deviceClearThingToken thing)),
          { (tokenWritten w f EMPTY_STRING).written f CREDENTIALS_GROUP CREDENTIALS_THING_ID (.string EMPTY_STRING) with
            handles := w.handles }) := by
  unfold propertiesClearCredentials
  simp only [pure_bind, storageOpen_guard_run]
  split
  · rfl
  have hf : ((w.opened f).written f CREDENTIALS_GROUP CREDENTIALS_THING_TOKEN (.string EMPTY_STRING)).fileOf
      w.nextFd = some f := by simp
  simp only [tokenWritten]
  split_ifs <;> simp [*, eraseThingToken, eraseThingId, eraseThingCredential_run World.fileOf_opened_self,
    eraseThingCredential_run hf, EINVAL]

-- The calls the credentials file receives.
inductive CredentialsCall
  | store (id token : String)
  | clear

-- A run of calls on the credentials file `f`; each clear acts on the thing the one before left.
def credentialsRun (P : Platform) (f : String) : List CredentialsCall → Thing → Sto Thing
  | [], thing => pure thing
  | .store id token :: calls, thing => do
    let _ ← propertiesStoreCredentials P f id token
    credentialsRun P f calls thing
  | .clear :: calls, thing => do
    let (_, thing) ← propertiesClearCredentials thing f
    credentialsRun P f calls thing

-- Unless its token is the empty string, `p` is `p₀` or the arguments of one store call of `calls`.
def Paired (p₀ : Option String × Option String) (calls : List CredentialsCall) (p : Option String × Option String) :
    Prop :=
  p.2 ≠ some EMPTY_STRING → p = p₀ ∨ ∃ id token, .store id token ∈ calls ∧ p = (some id, some token)

-- The failure pattern lets the rollback of `properties_store_credentials` succeed: the write of the
-- empty token never fails right after a failed write of an id.
def RollbackHolds (fail : Nat → Call → Bool) (f : String) : Prop :=
  ∀ n id, fail n (credentialWrite f CREDENTIALS_THING_ID id) = true →
    fail (n + 1) (credentialWrite f CREDENTIALS_THING_TOKEN EMPTY_STRING) = false

section Paired

variable {p₀ : Option String × Option String} {calls : List CredentialsCall}

theorem Paired.refl : Paired p₀ calls p₀ :=
  fun _ => .inl rfl

theorem Paired.of_token_empty {p : Option String × Option String} (h : p.2 = some EMPTY_STRING) :
    Paired p₀ calls p :=
  fun hne => absurd h hne

theorem propertiesStoreCredentials_paired (hcall : .store id token ∈ calls) (hroll : RollbackHolds w.fail f)
    (h : Paired p₀ calls (credentials (w.files f))) :
    Paired p₀ calls (credentials (((propertiesStoreCredentials P f id token).run w).2.files f)) := by
  rw [propertiesStoreCredentials_run]
  split_ifs with h₀ h₁ h₂ h₃ h₄
  · exact h
  · exact h
  · exact h
  · simp only [World.fails, World.attempt_fail, World.attempt_log, List.length_cons, tokenWritten_fail] at h₃ h₄
    simp [hroll _ _ h₃] at h₄
  · exact .of_token_empty (by simp [tokenWritten])
  · exact fun _ => .inr ⟨id, token, hcall, by simp [tokenWritten]⟩

theorem propertiesClearCredentials_paired (h : Paired p₀ calls (credentials (w.files f))) :
    Paired p₀ calls (credentials (((propertiesClearCredentials thing f).run w).2.files f)) := by
  rw [propertiesClearCredentials_run]
  split_ifs
  · exact h
  · exact h
  · exact .of_token_empty (by simp [tokenWritten])
  · exact .of_token_empty (by simp [tokenWritten])

theorem propertiesStoreCredentials_fail : ((propertiesStoreCredentials P f id token).run w).2.fail = w.fail := by
  rw [propertiesStoreCredentials_run]
  simp only [apply_ite (fun r : Int × World => r.2.fail), World.attempt_fail, World.opened_fail, World.written_fail,
    tokenWritten_fail, ite_self]

theorem propertiesClearCredentials_fail : ((propertiesClearCredentials thing f).run w).2.fail = w.fail := by
  rw [propertiesClearCredentials_run]
  simp only [apply_ite (fun r : (Int × Thing) × World => r.2.fail), World.attempt_fail, World.opened_fail,
    World.written_fail, tokenWritten_fail, ite_self]

theorem credentialsRun_paired {done : List CredentialsCall} (hdone : ∀ c ∈ done, c ∈ calls)
    (hroll : RollbackHolds w.fail f) (h : Paired p₀ calls (credentials (w.files f))) :
    Paired p₀ calls (credentials (((credentialsRun P f done thing).run w).2.files f)) := by
  induction done generalizing thing w with
  | nil => exact h
  | cons c done ih =>
    have hrest := fun c' hc' => hdone c' (List.mem_cons_of_mem c hc')
    cases c with
    | store id token =>
      simp only [credentialsRun, StateT.run_bind]
      exact ih hrest (by rw [propertiesStoreCredentials_fail]; exact hroll)
        (propertiesStoreCredentials_paired (hdone _ (List.mem_cons_self _ _)) hroll h)
    | clear =>
      simp only [credentialsRun, StateT.run_bind]
      exact ih hrest (by rw [propertiesClearCredentials_fail]; exact hroll) (propertiesClearCredentials_paired h)

end Paired

-- A clear from `thing` in `w`, with result `r`, drops the in-memory token (id) only if the call
-- wrote the empty token (id) to the file: the successful write is among the call's log entries and
-- the file holds the empty string.
structure ClearErases (f : String) (thing : Thing) (w : World) (r : (Int × Thing) × World) : Prop where
  token : r.1.2.token ≠ thing.token →
    (∃ l, r.2.log = l ++ w.log ∧ (credentialWrite f CREDENTIALS_THING_TOKEN EMPTY_STRING, true) ∈ l) ∧
      (credentials (r.2.files f)).2 = some EMPTY_STRING
  id : r.1.2.id ≠ thing.id →
    (∃ l, r.2.log = l ++ w.log ∧ (credentialWrite f CREDENTIALS_THING_ID EMPTY_STRING, true) ∈ l) ∧
      (credentials (r.2.files f)).1 = some EMPTY_STRING

theorem propertiesClearCredentials_erases : ClearErases f thing w ((propertiesClearCredentials thing f).run w) := by
  rw [propertiesClearCredentials_run]
  split_ifs with h₀ h₁ h₂
  · exact ⟨fun h => absurd rfl h, fun h => absurd rfl h⟩
  · exact ⟨fun h => absurd rfl h, fun h => absurd rfl h⟩
  · refine ⟨fun _ => ⟨⟨[_, _, _], rfl, ?_⟩, by simp [tokenWritten]⟩, fun h => absurd rfl h⟩
    simp_all [tokenWritten, credentialWrite]
  · refine ⟨fun _ => ⟨⟨[_, _, _], rfl, ?_⟩, by simp [tokenWritten]⟩,
      fun _ => ⟨⟨[_, _, _], rfl, ?_⟩, by simp [tokenWritten]⟩⟩
    all_goals simp_all [tokenWritten, credentialWrite]

theorem credentials_paired_unless_rollback_fails (P : Platform) (f : String) (calls : List CredentialsCall)
    (thing : Thing) (w : World) (hroll : RollbackHolds w.fail f) :
    Paired (credentials (w.files f)) calls (credentials (((credentialsRun P f calls thing).run w).2.files f)) ∧
    ∀ (thing : Thing) (w : World), ClearErases f thing w ((propertiesClearCredentials thing f).run w) :=
  ⟨credentialsRun_paired (fun _ h => h) hroll .refl, fun _ _ => propertiesClearCredentials_erases⟩

-- A credentials file holding ("a", "ta"), in a world where only the write of the empty token at
-- log position 4 fails: the token erase of a clear that follows a store.
def clearEraseFails : World :=
  { World.reliable fun _ => Store.ofList [(CREDENTIALS_GROUP, CREDENTIALS_THING_ID, .string "a"),
      (CREDENTIALS_GROUP, CREDENTIALS_THING_TOKEN, .string "ta")] with
    fail := fun n c => decide (n = 4 ∧ c = credentialWrite "credentials.conf" CREDENTIALS_THING_TOKEN EMPTY_STRING) }

theorem credentials_paired_clear_fails :
    RollbackHolds clearEraseFails.fail "credentials.conf" ∧
    Paired (credentials (clearEraseFails.files "credentials.conf")) [.store "b" "tb", .clear]
      (credentials (((credentialsRun Platform.sample "credentials.conf" [.store "b" "tb", .clear] Thing.blank).run
        clearEraseFails).2.files "credentials.conf")) ∧
    ∀ (thing : Thing) (w : World), ClearErases "credentials.conf" thing w
      ((propertiesClearCredentials thing "credentials.conf").run w) :=
  have hroll : RollbackHolds clearEraseFails.fail "credentials.conf" := fun _ _ h => by
    simp [clearEraseFails, credentialWrite, CREDENTIALS_THING_ID, CREDENTIALS_THING_TOKEN] at h
  ⟨hroll, credentials_paired_unless_rollback_fails Platform.sample "credentials.conf" [.store "b" "tb", .clear]
    Thing.blank clearEraseFails hroll⟩

-- A credentials file holding ("a", "ta"), in a world where every fallible call from the third on fails.
def rollbackFails : World :=
  { World.reliable fun _ => Store.ofList [(CREDENTIALS_GROUP, CREDENTIALS_THING_ID, .string "a"),
      (CREDENTIALS_GROUP, CREDENTIALS_THING_TOKEN, .string "ta")] with fail := fun n _ => decide (2 ≤ n) }

theorem propertiesStoreCredentials_pairs_token_with_old_id :
    credentials (rollbackFails.files "credentials.conf") = (some "a", some "ta") ∧
    credentials (((credentialsRun Platform.sample "credentials.conf" [.store "b" "tb"] Thing.blank).run
      rollbackFails).2.files "credentials.conf") = (some "a", some "tb") :=
  ⟨rfl, rfl⟩

end VirtualThing
