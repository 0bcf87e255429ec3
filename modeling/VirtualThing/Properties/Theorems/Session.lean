import VirtualThing.Properties.Theorems.Boot
import VirtualThing.Properties.Theorems.UpdateRun

namespace VirtualThing

-- What the driver asks of the properties module between two boots: a configuration command of the
-- cloud for a data item, or a call on the credentials file.
inductive Op
  | update (cmd : KnotMsgConfig)
  | credentials (call : CredentialsCall)

def Op.credentialsCalls (ops : List Op) : List CredentialsCall :=
  ops.filterMap fun
    | .credentials call => some call
    | .update _ => none

-- A session from `thing`: the operations in order, the updates on the device file of `settings` and
-- the credentials calls on its credentials file, each from the thing the call before left; an update
-- that crashes ends the session.
def session (P : Platform) (settings : DeviceSettings) : List Op → Thing → Sto (Option Thing)
  | [], thing => pure (some thing)
  | .update cmd :: ops, thing => do
    let some (_, thing) ← propertiesUpdateDataItem P thing settings.devicePath cmd | return none
    session P settings ops thing
  | .credentials call :: ops, thing => do
    let thing ← credentialsRun P settings.credentialsPath [call] thing
    session P settings ops thing

section Credentials

variable {P : Platform} {f f' id token : String} {w : World} {thing : Thing} {calls : List CredentialsCall}

theorem propertiesStoreCredentials_files_of_ne (h : f' ≠ f) :
    ((propertiesStoreCredentials P f id token).run w).2.files f' = w.files f' := by
  rw [propertiesStoreCredentials_run]
  simp only [apply_ite (fun r : Int × World => r.2.files f'), World.attempt_files, World.opened_files,
    World.written_files, tokenWritten, Function.update_noteq h, ite_self]

theorem propertiesClearCredentials_files_of_ne (h : f' ≠ f) :
    ((propertiesClearCredentials thing f).run w).2.files f' = w.files f' := by
  rw [propertiesClearCredentials_run]
  simp only [apply_ite (fun r : (Int × Thing) × World => r.2.files f'), World.attempt_files, World.opened_files,
    World.written_files, tokenWritten, Function.update_noteq h, ite_self]

theorem credentialsRun_frame :
    (∀ f', f' ≠ f → ((credentialsRun P f calls thing).run w).2.files f' = w.files f') ∧
    ((credentialsRun P f calls thing).run w).2.fail = w.fail := by
  induction calls generalizing thing w with
  | nil => exact ⟨fun _ _ => rfl, rfl⟩
  | cons c calls ih =>
    cases c with
    | store id token =>
      simp only [credentialsRun, StateT.run_bind]
      exact ⟨fun f' h => (ih.1 f' h).trans (propertiesStoreCredentials_files_of_ne h),
        ih.2.trans propertiesStoreCredentials_fail⟩
    | clear =>
      simp only [credentialsRun, StateT.run_bind]
      exact ⟨fun f' h => (ih.1 f' h).trans (propertiesClearCredentials_files_of_ne h),
        ih.2.trans propertiesClearCredentials_fail⟩

end Credentials

theorem mem_of_mem_updatedKeys {cmd : KnotMsgConfig} {k : String} (hk : k ∈ updatedKeys cmd) :
    k ∈ schemaKeys ++ eventKeys := by
  unfold updatedKeys at hk
  split at hk
  · exact List.mem_append_left _ (by simpa using hk)
  · exact hk

-- What a session may change in the files a boot reads, the credentials file apart: nothing of the
-- cloud file, and in the device file neither its groups nor any key but the schema and event keys
-- of a data-item group.
structure SessionFrame (P : Platform) (settings : DeviceSettings) (files files' : String → Store) : Prop where
  cloud : files' settings.cloudPath = files settings.cloudPath
  groups : (files' settings.devicePath).groups = (files settings.devicePath).groups
  keys : ∀ g k, (files' settings.devicePath).get g k ≠ (files settings.devicePath).get g k →
    P.dataItemGroup g = true ∧ k ∈ schemaKeys ++ eventKeys

namespace SessionFrame

variable {P : Platform} {settings : DeviceSettings} {files files₁ files₂ : String → Store}

theorem refl : SessionFrame P settings files files :=
  ⟨rfl, rfl, fun _ _ h => absurd rfl h⟩

theorem trans (h₁ : SessionFrame P settings files files₁) (h₂ : SessionFrame P settings files₁ files₂) :
    SessionFrame P settings files files₂ where
  cloud := h₂.cloud.trans h₁.cloud
  groups := h₂.groups.trans h₁.groups
  keys g k hne := by
    by_cases e : (files₂ settings.devicePath).get g k = (files₁ settings.devicePath).get g k
    · exact h₁.keys g k (e ▸ hne)
    · exact h₂.keys g k e

theorem of_updateFrame {cmd : KnotMsgConfig} (h : UpdateFrame P settings.devicePath cmd files files₁)
    (hc : settings.cloudPath ≠ settings.devicePath) : SessionFrame P settings files files₁ where
  cloud := h.others _ hc
  groups := h.groups
  keys g k hne :=
    let ⟨hg, hk⟩ := h.keys g k hne
    ⟨(List.mem_filter.mp (matchedGroup_mem hg).1).2, mem_of_mem_updatedKeys hk⟩

theorem of_credentials (h : ∀ f, f ≠ settings.credentialsPath → files₁ f = files f)
    (hc : settings.cloudPath ≠ settings.credentialsPath) (hd : settings.devicePath ≠ settings.credentialsPath) :
    SessionFrame P settings files files₁ :=
  ⟨h _ hc, by rw [h _ hd], fun _ _ hne => absurd (by rw [h _ hd]) hne⟩

theorem get_eq (h : SessionFrame P settings files files₁) {g k : String}
    (hgk : P.dataItemGroup g = false ∨ k ∉ schemaKeys ++ eventKeys) :
    (files₁ settings.devicePath).get g k = (files settings.devicePath).get g k := by
  by_contra hne
  have := h.keys g k hne
  rcases hgk with hg | hk
  · simp [hg] at this
  · exact hk this.2

end SessionFrame

section Session

variable {P : Platform} {settings : DeviceSettings} {ops : List Op} {thing : Thing} {w : World}
  (hc : settings.cloudPath ≠ settings.devicePath) (hcred : settings.credentialsPath ≠ settings.devicePath ∧
    settings.credentialsPath ≠ settings.cloudPath)

include hc hcred in
theorem session_frame : SessionFrame P settings w.files ((session P settings ops thing).run w).2.files := by
  induction ops generalizing thing w with
  | nil => exact .refl
  | cons op ops ih =>
    cases op with
    | update cmd =>
      have hstep := SessionFrame.of_updateFrame (propertiesUpdateDataItem_frame : UpdateFrame P settings.devicePath
        cmd w.files ((propertiesUpdateDataItem P thing settings.devicePath cmd).run w).2.files) hc
      simp only [session, StateT.run_bind]
      rcases hr : (propertiesUpdateDataItem P thing settings.devicePath cmd).run w with ⟨_ | ⟨_, thing'⟩, w₁⟩
      · rw [hr] at hstep
        exact hstep
      · rw [hr] at hstep
        exact hstep.trans ih
    | credentials call =>
      simp only [session, StateT.run_bind]
      exact (SessionFrame.of_credentials (fun f hf => credentialsRun_frame.1 f hf) hcred.2.symm
        hcred.1.symm).trans ih

include hcred in
theorem session_paired {p₀ : Option String × Option String} {calls : List CredentialsCall}
    (hdone : ∀ c ∈ Op.credentialsCalls ops, c ∈ calls) (hroll : RollbackHolds w.fail settings.credentialsPath)
    (h : Paired p₀ calls (credentials (w.files settings.credentialsPath))) :
    Paired p₀ calls (credentials (((session P settings ops thing).run w).2.files settings.credentialsPath)) := by
  induction ops generalizing thing w with
  | nil => exact h
  | cons op ops ih =>
    cases op with
    | update cmd =>
      have hfiles := (propertiesUpdateDataItem_frame : UpdateFrame P settings.devicePath cmd w.files
        ((propertiesUpdateDataItem P thing settings.devicePath cmd).run w).2.files).others _ hcred.1
      have hφ := @propertiesUpdateDataItem_fail P thing settings.devicePath cmd w
      simp only [session, StateT.run_bind]
      rcases hr : (propertiesUpdateDataItem P thing settings.devicePath cmd).run w with ⟨_ | ⟨_, thing'⟩, w₁⟩
      · rw [hr] at hfiles
        exact hfiles ▸ h
      · rw [hr] at hfiles hφ
        exact ih hdone (hφ ▸ hroll) (hfiles ▸ h)
    | credentials call =>
      simp only [session, StateT.run_bind]
      exact ih (fun c hc => hdone c (List.mem_cons_of_mem _ hc)) (by rw [credentialsRun_frame.2]; exact hroll)
        (credentialsRun_paired (fun c hc => List.mem_singleton.mp hc ▸ hdone _ (List.mem_cons_self _ _)) hroll h)

end Session

section Items

variable {P : Platform} {u : DataPropsLocals} {v : String → DataPropsLocals} {s s' : Store} {g : String}
  {gs : List String} {sch sch' : KnotSchema} {p p' : DataProps}

-- The schema enters `set_data_properties` only through the bit-size check: two loads of the same
-- keys under two schemas that both pass load the same addressing.
theorem setDataProperties_eq_of_eq_some (h : setDataProperties P u s g sch = some p)
    (h' : setDataProperties P u s g sch' = some p') : p' = p := by
  simp only [setDataProperties, Option.bind_eq_bind, Option.bind_eq_some, Option.ite_none_left_eq_some,
    Option.some.injEq] at h h'
  obtain ⟨-, _, h₁, _, h₂, _, h₃, _, h₄, -, -, -, -, rfl⟩ := h
  obtain ⟨-, _, h₁', _, h₂', _, h₃', _, h₄', -, -, -, -, rfl⟩ := h'
  simp only [h₁, h₂, h₃, h₄, Option.some.injEq] at h₁' h₂' h₃' h₄'
  subst h₁' h₂' h₃' h₄'
  rfl

theorem not_mem_schemaKeys_append_eventKeys_of_mem_dataPropKeys :
    ∀ k ∈ dataPropKeys, k ∉ schemaKeys ++ eventKeys := by
  decide

-- The part of a registered item that says which sensor it is and where to read it: its sensor id
-- and the addressing `set_data_properties` loads.
def sensorAddress (x : Int × DataItem) : Int × DataProps :=
  (x.1, x.2.props)

theorem groupItem_map_sensorAddress (hs : (groupItem P v s g).isSome) (hs' : (groupItem P v s' g).isSome)
    (hk : ∀ k, k ∉ schemaKeys ++ eventKeys → s'.get g k = s.get g k) :
    (groupItem P v s' g).map sensorAddress = (groupItem P v s g).map sensorAddress := by
  obtain ⟨x, hx⟩ := Option.isSome_iff_exists.mp hs
  obtain ⟨x', hx'⟩ := Option.isSome_iff_exists.mp hs'
  obtain ⟨hid, -, -, -, hp⟩ := groupItem_eq_some_iff.mp hx
  obtain ⟨hid', -, -, -, hp'⟩ := groupItem_eq_some_iff.mp hx'
  rw [Store.readKeyInt_congr (hk _ (by decide))] at hid'
  rw [setDataProperties_congr (fun k hk' => hk k (not_mem_schemaKeys_append_eventKeys_of_mem_dataPropKeys k hk'))
    rfl] at hp'
  rw [hx, hx', Option.map_some', Option.map_some', sensorAddress, sensorAddress, Option.some.injEq, Prod.mk.injEq]
  exact ⟨Option.some.inj (hid'.symm.trans hid), setDataProperties_eq_of_eq_some hp hp'⟩

theorem filterMap_groupItem_map_sensorAddress (hs : ∀ g ∈ gs, (groupItem P v s g).isSome)
    (hs' : ∀ g ∈ gs, (groupItem P v s' g).isSome)
    (hk : ∀ g ∈ gs, ∀ k, k ∉ schemaKeys ++ eventKeys → s'.get g k = s.get g k) :
    (gs.filterMap (groupItem P v s')).map sensorAddress = (gs.filterMap (groupItem P v s)).map sensorAddress := by
  simp only [List.map_filterMap]
  exact List.filterMap_congr fun g hg => groupItem_map_sensorAddress (hs g hg) (hs' g hg) (hk g hg)

end Items

theorem setDriverProperties_congr_thingGroup {P : Platform} {u : Uninit} {thing : Thing} {s s' : Store}
    (h : ∀ k, s'.get THING_GROUP k = s.get THING_GROUP k) :
    setDriverProperties P u (setDriverUrl (setThingName P thing s').2 s').2 s' =
      setDriverProperties P u (setDriverUrl (setThingName P thing s).2 s).2 s := by
  simp only [setThingName, setDriverUrl, setNonEmptyString, setDriverProperties, Store.readKeyString,
    Store.readKeyInt, h]

-- Two boots that loaded the same device: the second returned the thing of the first but for the
-- registry and the credentials, and its registry holds the same sensors in the same order, each with
-- the same addressing; only their schemas and events may differ.
structure SameDevice (t₀ t₁ : Thing) : Prop where
  thing : t₁ = { t₀ with dataItems := t₁.dataItems, id := t₁.id, token := t₁.token }
  sensors : t₁.dataItems.map sensorAddress = t₀.dataItems.map sensorAddress

theorem SessionFrame.sameDevice {P : Platform} {settings : DeviceSettings} {files files' : String → Store}
    {u : Uninit} {thing t₀ t₁ : Thing} {cred cred' : Store} (hfr : SessionFrame P settings files files')
    (hthing : P.dataItemGroup THING_GROUP = false)
    (h₀ : Booted P u thing (files settings.devicePath) (files settings.cloudPath) cred t₀)
    (h₁ : Booted P u thing (files' settings.devicePath) (files' settings.cloudPath) cred' t₁) :
    SameDevice t₀ t₁ := by
  have hT : ∀ k, (files' settings.devicePath).get THING_GROUP k = (files settings.devicePath).get THING_GROUP k :=
    fun _ => hfr.get_eq (.inl hthing)
  have hname : some t₁.name = some t₀.name := by
    rw [← h₁.device.name.1, ← h₀.device.name.1, Store.readKeyString_congr (hT _)]
  have hurl : some t₁.driverUrl = some t₀.driverUrl := by
    rw [← h₁.device.driverUrl.1, ← h₀.device.driverUrl.1, Store.readKeyString_congr (hT _)]
  have hdriver : t₁.driver = t₀.driver := by
    rw [h₁.device.driver, h₀.device.driver, setDriverProperties_congr_thingGroup hT]
  have hcount : t₁.numberSensor = t₀.numberSensor := by
    rw [h₁.device.numberSensor, h₀.device.numberSensor, hfr.groups]
  have hmq : some t₁.rabbitmqUrl = some t₀.rabbitmqUrl := by
    rw [← h₁.rabbitmqUrl.1, ← h₀.rabbitmqUrl.1, hfr.cloud]
  have htok : some t₁.userToken = some t₀.userToken := by
    rw [← h₁.userToken.1, ← h₀.userToken.1, hfr.cloud]
  refine ⟨?_, ?_⟩
  · cases t₀
    cases t₁
    simp only [Thing.driver, Prod.mk.injEq, Option.some.injEq] at hname hurl hdriver hcount hmq htok
    obtain ⟨rfl, rfl, rfl, rfl, rfl, rfl, rfl⟩ := hdriver
    subst hname hurl hcount hmq htok
    rfl
  · have hs' : ∀ g ∈ (files settings.devicePath).groups.filter P.dataItemGroup,
        (groupItem P u.dataProps (files' settings.devicePath) g).isSome :=
      fun g hg => h₁.device.loads.1 g (by rwa [hfr.groups])
    rw [h₁.device.dataItems, h₀.device.dataItems, List.map_append, List.map_append, List.map_reverse,
      List.map_reverse, hfr.groups, filterMap_groupItem_map_sensorAddress h₀.device.loads.1 hs'
        fun _ _ _ hk => hfr.get_eq (.inr hk)]

section Memory

variable {P : Platform} {settings : DeviceSettings} {ops : List Op} {f : String} {cmd : KnotMsgConfig}
  {thing t : Thing} {w : World} {rc : Int} {calls : List CredentialsCall}

theorem propertiesUpdateDataItem_thing (h : ((propertiesUpdateDataItem P thing f cmd).run w).1 = some (rc, t)) :
    t = { thing with dataItems := t.dataItems } := by
  unfold propertiesUpdateDataItem at h
  rw [storageOpen_guard_run] at h
  by_cases ho : w.fails (.open f)
  · simp only [ho, if_true, Option.some.injEq, Prod.mk.injEq] at h
    rw [← h.2]
  have hf := World.fileOf_opened_self (w := w) (f := f)
  by_cases hgr : (w.opened f).fails (.groups f)
  · simp [ho, getDataItemGroups_run_of_fileOf hf, hgr] at h
  · simp [ho, getDataItemGroups_run_of_fileOf hf, hgr] at h
    rw [← h.2]
    rfl

theorem credentialsRun_thing :
    ((credentialsRun P f calls thing).run w).1 =
      { thing with id := ((credentialsRun P f calls thing).run w).1.id,
                   token := ((credentialsRun P f calls thing).run w).1.token } := by
  induction calls generalizing thing w with
  | nil => rfl
  | cons c calls ih =>
    cases c with
    | store id token =>
      simp only [credentialsRun, StateT.run_bind]
      exact ih
    | clear =>
      simp only [credentialsRun, StateT.run_bind]
      refine (@ih ((propertiesClearCredentials thing f).run w).1.2 ((propertiesClearCredentials thing f).run w).2).trans ?_
      rw [propertiesClearCredentials_run]
      split_ifs <;> rfl

theorem session_thing (h : ((session P settings ops thing).run w).1 = some t) :
    t = { thing with dataItems := t.dataItems, id := t.id, token := t.token } := by
  induction ops generalizing thing w with
  | nil =>
    cases h
    rfl
  | cons op ops ih =>
    cases op with
    | update cmd =>
      simp only [session, StateT.run_bind] at h
      rcases hr : (propertiesUpdateDataItem P thing settings.devicePath cmd).run w with ⟨_ | ⟨rc, thing'⟩, w₁⟩
      · rw [hr] at h
        cases h
      rw [hr] at h
      have e := propertiesUpdateDataItem_thing (by rw [hr])
      rw [ih h, e]
    | credentials call =>
      simp only [session, StateT.run_bind] at h
      rw [ih h, credentialsRun_thing]

end Memory

section Synced

variable {P : Platform} {v : String → DataPropsLocals} {s : Store} {thing t₀ t₀' t : Thing}

-- The in-memory thing `t` holds the registry a load of the device file `s` makes: loading `s` into
-- `t` with its registry emptied gives `t` back.
def Synced (P : Platform) (v : String → DataPropsLocals) (s : Store) (t : Thing) : Prop :=
  loadDataItems P v { t with dataItems := [], numberSensor := 0 } s = (0, t)

theorem loadDataItems_of_empty (h₀ : t₀.dataItems = []) (h₀' : t₀'.dataItems = [])
    (h : loadDataItems P v t₀ s = (0, t)) :
    loadDataItems P v t₀' s = (0, { t₀' with dataItems := t.dataItems, numberSensor := t.numberSensor }) := by
  have hl := (setDataItems.loop_eq_zero_iff h₀).mp (congrArg Prod.fst h)
  unfold loadDataItems at h ⊢
  rw [setDataItems.loop_of_loadsFrom (setDataItems.loop_fst_eq_zero_iff.mp (congrArg Prod.fst h))] at h
  rw [setDataItems.loop_of_loadsFrom
    (setDataItems.loop_fst_eq_zero_iff.mp ((setDataItems.loop_eq_zero_iff h₀').mpr hl))]
  obtain rfl := (Prod.mk.inj h).2
  simp [h₀, h₀']

theorem Synced.of_load (h₀ : t₀.dataItems = []) (h : loadDataItems P v t₀ s = (0, t)) : Synced P v s t :=
  loadDataItems_of_empty h₀ rfl h

theorem Synced.credentials (h : Synced P v s t) {id token : Option String} :
    Synced P v s { t with id := id, token := token } :=
  loadDataItems_of_empty rfl rfl h

theorem Synced.dataItems (h : Synced P v s t) :
    t.dataItems = ((s.groups.filter P.dataItemGroup).filterMap (groupItem P v s)).reverse := by
  unfold Synced loadDataItems at h
  rw [setDataItems.loop_of_loadsFrom (setDataItems.loop_fst_eq_zero_iff.mp (congrArg Prod.fst h))] at h
  rw [← (Prod.mk.inj h).2, List.append_nil]

theorem DeviceLoaded.synced {u : Uninit} (hd : DeviceLoaded P u thing s t) (hempty : thing.dataItems = []) :
    Synced P u.dataProps s t := by
  refine (loadDataItems_of_empty hempty rfl (setDataItems.loop_of_loadsFrom hd.loads)).trans ?_
  have e : ((0 : Nat) : Int) + ((s.groups.filter P.dataItemGroup).length : Int) = t.numberSensor := by
    rw [hd.numberSensor]
    omega
  rw [← hd.dataItems, e]

end Synced

section SessionSync

variable {P : Platform} {settings : DeviceSettings} {ops : List Op} {thing : Thing} {w : World}
  {v : String → DataPropsLocals}
  (hcred : settings.credentialsPath ≠ settings.devicePath ∧ settings.credentialsPath ≠ settings.cloudPath)

include hcred in
theorem session_synced (hwrites : ∀ n f g k x, w.fail n (.write f g k x) = false)
    (hfit : ∀ i cmd g, ops[i]? = some (.update cmd) →
      matchedGroup P (((session P settings (ops.take i) thing).run w).2.files settings.devicePath) cmd.sensorId =
        some g → ReloadsAsWritten P (((session P settings (ops.take i) thing).run w).2.files settings.devicePath) g cmd)
    (hsync : Synced P v (w.files settings.devicePath) thing) {t : Thing}
    (h : ((session P settings ops thing).run w).1 = some t) :
    Synced P v (((session P settings ops thing).run w).2.files settings.devicePath) t := by
  induction ops generalizing thing w with
  | nil =>
    cases h
    exact hsync
  | cons op ops ih =>
    cases op with
    | update cmd =>
      simp only [session, StateT.run_bind] at h ⊢
      rcases hr : (propertiesUpdateDataItem P thing settings.devicePath cmd).run w with ⟨_ | ⟨rc, thing'⟩, w₁⟩
      · rw [hr] at h
        cases h
      rw [hr] at h
      have hsync₁ : Synced P v (w₁.files settings.devicePath) thing' := by
        have := propertiesUpdateDataItem_keeps_loaded rfl hsync hwrites (fun g => hfit 0 cmd g List.getElem?_cons_zero) (by rw [hr])
        rw [hr] at this
        exact .of_load rfl this
      have hφ : w₁.fail = w.fail := by
        have := @propertiesUpdateDataItem_fail P thing settings.devicePath cmd w
        rwa [hr] at this
      refine ih (hφ ▸ hwrites) (fun i c g hi hg => ?_) hsync₁ h
      have := hfit (i + 1) c g (by simpa using hi)
      simp only [List.take_succ_cons, session, StateT.run_bind, hr] at this
      exact this hg
    | credentials call =>
      simp only [session, StateT.run_bind] at h ⊢
      refine ih (by rw [credentialsRun_frame.2]; exact hwrites) (fun i c g hi hg => ?_) ?_ h
      · have := hfit (i + 1) c g (by simpa using hi)
        simp only [List.take_succ_cons, session, StateT.run_bind] at this
        exact this hg
      · rw [credentialsRun_frame.1 _ hcred.1.symm, credentialsRun_thing]
        exact hsync.credentials

end SessionSync

theorem booted_of_run {P : Platform} {u : Uninit} {thing : Thing} {settings : DeviceSettings} {w : World}
    {t : Thing} (h : ((propertiesCreateDevice P u thing settings).run w).1 = (0, t)) :
    Booted P u thing (w.files settings.devicePath) (w.files settings.cloudPath) (w.files settings.credentialsPath) t := by
  have hb := @propertiesCreateDevice_booted P u thing settings w (by rw [h]; exact lt_irrefl 0)
  rwa [h] at hb

theorem reboot_keeps_device (P : Platform) (u : Uninit) (thing : Thing) (settings : DeviceSettings) (ops : List Op)
    (w w₀ : World) (t₀ t₁ : Thing) (hc : settings.cloudPath ≠ settings.devicePath)
    (hcred : settings.credentialsPath ≠ settings.devicePath ∧ settings.credentialsPath ≠ settings.cloudPath)
    (hthing : P.dataItemGroup THING_GROUP = false)
    (h₀ : (propertiesCreateDevice P u thing settings).run w = ((0, t₀), w₀))
    (h₁ : ((propertiesCreateDevice P u thing settings).run ((session P settings ops t₀).run w₀).2).1 = (0, t₁)) :
    SameDevice t₀ t₁ := by
  have hf : w₀.files = w.files := by
    simpa only [h₀] using (@propertiesCreateDevice_readOnly P u thing settings w).1
  have hfr := @session_frame P settings ops t₀ w₀ hc hcred
  rw [hf] at hfr
  exact hfr.sameDevice hthing (booted_of_run (congrArg Prod.fst h₀)) (booted_of_run h₁)

-- An absent token is not the empty string, so it is the one the first boot loaded.
theorem reboot_credentials_paired (P : Platform) (u : Uninit) (thing : Thing) (settings : DeviceSettings)
    (ops : List Op) (w w₀ : World) (t₀ t₁ : Thing)
    (hcred : settings.credentialsPath ≠ settings.devicePath ∧ settings.credentialsPath ≠ settings.cloudPath)
    (hroll : RollbackHolds w.fail settings.credentialsPath)
    (h₀ : (propertiesCreateDevice P u thing settings).run w = ((0, t₀), w₀))
    (h₁ : ((propertiesCreateDevice P u thing settings).run ((session P settings ops t₀).run w₀).2).1 = (0, t₁)) :
    Paired (t₀.id, t₀.token) (Op.credentialsCalls ops) (t₁.id, t₁.token) := by
  obtain ⟨hf, hφ⟩ := @propertiesCreateDevice_readOnly P u thing settings w
  rw [h₀] at hf hφ
  rw [(booted_of_run (congrArg Prod.fst h₀)).credentials, (booted_of_run h₁).credentials]
  exact session_paired hcred (fun _ => id) (by rw [hφ]; exact hroll) (by rw [hf]; exact .refl)

theorem reboot_reloads_session (P : Platform) (u : Uninit) (thing : Thing) (settings : DeviceSettings)
    (ops : List Op) (w w₀ w₁ : World) (t₀ t t₁ : Thing) (hc : settings.cloudPath ≠ settings.devicePath)
    (hcred : settings.credentialsPath ≠ settings.devicePath ∧ settings.credentialsPath ≠ settings.cloudPath)
    (hthing : P.dataItemGroup THING_GROUP = false) (hempty : thing.dataItems = [])
    (hwrites : ∀ n f g k x, w.fail n (.write f g k x) = false)
    (h₀ : (propertiesCreateDevice P u thing settings).run w = ((0, t₀), w₀))
    (hfit : ∀ i cmd g, ops[i]? = some (.update cmd) →
      matchedGroup P (((session P settings (ops.take i) t₀).run w₀).2.files settings.devicePath) cmd.sensorId =
        some g → ReloadsAsWritten P (((session P settings (ops.take i) t₀).run w₀).2.files settings.devicePath) g cmd)
    (hs : (session P settings ops t₀).run w₀ = (some t, w₁))
    (h₁ : ((propertiesCreateDevice P u thing settings).run w₁).1 = (0, t₁)) :
    t₁ = { t with id := t₁.id, token := t₁.token } := by
  have hb₀ := booted_of_run (congrArg Prod.fst h₀)
  have hb₁ := booted_of_run h₁
  obtain ⟨hf, hφ⟩ := @propertiesCreateDevice_readOnly P u thing settings w
  rw [h₀] at hf hφ
  have hsync := session_synced hcred (by rw [hφ]; exact hwrites) hfit (by rw [hf]; exact hb₀.device.synced hempty)
    (by rw [hs])
  have hfr := @session_frame P settings ops t₀ w₀ hc hcred
  rw [hs] at hsync hfr
  rw [hf] at hfr
  have hmem := @session_thing P settings ops t₀ t w₀ (by rw [hs])
  have hreg : t₁.dataItems = t.dataItems := by
    rw [hb₁.device.dataItems, hempty, List.append_nil, hsync.dataItems]
  calc t₁ = { t₀ with dataItems := t₁.dataItems, id := t₁.id, token := t₁.token } :=
        (hfr.sameDevice hthing hb₀ hb₁).thing
    _ = { t with id := t₁.id, token := t₁.token } := by rw [hmem, hreg]

-- Between two boots of `bootWorld`: the sample item renamed "speed" with a period and a threshold
-- by `speedCommand`, and ("b", "tb") stored.
def sampleSession : List Op :=
  [.update speedCommand, .credentials (.store "b" "tb")]

-- The first boot of `bootWorld`, the session from the thing it returned, and the second boot.
def sampleBoot : (Int × Thing) × World :=
  (propertiesCreateDevice Platform.sample ⟨fun _ => .zero, 0, 0⟩ Thing.blank bootSettings).run bootWorld

def sampleAfter : Option Thing × World :=
  (session Platform.sample bootSettings sampleSession sampleBoot.1.2).run sampleBoot.2

def sampleReboot : Int × Thing :=
  ((propertiesCreateDevice Platform.sample ⟨fun _ => .zero, 0, 0⟩ Thing.blank bootSettings).run sampleAfter.2).1

theorem sample_runs : sampleBoot = ((0, sampleBoot.1.2), sampleBoot.2) ∧
    sampleAfter = (some (deviceUpdateConfigDataItem sampleBoot.1.2 speedCommand), sampleAfter.2) ∧
    sampleReboot = (0, sampleReboot.2) :=
  ⟨rfl, rfl, rfl⟩

theorem reboot_keeps_device_sample :
    bootSettings.cloudPath ≠ bootSettings.devicePath ∧
    (bootSettings.credentialsPath ≠ bootSettings.devicePath ∧ bootSettings.credentialsPath ≠ bootSettings.cloudPath) ∧
    Platform.sample.dataItemGroup THING_GROUP = false ∧
    (propertiesCreateDevice Platform.sample ⟨fun _ => .zero, 0, 0⟩ Thing.blank bootSettings).run bootWorld =
      ((0, sampleBoot.1.2), sampleBoot.2) ∧
    ((propertiesCreateDevice Platform.sample ⟨fun _ => .zero, 0, 0⟩ Thing.blank bootSettings).run
      ((session Platform.sample bootSettings sampleSession sampleBoot.1.2).run sampleBoot.2).2).1 =
      (0, sampleReboot.2) ∧
    SameDevice sampleBoot.1.2 sampleReboot.2 :=
  ⟨by decide, ⟨by decide, by decide⟩, rfl, sample_runs.1, sample_runs.2.2,
    reboot_keeps_device _ _ _ _ _ _ _ _ _ (by decide) ⟨by decide, by decide⟩ rfl sample_runs.1 sample_runs.2.2⟩

theorem reboot_credentials_paired_sample :
    (bootSettings.credentialsPath ≠ bootSettings.devicePath ∧ bootSettings.credentialsPath ≠ bootSettings.cloudPath) ∧
    RollbackHolds bootWorld.fail bootSettings.credentialsPath ∧
    (propertiesCreateDevice Platform.sample ⟨fun _ => .zero, 0, 0⟩ Thing.blank bootSettings).run bootWorld =
      ((0, sampleBoot.1.2), sampleBoot.2) ∧
    ((propertiesCreateDevice Platform.sample ⟨fun _ => .zero, 0, 0⟩ Thing.blank bootSettings).run
      ((session Platform.sample bootSettings sampleSession sampleBoot.1.2).run sampleBoot.2).2).1 =
      (0, sampleReboot.2) ∧
    Paired (sampleBoot.1.2.id, sampleBoot.1.2.token) (Op.credentialsCalls sampleSession)
      (sampleReboot.2.id, sampleReboot.2.token) :=
  ⟨⟨by decide, by decide⟩, fun _ _ _ => rfl, sample_runs.1, sample_runs.2.2,
    reboot_credentials_paired _ _ _ _ _ _ _ _ _ ⟨by decide, by decide⟩ (fun _ _ _ => rfl) sample_runs.1
      sample_runs.2.2⟩

theorem sampleSession_fits : ∀ i cmd g, sampleSession[i]? = some (.update cmd) →
    matchedGroup Platform.sample (((session Platform.sample bootSettings (sampleSession.take i) sampleBoot.1.2).run
      sampleBoot.2).2.files bootSettings.devicePath) cmd.sensorId = some g →
    ReloadsAsWritten Platform.sample (((session Platform.sample bootSettings (sampleSession.take i)
      sampleBoot.1.2).run sampleBoot.2).2.files bootSettings.devicePath) g cmd := by
  intro i c g hi hg
  rcases i with _ | _ | i
  · cases hi
    have hf : ((session Platform.sample bootSettings (sampleSession.take 0) sampleBoot.1.2).run
        sampleBoot.2).2.files = bootWorld.files := (propertiesCreateDevice_readOnly bootWorld).1
    rw [hf] at hg ⊢
    obtain rfl : g = "DataItem_0" := Option.some_inj.mp (hg.symm.trans rfl)
    exact ⟨by decide, rfl, rfl, fun _ => ⟨by decide, rfl, rfl⟩⟩
  · cases hi
  · cases hi

theorem reboot_reloads_session_sample :
    bootSettings.cloudPath ≠ bootSettings.devicePath ∧
    (bootSettings.credentialsPath ≠ bootSettings.devicePath ∧ bootSettings.credentialsPath ≠ bootSettings.cloudPath) ∧
    Platform.sample.dataItemGroup THING_GROUP = false ∧ Thing.blank.dataItems = [] ∧
    (∀ n f g k x, bootWorld.fail n (.write f g k x) = false) ∧
    (propertiesCreateDevice Platform.sample ⟨fun _ => .zero, 0, 0⟩ Thing.blank bootSettings).run bootWorld =
      ((0, sampleBoot.1.2), sampleBoot.2) ∧
    (∀ i cmd g, sampleSession[i]? = some (.update cmd) →
      matchedGroup Platform.sample (((session Platform.sample bootSettings (sampleSession.take i) sampleBoot.1.2).run
        sampleBoot.2).2.files bootSettings.devicePath) cmd.sensorId = some g →
      ReloadsAsWritten Platform.sample (((session Platform.sample bootSettings (sampleSession.take i)
        sampleBoot.1.2).run sampleBoot.2).2.files bootSettings.devicePath) g cmd) ∧
    (session Platform.sample bootSettings sampleSession sampleBoot.1.2).run sampleBoot.2 =
      (some (deviceUpdateConfigDataItem sampleBoot.1.2 speedCommand), sampleAfter.2) ∧
    ((propertiesCreateDevice Platform.sample ⟨fun _ => .zero, 0, 0⟩ Thing.blank bootSettings).run
      sampleAfter.2).1 = (0, sampleReboot.2) ∧
    sampleReboot.2 = { deviceUpdateConfigDataItem sampleBoot.1.2 speedCommand with
      id := sampleReboot.2.id, token := sampleReboot.2.token } :=
  ⟨by decide, ⟨by decide, by decide⟩, rfl, rfl, fun _ _ _ _ _ => rfl, sample_runs.1, sampleSession_fits,
    sample_runs.2.1, sample_runs.2.2,
    reboot_reloads_session _ _ _ _ _ _ _ _ _ _ _ (by decide) ⟨by decide, by decide⟩ rfl rfl (fun _ _ _ _ _ => rfl)
      sample_runs.1 sampleSession_fits sample_runs.2.1 sample_runs.2.2⟩

end VirtualThing
