import VirtualThing.Properties.Theorems.Credentials
import VirtualThing.Properties.Theorems.Loader
import VirtualThing.Storage.Frame

namespace VirtualThing

section Loaders

variable {P : Platform} {u : Uninit} {thing : Thing} {s : Store} {group key : String} {set : Thing → String → Thing}

theorem setThingName_cases : setThingName P thing s = (-EINVAL, thing) ∨
    ∃ t, setThingName P thing s = (0, t) ∧ s.readKeyString THING_GROUP THING_NAME = some t.name ∧ t.name ≠ "" ∧
      strlen t.name < P.KNOT_PROTOCOL_DEVICE_NAME_LEN ∧ t.driverUrl = thing.driverUrl ∧
      t.dataItems = thing.dataItems := by
  unfold setThingName
  split
  · exact .inl rfl
  · rename_i n hn
    split
    · exact .inl rfl
    · rename_i h
      simp only [not_or, not_le] at h
      exact .inr ⟨_, rfl, hn, h.1, h.2, rfl, rfl⟩

theorem setNonEmptyString_cases : setNonEmptyString group key set thing s = (-EINVAL, thing) ∨
    ∃ v, s.readKeyString group key = some v ∧ v ≠ "" ∧ setNonEmptyString group key set thing s = (0, set thing v) := by
  unfold setNonEmptyString
  split
  · exact .inl rfl
  · rename_i v hv
    split
    · exact .inl rfl
    · exact .inr ⟨v, hv, ‹_›, rfl⟩

theorem setDriverUrl_cases : setDriverUrl thing s = (-EINVAL, thing) ∨
    ∃ t, setDriverUrl thing s = (0, t) ∧ s.readKeyString THING_GROUP DRIVER_URL = some t.driverUrl ∧
      t.driverUrl ≠ "" ∧ t.name = thing.name ∧ t.dataItems = thing.dataItems := by
  rcases @setNonEmptyString_cases thing s THING_GROUP DRIVER_URL _ with h | ⟨v, hv, hne, h⟩
  · exact .inl h
  · exact .inr ⟨_, h, hv, hne, rfl, rfl⟩

theorem setDriverProperties_keeps : (setDriverProperties P u thing s).2.name = thing.name ∧
    (setDriverProperties P u thing s).2.driverUrl = thing.driverUrl ∧
    (setDriverProperties P u thing s).2.dataItems = thing.dataItems := by
  unfold setDriverProperties
  dsimp only
  repeat' split
  all_goals exact ⟨rfl, rfl, rfl⟩

end Loaders

-- The fields `set_driver_properties` stores.
def Thing.driver (t : Thing) : String × String × String × String × String × Int × Int :=
  (t.protocolType, t.driverNameType, t.driverLogin, t.driverPassword, t.driverSecurity, t.driverId, t.endiannessType)

-- What a device load that returned 0 has taken from the device file `s` into `t`, started from
-- `thing`: the checked name and driver URL, the driver fields as `set_driver_properties` read them
-- after those two, and the items of the data-item groups, every one of which loads with a fresh
-- distinct sensor id, in front of the registry it started with.
structure DeviceLoaded (P : Platform) (u : Uninit) (thing : Thing) (s : Store) (t : Thing) : Prop where
  name : s.readKeyString THING_GROUP THING_NAME = some t.name ∧ t.name ≠ "" ∧
    strlen t.name < P.KNOT_PROTOCOL_DEVICE_NAME_LEN
  driverUrl : s.readKeyString THING_GROUP DRIVER_URL = some t.driverUrl ∧ t.driverUrl ≠ ""
  driver : t.driver = (setDriverProperties P u (setDriverUrl (setThingName P thing s).2 s).2 s).2.driver
  dataItems : t.dataItems =
    ((s.groups.filter P.dataItemGroup).filterMap (groupItem P u.dataProps s)).reverse ++ thing.dataItems
  loads : LoadsFrom P u.dataProps s thing (s.groups.filter P.dataItemGroup)
  numberSensor : t.numberSensor = ((s.groups.filter P.dataItemGroup).length : Int)

section ReadOnly

variable {P : Platform} {u : Uninit} {thing : Thing} {f : String}

theorem setDataItems_readOnly {v : String → DataPropsLocals} {fd : Int} : Sto.ReadOnly (setDataItems P v thing fd) := by
  unfold setDataItems
  refine .bind .getDataItemGroups fun gs => ?_
  split
  · exact .bind .storeOf fun _ => .of_pure
  · exact .of_pure

theorem setThingProperties_readOnly : Sto.ReadOnly (setThingProperties P u thing f) := by
  unfold setThingProperties
  dsimp only
  exact .bind .storageOpen fun _ => .ite .of_pure <| .bind .of_pure fun _ => .bind .storeOf fun _ =>
    .ite .close_pure <| .bind .of_pure fun _ => .ite .close_pure <| .bind .of_pure fun _ =>
    .ite .close_pure <| .bind .of_pure fun _ => .bind setDataItems_readOnly fun _ =>
    .ite .close_pure (.bind .of_pure fun _ => .close_pure)

theorem setCloudProperties_readOnly : Sto.ReadOnly (setCloudProperties thing f) := by
  unfold setCloudProperties
  dsimp only
  exact .bind .storageOpen fun _ => .ite .of_pure <| .bind .of_pure fun _ => .bind .storeOf fun _ =>
    .ite .close_pure <| .bind .of_pure fun _ => .ite .close_pure (.bind .of_pure fun _ => .close_pure)

theorem setThingCredentials_readOnly : Sto.ReadOnly (setThingCredentials thing f) := by
  unfold setThingCredentials
  dsimp only
  exact .bind .storageOpen fun _ => .ite .of_pure <| .bind .of_pure fun _ => .bind .storeOf fun _ => .close_pure

theorem propertiesCreateDevice_readOnly {settings : DeviceSettings} :
    Sto.ReadOnly (propertiesCreateDevice P u thing settings) := by
  unfold propertiesCreateDevice
  dsimp only
  exact .bind setThingProperties_readOnly fun _ => .ite .of_pure <| .bind .of_pure fun _ =>
    .bind setCloudProperties_readOnly fun _ => .ite .of_pure <| .bind .of_pure fun _ =>
    .bind setThingCredentials_readOnly fun _ => .ite .of_pure (.bind .of_pure fun _ => .of_pure)

end ReadOnly

section Device

variable {P : Platform} {u : Uninit} {thing : Thing} {f : String} {w : World}

theorem setDataItems.loop_fst_eq_zero {v : String → DataPropsLocals} {s : Store} {gs : List String} {i : Nat}
    (h : ¬(setDataItems.loop P v s gs i thing).1 < 0) : (setDataItems.loop P v s gs i thing).1 = 0 := by
  induction gs generalizing i thing with
  | nil => rfl
  | cons g gs ih =>
    unfold setDataItems.loop at h ⊢
    split
    · simp_all [EINVAL]
    · exact ih (by simp_all)

theorem setDataItems_ok {v : String → DataPropsLocals} {fd : Int} (hf : w.fileOf fd = some f)
    (h : ¬((setDataItems P v thing fd).run w).1.1 < 0) :
    LoadsFrom P v (w.files f) thing ((w.files f).groups.filter P.dataItemGroup) ∧
    ((setDataItems P v thing fd).run w).1.2 = { thing with
      dataItems := (((w.files f).groups.filter P.dataItemGroup).filterMap (groupItem P v (w.files f))).reverse ++
        thing.dataItems,
      numberSensor := (((w.files f).groups.filter P.dataItemGroup).length : Int) } := by
  rcases hg : (getDataItemGroups P.dataItemGroup fd).run w with ⟨_ | gs, w'⟩
  · simp [setDataItems, hg, EINVAL] at h
  have hgs : gs = (w.files f).groups.filter P.dataItemGroup := by
    rw [getDataItemGroups_run_of_fileOf hf] at hg
    split at hg
    · cases hg
    · exact (Option.some_inj.mp (Prod.mk.inj hg).1).symm
  rw [setDataItems_run_of_groups hg, World.store_of_fileOf hf, hgs] at h ⊢
  have hl := setDataItems.loop_fst_eq_zero_iff.mp (setDataItems.loop_fst_eq_zero h)
  rw [setDataItems.loop_of_loadsFrom hl]
  exact ⟨hl, by simp⟩

theorem setThingProperties_ok (h : ¬((setThingProperties P u thing f).run w).1.1 < 0) :
    DeviceLoaded P u thing (w.files f) ((setThingProperties P u thing f).run w).1.2 := by
  unfold setThingProperties at h ⊢
  rw [storageOpen_guard_run] at h ⊢
  split at h
  · simp [ENOENT] at h
  rename_i ho
  simp only [ho, if_false, StateT.run_bind, storeOf_run, World.store_opened_self, pure_bind, Id.bind_eq] at h ⊢
  rcases @setThingName_cases P thing (w.files f) with h₁ | ⟨t₁, h₁, hn, hne, hlen, -, hi₁⟩
  · simp [h₁, EINVAL] at h
  rcases @setDriverUrl_cases t₁ (w.files f) with h₂ | ⟨t₂, h₂, hd, hdne, hn₂, hi₂⟩
  · simp [h₁, h₂, EINVAL] at h
  obtain ⟨hn₃, hd₃, hi₃⟩ := @setDriverProperties_keeps P u t₂ (w.files f)
  simp only [h₁, h₂, lt_irrefl, if_false, Bool.false_eq_true] at h ⊢
  rcases hdp : setDriverProperties P u t₂ (w.files f) with ⟨rc₃, t₃⟩
  rw [hdp] at hn₃ hd₃ hi₃
  dsimp only at hn₃ hd₃ hi₃
  by_cases h₃ : rc₃ < 0
  · simp [hdp, h₃] at h
  simp only [hdp, h₃, if_false, StateT.run_bind, Id.bind_eq] at h ⊢
  rcases hdi : (setDataItems P u.dataProps t₃ w.nextFd).run (w.opened f) with ⟨⟨rc₄, t₄⟩, w₄⟩
  simp only [hdi, apply_ite (fun p : Sto (Int × Thing) => (p.run w₄).1), StateT.run_bind, storageClose_run,
    StateT.run_pure, Id.bind_eq, ite_self] at h ⊢
  have hok := setDataItems_ok (w := w.opened f) World.fileOf_opened_self (by rw [hdi]; exact h)
  rw [hdi] at hok
  dsimp only at hok
  obtain ⟨hall, rfl⟩ := hok
  exact ⟨⟨hn₃ ▸ hn₂ ▸ hn, hn₃ ▸ hn₂ ▸ hne, hn₃ ▸ hn₂ ▸ hlen⟩, ⟨hd₃ ▸ hd, hd₃ ▸ hdne⟩,
    by rw [h₁, h₂, hdp]; rfl, by simp [hi₃, hi₂, hi₁], by simpa only [LoadsFrom, deviceDataItemLookup, hi₃, hi₂, hi₁]
      using hall, rfl⟩

theorem setCloudProperties_ok (h : ¬((setCloudProperties thing f).run w).1.1 < 0) :
    ∃ url tok, (w.files f).readKeyString CLOUD_GROUP RABBIT_URL = some url ∧ url ≠ "" ∧
      (w.files f).readKeyString CLOUD_GROUP THING_USER_TOKEN = some tok ∧ tok ≠ "" ∧
      ((setCloudProperties thing f).run w).1.2 = { thing with rabbitmqUrl := url, userToken := tok } := by
  unfold setCloudProperties at h ⊢
  rw [storageOpen_guard_run] at h ⊢
  split at h
  · simp [ENOENT] at h
  rename_i ho
  simp only [ho, if_false, Bool.false_eq_true, StateT.run_bind, storeOf_run, World.store_opened_self, pure_bind,
    Id.bind_eq] at h ⊢
  unfold setRabbitMqUrl setThingUserToken at h ⊢
  rcases @setNonEmptyString_cases thing (w.files f) CLOUD_GROUP RABBIT_URL (fun thing v => { thing with rabbitmqUrl := v })
    with h₁ | ⟨url, hu, hune, h₁⟩
  · simp [h₁, EINVAL] at h
  rcases @setNonEmptyString_cases { thing with rabbitmqUrl := url } (w.files f) CLOUD_GROUP THING_USER_TOKEN
    (fun thing v => { thing with userToken := v }) with h₂ | ⟨tok, ht, htne, h₂⟩
  · simp [h₁, h₂, EINVAL] at h
  refine ⟨url, tok, hu, hune, ht, htne, ?_⟩
  simp [h₁, h₂]

theorem setThingCredentials_run : (setThingCredentials thing f).run w =
    if w.fails (.open f) then ((-ENOENT, thing), w.attempt (.open f))
    else ((0, { thing with id := (credentials (w.files f)).1, token := (credentials (w.files f)).2 }),
      { w.opened f with handles := w.handles }) := by
  unfold setThingCredentials
  rw [storageOpen_guard_run]
  split <;> simp [credentials]

end Device

-- What a boot that returned 0 has loaded into `t` from the device file `dev`, the cloud file `cloud`
-- and the credentials file `cred`, started from `thing`.
structure Booted (P : Platform) (u : Uninit) (thing : Thing) (dev cloud cred : Store) (t : Thing) :
    Prop where
  device : DeviceLoaded P u thing dev t
  rabbitmqUrl : cloud.readKeyString CLOUD_GROUP RABBIT_URL = some t.rabbitmqUrl ∧ t.rabbitmqUrl ≠ ""
  userToken : cloud.readKeyString CLOUD_GROUP THING_USER_TOKEN = some t.userToken ∧ t.userToken ≠ ""
  credentials : (t.id, t.token) = credentials cred

theorem propertiesCreateDevice_booted {P : Platform} {u : Uninit} {thing : Thing} {settings : DeviceSettings}
    {w : World} (h : ¬((propertiesCreateDevice P u thing settings).run w).1.1 < 0) :
    Booted P u thing (w.files settings.devicePath) (w.files settings.cloudPath)
      (w.files settings.credentialsPath) ((propertiesCreateDevice P u thing settings).run w).1.2 := by
  unfold propertiesCreateDevice at h ⊢
  simp only [StateT.run_bind, Id.bind_eq] at h ⊢
  rcases h₁ : (setThingProperties P u thing settings.devicePath).run w with ⟨⟨rc₁, t₁⟩, w₁⟩
  have hdev := @setThingProperties_ok P u thing settings.devicePath w
  have hw₁ := @setThingProperties_readOnly P u thing settings.devicePath w
  rw [h₁] at h hdev hw₁
  dsimp only at hdev hw₁
  by_cases hr₁ : rc₁ < 0
  · simp [hr₁] at h
  simp only [hr₁, if_false, pure_bind, StateT.run_bind, Id.bind_eq] at h ⊢
  rcases h₂ : (setCloudProperties t₁ settings.cloudPath).run w₁ with ⟨⟨rc₂, t₂⟩, w₂⟩
  have hcloud := @setCloudProperties_ok t₁ settings.cloudPath w₁
  have hw₂ := @setCloudProperties_readOnly t₁ settings.cloudPath w₁
  rw [h₂] at h hcloud hw₂
  dsimp only at hcloud hw₂
  by_cases hr₂ : rc₂ < 0
  · simp [hr₂] at h
  simp only [hr₂, if_false, pure_bind, StateT.run_bind, Id.bind_eq] at h ⊢
  rcases h₃ : (setThingCredentials t₂ settings.credentialsPath).run w₂ with ⟨⟨rc₃, t₃⟩, w₃⟩
  have hcred := @setThingCredentials_run t₂ settings.credentialsPath w₂
  rw [h₃] at h hcred
  dsimp only at hcred
  by_cases hr₃ : rc₃ < 0
  · simp [hr₃] at h
  simp only [hr₃, if_false, pure_bind, StateT.run_pure, Id.pure_eq]
  obtain ⟨url, tok, hu, hune, ht, htne, rfl⟩ := hcloud hr₂
  have hd := hdev hr₁
  rw [hw₁.1] at hu ht
  split at hcred
  · obtain ⟨⟨rfl, -⟩, -⟩ := Prod.mk.inj_iff.mp hcred
    simp [ENOENT] at hr₃
  · obtain ⟨⟨-, rfl⟩, -⟩ := Prod.mk.inj_iff.mp hcred
    rw [hw₂.1, hw₁.1]
    exact ⟨⟨hd.name, hd.driverUrl, hd.driver, hd.dataItems, hd.loads, hd.numberSensor⟩, ⟨hu, hune⟩, ⟨ht, htne⟩, rfl⟩

section Credentials

variable {P : Platform} {f id token : String} {w : World} {thing : Thing}

theorem propertiesStoreCredentials_stores (h : ((propertiesStoreCredentials P f id token).run w).1 = 0) :
    credentials (((propertiesStoreCredentials P f id token).run w).2.files f) = (some id, some token) := by
  rw [propertiesStoreCredentials_run] at h ⊢
  by_cases h₀ : P.KNOT_PROTOCOL_TOKEN_LEN < strlen token
  · simp [h₀, EINVAL] at h
  by_cases h₁ : w.fails (.open f)
  · simp [h₀, h₁, ENOENT] at h
  simp only [h₀, h₁, if_false, Bool.false_eq_true] at h ⊢
  split at h
  · simp [EINVAL] at h
  split at h
  · split at h <;> simp [EINVAL] at h
  simp only [*, if_false, Bool.false_eq_true]
  simp [tokenWritten]

theorem propertiesClearCredentials_clears (h : ((propertiesClearCredentials thing f).run w).1.1 = 0) :
    credentials (((propertiesClearCredentials thing f).run w).2.files f) = (some EMPTY_STRING, some EMPTY_STRING) := by
  rw [propertiesClearCredentials_run] at h ⊢
  by_cases h₁ : w.fails (.open f)
  · simp [h₁, ENOENT] at h
  simp only [h₁, if_false, Bool.false_eq_true] at h ⊢
  split at h
  · simp [EINVAL] at h
  split at h
  · simp [EINVAL] at h
  simp only [*, if_false, Bool.false_eq_true]
  simp [tokenWritten]

end Credentials

theorem propertiesCreateDevice_loads (P : Platform) (u : Uninit) (thing : Thing) (settings : DeviceSettings)
    (w : World) :
    ((propertiesCreateDevice P u thing settings).run w).2.files = w.files ∧
    ((propertiesCreateDevice P u thing settings).run w).2.fail = w.fail ∧
    (((propertiesCreateDevice P u thing settings).run w).1.1 = 0 →
      Booted P u thing (w.files settings.devicePath) (w.files settings.cloudPath)
        (w.files settings.credentialsPath) ((propertiesCreateDevice P u thing settings).run w).1.2) :=
  ⟨(propertiesCreateDevice_readOnly w).1, (propertiesCreateDevice_readOnly w).2,
    fun h => propertiesCreateDevice_booted (by omega)⟩

theorem credentials_survive_boot (P : Platform) (u : Uninit) (thing : Thing) (settings : DeviceSettings)
    (w w' : World) (t : Thing) :
    (∀ id token, (propertiesStoreCredentials P settings.credentialsPath id token).run w = (0, w') →
      ((propertiesCreateDevice P u thing settings).run w').1 = (0, t) → (t.id, t.token) = (some id, some token)) ∧
    (∀ thing' cleared, (propertiesClearCredentials thing' settings.credentialsPath).run w = ((0, cleared), w') →
      ((propertiesCreateDevice P u thing settings).run w').1 = (0, t) →
        (t.id, t.token) = (some EMPTY_STRING, some EMPTY_STRING)) := by
  have hboot : ((propertiesCreateDevice P u thing settings).run w').1 = (0, t) →
      (t.id, t.token) = credentials (w'.files settings.credentialsPath) := fun hb => by
    have := (propertiesCreateDevice_booted (by rw [hb]; exact lt_irrefl 0)).credentials
    rwa [hb] at this
  refine ⟨fun id token hs hb => ?_, fun thing' cleared hc hb => ?_⟩
  · have := propertiesStoreCredentials_stores (by rw [hs])
    rw [hs] at this
    exact (hboot hb).trans this
  · have := propertiesClearCredentials_clears (by rw [hc])
    rw [hc] at this
    exact (hboot hb).trans this

-- A device file with a Thing group that passes `set_thing_properties` and the one data-item group
-- `sampleItem "DataItem_0" 0`, a cloud file, and a credentials file holding ("a", "ta"); no call
-- fails.
def bootWorld : World :=
  World.reliable fun f =>
    if f = "cloud.conf" then
      Store.ofList [(CLOUD_GROUP, RABBIT_URL, .string "amqp://h"), (CLOUD_GROUP, THING_USER_TOKEN, .string "u")]
    else if f = "credentials.conf" then
      Store.ofList [(CREDENTIALS_GROUP, CREDENTIALS_THING_ID, .string "a"),
        (CREDENTIALS_GROUP, CREDENTIALS_THING_TOKEN, .string "ta")]
    else
      Store.ofList ([(THING_GROUP, THING_NAME, .string "t"), (THING_GROUP, DRIVER_URL, .string "u"),
        (THING_GROUP, DRIVER_PROTOCOL_TYPE, .string "p"), (THING_GROUP, DRIVER_ID, .int 0),
        (THING_GROUP, DATA_TYPE_ENDIANNESS, .int 0)] ++ sampleItem "DataItem_0" 0)

def bootSettings : DeviceSettings :=
  ⟨"device.conf", "cloud.conf", "credentials.conf"⟩

theorem propertiesCreateDevice_loads_sample :
    ((propertiesCreateDevice Platform.sample ⟨fun _ => .zero, 0, 0⟩ Thing.blank bootSettings).run bootWorld).1.1 = 0 ∧
    Booted Platform.sample ⟨fun _ => .zero, 0, 0⟩ Thing.blank (bootWorld.files "device.conf") (bootWorld.files "cloud.conf")
      (bootWorld.files "credentials.conf")
      ((propertiesCreateDevice Platform.sample ⟨fun _ => .zero, 0, 0⟩ Thing.blank bootSettings).run bootWorld).1.2 :=
  ⟨rfl, (propertiesCreateDevice_loads Platform.sample ⟨fun _ => .zero, 0, 0⟩ Thing.blank bootSettings bootWorld).2.2
    rfl⟩

theorem credentials_survive_boot_sample :
    ((propertiesCreateDevice Platform.sample ⟨fun _ => .zero, 0, 0⟩ Thing.blank bootSettings).run
      ((propertiesStoreCredentials Platform.sample "credentials.conf" "b" "tb").run bootWorld).2).1.1 = 0 ∧
    (((propertiesCreateDevice Platform.sample ⟨fun _ => .zero, 0, 0⟩ Thing.blank bootSettings).run
      ((propertiesStoreCredentials Platform.sample "credentials.conf" "b" "tb").run bootWorld).2).1.2.id,
     ((propertiesCreateDevice Platform.sample ⟨fun _ => .zero, 0, 0⟩ Thing.blank bootSettings).run
      ((propertiesStoreCredentials Platform.sample "credentials.conf" "b" "tb").run bootWorld).2).1.2.token) =
      (some "b", some "tb") :=
  ⟨rfl, (credentials_survive_boot Platform.sample ⟨fun _ => .zero, 0, 0⟩ Thing.blank bootSettings bootWorld _ _).1
    "b" "tb" rfl rfl⟩

end VirtualThing
