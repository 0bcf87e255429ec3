import VirtualThing.Device.Theorems
import VirtualThing.Storage.Frame

namespace VirtualThing.Device

-- The index `set_data_items` uses for group `g` once `get_sensor_id` has opened the file: the
-- group's SensorId, or -EINVAL where it has none.
def sensorIndex (s : Store) (g : String) : Int :=
  (s.readKeyInt g SCHEMA_SENSOR_ID).getD (-EINVAL)

-- The fields of a thing other than the data-item array and the record of its accesses.
def Thing.header (thing : Thing) : String × String × String × ModbusSlave × String :=
  (thing.token, thing.id, thing.name, thing.modbusSlave, thing.rabbitmqUrl)

-- The event `set_config` builds from group `g` of `s` for an item of value type `vt`: the
-- uninitialised `config_aux` with its flags cleared, then each key the group holds sets its flag,
-- a threshold also its limit through `assign_limit`, and the period the time.
def groupConfig (configAux : KnotEvent) (s : Store) (g : String) (vt : Int) : KnotEvent where
  eventFlags := { KNOT_EVT_FLAG_NONE with
    time := (s.readKeyInt g CONFIG_TIME_SEC).isSome
    lowerThreshold := (s.readKeyInt g CONFIG_LOWER_THRESHOLD).isSome
    upperThreshold := (s.readKeyInt g CONFIG_UPPER_THRESHOLD).isSome
    change := (s.readKeyInt g CONFIG_CHANGE).isSome }
  timeSec := (s.readKeyInt g CONFIG_TIME_SEC).getD configAux.timeSec
  lowerLimit := (s.readKeyInt g CONFIG_LOWER_THRESHOLD).elim configAux.lowerLimit
    fun v => (assignLimit vt v configAux.lowerLimit).2
  upperLimit := (s.readKeyInt g CONFIG_UPPER_THRESHOLD).elim configAux.upperLimit
    fun v => (assignLimit vt v configAux.upperLimit).2

-- What the older loader puts in the item of group `g` of `s`: the group's index as sensor id, the
-- schema `set_schema` accepts, the event `set_config` builds for that schema's value type, and the
-- register address and bit offset; the value is the one the item had.
structure ItemLoaded (P : Platform) (c : KnotEvent) (s : Store) (g : String) (item : DataItem) : Prop where
  sensorId : item.sensorId = sensorIndex s g
  schema : VirtualThing.setSchema P s g = some item.schema
  config : item.config = groupConfig c s g item.schema.valueType
  regAddr : s.readKeyInt g MODBUS_REG_ADDRESS = some item.modbusSource.regAddr
  bitOffset : s.readKeyInt g MODBUS_BIT_OFFSET = some item.modbusSource.bitOffset

@[simp] theorem Thing.updateItem_dataItem {thing : Thing} {i j : Int} {f : DataItem → DataItem} :
    (thing.updateItem i f).dataItem j = if j = i then f (thing.dataItem i) else thing.dataItem j := by
  simp only [Thing.updateItem, Function.update_apply]

@[simp] theorem Thing.header_updateItem {thing : Thing} {i : Int} {f : DataItem → DataItem} :
    (thing.updateItem i f).header = thing.header :=
  rfl

section Steps

variable {P : Platform} {c : KnotEvent} {f g : String} {i : Int} {thing : Thing} {w : World}

theorem setSchema_run_of_open (hopen : w.fails (.open f) = false) :
    ∃ w', w'.files = w.files ∧ w'.fail = w.fail ∧ (setSchema P f g i thing).run w =
      (match VirtualThing.setSchema P (w.files f) g with
        | none => (-EINVAL, thing)
        | some schema => (0, thing.updateItem i fun item => { item with schema := schema }), w') := by
  simp only [setSchema, storageOpen_guard_run, hopen, Bool.false_eq_true, if_false]
  simp only [pure_bind, StateT.run_bind, storeOf_run, World.store_opened_self, Id.bind_eq]
  cases VirtualThing.setSchema P (w.files f) g <;> (refine ⟨_, ?_, ?_, rfl⟩ <;> rfl)

theorem setConfig_run_of_open (hopen : w.fails (.open f) = false) :
    ((setConfig f g i c thing).run w).1.1 = 0 ∧ ((setConfig f g i c thing).run w).1.2.header = thing.header ∧
      ((setConfig f g i c thing).run w).1.2.dataItem = Function.update thing.dataItem i
        { thing.dataItem i with config := groupConfig c (w.files f) g (thing.dataItem i).schema.valueType } := by
  simp only [setConfig, storageOpen_guard_run, hopen, Bool.false_eq_true, if_false]
  simp only [pure_bind, StateT.run_bind, storeOf_run, World.store_opened_self, Id.bind_eq, groupConfig]
  cases (w.files f).readKeyInt g CONFIG_LOWER_THRESHOLD <;> cases (w.files f).readKeyInt g CONFIG_UPPER_THRESHOLD <;>
    refine ⟨rfl, rfl, ?_⟩ <;>
    cases (w.files f).readKeyInt g CONFIG_TIME_SEC <;> cases (w.files f).readKeyInt g CONFIG_CHANGE <;> rfl

theorem setModbusSourceProperties_run_of_open (hopen : w.fails (.open f) = false) :
    ∃ w', w'.files = w.files ∧ w'.fail = w.fail ∧ (setModbusSourceProperties f g i thing).run w =
      (match (w.files f).readKeyInt g MODBUS_REG_ADDRESS, (w.files f).readKeyInt g MODBUS_BIT_OFFSET with
        | some regAddr, some bitOffset =>
          (0, thing.updateItem i fun item => { item with modbusSource := ⟨regAddr, bitOffset⟩ })
        | _, _ => (-EINVAL, thing), w') := by
  simp only [setModbusSourceProperties, storageOpen_guard_run, hopen, Bool.false_eq_true, if_false]
  simp only [pure_bind, StateT.run_bind, storeOf_run, World.store_opened_self, Id.bind_eq]
  cases (w.files f).readKeyInt g MODBUS_REG_ADDRESS <;> cases (w.files f).readKeyInt g MODBUS_BIT_OFFSET <;>
    (refine ⟨_, ?_, ?_, rfl⟩ <;> rfl)

end Steps

-- What the loop over `gs` that returned 0 has done to `thing`, giving `t`, over the device file
-- `s`: every group's index is below `n`; when the indices are distinct, the item at each one holds
-- what its group says; and the items at the other indices are those of `thing`.
structure ItemsLoaded (P : Platform) (c : KnotEvent) (s : Store) (n : Int) (gs : List String) (thing t : Thing) :
    Prop where
  below : ∀ g ∈ gs, sensorIndex s g < n
  loaded : (gs.map (sensorIndex s)).Nodup → ∀ g ∈ gs, ItemLoaded P c s g (t.dataItem (sensorIndex s g))
  others : ∀ j ∉ gs.map (sensorIndex s), t.dataItem j = thing.dataItem j

namespace ItemsLoaded

variable {P : Platform} {c : KnotEvent} {s : Store} {n : Int} {g : String} {gs : List String}
  {thing t₁ t : Thing}

theorem nil : ItemsLoaded P c s n [] thing thing :=
  ⟨fun _ h => absurd h (List.not_mem_nil _), fun _ _ h => absurd h (List.not_mem_nil _), fun _ _ => rfl⟩

theorem cons (hn : sensorIndex s g < n) (hg : ItemLoaded P c s g (t₁.dataItem (sensorIndex s g)))
    (hother : ∀ j ≠ sensorIndex s g, t₁.dataItem j = thing.dataItem j) (h : ItemsLoaded P c s n gs t₁ t) :
    ItemsLoaded P c s n (g :: gs) thing t where
  below g' hg' := (List.mem_cons.mp hg').elim (· ▸ hn) (h.below g')
  loaded hnd g' hg' := by
    rw [List.map_cons, List.nodup_cons] at hnd
    rcases List.mem_cons.mp hg' with rfl | hg'
    · rwa [h.others _ hnd.1]
    · exact h.loaded hnd.2 g' hg'
  others j hj := by
    rw [List.map_cons, List.mem_cons, not_or] at hj
    rw [h.others j hj.2, hother j hj.1]

end ItemsLoaded

section Loop

variable {P : Platform} {c : KnotEvent} {f : String} {n : Int}

theorem getSensorId_run_of_open {g : String} {w : World} (hopen : w.fails (.open f) = false) :
    ∃ w', w'.files = w.files ∧ w'.fail = w.fail ∧ (getSensorId f g).run w = (sensorIndex (w.files f) g, w') := by
  rw [getSensorId_run, if_neg (by simp [hopen])]
  cases h : (w.files f).readKeyInt g SCHEMA_SENSOR_ID <;> simp only [sensorIndex, h, Option.getD_none, Option.getD_some] <;>
    (refine ⟨_, ?_, ?_, rfl⟩ <;> rfl)

theorem setDataItems.loop_cons_of_opens {g : String} {gs : List String} {thing : Thing} {w : World}
    (hopens : ∀ k, w.fail k (.open f) = false) :
    ((setDataItems.loop P c f n (g :: gs) thing).run w).1.1 = -EINVAL ∨
    ∃ t w', w'.files = w.files ∧ w'.fail = w.fail ∧ t.header = thing.header ∧ sensorIndex (w.files f) g < n ∧
      ItemLoaded P c (w.files f) g (t.dataItem (sensorIndex (w.files f) g)) ∧
      (∀ j ≠ sensorIndex (w.files f) g, t.dataItem j = thing.dataItem j) ∧
      (setDataItems.loop P c f n (g :: gs) thing).run w = (setDataItems.loop P c f n gs t).run w' := by
  obtain ⟨w₁, hf₁, hφ₁, e₁⟩ := getSensorId_run_of_open (g := g) (hopens w.log.length)
  have hopen₁ : ∀ w' : World, w'.fail = w.fail → w'.fails (.open f) = false := fun w' e => by
    simp [World.fails, e, hopens]
  simp only [setDataItems.loop, StateT.run_bind, e₁, Id.bind_eq]
  set i := sensorIndex (w.files f) g
  by_cases hv : validSensorId i n < 0
  · exact .inl (by simp [hv])
  obtain ⟨w₂, hf₂, hφ₂, e₂⟩ :=
    @setSchema_run_of_open P f g i (thing.updateItem i fun item => { item with sensorId := i }) _ (hopen₁ w₁ hφ₁)
  simp only [hv, if_false, pure_bind, StateT.run_bind, e₂, hf₁]
  rcases hs : VirtualThing.setSchema P (w.files f) g with _ | sc
  · exact .inl (by simp [EINVAL])
  simp only [Id.bind_eq, lt_irrefl, if_false, pure_bind, StateT.run_bind]
  set t₁ := thing.updateItem i fun item => { item with sensorId := i }
  set t₂ := t₁.updateItem i fun item => { item with schema := sc }
  obtain ⟨h₃, hh₃, hd₃⟩ := @setConfig_run_of_open c f g i t₂ w₂ (hopen₁ w₂ (hφ₂.trans hφ₁))
  obtain ⟨hf₃, hφ₃, -⟩ := @setConfig_stepAt c f t₂ g i w₂
  simp only [h₃, Id.bind_eq, lt_irrefl, if_false, StateT.run_bind]
  set t₃ := ((setConfig f g i c t₂).run w₂).1.2
  set w₃ := ((setConfig f g i c t₂).run w₂).2
  obtain ⟨w₄, hf₄, hφ₄, e₄⟩ :=
    @setModbusSourceProperties_run_of_open f g i t₃ w₃ (hopen₁ w₃ (hφ₃.trans (hφ₂.trans hφ₁)))
  simp only [e₄, hf₃, hf₂, hf₁]
  rcases hra : (w.files f).readKeyInt g MODBUS_REG_ADDRESS with _ | ra <;>
    rcases hbo : (w.files f).readKeyInt g MODBUS_BIT_OFFSET with _ | bo
  · exact .inl (by simp [EINVAL])
  · exact .inl (by simp [EINVAL])
  · exact .inl (by simp [EINVAL])
  simp only [lt_irrefl, if_false]
  rw [hf₂, hf₁] at hd₃
  refine .inr ⟨_, w₄, hf₄.trans (hf₃.trans (hf₂.trans hf₁)), hφ₄.trans (hφ₃.trans (hφ₂.trans hφ₁)),
    by simp [hh₃, t₂, t₁], not_le.mp (mt validSensorId_lt_zero_iff.mpr hv), ⟨by simp [hd₃, t₂, t₁],
      by simp [hd₃, t₂, t₁, hs], by simp [hd₃, t₂, t₁], by simp [hd₃, hra], by simp [hd₃, hbo]⟩,
    fun j hj => by simp [hd₃, t₂, t₁, hj], rfl⟩

-- The loop invariant of the older loader.
theorem setDataItems.loop_loads {gs : List String} : ∀ {thing : Thing} {w : World},
    (∀ k, w.fail k (.open f) = false) → ((setDataItems.loop P c f n gs thing).run w).1.1 ≠ -EINVAL →
      ((setDataItems.loop P c f n gs thing).run w).1.1 = 0 ∧
      ((setDataItems.loop P c f n gs thing).run w).1.2.header = thing.header ∧
      ItemsLoaded P c (w.files f) n gs thing ((setDataItems.loop P c f n gs thing).run w).1.2 := by
  induction gs with
  | nil => exact fun _ _ => ⟨rfl, rfl, .nil⟩
  | cons g gs ih =>
    intro thing w hopens h
    rcases @setDataItems.loop_cons_of_opens P c f n g gs thing w hopens with
      hstop | ⟨t, w', hf, hφ, hh, hn, hl, ho, e⟩
    · exact absurd hstop h
    rw [e] at h ⊢
    obtain ⟨h0, hh', hrest⟩ := ih (by rw [hφ]; exact hopens) h
    rw [hf] at hrest
    exact ⟨h0, hh'.trans hh, .cons hn hl ho hrest⟩

theorem setDataItems_loads_of_opens {rc : Int} {thing t : Thing} {w : World}
    (hopens : ∀ k, w.fail k (.open f) = false) (h : ((setDataItems P c f thing).run w).1 = some (rc, t))
    (hrc : rc ≠ -EINVAL) : rc = 0 ∧ t.header = thing.header ∧ ItemsLoaded P c (w.files f) ((w.files f).groups.filter P.dataItemGroup).length
      ((w.files f).groups.filter P.dataItemGroup) thing t := by
  by_cases hgroups : (w.opened f).fails (.groups f)
  · simp only [World.fails, World.opened_fail, World.opened_log, List.length_cons] at hgroups
    simp [setDataItems, World.fails, hopens, getDataItemGroups_run_of_fileOf World.fileOf_opened_self,
      hgroups] at h
  rw [setDataItems_run (by simp [World.fails, hopens]) (by simpa using hgroups)] at h
  obtain ⟨rfl, rfl⟩ := Prod.mk.inj (Option.some_inj.mp h)
  exact setDataItems.loop_loads (by simpa using hopens) hrc

end Loop

section ReadOnly

variable {P : Platform} {c : KnotEvent} {f g : String} {i : Int} {thing : Thing}

theorem setThingName_readOnly : Sto.ReadOnly (setThingName P f thing) := by
  unfold setThingName
  refine .bind .storageOpen fun _ => .ite .of_pure <| .bind .of_pure fun _ => .bind .storeOf fun _ => ?_
  split
  · exact .ite .of_pure (.bind .of_pure fun _ => .close_pure)
  · exact .of_pure

theorem setRabbitMqUrl_readOnly : Sto.ReadOnly (setRabbitMqUrl f thing) := by
  unfold setRabbitMqUrl
  refine .bind .storageOpen fun _ => .ite .of_pure <| .bind .of_pure fun _ => .bind .storeOf fun _ => ?_
  split
  · exact .ite .of_pure (.bind .of_pure fun _ => .close_pure)
  · exact .of_pure

theorem setModbusSlaveProperties_readOnly : Sto.ReadOnly (setModbusSlaveProperties P f thing) := by
  unfold setModbusSlaveProperties
  refine .bind .storageOpen fun _ => .ite .of_pure <| .bind .of_pure fun _ => .bind .storeOf fun s => ?_
  split
  · refine .ite .of_pure <| .bind .of_pure fun _ => ?_
    split
    · exact .ite .of_pure (.bind .of_pure fun _ => .close_pure)
    · exact .of_pure
  · exact .of_pure

theorem getSensorId_readOnly : Sto.ReadOnly (getSensorId f g) :=
  fun _ => ⟨getSensorId_spec.1, getSensorId_spec.2.1⟩

theorem StepAt.readOnly {p : Sto (Int × Thing)} (h : StepAt i thing p) : Sto.ReadOnly p :=
  fun w => ⟨(h w).1, (h w).2.1⟩

theorem setDataItems.loop_readOnly {n : Int} {gs : List String} :
    ∀ {thing : Thing}, Sto.ReadOnly (setDataItems.loop P c f n gs thing) := by
  induction gs with
  | nil => exact .of_pure
  | cons g gs ih =>
    intro thing
    exact .bind getSensorId_readOnly fun _ => .ite .of_pure <| .bind .of_pure fun _ =>
      .bind setSchema_stepAt.readOnly fun _ => .ite .of_pure <| .bind .of_pure fun _ =>
      .bind setConfig_stepAt.readOnly fun _ => .ite .of_pure <| .bind .of_pure fun _ =>
      .bind setModbusSourceProperties_stepAt.readOnly fun _ => .ite .of_pure <| .bind .of_pure fun _ => ih

theorem setDataItems_readOnly : Sto.ReadOnly (setDataItems P c f thing) := by
  unfold setDataItems
  refine .bind .storageOpen fun fd => .bind (fun w => ⟨rfl, rfl⟩) fun _ => .bind .getDataItemGroups fun gs =>
    .bind .storageClose fun _ => ?_
  split
  · exact fun w => setDataItems.loop_readOnly w
  · exact .of_pure

theorem deviceStart_readOnly {conf : ConfFiles} : Sto.ReadOnly (deviceStart P c conf thing) := by
  unfold deviceStart deviceSetProperties
  refine .bind (.bind setThingName_readOnly fun _ => .ite .of_pure <| .bind .of_pure fun _ =>
    .bind setRabbitMqUrl_readOnly fun _ => .ite .of_pure <| .bind .of_pure fun _ =>
    .bind setModbusSlaveProperties_readOnly fun _ => .ite .of_pure <| .bind .of_pure fun _ =>
    .bind setDataItems_readOnly fun r => ?_) fun r => ?_
  · split
    · exact .ite .of_pure (.bind .of_pure fun _ => .of_pure)
    · exact .of_pure
  · split
    · exact .of_pure
    · exact .of_pure

end ReadOnly

section Start

variable {P : Platform} {f : String} {thing : Thing} {w : World}

theorem setThingName_fst_of_open (hopen : w.fails (.open f) = false) :
    ((setThingName P f thing).run w).1 = (-EINVAL, thing) ∨
      ∃ name, (w.files f).readKeyString THING_GROUP THING_NAME = some name ∧ name ≠ "" ∧
        strlen name < P.KNOT_PROTOCOL_DEVICE_NAME_LEN ∧ ((setThingName P f thing).run w).1 = (0, { thing with name := name }) := by
  simp only [setThingName, storageOpen_guard_run, hopen, Bool.false_eq_true, if_false]
  simp only [pure_bind, StateT.run_bind, storeOf_run, World.store_opened_self, Id.bind_eq]
  rcases (w.files f).readKeyString THING_GROUP THING_NAME with _ | name
  · exact .inl rfl
  by_cases hv : name = "" ∨ P.KNOT_PROTOCOL_DEVICE_NAME_LEN ≤ strlen name
  · simp only [hv, if_true]
    exact .inl rfl
  · simp only [hv, if_false]
    simp only [not_or, not_le] at hv
    exact .inr ⟨name, rfl, hv.1, hv.2, rfl⟩

theorem setRabbitMqUrl_fst_of_open (hopen : w.fails (.open f) = false) :
    ((setRabbitMqUrl f thing).run w).1 = (-EINVAL, thing) ∨
      ∃ url, (w.files f).readKeyString RABBIT_MQ_GROUP RABBIT_URL = some url ∧ url ≠ "" ∧
        ((setRabbitMqUrl f thing).run w).1 = (0, { thing with rabbitmqUrl := url }) := by
  simp only [setRabbitMqUrl, storageOpen_guard_run, hopen, Bool.false_eq_true, if_false]
  simp only [pure_bind, StateT.run_bind, storeOf_run, World.store_opened_self, Id.bind_eq]
  rcases (w.files f).readKeyString RABBIT_MQ_GROUP RABBIT_URL with _ | url
  · exact .inl rfl
  by_cases hv : url = ""
  · simp only [hv, if_true]
    exact .inl rfl
  · simp only [hv, if_false]
    exact .inr ⟨url, rfl, hv, rfl⟩

theorem setModbusSlaveProperties_fst_of_open (hopen : w.fails (.open f) = false) :
    ((setModbusSlaveProperties P f thing).run w).1 = (-EINVAL, thing) ∨
      ∃ id url, (w.files f).readKeyInt THING_GROUP THING_MODBUS_SLAVE_ID = some id ∧ P.MODBUS_MIN_SLAVE_ID ≤ id ∧
        id ≤ P.MODBUS_MAX_SLAVE_ID ∧ (w.files f).readKeyString THING_GROUP THING_MODBUS_URL = some url ∧ url ≠ "" ∧
        ((setModbusSlaveProperties P f thing).run w).1 = (0, { thing with modbusSlave := ⟨id, url⟩ }) := by
  simp only [setModbusSlaveProperties, storageOpen_guard_run, hopen, Bool.false_eq_true, if_false]
  simp only [pure_bind, StateT.run_bind, storeOf_run, World.store_opened_self, Id.bind_eq]
  rcases (w.files f).readKeyInt THING_GROUP THING_MODBUS_SLAVE_ID with _ | id
  · exact .inl rfl
  by_cases hid : id < P.MODBUS_MIN_SLAVE_ID ∨ id > P.MODBUS_MAX_SLAVE_ID
  · simp only [hid, if_true]
    exact .inl rfl
  simp only [hid, if_false, pure_bind]
  simp only [not_or, not_lt, gt_iff_lt] at hid
  rcases (w.files f).readKeyString THING_GROUP THING_MODBUS_URL with _ | url
  · exact .inl rfl
  by_cases hv : url = ""
  · simp only [hv, if_true]
    exact .inl rfl
  · simp only [hv, if_false]
    exact .inr ⟨id, url, rfl, hid.1, hid.2, rfl, hv, rfl⟩

end Start

-- What a `device_start` that returned 0 has loaded into `t` from the device file `dev` and the
-- RabbitMQ file `rabbit`, started from `thing`: the checked name, broker URL and Modbus slave, and
-- the item of every data-item group at its index; the credentials are those `thing` had.
structure DeviceStarted (P : Platform) (c : KnotEvent) (dev rabbit : Store) (thing t : Thing) : Prop where
  name : dev.readKeyString THING_GROUP THING_NAME = some t.name ∧ t.name ≠ "" ∧
    strlen t.name < P.KNOT_PROTOCOL_DEVICE_NAME_LEN
  rabbitmqUrl : rabbit.readKeyString RABBIT_MQ_GROUP RABBIT_URL = some t.rabbitmqUrl ∧ t.rabbitmqUrl ≠ ""
  modbusSlave : dev.readKeyInt THING_GROUP THING_MODBUS_SLAVE_ID = some t.modbusSlave.id ∧
    P.MODBUS_MIN_SLAVE_ID ≤ t.modbusSlave.id ∧ t.modbusSlave.id ≤ P.MODBUS_MAX_SLAVE_ID ∧
    dev.readKeyString THING_GROUP THING_MODBUS_URL = some t.modbusSlave.url ∧ t.modbusSlave.url ≠ ""
  credentials : t.token = thing.token ∧ t.id = thing.id
  dataItems : ItemsLoaded P c dev (dev.groups.filter P.dataItemGroup).length (dev.groups.filter P.dataItemGroup) thing t

section DeviceStart

variable {P : Platform} {c : KnotEvent} {conf : ConfFiles} {thing t : Thing} {w : World}

theorem deviceSetProperties_started (hopens : ∀ k f, w.fail k (.open f) = false)
    (h : ((deviceSetProperties P c conf thing).run w).1 = some (0, t)) :
    DeviceStarted P c (w.files conf.device) (w.files conf.rabbit) thing t := by
  have hopen : ∀ w' : World, w'.fail = w.fail → ∀ f, w'.fails (.open f) = false := fun w' e f => by
    simp [World.fails, e, hopens]
  have hz : (0 : Int) ≠ -EINVAL := by decide
  simp only [deviceSetProperties, StateT.run_bind] at h
  obtain ⟨hf₁, hφ₁⟩ := @setThingName_readOnly P conf.device thing w
  rcases @setThingName_fst_of_open P conf.device thing w (hopen w rfl _) with e₁ | ⟨name, hn, hne, hlen, e₁⟩
  · simp [e₁, EINVAL] at h
  simp only [e₁, Id.bind_eq, hz, if_false, pure_bind, StateT.run_bind] at h
  set w₁ := ((setThingName P conf.device thing).run w).2
  set t₁ : Thing := { thing with name := name }
  obtain ⟨hf₂, hφ₂⟩ := @setRabbitMqUrl_readOnly conf.rabbit t₁ w₁
  rcases @setRabbitMqUrl_fst_of_open conf.rabbit t₁ w₁ (hopen w₁ hφ₁ _) with e₂ | ⟨url, hu, hune, e₂⟩
  · simp [e₂, EINVAL] at h
  simp only [e₂, Id.bind_eq, hz, if_false, pure_bind, StateT.run_bind] at h
  set w₂ := ((setRabbitMqUrl conf.rabbit t₁).run w₁).2
  set t₂ : Thing := { t₁ with rabbitmqUrl := url }
  obtain ⟨hf₃, hφ₃⟩ := @setModbusSlaveProperties_readOnly P conf.device t₂ w₂
  rcases @setModbusSlaveProperties_fst_of_open P conf.device t₂ w₂ (hopen w₂ (hφ₂.trans hφ₁) _) with
    e₃ | ⟨id, mUrl, hid, hmin, hmax, hmu, hmune, e₃⟩
  · simp [e₃, EINVAL] at h
  simp only [e₃, Id.bind_eq, hz, if_false, pure_bind, StateT.run_bind] at h
  set w₃ := ((setModbusSlaveProperties P conf.device t₂).run w₂).2
  set t₃ : Thing := { t₂ with modbusSlave := ⟨id, mUrl⟩ }
  rcases e₄ : ((setDataItems P c conf.device t₃).run w₃).1 with _ | ⟨rc, t₄⟩
  · simp [e₄] at h
  by_cases hrc : rc = -EINVAL
  · simp [e₄, hrc, EINVAL] at h
  simp only [e₄, hrc, if_false, pure_bind] at h
  obtain rfl : t₄ = t := (Prod.mk.inj (Option.some_inj.mp h)).2
  have hf : w₃.files = w.files := hf₃.trans (hf₂.trans hf₁)
  obtain ⟨-, hh, hl⟩ := setDataItems_loads_of_opens (fun k => by simp [hφ₃, hφ₂, hφ₁, hopens]) e₄ hrc
  rw [hf] at hl
  simp only [Thing.header, Prod.mk.injEq, t₃, t₂, t₁] at hh
  rw [hf₁] at hu
  rw [hf₂, hf₁] at hid hmu
  obtain ⟨htok, hid', hname, hslave, hurl⟩ := hh
  exact ⟨⟨hname ▸ hn, hname ▸ hne, hname ▸ hlen⟩, ⟨hurl ▸ hu, hurl ▸ hune⟩,
    ⟨hslave ▸ hid, hslave ▸ hmin, hslave ▸ hmax, hslave ▸ hmu, hslave ▸ hmune⟩, ⟨htok, hid'⟩, ⟨hl.1, hl.2, hl.3⟩⟩

theorem deviceStart_loads (P : Platform) (c : KnotEvent) (conf : ConfFiles) (thing : Thing) (w : World) :
    ((deviceStart P c conf thing).run w).2.files = w.files ∧ ((deviceStart P c conf thing).run w).2.fail = w.fail ∧
    ((∀ k f, w.fail k (.open f) = false) → ∀ t, ((deviceStart P c conf thing).run w).1 = some (0, t) →
      DeviceStarted P c (w.files conf.device) (w.files conf.rabbit) thing t) := by
  refine ⟨(deviceStart_readOnly w).1, (deviceStart_readOnly w).2, fun hopens t h => deviceSetProperties_started hopens ?_⟩
  simp only [deviceStart, StateT.run_bind] at h
  rcases e : ((deviceSetProperties P c conf thing).run w).1 with _ | ⟨rc, t'⟩
  · simp [e] at h
  by_cases hrc : rc = 0
  · simpa [e, hrc] using h
  · simp [e, hrc, EINVAL] at h

-- A device file with a name, a Modbus slave and one data item, and a RabbitMQ file with a URL.
def startFiles (f : String) : Store :=
  if f = "rabbitmq.conf" then Store.ofList [(RABBIT_MQ_GROUP, RABBIT_URL, .string "amqp")]
  else Store.ofList ([(THING_GROUP, THING_NAME, .string "d"), (THING_GROUP, THING_MODBUS_SLAVE_ID, .int 1),
    (THING_GROUP, THING_MODBUS_URL, .string "tcp")] ++ sampleItem "DataItem_0" 0 ++
    [("DataItem_0", MODBUS_REG_ADDRESS, .int 0), ("DataItem_0", MODBUS_BIT_OFFSET, .int 0)])

theorem deviceStart_loads_sample :
    (∀ k f, (World.reliable startFiles).fail k (.open f) = false) ∧
    ((deviceStart Platform.sample .zero ⟨"credentials.conf", "device.conf", "rabbitmq.conf"⟩ .blank).run
      (World.reliable startFiles)).1.map Prod.fst = some 0 ∧
    ∀ t, ((deviceStart Platform.sample .zero ⟨"credentials.conf", "device.conf", "rabbitmq.conf"⟩ .blank).run
      (World.reliable startFiles)).1 = some (0, t) →
      DeviceStarted Platform.sample .zero (startFiles "device.conf") (startFiles "rabbitmq.conf") .blank t :=
  ⟨fun _ _ => rfl, rfl, (deviceStart_loads Platform.sample .zero ⟨"credentials.conf", "device.conf", "rabbitmq.conf"⟩
    .blank (World.reliable startFiles)).2.2 fun _ _ => rfl⟩

end DeviceStart

end VirtualThing.Device
