import VirtualThing.Device.Load
import VirtualThing.Properties.Theorems.Session

-- The repository has two loaders of one device file: `device_start` of device.c, which fills the
-- array `thing.data_item` by sensor id, and `properties_create_device` of properties.c, which
-- registers each data item in the Thing Model. Both read a sensor's schema with `set_schema`, and
-- the period, the change flag and integer limits with `storage_read_key_int` under the same keys,
-- so on those they agree.

namespace VirtualThing.Device

-- What an event `set_config` built and one `set_event` built for a sensor of value type `vt` share:
-- the time and change flags and the period, and for an INT sensor every flag and the integer limit
-- each threshold flag enables.
structure EventsAgree (vt : Int) (config event : KnotEvent) : Prop where
  time : config.eventFlags.time = event.eventFlags.time
  change : config.eventFlags.change = event.eventFlags.change
  timeSec : event.eventFlags.time → config.timeSec = event.timeSec
  int : vt = KNOT_VALUE_TYPE_INT → config.eventFlags = event.eventFlags ∧
    (event.eventFlags.lowerThreshold → config.lowerLimit.valI = event.lowerLimit.valI) ∧
    (event.eventFlags.upperThreshold → config.upperLimit.valI = event.upperLimit.valI)

-- What the older loader's item and the properties loader's entry for one sensor share: the sensor
-- id, the schema, the register address, and events that agree.
structure ItemsAgree (item : DataItem) (x : Int × VirtualThing.DataItem) : Prop where
  sensorId : item.sensorId = x.1
  schema : item.schema = x.2.schema
  regAddr : item.modbusSource.regAddr = x.2.props.regAddr
  config : EventsAgree x.2.schema.valueType item.config x.2.event

section Items

variable {P : Platform} {c : KnotEvent} {u : String → DataPropsLocals} {s : Store} {g : String}
  {gs : List String} {vt : Int} {item : DataItem} {x : Int × VirtualThing.DataItem}

theorem getLimit_int {key : String} :
    getLimit s g key KNOT_VALUE_TYPE_INT = (s.readKeyInt g key).map fun v => { KnotValueType.zero with valI := v } :=
  if_pos rfl

-- `set_config` and `set_event` read the same keys.
theorem config_keys : CONFIG_TIME_SEC = EVENT_TIME_SEC ∧ CONFIG_LOWER_THRESHOLD = EVENT_LOWER_THRESHOLD ∧
    CONFIG_UPPER_THRESHOLD = EVENT_UPPER_THRESHOLD ∧ CONFIG_CHANGE = EVENT_CHANGE :=
  ⟨rfl, rfl, rfl, rfl⟩

theorem groupConfig_agrees : EventsAgree vt (groupConfig c s g vt) (setEvent.eventAux s g vt) := by
  rw [eventAux_eq]
  simp only [groupConfig, config_keys]
  refine ⟨rfl, rfl, fun h => ?_, fun hvt => ?_⟩
  · obtain ⟨t, ht⟩ := Option.isSome_iff_exists.mp h
    simp [ht]
  · subst hvt
    simp only [getLowerLimit, getUpperLimit, getLimit_int]
    refine ⟨by simp [KNOT_EVT_FLAG_NONE], ?_, ?_⟩
    · cases s.readKeyInt g EVENT_LOWER_THRESHOLD <;> simp [assignLimit, knotValueAssignLimit]
    · cases s.readKeyInt g EVENT_UPPER_THRESHOLD <;> simp [assignLimit, knotValueAssignLimit]

theorem setEvent_eq_eventAux {sch : KnotSchema} {e : KnotEvent} (h : VirtualThing.setEvent P s g sch = some e) :
    e = setEvent.eventAux s g sch.valueType := by
  simp only [VirtualThing.setEvent] at h
  split at h
  · exact (Option.some_inj.mp h).symm
  · cases h

theorem setDataProperties_regAddr {v : DataPropsLocals} {sch : KnotSchema} {p : DataProps} {r : Int}
    (h : setDataProperties P v s g sch = some p) (hr : s.readKeyInt g DATA_REG_ADDRESS = some r) : p.regAddr = r := by
  simp only [setDataProperties, hr, Option.getD_some, Option.bind_eq_bind, Option.bind_eq_some,
    Option.ite_none_left_eq_some, Option.some.injEq] at h
  obtain ⟨-, _, -, _, -, _, -, _, -, -, -, -, -, rfl⟩ := h
  rfl

theorem ItemLoaded.agrees (hi : ItemLoaded P c s g item) (hx : groupItem P u s g = some x) : ItemsAgree item x := by
  obtain ⟨hid, -, hsch, hev, hprops⟩ := groupItem_eq_some_iff.mp hx
  have hsch' : item.schema = x.2.schema := Option.some_inj.mp (hi.schema.symm.trans hsch)
  refine ⟨by rw [hi.sensorId, sensorIndex, hid]; rfl, hsch', (setDataProperties_regAddr hprops hi.regAddr).symm, ?_⟩
  rw [hi.config, hsch', setEvent_eq_eventAux hev]
  exact groupConfig_agrees

theorem map_sensorIndex_eq (h : ∀ g ∈ gs, (groupItem P u s g).isSome) :
    gs.map (sensorIndex s) = (gs.filterMap (groupItem P u s)).map Prod.fst := by
  induction gs with
  | nil => rfl
  | cons g gs ih =>
    obtain ⟨x, hx⟩ := Option.isSome_iff_exists.mp (h g (List.mem_cons_self _ _))
    simp [List.filterMap_cons_some hx, sensorIndex, (groupItem_eq_some_iff.mp hx).1,
      ih fun g' hg' => h g' (List.mem_cons_of_mem _ hg')]

end Items

theorem loaders_agree (P : Platform) (c : KnotEvent) (conf : ConfFiles) (thingD tD : Thing) (u : Uninit)
    (thing tP : VirtualThing.Thing) (settings : DeviceSettings) (w : World)
    (hdev : conf.device = settings.devicePath) (hempty : thing.dataItems = [])
    (hopens : ∀ k f, w.fail k (.open f) = false)
    (hD : ((deviceStart P c conf thingD).run w).1 = some (0, tD))
    (hP : ((propertiesCreateDevice P u thing settings).run w).1 = (0, tP)) :
    tD.name = tP.name ∧ (∀ x ∈ tP.dataItems, ItemsAgree (tD.dataItem x.1) x) ∧
      ∀ j ∉ tP.dataItems.map Prod.fst, tD.dataItem j = thingD.dataItem j := by
  have hs := (deviceStart_loads P c conf thingD w).2.2 hopens tD hD
  have hb := (booted_of_run hP).device
  rw [hdev] at hs
  have hids := map_sensorIndex_eq hb.loads.1
  have hmem : ∀ x, x ∈ tP.dataItems ↔ x ∈ ((w.files settings.devicePath).groups.filter P.dataItemGroup).filterMap
      (groupItem P u.dataProps (w.files settings.devicePath)) := by
    simp [hb.dataItems, hempty]
  refine ⟨Option.some_inj.mp (hs.name.1.symm.trans hb.name.1), fun x hx => ?_, fun j hj => hs.dataItems.others j ?_⟩
  · obtain ⟨g, hg, hx'⟩ := List.mem_filterMap.mp ((hmem x).mp hx)
    have hi := hs.dataItems.loaded (hids ▸ hb.loads.2.1) g hg
    rw [sensorIndex, (groupItem_eq_some_iff.mp hx').1] at hi
    exact hi.agrees hx'
  · simpa [hids, hmem] using hj

def agreeConf : ConfFiles := ⟨"credentials.conf", "device.conf", "rabbitmq.conf"⟩

-- The files of `bootWorld` with the RabbitMQ file of `startFiles`, and the Modbus keys of the older
-- loader added to the device file, so that both loaders boot.
def agreeWorld : World :=
  { bootWorld with files := fun f =>
      if f = "rabbitmq.conf" then startFiles f
      else if f = "device.conf" then
        Store.ofList ([(THING_GROUP, THING_NAME, .string "t"), (THING_GROUP, DRIVER_URL, .string "u"),
          (THING_GROUP, DRIVER_PROTOCOL_TYPE, .string "p"), (THING_GROUP, DRIVER_ID, .int 0),
          (THING_GROUP, DATA_TYPE_ENDIANNESS, .int 0), (THING_GROUP, THING_MODBUS_SLAVE_ID, .int 1),
          (THING_GROUP, THING_MODBUS_URL, .string "tcp")] ++ sampleItem "DataItem_0" 0 ++
          [("DataItem_0", MODBUS_REG_ADDRESS, .int 0), ("DataItem_0", MODBUS_BIT_OFFSET, .int 0)])
      else bootWorld.files f }

def agreeStart := (deviceStart Platform.sample .zero agreeConf .blank).run agreeWorld

def agreeBoot := (propertiesCreateDevice Platform.sample ⟨fun _ => .zero, 0, 0⟩ .blank bootSettings).run agreeWorld

theorem agreeStart_run : agreeStart.1 = some (0, (agreeStart.1.getD (0, .blank)).2) :=
  rfl

theorem agreeBoot_run : agreeBoot.1 = (0, agreeBoot.1.2) :=
  rfl

theorem loaders_agree_sample :
    agreeConf.device = bootSettings.devicePath ∧ VirtualThing.Thing.blank.dataItems = [] ∧
    (∀ k f, agreeWorld.fail k (.open f) = false) ∧ agreeStart.1 = some (0, (agreeStart.1.getD (0, .blank)).2) ∧
    agreeBoot.1 = (0, agreeBoot.1.2) ∧ (agreeStart.1.getD (0, .blank)).2.name = agreeBoot.1.2.name ∧
    (∀ x ∈ agreeBoot.1.2.dataItems, ItemsAgree ((agreeStart.1.getD (0, .blank)).2.dataItem x.1) x) ∧
    ∀ j ∉ agreeBoot.1.2.dataItems.map Prod.fst, (agreeStart.1.getD (0, .blank)).2.dataItem j = Thing.blank.dataItem j :=
  ⟨rfl, rfl, fun _ _ => rfl, agreeStart_run, agreeBoot_run, loaders_agree Platform.sample .zero agreeConf .blank _
    ⟨fun _ => .zero, 0, 0⟩ .blank _ bootSettings agreeWorld rfl rfl (fun _ _ => rfl) agreeStart_run agreeBoot_run⟩

end VirtualThing.Device
