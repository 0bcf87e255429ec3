import VirtualThing.Properties.Theorems.RoundTrip

namespace VirtualThing

-- `set_data_items` succeeds on the device file `s`, its data-item groups enumerated in file
-- order, from the registry of `thing`.
def Loads (P : Platform) (u : String → DataPropsLocals) (thing : Thing) (s : Store) : Prop :=
  (setDataItems.loop P u s (s.groups.filter P.dataItemGroup) 0 thing).1 = 0

variable {P : Platform} {u : String → DataPropsLocals} {thing thing₀ : Thing} {s s' : Store}
  {files files' : String → Store} {f g g' k : String} {cmd : KnotMsgConfig} {sch : KnotSchema} {w : World}

theorem groupLoads_congr (h : ∀ k, s'.get g k = s.get g k) : GroupLoads P u s' g ↔ GroupLoads P u s g := by
  simp only [GroupLoads, Store.readKeyInt_congr (h _), setSchema_congr (fun k _ => h k),
    setEvent_congr (fun k _ => h k) rfl, setDataProperties_congr (fun k _ => h k) rfl]

theorem not_mem_updatedKeys_of_mem_dataPropKeys : ∀ k ∈ dataPropKeys, k ∉ updatedKeys cmd := by
  unfold updatedKeys; split <;> decide

theorem not_mem_updatedKeys_of_mem_eventKeys (hu : cmd.event.eventFlags.unregistered) :
    ∀ k ∈ eventKeys, k ∉ updatedKeys cmd := by
  simp only [updatedKeys, hu, if_true, List.append_nil]; decide

theorem matchedGroup_mem (hg : matchedGroup P s cmd.sensorId = some g) :
    g ∈ s.groups.filter P.dataItemGroup ∧ s.readKeyInt g SCHEMA_SENSOR_ID = some cmd.sensorId := by
  refine ⟨List.mem_of_find?_eq_some hg, ?_⟩
  have h := List.find?_some hg
  simp only [equalSensorId] at h
  split at h <;> simp_all

namespace UpdateFrame

theorem get_of_ne (h : UpdateFrame P f cmd files files') (hg : matchedGroup P (files f) cmd.sensorId = some g)
    (hne : g' ≠ g) (k : String) : (files' f).get g' k = (files f).get g' k := by
  by_contra hk
  exact hne (Option.some_inj.mp ((h.keys g' k hk).1.symm.trans hg))

theorem get_of_not_mem (h : UpdateFrame P f cmd files files') (hk : k ∉ updatedKeys cmd) :
    (files' f).get g k = (files f).get g k := by
  by_contra hne
  exact hk (h.keys g k hne).2

end UpdateFrame

section

variable (hempty : thing₀.dataItems = []) (hload : Loads P u thing₀ (files f))
  (hg : matchedGroup P (files f) cmd.sensorId = some g) (hfr : UpdateFrame P f cmd files files')
include hempty hload hg hfr

theorem loads_iff_of_updateFrame (hsch : setSchema P (files' f) g = some cmd.schema) :
    Loads P u thing₀ (files' f) ↔
      (setEvent P (files' f) g cmd.schema).isSome ∧ (setDataProperties P (u g) (files' f) g cmd.schema).isSome := by
  obtain ⟨hmem, hid⟩ := matchedGroup_mem hg
  have hsid : ∀ g', (files' f).readKeyInt g' SCHEMA_SENSOR_ID = (files f).readKeyInt g' SCHEMA_SENSOR_ID :=
    fun g' => Store.readKeyInt_congr ((hfr.sameSensorIds f).2 g')
  unfold Loads at hload ⊢
  rw [setDataItems.loop_eq_zero_iff hempty] at hload ⊢
  rw [hfr.groups, List.map_congr_left fun g' _ => hsid g']
  simp only [hload.2, and_true]
  constructor
  · intro hall
    obtain ⟨-, sch, hs, he, hd⟩ := hall g hmem
    cases hsch.symm.trans hs
    exact ⟨he, hd⟩
  · rintro ⟨he, hd⟩ g' hg'
    by_cases hne : g' = g
    · subst hne
      exact ⟨by simp [hsid, hid], _, hsch, he, hd⟩
    · exact (groupLoads_congr (hfr.get_of_ne hg hne)).mpr (hload.1 g' hg')

theorem sameValueType_of_updateFrame (hvt : (files f).readKeyInt g SCHEMA_VALUE_TYPE = some cmd.schema.valueType) :
    (setDataProperties P (u g) (files' f) g cmd.schema).isSome ∧
      (cmd.event.eventFlags.unregistered → (setEvent P (files' f) g cmd.schema).isSome) := by
  unfold Loads at hload
  rw [setDataItems.loop_eq_zero_iff hempty] at hload
  obtain ⟨-, sch, hs, he, hd⟩ := hload.1 g (matchedGroup_mem hg).1
  have hv : cmd.schema.valueType = sch.valueType :=
    Option.some_inj.mp (hvt.symm.trans (setSchema_eq_some_iff.mp hs).2.2.2.1)
  refine ⟨?_, fun hu => ?_⟩
  · rwa [setDataProperties_congr (fun k hk => hfr.get_of_not_mem (not_mem_updatedKeys_of_mem_dataPropKeys k hk)) hv]
  · rwa [setEvent_congr (fun k hk => hfr.get_of_not_mem (not_mem_updatedKeys_of_mem_eventKeys hu k hk)) hv]

end

theorem propertiesUpdateDataItem_reload (hempty : thing₀.dataItems = []) (hload : Loads P u thing₀ (w.files f))
    (hg : matchedGroup P (w.files f) cmd.sensorId = some g)
    (hname : cmd.schema.name ≠ "" ∧ strlen cmd.schema.name < P.KNOT_PROTOCOL_DATA_NAME_LEN)
    (hschema : P.knotSchemaIsValid cmd.schema.typeId cmd.schema.valueType cmd.schema.unit)
    (hrc : ((propertiesUpdateDataItem P thing f cmd).run w).1.map Prod.fst = some 0) :
    (Loads P u thing₀ (((propertiesUpdateDataItem P thing f cmd).run w).2.files f) ↔
      (setEvent P (((propertiesUpdateDataItem P thing f cmd).run w).2.files f) g cmd.schema).isSome ∧
      (setDataProperties P (u g) (((propertiesUpdateDataItem P thing f cmd).run w).2.files f) g cmd.schema).isSome) ∧
    ((w.files f).readKeyInt g SCHEMA_VALUE_TYPE = some cmd.schema.valueType →
      (setDataProperties P (u g) (((propertiesUpdateDataItem P thing f cmd).run w).2.files f) g cmd.schema).isSome ∧
      (cmd.event.eventFlags.unregistered ∨
        (∀ k ∈ clearedKeys cmd.event, (w.files f).get g k = none) ∧
          P.knotEventIsValid (cmd.event.readBack cmd.schema.valueType).eventFlags cmd.schema.valueType
            (cmd.event.readBack cmd.schema.valueType).timeSec (cmd.event.readBack cmd.schema.valueType).lowerLimit
            (cmd.event.readBack cmd.schema.valueType).upperLimit →
        Loads P u thing₀ (((propertiesUpdateDataItem P thing f cmd).run w).2.files f))) := by
  have hsch : setSchema P (((propertiesUpdateDataItem P thing f cmd).run w).2.files f) g = some cmd.schema :=
    (setSchema_congr fun k hk => propertiesUpdateDataItem_ok hrc hg hk).trans (setSchema_writeSchema hname hschema)
  have hiff := loads_iff_of_updateFrame hempty hload hg propertiesUpdateDataItem_frame hsch
  refine ⟨hiff, fun hvt => ?_⟩
  obtain ⟨hd, he⟩ := sameValueType_of_updateFrame hempty hload hg propertiesUpdateDataItem_frame hvt
  refine ⟨hd, fun hev => hiff.mpr ⟨?_, hd⟩⟩
  cases hu : cmd.event.eventFlags.unregistered
  · obtain ⟨hclean, hvalid⟩ := hev.resolve_left (by simp [hu])
    rw [propertiesUpdateDataItem_effect hrc hg, Function.update_same, setEvent_applyConfig hu hclean]
    simp [hvalid]
  · exact he hu

-- The device file of one group, `sampleItem` with SensorId 0, and its update by `plainCommand vt`
-- with no storage call failing.
def sampleFile : Store :=
  Store.ofList (sampleItem "DataItem_0" 0)

def sampleUpdate (vt : Int) : Option (Int × Thing) × World :=
  (propertiesUpdateDataItem Platform.sample Thing.blank "device.conf" (plainCommand vt)).run
    (World.reliable fun _ => sampleFile)

-- A command for sensor id 0 that renames the sensor "u" and is flagged unregistered.
def renameCommand : KnotMsgConfig :=
  ⟨0, ⟨KNOT_VALUE_TYPE_INT, 0, 0, "u"⟩,
    { KnotEvent.zero with eventFlags := { KNOT_EVT_FLAG_NONE with unregistered := true } }⟩

-- The update of `sampleFile` by `cmd`, with no storage call failing.
def commandUpdate (cmd : KnotMsgConfig) : Option (Int × Thing) × World :=
  (propertiesUpdateDataItem Platform.sample Thing.blank "device.conf" cmd).run (World.reliable fun _ => sampleFile)

theorem propertiesUpdateDataItem_reload_sample :
    Thing.blank.dataItems = [] ∧ Loads Platform.sample (fun _ => .zero) Thing.blank sampleFile ∧
    matchedGroup Platform.sample sampleFile 0 = some "DataItem_0" ∧
    ("speed" ≠ "" ∧ strlen "speed" < Platform.sample.KNOT_PROTOCOL_DATA_NAME_LEN) ∧
    Platform.sample.knotSchemaIsValid 0 KNOT_VALUE_TYPE_INT 0 = true ∧
    (commandUpdate speedCommand).1.map Prod.fst = some 0 ∧
    sampleFile.readKeyInt "DataItem_0" SCHEMA_VALUE_TYPE = some KNOT_VALUE_TYPE_INT ∧
    (∀ k ∈ clearedKeys speedCommand.event, sampleFile.get "DataItem_0" k = none) ∧
    Platform.sample.knotEventIsValid (speedCommand.event.readBack KNOT_VALUE_TYPE_INT).eventFlags KNOT_VALUE_TYPE_INT
      (speedCommand.event.readBack KNOT_VALUE_TYPE_INT).timeSec
      (speedCommand.event.readBack KNOT_VALUE_TYPE_INT).lowerLimit
      (speedCommand.event.readBack KNOT_VALUE_TYPE_INT).upperLimit = true ∧
    ((Loads Platform.sample (fun _ => .zero) Thing.blank ((commandUpdate speedCommand).2.files "device.conf") ↔
      (setEvent Platform.sample ((commandUpdate speedCommand).2.files "device.conf") "DataItem_0"
        speedCommand.schema).isSome ∧
      (setDataProperties Platform.sample .zero ((commandUpdate speedCommand).2.files "device.conf") "DataItem_0"
        speedCommand.schema).isSome) ∧
    (sampleFile.readKeyInt "DataItem_0" SCHEMA_VALUE_TYPE = some KNOT_VALUE_TYPE_INT →
      (setDataProperties Platform.sample .zero ((commandUpdate speedCommand).2.files "device.conf") "DataItem_0"
        speedCommand.schema).isSome ∧
      (speedCommand.event.eventFlags.unregistered ∨
        (∀ k ∈ clearedKeys speedCommand.event, sampleFile.get "DataItem_0" k = none) ∧
          Platform.sample.knotEventIsValid (speedCommand.event.readBack KNOT_VALUE_TYPE_INT).eventFlags
            KNOT_VALUE_TYPE_INT (speedCommand.event.readBack KNOT_VALUE_TYPE_INT).timeSec
            (speedCommand.event.readBack KNOT_VALUE_TYPE_INT).lowerLimit
            (speedCommand.event.readBack KNOT_VALUE_TYPE_INT).upperLimit →
        Loads Platform.sample (fun _ => .zero) Thing.blank ((commandUpdate speedCommand).2.files "device.conf")))) ∧
    ("u" ≠ "" ∧ strlen "u" < Platform.sample.KNOT_PROTOCOL_DATA_NAME_LEN) ∧
    (commandUpdate renameCommand).1.map Prod.fst = some 0 ∧ renameCommand.event.eventFlags.unregistered = true ∧
    ((Loads Platform.sample (fun _ => .zero) Thing.blank ((commandUpdate renameCommand).2.files "device.conf") ↔
      (setEvent Platform.sample ((commandUpdate renameCommand).2.files "device.conf") "DataItem_0"
        renameCommand.schema).isSome ∧
      (setDataProperties Platform.sample .zero ((commandUpdate renameCommand).2.files "device.conf") "DataItem_0"
        renameCommand.schema).isSome) ∧
    (sampleFile.readKeyInt "DataItem_0" SCHEMA_VALUE_TYPE = some KNOT_VALUE_TYPE_INT →
      (setDataProperties Platform.sample .zero ((commandUpdate renameCommand).2.files "device.conf") "DataItem_0"
        renameCommand.schema).isSome ∧
      (renameCommand.event.eventFlags.unregistered ∨
        (∀ k ∈ clearedKeys renameCommand.event, sampleFile.get "DataItem_0" k = none) ∧
          Platform.sample.knotEventIsValid (renameCommand.event.readBack KNOT_VALUE_TYPE_INT).eventFlags
            KNOT_VALUE_TYPE_INT (renameCommand.event.readBack KNOT_VALUE_TYPE_INT).timeSec
            (renameCommand.event.readBack KNOT_VALUE_TYPE_INT).lowerLimit
            (renameCommand.event.readBack KNOT_VALUE_TYPE_INT).upperLimit →
        Loads Platform.sample (fun _ => .zero) Thing.blank ((commandUpdate renameCommand).2.files "device.conf")))) :=
  ⟨rfl, rfl, rfl, by decide, rfl, rfl, rfl, by decide, rfl,
    propertiesUpdateDataItem_reload rfl rfl rfl (by decide) rfl rfl, by decide, rfl, rfl,
    propertiesUpdateDataItem_reload rfl rfl rfl (by decide) rfl rfl⟩

-- 32 bits do not allow INT64.
theorem propertiesUpdateDataItem_breaks_bit_size :
    Platform.sample.knotSchemaIsValid 0 KNOT_VALUE_TYPE_INT64 0 = true ∧
    Platform.sample.knotEventIsValid KNOT_EVT_FLAG_NONE KNOT_VALUE_TYPE_INT64 0 .zero .zero = true ∧
    Loads Platform.sample (fun _ => .zero) Thing.blank sampleFile ∧
    matchedGroup Platform.sample sampleFile 0 = some "DataItem_0" ∧
    (sampleUpdate KNOT_VALUE_TYPE_INT64).1.map Prod.fst = some 0 ∧
    (setDataItems.loop Platform.sample (fun _ => .zero) ((sampleUpdate KNOT_VALUE_TYPE_INT64).2.files "device.conf")
      ["DataItem_0"] 0 Thing.blank).1 = -EINVAL :=
  ⟨rfl, rfl, rfl, rfl, rfl, rfl⟩

end VirtualThing
