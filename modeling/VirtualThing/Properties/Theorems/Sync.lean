import VirtualThing.Properties.Theorems.RoundTrip
import VirtualThing.Properties.Theorems.Reload

namespace VirtualThing

-- What `set_data_items` loads from the device file `s`, its data-item groups enumerated in file
-- order, starting from the registry of `thing₀`.
def loadDataItems (P : Platform) (u : String → DataPropsLocals) (thing₀ : Thing) (s : Store) : Int × Thing :=
  setDataItems.loop P u s (s.groups.filter P.dataItemGroup) 0 thing₀

-- The registry entry `device_update_config_data_item` makes of `x`.
def configEntry (cmd : KnotMsgConfig) (x : Int × DataItem) : Int × DataItem :=
  if x.1 = cmd.sensorId then
    (x.1, { x.2 with schema := cmd.schema,
                     event := if cmd.event.eventFlags.unregistered then x.2.event else cmd.event })
  else x

variable {P : Platform} {u : String → DataPropsLocals} {s s' : Store} {g g' : String} {cmd : KnotMsgConfig}
  {thing : Thing}

theorem groupItem_congr (h : ∀ k, s'.get g k = s.get g k) : groupItem P u s' g = groupItem P u s g := by
  simp only [groupItem, Store.readKeyInt_congr (h _), setSchema_congr (fun k _ => h k),
    setEvent_congr (fun k _ => h k) rfl, setDataProperties_congr (fun k _ => h k) rfl]

theorem deviceUpdateConfigDataItem_eq :
    deviceUpdateConfigDataItem thing cmd = { thing with dataItems := thing.dataItems.map (configEntry cmd) } :=
  rfl

section Groups

variable {gs : List String} (hnd : (gs.map (s.readKeyInt · SCHEMA_SENSOR_ID)).Nodup) (hmem : g ∈ gs)
  (hid : s.readKeyInt g SCHEMA_SENSOR_ID = some cmd.sensorId) (hother : ∀ g' ≠ g, ∀ k, s'.get g' k = s.get g' k)
  (hitem : groupItem P u s' g = (groupItem P u s g).map (configEntry cmd))
include hnd hmem hid hother hitem

theorem groupItem_of_configEntry (hg' : g' ∈ gs) :
    groupItem P u s' g' = (groupItem P u s g').map (configEntry cmd) := by
  by_cases hne : g' = g
  · exact hne ▸ hitem
  rw [groupItem_congr (hother g' hne)]
  cases hx : groupItem P u s g' with
  | none => rfl
  | some x =>
    have hsid : x.1 ≠ cmd.sensorId := fun he => hne <| List.inj_on_of_nodup_map hnd hg' hmem <|
      (groupItem_eq_some_iff.mp hx).1.trans (he ▸ hid.symm)
    simp [configEntry, hsid]

theorem filterMap_groupItem_of_configEntry :
    gs.filterMap (groupItem P u s') = (gs.filterMap (groupItem P u s)).map (configEntry cmd) :=
  (List.filterMap_congr fun _ hg' => groupItem_of_configEntry hnd hmem hid hother hitem hg').trans
    (List.map_filterMap _ _ _).symm

end Groups

theorem Store.get_applyConfig_of_not_mem {k : String} (hs : k ∉ schemaKeys) (he : k ∉ eventKeys) :
    (s.applyConfig g cmd).get g k = s.get g k := by
  unfold Store.applyConfig
  split
  · exact Store.get_writeSchema_of_not_mem hs
  · exact (Store.get_writeEvent_of_not_mem he).trans (Store.get_writeSchema_of_not_mem hs)

-- What makes the update of group `g` of `s` by `cmd` load back as the entry the update makes in
-- memory: the command keeps the group's value type and carries a schema `set_schema` accepts; unless
-- it is unregistered, its event is one `set_event` reads back as it is, and the group holds no key of
-- a flag the event leaves clear.
structure ReloadsAsWritten (P : Platform) (s : Store) (g : String) (cmd : KnotMsgConfig) : Prop where
  name : cmd.schema.name ≠ "" ∧ strlen cmd.schema.name < P.KNOT_PROTOCOL_DATA_NAME_LEN
  schema : P.knotSchemaIsValid cmd.schema.typeId cmd.schema.valueType cmd.schema.unit
  valueType : s.readKeyInt g SCHEMA_VALUE_TYPE = some cmd.schema.valueType
  event : cmd.event.eventFlags.unregistered = false →
    (∀ k ∈ clearedKeys cmd.event, s.get g k = none) ∧ cmd.event.readBack cmd.schema.valueType = cmd.event ∧
      P.knotEventIsValid cmd.event.eventFlags cmd.schema.valueType cmd.event.timeSec cmd.event.lowerLimit
        cmd.event.upperLimit

theorem groupItem_applyConfig (hid : s.readKeyInt g SCHEMA_SENSOR_ID = some cmd.sensorId)
    (hloads : (groupItem P u s g).isSome) (hr : ReloadsAsWritten P s g cmd) :
    groupItem P u (s.applyConfig g cmd) g = (groupItem P u s g).map (configEntry cmd) := by
  obtain ⟨x, hx⟩ := Option.isSome_iff_exists.mp hloads
  obtain ⟨hid', hsid, hs, he, hd⟩ := groupItem_eq_some_iff.mp hx
  rw [hx, Option.map_some', configEntry, if_pos (Option.some_inj.mp (hid'.symm.trans hid))]
  have hv : cmd.schema.valueType = x.2.schema.valueType :=
    Option.some_inj.mp (hr.valueType.symm.trans (setSchema_eq_some_iff.mp hs).2.2.2.1)
  refine groupItem_eq_some_iff.mpr ⟨?_, hsid, setSchema_applyConfig hr.name hr.schema, ?_, ?_⟩
  · rw [Store.readKeyInt_congr (Store.get_applyConfig_of_not_mem (by decide) (by decide)), hid']
  · cases hu : cmd.event.eventFlags.unregistered
    case false =>
      obtain ⟨hclean, hback, hvalid⟩ := hr.event hu
      rw [setEvent_applyConfig hu hclean]
      simp only [hback, hvalid, Bool.false_eq_true, if_false, if_true]
    case true =>
      have hkeep : ∀ k ∈ eventKeys, (s.applyConfig g cmd).get g k = s.get g k := fun k hk => by
        simp only [Store.applyConfig, hu, if_true]
        exact Store.get_writeSchema_of_not_mem fun hs => not_mem_eventKeys_of_mem_schemaKeys k hs hk
      rw [setEvent_congr hkeep hv, if_pos rfl]
      exact he
  · rw [setDataProperties_congr (fun k hk => Store.get_applyConfig_of_not_mem
      ((by decide : ∀ k ∈ dataPropKeys, k ∉ schemaKeys) k hk)
      ((by decide : ∀ k ∈ dataPropKeys, k ∉ eventKeys) k hk)) hv]
    exact hd

theorem loadDataItems_of_configEntry {thing₀ : Thing} (hempty : thing₀.dataItems = [])
    (hload : Loads P u thing₀ s) (hg : matchedGroup P s cmd.sensorId = some g) (hgroups : s'.groups = s.groups)
    (hother : ∀ g' ≠ g, ∀ k, s'.get g' k = s.get g' k)
    (hitem : groupItem P u s' g = (groupItem P u s g).map (configEntry cmd)) :
    loadDataItems P u thing₀ s' = (0, deviceUpdateConfigDataItem (loadDataItems P u thing₀ s).2 cmd) := by
  obtain ⟨hmem, hid⟩ := matchedGroup_mem hg
  have hL := setDataItems.loop_fst_eq_zero_iff.mp hload
  have hnd := ((setDataItems.loop_eq_zero_iff hempty).mp hload).2
  have hmap := filterMap_groupItem_of_configEntry hnd hmem hid hother hitem
  have hL' : LoadsFrom P u s' thing₀ (s.groups.filter P.dataItemGroup) := by
    refine ⟨fun g' hg' => ?_, ?_, fun x _ => by simp [deviceDataItemLookup, hempty]⟩
    · rw [groupItem_of_configEntry hnd hmem hid hother hitem hg', Option.isSome_map']
      exact hL.1 g' hg'
    · rw [hmap, List.map_map]
      convert hL.2.1 using 2
      funext x
      by_cases h : x.1 = cmd.sensorId <;> simp [configEntry, h]
  unfold loadDataItems
  rw [hgroups, setDataItems.loop_of_loadsFrom hL', setDataItems.loop_of_loadsFrom hL,
    deviceUpdateConfigDataItem_eq, hmap, hempty]
  simp [List.map_reverse]

theorem propertiesUpdateDataItem_commutes_with_load (P : Platform) (u : String → DataPropsLocals) (thing₀ : Thing)
    (f g : String) (cmd : KnotMsgConfig) (w : World) (hempty : thing₀.dataItems = [])
    (hload : Loads P u thing₀ (w.files f))
    (h : ((propertiesUpdateDataItem P (loadDataItems P u thing₀ (w.files f)).2 f cmd).run w).1.map Prod.fst = some 0)
    (hg : matchedGroup P (w.files f) cmd.sensorId = some g)
    (hname : cmd.schema.name ≠ "" ∧ strlen cmd.schema.name < P.KNOT_PROTOCOL_DATA_NAME_LEN)
    (hschema : P.knotSchemaIsValid cmd.schema.typeId cmd.schema.valueType cmd.schema.unit)
    (hclean : ∀ k ∈ clearedKeys cmd.event, (w.files f).get g k = none)
    (hvt : (w.files f).readKeyInt g SCHEMA_VALUE_TYPE = some cmd.schema.valueType)
    (hevent : cmd.event.readBack cmd.schema.valueType = cmd.event ∧
      P.knotEventIsValid cmd.event.eventFlags cmd.schema.valueType cmd.event.timeSec cmd.event.lowerLimit
        cmd.event.upperLimit) :
    ((propertiesUpdateDataItem P (loadDataItems P u thing₀ (w.files f)).2 f cmd).run w).1 =
      some (loadDataItems P u thing₀
        (((propertiesUpdateDataItem P (loadDataItems P u thing₀ (w.files f)).2 f cmd).run w).2.files f)) := by
  have hfr : UpdateFrame P f cmd w.files
      ((propertiesUpdateDataItem P (loadDataItems P u thing₀ (w.files f)).2 f cmd).run w).2.files :=
    propertiesUpdateDataItem_frame
  have hs' : ((propertiesUpdateDataItem P (loadDataItems P u thing₀ (w.files f)).2 f cmd).run w).2.files f =
      (w.files f).applyConfig g cmd := by
    rw [propertiesUpdateDataItem_effect h hg, Function.update_same]
  obtain ⟨hmem, hid⟩ := matchedGroup_mem hg
  have hitem := groupItem_applyConfig (u := u) hid ((setDataItems.loop_fst_eq_zero_iff.mp hload).1 g hmem)
    ⟨hname, hschema, hvt, fun _ => ⟨hclean, hevent⟩⟩
  rw [propertiesUpdateDataItem_fst h, hs', loadDataItems_of_configEntry hempty hload hg (hs' ▸ hfr.groups)
    (fun g' hne k => hs' ▸ hfr.get_of_ne hg hne k) hitem]

theorem propertiesUpdateDataItem_commutes_with_load_sample :
    Thing.blank.dataItems = [] ∧ Loads Platform.sample (fun _ => .zero) Thing.blank sampleFile ∧
    ((propertiesUpdateDataItem Platform.sample (loadDataItems Platform.sample (fun _ => .zero) Thing.blank sampleFile).2
      "device.conf" speedCommand).run (World.reliable fun _ => sampleFile)).1.map Prod.fst = some 0 ∧
    matchedGroup Platform.sample sampleFile 0 = some "DataItem_0" ∧
    ("speed" ≠ "" ∧ strlen "speed" < Platform.sample.KNOT_PROTOCOL_DATA_NAME_LEN) ∧
    Platform.sample.knotSchemaIsValid 0 KNOT_VALUE_TYPE_INT 0 = true ∧
    (∀ k ∈ clearedKeys speedCommand.event, sampleFile.get "DataItem_0" k = none) ∧
    sampleFile.readKeyInt "DataItem_0" SCHEMA_VALUE_TYPE = some KNOT_VALUE_TYPE_INT ∧
    (speedCommand.event.readBack KNOT_VALUE_TYPE_INT = speedCommand.event ∧
      Platform.sample.knotEventIsValid speedCommand.event.eventFlags KNOT_VALUE_TYPE_INT speedCommand.event.timeSec
        speedCommand.event.lowerLimit speedCommand.event.upperLimit = true) ∧
    ((propertiesUpdateDataItem Platform.sample (loadDataItems Platform.sample (fun _ => .zero) Thing.blank sampleFile).2
      "device.conf" speedCommand).run (World.reliable fun _ => sampleFile)).1 =
      some (loadDataItems Platform.sample (fun _ => .zero) Thing.blank
        (((propertiesUpdateDataItem Platform.sample
          (loadDataItems Platform.sample (fun _ => .zero) Thing.blank sampleFile).2 "device.conf"
          speedCommand).run (World.reliable fun _ => sampleFile)).2.files "device.conf")) :=
  ⟨rfl, rfl, rfl, rfl, by decide, rfl, by decide, rfl, ⟨rfl, rfl⟩,
    propertiesUpdateDataItem_commutes_with_load Platform.sample (fun _ => .zero) Thing.blank "device.conf" "DataItem_0"
      speedCommand (World.reliable fun _ => sampleFile) rfl rfl rfl rfl (by decide) rfl (by decide) rfl ⟨rfl, rfl⟩⟩

end VirtualThing
