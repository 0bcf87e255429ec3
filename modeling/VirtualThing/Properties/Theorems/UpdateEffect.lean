import VirtualThing.Storage.Effect
import VirtualThing.Properties.Theorems.Updater

namespace VirtualThing

namespace Store

variable {s : Store} {g g' k key : String}

theorem remove_of_hasKey_false (h : s.hasKey g k = false) : s.remove g k = s := by
  refine Store.ext rfl (funext fun g' => funext fun k' => ?_)
  simp only [get_remove]
  split_ifs with hc
  · obtain ⟨rfl, rfl⟩ := hc
    exact (Option.not_isSome_iff_eq_none.mp (by simpa [hasKey] using h)).symm
  · rfl

-- The device file after `update_schema_data_item` wrote the four keys of `sch` to group `g`.
def writeSchema (s : Store) (g : String) (sch : KnotSchema) : Store :=
  (((s.write g SCHEMA_TYPE_ID (.int sch.typeId)).write g SCHEMA_UNIT (.int sch.unit)).write g SCHEMA_VALUE_TYPE
    (.int sch.valueType)).write g SCHEMA_SENSOR_NAME (.string sch.name)

-- The store after `set_limit` wrote the member of `v` that the value type selects; a value type it
-- rejects writes nothing.
def writeLimit (s : Store) (g key : String) (vt : Int) (v : KnotValueType) : Store :=
  if vt = KNOT_VALUE_TYPE_INT then s.write g key (.int v.valI)
  else if vt = KNOT_VALUE_TYPE_FLOAT then s.write g key (.float v.valF)
  else if vt = KNOT_VALUE_TYPE_BOOL then s.write g key (.bool v.valB)
  else if vt = KNOT_VALUE_TYPE_INT64 then s.write g key (.int64 v.valI64)
  else if vt = KNOT_VALUE_TYPE_UINT then s.write g key (.uint v.valU)
  else if vt = KNOT_VALUE_TYPE_UINT64 then s.write g key (.uint64 v.valU64)
  else s

-- Group `g` after the four blocks of `update_event_data_item` ran through: each key whose flag is
-- set holds the event's value, and the others are as they were.
def writeEvent (s : Store) (g : String) (vt : Int) (e : KnotEvent) : Store :=
  let s := if e.eventFlags.time then s.write g EVENT_TIME_SEC (.int e.timeSec) else s
  let s := if e.eventFlags.change then s.write g EVENT_CHANGE (.int EVENT_CHANGE_TRUE) else s
  let s := if e.eventFlags.lowerThreshold then s.writeLimit g EVENT_LOWER_THRESHOLD vt e.lowerLimit else s
  if e.eventFlags.upperThreshold then s.writeLimit g EVENT_UPPER_THRESHOLD vt e.upperLimit else s

-- The device file after an update of its group `g` by `cmd` that returned 0.
def applyConfig (s : Store) (g : String) (cmd : KnotMsgConfig) : Store :=
  let s := s.writeSchema g cmd.schema
  if cmd.event.eventFlags.unregistered then s else s.writeEvent g cmd.schema.valueType cmd.event

variable {vt : Int} {v : KnotValueType} {e : KnotEvent}

theorem get_writeLimit_of_ne (hk : k ≠ key) : (s.writeLimit g key vt v).get g' k = s.get g' k := by
  simp only [writeLimit, apply_ite (Store.get · g' k), get_write, hk, and_false, if_false, ite_self]

theorem get_writeEvent_of_not_mem (hk : k ∉ eventKeys) : (s.writeEvent g vt e).get g' k = s.get g' k := by
  simp only [eventKeys, List.mem_cons, List.mem_nil_iff, or_false, not_or] at hk
  obtain ⟨h₁, h₂, h₃, h₄⟩ := hk
  simp only [writeEvent, apply_ite (Store.get · g' k), get_writeLimit_of_ne h₃, get_writeLimit_of_ne h₄, get_write,
    h₁, h₂, and_false, if_false, ite_self]

end Store

theorem setSchema_writeSchema {P : Platform} {s : Store} {g : String} {sch : KnotSchema}
    (hname : sch.name ≠ "" ∧ strlen sch.name < P.KNOT_PROTOCOL_DATA_NAME_LEN)
    (hv : P.knotSchemaIsValid sch.typeId sch.valueType sch.unit) : setSchema P (s.writeSchema g sch) g = some sch :=
  setSchema_eq_some_iff.mpr ⟨by simp [Store.writeSchema], hname.1, hname.2,
    by simp [Store.writeSchema, Store.readKeyInt, SCHEMA_SENSOR_NAME, SCHEMA_VALUE_TYPE],
    by simp [Store.writeSchema, Store.readKeyInt, SCHEMA_SENSOR_NAME, SCHEMA_VALUE_TYPE, SCHEMA_UNIT],
    by simp [Store.writeSchema, Store.readKeyInt, SCHEMA_SENSOR_NAME, SCHEMA_VALUE_TYPE, SCHEMA_UNIT, SCHEMA_TYPE_ID],
    hv⟩

theorem not_mem_eventKeys_of_mem_schemaKeys : ∀ k ∈ schemaKeys, k ∉ eventKeys := by
  decide

section Effect

variable {fd : Int} {f g key : String} {vt : Int} {v : KnotValueType} {e : KnotEvent} {sch : KnotSchema}
  {cmd : KnotMsgConfig} {w : World}

theorem setLimit_effect : Sto.Effect fd f (·.writeLimit g key vt v) (setLimit fd g key vt v) := by
  unfold setLimit
  exact .ite .write <| .ite .write <| .ite .write <| .ite .write <| .ite .write <| .ite .write .of_pure

-- A block whose flag is clear removes its key only when the key is absent, which changes nothing.
theorem updateEventKey_effect {flag : Bool} {write : Sto Int} {E : Store → Store} (hw : Sto.Effect fd f E write) :
    Sto.Effect fd f (fun s => if flag then E s else s) (updateEventKey fd g key flag write) := by
  unfold updateEventKey
  dsimp only
  cases flag
  · intro w hf _
    simp only [Bool.false_eq_true, if_false, StateT.run_bind, storageHasUnit_run, World.store_of_fileOf hf,
      Id.bind_eq]
    cases habs : (w.files f).hasKey g key
    · simp [storageRemoveKey_run_of_fileOf hf, Store.remove_of_hasKey_false habs]
    · simp
  · exact hw.guard .of_pure

theorem updateEventDataItem_effect : Sto.Effect fd f (·.writeEvent g vt e) (updateEventDataItem fd g vt e) := by
  unfold updateEventDataItem
  exact .guard (updateEventKey_effect .write) <| .guard (updateEventKey_effect .write) <|
    .guard (updateEventKey_effect setLimit_effect) <| .guard (updateEventKey_effect setLimit_effect) .of_pure

theorem updateSchemaDataItem_effect : Sto.Effect fd f (·.writeSchema g sch) (updateSchemaDataItem fd g sch) := by
  unfold updateSchemaDataItem
  exact .guard .write <| .guard .write <| .guard .write .write

theorem updateDataItemGroup_effect (hf : w.fileOf fd = some f) (h : ((updateDataItemGroup fd cmd g).run w).1 = false) :
    ((updateDataItemGroup fd cmd g).run w).2.files = Function.update w.files f ((w.files f).applyConfig g cmd) := by
  have hs : Sto.Effect fd f (·.writeSchema g cmd.schema) (updateSchemaDataItem fd g cmd.schema) :=
    updateSchemaDataItem_effect
  have he : Sto.Effect fd f (·.writeEvent g cmd.schema.valueType cmd.event)
      (updateEventDataItem fd g cmd.schema.valueType cmd.event) := updateEventDataItem_effect
  unfold updateDataItemGroup at h ⊢
  rcases hr : (updateSchemaDataItem fd g cmd.schema).run w with ⟨rc, w₁⟩
  have hs' := hs w hf
  rw [hr] at hs'
  dsimp only at hs'
  simp only [StateT.run_bind, hr, Id.bind_eq] at h ⊢
  by_cases hu : cmd.event.eventFlags.unregistered
  · simp only [hu, if_true, pure_bind, StateT.run_pure, Id.pure_eq] at h ⊢
    have hrc : ¬rc < 0 := by simpa using h
    simp [Store.applyConfig, hu, (hs' hrc).1]
  · simp only [hu, if_false, Bool.false_eq_true] at h ⊢
    rcases hre : (updateEventDataItem fd g cmd.schema.valueType cmd.event).run w₁ with ⟨erc, w₂⟩
    simp only [StateT.run_bind, hre, Id.bind_eq, StateT.run_pure, Id.pure_eq, Bool.or_eq_false_iff,
      decide_eq_false_iff_not] at h ⊢
    obtain ⟨hfiles, hhandles⟩ := hs' h.1
    have hf₁ : w₁.fileOf fd = some f := by simpa [World.fileOf, hhandles] using hf
    have he' := he w₁ hf₁
    rw [hre] at he'
    rw [(he' h.2).1, hfiles]
    simp [Store.applyConfig, hu]

end Effect

section

variable {P : Platform} {thing : Thing} {f g k : String} {cmd : KnotMsgConfig} {w : World}

theorem propertiesUpdateDataItem_effect (h : ((propertiesUpdateDataItem P thing f cmd).run w).1.map Prod.fst = some 0)
    (hg : matchedGroup P (w.files f) cmd.sensorId = some g) :
    ((propertiesUpdateDataItem P thing f cmd).run w).2.files =
      Function.update w.files f ((w.files f).applyConfig g cmd) := by
  unfold propertiesUpdateDataItem at h ⊢
  rw [storageOpen_guard_run] at h ⊢
  by_cases ho : w.fails (.open f)
  · simp [ho, ENOENT] at h
  have hf := World.fileOf_opened_self (w := w) (f := f)
  by_cases hgr : (w.opened f).fails (.groups f)
  · simp [ho, getDataItemGroups_run_of_fileOf hf, hgr] at h
  simp [ho, getDataItemGroups_run_of_fileOf hf, hgr] at h ⊢
  rw [propertiesUpdateDataItem.loop_run (w := (w.opened f).attempt (.groups f)) hf] at h ⊢
  have hg' : ((w.files f).groups.filter P.dataItemGroup).find? (equalSensorId (w.files f) · cmd.sensorId) = some g :=
    hg
  simp only [World.attempt_files, World.opened_files, hg'] at h ⊢
  exact updateDataItemGroup_effect (w := (w.opened f).attempt (.groups f)) hf h

theorem propertiesUpdateDataItem_fst (h : ((propertiesUpdateDataItem P thing f cmd).run w).1.map Prod.fst = some 0) :
    ((propertiesUpdateDataItem P thing f cmd).run w).1 = some (0, deviceUpdateConfigDataItem thing cmd) := by
  unfold propertiesUpdateDataItem at h ⊢
  rw [storageOpen_guard_run] at h ⊢
  by_cases ho : w.fails (.open f)
  · simp [ho, ENOENT] at h
  have hf := World.fileOf_opened_self (w := w) (f := f)
  by_cases hgr : (w.opened f).fails (.groups f)
  · simp [ho, getDataItemGroups_run_of_fileOf hf, hgr] at h
  simp [ho, getDataItemGroups_run_of_fileOf hf, hgr] at h ⊢
  exact h

theorem propertiesUpdateDataItem_ok (h : ((propertiesUpdateDataItem P thing f cmd).run w).1.map Prod.fst = some 0)
    (hg : matchedGroup P (w.files f) cmd.sensorId = some g) (hk : k ∈ schemaKeys) :
    (((propertiesUpdateDataItem P thing f cmd).run w).2.files f).get g k =
      ((w.files f).writeSchema g cmd.schema).get g k := by
  rw [propertiesUpdateDataItem_effect h hg, Function.update_same, Store.applyConfig]
  split
  · rfl
  · exact Store.get_writeEvent_of_not_mem (not_mem_eventKeys_of_mem_schemaKeys k hk)

end

-- An update that returns 0 refines `applyConfig`.
theorem propertiesUpdateDataItem_applies_config (P : Platform) (thing : Thing) (f g : String) (cmd : KnotMsgConfig)
    (w : World) (h : ((propertiesUpdateDataItem P thing f cmd).run w).1.map Prod.fst = some 0)
    (hg : matchedGroup P (w.files f) cmd.sensorId = some g) :
    ((propertiesUpdateDataItem P thing f cmd).run w).1 = some (0, deviceUpdateConfigDataItem thing cmd) ∧
    ((propertiesUpdateDataItem P thing f cmd).run w).2.files =
      Function.update w.files f ((w.files f).applyConfig g cmd) :=
  ⟨propertiesUpdateDataItem_fst h, propertiesUpdateDataItem_effect h hg⟩

theorem propertiesUpdateDataItem_applies_config_sample :
    ((propertiesUpdateDataItem Platform.sample Thing.blank "device.conf" speedCommand).run
      (World.reliable fun _ => Store.ofList (sampleItem "DataItem_0" 0))).1.map Prod.fst = some 0 ∧
    matchedGroup Platform.sample (Store.ofList (sampleItem "DataItem_0" 0)) 0 = some "DataItem_0" ∧
    ((propertiesUpdateDataItem Platform.sample Thing.blank "device.conf" speedCommand).run
      (World.reliable fun _ => Store.ofList (sampleItem "DataItem_0" 0))).1 =
      some (0, deviceUpdateConfigDataItem Thing.blank speedCommand) ∧
    ((propertiesUpdateDataItem Platform.sample Thing.blank "device.conf" speedCommand).run
      (World.reliable fun _ => Store.ofList (sampleItem "DataItem_0" 0))).2.files =
      Function.update (fun _ => Store.ofList (sampleItem "DataItem_0" 0)) "device.conf"
        ((Store.ofList (sampleItem "DataItem_0" 0)).applyConfig "DataItem_0" speedCommand) :=
  ⟨rfl, rfl, propertiesUpdateDataItem_applies_config Platform.sample Thing.blank "device.conf" "DataItem_0"
    speedCommand _ rfl rfl⟩

end VirtualThing
