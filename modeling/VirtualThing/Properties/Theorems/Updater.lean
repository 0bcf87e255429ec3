import VirtualThing.Storage.Frame
import VirtualThing.Properties.Updater
import VirtualThing.Properties.Theorems.Loader

namespace VirtualThing

section Frame

variable {fd : Int} {f g key : String} {ks : List String}

theorem setLimit_touches {vt : Int} {v : KnotValueType} (hk : key ∈ ks) :
    Sto.Touches fd f g ks (setLimit fd g key vt v) := by
  unfold setLimit
  exact .ite (.write hk) <| .ite (.write hk) <| .ite (.write hk) <| .ite (.write hk) <| .ite (.write hk) <|
    .ite (.write hk) .of_pure

theorem updateEventKey_touches {flag : Bool} {write : Sto Int} (hw : Sto.Touches fd f g ks write)
    (hk : key ∈ ks) : Sto.Touches fd f g ks (updateEventKey fd g key flag write) := by
  unfold updateEventKey
  exact .ite (.guard hw .of_pure) <| .bind .of_hasUnit fun _ =>
    .ite (.bind (.remove hk) fun _ => .of_pure) (.bind .of_pure fun _ => .of_pure)

theorem updateEventDataItem_touches {vt : Int} {e : KnotEvent} :
    Sto.Touches fd f g eventKeys (updateEventDataItem fd g vt e) := by
  unfold updateEventDataItem
  exact .guard (updateEventKey_touches (.write (by decide)) (by decide)) <|
    .guard (updateEventKey_touches (.write (by decide)) (by decide)) <|
    .guard (updateEventKey_touches (setLimit_touches (by decide)) (by decide)) <|
    .guard (updateEventKey_touches (setLimit_touches (by decide)) (by decide)) .of_pure

theorem updateSchemaDataItem_touches {sch : KnotSchema} :
    Sto.Touches fd f g schemaKeys (updateSchemaDataItem fd g sch) := by
  unfold updateSchemaDataItem
  exact .guard (.write (by decide)) <| .guard (.write (by decide)) <| .guard (.write (by decide)) (.write (by decide))

end Frame

-- The group `properties_update_data_item` updates: the first enumerated group whose SensorId is
-- `sensorId`.
def matchedGroup (P : Platform) (s : Store) (sensorId : Int) : Option String :=
  (s.groups.filter P.dataItemGroup).find? (equalSensorId s · sensorId)

-- The keys the update of the matched group may write: the schema's, and the event's unless the
-- command is flagged unregistered.
def updatedKeys (cmd : KnotMsgConfig) : List String :=
  schemaKeys ++ if cmd.event.eventFlags.unregistered then [] else eventKeys

variable {fd : Int} {f g : String} {cmd : KnotMsgConfig} {w : World}

theorem updateDataItemGroup_touches : Sto.Touches fd f g (updatedKeys cmd) (updateDataItemGroup fd cmd g) := by
  unfold updateDataItemGroup
  dsimp only
  refine .bind (updateSchemaDataItem_touches.mono (by simp [updatedKeys])) fun _ => ?_
  split
  · exact .bind .of_pure fun _ => .of_pure
  · exact .bind (updateEventDataItem_touches.mono (by simp [updatedKeys, *])) fun _ => .of_pure

theorem propertiesUpdateDataItem.loop_run {gs : List String} (hf : w.fileOf fd = some f) :
    (propertiesUpdateDataItem.loop fd cmd gs).run w =
      match gs.find? (equalSensorId (w.files f) · cmd.sensorId) with
      | none => (false, w)
      | some g => (updateDataItemGroup fd cmd g).run w := by
  induction gs with
  | nil => rfl
  | cons g gs ih =>
    simp only [propertiesUpdateDataItem.loop, StateT.run_bind, storeOf_run, World.store_of_fileOf hf,
      List.find?_cons]
    cases h : equalSensorId (w.files f) g cmd.sensorId <;> simp [h, ih]


-- What `properties_update_data_item` may change in the files: only the device file `f`, and there
-- only keys it writes, of the group it updates.
structure UpdateFrame (P : Platform) (f : String) (cmd : KnotMsgConfig) (files files' : String → Store) :
    Prop where
  others : ∀ f', f' ≠ f → files' f' = files f'
  groups : (files' f).groups = (files f).groups
  keys : ∀ g k, (files' f).get g k ≠ (files f).get g k →
    matchedGroup P (files f) cmd.sensorId = some g ∧ k ∈ updatedKeys cmd

namespace UpdateFrame

variable {P : Platform} {files : String → Store} {w' : World}

theorem refl : UpdateFrame P f cmd files files :=
  ⟨fun _ _ => rfl, rfl, fun _ _ h => absurd rfl h⟩

theorem of_touches (h : w.Touches f g (updatedKeys cmd) w') (hg : matchedGroup P (w.files f) cmd.sensorId = some g) :
    UpdateFrame P f cmd w.files w'.files :=
  ⟨h.files, h.groups, fun g' k hne => let ⟨e, hk⟩ := h.get g' k hne; ⟨e ▸ hg, hk⟩⟩

end UpdateFrame

theorem propertiesUpdateDataItem_frame {P : Platform} {thing : Thing} :
    UpdateFrame P f cmd w.files ((propertiesUpdateDataItem P thing f cmd).run w).2.files := by
  unfold propertiesUpdateDataItem
  rw [storageOpen_guard_run]
  split
  · exact .refl
  have hf := World.fileOf_opened_self (w := w) (f := f)
  by_cases hgr : (w.opened f).fails (.groups f)
  · simpa [getDataItemGroups_run_of_fileOf hf, hgr] using UpdateFrame.refl
  simp [getDataItemGroups_run_of_fileOf hf, hgr]
  rw [propertiesUpdateDataItem.loop_run (w := (w.opened f).attempt (.groups f)) hf]
  split
  · exact .refl
  · rename_i g hg
    simp only [World.attempt_files, World.opened_files] at hg
    have hmem := (List.mem_filter.mp (List.mem_of_find?_eq_some hg)).1
    exact .of_touches (w := (w.opened f).attempt (.groups f)) (updateDataItemGroup_touches _ hf hmem) hg


theorem UpdateFrame.eq_of_unmatched {P : Platform} {files files' : String → Store}
    (h : UpdateFrame P f cmd files files') (hm : matchedGroup P (files f) cmd.sensorId = none) :
    files' = files := by
  funext f'
  by_cases hf : f' = f
  · subst hf
    refine Store.ext h.groups (funext fun g => funext fun k => ?_)
    by_contra hne
    simpa [hm] using (h.keys g k hne).1
  · exact h.others f' hf

-- A run of updates of the device file `f`: each call gets the thing the one before returned, and a
-- crash ends the run.
def updateAll (P : Platform) (f : String) : List KnotMsgConfig → Thing → Sto (Option Thing)
  | [], thing => pure (some thing)
  | cmd :: cmds, thing => do
    let some (_, thing) ← propertiesUpdateDataItem P thing f cmd | return none
    updateAll P f cmds thing

-- Every file has the groups, and every group the SensorId, it had in `files`.
def SameSensorIds (files files' : String → Store) : Prop :=
  ∀ f', (files' f').groups = (files f').groups ∧
    ∀ g, (files' f').get g SCHEMA_SENSOR_ID = (files f').get g SCHEMA_SENSOR_ID

theorem SameSensorIds.trans {files₁ files₂ files₃ : String → Store} (h₁ : SameSensorIds files₁ files₂)
    (h₂ : SameSensorIds files₂ files₃) : SameSensorIds files₁ files₃ :=
  fun f' => ⟨(h₂ f').1.trans (h₁ f').1, fun g => ((h₂ f').2 g).trans ((h₁ f').2 g)⟩

theorem sensorId_not_mem_updatedKeys : SCHEMA_SENSOR_ID ∉ updatedKeys cmd := by
  unfold updatedKeys
  split <;> decide

theorem UpdateFrame.sameSensorIds {P : Platform} {files files' : String → Store}
    (h : UpdateFrame P f cmd files files') :
    SameSensorIds files files' := by
  intro f'
  by_cases hf : f' = f
  · subst hf
    refine ⟨h.groups, fun g => ?_⟩
    by_contra hne
    exact sensorId_not_mem_updatedKeys (h.keys g _ hne).2
  · rw [h.others f' hf]
    exact ⟨rfl, fun _ => rfl⟩

theorem updateAll_sameSensorIds {P : Platform} {cmds : List KnotMsgConfig} {thing : Thing} :
    SameSensorIds w.files ((updateAll P f cmds thing).run w).2.files := by
  induction cmds generalizing thing w with
  | nil => exact fun _ => ⟨rfl, fun _ => rfl⟩
  | cons cmd cmds ih =>
    have hstep : SameSensorIds w.files ((propertiesUpdateDataItem P thing f cmd).run w).2.files :=
      propertiesUpdateDataItem_frame.sameSensorIds
    simp only [updateAll, StateT.run_bind]
    rcases hr : (propertiesUpdateDataItem P thing f cmd).run w with ⟨_ | ⟨_, thing'⟩, w₁⟩
    · rw [hr] at hstep
      exact hstep
    · rw [hr] at hstep
      exact hstep.trans ih

theorem propertiesUpdateDataItem_only_matched_group (P : Platform) (thing : Thing) (f : String)
    (cmd : KnotMsgConfig) (w : World) :
    UpdateFrame P f cmd w.files ((propertiesUpdateDataItem P thing f cmd).run w).2.files ∧
    (matchedGroup P (w.files f) cmd.sensorId = none →
      ((propertiesUpdateDataItem P thing f cmd).run w).2.files = w.files) ∧
    ∀ cmds, SameSensorIds w.files ((updateAll P f cmds thing).run w).2.files :=
  ⟨propertiesUpdateDataItem_frame, propertiesUpdateDataItem_frame.eq_of_unmatched, fun _ => updateAll_sameSensorIds⟩

-- A command for sensor id 0 with a schema named "t" of value type `vt`, and no event flag set.
def plainCommand (vt : Int) : KnotMsgConfig :=
  ⟨0, ⟨vt, 0, 0, "t"⟩, .zero⟩

-- A command for sensor id 0 that renames the INT sensor "speed" and sets a 5-second time event and
-- a lower threshold of -10.
def speedCommand : KnotMsgConfig :=
  ⟨0, ⟨KNOT_VALUE_TYPE_INT, 0, 0, "speed"⟩,
    ⟨{ KNOT_EVT_FLAG_NONE with time := true, lowerThreshold := true }, 5, { KnotValueType.zero with valI := -10 },
      .zero⟩⟩

-- The data-item group of `sampleItem` with a TimeSec of 5 stored.
def staleTimeFile : Store :=
  Store.ofList (sampleItem "DataItem_0" 0 ++ [("DataItem_0", EVENT_TIME_SEC, .int 5)])

-- The block of the cleared time flag removes TimeSec only when it is absent.
theorem propertiesUpdateDataItem_keeps_stale_time :
    Platform.sample.knotSchemaIsValid 0 KNOT_VALUE_TYPE_INT 0 = true ∧
    Platform.sample.knotEventIsValid KNOT_EVT_FLAG_NONE KNOT_VALUE_TYPE_INT 0 .zero .zero = true ∧
    ((propertiesUpdateDataItem Platform.sample Thing.blank "device.conf" (plainCommand KNOT_VALUE_TYPE_INT)).run
      (World.reliable fun _ => staleTimeFile)).1.map Prod.fst = some 0 ∧
    setEvent Platform.sample
      (((propertiesUpdateDataItem Platform.sample Thing.blank "device.conf" (plainCommand KNOT_VALUE_TYPE_INT)).run
        (World.reliable fun _ => staleTimeFile)).2.files "device.conf") "DataItem_0"
      (plainCommand KNOT_VALUE_TYPE_INT).schema =
      some { KnotEvent.zero with eventFlags := { KNOT_EVT_FLAG_NONE with time := true }, timeSec := 5 } :=
  ⟨rfl, rfl, rfl, rfl⟩

end VirtualThing
