import VirtualThing.Properties.Theorems.Loader

namespace VirtualThing

-- The Thing group of a device file that passes `set_thing_name`, `set_driver_url` and the string
-- checks of `set_driver_properties`, and has no DriverId.
def thingGroupWithoutDriverId : List (String × String × Value) :=
  [(THING_GROUP, THING_NAME, .string "t"), (THING_GROUP, DRIVER_URL, .string "u"),
   (THING_GROUP, DRIVER_PROTOCOL_TYPE, .string "p"), (THING_GROUP, DATA_TYPE_ENDIANNESS, .int 0)]

-- With DriverId absent, `id` keeps what the stack held.
theorem setThingProperties_depends_on_stack :
    ((setThingProperties Platform.sample ⟨fun _ => .zero, 0, 0⟩ Thing.blank "device.conf").run
      (World.reliable fun _ => Store.ofList thingGroupWithoutDriverId)).1.1 = 0 ∧
    ((setThingProperties Platform.sample ⟨fun _ => .zero, -1, 0⟩ Thing.blank "device.conf").run
      (World.reliable fun _ => Store.ofList thingGroupWithoutDriverId)).1.1 = -EINVAL :=
  ⟨rfl, rfl⟩

-- The int keys of a data-item group that `set_data_properties` reads without checking the result.
def uncheckedDataKeys : List String :=
  [DATA_NAME_SPACE_INDEX, DATA_IP_ELEMENT_SIZE, DATA_REG_ADDRESS, DATA_VALUE_TYPE_SIZE]

section Locals

variable {P : Platform} {s : Store} {g : String} {sch : KnotSchema} {thing : Thing}

theorem setDataProperties_congr_locals {u u' : DataPropsLocals}
    (hkeys : ∀ k ∈ uncheckedDataKeys, (s.readKeyInt g k).isSome) (haux : u.dataItemAux = u'.dataItemAux) :
    setDataProperties P u s g sch = setDataProperties P u' s g sch := by
  obtain ⟨a, ha⟩ := Option.isSome_iff_exists.mp (hkeys DATA_NAME_SPACE_INDEX (by simp [uncheckedDataKeys]))
  obtain ⟨b, hb⟩ := Option.isSome_iff_exists.mp (hkeys DATA_IP_ELEMENT_SIZE (by simp [uncheckedDataKeys]))
  obtain ⟨c, hc⟩ := Option.isSome_iff_exists.mp (hkeys DATA_REG_ADDRESS (by simp [uncheckedDataKeys]))
  obtain ⟨d, hd⟩ := Option.isSome_iff_exists.mp (hkeys DATA_VALUE_TYPE_SIZE (by simp [uncheckedDataKeys]))
  simp only [setDataProperties, ha, hb, hc, hd, Option.getD_some, haux]

theorem setDriverProperties_congr_locals {u v : Uninit}
    (hid : (s.readKeyInt THING_GROUP DRIVER_ID).isSome)
    (hend : (s.readKeyInt THING_GROUP DATA_TYPE_ENDIANNESS).isSome) :
    setDriverProperties P u thing s = setDriverProperties P v thing s := by
  obtain ⟨a, ha⟩ := Option.isSome_iff_exists.mp hid
  obtain ⟨b, hb⟩ := Option.isSome_iff_exists.mp hend
  simp only [setDriverProperties, ha, hb, Option.getD_some]

theorem setDataItems.loop_congr_locals {u u' : String → DataPropsLocals} {gs : List String} {i : Nat}
    (hkeys : ∀ g ∈ gs, ∀ k ∈ uncheckedDataKeys, (s.readKeyInt g k).isSome)
    (haux : ∀ g, (u g).dataItemAux = (u' g).dataItemAux) :
    setDataItems.loop P u s gs i thing = setDataItems.loop P u' s gs i thing := by
  induction gs generalizing i thing with
  | nil => rfl
  | cons g gs ih =>
    have hg : readDataItem P u s thing g = readDataItem P u' s thing g := by
      simp only [readDataItem, setDataProperties_congr_locals (hkeys g (List.mem_cons_self _ _)) (haux g)]
    simp only [setDataItems.loop, hg, ih fun g' hg' => hkeys g' (List.mem_cons_of_mem _ hg')]

theorem getDataItemGroups_eq_some {p : String → Bool} {fd : Int} {w w' : World} {gs : List String}
    (h : (getDataItemGroups p fd).run w = (some gs, w')) : gs = (w.store fd).groups.filter p := by
  simp only [StateT.run, getDataItemGroups] at h
  split at h
  · cases h
  · rename_i f hf
    split at h <;> cases h
    simp [World.store, hf]

theorem setDataItems_congr_locals {u u' : String → DataPropsLocals} {fd : Int} {w : World}
    (hkeys : ∀ g ∈ (w.store fd).groups.filter P.dataItemGroup, ∀ k ∈ uncheckedDataKeys,
      ((w.store fd).readKeyInt g k).isSome)
    (haux : ∀ g, (u g).dataItemAux = (u' g).dataItemAux) :
    (setDataItems P u thing fd).run w = (setDataItems P u' thing fd).run w := by
  rcases hr : (getDataItemGroups P.dataItemGroup fd).run w with ⟨_ | gs, w'⟩
  · simp [setDataItems, hr]
  · rw [setDataItems_run_of_groups hr, setDataItems_run_of_groups hr,
      setDataItems.loop_congr_locals ((getDataItemGroups_eq_some hr).symm ▸ hkeys) haux]

end Locals

-- Only the copied fields of `data_item_aux` are left of the stack once every unchecked int is stored.
theorem setThingProperties_decided_by_store (P : Platform) (u u' : Uninit) (thing : Thing) (f : String) (w : World)
    (hdriver : ((w.files f).readKeyInt THING_GROUP DRIVER_ID).isSome ∧
      ((w.files f).readKeyInt THING_GROUP DATA_TYPE_ENDIANNESS).isSome)
    (hdata : ∀ g ∈ (w.files f).groups.filter P.dataItemGroup, ∀ k ∈ uncheckedDataKeys,
      ((w.files f).readKeyInt g k).isSome)
    (haux : ∀ g, (u.dataProps g).dataItemAux = (u'.dataProps g).dataItemAux) :
    (setThingProperties P u thing f).run w = (setThingProperties P u' thing f).run w := by
  unfold setThingProperties
  rw [storageOpen_guard_run, storageOpen_guard_run]
  split
  · rfl
  have hkeys : ∀ g ∈ ((w.opened f).store w.nextFd).groups.filter P.dataItemGroup, ∀ k ∈ uncheckedDataKeys,
      (((w.opened f).store w.nextFd).readKeyInt g k).isSome := by
    simpa only [World.store_opened_self] using hdata
  simp only [pure_bind, StateT.run_bind, storeOf_run, World.store_opened_self, Id.bind_eq,
    setDriverProperties_congr_locals (v := u') hdriver.1 hdriver.2]
  simp only [apply_ite (StateT.run · (w.opened f)), StateT.run_bind, setDataItems_congr_locals hkeys haux]

-- A Thing group with a DriverId, and one data-item group holding all four unchecked ints.
def fullDeviceFile : Store :=
  Store.ofList (thingGroupWithoutDriverId ++ [(THING_GROUP, DRIVER_ID, .int 0)] ++ sampleItem "DataItem_0" 0 ++
    [("DataItem_0", DATA_NAME_SPACE_INDEX, .int 0), ("DataItem_0", DATA_IP_ELEMENT_SIZE, .int 0),
     ("DataItem_0", DATA_REG_ADDRESS, .int 0)])

-- Stack contents that differ from the zeroed ones in every unchecked int.
def otherLocals : Uninit :=
  ⟨fun _ => ⟨1, 1, 1, 1, DataPropsLocals.zero.dataItemAux⟩, -1, 5⟩

theorem setThingProperties_decided_by_store_with_driver_id :
    (fullDeviceFile.readKeyInt THING_GROUP DRIVER_ID).isSome ∧
      (fullDeviceFile.readKeyInt THING_GROUP DATA_TYPE_ENDIANNESS).isSome ∧
    (∀ g ∈ fullDeviceFile.groups.filter Platform.sample.dataItemGroup, ∀ k ∈ uncheckedDataKeys,
      (fullDeviceFile.readKeyInt g k).isSome) ∧
    (∀ g, (DataPropsLocals.zero : DataPropsLocals).dataItemAux = (otherLocals.dataProps g).dataItemAux) ∧
    ((setThingProperties Platform.sample ⟨fun _ => .zero, 0, 0⟩ Thing.blank "device.conf").run
      (World.reliable fun _ => fullDeviceFile)).1.1 = 0 ∧
    (setThingProperties Platform.sample ⟨fun _ => .zero, 0, 0⟩ Thing.blank "device.conf").run
        (World.reliable fun _ => fullDeviceFile) =
      (setThingProperties Platform.sample otherLocals Thing.blank "device.conf").run
        (World.reliable fun _ => fullDeviceFile) :=
  ⟨rfl, rfl, by decide, fun _ => rfl, rfl, setThingProperties_decided_by_store Platform.sample ⟨fun _ => .zero, 0, 0⟩
    otherLocals Thing.blank "device.conf" _ ⟨rfl, rfl⟩ (by decide) fun _ => rfl⟩

end VirtualThing
