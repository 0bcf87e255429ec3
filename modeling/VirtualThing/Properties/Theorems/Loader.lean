import VirtualThing.Properties.Loader
import VirtualThing.Properties.Theorems.DataItem
import Mathlib.Data.List.Nodup

namespace VirtualThing

-- The guarantees the loader gives each registered item: its schema and event pass the
-- protocol's validators, and its bit size is one the table allows for its value type.
structure DataItem.Valid (P : Platform) (item : DataItem) : Prop where
  schema : P.knotSchemaIsValid item.schema.typeId item.schema.valueType item.schema.unit
  event : P.knotEventIsValid item.event.eventFlags item.schema.valueType item.event.timeSec
    item.event.lowerLimit item.event.upperLimit
  bitSize : (item.props.valueTypeSize, item.schema.valueType) ∈ bitSizeTable

-- What group `g` loads to, whatever is registered already: its sensor id and the item made of
-- the schema, event and addressing `set_schema`, `set_event` and `set_data_properties` read.
def groupItem (P : Platform) (u : String → DataPropsLocals) (s : Store) (g : String) :
    Option (Int × DataItem) := do
  let sensorId ← s.readKeyInt g SCHEMA_SENSOR_ID
  let schema ← setSchema P s g
  let event ← setEvent P s g schema
  let props ← setDataProperties P (u g) s g schema
  pure (sensorId, ⟨sensorId, schema, event, props⟩)

-- Every group loads, and their sensor ids are distinct and not registered in `thing`.
def LoadsFrom (P : Platform) (u : String → DataPropsLocals) (s : Store) (thing : Thing) (gs : List String) :
    Prop :=
  (∀ g ∈ gs, (groupItem P u s g).isSome) ∧ ((gs.filterMap (groupItem P u s)).map Prod.fst).Nodup ∧
    ∀ x ∈ gs.filterMap (groupItem P u s), deviceDataItemLookup thing x.1 = none

section

variable {P : Platform} {u : String → DataPropsLocals} {s : Store} {thing : Thing} {g : String}
  {gs : List String} {x : Int × DataItem}

theorem groupItem_eq_some_iff : groupItem P u s g = some x ↔
    s.readKeyInt g SCHEMA_SENSOR_ID = some x.1 ∧ x.2.sensorId = x.1 ∧ setSchema P s g = some x.2.schema ∧
      setEvent P s g x.2.schema = some x.2.event ∧ setDataProperties P (u g) s g x.2.schema = some x.2.props := by
  rcases x with ⟨id, ⟨id', sch, ev, pr⟩⟩
  simp only [groupItem, Option.bind_eq_bind, Option.bind_eq_some, Option.pure_def, Option.some.injEq,
    Prod.mk.injEq, DataItem.mk.injEq]
  constructor
  · rintro ⟨_, h₁, _, h₂, _, h₃, _, h₄, rfl, rfl, rfl, rfl, rfl⟩
    exact ⟨h₁, rfl, h₂, h₃, h₄⟩
  · rintro ⟨h₁, rfl, h₂, h₃, h₄⟩
    exact ⟨_, h₁, _, h₂, _, h₃, _, h₄, rfl, rfl, rfl, rfl, rfl⟩

theorem groupItem_valid (h : groupItem P u s g = some x) : x.2.Valid P := by
  obtain ⟨-, -, hs, he, hd⟩ := groupItem_eq_some_iff.mp h
  exact ⟨setSchema_valid hs, setEvent_valid he, setDataProperties_bitSize hd⟩

theorem readDataItem_eq : readDataItem P u s thing g = (groupItem P u s g).bind fun x =>
    if (deviceDataItemLookup thing x.1).isSome then none else some (x.1, x.2.schema, x.2.event, x.2.props) := by
  simp only [readDataItem, groupItem, setSensorId, Option.bind_eq_bind]
  cases s.readKeyInt g SCHEMA_SENSOR_ID with
  | none => rfl
  | some id => by_cases hl : (deviceDataItemLookup thing id).isSome <;> simp [hl, Option.bind_assoc]

theorem deviceDataItemLookup_cons {id : Int} :
    deviceDataItemLookup { thing with dataItems := x :: thing.dataItems } id =
    if id = x.1 then some x.2 else deviceDataItemLookup thing id := by
  obtain ⟨k, item⟩ := x
  by_cases h : id = k
  · simp [deviceDataItemLookup, h]
  · simp [deviceDataItemLookup, List.lookup_cons, beq_eq_false_iff_ne.mpr h, h]

theorem deviceSetNewDataItem_of_groupItem (h : groupItem P u s g = some x) :
    deviceSetNewDataItem thing x.1 x.2.schema x.2.event x.2.props =
      { thing with dataItems := x :: thing.dataItems } := by
  obtain ⟨-, hid, -⟩ := groupItem_eq_some_iff.mp h
  rcases x with ⟨id, ⟨id', sch, ev, pr⟩⟩
  cases hid
  rfl

theorem loadsFrom_nil : LoadsFrom P u s thing [] := by
  simp [LoadsFrom]

theorem loadsFrom_cons : LoadsFrom P u s thing (g :: gs) ↔
    ∃ x, groupItem P u s g = some x ∧ deviceDataItemLookup thing x.1 = none ∧
      LoadsFrom P u s { thing with dataItems := x :: thing.dataItems } gs := by
  simp only [LoadsFrom, List.mem_cons, forall_eq_or_imp, deviceDataItemLookup_cons]
  constructor
  · rintro ⟨⟨hg, hall⟩, hnd, hfree⟩
    obtain ⟨x, hx⟩ := Option.isSome_iff_exists.mp hg
    rw [List.filterMap_cons_some hx] at hnd hfree
    simp only [List.map_cons, List.nodup_cons, List.mem_cons, forall_eq_or_imp] at hnd hfree
    refine ⟨x, hx, hfree.1, hall, hnd.2, fun y hy => ?_⟩
    have hne : y.1 ≠ x.1 := fun he => hnd.1 (he ▸ List.mem_map_of_mem _ hy)
    rw [if_neg hne, hfree.2 y hy]
  · rintro ⟨x, hx, hfree, hall, hnd, hrest⟩
    rw [List.filterMap_cons_some hx]
    refine ⟨⟨by simp [hx], hall⟩, List.nodup_cons.mpr ⟨fun hm => ?_, hnd⟩, ?_⟩
    · obtain ⟨y, hy, he⟩ := List.mem_map.mp hm
      simpa [he] using hrest y hy
    · simp only [List.mem_cons, forall_eq_or_imp]
      refine ⟨hfree, fun y hy => ?_⟩
      have := hrest y hy
      split at this
      · cases this
      · exact this

-- The loop invariant of `set_data_items`.
theorem setDataItems.loop_fst_eq_zero_iff {i : Nat} :
    (setDataItems.loop P u s gs i thing).1 = 0 ↔ LoadsFrom P u s thing gs := by
  induction gs generalizing i thing with
  | nil => simp [setDataItems.loop, loadsFrom_nil]
  | cons g gs ih =>
    simp only [loadsFrom_cons, setDataItems.loop, readDataItem_eq]
    cases hx : groupItem P u s g with
    | none => simp [EINVAL]
    | some x =>
      by_cases hl : (deviceDataItemLookup thing x.1).isSome
      · simp [hl, EINVAL, Option.isSome_iff_ne_none.mp hl]
      · simp only [Option.not_isSome_iff_eq_none] at hl
        simp [hl, ih, deviceSetNewDataItem_of_groupItem hx]

theorem setDataItems.loop_of_loadsFrom {i : Nat} (h : LoadsFrom P u s thing gs) :
    setDataItems.loop P u s gs i thing =
      (0, { thing with dataItems := (gs.filterMap (groupItem P u s)).reverse ++ thing.dataItems,
                       numberSensor := i + gs.length }) := by
  induction gs generalizing i thing with
  | nil => simp [setDataItems.loop]
  | cons g gs ih =>
    obtain ⟨x, hx, hl, hrest⟩ := loadsFrom_cons.mp h
    simp [setDataItems.loop, readDataItem_eq, hx, hl, deviceSetNewDataItem_of_groupItem hx, ih hrest,
      List.filterMap_cons_some hx]
    omega

-- A group passes the checks of the loop that do not depend on the registry.
def GroupLoads (P : Platform) (u : String → DataPropsLocals) (s : Store) (g : String) : Prop :=
  (s.readKeyInt g SCHEMA_SENSOR_ID).isSome ∧ ∃ schema, setSchema P s g = some schema ∧
    (setEvent P s g schema).isSome ∧ (setDataProperties P (u g) s g schema).isSome

theorem groupItem_isSome_iff : (groupItem P u s g).isSome ↔ GroupLoads P u s g := by
  simp only [Option.isSome_iff_exists, groupItem_eq_some_iff, GroupLoads]
  constructor
  · rintro ⟨x, hid, -, hs, he, hd⟩
    exact ⟨⟨_, hid⟩, _, hs, ⟨_, he⟩, ⟨_, hd⟩⟩
  · rintro ⟨⟨id, hid⟩, sch, hs, ⟨ev, he⟩, ⟨pr, hd⟩⟩
    exact ⟨(id, ⟨id, sch, ev, pr⟩), hid, rfl, hs, he, hd⟩

theorem map_fst_filterMap_groupItem (h : ∀ g ∈ gs, (groupItem P u s g).isSome) :
    ((gs.filterMap (groupItem P u s)).map Prod.fst).map some = gs.map (s.readKeyInt · SCHEMA_SENSOR_ID) := by
  induction gs with
  | nil => rfl
  | cons g gs ih =>
    obtain ⟨x, hx⟩ := Option.isSome_iff_exists.mp (h g (List.mem_cons_self _ _))
    simp [List.filterMap_cons_some hx, (groupItem_eq_some_iff.mp hx).1,
      ih fun g' hg' => h g' (List.mem_cons_of_mem _ hg')]

theorem lookup_of_mem_of_nodup {l : List (Int × DataItem)} {p : Int × DataItem} (hnd : (l.map Prod.fst).Nodup)
    (hp : p ∈ l) : l.lookup p.1 = some p.2 := by
  induction l with
  | nil => cases hp
  | cons q l ih =>
    obtain ⟨k, item⟩ := q
    simp only [List.map_cons, List.nodup_cons] at hnd
    rcases List.mem_cons.mp hp with rfl | hp
    · exact List.lookup_cons_self
    · have hne : p.1 ≠ k := fun he => hnd.1 (he ▸ List.mem_map_of_mem _ hp)
      simp [List.lookup_cons, beq_eq_false_iff_ne.mpr hne, ih hnd.2 hp]

theorem getDataItemGroups_files {p : String → Bool} {fd : Int} {w : World} :
    ((getDataItemGroups p fd).run w).2.files = w.files ∧ ((getDataItemGroups p fd).run w).2.handles = w.handles := by
  unfold getDataItemGroups
  simp only [StateT.run]
  split
  · exact ⟨rfl, rfl⟩
  · split <;> exact ⟨rfl, rfl⟩

theorem setDataItems_run_of_groups {fd : Int} {w w' : World}
    (h : (getDataItemGroups P.dataItemGroup fd).run w = (some gs, w')) :
    (setDataItems P u thing fd).run w = (setDataItems.loop P u (w.store fd) gs 0 thing, w') := by
  have hw : w'.store = w.store := by
    obtain ⟨hf, hh⟩ := @getDataItemGroups_files P.dataItemGroup fd w
    rw [h] at hf hh
    funext fd'
    simp only [World.store, World.fileOf, ← hf, ← hh]
  simp [setDataItems, h, hw]

theorem setDataItems.loop_eq_zero_iff (hempty : thing.dataItems = []) :
    (setDataItems.loop P u s gs 0 thing).1 = 0 ↔
      (∀ g ∈ gs, GroupLoads P u s g) ∧ (gs.map (s.readKeyInt · SCHEMA_SENSOR_ID)).Nodup := by
  refine setDataItems.loop_fst_eq_zero_iff.trans ?_
  simp only [LoadsFrom, deviceDataItemLookup, hempty, List.lookup_nil, implies_true, and_true,
    ← groupItem_isSome_iff]
  refine and_congr_right fun hall => ?_
  rw [← map_fst_filterMap_groupItem hall, List.nodup_map_iff (fun _ _ => Option.some_inj.mp)]

end

-- The postcondition of the loader of data items on the groups `gs` of `s`, for the return code
-- and thing `r` it ends with when started from an empty registry.
structure LoaderPost (P : Platform) (u : String → DataPropsLocals) (s : Store) (gs : List String)
    (r : Int × Thing) : Prop where
  ok_iff : r.1 = 0 ↔ (∀ g ∈ gs, GroupLoads P u s g) ∧ (gs.map (s.readKeyInt · SCHEMA_SENSOR_ID)).Nodup
  length : r.1 = 0 → r.2.dataItems.length = gs.length
  numberSensor : r.1 = 0 → r.2.numberSensor = gs.length
  items : r.1 = 0 → ∀ g ∈ gs, ∃ id item, s.readKeyInt g SCHEMA_SENSOR_ID = some id ∧
    deviceDataItemLookup r.2 id = some item ∧ setSchema P s g = some item.schema ∧
    setEvent P s g item.schema = some item.event ∧ setDataProperties P (u g) s g item.schema = some item.props
  valid : r.1 = 0 → ∀ p ∈ r.2.dataItems, p.2.Valid P

theorem setDataItems_loads (P : Platform) (u : String → DataPropsLocals) (thing : Thing) (fd : Int)
    (w w' : World) (gs : List String) (hgroups : (getDataItemGroups P.dataItemGroup fd).run w = (some gs, w'))
    (hempty : thing.dataItems = []) :
    LoaderPost P u (w.store fd) gs ((setDataItems P u thing fd).run w).1 := by
  rw [setDataItems_run_of_groups hgroups]
  have hiff : (setDataItems.loop P u (w.store fd) gs 0 thing).1 = 0 ↔ _ := setDataItems.loop_eq_zero_iff hempty
  by_cases h0 : (setDataItems.loop P u (w.store fd) gs 0 thing).1 = 0
  swap
  · exact ⟨hiff, (absurd · h0), (absurd · h0), (absurd · h0), (absurd · h0)⟩
  have hl := setDataItems.loop_fst_eq_zero_iff.mp h0
  have hlen : (gs.filterMap (groupItem P u (w.store fd))).length = gs.length := by
    simpa using congrArg List.length (map_fst_filterMap_groupItem hl.1)
  rw [setDataItems.loop_of_loadsFrom hl] at hiff ⊢
  refine ⟨hiff, fun _ => by simp [hempty, hlen], fun _ => by simp, fun _ g hg => ?_, fun _ p hp => ?_⟩
  · obtain ⟨x, hx⟩ := Option.isSome_iff_exists.mp (hl.1 g hg)
    obtain ⟨hid, -, hs, he, hd⟩ := groupItem_eq_some_iff.mp hx
    refine ⟨x.1, x.2, hid, lookup_of_mem_of_nodup ?_ ?_, hs, he, hd⟩
    · simpa [hempty, List.map_reverse] using hl.2.1
    · simp only [hempty, List.append_nil]
      exact List.mem_reverse.mpr (List.mem_filterMap.mpr ⟨g, hg, hx⟩)
  · simp only [hempty, List.append_nil] at hp
    obtain ⟨g, -, hx⟩ := List.mem_filterMap.mp (List.mem_reverse.mp hp)
    exact groupItem_valid hx

-- A data-item group `g` of a device file: sensor id `id`, an INT schema named "t", and a bit size
-- of 32.
def sampleItem (g : String) (id : Int) : List (String × String × Value) :=
  [(g, SCHEMA_SENSOR_ID, .int id), (g, SCHEMA_SENSOR_NAME, .string "t"),
   (g, SCHEMA_VALUE_TYPE, .int KNOT_VALUE_TYPE_INT), (g, SCHEMA_UNIT, .int 0), (g, SCHEMA_TYPE_ID, .int 0),
   (g, DATA_VALUE_TYPE_SIZE, .int 32)]

-- A world where handle 0 is open on the device file `device.conf`, which holds `entries`.
def deviceWorld (entries : List (String × String × Value)) : World :=
  { World.reliable fun _ => Store.ofList entries with handles := [(0, "device.conf")], nextFd := 1 }

theorem setDataItems_loads_two_groups :
    (getDataItemGroups Platform.sample.dataItemGroup 0).run
        (deviceWorld (sampleItem "DataItem_0" 0 ++ sampleItem "DataItem_1" 1)) =
      (some ["DataItem_0", "DataItem_1"],
        (deviceWorld (sampleItem "DataItem_0" 0 ++ sampleItem "DataItem_1" 1)).attempt (.groups "device.conf")) ∧
    Thing.blank.dataItems = [] ∧
    LoaderPost Platform.sample (fun _ => .zero)
      ((deviceWorld (sampleItem "DataItem_0" 0 ++ sampleItem "DataItem_1" 1)).store 0) ["DataItem_0", "DataItem_1"]
      ((setDataItems Platform.sample (fun _ => .zero) Thing.blank 0).run
        (deviceWorld (sampleItem "DataItem_0" 0 ++ sampleItem "DataItem_1" 1))).1 :=
  ⟨rfl, rfl, setDataItems_loads Platform.sample (fun _ => .zero) Thing.blank 0 _ _ ["DataItem_0", "DataItem_1"] rfl
    rfl⟩

theorem setDataItems_registers_id_past_count :
    ((deviceWorld (sampleItem "DataItem_0" 5)).store 0).groups.filter Platform.sample.dataItemGroup = ["DataItem_0"] ∧
    ((setDataItems Platform.sample (fun _ => .zero) Thing.blank 0).run
      (deviceWorld (sampleItem "DataItem_0" 5))).1.1 = 0 ∧
    ((setDataItems Platform.sample (fun _ => .zero) Thing.blank 0).run
      (deviceWorld (sampleItem "DataItem_0" 5))).1.2.dataItems.map Prod.fst = [5] :=
  ⟨rfl, rfl, rfl⟩

end VirtualThing
