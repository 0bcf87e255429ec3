import VirtualThing.Device.Device
import VirtualThing.Properties.Theorems.Loader

namespace VirtualThing.Device

variable {P : Platform} {c : KnotEvent} {f : String} {thing : Thing} {w : World}

@[simp] theorem getNumberOfDataItems_run {fd : Int} :
    (getNumberOfDataItems P fd).run w = ((((w.store fd).groups.filter P.dataItemGroup).length : Int), w) :=
  rfl

theorem setDataItems_run (hopen : w.fails (.open f) = false) (hgroups : (w.opened f).fails (.groups f) = false) :
    (setDataItems P c f thing).run w =
      (some <$> setDataItems.loop P c f ((w.files f).groups.filter P.dataItemGroup).length
        ((w.files f).groups.filter P.dataItemGroup) thing).run
        { (w.opened f).attempt (.groups f) with handles := w.handles } := by
  simp [setDataItems, hopen, getDataItemGroups_run_of_fileOf World.fileOf_opened_self, hgroups]

-- A device file with one data-item group whose SensorId is -1.
def minusOneIdFile : Store :=
  Store.ofList (sampleItem "DataItem_0" (-1) ++
    [("DataItem_0", MODBUS_REG_ADDRESS, .int 0), ("DataItem_0", MODBUS_BIT_OFFSET, .int 0)])

-- `valid_sensor_id` only bounds the id from above.
theorem setDataItems_accesses_index_minus_one :
    (minusOneIdFile.groups.filter Platform.sample.dataItemGroup).length = 1 ∧
    ((setDataItems Platform.sample .zero "device.conf" .blank).run (World.reliable fun _ => minusOneIdFile)).1.map
      (fun r => (r.1, r.2.accesses)) = some (0, [-1, -1, -1, -1]) :=
  ⟨rfl, by rw [setDataItems_run (w := World.reliable fun _ => minusOneIdFile) (f := "device.conf") rfl rfl]; rfl⟩

-- Without a Name in the device file, `set_thing_name` returns -EINVAL before closing its handle.
theorem deviceStart_leaks_handle :
    ((deviceStart Platform.sample .zero ⟨"credentials.conf", "device.conf", "rabbitmq.conf"⟩ .blank).run
      (World.reliable fun _ => .empty)).1.map Prod.fst = some (-EINVAL) ∧
    (World.reliable fun _ => .empty).handles = [] ∧
    ((deviceStart Platform.sample .zero ⟨"credentials.conf", "device.conf", "rabbitmq.conf"⟩ .blank).run
      (World.reliable fun _ => .empty)).2.handles = [(0, "device.conf")] :=
  ⟨rfl, rfl, rfl⟩

-- `thing'` has the accesses of `thing`, followed only by accesses at indices `Q` allows.
def Thing.AccessesWithin (Q : Int → Prop) (thing thing' : Thing) : Prop :=
  ∃ l, thing'.accesses = thing.accesses ++ l ∧ ∀ i ∈ l, Q i

namespace Thing.AccessesWithin

variable {Q Q' : Int → Prop} {thing thing₁ thing₂ thing₃ : Thing} {i : Int}

theorem refl (thing : Thing) : thing.AccessesWithin Q thing :=
  ⟨[], by simp, by simp⟩

theorem trans (h₁ : thing₁.AccessesWithin Q thing₂) (h₂ : thing₂.AccessesWithin Q thing₃) :
    thing₁.AccessesWithin Q thing₃ := by
  obtain ⟨l₁, e₁, q₁⟩ := h₁
  obtain ⟨l₂, e₂, q₂⟩ := h₂
  exact ⟨l₁ ++ l₂, by simp [e₁, e₂], fun i hi => (List.mem_append.mp hi).elim (q₁ i) (q₂ i)⟩

theorem mono (h : thing₁.AccessesWithin Q thing₂) (hQ : ∀ i, Q i → Q' i) :
    thing₁.AccessesWithin Q' thing₂ :=
  let ⟨l, e, q⟩ := h
  ⟨l, e, fun i hi => hQ i (q i hi)⟩

theorem updateItem {f : DataItem → DataItem} : thing.AccessesWithin (· = i) (thing.updateItem i f) :=
  ⟨[i], rfl, by simp⟩

theorem readItem : thing.AccessesWithin (· = i) (thing.readItem i).2 :=
  ⟨[i], rfl, by simp⟩

end Thing.AccessesWithin

-- `thing'` extends the accesses of `thing` by indices `Q` allows, and every item of `thing` that
-- holds its own index as sensor id still holds it in `thing'`.
def Thing.Grows (Q : Int → Prop) (thing thing' : Thing) : Prop :=
  thing.AccessesWithin Q thing' ∧ ∀ j, (thing.dataItem j).sensorId = j → (thing'.dataItem j).sensorId = j

namespace Thing.Grows

variable {Q Q' : Int → Prop} {thing thing₁ thing₂ thing₃ : Thing} {i : Int}

theorem refl (thing : Thing) : thing.Grows Q thing :=
  ⟨.refl thing, fun _ h => h⟩

theorem trans (h₁ : thing₁.Grows Q thing₂) (h₂ : thing₂.Grows Q thing₃) : thing₁.Grows Q thing₃ :=
  ⟨h₁.1.trans h₂.1, fun j h => h₂.2 j (h₁.2 j h)⟩

theorem mono (h : thing₁.Grows Q thing₂) (hQ : ∀ i, Q i → Q' i) : thing₁.Grows Q' thing₂ :=
  ⟨h.1.mono hQ, h.2⟩

theorem updateItem {f : DataItem → DataItem} (hf : ∀ item, item.sensorId = i → (f item).sensorId = i) :
    thing.Grows (· = i) (thing.updateItem i f) := by
  refine ⟨.updateItem, fun j h => ?_⟩
  by_cases hj : j = i
  · subst hj
    simpa [Thing.updateItem] using hf _ h
  · simpa [Thing.updateItem, hj] using h

theorem readItem : thing.Grows (· = i) (thing.readItem i).2 :=
  ⟨.readItem, fun _ h => h⟩

end Thing.Grows

-- `p`, a step of the loader on item `i`, changes neither the files nor the failure pattern, and
-- returns a thing whose new accesses are all at `i` and whose items keep their sensor ids.
def StepAt (i : Int) (thing : Thing) (p : Sto (Int × Thing)) : Prop :=
  ∀ w, (p.run w).2.files = w.files ∧ (p.run w).2.fail = w.fail ∧ thing.Grows (· = i) (p.run w).1.2

variable {g : String} {i : Int}

theorem getSensorId_run : (getSensorId f g).run w =
    if w.fails (.open f) then (-ENOENT, w.attempt (.open f))
    else match (w.files f).readKeyInt g SCHEMA_SENSOR_ID with
      | none => (-EINVAL, w.opened f)
      | some i => (i, { w.opened f with handles := w.handles }) := by
  simp only [getSensorId, storageOpen_guard_run]
  split
  · rfl
  simp only [pure_bind, StateT.run_bind, storeOf_run, World.store_opened_self, Id.bind_eq]
  cases h : (w.files f).readKeyInt g SCHEMA_SENSOR_ID <;> simp [h]

theorem getSensorId_spec : ((getSensorId f g).run w).2.files = w.files ∧ ((getSensorId f g).run w).2.fail = w.fail ∧
    ((((getSensorId f g).run w).1 = -ENOENT ∧ w.fails (.open f)) ∨
      ((getSensorId f g).run w).1 = ((w.files f).readKeyInt g SCHEMA_SENSOR_ID).getD (-EINVAL)) := by
  rw [getSensorId_run]
  split
  · simp [*]
  · split <;> simp [*]

theorem setSchema_stepAt : StepAt i thing (setSchema P f g i thing) := by
  intro w
  simp only [setSchema, storageOpen_guard_run]
  split
  · exact ⟨rfl, rfl, .refl _⟩
  simp only [pure_bind, StateT.run_bind, storeOf_run, World.store_opened_self, Id.bind_eq]
  split
  · exact ⟨rfl, rfl, .updateItem fun _ h => h⟩
  · exact ⟨rfl, rfl, .refl _⟩

theorem setModbusSourceProperties_stepAt : StepAt i thing (setModbusSourceProperties f g i thing) := by
  intro w
  simp only [setModbusSourceProperties, storageOpen_guard_run]
  split
  · exact ⟨rfl, rfl, .refl _⟩
  simp only [pure_bind, StateT.run_bind, storeOf_run, World.store_opened_self, Id.bind_eq]
  split
  · split
    · exact ⟨rfl, rfl, .updateItem fun _ h => h⟩
    · exact ⟨rfl, rfl, .refl _⟩
  · exact ⟨rfl, rfl, .refl _⟩

theorem setConfig_stepAt : StepAt i thing (setConfig f g i c thing) := by
  intro w
  simp only [setConfig, storageOpen_guard_run]
  split
  · exact ⟨rfl, rfl, .refl _⟩
  simp only [pure_bind, StateT.run_bind, storeOf_run, World.store_opened_self, Id.bind_eq]
  refine ⟨rfl, rfl, ?_⟩
  cases (w.files f).readKeyInt g CONFIG_LOWER_THRESHOLD <;> cases (w.files f).readKeyInt g CONFIG_UPPER_THRESHOLD
  · exact .updateItem fun _ h => h
  · exact .trans .readItem (.updateItem fun _ h => h)
  · exact .trans .readItem (.updateItem fun _ h => h)
  · exact .trans .readItem (.trans .readItem (.updateItem fun _ h => h))

theorem validSensorId_lt_zero_iff {n : Int} : validSensorId i n < 0 ↔ n ≤ i := by
  unfold validSensorId
  split <;> simp [EINVAL, *]

variable {F : String → Store} {φ : Nat → Call → Bool}

theorem StepAt.bind {p : Sto (Int × Thing)} {k : Int × Thing → Sto (Int × Thing)} {Q : Int → Prop}
    {R : Int × Thing → Prop} (hp : StepAt i thing p) (hi : Q i) (hw : w.files = F ∧ w.fail = φ)
    (hk : ∀ (rc : Int) (thing' : Thing) (w' : World), w'.files = F ∧ w'.fail = φ →
      thing'.Grows Q ((k (rc, thing')).run w').1.2 ∧ R ((k (rc, thing')).run w').1) :
    thing.Grows Q ((p >>= k).run w).1.2 ∧ R ((p >>= k).run w).1 := by
  obtain ⟨hf, hφ, ha⟩ := hp w
  simp only [StateT.run_bind]
  obtain ⟨hg, hR⟩ := hk _ _ _ ⟨hf.trans hw.1, hφ.trans hw.2⟩
  exact ⟨(ha.mono fun j hj => hj ▸ hi).trans hg, hR⟩

-- An index the older loader may use on `thing.data_item`, given the device file `s`, the failure
-- pattern `fail` and the listed groups `gs`: it is below the group count `n`, and it is the error
-- of a failed `storage_open`, or what `get_sensor_id` reads for a listed group: its SensorId, or
-- -EINVAL where it has none.
def loaderIndex (n : Int) (s : Store) (fail : Nat → Call → Bool) (f : String) (gs : List String) (i : Int) : Prop :=
  i < n ∧ ((i = -ENOENT ∧ ∃ k, fail k (.open f) = true) ∨
    ∃ g ∈ gs, (s.readKeyInt g SCHEMA_SENSOR_ID).getD (-EINVAL) = i)

theorem loaderIndex_cons {n : Int} {s : Store} {fail : Nat → Call → Bool} {gs : List String} {j : Int}
    (h : loaderIndex n s fail f gs j) : loaderIndex n s fail f (g :: gs) j :=
  ⟨h.1, h.2.imp_right fun ⟨g', hg', e⟩ => ⟨g', .tail _ hg', e⟩⟩

theorem loaderIndex_singleton {n : Int} {s : Store} {j : Int} (hopens : ∀ k, φ k (.open f) = false)
    (h : loaderIndex n s φ f [g] j) : j < n ∧ (s.readKeyInt g SCHEMA_SENSOR_ID).getD (-EINVAL) = j := by
  rcases h with ⟨hn, ⟨-, k, hk⟩ | ⟨g', hg', e⟩⟩
  · simp [hopens k] at hk
  · exact ⟨hn, List.mem_singleton.mp hg' ▸ e⟩

-- Should the loop have returned 0 with `r`, each group of `gs` has a sensor id `S` allows that
-- indexes an item holding it.
def Initialised (S : String → Int → Prop) (gs : List String) (r : Int × Thing) : Prop :=
  r.1 = 0 → ∀ g ∈ gs, ∃ j, S g j ∧ (r.2.dataItem j).sensorId = j

theorem Thing.Grows.cons {Q : Int → Prop} {S : String → Int → Prop} {thing thing₁ : Thing} {r : Int × Thing}
    {gs : List String} (h₁ : thing.Grows Q thing₁) (hi : (thing₁.dataItem i).sensorId = i) (hS : S g i)
    (h : thing₁.Grows Q r.2 ∧ Initialised S gs r) : thing.Grows Q r.2 ∧ Initialised S (g :: gs) r := by
  refine ⟨h₁.trans h.1, fun h0 g' hg' => ?_⟩
  rcases List.mem_cons.mp hg' with rfl | hg'
  · exact ⟨i, hS, h.1.2 i hi⟩
  · exact h.2 h0 g' hg'

theorem initialised_neg_EINVAL {S : String → Int → Prop} {gs : List String} {thing : Thing} :
    Initialised S gs (-EINVAL, thing) :=
  fun h => by simp [EINVAL] at h

-- The loop invariant.
theorem setDataItems.loop_grows {n : Int} {gs : List String} : ∀ {thing : Thing} {w : World},
    w.files = F ∧ w.fail = φ →
      thing.Grows (loaderIndex n (F f) φ f gs) ((setDataItems.loop P c f n gs thing).run w).1.2 ∧
        Initialised (fun g i => loaderIndex n (F f) φ f [g] i) gs ((setDataItems.loop P c f n gs thing).run w).1 := by
  induction gs with
  | nil => exact fun {thing _} _ => ⟨.refl thing, fun _ g hg => absurd hg (List.not_mem_nil g)⟩
  | cons g gs ih =>
    intro thing w hw
    obtain ⟨hf₁, hφ₁, hi⟩ := getSensorId_spec (f := f) (g := g) (w := w)
    simp only [setDataItems.loop, StateT.run_bind, Id.bind_eq]
    generalize (getSensorId f g).run w = r at hf₁ hφ₁ hi ⊢
    obtain ⟨i, w₁⟩ := r
    dsimp only at hf₁ hφ₁ hi ⊢
    split
    · exact ⟨.refl _, initialised_neg_EINVAL⟩
    rename_i hvalid
    have hQ : loaderIndex n (F f) φ f [g] i := by
      rw [← hw.1, ← hw.2]
      exact ⟨by simpa [validSensorId_lt_zero_iff] using hvalid,
        hi.imp (fun h => ⟨h.1, _, h.2⟩) fun h => ⟨g, by simp, h.symm⟩⟩
    have hQ' : loaderIndex n (F f) φ f (g :: gs) i :=
      ⟨hQ.1, hQ.2.imp_right fun ⟨g', hg', e⟩ => ⟨g', by simp_all, e⟩⟩
    have h₁ : thing.Grows (loaderIndex n (F f) φ f (g :: gs))
        (thing.updateItem i fun item => { item with sensorId := i }) :=
      (Thing.Grows.updateItem (i := i) fun _ _ => rfl).mono fun j hj => hj ▸ hQ'
    have hP : ((thing.updateItem i fun item => { item with sensorId := i }).dataItem i).sensorId = i := by
      simp [Thing.updateItem]
    set S := fun g i => loaderIndex n (F f) φ f [g] i
    simp only [pure_bind]
    refine Thing.Grows.cons h₁ hP hQ <| StepAt.bind (R := Initialised S gs) setSchema_stepAt hQ'
      ⟨hf₁.trans hw.1, hφ₁.trans hw.2⟩ fun rc thing₂ w₂ hw₂ => ?_
    dsimp only
    split
    · exact ⟨.refl _, initialised_neg_EINVAL⟩
    refine StepAt.bind (R := Initialised S gs) setConfig_stepAt hQ' hw₂ fun rc thing₃ w₃ hw₃ => ?_
    dsimp only
    split
    · exact ⟨.refl _, initialised_neg_EINVAL⟩
    refine StepAt.bind (R := Initialised S gs) setModbusSourceProperties_stepAt hQ' hw₃
      fun rc thing₄ w₄ hw₄ => ?_
    dsimp only
    split
    · exact ⟨.refl _, initialised_neg_EINVAL⟩
    exact ⟨(ih hw₄).1.mono fun j => loaderIndex_cons, (ih hw₄).2⟩

-- `valid_sensor_id` bounds the index from above, and it is a SensorId the file holds or an error code
-- `get_sensor_id` returned.
theorem setDataItems_indices_below_count (P : Platform) (c : KnotEvent) (f : String) (thing : Thing) (w : World)
    (hopen : w.fails (.open f) = false) (hgroups : (w.opened f).fails (.groups f) = false) :
    ∃ r, ((setDataItems P c f thing).run w).1 = some r ∧
      thing.AccessesWithin (loaderIndex ((w.files f).groups.filter P.dataItemGroup).length (w.files f) w.fail f
        ((w.files f).groups.filter P.dataItemGroup)) r.2 := by
  rw [setDataItems_run hopen hgroups]
  exact ⟨_, rfl, (setDataItems.loop_grows ⟨rfl, rfl⟩).1.1⟩

theorem setDataItems_indices_below_count_minus_one :
    (World.reliable fun _ => minusOneIdFile).fails (.open "device.conf") = false ∧
    ((World.reliable fun _ => minusOneIdFile).opened "device.conf").fails (.groups "device.conf") = false ∧
    ∃ r, ((setDataItems Platform.sample .zero "device.conf" .blank).run (World.reliable fun _ => minusOneIdFile)).1 =
        some r ∧
      Thing.blank.AccessesWithin (loaderIndex (minusOneIdFile.groups.filter Platform.sample.dataItemGroup).length
        minusOneIdFile (fun _ _ => false) "device.conf" (minusOneIdFile.groups.filter Platform.sample.dataItemGroup))
        r.2 :=
  ⟨rfl, rfl, setDataItems_indices_below_count Platform.sample .zero "device.conf" .blank _ rfl rfl⟩

theorem setDataItems_indices_in_range (P : Platform) (c : KnotEvent) (f : String) (thing : Thing) (w : World)
    (hopens : ∀ k, w.fail k (.open f) = false) (hgroups : (w.opened f).fails (.groups f) = false)
    (hids : ∀ g ∈ (w.files f).groups.filter P.dataItemGroup,
      ∃ i, 0 ≤ i ∧ (w.files f).readKeyInt g SCHEMA_SENSOR_ID = some i) :
    ∃ r, ((setDataItems P c f thing).run w).1 = some r ∧
      thing.AccessesWithin (fun i => 0 ≤ i ∧ i < ((w.files f).groups.filter P.dataItemGroup).length) r.2 := by
  rw [setDataItems_run (hopens _) hgroups]
  refine ⟨_, rfl, (setDataItems.loop_grows ⟨rfl, rfl⟩).1.1.mono fun j ⟨hn, hj⟩ => ⟨?_, hn⟩⟩
  rcases hj with ⟨-, k, hk⟩ | ⟨g, hg, rfl⟩
  · simp [hopens k] at hk
  · obtain ⟨i, hi, e⟩ := hids g hg
    simpa [e] using hi

-- Two data-item groups with the Modbus keys of the older loader, listed with SensorIds 1 and 0.
def twoItemFile : Store :=
  Store.ofList (sampleItem "DataItem_0" 1 ++
    [("DataItem_0", MODBUS_REG_ADDRESS, .int 0), ("DataItem_0", MODBUS_BIT_OFFSET, .int 0)] ++
    sampleItem "DataItem_1" 0 ++
    [("DataItem_1", MODBUS_REG_ADDRESS, .int 0), ("DataItem_1", MODBUS_BIT_OFFSET, .int 0)])

theorem twoItemFile_sensorIds : ∀ g ∈ twoItemFile.groups.filter Platform.sample.dataItemGroup,
    ∃ i, 0 ≤ i ∧ twoItemFile.readKeyInt g SCHEMA_SENSOR_ID = some i := by
  intro g hg
  rw [show twoItemFile.groups.filter Platform.sample.dataItemGroup = ["DataItem_0", "DataItem_1"] from rfl] at hg
  rcases List.mem_pair.mp hg with rfl | rfl
  · exact ⟨1, by decide, rfl⟩
  · exact ⟨0, le_refl 0, rfl⟩

theorem setDataItems_indices_in_range_two_items :
    (∀ k, (World.reliable fun _ => twoItemFile).fail k (.open "device.conf") = false) ∧
    ((World.reliable fun _ => twoItemFile).opened "device.conf").fails (.groups "device.conf") = false ∧
    (∀ g ∈ twoItemFile.groups.filter Platform.sample.dataItemGroup,
      ∃ i, 0 ≤ i ∧ twoItemFile.readKeyInt g SCHEMA_SENSOR_ID = some i) ∧
    ∃ r, ((setDataItems Platform.sample .zero "device.conf" .blank).run (World.reliable fun _ => twoItemFile)).1 =
        some r ∧
      Thing.blank.AccessesWithin
        (fun i => 0 ≤ i ∧ i < (twoItemFile.groups.filter Platform.sample.dataItemGroup).length) r.2 :=
  ⟨fun _ => rfl, rfl, twoItemFile_sensorIds,
    setDataItems_indices_in_range Platform.sample .zero "device.conf" .blank _ (fun _ => rfl) rfl
      twoItemFile_sensorIds⟩

theorem setDataItems_initialises_every_index (P : Platform) (c : KnotEvent) (f : String) (thing : Thing) (w : World)
    (hopens : ∀ k, w.fail k (.open f) = false) (hgroups : (w.opened f).fails (.groups f) = false)
    (hids : ∀ g ∈ (w.files f).groups.filter P.dataItemGroup,
      ∃ i, 0 ≤ i ∧ (w.files f).readKeyInt g SCHEMA_SENSOR_ID = some i)
    (hnd : (((w.files f).groups.filter P.dataItemGroup).map fun g => (w.files f).readKeyInt g SCHEMA_SENSOR_ID).Nodup) :
    ∃ r, ((setDataItems P c f thing).run w).1 = some r ∧
      (r.1 = 0 → ∀ j : Nat, j < ((w.files f).groups.filter P.dataItemGroup).length →
        (r.2.dataItem j).sensorId = j) := by
  rw [setDataItems_run (hopens _) hgroups]
  refine ⟨_, rfl, fun h0 j hjn => ?_⟩
  set gs := (w.files f).groups.filter P.dataItemGroup
  have hinit := (@setDataItems.loop_grows P c f w.files w.fail gs.length gs thing
    { (w.opened f).attempt (.groups f) with handles := w.handles } ⟨rfl, rfl⟩).2 h0
  -- Each listed group's SensorId is in [0, n) and indexes an item that holds it.
  have hgood : ∀ g ∈ gs, ∃ i, (w.files f).readKeyInt g SCHEMA_SENSOR_ID = some i ∧ 0 ≤ i ∧ i < gs.length ∧
      (((setDataItems.loop P c f gs.length gs thing).run
        { (w.opened f).attempt (.groups f) with handles := w.handles }).1.2.dataItem i).sensorId = i := by
    intro g hg
    obtain ⟨i, hi0, e⟩ := hids g hg
    obtain ⟨j', hj', hs⟩ := hinit g hg
    obtain ⟨hlt, hj⟩ := loaderIndex_singleton hopens hj'
    rw [e, Option.getD_some] at hj
    exact ⟨i, e, hi0, hj ▸ hlt, hj ▸ hs⟩
  -- The SensorIds, as naturals, are `gs.length` distinct numbers below `gs.length`: all of them.
  have hperm : (gs.map fun g => (((w.files f).readKeyInt g SCHEMA_SENSOR_ID).getD 0).toNat).Perm
      (List.range gs.length) := by
    refine (List.subperm_of_subset ?_ ?_).perm_of_length_le (by simp)
    · refine (hnd.of_map _).map_on fun g₁ hg₁ g₂ hg₂ hxy => List.inj_on_of_nodup_map hnd hg₁ hg₂ ?_
      obtain ⟨i₁, e₁, h₁, -⟩ := hgood g₁ hg₁
      obtain ⟨i₂, e₂, h₂, -⟩ := hgood g₂ hg₂
      simp only [e₁, e₂, Option.getD_some, Option.some.injEq] at hxy ⊢
      omega
    · intro k hk
      obtain ⟨g, hg, rfl⟩ := List.mem_map.mp hk
      obtain ⟨i, e, h₁, h₂, -⟩ := hgood g hg
      simp only [e, Option.getD_some, List.mem_range]
      omega
  obtain ⟨g, hg, hgj⟩ := List.mem_map.mp (hperm.mem_iff.mpr (List.mem_range.mpr hjn))
  obtain ⟨i, e, hi0, -, hs⟩ := hgood g hg
  rw [e, Option.getD_some] at hgj
  rwa [show (j : Int) = i by omega]

theorem setDataItems_initialises_every_index_two_items :
    (∀ k, (World.reliable fun _ => twoItemFile).fail k (.open "device.conf") = false) ∧
    ((World.reliable fun _ => twoItemFile).opened "device.conf").fails (.groups "device.conf") = false ∧
    (∀ g ∈ twoItemFile.groups.filter Platform.sample.dataItemGroup,
      ∃ i, 0 ≤ i ∧ twoItemFile.readKeyInt g SCHEMA_SENSOR_ID = some i) ∧
    ((twoItemFile.groups.filter Platform.sample.dataItemGroup).map
      fun g => twoItemFile.readKeyInt g SCHEMA_SENSOR_ID).Nodup ∧
    ∃ r, ((setDataItems Platform.sample .zero "device.conf" .blank).run (World.reliable fun _ => twoItemFile)).1 =
        some r ∧
      (r.1 = 0 → ∀ j : Nat, j < (twoItemFile.groups.filter Platform.sample.dataItemGroup).length →
        (r.2.dataItem j).sensorId = j) :=
  ⟨fun _ => rfl, rfl, twoItemFile_sensorIds, by decide,
    setDataItems_initialises_every_index Platform.sample .zero "device.conf" .blank _ (fun _ => rfl) rfl
      twoItemFile_sensorIds (by decide)⟩

end VirtualThing.Device
