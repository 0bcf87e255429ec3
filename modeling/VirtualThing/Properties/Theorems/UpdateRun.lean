import VirtualThing.Properties.Theorems.Sync
import VirtualThing.Properties.Theorems.ErrorContract

namespace VirtualThing

section Plans

variable {f g key : String} {vt : Int} {v : KnotValueType} {sch : KnotSchema} {cmd : KnotMsgConfig} {c : Call}

theorem mem_of_mem_ite {α : Type} {p : Prop} [Decidable p] {a : α} {l₁ l₂ : List α}
    (h : a ∈ if p then l₁ else l₂) : a ∈ l₁ ∨ a ∈ l₂ := by
  split at h <;> simp [h]

theorem write_of_mem_setLimitWrites (h : some c ∈ setLimitWrites f g key vt v) : ∃ k x, c = .write f g k x := by
  unfold setLimitWrites at h
  iterate 6 (rcases mem_of_mem_ite h with h | h; · exact ⟨_, _, Option.some_inj.mp (List.mem_singleton.mp h)⟩)
  simp at h

theorem write_of_mem_updateSchemaWrites (h : some c ∈ updateSchemaWrites f g sch) : ∃ k x, c = .write f g k x := by
  simp only [updateSchemaWrites, List.mem_cons, Option.some.injEq, List.not_mem_nil, or_false] at h
  rcases h with rfl | rfl | rfl | rfl <;> exact ⟨_, _, rfl⟩

theorem write_of_mem_commandEventWrites (h : some c ∈ commandEventWrites f g cmd) : ∃ k x, c = .write f g k x := by
  rcases mem_of_mem_ite h with h | h
  · cases h
  simp only [updateEventWrites, List.mem_append, List.mem_ite_nil_right, List.mem_singleton,
    Option.some.injEq] at h
  rcases h with ((⟨-, h⟩ | ⟨-, h⟩) | ⟨-, h⟩) | ⟨-, h⟩
  · exact ⟨_, _, h⟩
  · exact ⟨_, _, h⟩
  · exact write_of_mem_setLimitWrites h
  · exact write_of_mem_setLimitWrites h

end Plans

section Step

variable {P : Platform} {u : String → DataPropsLocals} {thing thing₀ thing' : Thing} {f g : String}
  {cmd : KnotMsgConfig} {w : World} {s : Store}

theorem ReloadsAsWritten.rejectsLimit_eq_false (hr : ReloadsAsWritten P s g cmd) : rejectsLimit cmd = false := by
  cases hu : cmd.event.eventFlags.unregistered
  case true => simp [rejectsLimit, hu]
  case false =>
    have hback := (hr.event hu).2.1
    have hl := congrArg (·.eventFlags.lowerThreshold) hback
    have hh := congrArg (·.eventFlags.upperThreshold) hback
    simp only [KnotEvent.readBack] at hl hh
    cases ht : limitType cmd.schema.valueType <;> simp_all [rejectsLimit]

theorem updateDataItemGroup_fail {fd : Int} (hf : w.fileOf fd = some f) :
    ((updateDataItemGroup fd cmd g).run w).2.fail = w.fail := by
  obtain ⟨-, -, hh, hφ⟩ := @updateSchemaDataItem_attempts fd f g cmd.schema w hf
  rcases hr : (updateSchemaDataItem fd g cmd.schema).run w with ⟨rc, w₁⟩
  rw [hr] at hh hφ
  dsimp only at hh hφ
  have hf₁ : w₁.fileOf fd = some f := by simpa [World.fileOf, hh] using hf
  obtain ⟨-, -, -, hφ'⟩ := @commandEvent_attempts fd f g cmd w₁ hf₁
  rcases he : (if cmd.event.eventFlags.unregistered then pure 0
    else updateEventDataItem fd g cmd.schema.valueType cmd.event : Sto Int).run w₁ with ⟨erc, w₂⟩
  rw [he] at hφ'
  dsimp only at hφ'
  rw [updateDataItemGroup_run hr he]
  exact hφ'.trans hφ

theorem propertiesUpdateDataItem_fail : ((propertiesUpdateDataItem P thing f cmd).run w).2.fail = w.fail := by
  unfold propertiesUpdateDataItem
  rw [storageOpen_guard_run]
  split
  · rfl
  have hf := World.fileOf_opened_self (w := w) (f := f)
  by_cases hgr : (w.opened f).fails (.groups f)
  · simp [getDataItemGroups_run_of_fileOf hf, hgr]
  simp [getDataItemGroups_run_of_fileOf hf, hgr]
  rw [propertiesUpdateDataItem.loop_run (w := (w.opened f).attempt (.groups f)) hf]
  split
  · simp
  · simp [updateDataItemGroup_fail (w := (w.opened f).attempt (.groups f)) hf]

theorem propertiesUpdateDataItem_run_of_open_fails (ho : w.fails (.open f)) :
    (propertiesUpdateDataItem P thing f cmd).run w = (some (-ENOENT, thing), w.attempt (.open f)) := by
  unfold propertiesUpdateDataItem
  rw [storageOpen_guard_run, if_pos ho]

theorem propertiesUpdateDataItem_ok_of_writes (hwrites : ∀ n f g k v, w.fail n (.write f g k v) = false)
    (ho : w.fails (.open f) = false) (hgr : (w.opened f).fails (.groups f) = false)
    (hlim : matchedGroup P (w.files f) cmd.sensorId = none ∨ rejectsLimit cmd = false) :
    ((propertiesUpdateDataItem P thing f cmd).run w).1.map Prod.fst = some 0 := by
  rw [propertiesUpdateDataItem_outcome.1, updateOutcome_fst_eq_some_zero_iff]
  refine ⟨fun c hc => ?_, hlim⟩
  have ho' : w.fail w.log.length (.open f) = false := ho
  have hgr' : w.fail (w.log.length + 1) (.groups f) = false := by simpa [World.fails] using hgr
  simp only [updateOutcome, ho', hgr', Bool.false_eq_true, if_false] at hc
  split at hc
  · simp at hc
  rename_i g _
  have hP : ∀ plan : List (Option Call), (∀ c, some c ∈ plan → ∃ k x, c = .write f g k x) →
      ∀ c m, some c ∈ plan → w.fail m c = false := fun _ hw c m hc => by
    obtain ⟨k, x, rfl⟩ := hw c hc
    exact hwrites m f g k x
  simp only [List.mem_cons, Prod.mk.injEq, Bool.false_eq_true, and_false, false_or, updateGroupAttempts,
    List.mem_append] at hc
  rcases hc with hc | hc
  · exact stopAtFailure_no_failed_call (hP _ fun _ => write_of_mem_updateSchemaWrites) c hc
  · exact stopAtFailure_no_failed_call (hP _ fun _ => write_of_mem_commandEventWrites) c hc

-- Every registered sensor id is the SensorId of a group.
theorem deviceUpdateConfigDataItem_loaded_of_unmatched (hempty : thing₀.dataItems = [])
    (hload : Loads P u thing₀ s) (hm : matchedGroup P s cmd.sensorId = none) :
    deviceUpdateConfigDataItem (loadDataItems P u thing₀ s).2 cmd = (loadDataItems P u thing₀ s).2 := by
  have hmap : ∀ l : List (Int × DataItem), (∀ x ∈ l, ∃ g ∈ s.groups.filter P.dataItemGroup,
      groupItem P u s g = some x) → l.map (configEntry cmd) = l := fun l hl =>
    (List.map_congr_left fun x hx => by
      obtain ⟨g, hg, hx⟩ := hl x hx
      have hne := List.find?_eq_none.mp hm g hg
      refine if_neg fun he => hne ?_
      simp [equalSensorId, (groupItem_eq_some_iff.mp hx).1, he]).trans (List.map_id _)
  unfold loadDataItems
  rw [setDataItems.loop_of_loadsFrom (setDataItems.loop_fst_eq_zero_iff.mp hload), deviceUpdateConfigDataItem_eq,
    hmap]
  simp only [hempty, List.append_nil, List.mem_reverse]
  exact fun x hx => List.mem_filterMap.mp hx

theorem propertiesUpdateDataItem_keeps_loaded (hempty : thing₀.dataItems = [])
    (hsync : loadDataItems P u thing₀ (w.files f) = (0, thing))
    (hwrites : ∀ n f g k v, w.fail n (.write f g k v) = false)
    (hfit : ∀ g, matchedGroup P (w.files f) cmd.sensorId = some g → ReloadsAsWritten P (w.files f) g cmd)
    {rc : Int} (h : ((propertiesUpdateDataItem P thing f cmd).run w).1 = some (rc, thing')) :
    loadDataItems P u thing₀ (((propertiesUpdateDataItem P thing f cmd).run w).2.files f) = (0, thing') := by
  by_cases ho : w.fails (.open f)
  · rw [propertiesUpdateDataItem_run_of_open_fails ho] at h ⊢
    cases h
    exact hsync
  by_cases hgr : (w.opened f).fails (.groups f)
  · have hfault := (@propertiesUpdateDataItem_outcome P thing f cmd w).1
    rw [h, updateOutcome_fst_eq_none_iff.mpr ⟨by simpa using ho, by simpa [World.fails] using hgr⟩] at hfault
    cases hfault
  have hload : Loads P u thing₀ (w.files f) := congrArg Prod.fst hsync
  have hlim : matchedGroup P (w.files f) cmd.sensorId = none ∨ rejectsLimit cmd = false := by
    cases hm : matchedGroup P (w.files f) cmd.sensorId with
    | none => exact .inl rfl
    | some g => exact .inr (hfit g hm).rejectsLimit_eq_false
  have h0 : ((propertiesUpdateDataItem P thing f cmd).run w).1.map Prod.fst = some 0 :=
    propertiesUpdateDataItem_ok_of_writes hwrites (by simpa using ho) (by simpa using hgr) hlim
  rw [propertiesUpdateDataItem_fst h0] at h
  cases h
  have hthing : thing = (loadDataItems P u thing₀ (w.files f)).2 := by rw [hsync]
  have hfr : UpdateFrame P f cmd w.files ((propertiesUpdateDataItem P thing f cmd).run w).2.files :=
    propertiesUpdateDataItem_frame
  cases hm : matchedGroup P (w.files f) cmd.sensorId with
  | none =>
    rw [hfr.eq_of_unmatched hm, hthing, deviceUpdateConfigDataItem_loaded_of_unmatched hempty hload hm, hsync]
  | some g =>
    have hs' : ((propertiesUpdateDataItem P thing f cmd).run w).2.files f = (w.files f).applyConfig g cmd := by
      rw [propertiesUpdateDataItem_effect h0 hm, Function.update_same]
    obtain ⟨hmem, hid⟩ := matchedGroup_mem hm
    have hitem := groupItem_applyConfig (u := u) hid ((setDataItems.loop_fst_eq_zero_iff.mp hload).1 g hmem)
      (hfit g hm)
    rw [hs', loadDataItems_of_configEntry hempty hload hm (hs' ▸ hfr.groups)
      (fun g' hne k => hs' ▸ hfr.get_of_ne hm hne k) hitem, hthing]

end Step

theorem updateAll_keeps_thing_loaded (P : Platform) (u : String → DataPropsLocals) (thing₀ thing : Thing)
    (f : String) (cmds : List KnotMsgConfig) (w : World) (hempty : thing₀.dataItems = [])
    (hsync : loadDataItems P u thing₀ (w.files f) = (0, thing))
    (hwrites : ∀ n f g k v, w.fail n (.write f g k v) = false)
    (hfit : ∀ i cmd g, cmds[i]? = some cmd →
      matchedGroup P (((updateAll P f (cmds.take i) thing).run w).2.files f) cmd.sensorId = some g →
        ReloadsAsWritten P (((updateAll P f (cmds.take i) thing).run w).2.files f) g cmd)
    (t : Thing) (h : ((updateAll P f cmds thing).run w).1 = some t) :
    loadDataItems P u thing₀ (((updateAll P f cmds thing).run w).2.files f) = (0, t) := by
  induction cmds generalizing thing w with
  | nil =>
    cases h
    exact hsync
  | cons cmd cmds ih =>
    simp only [updateAll, StateT.run_bind] at h ⊢
    rcases hr : (propertiesUpdateDataItem P thing f cmd).run w with ⟨_ | ⟨rc, thing'⟩, w₁⟩
    · rw [hr] at h
      cases h
    rw [hr] at h
    have hfit₀ : ∀ g, matchedGroup P (w.files f) cmd.sensorId = some g → ReloadsAsWritten P (w.files f) g cmd :=
      fun g => hfit 0 cmd g List.getElem?_cons_zero
    have hsync₁ : loadDataItems P u thing₀ (w₁.files f) = (0, thing') := by
      have := propertiesUpdateDataItem_keeps_loaded hempty hsync hwrites hfit₀ (by rw [hr])
      rwa [hr] at this
    have hφ : w₁.fail = w.fail := by
      have := @propertiesUpdateDataItem_fail P thing f cmd w
      rwa [hr] at this
    refine ih thing' w₁ hsync₁ (hφ ▸ hwrites) (fun i c g hi hg => ?_) h
    have := hfit (i + 1) c g (by simpa using hi)
    simp only [List.take_succ_cons, updateAll, StateT.run_bind, hr] at this
    exact this hg

-- Two commands for the one group of `sampleFile`: the first sets a 5-second time event, the
-- second renames the sensor and is flagged unregistered.
def fitCommands : List KnotMsgConfig :=
  [{ plainCommand KNOT_VALUE_TYPE_INT with
     event := { KnotEvent.zero with eventFlags := { KNOT_EVT_FLAG_NONE with time := true }, timeSec := 5 } },
   { plainCommand KNOT_VALUE_TYPE_INT with
     schema := ⟨KNOT_VALUE_TYPE_INT, 0, 0, "u"⟩,
     event := { KnotEvent.zero with eventFlags := { KNOT_EVT_FLAG_NONE with unregistered := true } } }]

-- The Thing Model `set_data_items` loads from `sampleFile`.
def fitThing : Thing :=
  (loadDataItems Platform.sample (fun _ => .zero) Thing.blank sampleFile).2

theorem updateAll_keeps_thing_loaded_sample :
    loadDataItems Platform.sample (fun _ => .zero) Thing.blank sampleFile = (0, fitThing) ∧
    ((updateAll Platform.sample "device.conf" fitCommands fitThing).run (World.reliable fun _ => sampleFile)).1 =
      some (fitCommands.foldl deviceUpdateConfigDataItem fitThing) ∧
    loadDataItems Platform.sample (fun _ => .zero) Thing.blank
      (((updateAll Platform.sample "device.conf" fitCommands fitThing).run
        (World.reliable fun _ => sampleFile)).2.files "device.conf") =
      (0, fitCommands.foldl deviceUpdateConfigDataItem fitThing) := by
  have hsync : loadDataItems Platform.sample (fun _ => .zero) Thing.blank sampleFile = (0, fitThing) := rfl
  have hrun : ((updateAll Platform.sample "device.conf" fitCommands fitThing).run
      (World.reliable fun _ => sampleFile)).1 = some (fitCommands.foldl deviceUpdateConfigDataItem fitThing) := rfl
  refine ⟨hsync, hrun, updateAll_keeps_thing_loaded Platform.sample (fun _ => .zero) Thing.blank fitThing "device.conf"
    fitCommands (World.reliable fun _ => sampleFile) rfl hsync (fun _ _ _ _ _ => rfl) (fun i c g hi hg => ?_) _ hrun⟩
  rcases i with _ | _ | i
  · cases hi
    obtain rfl : g = "DataItem_0" := Option.some_inj.mp (hg.symm.trans rfl)
    exact ⟨by decide, rfl, rfl, fun _ => ⟨by decide, rfl, rfl⟩⟩
  · cases hi
    obtain rfl : g = "DataItem_0" := Option.some_inj.mp (hg.symm.trans rfl)
    exact ⟨by decide, rfl, rfl, fun h => absurd h (by decide)⟩
  · cases hi

end VirtualThing
