import VirtualThing.Storage.Attempts
import VirtualThing.Properties.Theorems.RoundTrip

namespace VirtualThing

-- The write `set_limit` makes for a value type it knows, in the member the type selects; it refuses
-- any other.
def setLimitWrites (f g key : String) (vt : Int) (v : KnotValueType) : List (Option Call) :=
  if vt = KNOT_VALUE_TYPE_INT then [some (.write f g key (.int v.valI))]
  else if vt = KNOT_VALUE_TYPE_FLOAT then [some (.write f g key (.float v.valF))]
  else if vt = KNOT_VALUE_TYPE_BOOL then [some (.write f g key (.bool v.valB))]
  else if vt = KNOT_VALUE_TYPE_INT64 then [some (.write f g key (.int64 v.valI64))]
  else if vt = KNOT_VALUE_TYPE_UINT then [some (.write f g key (.uint v.valU))]
  else if vt = KNOT_VALUE_TYPE_UINT64 then [some (.write f g key (.uint64 v.valU64))]
  else [none]

-- The writes of `update_event_data_item`: one per flag that is set, in the order of its blocks.
def updateEventWrites (f g : String) (vt : Int) (e : KnotEvent) : List (Option Call) :=
  (if e.eventFlags.time then [some (.write f g EVENT_TIME_SEC (.int e.timeSec))] else []) ++
  (if e.eventFlags.change then [some (.write f g EVENT_CHANGE (.int EVENT_CHANGE_TRUE))] else []) ++
  (if e.eventFlags.lowerThreshold then setLimitWrites f g EVENT_LOWER_THRESHOLD vt e.lowerLimit else []) ++
  (if e.eventFlags.upperThreshold then setLimitWrites f g EVENT_UPPER_THRESHOLD vt e.upperLimit else [])

-- The writes of `update_schema_data_item`.
def updateSchemaWrites (f g : String) (sch : KnotSchema) : List (Option Call) :=
  [some (.write f g SCHEMA_TYPE_ID (.int sch.typeId)), some (.write f g SCHEMA_UNIT (.int sch.unit)),
    some (.write f g SCHEMA_VALUE_TYPE (.int sch.valueType)), some (.write f g SCHEMA_SENSOR_NAME (.string sch.name))]

-- The event writes of an update by `cmd`: none when the command is flagged unregistered.
def commandEventWrites (f g : String) (cmd : KnotMsgConfig) : List (Option Call) :=
  if cmd.event.eventFlags.unregistered then [] else updateEventWrites f g cmd.schema.valueType cmd.event

-- The update of group `g` by `cmd` from log position `n`: the calls it makes, oldest first, and
-- `has_err`. Each block stops at its first failure; the event block runs whether or not the schema
-- block failed.
def updateGroupAttempts (fail : Nat → Call → Bool) (n : Nat) (f g : String) (cmd : KnotMsgConfig) :
    List (Call × Bool) × Bool :=
  let S := stopAtFailure fail n (updateSchemaWrites f g cmd.schema)
  let E := stopAtFailure fail (n + S.1.length) (commandEventWrites f g cmd)
  (S.1 ++ E.1, S.2 || E.2)

-- The error contract of `properties_update_data_item` on the device file `f` holding `s`, under the
-- failure pattern `fail` from log position `n`: its result code, `none` for the fault of indexing
-- the NULL of a failed enumeration, and the storage calls it makes, oldest first.
def updateOutcome (P : Platform) (s : Store) (fail : Nat → Call → Bool) (n : Nat) (f : String)
    (cmd : KnotMsgConfig) : Option Int × List (Call × Bool) :=
  if fail n (.open f) then (some (-ENOENT), [(.open f, false)])
  else if fail (n + 1) (.groups f) then (none, [(.open f, true), (.groups f, false)])
  else match matchedGroup P s cmd.sensorId with
    | none => (some 0, [(.open f, true), (.groups f, true)])
    | some g =>
      let r := updateGroupAttempts fail (n + 2) f g cmd
      (some (if r.2 then -1 else 0), (.open f, true) :: (.groups f, true) :: r.1)

-- A registered command with a threshold flag set whose value type `set_limit` does not write.
def rejectsLimit (cmd : KnotMsgConfig) : Bool :=
  !cmd.event.eventFlags.unregistered &&
    (cmd.event.eventFlags.lowerThreshold || cmd.event.eventFlags.upperThreshold) && !limitType cmd.schema.valueType

section Plans

variable {f g key : String} {vt : Int} {v : KnotValueType} {sch : KnotSchema} {cmd : KnotMsgConfig}

theorem none_mem_setLimitWrites : none ∈ setLimitWrites f g key vt v ↔ limitType vt = false := by
  rcases limitType_cases vt with rfl | rfl | rfl | rfl | rfl | rfl | h <;>
  simp_all [setLimitWrites, limitType, KNOT_VALUE_TYPE_INT, KNOT_VALUE_TYPE_FLOAT, KNOT_VALUE_TYPE_BOOL,
    KNOT_VALUE_TYPE_INT64, KNOT_VALUE_TYPE_UINT, KNOT_VALUE_TYPE_UINT64]

theorem none_not_mem_updateSchemaWrites : none ∉ updateSchemaWrites f g sch := by
  simp [updateSchemaWrites]

theorem none_mem_commandEventWrites : none ∈ commandEventWrites f g cmd ↔ rejectsLimit cmd = true := by
  unfold commandEventWrites updateEventWrites rejectsLimit
  cases cmd.event.eventFlags.unregistered <;> cases cmd.event.eventFlags.lowerThreshold <;>
    cases cmd.event.eventFlags.upperThreshold <;> simp [none_mem_setLimitWrites]

theorem updateGroupAttempts_snd_eq_false_iff {fail : Nat → Call → Bool} {n : Nat} :
    (updateGroupAttempts fail n f g cmd).2 = false ↔
      (∀ c, (c, false) ∉ (updateGroupAttempts fail n f g cmd).1) ∧ rejectsLimit cmd = false := by
  simp only [updateGroupAttempts, Bool.or_eq_false_iff, stopAtFailure_snd_eq_false_iff, List.mem_append,
    not_or, forall_and, none_mem_commandEventWrites, none_not_mem_updateSchemaWrites, not_false_eq_true,
    Bool.not_eq_true]
  tauto

end Plans

section Attempts

variable {fd : Int} {f g key : String} {cmd : KnotMsgConfig} {w : World}

theorem setLimit_attempts {vt : Int} {v : KnotValueType} :
    Sto.Attempts fd f (setLimitWrites f g key vt v) (setLimit fd g key vt v) := by
  unfold setLimit setLimitWrites
  exact .ite .write <| .ite .write <| .ite .write <| .ite .write <| .ite .write <| .ite .write .refuse

-- The removal of an absent key is not a fallible call.
theorem updateEventKey_attempts {flag : Bool} {W : List (Option Call)} {write : Sto Int}
    (hw : Sto.Attempts fd f W write) :
    Sto.Attempts fd f (if flag then W else []) (updateEventKey fd g key flag write) := by
  unfold updateEventKey
  dsimp only
  cases flag
  · intro w hf
    simp only [Bool.false_eq_true, if_false, StateT.run_bind, storageHasUnit_run, World.store_of_fileOf hf,
      Id.bind_eq]
    cases (w.files f).hasKey g key <;> simp [storageRemoveKey_run_of_fileOf hf, stopAtFailure]
  · rw [if_pos rfl, ← List.append_nil W]
    exact hw.guard (.of_pure (lt_irrefl 0))

theorem updateEventDataItem_attempts {vt : Int} {e : KnotEvent} :
    Sto.Attempts fd f (updateEventWrites f g vt e) (updateEventDataItem fd g vt e) := by
  unfold updateEventDataItem
  rw [← List.append_nil (updateEventWrites f g vt e)]
  simp only [updateEventWrites, List.append_assoc]
  exact .guard (updateEventKey_attempts .write) <| .guard (updateEventKey_attempts .write) <|
    .guard (updateEventKey_attempts setLimit_attempts) <| .guard (updateEventKey_attempts setLimit_attempts) <|
    .of_pure (lt_irrefl 0)

theorem updateSchemaDataItem_attempts {sch : KnotSchema} :
    Sto.Attempts fd f (updateSchemaWrites f g sch) (updateSchemaDataItem fd g sch) := by
  unfold updateSchemaDataItem
  exact .guard .write <| .guard .write <| .guard .write .write

theorem commandEvent_attempts :
    Sto.Attempts fd f (commandEventWrites f g cmd)
      (if cmd.event.eventFlags.unregistered then pure 0 else updateEventDataItem fd g cmd.schema.valueType cmd.event) :=
  .ite (.of_pure (lt_irrefl 0)) updateEventDataItem_attempts

theorem updateDataItemGroup_run {rc erc : Int} {w₁ w₂ : World}
    (hr : (updateSchemaDataItem fd g cmd.schema).run w = (rc, w₁))
    (he : (if cmd.event.eventFlags.unregistered then pure 0
      else updateEventDataItem fd g cmd.schema.valueType cmd.event : Sto Int).run w₁ = (erc, w₂)) :
    (updateDataItemGroup fd cmd g).run w = (decide (rc < 0) || decide (erc < 0), w₂) := by
  unfold updateDataItemGroup
  simp only [StateT.run_bind, hr, Id.bind_eq]
  split <;> rename_i hu <;> simp only [hu, if_true, if_false, Bool.false_eq_true] at he
  · obtain ⟨rfl, rfl⟩ := Prod.mk.inj he
    rfl
  · simp [he]

theorem updateDataItemGroup_attempts (hf : w.fileOf fd = some f) :
    ((updateDataItemGroup fd cmd g).run w).1 = (updateGroupAttempts w.fail w.log.length f g cmd).2 ∧
    ((updateDataItemGroup fd cmd g).run w).2.log =
      (updateGroupAttempts w.fail w.log.length f g cmd).1.reverse ++ w.log := by
  obtain ⟨hlog, hrc, hh, hφ⟩ := @updateSchemaDataItem_attempts fd f g cmd.schema w hf
  rcases hr : (updateSchemaDataItem fd g cmd.schema).run w with ⟨rc, w₁⟩
  rw [hr] at hlog hrc hh hφ
  dsimp only at hlog hrc hh hφ
  have hf₁ : w₁.fileOf fd = some f := by simpa [World.fileOf, hh] using hf
  obtain ⟨hlog', hrc', -, -⟩ := @commandEvent_attempts fd f g cmd w₁ hf₁
  rcases he : (if cmd.event.eventFlags.unregistered then pure 0
    else updateEventDataItem fd g cmd.schema.valueType cmd.event : Sto Int).run w₁ with ⟨erc, w₂⟩
  rw [he, hφ, hlog, List.length_append, List.length_reverse, Nat.add_comm] at hlog' hrc'
  dsimp only at hlog' hrc'
  rw [updateDataItemGroup_run hr he]
  refine ⟨?_, by simp [updateGroupAttempts, hlog']⟩
  rw [Bool.eq_iff_iff]
  simp only [updateGroupAttempts, Bool.or_eq_true, decide_eq_true_eq, ← hrc, ← hrc']

end Attempts

section Outcome

variable {P : Platform} {thing : Thing} {f : String} {cmd : KnotMsgConfig} {w : World}

-- The code refines `updateOutcome`.
theorem propertiesUpdateDataItem_outcome :
    ((propertiesUpdateDataItem P thing f cmd).run w).1.map Prod.fst =
        (updateOutcome P (w.files f) w.fail w.log.length f cmd).1 ∧
    ((propertiesUpdateDataItem P thing f cmd).run w).2.log =
        (updateOutcome P (w.files f) w.fail w.log.length f cmd).2.reverse ++ w.log := by
  unfold propertiesUpdateDataItem updateOutcome
  rw [storageOpen_guard_run]
  by_cases ho : w.fails (.open f)
  · have ho' : w.fail w.log.length (.open f) = true := ho
    simp [ho, ho']
  have hf := World.fileOf_opened_self (w := w) (f := f)
  have ho' : w.fail w.log.length (.open f) = false := by simpa using ho
  simp only [ho, ho', Bool.false_eq_true, if_false, pure_bind, StateT.run_bind, getDataItemGroups_run_of_fileOf hf]
  by_cases hgr : (w.opened f).fails (.groups f)
  · have hgr' : w.fail (w.log.length + 1) (.groups f) = true := by simpa [World.fails] using hgr
    simp [hgr', ho', World.fails]
  have hgr' : w.fail (w.log.length + 1) (.groups f) = false := by simpa [World.fails] using hgr
  have hm : ((w.files f).groups.filter P.dataItemGroup).find? (equalSensorId (w.files f) · cmd.sensorId) =
      matchedGroup P (w.files f) cmd.sensorId := rfl
  simp only [hgr, hgr', Bool.false_eq_true, if_false, Id.bind_eq, StateT.run_bind, World.attempt_files,
    World.opened_files, propertiesUpdateDataItem.loop_run (w := (w.opened f).attempt (.groups f)) hf, hm]
  cases matchedGroup P (w.files f) cmd.sensorId with
  | none => simp [World.fails, ho', hgr']
  | some g =>
    obtain ⟨h₁, h₂⟩ := @updateDataItemGroup_attempts _ f g cmd ((w.opened f).attempt (.groups f)) hf
    simp [h₁, h₂, World.fails, ho', hgr']

end Outcome

section UpdateOutcome

variable {P : Platform} {s : Store} {fail : Nat → Call → Bool} {n : Nat} {f : String} {cmd : KnotMsgConfig}

theorem updateOutcome_fst_eq_none_iff :
    (updateOutcome P s fail n f cmd).1 = none ↔ fail n (.open f) = false ∧ fail (n + 1) (.groups f) = true := by
  unfold updateOutcome
  by_cases ho : fail n (.open f) = true
  · simp [ho]
  by_cases hg : fail (n + 1) (.groups f) = true
  · simp [ho, hg]
  simp only [ho, hg, Bool.false_eq_true, if_false]
  split <;> simp [hg]

theorem updateOutcome_fst_eq_some_zero_iff :
    (updateOutcome P s fail n f cmd).1 = some 0 ↔
      (∀ c, (c, false) ∉ (updateOutcome P s fail n f cmd).2) ∧
        (matchedGroup P s cmd.sensorId = none ∨ rejectsLimit cmd = false) := by
  unfold updateOutcome
  by_cases ho : fail n (.open f) = true
  · simp [ho, ENOENT]
  by_cases hg : fail (n + 1) (.groups f) = true
  · simp [ho, hg]
  simp only [ho, hg, Bool.false_eq_true, if_false]
  split
  · simp [*]
  · rename_i g hm
    simp only [List.mem_cons, Prod.mk.injEq, Bool.false_eq_true, and_false, false_or, hm, reduceCtorEq,
      Option.some.injEq, ← updateGroupAttempts_snd_eq_false_iff]
    cases (updateGroupAttempts fail (n + 2) f g cmd).2 <;> decide

end UpdateOutcome

theorem propertiesUpdateDataItem_error_contract (P : Platform) (thing : Thing) (f : String) (cmd : KnotMsgConfig)
    (w : World) :
    (((propertiesUpdateDataItem P thing f cmd).run w).1 = none ↔
      w.fails (.open f) = false ∧ (w.opened f).fails (.groups f) = true) ∧
    ((propertiesUpdateDataItem P thing f cmd).run w).2.log =
      (updateOutcome P (w.files f) w.fail w.log.length f cmd).2.reverse ++ w.log ∧
    (((propertiesUpdateDataItem P thing f cmd).run w).1.map Prod.fst = some 0 ↔
      (∀ c, (c, false) ∉ (updateOutcome P (w.files f) w.fail w.log.length f cmd).2) ∧
        (matchedGroup P (w.files f) cmd.sensorId = none ∨ rejectsLimit cmd = false)) := by
  obtain ⟨hfst, hlog⟩ := @propertiesUpdateDataItem_outcome P thing f cmd w
  refine ⟨?_, hlog, hfst ▸ updateOutcome_fst_eq_some_zero_iff⟩
  rw [← Option.map_eq_none', hfst, updateOutcome_fst_eq_none_iff]
  rfl

-- A device file holding the one data-item group `sampleItem "DataItem_0" 0`, where only the call
-- `c` fails.
def sampleWorldFailing (c : Call) : World :=
  { World.reliable fun _ => Store.ofList (sampleItem "DataItem_0" 0) with fail := fun _ c' => decide (c' = c) }

-- `plainCommand` with the time flag set, so that the event block writes TimeSec.
def timedCommand : KnotMsgConfig :=
  { plainCommand KNOT_VALUE_TYPE_INT with
    event := { KnotEvent.zero with eventFlags := { KNOT_EVT_FLAG_NONE with time := true } } }

theorem propertiesUpdateDataItem_skips_writes_after_failure :
    ((propertiesUpdateDataItem Platform.sample Thing.blank "device.conf" timedCommand).run
      (sampleWorldFailing (.groups "device.conf"))).1 = none ∧
    ((propertiesUpdateDataItem Platform.sample Thing.blank "device.conf" timedCommand).run
      (sampleWorldFailing (.write "device.conf" "DataItem_0" SCHEMA_TYPE_ID (.int 0)))).1.map Prod.fst = some (-1) ∧
    ((propertiesUpdateDataItem Platform.sample Thing.blank "device.conf" timedCommand).run
      (sampleWorldFailing (.write "device.conf" "DataItem_0" SCHEMA_TYPE_ID (.int 0)))).2.log.reverse =
      [(.open "device.conf", true), (.groups "device.conf", true),
        (.write "device.conf" "DataItem_0" SCHEMA_TYPE_ID (.int 0), false),
        (.write "device.conf" "DataItem_0" EVENT_TIME_SEC (.int 0), true)] :=
  ⟨rfl, rfl, rfl⟩

end VirtualThing
