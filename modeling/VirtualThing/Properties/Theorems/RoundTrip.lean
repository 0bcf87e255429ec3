import VirtualThing.Properties.Theorems.UpdateEffect

namespace VirtualThing

-- The value types `set_limit` writes and `get_lower_limit` and `get_upper_limit` read.
def limitType (vt : Int) : Bool :=
  vt = KNOT_VALUE_TYPE_INT || vt = KNOT_VALUE_TYPE_FLOAT || vt = KNOT_VALUE_TYPE_BOOL || vt = KNOT_VALUE_TYPE_INT64 ||
    vt = KNOT_VALUE_TYPE_UINT || vt = KNOT_VALUE_TYPE_UINT64

-- The event keys of the flags that `e` leaves clear.
def clearedKeys (e : KnotEvent) : List String :=
  (if e.eventFlags.time then [] else [EVENT_TIME_SEC]) ++ (if e.eventFlags.change then [] else [EVENT_CHANGE]) ++
    (if e.eventFlags.lowerThreshold then [] else [EVENT_LOWER_THRESHOLD]) ++
    (if e.eventFlags.upperThreshold then [] else [EVENT_UPPER_THRESHOLD])

-- The event `set_event` reads, under value type `vt`, from a group whose event keys are the ones
-- `e` sets: its four flags and, under each, its value in the member the value type selects.
def KnotEvent.readBack (vt : Int) (e : KnotEvent) : KnotEvent where
  eventFlags := ⟨e.eventFlags.time, e.eventFlags.lowerThreshold && limitType vt,
    e.eventFlags.upperThreshold && limitType vt, e.eventFlags.change, false, 0⟩
  timeSec := if e.eventFlags.time then e.timeSec else 0
  lowerLimit :=
    if e.eventFlags.lowerThreshold && limitType vt then knotValueAssignLimit vt e.lowerLimit .zero else .zero
  upperLimit :=
    if e.eventFlags.upperThreshold && limitType vt then knotValueAssignLimit vt e.upperLimit .zero else .zero

theorem limitType_cases (vt : Int) :
    vt = KNOT_VALUE_TYPE_INT ∨ vt = KNOT_VALUE_TYPE_FLOAT ∨ vt = KNOT_VALUE_TYPE_BOOL ∨
      vt = KNOT_VALUE_TYPE_INT64 ∨ vt = KNOT_VALUE_TYPE_UINT ∨ vt = KNOT_VALUE_TYPE_UINT64 ∨
      limitType vt = false := by
  cases h : limitType vt
  · exact .inr <| .inr <| .inr <| .inr <| .inr <| .inr rfl
  · simp only [limitType, Bool.or_eq_true, decide_eq_true_eq, or_assoc] at h
    rcases h with h | h | h | h | h | h <;> simp only [h, true_or, or_true]

variable {s : Store} {g key : String} {vt : Int} {v : KnotValueType} {e : KnotEvent}

theorem knotValueAssignLimit_idem {d : KnotValueType} :
    knotValueAssignLimit vt (knotValueAssignLimit vt v d) d = knotValueAssignLimit vt v d := by
  rcases limitType_cases vt with rfl | rfl | rfl | rfl | rfl | rfl | h <;>
  simp_all [knotValueAssignLimit, limitType, KNOT_VALUE_TYPE_INT, KNOT_VALUE_TYPE_FLOAT, KNOT_VALUE_TYPE_BOOL,
    KNOT_VALUE_TYPE_INT64, KNOT_VALUE_TYPE_UINT, KNOT_VALUE_TYPE_UINT64]

section Limit

theorem getLimit_congr {s' : Store} (h : s'.get g key = s.get g key) : getLimit s' g key vt = getLimit s g key vt := by
  simp only [getLimit, Store.readKeyInt, Store.readKeyFloat, Store.readKeyBool, Store.readKeyInt64, Store.readKeyUint,
    Store.readKeyUint64, h]

theorem getLimit_of_get_eq_none (h : s.get g key = none) : getLimit s g key vt = none := by
  simp [getLimit, Store.readKeyInt, Store.readKeyFloat, Store.readKeyBool, Store.readKeyInt64, Store.readKeyUint,
    Store.readKeyUint64, h]

theorem getLimit_writeLimit_self :
    getLimit (s.writeLimit g key vt v) g key vt =
      if limitType vt then some (knotValueAssignLimit vt v .zero) else none := by
  rcases limitType_cases vt with rfl | rfl | rfl | rfl | rfl | rfl | h <;>
  simp_all [getLimit, Store.writeLimit, knotValueAssignLimit, limitType, Store.readKeyInt, Store.readKeyFloat,
    Store.readKeyBool, Store.readKeyInt64, Store.readKeyUint, Store.readKeyUint64, KNOT_VALUE_TYPE_INT,
    KNOT_VALUE_TYPE_FLOAT, KNOT_VALUE_TYPE_BOOL, KNOT_VALUE_TYPE_INT64, KNOT_VALUE_TYPE_UINT, KNOT_VALUE_TYPE_UINT64]

end Limit

section WriteEvent

theorem get_writeEvent_time : (s.writeEvent g vt e).get g EVENT_TIME_SEC =
    if e.eventFlags.time then some (.int e.timeSec) else s.get g EVENT_TIME_SEC := by
  simp only [Store.writeEvent, Store.get_ite, Store.get_write,
    Store.get_writeLimit_of_ne (show EVENT_TIME_SEC ≠ EVENT_UPPER_THRESHOLD by decide),
    Store.get_writeLimit_of_ne (show EVENT_TIME_SEC ≠ EVENT_LOWER_THRESHOLD by decide),
    show EVENT_TIME_SEC ≠ EVENT_CHANGE by decide, and_true, and_false, if_true, if_false, ite_self]

theorem get_writeEvent_change : (s.writeEvent g vt e).get g EVENT_CHANGE =
    if e.eventFlags.change then some (.int EVENT_CHANGE_TRUE) else s.get g EVENT_CHANGE := by
  simp only [Store.writeEvent, Store.get_ite, Store.get_write,
    Store.get_writeLimit_of_ne (show EVENT_CHANGE ≠ EVENT_UPPER_THRESHOLD by decide),
    Store.get_writeLimit_of_ne (show EVENT_CHANGE ≠ EVENT_LOWER_THRESHOLD by decide),
    show EVENT_CHANGE ≠ EVENT_TIME_SEC by decide, and_true, and_false, if_true, if_false, ite_self]

theorem get_writeEvent_lower : (s.writeEvent g vt e).get g EVENT_LOWER_THRESHOLD =
    (if e.eventFlags.lowerThreshold then s.writeLimit g EVENT_LOWER_THRESHOLD vt e.lowerLimit else s).get g
      EVENT_LOWER_THRESHOLD := by
  simp [Store.writeEvent, Store.writeLimit, Store.get_ite, EVENT_LOWER_THRESHOLD, EVENT_UPPER_THRESHOLD,
    EVENT_TIME_SEC, EVENT_CHANGE]

theorem get_writeEvent_upper : (s.writeEvent g vt e).get g EVENT_UPPER_THRESHOLD =
    (if e.eventFlags.upperThreshold then s.writeLimit g EVENT_UPPER_THRESHOLD vt e.upperLimit else s).get g
      EVENT_UPPER_THRESHOLD := by
  simp [Store.writeEvent, Store.writeLimit, Store.get_ite, EVENT_LOWER_THRESHOLD, EVENT_UPPER_THRESHOLD,
    EVENT_TIME_SEC, EVENT_CHANGE]

variable (hclean : ∀ k ∈ clearedKeys e, s.get g k = none)
include hclean

theorem getLowerLimit_writeEvent : getLowerLimit (s.writeEvent g vt e) g vt =
    if e.eventFlags.lowerThreshold && limitType vt then some (knotValueAssignLimit vt e.lowerLimit .zero)
    else none := by
  rw [getLowerLimit, getLimit_congr get_writeEvent_lower]
  cases hl : e.eventFlags.lowerThreshold
  · exact getLimit_of_get_eq_none (hclean _ (by simp [clearedKeys, hl]))
  · simp [getLimit_writeLimit_self]

theorem getUpperLimit_writeEvent : getUpperLimit (s.writeEvent g vt e) g vt =
    if e.eventFlags.upperThreshold && limitType vt then some (knotValueAssignLimit vt e.upperLimit .zero)
    else none := by
  rw [getUpperLimit, getLimit_congr get_writeEvent_upper]
  cases hu : e.eventFlags.upperThreshold
  · exact getLimit_of_get_eq_none (hclean _ (by simp [clearedKeys, hu]))
  · simp [getLimit_writeLimit_self]

theorem readKeyInt_writeEvent_time :
    (s.writeEvent g vt e).readKeyInt g EVENT_TIME_SEC = if e.eventFlags.time then some e.timeSec else none := by
  cases ht : e.eventFlags.time
  · simp [Store.readKeyInt, get_writeEvent_time, ht, hclean EVENT_TIME_SEC (by simp [clearedKeys, ht])]
  · simp [Store.readKeyInt, get_writeEvent_time, ht]

theorem readKeyInt_writeEvent_change :
    (s.writeEvent g vt e).readKeyInt g EVENT_CHANGE = if e.eventFlags.change then some EVENT_CHANGE_TRUE else none := by
  cases hc : e.eventFlags.change
  · simp [Store.readKeyInt, get_writeEvent_change, hc, hclean EVENT_CHANGE (by simp [clearedKeys, hc])]
  · simp [Store.readKeyInt, get_writeEvent_change, hc]

end WriteEvent

-- `set_event.event_aux` in closed form: each flag says whether its key reads, and each value is
-- what was read.
theorem eventAux_eq : setEvent.eventAux s g vt =
    { eventFlags := ⟨(s.readKeyInt g EVENT_TIME_SEC).isSome, (getLowerLimit s g vt).isSome,
        (getUpperLimit s g vt).isSome, (s.readKeyInt g EVENT_CHANGE).isSome, false, 0⟩,
      timeSec := (s.readKeyInt g EVENT_TIME_SEC).getD 0,
      lowerLimit := ((getLowerLimit s g vt).map (knotValueAssignLimit vt · .zero)).getD .zero,
      upperLimit := ((getUpperLimit s g vt).map (knotValueAssignLimit vt · .zero)).getD .zero } := by
  unfold setEvent.eventAux
  cases getLowerLimit s g vt <;> cases getUpperLimit s g vt <;> cases s.readKeyInt g EVENT_TIME_SEC <;>
    cases s.readKeyInt g EVENT_CHANGE <;> rfl

theorem eventAux_writeEvent (hclean : ∀ k ∈ clearedKeys e, s.get g k = none) :
    setEvent.eventAux (s.writeEvent g vt e) g vt = e.readBack vt := by
  rw [eventAux_eq, getLowerLimit_writeEvent hclean, getUpperLimit_writeEvent hclean, readKeyInt_writeEvent_time hclean,
    readKeyInt_writeEvent_change hclean]
  simp only [KnotEvent.readBack, apply_ite Option.isSome, apply_ite (Option.getD · (0 : Int)),
    apply_ite (fun o : Option KnotValueType => (o.map (knotValueAssignLimit vt · .zero)).getD .zero),
    Option.isSome_some, Option.isSome_none, Option.getD_some, Option.getD_none, Option.map_some', Option.map_none',
    knotValueAssignLimit_idem]
  simp

theorem Store.get_writeSchema_of_not_mem {k : String} {sch : KnotSchema} (hk : k ∉ schemaKeys) :
    (s.writeSchema g sch).get g k = s.get g k := by
  simp only [schemaKeys, List.mem_cons, List.mem_nil_iff, or_false, not_or] at hk
  simp [Store.writeSchema, hk]

theorem mem_eventKeys_of_mem_clearedKeys {k : String} (hk : k ∈ clearedKeys e) : k ∈ eventKeys := by
  simp only [clearedKeys, List.mem_append] at hk
  rcases hk with ((hk | hk) | hk) | hk <;> split at hk <;> simp_all [eventKeys]

section ApplyConfig

variable {P : Platform} {cmd : KnotMsgConfig}

theorem setSchema_applyConfig (hname : cmd.schema.name ≠ "" ∧ strlen cmd.schema.name < P.KNOT_PROTOCOL_DATA_NAME_LEN)
    (hschema : P.knotSchemaIsValid cmd.schema.typeId cmd.schema.valueType cmd.schema.unit) :
    setSchema P (s.applyConfig g cmd) g = some cmd.schema := by
  refine (setSchema_congr fun k hk => ?_).trans (setSchema_writeSchema (s := s) hname hschema)
  unfold Store.applyConfig
  split
  · rfl
  · exact Store.get_writeEvent_of_not_mem (not_mem_eventKeys_of_mem_schemaKeys k hk)

theorem setEvent_applyConfig (hreg : cmd.event.eventFlags.unregistered = false)
    (hclean : ∀ k ∈ clearedKeys cmd.event, s.get g k = none) :
    setEvent P (s.applyConfig g cmd) g cmd.schema =
      let r := cmd.event.readBack cmd.schema.valueType
      if P.knotEventIsValid r.eventFlags cmd.schema.valueType r.timeSec r.lowerLimit r.upperLimit then some r
      else none := by
  have hclean' : ∀ k ∈ clearedKeys cmd.event, (s.writeSchema g cmd.schema).get g k = none :=
    fun k hk => (Store.get_writeSchema_of_not_mem fun hs =>
      not_mem_eventKeys_of_mem_schemaKeys k hs (mem_eventKeys_of_mem_clearedKeys hk)).trans (hclean k hk)
  simp only [Store.applyConfig, hreg, Bool.false_eq_true, if_false, setEvent, eventAux_writeEvent hclean']

end ApplyConfig

theorem propertiesUpdateDataItem_reads_back (P : Platform) (thing : Thing) (f g : String) (cmd : KnotMsgConfig)
    (w : World) (h : ((propertiesUpdateDataItem P thing f cmd).run w).1.map Prod.fst = some 0)
    (hg : matchedGroup P (w.files f) cmd.sensorId = some g)
    (hname : cmd.schema.name ≠ "" ∧ strlen cmd.schema.name < P.KNOT_PROTOCOL_DATA_NAME_LEN)
    (hschema : P.knotSchemaIsValid cmd.schema.typeId cmd.schema.valueType cmd.schema.unit)
    (hreg : cmd.event.eventFlags.unregistered = false)
    (hclean : ∀ k ∈ clearedKeys cmd.event, (w.files f).get g k = none) :
    setSchema P (((propertiesUpdateDataItem P thing f cmd).run w).2.files f) g = some cmd.schema ∧
    setEvent P (((propertiesUpdateDataItem P thing f cmd).run w).2.files f) g cmd.schema =
      let r := cmd.event.readBack cmd.schema.valueType
      if P.knotEventIsValid r.eventFlags cmd.schema.valueType r.timeSec r.lowerLimit r.upperLimit then some r
      else none := by
  rw [propertiesUpdateDataItem_effect h hg, Function.update_same]
  exact ⟨setSchema_applyConfig hname hschema, setEvent_applyConfig hreg hclean⟩

theorem propertiesUpdateDataItem_reads_back_sample :
    ((propertiesUpdateDataItem Platform.sample Thing.blank "device.conf" speedCommand).run
      (World.reliable fun _ => Store.ofList (sampleItem "DataItem_0" 0))).1.map Prod.fst = some 0 ∧
    matchedGroup Platform.sample (Store.ofList (sampleItem "DataItem_0" 0)) 0 = some "DataItem_0" ∧
    ("speed" ≠ "" ∧ strlen "speed" < Platform.sample.KNOT_PROTOCOL_DATA_NAME_LEN) ∧
    Platform.sample.knotSchemaIsValid 0 KNOT_VALUE_TYPE_INT 0 = true ∧
    speedCommand.event.eventFlags.unregistered = false ∧
    (∀ k ∈ clearedKeys speedCommand.event,
      (Store.ofList (sampleItem "DataItem_0" 0)).get "DataItem_0" k = none) ∧
    setSchema Platform.sample (((propertiesUpdateDataItem Platform.sample Thing.blank "device.conf" speedCommand).run
        (World.reliable fun _ => Store.ofList (sampleItem "DataItem_0" 0))).2.files "device.conf") "DataItem_0" =
      some speedCommand.schema ∧
    setEvent Platform.sample (((propertiesUpdateDataItem Platform.sample Thing.blank "device.conf" speedCommand).run
        (World.reliable fun _ => Store.ofList (sampleItem "DataItem_0" 0))).2.files "device.conf") "DataItem_0"
      speedCommand.schema =
      (let r := speedCommand.event.readBack KNOT_VALUE_TYPE_INT
       if Platform.sample.knotEventIsValid r.eventFlags KNOT_VALUE_TYPE_INT r.timeSec r.lowerLimit r.upperLimit then
         some r
       else none) :=
  ⟨rfl, rfl, by decide, rfl, rfl, by decide,
    propertiesUpdateDataItem_reads_back Platform.sample Thing.blank "device.conf" "DataItem_0" speedCommand _ rfl rfl (by decide) rfl rfl (by decide)⟩

end VirtualThing
