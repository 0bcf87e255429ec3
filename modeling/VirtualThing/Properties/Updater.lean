import VirtualThing.Properties.DataItem

namespace VirtualThing

def setLimit (fd : Int) (g key : String) (valueType : Int) (value : KnotValueType) : Sto Int :=
  if valueType = KNOT_VALUE_TYPE_INT then storageWriteKeyInt fd g key value.valI
  else if valueType = KNOT_VALUE_TYPE_FLOAT then storageWriteKeyFloat fd g key value.valF
  else if valueType = KNOT_VALUE_TYPE_BOOL then storageWriteKeyBool fd g key value.valB
  else if valueType = KNOT_VALUE_TYPE_INT64 then storageWriteKeyInt64 fd g key value.valI64
  else if valueType = KNOT_VALUE_TYPE_UINT then storageWriteKeyUint fd g key value.valU
  else if valueType = KNOT_VALUE_TYPE_UINT64 then storageWriteKeyUint64 fd g key value.valU64
  else pure (-EINVAL)

-- One of the four blocks of `update_event_data_item`: with its flag set the key is written and a
-- failed write is returned; otherwise the key is removed when `storage_has_unit` does not report
-- it.
def updateEventKey (fd : Int) (g key : String) (flag : Bool) (write : Sto Int) : Sto Int := do
  if flag then
    let rc ← write
    if rc < 0 then return rc
  else if !(← storageHasUnit fd g key) then
    storageRemoveKey fd g key
  return 0

def updateEventDataItem (fd : Int) (g : String) (valueType : Int) (event : KnotEvent) : Sto Int := do
  let rc ← updateEventKey fd g EVENT_TIME_SEC event.eventFlags.time
    (storageWriteKeyInt fd g EVENT_TIME_SEC event.timeSec)
  if rc < 0 then return rc
  let rc ← updateEventKey fd g EVENT_CHANGE event.eventFlags.change
    (storageWriteKeyInt fd g EVENT_CHANGE EVENT_CHANGE_TRUE)
  if rc < 0 then return rc
  let rc ← updateEventKey fd g EVENT_LOWER_THRESHOLD event.eventFlags.lowerThreshold
    (setLimit fd g EVENT_LOWER_THRESHOLD valueType event.lowerLimit)
  if rc < 0 then return rc
  let rc ← updateEventKey fd g EVENT_UPPER_THRESHOLD event.eventFlags.upperThreshold
    (setLimit fd g EVENT_UPPER_THRESHOLD valueType event.upperLimit)
  if rc < 0 then return rc
  return 0

def updateSchemaDataItem (fd : Int) (g : String) (schema : KnotSchema) : Sto Int := do
  let rc ← storageWriteKeyInt fd g SCHEMA_TYPE_ID schema.typeId
  if rc < 0 then return rc
  let rc ← storageWriteKeyInt fd g SCHEMA_UNIT schema.unit
  if rc < 0 then return rc
  let rc ← storageWriteKeyInt fd g SCHEMA_VALUE_TYPE schema.valueType
  if rc < 0 then return rc
  storageWriteKeyString fd g SCHEMA_SENSOR_NAME schema.name

def equalSensorId (s : Store) (g : String) (sensorId : Int) : Bool :=
  match s.readKeyInt g SCHEMA_SENSOR_ID with
  | none => false
  | some sensorIdAux => sensorId = sensorIdAux

-- The body of the loop of `properties_update_data_item` on the group whose sensor id matches; the
-- result is `has_err`.
def updateDataItemGroup (fd : Int) (config : KnotMsgConfig) (g : String) : Sto Bool := do
  let schemaRc ← updateSchemaDataItem fd g config.schema
  let eventRc ← if config.event.eventFlags.unregistered then pure 0
    else updateEventDataItem fd g config.schema.valueType config.event
  return decide (schemaRc < 0) || decide (eventRc < 0)

-- The loop of `properties_update_data_item`: groups whose sensor id differs are skipped, the first
-- that matches is updated and the loop breaks.
def propertiesUpdateDataItem.loop (fd : Int) (config : KnotMsgConfig) : List String → Sto Bool
  | [] => return false
  | g :: gs => do
    if !equalSensorId (← storeOf fd) g config.sensorId then
      propertiesUpdateDataItem.loop fd config gs
    else
      updateDataItemGroup fd config g

-- `none` is the fault of indexing the NULL that `get_data_item_groups` returns when the
-- enumeration fails.
def propertiesUpdateDataItem (P : Platform) (thing : Thing) (filename : String) (config : KnotMsgConfig) :
    Sto (Option (Int × Thing)) := do
  let deviceFd ← storageOpen filename
  if deviceFd < 0 then return some (deviceFd, thing)
  let thing := deviceUpdateConfigDataItem thing config
  let some dataItemGroup ← getDataItemGroups P.dataItemGroup deviceFd | return none
  let hasErr ← propertiesUpdateDataItem.loop deviceFd config dataItemGroup
  storageClose deviceFd
  return some (if hasErr then -1 else 0, thing)

end VirtualThing
