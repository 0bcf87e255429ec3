import VirtualThing.Properties.DataItem

-- The older loader of src/device.c. Its thing is a global; here it is passed and returned.
namespace VirtualThing.Device

structure ModbusSlave where
  id : Int
  url : String

structure ModbusSource where
  regAddr : Int
  bitOffset : Int

-- `knot_config` of the older protocol has the fields of `knot_event`.
structure DataItem where
  sensorId : Int
  config : KnotEvent
  schema : KnotSchema
  value : KnotValueType
  modbusSource : ModbusSource

-- `dataItem` is the array `thing.data_item` as C indexes it, so an index outside the allocation
-- is only another address; `accesses` lists, in order, every index the code uses on it.
structure Thing where
  token : String
  id : String
  name : String
  modbusSlave : ModbusSlave
  rabbitmqUrl : String
  dataItem : Int → DataItem
  accesses : List Int

def DataItem.blank : DataItem :=
  ⟨0, .zero, ⟨0, 0, 0, ""⟩, .zero, ⟨0, 0⟩⟩

-- The global `thing` before `device_start`: zeroed, as a static is.
def Thing.blank : Thing :=
  ⟨"", "", "", ⟨0, ""⟩, "", fun _ => .blank, []⟩

structure ConfFiles where
  credentials : String
  device : String
  rabbit : String

namespace Thing

def readItem (thing : Thing) (i : Int) : DataItem × Thing :=
  (thing.dataItem i, { thing with accesses := thing.accesses ++ [i] })

def updateItem (thing : Thing) (i : Int) (f : DataItem → DataItem) : Thing :=
  { thing with dataItem := Function.update thing.dataItem i (f (thing.dataItem i)),
               accesses := thing.accesses ++ [i] }

end Thing

/-- Modelled from the spec: `get_number_of_data_items` is the total declared count, the number of
data-item groups of the file. -/
def getNumberOfDataItems (P : Platform) (fd : Int) : Sto Int := fun w =>
  (((w.store fd).groups.filter P.dataItemGroup).length, w)

def setModbusSlaveProperties (P : Platform) (filename : String) (thing : Thing) : Sto (Int × Thing) := do
  let deviceFd ← storageOpen filename
  if deviceFd < 0 then return (deviceFd, thing)
  let s ← storeOf deviceFd
  let some aux := s.readKeyInt THING_GROUP THING_MODBUS_SLAVE_ID | return (-EINVAL, thing)
  if aux < P.MODBUS_MIN_SLAVE_ID ∨ aux > P.MODBUS_MAX_SLAVE_ID then return (-EINVAL, thing)
  let some url := s.readKeyString THING_GROUP THING_MODBUS_URL | return (-EINVAL, thing)
  if url = "" then return (-EINVAL, thing)
  storageClose deviceFd
  return (0, { thing with modbusSlave := ⟨aux, url⟩ })

def setRabbitMqUrl (filename : String) (thing : Thing) : Sto (Int × Thing) := do
  let rabbitmqFd ← storageOpen filename
  if rabbitmqFd < 0 then return (rabbitmqFd, thing)
  let some url := (← storeOf rabbitmqFd).readKeyString RABBIT_MQ_GROUP RABBIT_URL | return (-EINVAL, thing)
  if url = "" then return (-EINVAL, thing)
  storageClose rabbitmqFd
  return (0, { thing with rabbitmqUrl := url })

def getSensorId (filename g : String) : Sto Int := do
  let deviceFd ← storageOpen filename
  if deviceFd < 0 then return deviceFd
  let some sensorId := (← storeOf deviceFd).readKeyInt g SCHEMA_SENSOR_ID | return -EINVAL
  storageClose deviceFd
  return sensorId

def validSensorId (sensorId nOfDataItems : Int) : Int :=
  if sensorId ≥ nOfDataItems then -EINVAL else 0

-- The checks are those of the newer `set_schema`; here a failed check returns with the handle
-- still open.
def setSchema (P : Platform) (filename g : String) (sensorId : Int) (thing : Thing) : Sto (Int × Thing) := do
  let deviceFd ← storageOpen filename
  if deviceFd < 0 then return (deviceFd, thing)
  let some schema := VirtualThing.setSchema P (← storeOf deviceFd) g | return (-EINVAL, thing)
  storageClose deviceFd
  return (0, thing.updateItem sensorId fun item => { item with schema := schema })

def assignLimit (valueType value : Int) (limit : KnotValueType) : Int × KnotValueType :=
  if valueType = KNOT_VALUE_TYPE_INT then (0, { limit with valI := value })
  else if valueType = KNOT_VALUE_TYPE_FLOAT then (0, limit)
  else if valueType = KNOT_VALUE_TYPE_BOOL then (0, { limit with valB := value ≠ 0 })
  else if valueType = KNOT_VALUE_TYPE_RAW then (0, limit)
  else (-EINVAL, limit)

-- `configAux` is the uninitialised `config_aux`; only its flags are cleared.
def setConfig (filename g : String) (sensorId : Int) (configAux : KnotEvent) (thing : Thing) :
    Sto (Int × Thing) := do
  let deviceFd ← storageOpen filename
  if deviceFd < 0 then return (deviceFd, thing)
  let s ← storeOf deviceFd
  let c := { configAux with eventFlags := KNOT_EVT_FLAG_NONE }
  let (c, thing) := match s.readKeyInt g CONFIG_LOWER_THRESHOLD with
    | some aux =>
      let (item, thing) := thing.readItem sensorId
      ({ c with eventFlags := { c.eventFlags with lowerThreshold := true },
                lowerLimit := (assignLimit item.schema.valueType aux c.lowerLimit).2 }, thing)
    | none => (c, thing)
  let (c, thing) := match s.readKeyInt g CONFIG_UPPER_THRESHOLD with
    | some aux =>
      let (item, thing) := thing.readItem sensorId
      ({ c with eventFlags := { c.eventFlags with upperThreshold := true },
                upperLimit := (assignLimit item.schema.valueType aux c.upperLimit).2 }, thing)
    | none => (c, thing)
  let c := match s.readKeyInt g CONFIG_TIME_SEC with
    | some aux => { c with eventFlags := { c.eventFlags with time := true }, timeSec := aux }
    | none => c
  let c := match s.readKeyInt g CONFIG_CHANGE with
    | some _ => { c with eventFlags := { c.eventFlags with change := true } }
    | none => c
  storageClose deviceFd
  return (0, thing.updateItem sensorId fun item => { item with config := c })

def setModbusSourceProperties (filename g : String) (sensorId : Int) (thing : Thing) :
    Sto (Int × Thing) := do
  let deviceFd ← storageOpen filename
  if deviceFd < 0 then return (deviceFd, thing)
  let s ← storeOf deviceFd
  let some regAddr := s.readKeyInt g MODBUS_REG_ADDRESS | return (-EINVAL, thing)
  let some bitOffset := s.readKeyInt g MODBUS_BIT_OFFSET | return (-EINVAL, thing)
  storageClose deviceFd
  return (0, thing.updateItem sensorId fun item => { item with modbusSource := ⟨regAddr, bitOffset⟩ })

def setDataItems.loop (P : Platform) (configAux : KnotEvent) (filename : String) (nOfDataItems : Int) :
    List String → Thing → Sto (Int × Thing)
  | [], thing => return (0, thing)
  | g :: gs, thing => do
    let sensorId ← getSensorId filename g
    if validSensorId sensorId nOfDataItems < 0 then return (-EINVAL, thing)
    let thing := thing.updateItem sensorId fun item => { item with sensorId := sensorId }
    let (rc, thing) ← setSchema P filename g sensorId thing
    if rc < 0 then return (-EINVAL, thing)
    let (rc, thing) ← setConfig filename g sensorId configAux thing
    if rc < 0 then return (-EINVAL, thing)
    let (rc, thing) ← setModbusSourceProperties filename g sensorId thing
    if rc < 0 then return (-EINVAL, thing)
    setDataItems.loop P configAux filename nOfDataItems gs thing

-- The result of `storage_open` is not checked, `malloc` is taken to succeed (its block keeps the
-- contents `thing.dataItem` had), and `none` is the fault of indexing the NULL list of a failed
-- enumeration.
def setDataItems (P : Platform) (configAux : KnotEvent) (filename : String) (thing : Thing) :
    Sto (Option (Int × Thing)) := do
  let deviceFd ← storageOpen filename
  let nOfDataItems ← getNumberOfDataItems P deviceFd
  let dataItemGroup ← getDataItemGroups P.dataItemGroup deviceFd
  storageClose deviceFd
  let some dataItemGroup := dataItemGroup | return none
  some <$> setDataItems.loop P configAux filename nOfDataItems dataItemGroup thing

def setThingName (P : Platform) (filename : String) (thing : Thing) : Sto (Int × Thing) := do
  let deviceFd ← storageOpen filename
  if deviceFd < 0 then return (deviceFd, thing)
  let some name := (← storeOf deviceFd).readKeyString THING_GROUP THING_NAME | return (-EINVAL, thing)
  if name = "" ∨ P.KNOT_PROTOCOL_DEVICE_NAME_LEN ≤ strlen name then return (-EINVAL, thing)
  storageClose deviceFd
  return (0, { thing with name := name })

-- Only `-EINVAL` stops the load; a failed open of one file lets the next step run.
def deviceSetProperties (P : Platform) (configAux : KnotEvent) (conf : ConfFiles) (thing : Thing) :
    Sto (Option (Int × Thing)) := do
  let (rc, thing) ← setThingName P conf.device thing
  if rc = -EINVAL then return some (rc, thing)
  let (rc, thing) ← setRabbitMqUrl conf.rabbit thing
  if rc = -EINVAL then return some (rc, thing)
  let (rc, thing) ← setModbusSlaveProperties P conf.device thing
  if rc = -EINVAL then return some (rc, thing)
  let some (rc, thing) ← setDataItems P configAux conf.device thing | return none
  if rc = -EINVAL then return some (rc, thing)
  return some (0, thing)

-- `conf` holds the file names that device.c takes from its configuration macros.
def deviceStart (P : Platform) (configAux : KnotEvent) (conf : ConfFiles) (thing : Thing) :
    Sto (Option (Int × Thing)) := do
  let some (rc, thing) ← deviceSetProperties P configAux conf thing | return none
  return some (if rc ≠ 0 then -EINVAL else 0, thing)

end VirtualThing.Device
