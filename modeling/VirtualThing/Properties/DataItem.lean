import VirtualThing.Headers

namespace VirtualThing

-- The addressing fields `set_data_properties` fills in a `struct knot_data_item`.
structure DataProps where
  nameSpace : Int
  identifierType : String
  identifier : String
  tagName : String
  path : String
  elementSize : Int
  regAddr : Int
  valueTypeSize : Int
  deriving DecidableEq, Repr

structure DataItem where
  sensorId : Int
  schema : KnotSchema
  event : KnotEvent
  props : DataProps
  deriving DecidableEq, Repr

-- The Thing Model the `device_*` accessors of device.h read and write. The
-- plain setters (`device_set_thing_name`, `device_set_driver_id`, ...) store their argument in the
-- field of the same name; the data-item registry is an association list keyed by sensor id.
structure Thing where
  name : String
  driverUrl : String
  protocolType : String
  driverNameType : String
  driverLogin : String
  driverPassword : String
  driverSecurity : String
  driverId : Int
  endiannessType : Int
  dataItems : List (Int × DataItem)
  numberSensor : Int
  rabbitmqUrl : String
  userToken : String
  id : Option String
  token : Option String
  deriving DecidableEq, Repr

-- A thing with every field zeroed, as a fresh allocation would have it.
def Thing.blank : Thing :=
  ⟨"", "", "", "", "", "", "", 0, 0, [], 0, "", "", none, none⟩

/-- Modelled from the spec: `device_data_item_lookup` finds the item registered under a sensor
id. -/
def deviceDataItemLookup (thing : Thing) (sensorId : Int) : Option DataItem :=
  thing.dataItems.lookup sensorId

/-- Modelled from the spec: `device_set_new_data_item` registers an item under its sensor id. -/
def deviceSetNewDataItem (thing : Thing) (sensorId : Int) (schema : KnotSchema) (event : KnotEvent)
    (props : DataProps) : Thing :=
  { thing with dataItems := (sensorId, ⟨sensorId, schema, event, props⟩) :: thing.dataItems }

/-- Modelled from the spec: `device_update_config_data_item` replaces the schema of the item the
command addresses and, unless the command is flagged unregistered, its event. -/
def deviceUpdateConfigDataItem (thing : Thing) (config : KnotMsgConfig) : Thing :=
  { thing with dataItems := thing.dataItems.map fun (id, item) =>
      if id = config.sensorId then
        (id, { item with schema := config.schema,
                         event := if config.event.eventFlags.unregistered then item.event
                                  else config.event })
      else (id, item) }

-- The stack contents `set_data_properties` starts from: the four ints are read with
-- `storage_read_key_int` without checking its result, and the fields of `data_item_aux` that an
-- absent optional key leaves unset are copied out as they are.
structure DataPropsLocals where
  namespaceAux : Int
  elementSizeAux : Int
  regAddrAux : Int
  bitSizeAux : Int
  dataItemAux : DataProps

def DataPropsLocals.zero : DataPropsLocals :=
  ⟨0, 0, 0, 0, ⟨0, "", "", "", "", 0, 0, 0⟩⟩

-- The switch of `valid_bit_size`: the value types a bit size allows, as a mask.
def validValueTypeMask (bitSize : Int) : Option Nat :=
  if bitSize = 1 then some (1 <<< KNOT_VALUE_TYPE_BOOL.toNat)
  else if bitSize = 8 then some (1 <<< KNOT_VALUE_TYPE_BOOL.toNat ||| 1 <<< KNOT_VALUE_TYPE_INT.toNat |||
    1 <<< KNOT_VALUE_TYPE_UINT.toNat)
  else if bitSize = 16 then some (1 <<< KNOT_VALUE_TYPE_INT.toNat ||| 1 <<< KNOT_VALUE_TYPE_UINT.toNat)
  else if bitSize = 32 then some (1 <<< KNOT_VALUE_TYPE_INT.toNat ||| 1 <<< KNOT_VALUE_TYPE_UINT.toNat |||
    1 <<< KNOT_VALUE_TYPE_FLOAT.toNat)
  else if bitSize = 64 then some (1 <<< KNOT_VALUE_TYPE_INT64.toNat ||| 1 <<< KNOT_VALUE_TYPE_UINT64.toNat |||
    1 <<< KNOT_VALUE_TYPE_FLOAT.toNat)
  else none

-- The shift is taken on naturals: C leaves `1 << value_type` undefined for a negative or too large
-- value type, and no value type tag is 0.
def validBitSize (bitSize valueType : Int) : Int :=
  match validValueTypeMask bitSize with
  | none => -EINVAL
  | some validMask => if 1 <<< valueType.toNat &&& validMask = 0 then -EINVAL else 0

-- An optional string key of a driver or data-item group: an absent key leaves `old`, a present
-- one must be shorter than `max`.
def optionalString (v : Option String) (max : Nat) (old : String) : Option String :=
  match v with
  | none => some old
  | some x => if max ≤ strlen x then none else some x

-- `none` is the `-EINVAL` return; the C function then leaves `*data_item` alone.
def setDataProperties (P : Platform) (u : DataPropsLocals) (s : Store) (g : String)
    (schema : KnotSchema) : Option DataProps := do
  let namespaceAux := (s.readKeyInt g DATA_NAME_SPACE_INDEX).getD u.namespaceAux
  if namespaceAux < 0 then none else
  let identifierType ← optionalString (s.readKeyString g DATA_IND_TYPE) P.DRIVER_MAX_IND_TYPE_LEN
    u.dataItemAux.identifierType
  let identifier ← optionalString (s.readKeyString g DATA_IDENTIFIER) P.DRIVER_MAX_IDENTIFIER_LEN
    u.dataItemAux.identifier
  let tagName ← optionalString (s.readKeyString g DATA_IP_TAG_NAME) P.DRIVER_MAX_TYPE_TAG_LEN
    u.dataItemAux.tagName
  let path ← optionalString (s.readKeyString g DATA_IP_PATH) P.DRIVER_MAX_TYPE_PATH_LEN u.dataItemAux.path
  let elementSizeAux := (s.readKeyInt g DATA_IP_ELEMENT_SIZE).getD u.elementSizeAux
  if elementSizeAux < 0 then none else
  let regAddrAux := (s.readKeyInt g DATA_REG_ADDRESS).getD u.regAddrAux
  if regAddrAux < 0 then none else
  let bitSizeAux := (s.readKeyInt g DATA_VALUE_TYPE_SIZE).getD u.bitSizeAux
  if bitSizeAux < 0 then none else
  if validBitSize bitSizeAux schema.valueType < 0 then none else
  some ⟨namespaceAux, identifierType, identifier, tagName, path, elementSizeAux, regAddrAux, bitSizeAux⟩

-- `get_lower_limit` and `get_upper_limit` differ only in the key they read; `none` is a return
-- code `<= 0`. The members other than the selected one are never read.
def getLimit (s : Store) (g key : String) (valueType : Int) : Option KnotValueType :=
  if valueType = KNOT_VALUE_TYPE_INT then (s.readKeyInt g key).map fun v => { KnotValueType.zero with valI := v }
  else if valueType = KNOT_VALUE_TYPE_FLOAT then
    (s.readKeyFloat g key).map fun v => { KnotValueType.zero with valF := v }
  else if valueType = KNOT_VALUE_TYPE_BOOL then (s.readKeyBool g key).map fun v => { KnotValueType.zero with valB := v }
  else if valueType = KNOT_VALUE_TYPE_INT64 then
    (s.readKeyInt64 g key).map fun v => { KnotValueType.zero with valI64 := v }
  else if valueType = KNOT_VALUE_TYPE_UINT then (s.readKeyUint g key).map fun v => { KnotValueType.zero with valU := v }
  else if valueType = KNOT_VALUE_TYPE_UINT64 then
    (s.readKeyUint64 g key).map fun v => { KnotValueType.zero with valU64 := v }
  else none

def getLowerLimit (s : Store) (g : String) (valueType : Int) : Option KnotValueType :=
  getLimit s g EVENT_LOWER_THRESHOLD valueType

def getUpperLimit (s : Store) (g : String) (valueType : Int) : Option KnotValueType :=
  getLimit s g EVENT_UPPER_THRESHOLD valueType

def setEvent (P : Platform) (s : Store) (g : String) (schema : KnotSchema) : Option KnotEvent :=
  let eventAux := setEvent.eventAux s g schema.valueType
  if P.knotEventIsValid eventAux.eventFlags schema.valueType eventAux.timeSec eventAux.lowerLimit
    eventAux.upperLimit then some eventAux
  else none
where
  -- `event_aux` as the reads of `set_event` fill it in.
  eventAux (s : Store) (g : String) (valueTypeAux : Int) : KnotEvent :=
    let e := KnotEvent.zero
    let e := match getLowerLimit s g valueTypeAux with
      | some tmp => { e with eventFlags := { e.eventFlags with lowerThreshold := true },
                             lowerLimit := knotValueAssignLimit valueTypeAux tmp e.lowerLimit }
      | none => e
    let e := match getUpperLimit s g valueTypeAux with
      | some tmp => { e with eventFlags := { e.eventFlags with upperThreshold := true },
                             upperLimit := knotValueAssignLimit valueTypeAux tmp e.upperLimit }
      | none => e
    let e := match s.readKeyInt g EVENT_TIME_SEC with
      | some aux => { e with eventFlags := { e.eventFlags with time := true }, timeSec := aux }
      | none => e
    match s.readKeyInt g EVENT_CHANGE with
    | some _ => { e with eventFlags := { e.eventFlags with change := true } }
    | none => e

def setSchema (P : Platform) (s : Store) (g : String) : Option KnotSchema := do
  let name ← s.readKeyString g SCHEMA_SENSOR_NAME
  if name = "" ∨ P.KNOT_PROTOCOL_DATA_NAME_LEN ≤ strlen name then none else
  let valueType ← s.readKeyInt g SCHEMA_VALUE_TYPE
  let unit ← s.readKeyInt g SCHEMA_UNIT
  let typeId ← s.readKeyInt g SCHEMA_TYPE_ID
  if P.knotSchemaIsValid typeId valueType unit then some ⟨valueType, unit, typeId, name⟩ else none

def setSensorId (thing : Thing) (s : Store) (g : String) : Option Int := do
  let sensorIdAux ← s.readKeyInt g SCHEMA_SENSOR_ID
  if (deviceDataItemLookup thing sensorIdAux).isSome then none else some sensorIdAux

end VirtualThing
