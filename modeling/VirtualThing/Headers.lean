import VirtualThing.Storage.World

namespace VirtualThing

-- The value type tags of knot_protocol.h.
def KNOT_VALUE_TYPE_INT : Int := 1
def KNOT_VALUE_TYPE_FLOAT : Int := 2
def KNOT_VALUE_TYPE_BOOL : Int := 3
def KNOT_VALUE_TYPE_RAW : Int := 4
def KNOT_VALUE_TYPE_INT64 : Int := 5
def KNOT_VALUE_TYPE_UINT : Int := 6
def KNOT_VALUE_TYPE_UINT64 : Int := 7

-- `event_flags` is a bit set; the code only sets and tests the five named bits, one at a time.
-- `other` holds the remaining bits a command may carry.
structure EventFlags where
  time : Bool
  lowerThreshold : Bool
  upperThreshold : Bool
  change : Bool
  unregistered : Bool
  other : Nat
  deriving DecidableEq, Repr

def KNOT_EVT_FLAG_NONE : EventFlags :=
  ⟨false, false, false, false, false, 0⟩

-- The union `knot_value_type`, one field per member. The code reads and writes only the member
-- that the value type selects, so the members never alias.
structure KnotValueType where
  valI : Int
  valF : UInt32
  valB : Bool
  valI64 : Int
  valU : Nat
  valU64 : Nat
  deriving DecidableEq, Repr

def KnotValueType.zero : KnotValueType :=
  ⟨0, 0, false, 0, 0, 0⟩

structure KnotSchema where
  valueType : Int
  unit : Int
  typeId : Int
  name : String
  deriving DecidableEq, Repr

structure KnotEvent where
  eventFlags : EventFlags
  timeSec : Int
  lowerLimit : KnotValueType
  upperLimit : KnotValueType
  deriving DecidableEq, Repr

-- An event after `memset(&event, 0, sizeof(knot_event))`.
def KnotEvent.zero : KnotEvent :=
  ⟨KNOT_EVT_FLAG_NONE, 0, .zero, .zero⟩

structure KnotMsgConfig where
  sensorId : Int
  schema : KnotSchema
  event : KnotEvent
  deriving DecidableEq, Repr

/-- Modelled from the spec: `knot_value_assign_limit` of knot_protocol.h copies the
member of `src` that the value type selects into `dst`. -/
def knotValueAssignLimit (valueType : Int) (src dst : KnotValueType) : KnotValueType :=
  if valueType = KNOT_VALUE_TYPE_INT then { dst with valI := src.valI }
  else if valueType = KNOT_VALUE_TYPE_FLOAT then { dst with valF := src.valF }
  else if valueType = KNOT_VALUE_TYPE_BOOL then { dst with valB := src.valB }
  else if valueType = KNOT_VALUE_TYPE_INT64 then { dst with valI64 := src.valI64 }
  else if valueType = KNOT_VALUE_TYPE_UINT then { dst with valU := src.valU }
  else if valueType = KNOT_VALUE_TYPE_UINT64 then { dst with valU64 := src.valU64 }
  else dst

/-- Modelled from the spec: the group and key names of conf-parameters.h.
The keys of the data-item groups are the names the configuration files use. -/
def THING_GROUP : String := "Thing"
def CLOUD_GROUP : String := "Cloud"
def CREDENTIALS_GROUP : String := "Credentials"
def RABBIT_MQ_GROUP : String := "RabbitMQ"
def THING_NAME : String := "Name"
def THING_USER_TOKEN : String := "UserToken"
def THING_MODBUS_SLAVE_ID : String := "ModbusSlaveId"
def THING_MODBUS_URL : String := "ModbusURL"
def RABBIT_URL : String := "RabbitUrl"
def CREDENTIALS_THING_ID : String := "ThingId"
def CREDENTIALS_THING_TOKEN : String := "ThingToken"
def DRIVER_URL : String := "DriverUrl"
def DRIVER_PROTOCOL_TYPE : String := "DriverProtocolType"
def DRIVER_NAME_TYPE : String := "DriverNameType"
def DRIVER_LOGIN : String := "DriverLogin"
def DRIVER_PASSWORD : String := "DriverPassword"
def DRIVER_SECURITY : String := "DriverSecurity"
def DRIVER_ID : String := "DriverId"
def DATA_TYPE_ENDIANNESS : String := "EndiannessType"
def SCHEMA_SENSOR_ID : String := "SensorId"
def SCHEMA_SENSOR_NAME : String := "Name"
def SCHEMA_VALUE_TYPE : String := "ValueType"
def SCHEMA_UNIT : String := "Unit"
def SCHEMA_TYPE_ID : String := "TypeId"
def EVENT_TIME_SEC : String := "TimeSec"
def EVENT_CHANGE : String := "Change"
def EVENT_LOWER_THRESHOLD : String := "LowerThreshold"
def EVENT_UPPER_THRESHOLD : String := "UpperThreshold"
def DATA_NAME_SPACE_INDEX : String := "NameSpaceIndex"
def DATA_IND_TYPE : String := "IdentifierType"
def DATA_IDENTIFIER : String := "Identifier"
def DATA_IP_TAG_NAME : String := "TagName"
def DATA_IP_PATH : String := "Path"
def DATA_IP_ELEMENT_SIZE : String := "ElementSize"
def DATA_REG_ADDRESS : String := "RegisterAddress"
def DATA_VALUE_TYPE_SIZE : String := "ValueTypeSize"
def CONFIG_LOWER_THRESHOLD : String := "LowerThreshold"
def CONFIG_UPPER_THRESHOLD : String := "UpperThreshold"
def CONFIG_TIME_SEC : String := "TimeSec"
def CONFIG_CHANGE : String := "Change"
def MODBUS_REG_ADDRESS : String := "RegisterAddress"
def MODBUS_BIT_OFFSET : String := "BitOffset"

def EVENT_CHANGE_TRUE : Int := 1

-- The keys `update_schema_data_item` and `update_event_data_item` write.
def schemaKeys : List String :=
  [SCHEMA_TYPE_ID, SCHEMA_UNIT, SCHEMA_VALUE_TYPE, SCHEMA_SENSOR_NAME]

def eventKeys : List String :=
  [EVENT_TIME_SEC, EVENT_CHANGE, EVENT_LOWER_THRESHOLD, EVENT_UPPER_THRESHOLD]

-- What the code takes from its headers: the validators of knot_protocol.h (`true` where the C
-- function returns 0), the length and range limits of the protocol and configuration headers,
-- and which groups of the device file `get_data_item_groups` lists.
structure Platform where
  knotSchemaIsValid : Int → Int → Int → Bool
  knotEventIsValid : EventFlags → Int → Int → KnotValueType → KnotValueType → Bool
  KNOT_PROTOCOL_DATA_NAME_LEN : Nat
  KNOT_PROTOCOL_DEVICE_NAME_LEN : Nat
  KNOT_PROTOCOL_TOKEN_LEN : Nat
  DRIVER_MAX_PROTOCOL_TYPE_LEN : Nat
  DRIVER_MAX_NAME_TYPE_LEN : Nat
  DRIVER_MAX_LOGIN_LEN : Nat
  DRIVER_MAX_PASSWORD_LEN : Nat
  DRIVER_MAX_IND_TYPE_LEN : Nat
  DRIVER_MAX_IDENTIFIER_LEN : Nat
  DRIVER_MAX_TYPE_TAG_LEN : Nat
  DRIVER_MAX_TYPE_PATH_LEN : Nat
  DRIVER_MIN_ID : Int
  DRIVER_MAX_ID : Int
  MODBUS_MIN_SLAVE_ID : Int
  MODBUS_MAX_SLAVE_ID : Int
  dataItemGroup : String → Bool

-- `lower < upper` in the member the value type selects; float limits are not compared.
def limitLt (valueType : Int) (lower upper : KnotValueType) : Bool :=
  if valueType = KNOT_VALUE_TYPE_INT then lower.valI < upper.valI
  else if valueType = KNOT_VALUE_TYPE_BOOL then !lower.valB && upper.valB
  else if valueType = KNOT_VALUE_TYPE_INT64 then lower.valI64 < upper.valI64
  else if valueType = KNOT_VALUE_TYPE_UINT then lower.valU < upper.valU
  else if valueType = KNOT_VALUE_TYPE_UINT64 then lower.valU64 < upper.valU64
  else true

-- A platform to run the model on: the event rules of the spec (§4.1), a schema check that
-- accepts the value types of knot_protocol.h, and the `DataItem_` groups of the device file.
def Platform.sample : Platform where
  knotSchemaIsValid _ valueType _ := decide (KNOT_VALUE_TYPE_INT ≤ valueType ∧ valueType ≤ KNOT_VALUE_TYPE_UINT64)
  knotEventIsValid flags valueType timeSec lower upper :=
    !(valueType = KNOT_VALUE_TYPE_RAW && (flags.lowerThreshold || flags.upperThreshold)) &&
      !(flags.time && timeSec ≤ 0) &&
      !(flags.lowerThreshold && flags.upperThreshold && !limitLt valueType lower upper)
  KNOT_PROTOCOL_DATA_NAME_LEN := 64
  KNOT_PROTOCOL_DEVICE_NAME_LEN := 64
  KNOT_PROTOCOL_TOKEN_LEN := 40
  DRIVER_MAX_PROTOCOL_TYPE_LEN := 64
  DRIVER_MAX_NAME_TYPE_LEN := 64
  DRIVER_MAX_LOGIN_LEN := 64
  DRIVER_MAX_PASSWORD_LEN := 64
  DRIVER_MAX_IND_TYPE_LEN := 64
  DRIVER_MAX_IDENTIFIER_LEN := 64
  DRIVER_MAX_TYPE_TAG_LEN := 64
  DRIVER_MAX_TYPE_PATH_LEN := 64
  DRIVER_MIN_ID := 0
  DRIVER_MAX_ID := 255
  MODBUS_MIN_SLAVE_ID := 1
  MODBUS_MAX_SLAVE_ID := 247
  dataItemGroup g := "DataItem_".toList.isPrefixOf g.toList

end VirtualThing
