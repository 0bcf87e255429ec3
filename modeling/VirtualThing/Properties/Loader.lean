import VirtualThing.Properties.DataItem

namespace VirtualThing

-- The stack contents the device load starts from: those of `set_data_properties` for each group,
-- and `id` and `endianness_type_aux` of `set_driver_properties`, which are read without checking
-- the result of `storage_read_key_int`.
structure Uninit where
  dataProps : String → DataPropsLocals
  id : Int
  endiannessTypeAux : Int

structure DeviceSettings where
  devicePath : String
  cloudPath : String
  credentialsPath : String

def setThingName (P : Platform) (thing : Thing) (s : Store) : Int × Thing :=
  match s.readKeyString THING_GROUP THING_NAME with
  | none => (-EINVAL, thing)
  | some name =>
    if name = "" ∨ P.KNOT_PROTOCOL_DEVICE_NAME_LEN ≤ strlen name then (-EINVAL, thing)
    else (0, { thing with name := name })

-- `set_driver_url`, `set_rabbit_mq_url` and `set_thing_user_token`: a required non-empty string,
-- stored by `set`.
def setNonEmptyString (group key : String) (set : Thing → String → Thing) (thing : Thing) (s : Store) :
    Int × Thing :=
  match s.readKeyString group key with
  | none => (-EINVAL, thing)
  | some v => if v = "" then (-EINVAL, thing) else (0, set thing v)

def setDriverUrl : Thing → Store → Int × Thing :=
  setNonEmptyString THING_GROUP DRIVER_URL fun thing v => { thing with driverUrl := v }

def setRabbitMqUrl : Thing → Store → Int × Thing :=
  setNonEmptyString CLOUD_GROUP RABBIT_URL fun thing v => { thing with rabbitmqUrl := v }

def setThingUserToken : Thing → Store → Int × Thing :=
  setNonEmptyString CLOUD_GROUP THING_USER_TOKEN fun thing v => { thing with userToken := v }

-- Each field is stored as soon as it is checked, so a later failure leaves the earlier ones set.
-- The source bounds the security string by `DRIVER_MAX_PASSWORD_LEN`.
def setDriverProperties (P : Platform) (u : Uninit) (thing : Thing) (s : Store) : Int × Thing :=
  match s.readKeyString THING_GROUP DRIVER_PROTOCOL_TYPE with
  | none => (-EINVAL, thing)
  | some protocol =>
  if protocol = "" ∨ P.DRIVER_MAX_PROTOCOL_TYPE_LEN ≤ strlen protocol then (-EINVAL, thing) else
  let thing := { thing with protocolType := protocol }
  match optionalString (s.readKeyString THING_GROUP DRIVER_NAME_TYPE) P.DRIVER_MAX_NAME_TYPE_LEN
    thing.driverNameType with
  | none => (-EINVAL, thing)
  | some nameType =>
  let thing := { thing with driverNameType := nameType }
  match optionalString (s.readKeyString THING_GROUP DRIVER_LOGIN) P.DRIVER_MAX_LOGIN_LEN
    thing.driverLogin with
  | none => (-EINVAL, thing)
  | some login =>
  let thing := { thing with driverLogin := login }
  match optionalString (s.readKeyString THING_GROUP DRIVER_PASSWORD) P.DRIVER_MAX_PASSWORD_LEN
    thing.driverPassword with
  | none => (-EINVAL, thing)
  | some password =>
  let thing := { thing with driverPassword := password }
  match optionalString (s.readKeyString THING_GROUP DRIVER_SECURITY) P.DRIVER_MAX_PASSWORD_LEN
    thing.driverSecurity with
  | none => (-EINVAL, thing)
  | some security =>
  let thing := { thing with driverSecurity := security }
  let id := (s.readKeyInt THING_GROUP DRIVER_ID).getD u.id
  if id < P.DRIVER_MIN_ID ∨ id > P.DRIVER_MAX_ID then (-EINVAL, thing) else
  let thing := { thing with driverId := id }
  let endiannessTypeAux := (s.readKeyInt THING_GROUP DATA_TYPE_ENDIANNESS).getD u.endiannessTypeAux
  if endiannessTypeAux < 0 then (-EINVAL, thing) else
  (0, { thing with endiannessType := endiannessTypeAux })

-- One pass of the loop of `set_data_items` up to `device_set_new_data_item`: the sensor id,
-- schema, event and addressing of group `g`, or `none` where the loop jumps to `error`.
def readDataItem (P : Platform) (u : String → DataPropsLocals) (s : Store) (thing : Thing) (g : String) :
    Option (Int × KnotSchema × KnotEvent × DataProps) := do
  let sensorId ← setSensorId thing s g
  let schema ← setSchema P s g
  let event ← setEvent P s g schema
  let props ← setDataProperties P (u g) s g schema
  pure (sensorId, schema, event, props)

-- The loop of `set_data_items` from iteration `i` on; the result is the return code and the thing
-- as the loop leaves it, the items of the earlier iterations registered.
def setDataItems.loop (P : Platform) (u : String → DataPropsLocals) (s : Store) :
    List String → Nat → Thing → Int × Thing
  | [], i, thing => (0, { thing with numberSensor := i })
  | g :: gs, i, thing =>
    match readDataItem P u s thing g with
    | none => (-EINVAL, thing)
    | some (sensorId, schema, event, props) =>
      setDataItems.loop P u s gs (i + 1) (deviceSetNewDataItem thing sensorId schema event props)

def setDataItems (P : Platform) (u : String → DataPropsLocals) (thing : Thing) (fd : Int) :
    Sto (Int × Thing) := do
  let some dataItemGroup ← getDataItemGroups P.dataItemGroup fd | return (-EINVAL, thing)
  return setDataItems.loop P u (← storeOf fd) dataItemGroup 0 thing

def setThingProperties (P : Platform) (u : Uninit) (thing : Thing) (filename : String) :
    Sto (Int × Thing) := do
  let deviceFd ← storageOpen filename
  if deviceFd < 0 then return (deviceFd, thing)
  let s ← storeOf deviceFd
  let (rc, thing) := setThingName P thing s
  if rc < 0 then
    storageClose deviceFd
    return (rc, thing)
  let (rc, thing) := setDriverUrl thing s
  if rc < 0 then
    storageClose deviceFd
    return (rc, thing)
  let (rc, thing) := setDriverProperties P u thing s
  if rc < 0 then
    storageClose deviceFd
    return (rc, thing)
  let (rc, thing) ← setDataItems P u.dataProps thing deviceFd
  if rc < 0 then
    storageClose deviceFd
    return (rc, thing)
  storageClose deviceFd
  return (rc, thing)

def setCloudProperties (thing : Thing) (filename : String) : Sto (Int × Thing) := do
  let cloudFd ← storageOpen filename
  if cloudFd < 0 then return (cloudFd, thing)
  let s ← storeOf cloudFd
  let (rc, thing) := setRabbitMqUrl thing s
  if rc < 0 then
    storageClose cloudFd
    return (rc, thing)
  let (rc, thing) := setThingUserToken thing s
  if rc < 0 then
    storageClose cloudFd
    return (rc, thing)
  storageClose cloudFd
  return (rc, thing)

-- `device_set_thing_credentials` stores both strings as read, NULL included.
def setThingCredentials (thing : Thing) (filename : String) : Sto (Int × Thing) := do
  let credFd ← storageOpen filename
  if credFd < 0 then return (credFd, thing)
  let s ← storeOf credFd
  let thing := { thing with id := s.readKeyString CREDENTIALS_GROUP CREDENTIALS_THING_ID,
                            token := s.readKeyString CREDENTIALS_GROUP CREDENTIALS_THING_TOKEN }
  storageClose credFd
  return (0, thing)

def propertiesCreateDevice (P : Platform) (u : Uninit) (thing : Thing) (settings : DeviceSettings) :
    Sto (Int × Thing) := do
  let (rc, thing) ← setThingProperties P u thing settings.devicePath
  if rc < 0 then return (rc, thing)
  let (rc, thing) ← setCloudProperties thing settings.cloudPath
  if rc < 0 then return (rc, thing)
  let (rc, thing) ← setThingCredentials thing settings.credentialsPath
  if rc < 0 then return (rc, thing)
  return (0, thing)

end VirtualThing
