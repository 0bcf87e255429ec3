import VirtualThing.Properties.DataItem

namespace VirtualThing

def EMPTY_STRING : String := ""

/-- Modelled from the spec: `device_clear_thing_id` drops the in-memory thing id. -/
def deviceClearThingId (thing : Thing) : Thing :=
  { thing with id := none }

/-- Modelled from the spec: `device_clear_thing_token` drops the in-memory thing token. -/
def deviceClearThingToken (thing : Thing) : Thing :=
  { thing with token := none }

-- `erase_thing_id` and `erase_thing_token`: the in-memory copy is cleared only after the empty
-- string is written under `key`.
def eraseThingCredential (key : String) (clear : Thing → Thing) (thing : Thing) (credFd : Int) :
    Sto (Int × Thing) := do
  let rc ← storageWriteKeyString credFd CREDENTIALS_GROUP key EMPTY_STRING
  if rc < 0 then return (rc, thing)
  return (rc, clear thing)

def eraseThingId : Thing → Int → Sto (Int × Thing) :=
  eraseThingCredential CREDENTIALS_THING_ID deviceClearThingId

def eraseThingToken : Thing → Int → Sto (Int × Thing) :=
  eraseThingCredential CREDENTIALS_THING_TOKEN deviceClearThingToken

def propertiesClearCredentials (thing : Thing) (filename : String) : Sto (Int × Thing) := do
  let credFd ← storageOpen filename
  if credFd < 0 then return (credFd, thing)
  let (rc, thing) ← eraseThingToken thing credFd
  if rc < 0 then
    storageClose credFd
    return (-EINVAL, thing)
  let (rc, thing) ← eraseThingId thing credFd
  if rc < 0 then
    storageClose credFd
    return (-EINVAL, thing)
  storageClose credFd
  return (rc, thing)

-- The thing argument of the source is not read.
def propertiesStoreCredentials (P : Platform) (filename id token : String) : Sto Int := do
  if P.KNOT_PROTOCOL_TOKEN_LEN < strlen token then return -EINVAL
  let credFd ← storageOpen filename
  if credFd < 0 then return credFd
  let rc ← storageWriteKeyString credFd CREDENTIALS_GROUP CREDENTIALS_THING_TOKEN token
  if rc < 0 then
    storageClose credFd
    return -EINVAL
  let rc ← storageWriteKeyString credFd CREDENTIALS_GROUP CREDENTIALS_THING_ID id
  if rc < 0 then
    let _ ← storageWriteKeyString credFd CREDENTIALS_GROUP CREDENTIALS_THING_TOKEN EMPTY_STRING
    storageClose credFd
    return -EINVAL
  storageClose credFd
  return rc

end VirtualThing
