import LibSensor.Manager.State

/-!
# `SensorManager`: public operations

Every public operation of `SensorManager.cpp`, in the order of the source. Each one but
`getSensorNameByHandle` first runs `assertStateLocked`, under the manager's lock.
-/

namespace LibSensor

namespace SensorManager

/-! ### Sensor lists -/

/-- `*p`, read through the storage the manager holds: `none` when the vector has been given new
storage since `p` was taken (a copy such as `getDefaultDeviceSensorList`'s may still share and
keep the old buffer), or when `p` points past the end. -/
def deref (s : SensorManager) (p : SensorPtr) : Option Sensor :=
  match p.vector with
  | .sensors => if p.storage = s.mSensorsStorage then s.mSensors[p.offset]? else none
  | .dynamicSensors =>
    if p.storage = s.mDynamicSensorsStorage then s.mDynamicSensors[p.offset]? else none

/-- `getSensorList(&list)`: `.error err` for an early return that leaves `*list` alone, else
the count and the pointer stored in `*list`. -/
def getSensorList (pingFlag : Bool) (env : Env) (s : SensorManager) :
    Option (Except Int (Int × Option (List SensorPtr)) × SensorManager) := do
  let (err, s) ← assertStateLocked pingFlag env s
  if err < 0 then return (.error err, s)
  return (.ok (s.mSensors.length, s.mSensorList), s)

/-- `getDefaultDeviceSensorList(list)`: the sensors of the default device. -/
def getDefaultDeviceSensorList (pingFlag : Bool) (env : Env) (s : SensorManager) :
    Option (Except Int (Int × List Sensor) × SensorManager) := do
  let (err, s) ← assertStateLocked pingFlag env s
  if err < 0 then return (.error err, s)
  let list := if s.mDeviceId = deviceIdDefault then s.mSensors
    else env.getSensorList s.mOpPackageName
  return (.ok (list.length, list), s)

/-- The body shared by the operations that copy an answer of the service into the caller's
`Vector<Sensor>`. -/
def sensorVectorFromServer (query : Env → String → List Sensor) (pingFlag : Bool) (env : Env)
    (s : SensorManager) : Option (Except Int (Int × List Sensor) × SensorManager) := do
  let (err, s) ← assertStateLocked pingFlag env s
  if err < 0 then return (.error err, s)
  let list := query env s.mOpPackageName
  return (.ok (list.length, list), s)

/-- `getDynamicSensorList(Vector<Sensor>& dynamicSensors)`. -/
def getDynamicSensorListCopy (pingFlag : Bool) (env : Env) (s : SensorManager) :
    Option (Except Int (Int × List Sensor) × SensorManager) :=
  sensorVectorFromServer (·.getDynamicSensorList) pingFlag env s

/-- `getRuntimeSensorList(deviceId, runtimeSensors)`. -/
def getRuntimeSensorList (deviceId : Int) (pingFlag : Bool) (env : Env) (s : SensorManager) :
    Option (Except Int (Int × List Sensor) × SensorManager) :=
  sensorVectorFromServer (fun e pkg => e.getRuntimeSensorList pkg deviceId) pingFlag env s

/-- `getDynamicSensorList(Sensor const* const** list)`: refetch `mDynamicSensors` and rebuild
`mDynamicSensorList`, which stays null for an empty list. -/
def getDynamicSensorList (pingFlag : Bool) (env : Env) (s : SensorManager) :
    Option (Except Int (Int × Option (List SensorPtr)) × SensorManager) := do
  let (err, s) ← assertStateLocked pingFlag env s
  if err < 0 then return (.error err, s)
  let dynamicSensors := env.getDynamicSensorList s.mOpPackageName
  let s := { s with
    mDynamicSensorList := none
    mDynamicSensors := dynamicSensors
    mDynamicSensorsStorage := s.mDynamicSensorsStorage + 1 }
  if 0 < dynamicSensors.length then
    if env.mallocDynamicSensorList then
      let list := sensorArray .dynamicSensors s.mDynamicSensorsStorage dynamicSensors.length
      let s := { s with mDynamicSensorList := some list }
      return (.ok (dynamicSensors.length, s.mDynamicSensorList), s)
    else return (.error noMemory, s)
  return (.ok (dynamicSensors.length, s.mDynamicSensorList), s)

/-- The loop of `getDefaultSensor` over the indices `is`: read `mSensorList[i]` and the sensor
it points at. `none` is undefined behaviour: a null `mSensorList`, a read past its end, or a
dangling entry. -/
def getDefaultSensorLoop (s : SensorManager) (type : Int) (wakeUpSensor : Bool) :
    List Nat → Option (Option SensorPtr)
  | [] => some none
  | i :: is => do
    let list ← s.mSensorList
    let p ← list[i]?
    let sensor ← s.deref p
    if sensor.type = type ∧ sensor.isWakeUpSensor = wakeUpSensor then return some p
    getDefaultSensorLoop s type wakeUpSensor is

/-- `getDefaultSensor(type)`: the first sensor of the type that is a wake-up sensor exactly
when the type is one of `wakeUpSensorTypes`. -/
def getDefaultSensor (pingFlag : Bool) (env : Env) (type : Int) (s : SensorManager) :
    Option (Option SensorPtr × SensorManager) := do
  let (err, s) ← assertStateLocked pingFlag env s
  if err = noError then
    let sensor ← getDefaultSensorLoop s type (type ∈ wakeUpSensorTypes)
      (List.range s.mSensors.length)
    return (sensor, s)
  return (none, s)

/-! ### Sensor names -/

/-- `findSensorNameInList(handle, sensorList, &name)`: `"type:name"` of the first sensor with
the handle. -/
def findSensorNameInList (handle : Int) (sensorList : List Sensor) : Option String :=
  (sensorList.find? (·.handle == handle)).map fun sensor => sensor.stringType ++ ":" ++ sensor.name

/-- `getSensorNameByHandle(handle)`: the name remembered in `mSensorHandleToName`, or else the
name found in `mSensors` or `mDynamicSensors`, which is then remembered. -/
def getSensorNameByHandle (handle : Int) (s : SensorManager) : Option String × SensorManager :=
  match s.mSensorHandleToName.lookup handle with
  | some name => (some name, s)
  | none =>
    match findSensorNameInList handle s.mSensors <|>
        findSensorNameInList handle s.mDynamicSensors with
    | none => (none, s)
    | some name =>
      (some name, { s with mSensorHandleToName := AList.insert handle name s.mSensorHandleToName })

/-- `getSensorNameByHandle` changes no member but `mSensorHandleToName`. -/
lemma getSensorNameByHandle_snd (handle : Int) (s : SensorManager) :
    (s.getSensorNameByHandle handle).2 =
      { s with mSensorHandleToName := (s.getSensorNameByHandle handle).2.mSensorHandleToName } := by
  unfold getSensorNameByHandle
  split
  · rfl
  · split <;> rfl

/-! ### Queries to the service -/

/-- `createEventQueue(packageName, mode, attributionTag)`: the queue, given by its connection. -/
def createEventQueue (pingFlag : Bool) (env : Env) (packageName : String) (mode : Int)
    (attributionTag : String) (s : SensorManager) : Option (Option Nat × SensorManager) := do
  let (err, s) ← assertStateLocked pingFlag env s
  if err = noError then
    return (env.createSensorEventConnection packageName mode s.mOpPackageName attributionTag, s)
  return (none, s)

/-- The body shared by the yes-or-no questions to the service. -/
def serverFlag (query : Env → Bool) (pingFlag : Bool) (env : Env) (s : SensorManager) :
    Option (Bool × SensorManager) := do
  let (err, s) ← assertStateLocked pingFlag env s
  return (if err = noError then query env else false, s)

/-- `isDataInjectionEnabled()`. -/
def isDataInjectionEnabled (pingFlag : Bool) (env : Env) (s : SensorManager) :
    Option (Bool × SensorManager) :=
  serverFlag (·.isDataInjectionEnabled) pingFlag env s

/-- `isReplayDataInjectionEnabled()`. -/
def isReplayDataInjectionEnabled (pingFlag : Bool) (env : Env) (s : SensorManager) :
    Option (Bool × SensorManager) :=
  serverFlag (·.isReplayDataInjectionEnabled) pingFlag env s

/-- `isHalBypassReplayDataInjectionEnabled()`. -/
def isHalBypassReplayDataInjectionEnabled (pingFlag : Bool) (env : Env) (s : SensorManager) :
    Option (Bool × SensorManager) :=
  serverFlag (·.isHalBypassReplayDataInjectionEnabled) pingFlag env s

/-- `setOperationParameter(handle, type, floats, ints)`; the floats are passed through
untouched and are left out. -/
def setOperationParameter (pingFlag : Bool) (env : Env) (handle type : Int) (ints : List Int)
    (s : SensorManager) : Option (Int × SensorManager) := do
  let (err, s) ← assertStateLocked pingFlag env s
  if err ≠ noError then return (noInit, s)
  return (env.setOperationParameter handle type ints, s)

/-! ### Direct channels -/

/-- `createDirectChannel(deviceId, size, channelType, resourceHandle)`: a new direct
connection, registered under the next value of `mDirectConnectionHandle`. The post-increment
of that `int` at `INT_MAX` overflows, which is undefined behaviour: `none`. -/
def createDirectChannel (pingFlag : Bool) (env : Env) (deviceId : Int) (size : Nat)
    (channelType : Int) (s : SensorManager) : Option (Int × SensorManager) := do
  let (err, s) ← assertStateLocked pingFlag env s
  if err ≠ noError then return (noInit, s)
  if channelType ≠ sensorDirectMemTypeAshmem ∧ channelType ≠ sensorDirectMemTypeGralloc then
    return (badValue, s)
  match env.createSensorDirectConnection s.mOpPackageName deviceId (size % 4294967296)
      channelType with
  | none => return (noMemory, s)
  | some conn =>
    let nativeHandle := s.mDirectConnectionHandle
    if nativeHandle = intMax then none
    else some (nativeHandle, { s with
      mDirectConnectionHandle := nativeHandle + 1
      mDirectConnection := s.mDirectConnection.insert nativeHandle conn })

/-- `createDirectChannel(size, channelType, resourceHandle)`, on `DEFAULT_DEVICE_ID`. -/
def createDirectChannelDefaultDevice (pingFlag : Bool) (env : Env) (size : Nat)
    (channelType : Int) (s : SensorManager) : Option (Int × SensorManager) :=
  createDirectChannel pingFlag env 0 size channelType s

/-- `destroyDirectChannel(channelNativeHandle)`. -/
def destroyDirectChannel (pingFlag : Bool) (env : Env) (channelNativeHandle : Int)
    (s : SensorManager) : Option SensorManager := do
  let (err, s) ← assertStateLocked pingFlag env s
  if err = noError then
    return { s with mDirectConnection := s.mDirectConnection.erase channelNativeHandle }
  return s

/-- `configureDirectChannel(channelNativeHandle, sensorHandle, rateLevel)`. -/
def configureDirectChannel (pingFlag : Bool) (env : Env)
    (channelNativeHandle sensorHandle rateLevel : Int) (s : SensorManager) :
    Option (Int × SensorManager) := do
  let (err, s) ← assertStateLocked pingFlag env s
  if err ≠ noError then return (noInit, s)
  match s.mDirectConnection.lookup channelNativeHandle with
  | none => return (badValue, s)
  | some conn => return (env.configureChannel conn sensorHandle rateLevel, s)

end SensorManager

end LibSensor
