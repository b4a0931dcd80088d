import LibSensor.Basic

/-!
# `SensorManager`: members and the connection to the service

An instance of `SensorManager` is the record of the members its operations read and write.
Each operation takes the compile-time flag `SENSORMANAGER_PING_BINDER` (`pingFlag`), what the
sensor service and the C library answer during the call (`Env`), and the record; it gives back
its result and the new record, or `none` when the process does not go on: a
`LOG_ALWAYS_FATAL_IF` fired, or the operation made an access whose behaviour C++ leaves
undefined. The `Mutex::Autolock` of each operation makes it one step of the state machine.
-/

namespace LibSensor

/-- `DEVICE_ID_DEFAULT`. -/
def deviceIdDefault : Int := 0

/-- The members of a `SensorManager`. Binder proxies (`sp<ISensorServer>`,
`sp<ISensorEventConnection>`) are numbered, and `none` is a null `sp` or pointer. The storage
counters say which storage of `mSensors` and `mDynamicSensors` is the current one. -/
structure SensorManager where
  mSensorServer : Option Nat
  mSensors : List Sensor
  mSensorsStorage : Nat
  mSensorList : Option (List SensorPtr)
  mDynamicSensors : List Sensor
  mDynamicSensorsStorage : Nat
  mDynamicSensorList : Option (List SensorPtr)
  mOpPackageName : String
  mDeviceId : Int
  mDirectConnectionHandle : Int
  mDirectConnection : StdMap Int Nat
  mSensorHandleToName : StdMap Int String

/-- One answer of `getService(name, &s)`: its status and what it leaves in `s`. -/
structure GetServiceAnswer where
  status : Int
  service : Option Nat

/-- What the world answers during one operation: the service manager, the sensor service
(through whatever proxy the manager holds), and `malloc`. `operator new` and the allocations of
`std::map` are taken to succeed. -/
structure Env where
  /-- `getService` at each attempt of `waitForSensorService`. -/
  getService : Nat → GetServiceAnswer
  pingBinder : Int
  getSensorList : String → List Sensor
  getRuntimeSensorList : String → Int → List Sensor
  getDynamicSensorList : String → List Sensor
  /-- Whether `malloc` gives `mSensorList` a block. -/
  mallocSensorList : Bool
  /-- Whether `malloc` gives `mDynamicSensorList` a block. -/
  mallocDynamicSensorList : Bool
  createSensorEventConnection : String → Int → String → String → Option Nat
  /-- `createSensorDirectConnection(opPackageName, deviceId, size, channelType, ...)`. -/
  createSensorDirectConnection : String → Int → Nat → Int → Option Nat
  /-- `configureChannel(sensorHandle, rateLevel)` on a direct connection. -/
  configureChannel : Nat → Int → Int → Int
  isDataInjectionEnabled : Bool
  isReplayDataInjectionEnabled : Bool
  isHalBypassReplayDataInjectionEnabled : Bool
  setOperationParameter : Int → Int → List Int → Int

/-- A world in which the service is registered as `server` and answers every call: every
sensor list is `sensors`, there are no dynamic sensors, `malloc` succeeds, and each connection
asked for is connection `0`. -/
def Env.healthy (server : Nat) (sensors : List Sensor) : Env where
  getService := fun _ => ⟨noError, some server⟩
  pingBinder := noError
  getSensorList := fun _ => sensors
  getRuntimeSensorList := fun _ _ => sensors
  getDynamicSensorList := fun _ => []
  mallocSensorList := true
  mallocDynamicSensorList := true
  createSensorEventConnection := fun _ _ _ _ => some 0
  createSensorDirectConnection := fun _ _ _ _ => some 0
  configureChannel := fun _ _ _ => noError
  isDataInjectionEnabled := false
  isReplayDataInjectionEnabled := false
  isHalBypassReplayDataInjectionEnabled := false
  setOperationParameter := fun _ _ _ => noError

namespace SensorManager

/-! ### Service connection -/

/-- The loop of `waitForSensorService` from attempt `i`, with `n` attempts left. `server` is
what `*server` holds; only an attempt that succeeds overwrites it. -/
def waitForSensorServiceLoop (getService : Nat → GetServiceAnswer) (server : Option Nat) :
    Nat → Nat → Int × Option Nat
  | 0, _ => (timedOut, server)
  | n + 1, i =>
    if (getService i).status = nameNotFound then
      waitForSensorServiceLoop getService server n (i + 1)
    else if (getService i).status = noError then (noError, (getService i).service)
    else ((getService i).status, server)

/-- `waitForSensorService(&server)`: up to 60 attempts of `getService`, each retried while the
service is not yet registered. The status and the new `*server`. -/
def waitForSensorService (getService : Nat → GetServiceAnswer) (server : Option Nat) :
    Int × Option Nat :=
  waitForSensorServiceLoop getService server 60 0

/-- The loop ends in one of two ways: an attempt succeeds, and `*server` receives the proxy
it gave, or the status is an error and `*server` keeps its value. -/
lemma waitForSensorServiceLoop_spec {getService : Nat → GetServiceAnswer} {server : Option Nat}
    {n i : Nat} {st : Int} {srv : Option Nat}
    (h : waitForSensorServiceLoop getService server n i = (st, srv)) :
    (st = noError ∧ ∃ j, i ≤ j ∧ j < i + n ∧ (getService j).status = noError ∧
      srv = (getService j).service) ∨ (st ≠ noError ∧ srv = server) := by
  induction n generalizing i with
  | zero =>
    simp only [waitForSensorServiceLoop, Prod.mk.injEq] at h
    exact .inr ⟨by rw [← h.1]; decide, h.2.symm⟩
  | succ n ih =>
    simp only [waitForSensorServiceLoop] at h
    split_ifs at h with h₁ h₂
    · rcases ih h with ⟨hst, j, hj₁, hj₂, hj⟩ | hr
      · exact .inl ⟨hst, j, by omega, by omega, hj⟩
      · exact .inr hr
    · cases h
      exact .inl ⟨rfl, i, le_rfl, by omega, h₂, rfl⟩
    · cases h
      exact .inr ⟨h₂, rfl⟩

/-- `waitForSensorService` either gets a proxy from one of its 60 attempts, with `NO_ERROR`, or
fails and leaves `*server` alone. -/
lemma waitForSensorService_spec {getService : Nat → GetServiceAnswer} {server : Option Nat}
    {st : Int} {srv : Option Nat} (h : waitForSensorService getService server = (st, srv)) :
    (st = noError ∧ ∃ j < 60, (getService j).status = noError ∧ srv = (getService j).service) ∨
      (st ≠ noError ∧ srv = server) := by
  rcases waitForSensorServiceLoop_spec h with ⟨hst, j, -, hj, hj'⟩ | hr
  · exact .inl ⟨hst, j, by omega, hj'⟩
  · exact .inr hr

/-- The loop from attempt `i` is decided by the first attempt of `i, …, i + n - 1` that does
not answer `NAME_NOT_FOUND`. -/
lemma waitForSensorServiceLoop_eq_find {getService : Nat → GetServiceAnswer}
    {server : Option Nat} (n i : Nat) :
    waitForSensorServiceLoop getService server n i =
      match (List.range' i n).find? (fun j => (getService j).status != nameNotFound) with
      | none => (timedOut, server)
      | some j => if (getService j).status = noError then (noError, (getService j).service)
          else ((getService j).status, server) := by
  induction n generalizing i with
  | zero => rfl
  | succ n ih =>
    rw [waitForSensorServiceLoop, List.range'_succ, List.find?_cons]
    by_cases h : (getService i).status = nameNotFound
    · simp [h, ih]
    · simp only [bne_iff_ne.mpr h, if_neg h]

/-- `waitForSensorService` is decided by the first of its 60 attempts whose status is not
`NAME_NOT_FOUND`: `NO_ERROR` stores the proxy that attempt gave, any other status is returned
with `*server` left alone, and when all 60 attempts answer `NAME_NOT_FOUND` the wait returns
`TIMED_OUT` with `*server` left alone. -/
theorem waitForSensorService_eq_find (getService : Nat → GetServiceAnswer) (server : Option Nat) :
    waitForSensorService getService server =
      match (List.range 60).find? (fun j => (getService j).status != nameNotFound) with
      | none => (timedOut, server)
      | some j => if (getService j).status = noError then (noError, (getService j).service)
          else ((getService j).status, server) := by
  rw [List.range_eq_range']
  exact waitForSensorServiceLoop_eq_find 60 0

/-- Whether `assertStateLocked` (re)initialises: the server is null or, unless
`SENSORMANAGER_PING_BINDER` compiles the ping out, does not answer `pingBinder`. -/
def initSensorManager (pingFlag : Bool) (env : Env) (s : SensorManager) : Bool :=
  match s.mSensorServer with
  | none => true
  | some _ => !pingFlag && env.pingBinder != noError

/-- The sensors that `assertStateLocked` fetches: those of the default device, or the runtime
sensors of the manager's virtual device. -/
def fetchedSensors (env : Env) (s : SensorManager) : List Sensor :=
  if s.mDeviceId = deviceIdDefault then env.getSensorList s.mOpPackageName
  else env.getRuntimeSensorList s.mOpPackageName s.mDeviceId

/-- The members once `assertStateLocked` holds `server`, has refetched `mSensors` into new
storage and has pointed the entries of a new `mSensorList` at them. -/
@[simps] def initialised (env : Env) (s : SensorManager) (server : Nat) : SensorManager :=
  { s with
    mSensorServer := some server
    mSensors := fetchedSensors env s
    mSensorsStorage := s.mSensorsStorage + 1
    mSensorList := some (sensorArray .sensors (s.mSensorsStorage + 1) (fetchedSensors env s).length) }

/-- `assertStateLocked()`: connect to the service when needed, then fetch `mSensors` and build
`mSensorList`. Both `LOG_ALWAYS_FATAL_IF`s end the process. -/
def assertStateLocked (pingFlag : Bool) (env : Env) (s : SensorManager) :
    Option (Int × SensorManager) :=
  if initSensorManager pingFlag env s then
    match (waitForSensorService env.getService s.mSensorServer).2 with
    | none => none
    | some server =>
      if env.mallocSensorList then some (noError, s.initialised env server) else none
  else some (noError, s)

/-- What `assertStateLocked` can do: keep the members, or hold a server that
`waitForSensorService` left in `mSensorServer` and refetch the sensors from it. Whenever it
returns, it returns `NO_ERROR`. -/
lemma assertStateLocked_eq_some {pingFlag : Bool} {env : Env} {s s₁ : SensorManager} {e : Int} :
    assertStateLocked pingFlag env s = some (e, s₁) ↔ e = noError ∧
      (initSensorManager pingFlag env s = false ∧ s₁ = s ∨
        initSensorManager pingFlag env s = true ∧ env.mallocSensorList = true ∧
          ∃ server, (waitForSensorService env.getService s.mSensorServer).2 = some server ∧
            s₁ = s.initialised env server) := by
  unfold assertStateLocked
  cases hinit : initSensorManager pingFlag env s <;>
    rcases hw : (waitForSensorService env.getService s.mSensorServer).2 with _ | server <;>
    cases hm : env.mallocSensorList <;> simp [eq_comm]

lemma assertStateLocked_cases {pingFlag : Bool} {env : Env} {s s₁ : SensorManager} {e : Int}
    (h : assertStateLocked pingFlag env s = some (e, s₁)) :
    e = noError ∧ (s₁ = s ∨ ∃ server, s₁ = s.initialised env server) := by
  obtain ⟨he, ⟨-, rfl⟩ | ⟨-, -, server, -, rfl⟩⟩ := assertStateLocked_eq_some.mp h
  · exact ⟨he, .inl rfl⟩
  · exact ⟨he, .inr ⟨server, rfl⟩⟩

/-- On return from `assertStateLocked` the manager holds a server. -/
lemma isSome_of_assertStateLocked {pingFlag : Bool} {env : Env} {s s₁ : SensorManager} {e : Int}
    (h : assertStateLocked pingFlag env s = some (e, s₁)) : s₁.mSensorServer.isSome := by
  obtain ⟨-, ⟨hinit, rfl⟩ | ⟨-, -, server, -, rfl⟩⟩ := assertStateLocked_eq_some.mp h
  · cases hs : s₁.mSensorServer <;> simp_all [initSensorManager]
  · simp

/-- `sensorManagerDied()`, run by the death observer when the service dies. -/
@[simps] def sensorManagerDied (s : SensorManager) : SensorManager :=
  { s with
    mSensorServer := none
    mSensorList := none
    mSensors := []
    mSensorsStorage := s.mSensorsStorage + 1
    mDynamicSensorList := none
    mDynamicSensors := []
    mDynamicSensorsStorage := s.mDynamicSensorsStorage + 1 }

/-- The members before the constructor's body runs. `mDynamicSensorList` starts null. -/
def initial (opPackageName : String) (deviceId : Int) : SensorManager where
  mSensorServer := none
  mSensors := []
  mSensorsStorage := 0
  mSensorList := none
  mDynamicSensors := []
  mDynamicSensorsStorage := 0
  mDynamicSensorList := none
  mOpPackageName := opPackageName
  mDeviceId := deviceId
  mDirectConnectionHandle := 1
  mDirectConnection := ∅
  mSensorHandleToName := ∅

end SensorManager

open SensorManager in
/-- `new SensorManager(opPackageName, deviceId)`. -/
def newSensorManager (pingFlag : Bool) (env : Env) (opPackageName : String) (deviceId : Int) :
    Option SensorManager :=
  (assertStateLocked pingFlag env (initial opPackageName deviceId)).map Prod.snd

end LibSensor
