import LibSensor.Manager.Ops

/-!
# `SensorManager` as a state machine

A call of a public operation, or the death notification of the service, is one step. This
file says once what a step can do to the members (`step_cases`): the death notification
clears the service state, `getSensorNameByHandle` may remember a name, and every other
operation runs `assertStateLocked` and then leaves the members alone, refetches the dynamic
sensors, or changes the direct-channel table. The invariants of the later files are derived
from that lemma, over the runs of `Reachable`.
-/

namespace LibSensor

namespace SensorManager

/-- The public operations of `SensorManager`, with their arguments, and the death of the
sensor service. -/
inductive Call
  | getSensorList
  | getDefaultDeviceSensorList
  | getDynamicSensorListCopy
  | getRuntimeSensorList (deviceId : Int)
  | getDynamicSensorList
  | getDefaultSensor (type : Int)
  | getSensorNameByHandle (handle : Int)
  | createEventQueue (packageName : String) (mode : Int) (attributionTag : String)
  | isDataInjectionEnabled
  | isReplayDataInjectionEnabled
  | isHalBypassReplayDataInjectionEnabled
  | setOperationParameter (handle type : Int) (ints : List Int)
  | createDirectChannel (deviceId : Int) (size : Nat) (channelType : Int)
  | destroyDirectChannel (channelNativeHandle : Int)
  | configureDirectChannel (channelNativeHandle sensorHandle rateLevel : Int)
  | sensorManagerDied

/-- What a call returns to its caller. -/
inductive Reply
  | sensorList (r : Except Int (Int × Option (List SensorPtr)))
  | sensorVector (r : Except Int (Int × List Sensor))
  | sensor (p : Option SensorPtr)
  | name (n : Option String)
  | eventQueue (q : Option Nat)
  | bool (b : Bool)
  | int (r : Int)
  | void

/-- One step: the call `c`, with the answers of `env`. -/
def step (pingFlag : Bool) (env : Env) : Call → SensorManager → Option (Reply × SensorManager)
  | .getSensorList, s => (getSensorList pingFlag env s).map (Prod.map .sensorList id)
  | .getDefaultDeviceSensorList, s =>
    (getDefaultDeviceSensorList pingFlag env s).map (Prod.map .sensorVector id)
  | .getDynamicSensorListCopy, s =>
    (getDynamicSensorListCopy pingFlag env s).map (Prod.map .sensorVector id)
  | .getRuntimeSensorList deviceId, s =>
    (getRuntimeSensorList deviceId pingFlag env s).map (Prod.map .sensorVector id)
  | .getDynamicSensorList, s => (getDynamicSensorList pingFlag env s).map (Prod.map .sensorList id)
  | .getDefaultSensor type, s => (getDefaultSensor pingFlag env type s).map (Prod.map .sensor id)
  | .getSensorNameByHandle handle, s => some ((getSensorNameByHandle handle s).map .name id)
  | .createEventQueue packageName mode attributionTag, s =>
    (createEventQueue pingFlag env packageName mode attributionTag s).map
      (Prod.map .eventQueue id)
  | .isDataInjectionEnabled, s => (isDataInjectionEnabled pingFlag env s).map (Prod.map .bool id)
  | .isReplayDataInjectionEnabled, s =>
    (isReplayDataInjectionEnabled pingFlag env s).map (Prod.map .bool id)
  | .isHalBypassReplayDataInjectionEnabled, s =>
    (isHalBypassReplayDataInjectionEnabled pingFlag env s).map (Prod.map .bool id)
  | .setOperationParameter handle type ints, s =>
    (setOperationParameter pingFlag env handle type ints s).map (Prod.map .int id)
  | .createDirectChannel deviceId size channelType, s =>
    (createDirectChannel pingFlag env deviceId size channelType s).map (Prod.map .int id)
  | .destroyDirectChannel channelNativeHandle, s =>
    (destroyDirectChannel pingFlag env channelNativeHandle s).map (.void, ·)
  | .configureDirectChannel channelNativeHandle sensorHandle rateLevel, s =>
    (configureDirectChannel pingFlag env channelNativeHandle sensorHandle rateLevel s).map
      (Prod.map .int id)
  | .sensorManagerDied, s => some (.void, s.sensorManagerDied)

/-- A change to the direct-channel table. -/
inductive ChannelEvent
  | created (handle : Int) (conn : Nat)
  | destroyed (handle : Int)

/-- The change to the direct-channel table that a call makes, read from the call, the answers of
the world and the reply, for a manager of package `pkg`: a `createDirectChannel` for a valid
channel type that gets a connection from the service creates a channel under the handle it
returns, and a `destroyDirectChannel` destroys its handle. -/
def channelEvent (pkg : String) : Call × Env × Reply → Option ChannelEvent
  | (.createDirectChannel deviceId size channelType, env, .int handle) =>
    if channelType = sensorDirectMemTypeAshmem ∨ channelType = sensorDirectMemTypeGralloc then
      (env.createSensorDirectConnection pkg deviceId (size % 4294967296) channelType).map
        (.created handle)
    else none
  | (.destroyDirectChannel handle, _, _) => some (.destroyed handle)
  | _ => none

/-- What an operation does to the members once `assertStateLocked` has returned, with the
change it makes to the direct-channel table. -/
inductive Effect (env : Env) (s : SensorManager) : Option ChannelEvent → SensorManager → Prop
  | keep : Effect env s none s
  | refreshDynamic (list : Option (List SensorPtr))
      (hlist : list = none ∨ list = some (sensorArray .dynamicSensors
        (s.mDynamicSensorsStorage + 1) (env.getDynamicSensorList s.mOpPackageName).length)) :
      Effect env s none { s with
        mDynamicSensors := env.getDynamicSensorList s.mOpPackageName
        mDynamicSensorsStorage := s.mDynamicSensorsStorage + 1
        mDynamicSensorList := list }
  | created (conn : Nat) (hmax : s.mDirectConnectionHandle ≠ intMax) :
      Effect env s (some (.created s.mDirectConnectionHandle conn)) { s with
        mDirectConnectionHandle := s.mDirectConnectionHandle + 1
        mDirectConnection := s.mDirectConnection.insert s.mDirectConnectionHandle conn }
  | destroyed (handle : Int) :
      Effect env s (some (.destroyed handle))
        { s with mDirectConnection := s.mDirectConnection.erase handle }

variable {pingFlag : Bool} {env : Env} {s s₁ s' : SensorManager}

/-- An operation that starts with `assertStateLocked` goes on from the `NO_ERROR` it returns. -/
lemma bind_assertStateLocked {β : Type} {f : Int × SensorManager → Option β} {y : β}
    (h : (assertStateLocked pingFlag env s >>= f) = some y) :
    ∃ s₁, assertStateLocked pingFlag env s = some (noError, s₁) ∧ f (noError, s₁) = some y := by
  obtain ⟨⟨e, s₁⟩, ha, hf⟩ := Option.bind_eq_some.mp h
  obtain rfl := (assertStateLocked_cases ha).1
  exact ⟨s₁, ha, hf⟩

/-- What a step can do to the members: the death notification clears the service state,
`getSensorNameByHandle` may remember a name, and every other operation gets `NO_ERROR` from
`assertStateLocked` and then has one of the effects of `Effect`. -/
theorem step_cases {c : Call} {r : Reply} (h : step pingFlag env c s = some (r, s')) :
    (c = .sensorManagerDied ∧ s' = s.sensorManagerDied) ∨
    (∃ handle, c = .getSensorNameByHandle handle ∧ s' = (s.getSensorNameByHandle handle).2) ∨
    ∃ s₁, assertStateLocked pingFlag env s = some (noError, s₁) ∧
      Effect env s₁ (channelEvent s₁.mOpPackageName (c, env, r)) s' := by
  cases c <;> simp only [step, Option.map_eq_some', Prod.exists, Prod.map, id, Prod.mk.injEq,
    Option.some.injEq] at h
  case sensorManagerDied => exact .inl ⟨rfl, h.2.symm⟩
  case getSensorNameByHandle handle => exact .inr (.inl ⟨handle, rfl, h.2.symm⟩)
  case destroyDirectChannel handle =>
    obtain ⟨s'', hop, rfl, rfl⟩ := h
    obtain ⟨s₁, ha, hf⟩ := bind_assertStateLocked hop
    refine .inr (.inr ⟨s₁, ha, ?_⟩)
    simp only [destroyDirectChannel, if_true, Option.pure_def, Option.some.injEq] at hf
    exact hf ▸ .destroyed handle
  all_goals
    obtain ⟨r', s'', hop, rfl, rfl⟩ := h
    obtain ⟨s₁, ha, hf⟩ := bind_assertStateLocked hop
    refine .inr (.inr ⟨s₁, ha, ?_⟩)
  case createDirectChannel deviceId size channelType =>
    simp [createDirectChannel, noError] at hf
    split_ifs at hf with hty hmax
    · obtain ⟨rfl, rfl⟩ := Prod.mk.inj (Option.some.inj hf)
      have : ¬(channelType = sensorDirectMemTypeAshmem ∨
          channelType = sensorDirectMemTypeGralloc) := by tauto
      simpa [channelEvent, this] using Effect.keep
    all_goals
      have hvalid : channelType = sensorDirectMemTypeAshmem ∨
          channelType = sensorDirectMemTypeGralloc := by tauto
      split at hf <;> rename_i hconn
      · obtain ⟨rfl, rfl⟩ := Prod.mk.inj (Option.some.inj hf)
        simpa [channelEvent, hvalid, hconn] using Effect.keep
    · cases hf
    · obtain ⟨rfl, rfl⟩ := Prod.mk.inj (Option.some.inj hf)
      simpa [channelEvent, hvalid, hconn] using Effect.created _ hmax
  case getDynamicSensorList =>
    simp [getDynamicSensorList, noError] at hf
    split_ifs at hf <;> obtain ⟨-, rfl⟩ := hf
    exacts [.refreshDynamic _ (.inr rfl), .refreshDynamic _ (.inl rfl),
      .refreshDynamic _ (.inl rfl)]
  case configureDirectChannel =>
    simp [configureDirectChannel, noError] at hf
    split at hf <;> exact (Prod.mk.inj (Option.some.inj hf)).2 ▸ .keep
  case getDefaultSensor =>
    simp [getDefaultSensor, noError, Option.bind_eq_some] at hf
    obtain ⟨_, -, -, rfl⟩ := hf
    exact .keep
  all_goals
    simp [getSensorList, getDefaultDeviceSensorList, getDynamicSensorListCopy,
      getRuntimeSensorList, sensorVectorFromServer, createEventQueue, isDataInjectionEnabled,
      isReplayDataInjectionEnabled, isHalBypassReplayDataInjectionEnabled, serverFlag,
      setOperationParameter, noError] at hf
    exact hf.2 ▸ .keep

/-- No step changes the package or the device the manager was built for. -/
lemma identity_step {c : Call} {r : Reply} (h : step pingFlag env c s = some (r, s')) :
    s'.mOpPackageName = s.mOpPackageName ∧ s'.mDeviceId = s.mDeviceId := by
  rcases step_cases h with ⟨-, rfl⟩ | ⟨handle, -, rfl⟩ | ⟨s₁, ha, he⟩
  · exact ⟨rfl, rfl⟩
  · rw [getSensorNameByHandle_snd]
    exact ⟨rfl, rfl⟩
  · generalize channelEvent s₁.mOpPackageName (c, env, r) = ev at he
    obtain ⟨-, rfl | ⟨server, rfl⟩⟩ := assertStateLocked_cases ha <;>
      cases he <;> exact ⟨rfl, rfl⟩

/-- The members a manager can have: those its constructor leaves, and those a step leads to. -/
inductive Reachable (pingFlag : Bool) : SensorManager → Prop
  | new {env : Env} {opPackageName : String} {deviceId : Int} {s : SensorManager} :
      newSensorManager pingFlag env opPackageName deviceId = some s → Reachable pingFlag s
  | step {env : Env} {c : Call} {r : Reply} {s s' : SensorManager} :
      Reachable pingFlag s → step pingFlag env c s = some (r, s') → Reachable pingFlag s'

/-- `Run pingFlag s tr s'`: the steps of `tr`, latest first, each a call with the answers of
the world and the reply it got, lead from `s` to `s'`. -/
inductive Run (pingFlag : Bool) : SensorManager → List (Call × Env × Reply) → SensorManager → Prop
  | nil (s : SensorManager) : Run pingFlag s [] s
  | cons {s s₁ s' : SensorManager} {tr : List (Call × Env × Reply)} {c : Call} {env : Env}
      {r : Reply} :
      Run pingFlag s tr s₁ → step pingFlag env c s₁ = some (r, s') →
        Run pingFlag s ((c, env, r) :: tr) s'

lemma Run.reachable {tr : List (Call × Env × Reply)} (h : Run pingFlag s tr s')
    (hs : Reachable pingFlag s) : Reachable pingFlag s' := by
  induction h with
  | nil => exact hs
  | cons _ hstep ih => exact .step ih hstep

lemma identity_of_assertStateLocked {e : Int}
    (h : assertStateLocked pingFlag env s = some (e, s₁)) :
    s₁.mOpPackageName = s.mOpPackageName ∧ s₁.mDeviceId = s.mDeviceId := by
  obtain ⟨-, rfl | ⟨server, rfl⟩⟩ := assertStateLocked_cases h <;> exact ⟨rfl, rfl⟩

/-- The constructor keeps the package and the device it is given. -/
lemma identity_of_newSensorManager {opPackageName : String} {deviceId : Int}
    (h : newSensorManager pingFlag env opPackageName deviceId = some s) :
    s.mOpPackageName = opPackageName ∧ s.mDeviceId = deviceId := by
  obtain ⟨⟨e, s₁⟩, ha, rfl⟩ := Option.map_eq_some'.mp h
  exact identity_of_assertStateLocked ha

lemma identity_of_run {tr : List (Call × Env × Reply)} (hrun : Run pingFlag s tr s') :
    s'.mOpPackageName = s.mOpPackageName ∧ s'.mDeviceId = s.mDeviceId := by
  induction hrun with
  | nil => exact ⟨rfl, rfl⟩
  | cons _ hstep ih =>
    exact ⟨(identity_step hstep).1.trans ih.1, (identity_step hstep).2.trans ih.2⟩

/-! ### Example managers -/

/-- The manager that the constructor builds for `com.example` in a healthy world without
sensors. -/
def newExampleManager : SensorManager :=
  (initial "com.example" 0).initialised (Env.healthy 1 []) 1

lemma reachable_newExampleManager : Reachable false newExampleManager :=
  @Reachable.new false (Env.healthy 1 []) "com.example" 0 _ rfl

/-- An accelerometer under handle `1`. -/
def exampleAccelerometer : Sensor := ⟨1, 1, "Accelerometer", "android.sensor.accelerometer", false⟩

/-- A gyroscope under the same handle `1`. -/
def exampleGyroscope : Sensor := ⟨1, 4, "Gyroscope", "android.sensor.gyroscope", false⟩

/-- The manager that the constructor builds for `com.example` in a world with one
accelerometer. -/
def accelerometerManager : SensorManager :=
  (initial "com.example" 0).initialised (Env.healthy 1 [exampleAccelerometer]) 1

/-- The accelerometer's name is looked up, the service dies, and it comes back as server `2`
with the same accelerometer; latest first. -/
def accelerometerRestartTrace : List (Call × Env × Reply) :=
  [(.getSensorList, Env.healthy 2 [exampleAccelerometer],
      .sensorList (.ok (1, some (sensorArray .sensors 3 1)))),
    (.sensorManagerDied, Env.healthy 2 [exampleAccelerometer], .void),
    (.getSensorNameByHandle 1, Env.healthy 1 [exampleAccelerometer],
      .name (some "android.sensor.accelerometer:Accelerometer"))]

/-- Where `accelerometerRestartTrace` leads the accelerometer manager. -/
def accelerometerRestarted : SensorManager :=
  (accelerometerManager.getSensorNameByHandle 1).2.sensorManagerDied.initialised
    (Env.healthy 2 [exampleAccelerometer]) 2

lemma run_accelerometerRestarted :
    Run false accelerometerManager accelerometerRestartTrace accelerometerRestarted :=
  .cons (.cons (.cons (.nil _) rfl) rfl) rfl

lemma reachable_accelerometerRestarted : Reachable false accelerometerRestarted :=
  run_accelerometerRestarted.reachable
    (@Reachable.new false (Env.healthy 1 [exampleAccelerometer]) "com.example" 0 _ rfl)

end SensorManager

end LibSensor
