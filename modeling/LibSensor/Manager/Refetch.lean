import LibSensor.Manager.SensorList

/-!
# When `mSensors` is refetched

Only the death notification and the (re)initialising branch of `assertStateLocked` write
`mSensors`. So the raw pointers that `getSensorList` and `getDefaultSensor` hand out keep reading
their sensors across every other step, and with the ping compiled out across every run without
a death notification (`sensorPointers_step`, `sensorPointers_of_run`). While the service answers
the sensor lists the same, `mSensors` and `getDefaultDeviceSensorList` give the service's list
(`sensors_of_stable_service`).
-/

namespace LibSensor

/-- During a call the service answers the sensor lists as `L` and `R` do: `getSensorList(pkg)`
is `L pkg` and `getRuntimeSensorList(pkg, deviceId)` is `R pkg deviceId`. -/
def Env.AnswersLists (L : String → List Sensor) (R : String → Int → List Sensor) (env : Env) :
    Prop :=
  (∀ pkg, env.getSensorList pkg = L pkg) ∧
    ∀ pkg deviceId, env.getRuntimeSensorList pkg deviceId = R pkg deviceId

namespace SensorManager

variable {pingFlag : Bool} {env : Env} {s s₁ s' : SensorManager} {c : Call} {r : Reply}

/-! ### The members that only (re)initialisation and death write -/

/-- The effects after `assertStateLocked` leave the server and the sensors alone. -/
lemma sensorFields_effect {ev : Option ChannelEvent} (he : Effect env s₁ ev s') :
    s'.mSensorServer = s₁.mSensorServer ∧ s'.mSensors = s₁.mSensors ∧
      s'.mSensorsStorage = s₁.mSensorsStorage := by
  cases he <;> exact ⟨rfl, rfl, rfl⟩

/-! ### Pointers into `mSensors` -/

/-- Whether a step reallocates `mSensors`: the death notification clears it, and an operation
whose `assertStateLocked` (re)initialises refetches it. `getSensorNameByHandle` does not run
`assertStateLocked`. -/
def reallocatesSensors (pingFlag : Bool) (env : Env) (s : SensorManager) : Call → Bool
  | .sensorManagerDied => true
  | .getSensorNameByHandle _ => false
  | _ => initSensorManager pingFlag env s

/-- A step that does not reallocate `mSensors` keeps the server, the sensors and their storage;
one that does moves the sensors to new storage, which `mSensorList` then describes. -/
lemma sensorFields_step (h : step pingFlag env c s = some (r, s')) :
    if reallocatesSensors pingFlag env s c then
      s'.mSensorsStorage = s.mSensorsStorage + 1 ∧ SensorListInv s'
    else s'.mSensorServer = s.mSensorServer ∧ s'.mSensors = s.mSensors ∧
      s'.mSensorsStorage = s.mSensorsStorage := by
  cases c
  case sensorManagerDied =>
    obtain rfl : s' = s.sensorManagerDied := (congrArg Prod.snd (Option.some.inj h)).symm
    exact ⟨rfl, by simp [SensorListInv]⟩
  case getSensorNameByHandle handle =>
    obtain rfl : s' = (s.getSensorNameByHandle handle).2 :=
      (congrArg Prod.snd (Option.some.inj h)).symm
    rw [getSensorNameByHandle_snd]
    exact ⟨rfl, rfl, rfl⟩
  all_goals
    rcases step_cases h with ⟨⟨⟩, -⟩ | ⟨_, ⟨⟩, -⟩ | ⟨s₁, ha, he⟩
    obtain ⟨hsrv, hsens, hstor⟩ := sensorFields_effect he
    simp only [reallocatesSensors, hsrv, hsens, hstor]
    obtain ⟨-, ⟨hinit, rfl⟩ | ⟨hinit, -, server, -, rfl⟩⟩ := assertStateLocked_eq_some.mp ha
    · simp [hinit]
    · simpa [hinit] using (sensorListInv_initialised server).effect he

/-- What a step does to the raw pointers into `mSensors` that `getSensorList` and
`getDefaultSensor` hand out: each keeps reading its sensor, unless the step is the death
notification or an operation that (re)initialises (after a failed ping, say); such a step gives
`mSensors` new storage, which `mSensorList` then describes, and no longer holds the old one. -/
theorem sensorPointers_step (h : step pingFlag env c s = some (r, s')) (i : Nat) :
    if reallocatesSensors pingFlag env s c then
      s'.mSensorsStorage = s.mSensorsStorage + 1 ∧ SensorListInv s'
    else s'.deref ⟨.sensors, s.mSensorsStorage, i⟩ = s.mSensors[i]? := by
  have hf := sensorFields_step h
  split at hf <;> rename_i hre
  · rwa [if_pos hre]
  · simp [deref, hre, hf]

/-- A world in which the held server fails the ping and the service is registered again as
server `2`, with `sensors`. -/
def Env.failedPing (sensors : List Sensor) : Env :=
  { Env.healthy 2 sensors with pingBinder := deadObject }

theorem sensorPointers_step_failedPing :
    step false (Env.failedPing [exampleAccelerometer]) .getSensorList accelerometerManager =
      some (.sensorList (.ok (1, some (sensorArray .sensors 2 1))),
        accelerometerManager.initialised (Env.failedPing [exampleAccelerometer]) 2) ∧
    ∀ i, if reallocatesSensors false (Env.failedPing [exampleAccelerometer]) accelerometerManager
        .getSensorList then
      (accelerometerManager.initialised (Env.failedPing [exampleAccelerometer]) 2).mSensorsStorage =
        accelerometerManager.mSensorsStorage + 1 ∧
      SensorListInv (accelerometerManager.initialised (Env.failedPing [exampleAccelerometer]) 2)
    else (accelerometerManager.initialised (Env.failedPing [exampleAccelerometer]) 2).deref
        ⟨.sensors, accelerometerManager.mSensorsStorage, i⟩ = accelerometerManager.mSensors[i]? :=
  have h : step false (Env.failedPing [exampleAccelerometer]) .getSensorList accelerometerManager =
      some (.sensorList (.ok (1, some (sensorArray .sensors 2 1))),
        accelerometerManager.initialised (Env.failedPing [exampleAccelerometer]) 2) := rfl
  ⟨h, sensorPointers_step h⟩

/-- With the ping compiled out, a step of a manager that holds a server reallocates `mSensors`
only when it is the death notification. -/
lemma reallocatesSensors_true (hs : s.mSensorServer.isSome) (hc : c ≠ .sensorManagerDied) :
    reallocatesSensors true env s c = false := by
  obtain ⟨server, hserver⟩ := Option.isSome_iff_exists.mp hs
  cases c <;> first | exact absurd rfl hc | rfl |
    simp [reallocatesSensors, initSensorManager, hserver]

/-- With the ping compiled out, a manager that holds a server keeps every pointer it has handed
out into `mSensors` reading its sensor over every run without a death notification, whatever
the calls and the answers of the world. -/
theorem sensorPointers_of_run {tr : List (Call × Env × Reply)} (hs : s.mSensorServer.isSome)
    (hrun : Run true s tr s') (htr : ∀ e ∈ tr, e.1 ≠ .sensorManagerDied) (i : Nat) :
    s'.deref ⟨.sensors, s.mSensorsStorage, i⟩ = s.mSensors[i]? := by
  have hkeep : s'.mSensorServer = s.mSensorServer ∧ s'.mSensors = s.mSensors ∧
      s'.mSensorsStorage = s.mSensorsStorage := by
    induction hrun with
    | nil => exact ⟨rfl, rfl, rfl⟩
    | cons _ hstep ih =>
      obtain ⟨hsrv, hsens, hstor⟩ := ih fun e he => htr e (List.mem_cons_of_mem _ he)
      have hf := sensorFields_step hstep
      rw [reallocatesSensors_true (hsrv ▸ hs) (htr _ (List.mem_cons_self _ _)),
        if_neg Bool.false_ne_true] at hf
      exact ⟨hf.1.trans hsrv, hf.2.1.trans hsens, hf.2.2.trans hstor⟩
  simp [deref, hkeep.2.1, hkeep.2.2]

/-- With the ping compiled out, the accelerometer manager ignores a failing ping: over a
`getSensorList` and a `getDynamicSensorList` its pointers keep reading the accelerometer. -/
def failedPingTrace : List (Call × Env × Reply) :=
  [(.getDynamicSensorList, Env.failedPing [exampleAccelerometer], .sensorList (.ok (0, none))),
    (.getSensorList, Env.failedPing [exampleAccelerometer],
      .sensorList (.ok (1, some (sensorArray .sensors 1 1))))]

theorem sensorPointers_of_run_failedPing :
    accelerometerManager.mSensorServer.isSome ∧
    Run true accelerometerManager failedPingTrace
      { accelerometerManager with mDynamicSensorsStorage := 1 } ∧
    (∀ e ∈ failedPingTrace, e.1 ≠ .sensorManagerDied) ∧
    ∀ i, ({ accelerometerManager with mDynamicSensorsStorage := 1 } : SensorManager).deref
      ⟨.sensors, accelerometerManager.mSensorsStorage, i⟩ = accelerometerManager.mSensors[i]? :=
  have hs : accelerometerManager.mSensorServer.isSome := rfl
  have hrun : Run true accelerometerManager failedPingTrace
      { accelerometerManager with mDynamicSensorsStorage := 1 } := .cons (.cons (.nil _) rfl) rfl
  have htr : ∀ e ∈ failedPingTrace, e.1 ≠ .sensorManagerDied := by simp [failedPingTrace]
  ⟨hs, hrun, htr, sensorPointers_of_run hs hrun htr⟩

/-! ### The cached sensors and the service -/

/-- Whenever the manager holds a server, `mSensors` is the service's list for the manager's
device. -/
def CachedLists (L : String → List Sensor) (R : String → Int → List Sensor)
    (s : SensorManager) : Prop :=
  s.mSensorServer.isSome →
    s.mSensors = if s.mDeviceId = deviceIdDefault then L s.mOpPackageName
      else R s.mOpPackageName s.mDeviceId

variable {L : String → List Sensor} {R : String → Int → List Sensor}

lemma CachedLists.assertStateLocked {e : Int} (hi : CachedLists L R s)
    (henv : env.AnswersLists L R) (h : assertStateLocked pingFlag env s = some (e, s₁)) :
    CachedLists L R s₁ := by
  obtain ⟨-, rfl | ⟨server, rfl⟩⟩ := assertStateLocked_cases h
  · exact hi
  · intro
    simp [fetchedSensors, henv.1, henv.2]

lemma CachedLists.step (hi : CachedLists L R s) (henv : env.AnswersLists L R)
    (h : step pingFlag env c s = some (r, s')) : CachedLists L R s' := by
  rcases step_cases h with ⟨-, rfl⟩ | ⟨handle, -, rfl⟩ | ⟨s₁, ha, he⟩
  · simp [CachedLists]
  · rw [getSensorNameByHandle_snd]
    exact hi
  · have hi₁ := hi.assertStateLocked henv ha
    have hid := identity_step h
    have hid₁ := identity_of_assertStateLocked ha
    obtain ⟨hsrv, hsens, -⟩ := sensorFields_effect he
    intro hs'
    rw [hsens, hid.1, hid.2, ← hid₁.1, ← hid₁.2]
    exact hi₁ (hsrv ▸ hs')

/-- Over every run from a new manager of `pkg` on `deviceId` in which the service answers the
sensor lists as `L` and `R` do: a manager holding a server caches `L pkg` on the default device
and `R pkg deviceId` on a virtual one, and `getDefaultDeviceSensorList`, which reads that cache
only on the default device, returns `L pkg` with its size. -/
theorem sensors_of_stable_service {env₀ : Env} {pkg : String} {deviceId : Int}
    {s₀ : SensorManager} {tr : List (Call × Env × Reply)}
    (hnew : newSensorManager pingFlag env₀ pkg deviceId = some s₀) (h₀ : env₀.AnswersLists L R)
    (hrun : Run pingFlag s₀ tr s) (htr : ∀ e ∈ tr, e.2.1.AnswersLists L R) :
    (s.mSensorServer.isSome →
      s.mSensors = if deviceId = deviceIdDefault then L pkg else R pkg deviceId) ∧
    ∀ env r s', env.AnswersLists L R → getDefaultDeviceSensorList pingFlag env s = some (r, s') →
      r = .ok ((L pkg).length, L pkg) := by
  have hi : CachedLists L R s := by
    induction hrun with
    | nil =>
      obtain ⟨⟨e, s₁⟩, ha, rfl⟩ := Option.map_eq_some'.mp hnew
      exact CachedLists.assertStateLocked (fun h => by simp [initial] at h) h₀ ha
    | cons _ hstep ih =>
      exact (ih fun e he => htr e (List.mem_cons_of_mem _ he)).step
        (htr _ (List.mem_cons_self _ _)) hstep
  have hid₀ := identity_of_newSensorManager hnew
  have hid := identity_of_run hrun
  have hpkg : s.mOpPackageName = pkg := hid.1.trans hid₀.1
  have hdev : s.mDeviceId = deviceId := hid.2.trans hid₀.2
  refine ⟨fun hs => hpkg ▸ hdev ▸ hi hs, fun env r s' henv hg => ?_⟩
  obtain ⟨s₁, ha, hf⟩ := bind_assertStateLocked hg
  have hid₁ : s₁.mOpPackageName = pkg ∧ s₁.mDeviceId = deviceId :=
    ⟨(identity_of_assertStateLocked ha).1.trans hpkg, (identity_of_assertStateLocked ha).2.trans hdev⟩
  have hs₁ := hi.assertStateLocked henv ha (isSome_of_assertStateLocked ha)
  simp [noError, hid₁.1, hid₁.2] at hf
  rw [hid₁.1, hid₁.2] at hs₁
  split_ifs at hf with hd <;> obtain ⟨rfl, -⟩ := hf
  · rw [hs₁, if_pos hd]
  · rw [henv.1]

theorem sensors_of_stable_service_restart :
    newSensorManager false (Env.healthy 1 [exampleAccelerometer]) "com.example" 0 =
      some accelerometerManager ∧
    (Env.healthy 1 [exampleAccelerometer]).AnswersLists (fun _ => [exampleAccelerometer])
      (fun _ _ => [exampleAccelerometer]) ∧
    Run false accelerometerManager accelerometerRestartTrace accelerometerRestarted ∧
    (∀ e ∈ accelerometerRestartTrace, e.2.1.AnswersLists (fun _ => [exampleAccelerometer])
      (fun _ _ => [exampleAccelerometer])) ∧
    ((accelerometerRestarted.mSensorServer.isSome →
        accelerometerRestarted.mSensors = if (0 : Int) = deviceIdDefault
          then [exampleAccelerometer] else [exampleAccelerometer]) ∧
      ∀ env r s', env.AnswersLists (fun _ => [exampleAccelerometer])
          (fun _ _ => [exampleAccelerometer]) →
        getDefaultDeviceSensorList false env accelerometerRestarted = some (r, s') →
        r = .ok ([exampleAccelerometer].length, [exampleAccelerometer])) :=
  have hnew : newSensorManager false (Env.healthy 1 [exampleAccelerometer]) "com.example" 0 =
      some accelerometerManager := rfl
  have hanswers : ∀ server, (Env.healthy server [exampleAccelerometer]).AnswersLists
      (fun _ => [exampleAccelerometer]) (fun _ _ => [exampleAccelerometer]) :=
    fun _ => ⟨fun _ => rfl, fun _ _ => rfl⟩
  have htr : ∀ e ∈ accelerometerRestartTrace, e.2.1.AnswersLists
      (fun _ => [exampleAccelerometer]) (fun _ _ => [exampleAccelerometer]) := by
    simp [accelerometerRestartTrace, hanswers]
  ⟨hnew, hanswers 1, run_accelerometerRestarted, htr,
    sensors_of_stable_service hnew (hanswers 1) run_accelerometerRestarted htr⟩

end SensorManager

end LibSensor
