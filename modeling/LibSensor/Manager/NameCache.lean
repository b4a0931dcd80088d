import LibSensor.Manager.Step

/-!
# The sensor-name cache

`getSensorNameByHandle` remembers in `mSensorHandleToName` every name it has looked up in
`mSensors` and `mDynamicSensors`, and never forgets one. The remembered name agrees with a
fresh lookup as long as the lists the manager stores never give one handle two different
`"type:name"` strings (`getSensorNameByHandle_eq_uncached`). When the service restarts with another sensor
under a handle that was already looked up, the cache answers with the old name
(`getSensorNameByHandle_stale`).
-/

namespace LibSensor

/-- Every sensor of the list has the `"type:name"` that `N` gives its handle. -/
def NamedBy (N : Int → String) (sensors : List Sensor) : Prop :=
  ∀ x ∈ sensors, x.stringType ++ ":" ++ x.name = N x.handle

/-- During a call, the service names every handle as `N` does in the two lists that a manager
for `pkg` on device `deviceId` stores: the sensors of its device and its dynamic sensors. -/
def Env.NamesBy (N : Int → String) (pkg : String) (deviceId : Int) (env : Env) : Prop :=
  NamedBy N (if deviceId = deviceIdDefault then env.getSensorList pkg
    else env.getRuntimeSensorList pkg deviceId) ∧
  NamedBy N (env.getDynamicSensorList pkg)

/-- A healthy world names handles as `N` does whenever its one sensor list does. -/
lemma namesBy_healthy {N : Int → String} {sensors : List Sensor} (h : NamedBy N sensors)
    (server : Nat) (pkg : String) (deviceId : Int) :
    (Env.healthy server sensors).NamesBy N pkg deviceId :=
  ⟨by split <;> exact h, fun x hx => absurd hx (List.not_mem_nil x)⟩

namespace SensorManager

variable {N : Int → String} {pingFlag : Bool} {env : Env} {s s₁ s' : SensorManager}

/-! ### Lookups in named lists -/

lemma eq_of_findSensorNameInList {l : List Sensor} {handle : Int} {name : String}
    (hl : NamedBy N l) (h : findSensorNameInList handle l = some name) : name = N handle := by
  obtain ⟨x, hx, rfl⟩ := Option.map_eq_some'.mp h
  have hxh : x.handle = handle := by simpa using List.find?_some hx
  rw [← hxh]
  exact hl x (List.mem_of_find?_eq_some hx)

lemma findSensorNameInList_of_mem {l : List Sensor} {handle : Int} (hl : NamedBy N l)
    (hh : ∃ x ∈ l, x.handle = handle) : findSensorNameInList handle l = some (N handle) := by
  obtain ⟨x, hx, hxh⟩ := hh
  cases hf : l.find? (·.handle == handle) with
  | none => exact absurd hxh (by simpa using List.find?_eq_none.mp hf x hx)
  | some y =>
    have hy : findSensorNameInList handle l = some (y.stringType ++ ":" ++ y.name) := by
      simp [findSensorNameInList, hf]
    rw [hy, eq_of_findSensorNameInList hl hy]

/-- The lookup that `getSensorNameByHandle` makes when the handle is not remembered. -/
lemma uncached_of_namedBy {handle : Int} (hs : NamedBy N s.mSensors)
    (hd : NamedBy N s.mDynamicSensors) (hh : ∃ x ∈ s.mSensors ++ s.mDynamicSensors, x.handle = handle) :
    (findSensorNameInList handle s.mSensors <|> findSensorNameInList handle s.mDynamicSensors) =
      some (N handle) := by
  cases hf : findSensorNameInList handle s.mSensors with
  | some name => rw [eq_of_findSensorNameInList hs hf]; rfl
  | none =>
    obtain ⟨x, hx, hxh⟩ := hh
    rcases List.mem_append.mp hx with hx | hx
    · exact absurd (findSensorNameInList_of_mem hs ⟨x, hx, hxh⟩) (by simp [hf])
    · exact findSensorNameInList_of_mem hd ⟨x, hx, hxh⟩

/-! ### The invariant -/

/-- Under a naming `N` of the handles: the sensor lists are named by `N`, and so is every
remembered name. -/
structure NameInv (N : Int → String) (s : SensorManager) : Prop where
  sensors : NamedBy N s.mSensors
  dynamicSensors : NamedBy N s.mDynamicSensors
  cache : ∀ handle name, s.mSensorHandleToName.lookup handle = some name → name = N handle

lemma NameInv.getSensorNameByHandle (hi : NameInv N s) (handle : Int) :
    NameInv N (s.getSensorNameByHandle handle).2 := by
  unfold SensorManager.getSensorNameByHandle
  split
  · exact hi
  · split
    · exact hi
    · rename_i name hname
      refine ⟨hi.sensors, hi.dynamicSensors, fun h' name' hl => ?_⟩
      by_cases hh : h' = handle
      · subst hh
        rw [AList.lookup_insert, Option.some.injEq] at hl
        subst hl
        rcases (Option.orElse_eq_some _ _ _).mp hname with h₁ | ⟨-, h₂⟩
        exacts [eq_of_findSensorNameInList hi.sensors h₁,
          eq_of_findSensorNameInList hi.dynamicSensors h₂]
      · rw [AList.lookup_insert_ne hh] at hl
        exact hi.cache h' name' hl

lemma NameInv.assertStateLocked (hi : NameInv N s)
    (henv : env.NamesBy N s.mOpPackageName s.mDeviceId) {e : Int}
    (h : assertStateLocked pingFlag env s = some (e, s₁)) : NameInv N s₁ := by
  obtain ⟨-, rfl | ⟨server, rfl⟩⟩ := assertStateLocked_cases h
  exacts [hi, ⟨henv.1, hi.dynamicSensors, hi.cache⟩]

lemma NameInv.effect (hi : NameInv N s₁) (henv : env.NamesBy N s₁.mOpPackageName s₁.mDeviceId)
    {ev : Option ChannelEvent} (he : Effect env s₁ ev s') : NameInv N s' := by
  cases he with
  | refreshDynamic => exact ⟨hi.sensors, henv.2, hi.cache⟩
  | _ => exact ⟨hi.sensors, hi.dynamicSensors, hi.cache⟩

lemma NameInv.step {c : Call} {r : Reply} (hi : NameInv N s)
    (henv : env.NamesBy N s.mOpPackageName s.mDeviceId)
    (h : step pingFlag env c s = some (r, s')) : NameInv N s' := by
  rcases step_cases h with ⟨-, rfl⟩ | ⟨handle, -, rfl⟩ | ⟨s₁, ha, he⟩
  · exact ⟨by simp [NamedBy], by simp [NamedBy], hi.cache⟩
  · exact hi.getSensorNameByHandle handle
  · obtain ⟨hpkg, hdev⟩ := identity_of_assertStateLocked ha
    exact (hi.assertStateLocked henv ha).effect (hpkg ▸ hdev ▸ henv) he

lemma nameInv_of_run {env₀ : Env} {pkg : String} {deviceId : Int} {s₀ : SensorManager}
    {tr : List (Call × Env × Reply)}
    (hnew : newSensorManager pingFlag env₀ pkg deviceId = some s₀)
    (h₀ : env₀.NamesBy N pkg deviceId) (hrun : Run pingFlag s₀ tr s)
    (htr : ∀ e ∈ tr, e.2.1.NamesBy N pkg deviceId) : NameInv N s := by
  have hid₀ := identity_of_newSensorManager hnew
  induction hrun with
  | nil =>
    obtain ⟨⟨e, s₁⟩, ha, rfl⟩ := Option.map_eq_some'.mp hnew
    refine NameInv.assertStateLocked ⟨?_, ?_, fun h name hl => ?_⟩ h₀ ha
    · simp [NamedBy, initial]
    · simp [NamedBy, initial]
    · simp [initial] at hl
  | cons hrun hstep ih =>
    have henv := htr _ (List.mem_cons_self _ _)
    rw [← hid₀.1, ← hid₀.2, ← (identity_of_run hrun).1, ← (identity_of_run hrun).2] at henv
    exact (ih fun e he => htr e (List.mem_cons_of_mem _ he)).step henv hstep

/-! ### The cache answers as a fresh lookup -/

/-- Over every run from a new manager in which the lists the manager stores never give a handle
two different `"type:name"` strings, `getSensorNameByHandle(h)`, for a handle `h` of a sensor of
`mSensors` or `mDynamicSensors`, answers as the lookup in `mSensors` and then
`mDynamicSensors`. -/
theorem getSensorNameByHandle_eq_uncached {env₀ : Env} {pkg : String} {deviceId : Int}
    {s₀ : SensorManager} {tr : List (Call × Env × Reply)}
    (hnew : newSensorManager pingFlag env₀ pkg deviceId = some s₀)
    (h₀ : env₀.NamesBy N pkg deviceId) (hrun : Run pingFlag s₀ tr s)
    (htr : ∀ e ∈ tr, e.2.1.NamesBy N pkg deviceId) {handle : Int}
    (hh : ∃ x ∈ s.mSensors ++ s.mDynamicSensors, x.handle = handle) :
    (s.getSensorNameByHandle handle).1 =
      (findSensorNameInList handle s.mSensors <|> findSensorNameInList handle s.mDynamicSensors) := by
  have hi := nameInv_of_run hnew h₀ hrun htr
  have hu := uncached_of_namedBy hi.sensors hi.dynamicSensors hh
  rw [hu]
  unfold getSensorNameByHandle
  split
  · rename_i name hname
    rw [hi.cache _ _ hname]
  · rw [hu]

/-- The name every handle has in the accelerometer worlds. -/
def accelerometerName : Int → String := fun _ => "android.sensor.accelerometer:Accelerometer"

theorem getSensorNameByHandle_eq_uncached_restarted :
    newSensorManager false (Env.healthy 1 [exampleAccelerometer]) "com.example" 0 =
      some accelerometerManager ∧
    accelerometerRestarted.mSensorHandleToName.lookup 1 = some (accelerometerName 1) ∧
    (accelerometerRestarted.getSensorNameByHandle 1).1 =
      (findSensorNameInList 1 accelerometerRestarted.mSensors <|>
        findSensorNameInList 1 accelerometerRestarted.mDynamicSensors) :=
  have hnew : newSensorManager false (Env.healthy 1 [exampleAccelerometer]) "com.example" 0 =
      some accelerometerManager := rfl
  have hacc : NamedBy accelerometerName [exampleAccelerometer] := fun x hx => by
    rw [List.mem_singleton.mp hx]; rfl
  have htr : ∀ e ∈ accelerometerRestartTrace, e.2.1.NamesBy accelerometerName "com.example" 0 := by
    simp [accelerometerRestartTrace, namesBy_healthy hacc]
  ⟨hnew, rfl, getSensorNameByHandle_eq_uncached hnew (namesBy_healthy hacc _ _ _)
    run_accelerometerRestarted htr ⟨exampleAccelerometer, List.mem_append_left _ (List.mem_singleton_self _), rfl⟩⟩

/-! ### A stale name -/

/-- The service dies, and restarts with a gyroscope where the accelerometer was. The cache
keeps naming handle `1` after the accelerometer; a fresh lookup names the gyroscope. -/
theorem getSensorNameByHandle_stale :
    ∃ s, Run false accelerometerManager
        [(.getSensorList, Env.healthy 2 [exampleGyroscope],
            .sensorList (.ok (1, some (sensorArray .sensors 3 1)))),
          (.sensorManagerDied, Env.healthy 2 [exampleGyroscope], .void),
          (.getSensorNameByHandle 1, Env.healthy 1 [exampleAccelerometer],
            .name (some "android.sensor.accelerometer:Accelerometer"))] s ∧
      exampleGyroscope ∈ s.mSensors ∧
      (s.getSensorNameByHandle 1).1 = some "android.sensor.accelerometer:Accelerometer" ∧
      (findSensorNameInList 1 s.mSensors <|> findSensorNameInList 1 s.mDynamicSensors) =
        some "android.sensor.gyroscope:Gyroscope" :=
  ⟨_, .cons (.cons (.cons (.nil _) rfl) rfl) rfl, List.mem_singleton_self _, rfl, rfl⟩

/-! ### Every answer is the first answer -/

/-- The name that a call answered for `handle`: a `getSensorNameByHandle(handle)` that found
one. -/
def nameAnswer (handle : Int) : Call × Reply → Option String
  | (.getSensorNameByHandle h, .name (some name)) => if h = handle then some name else none
  | _ => none

/-- The first name that `getSensorNameByHandle(handle)` answered along a trace, latest first. -/
def firstName (handle : Int) : List (Call × Env × Reply) → Option String
  | [] => none
  | (c, _, r) :: tr => (firstName handle tr).or (nameAnswer handle (c, r))

/-- Only `getSensorNameByHandle` writes the cache. -/
lemma mSensorHandleToName_step {c : Call} {r : Reply} (h : step pingFlag env c s = some (r, s'))
    (hc : ∀ handle, c ≠ .getSensorNameByHandle handle) :
    s'.mSensorHandleToName = s.mSensorHandleToName := by
  rcases step_cases h with ⟨-, rfl⟩ | ⟨handle, rfl, -⟩ | ⟨s₁, ha, he⟩
  · rfl
  · exact absurd rfl (hc handle)
  · generalize channelEvent s₁.mOpPackageName (c, env, r) = ev at he
    obtain ⟨-, rfl | ⟨server, rfl⟩⟩ := assertStateLocked_cases ha <;> cases he <;> rfl

/-- A step keeps the cache equal to the first answers of the trace. -/
lemma lookup_cache_step {c : Call} {r : Reply} {tr : List (Call × Env × Reply)}
    (hi : ∀ handle, s.mSensorHandleToName.lookup handle = firstName handle tr)
    (h : step pingFlag env c s = some (r, s')) (handle : Int) :
    s'.mSensorHandleToName.lookup handle = firstName handle ((c, env, r) :: tr) := by
  cases c
  case getSensorNameByHandle h' =>
    simp only [step, Option.some.injEq] at h
    obtain ⟨rfl, rfl⟩ := Prod.mk.inj h
    rw [firstName, ← hi]
    by_cases hh : h' = handle
    · subst hh
      split <;> [skip; split] <;> simp_all [nameAnswer]
    · split <;> [skip; split] <;> simp [nameAnswer, hh, AList.lookup_insert_ne (Ne.symm hh)]
  all_goals
    rw [mSensorHandleToName_step h (fun _ => nofun), hi handle, firstName]
    exact Option.or_none.symm

/-- Over every run from a new manager, `mSensorHandleToName` holds, for each handle, the first
name that `getSensorNameByHandle` answered for it, and from then on every call for the handle
answers that name and changes nothing, whatever the service later says: no operation, service
death or re-initialisation included, ever forgets or rewrites a name. -/
theorem getSensorNameByHandle_first_answer {env₀ : Env} {pkg : String} {deviceId : Int}
    {s₀ : SensorManager} {tr : List (Call × Env × Reply)}
    (hnew : newSensorManager pingFlag env₀ pkg deviceId = some s₀) (hrun : Run pingFlag s₀ tr s)
    (handle : Int) :
    s.mSensorHandleToName.lookup handle = firstName handle tr ∧
    ∀ name, firstName handle tr = some name → s.getSensorNameByHandle handle = (some name, s) := by
  have hi : ∀ handle, s.mSensorHandleToName.lookup handle = firstName handle tr := by
    induction hrun with
    | nil =>
      obtain ⟨⟨e, s₁⟩, ha, rfl⟩ := Option.map_eq_some'.mp hnew
      obtain ⟨-, rfl | ⟨server, rfl⟩⟩ := assertStateLocked_cases ha <;>
        exact fun _ => AList.lookup_empty _
    | cons _ hstep ih => exact lookup_cache_step ih hstep
  refine ⟨hi handle, fun name hname => ?_⟩
  simp [getSensorNameByHandle, hi handle, hname]

/-- The three steps of `getSensorNameByHandle_stale`, latest first. -/
def restartTrace : List (Call × Env × Reply) :=
  [(.getSensorList, Env.healthy 2 [exampleGyroscope],
      .sensorList (.ok (1, some (sensorArray .sensors 3 1)))),
    (.sensorManagerDied, Env.healthy 2 [exampleGyroscope], .void),
    (.getSensorNameByHandle 1, Env.healthy 1 [exampleAccelerometer],
      .name (some "android.sensor.accelerometer:Accelerometer"))]

/-- The accelerometer manager once its name for handle `1` is cached, the service has died and
it has been re-initialised from a service with a gyroscope under handle `1`. -/
def restartedManager : SensorManager :=
  (accelerometerManager.getSensorNameByHandle 1).2.sensorManagerDied.initialised
    (Env.healthy 2 [exampleGyroscope]) 2

theorem getSensorNameByHandle_first_answer_restart :
    newSensorManager false (Env.healthy 1 [exampleAccelerometer]) "com.example" 0 =
      some accelerometerManager ∧
    Run false accelerometerManager restartTrace restartedManager ∧
    restartedManager.mSensorHandleToName.lookup 1 = firstName 1 restartTrace ∧
    ∀ name, firstName 1 restartTrace = some name →
      restartedManager.getSensorNameByHandle 1 = (some name, restartedManager) :=
  have hnew : newSensorManager false (Env.healthy 1 [exampleAccelerometer]) "com.example" 0 =
      some accelerometerManager := rfl
  have hrun : Run false accelerometerManager restartTrace restartedManager :=
    .cons (.cons (.cons (.nil _) rfl) rfl) rfl
  ⟨hnew, hrun, getSensorNameByHandle_first_answer hnew hrun 1⟩

end SensorManager

end LibSensor
